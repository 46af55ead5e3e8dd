import Mathlib.Algebra.Group.Nat.Defs
import ScrapeFleet.Discovery
import ScrapeFleet.Proofs.Replica.States
import ScrapeFleet.Proofs.Text.Utf8

/-!
# Targets with one fingerprint

The bytes that identify a target can be taken apart again: the marks that end names and
values are no bytes of a text.  And everything else that discovery puts into a target
follows from what is in those bytes, since the final labels are made of the discovered
ones.  So two targets with one fingerprint are the same, unless their digests collide.
-/

namespace ScrapeFleet

namespace Fingerprint

/-! ## The identifying bytes -/

theorem append_cons_inj {α : Type} {mark : α} {a a' b b' : List α} (ha : mark ∉ a) (ha' : mark ∉ a')
    (h : a ++ mark :: b = a' ++ mark :: b') : a = a' ∧ b = b' := by
  induction a generalizing a' with
  | nil =>
      cases a' with
      | nil => exact ⟨rfl, (List.cons.inj h).2⟩
      | cons x xs => exact absurd (List.cons.inj h).1 (fun hx => ha' (hx ▸ List.mem_cons_self))
  | cons x xs ih =>
      cases a' with
      | nil => exact absurd (List.cons.inj h).1.symm (fun hx => ha (hx ▸ List.mem_cons_self))
      | cons y ys =>
          obtain ⟨rfl, hrest⟩ := List.cons.inj h
          obtain ⟨rfl, hb⟩ := ih (fun hx => ha (List.mem_cons_of_mem _ hx))
            (fun hx => ha' (List.mem_cons_of_mem _ hx)) hrest
          exact ⟨rfl, hb⟩

theorem nameEnd_not_mem (s : String) : nameEnd ∉ s.toUTF8.toList := fun h =>
  absurd (Utf8.byte_lt_of_mem_toUTF8 h) (by decide)

theorem valueEnd_not_mem (s : String) : valueEnd ∉ s.toUTF8.toList := fun h =>
  absurd (Utf8.byte_lt_of_mem_toUTF8 h) (by decide)

def labelBytes (e : String × String) : List UInt8 :=
  e.1.toUTF8.toList ++ nameEnd :: e.2.toUTF8.toList ++ [valueEnd]

theorem labelBytes_append (e : String × String) (rest : List UInt8) :
    labelBytes e ++ rest =
      e.1.toUTF8.toList ++ nameEnd :: (e.2.toUTF8.toList ++ valueEnd :: rest) := by
  simp [labelBytes]

theorem labels_inj {l l' : List (String × String)} {url url' : String}
    (h : l.flatMap labelBytes ++ url.toUTF8.toList = l'.flatMap labelBytes ++ url'.toUTF8.toList) :
    l = l' ∧ url = url' := by
  -- Where one list has a label and the other has none, a mark would be in a URL.
  have hmark : ∀ (e : String × String) (rest : List UInt8) (s : String),
      labelBytes e ++ rest ≠ s.toUTF8.toList := by
    intro e rest s heq
    refine nameEnd_not_mem s ?_
    rw [← heq, labelBytes_append]
    simp
  induction l generalizing l' with
  | nil =>
      cases l' with
      | nil => exact ⟨rfl, Utf8.toUTF8_toList_inj.1 h⟩
      | cons e' rest' =>
          rw [List.flatMap_cons, List.append_assoc] at h
          exact absurd h.symm (hmark e' _ url)
  | cons e rest ih =>
      cases l' with
      | nil =>
          rw [List.flatMap_cons, List.append_assoc] at h
          exact absurd h (hmark e _ url')
      | cons e' rest' =>
          rw [List.flatMap_cons, List.flatMap_cons, List.append_assoc, List.append_assoc,
            labelBytes_append, labelBytes_append] at h
          obtain ⟨hname, h⟩ := append_cons_inj (nameEnd_not_mem _) (nameEnd_not_mem _) h
          obtain ⟨hvalue, h⟩ := append_cons_inj (valueEnd_not_mem _) (valueEnd_not_mem _) h
          obtain ⟨hrest, hurl⟩ := ih h
          have he : e = e' :=
            Prod.ext (Utf8.toUTF8_toList_inj.1 hname) (Utf8.toUTF8_toList_inj.1 hvalue)
          exact ⟨by rw [he, hrest], hurl⟩

theorem preimage_eq_iff {d d' : Labels} {url url' : String} :
    preimage d url = preimage d' url' ↔ d = d' ∧ url = url' := by
  constructor
  · intro h
    obtain ⟨hentries, hurl⟩ := labels_inj h
    obtain ⟨l, hl⟩ := d
    obtain ⟨l', hl'⟩ := d'
    cases hentries
    exact ⟨rfl, hurl⟩
  · rintro ⟨rfl, rfl⟩
    rfl

/-! ## Digests -/

def message (discovered : Labels) (url : String) : ByteArray := ⟨(preimage discovered url).toArray⟩

/-- The two messages are one, unless the first eight bytes of their digests collide. -/
def Distinguishes (m m' : ByteArray) : Prop :=
  (Sha256.digest m).take 8 = (Sha256.digest m').take 8 → m = m'

theorem length_bigEndian (n x : Nat) : (Sha256.bigEndian n x).length = n := by
  induction n generalizing x with
  | zero => rfl
  | succ n ih => simp [Sha256.bigEndian, ih]

theorem length_digest (m : ByteArray) : (Sha256.digest m).length = 32 := by
  simp [Sha256.digest, Sha256.State.bytes, length_bigEndian]

def readBytes (acc : Nat) (bytes : List UInt8) : Nat :=
  bytes.foldl (fun acc b => acc * 256 + b.toNat) acc

theorem readBytes_inj {l l' : List UInt8} {acc acc' : Nat} (hlength : l.length = l'.length)
    (h : readBytes acc l = readBytes acc' l') : acc = acc' ∧ l = l' := by
  induction l generalizing l' acc acc' with
  | nil =>
      cases l' with
      | nil => exact ⟨h, rfl⟩
      | cons b' rest' => cases hlength
  | cons b rest ih =>
      cases l' with
      | nil => cases hlength
      | cons b' rest' =>
          obtain ⟨hacc, rfl⟩ := ih (Nat.succ.inj hlength) h
          simp only at hacc
          have hb := b.toNat_lt
          have hb' := b'.toNat_lt
          have hbyte : b = b' := UInt8.toNat_inj.1 (by omega)
          exact ⟨by omega, by rw [hbyte]⟩

theorem readBytes_lt (l : List UInt8) (acc : Nat) :
    readBytes acc l < (acc + 1) * 256 ^ l.length := by
  induction l generalizing acc with
  | nil => simp [readBytes]
  | cons b rest ih =>
      have hb := b.toNat_lt
      calc readBytes acc (b :: rest)
          = readBytes (acc * 256 + b.toNat) rest := rfl
        _ < (acc * 256 + b.toNat + 1) * 256 ^ rest.length := ih _
        _ ≤ ((acc + 1) * 256) * 256 ^ rest.length := Nat.mul_le_mul_right _ (by omega)
        _ = (acc + 1) * 256 ^ (b :: rest).length := by
            rw [List.length_cons, Nat.pow_succ, Nat.mul_assoc, Nat.mul_comm 256]

theorem ofTarget_inj {d d' : Labels} {url url' : String}
    (hdistinct : Distinguishes (message d url) (message d' url'))
    (h : ofTarget d url = ofTarget d' url') : d = d' ∧ url = url' := by
  have hlength : ∀ m, ((Sha256.digest m).take 8).length = 8 := fun m => by
    rw [List.length_take, length_digest]
    rfl
  have hlt : ∀ m, readBytes 0 ((Sha256.digest m).take 8) < 2 ^ 64 := fun m => by
    have hread := readBytes_lt ((Sha256.digest m).take 8) 0
    rw [hlength] at hread
    omega
  have hread : readBytes 0 ((Sha256.digest (message d url)).take 8) =
      readBytes 0 ((Sha256.digest (message d' url')).take 8) := by
    have hword : (UInt64.ofNat (readBytes 0 ((Sha256.digest (message d url)).take 8))).toNat =
        (UInt64.ofNat (readBytes 0 ((Sha256.digest (message d' url')).take 8))).toNat :=
      congrArg UInt64.toNat h
    rwa [UInt64.toNat_ofNat_of_lt' (hlt _), UInt64.toNat_ofNat_of_lt' (hlt _)] at hword
  obtain ⟨-, hdigest⟩ := readBytes_inj ((hlength _).trans (hlength _).symm) hread
  have hmessage := congrArg (fun m => m.data.toList) (hdistinct hdigest)
  exact preimage_eq_iff.1 (by simpa [message] using hmessage)

end Fingerprint

/-! ## Targets of a configuration -/

def TargetSets.Has (sets : TargetSets) (t : Target) : Prop :=
  t ∈ sets.active.values.flatten ∨ t ∈ sets.dropped.values.flatten

namespace Discovery

theorem has_addTarget {rules : List Relabel.Filter} {job : String} {sets : TargetSets}
    {t x : Target} (hx : (addTarget rules job sets t).Has x) : x = t ∨ sets.Has x := by
  unfold addTarget at hx
  split at hx
  · rcases hx with hx | hx
    · exact (TargetsByJob.mem_add.1 hx).imp_right .inl
    · exact .inr (.inr hx)
  · rcases hx with hx | hx
    · exact .inr (.inl hx)
    · exact (TargetsByJob.mem_add.1 hx).imp_right .inr

/-- The target is what discovery makes of a target that a job lists. -/
def BuiltFrom (c : Config) (t : Target) : Prop :=
  ∃ j ∈ c.jobs, ∃ listed ∈ j.targets, buildTarget j.name listed = .ok t

theorem has_foldlM_addTarget {rules : List Relabel.Filter} {job : String}
    {listed : List Config.ListedTarget} {sets sets' : TargetSets} {x : Target}
    (hsets : listed.foldlM (fun sets t => (buildTarget job t).map (addTarget rules job sets)) sets =
      .ok sets')
    (hx : sets'.Has x) : sets.Has x ∨ ∃ l ∈ listed, buildTarget job l = .ok x := by
  induction listed generalizing sets with
  | nil =>
      obtain rfl := Except.ok.inj hsets
      exact .inl hx
  | cons l rest ih =>
      rw [List.foldlM_cons] at hsets
      cases ht : buildTarget job l with
      | error f =>
          rw [ht] at hsets
          cases hsets
      | ok t =>
          rw [ht] at hsets
          rcases ih hsets with hold | ⟨l', hl', hbuild⟩
          · rcases has_addTarget hold with rfl | hold
            · exact .inr ⟨l, List.mem_cons_self, ht⟩
            · exact .inl hold
          · exact .inr ⟨l', List.mem_cons_of_mem _ hl', hbuild⟩

theorem has_addJob {j : Config.Job} {sets sets' : TargetSets} {x : Target}
    (hsets : addJob sets j = .ok sets') (hx : sets'.Has x) :
    sets.Has x ∨ ∃ l ∈ j.targets, buildTarget j.name l = .ok x := by
  unfold addJob at hsets
  cases hrules : Config.compileRules j.relabel with
  | error f =>
      rw [hrules] at hsets
      cases hsets
  | ok rules =>
      rw [hrules] at hsets
      exact has_foldlM_addTarget hsets hx

theorem builtFrom_of_has {c : Config} {sets : TargetSets} {x : Target}
    (hsets : ofConfig c = .ok sets) (hx : sets.Has x) : BuiltFrom c x := by
  unfold ofConfig at hsets
  suffices hjobs : ∀ (jobs : List Config.Job) (start : TargetSets),
      jobs.foldlM addJob start = .ok sets →
      start.Has x ∨ ∃ j ∈ jobs, ∃ l ∈ j.targets, buildTarget j.name l = .ok x by
    rcases hjobs c.jobs {} hsets with (hnone | hnone) | hbuilt
    · cases hnone
    · cases hnone
    · exact hbuilt
  intro jobs
  induction jobs with
  | nil =>
      intro start hstart
      obtain rfl := Except.ok.inj hstart
      exact .inl hx
  | cons j rest ih =>
      intro start hstart
      rw [List.foldlM_cons] at hstart
      cases hj : addJob start j with
      | error f =>
          rw [hj] at hstart
          cases hstart
      | ok next =>
          rw [hj] at hstart
          rcases ih next hstart with hnext | ⟨j', hj', hbuilt⟩
          · rcases has_addJob hj hnext with hold | hbuilt
            · exact .inl hold
            · exact .inr ⟨j, List.mem_cons_self, hbuilt⟩
          · exact .inr ⟨j', List.mem_cons_of_mem _ hj', hbuilt⟩

/-! ## What follows from the discovered labels -/

def finalOf (discovered : Labels) : Labels :=
  (discovered.filter (fun k _ => !isHidden k)).alter "instance"
    (fun old => old.getD (discovered.getD "__address__" ""))

theorem get?_discoveredLabels (job : String) (u : Uri) (configured : Labels) (k : String) :
    (discoveredLabels job u configured).get? k =
      if k = "job" then some job
      else if k = "__metrics_path__" then some (String.ofList u.shownPath)
      else if k = "__scheme__" then some ((u.scheme.map String.ofList).getD "http")
      else if k = "__address__" then some (String.ofList u.authority)
      else configured.get? k := by
  simp only [discoveredLabels, SortedMap.get?_insert]

theorem finalLabels_eq (job : String) (u : Uri) (configured : Labels) :
    finalLabels job u configured = finalOf (discoveredLabels job u configured) := by
  have haddress : (discoveredLabels job u configured).getD "__address__" "" =
      String.ofList u.authority := by
    simp [SortedMap.getD, get?_discoveredLabels]
  refine SortedMap.ext fun k => ?_
  unfold finalLabels finalOf
  rw [haddress]
  simp only [SortedMap.alter, SortedMap.get?_insert, SortedMap.get?_filter, get?_discoveredLabels]
  have hvisible : isHidden "instance" = false ∧ isHidden "job" = false := by decide
  have hhidden : isHidden "__address__" = true ∧ isHidden "__scheme__" = true ∧
      isHidden "__metrics_path__" = true := by decide
  by_cases hinstance : k = "instance"
  · simp [hinstance, hvisible]
  by_cases hjob : k = "job"
  · simp [hjob, hvisible, Option.filter]
  -- The labels that discovery adds besides the job are hidden ones.
  by_cases hk : isHidden k = true
  · simp [hinstance, hjob, hk]
  · have hne : ∀ name, isHidden name = true → k ≠ name := fun name hname heq =>
      hk (heq ▸ hname)
    simp [hinstance, hjob, hne _ hhidden.1, hne _ hhidden.2.1, hne _ hhidden.2.2]

theorem buildTarget_eq_ok {job : String} {listed : Config.ListedTarget} {t : Target}
    (ht : buildTarget job listed = .ok t) :
    t.discovered.get? "job" = some job ∧
      t = .ofLabels job t.url t.discovered (finalOf t.discovered) := by
  unfold buildTarget at ht
  split at ht
  · cases ht
  · split at ht
    · cases ht
    · obtain rfl := Except.ok.inj ht
      exact ⟨by simp [Target.ofLabels, get?_discoveredLabels], by rw [finalLabels_eq]; rfl⟩

/-- The identifying bytes determine the labels and the URL that they were made of.  And of two
targets that discovery builds, from whatever configurations, one fingerprint makes one target,
unless the digests of their identifying bytes collide. -/
theorem fingerprint_identifies :
    (∀ (d d' : Labels) (url url' : String),
      Fingerprint.preimage d url = Fingerprint.preimage d' url' ↔ d = d' ∧ url = url') ∧
    ∀ (c c' : Config) (sets sets' : TargetSets) (t t' : Target),
      ofConfig c = .ok sets → ofConfig c' = .ok sets' → sets.Has t → sets'.Has t' →
      Fingerprint.Distinguishes (Fingerprint.message t.discovered t.url)
        (Fingerprint.message t'.discovered t'.url) →
      t.hash = t'.hash → t = t' := by
  refine ⟨fun _ _ _ _ => Fingerprint.preimage_eq_iff, ?_⟩
  intro c c' sets sets' t t' hsets hsets' ht ht' hdistinct hhash
  obtain ⟨j, -, l, -, hbuilt⟩ := builtFrom_of_has hsets ht
  obtain ⟨j', -, l', -, hbuilt'⟩ := builtFrom_of_has hsets' ht'
  obtain ⟨hjob, hmade⟩ := buildTarget_eq_ok hbuilt
  obtain ⟨hjob', hmade'⟩ := buildTarget_eq_ok hbuilt'
  have hfingerprint : Fingerprint.ofTarget t.discovered t.url =
      Fingerprint.ofTarget t'.discovered t'.url := by
    rw [hmade, hmade'] at hhash
    exact hhash
  obtain ⟨hdiscovered, hurl⟩ := Fingerprint.ofTarget_inj hdistinct hfingerprint
  have hname : j.name = j'.name := by
    rw [hdiscovered, hjob'] at hjob
    exact (Option.some.inj hjob).symm
  rw [hmade, hmade', hname, hdiscovered, hurl]

def listing (labels : Labels) : Config :=
  { jobs := [{ name := "node", targets := [{ url := "http://a:80/metrics", labels }] }] }

def listedTarget (labels : Labels) : Target :=
  let u : Uri := ⟨some "http".toList, "a:80".toList, "/metrics".toList, none⟩
  .ofLabels "node" "http://a:80/metrics" (discoveredLabels "node" u labels)
    (finalLabels "node" u labels)

def plainLabels : Labels := .ofList [("env", "prod")]

def overwrittenLabels : Labels := .ofList [("env", "prod"), ("job", "x"), ("__address__", "b:80")]

theorem fingerprint_identifies_relabelled :
    (ofConfig (listing plainLabels) =
          .ok { active := .ofList [("node", [listedTarget plainLabels])] } ∧
        ofConfig (listing overwrittenLabels) =
          .ok { active := .ofList [("node", [listedTarget overwrittenLabels])] } ∧
        Fingerprint.Distinguishes
          (Fingerprint.message (listedTarget plainLabels).discovered (listedTarget plainLabels).url)
          (Fingerprint.message (listedTarget overwrittenLabels).discovered
            (listedTarget overwrittenLabels).url) ∧
        (listedTarget plainLabels).hash = (listedTarget overwrittenLabels).hash) ∧
      listedTarget plainLabels = listedTarget overwrittenLabels := by
  have hsets : ofConfig (listing plainLabels) =
      .ok { active := .ofList [("node", [listedTarget plainLabels])] } := by rfl
  have hsets' : ofConfig (listing overwrittenLabels) =
      .ok { active := .ofList [("node", [listedTarget overwrittenLabels])] } := by rfl
  have hdiscovered : (listedTarget plainLabels).discovered =
      (listedTarget overwrittenLabels).discovered := by rfl
  have hdistinct : Fingerprint.Distinguishes
      (Fingerprint.message (listedTarget plainLabels).discovered (listedTarget plainLabels).url)
      (Fingerprint.message (listedTarget overwrittenLabels).discovered
        (listedTarget overwrittenLabels).url) := fun _ => by
    rw [hdiscovered]
    rfl
  have hhash : (listedTarget plainLabels).hash = (listedTarget overwrittenLabels).hash :=
    congrArg (fun d => Fingerprint.ofTarget d "http://a:80/metrics") hdiscovered
  exact ⟨⟨hsets, hsets', hdistinct, hhash⟩,
    fingerprint_identifies.2 _ _ _ _ _ _ hsets hsets' (.inl List.mem_cons_self)
      (.inl List.mem_cons_self) hdistinct hhash⟩

end Discovery

end ScrapeFleet
