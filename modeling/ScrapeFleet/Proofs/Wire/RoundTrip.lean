import ScrapeFleet.Wire
import ScrapeFleet.Proofs.Json.RoundTrip

/-!
# Values and their exchanged form

Each reader gets from the tree that is written for a value that value again, if its numbers
fit their words and the reader may descend far enough.
-/

namespace ScrapeFleet

/-! ## Numbers that fit their words -/

structure Target.Fits (t : Target) : Prop where
  series : Word.minSigned ≤ t.series ∧ t.series ≤ Word.maxSigned

structure Status.Fits (s : Status) : Prop where
  series : Word.minSigned ≤ s.series ∧ s.series ≤ Word.maxSigned
  scrapes : s.scrapes ≤ Word.maxUnsigned
  lastScrape : ∀ n ∈ s.lastScrape, n ≤ Word.maxUnsigned
  lastDurationMs : s.lastDurationMs ≤ Word.maxUnsigned

structure Runtime.Fits (r : Runtime) : Prop where
  headSeries : Word.minSigned ≤ r.headSeries ∧ r.headSeries ≤ Word.maxSigned
  idleStartAt : ∀ n ∈ r.idleStartAt, n ≤ Word.maxUnsigned

namespace Wire

open ScrapeFleet.Tree Json

/-- Reading the tree, as it comes out of its text, yields the value where the reader may still
descend so many levels. -/
structure Recovers {α : Type} (r : Reader α) (depth : Nat) (t : Tree) (a : α) : Prop where
  exact : Exact t
  read : ∀ v : View, depth < v.depth → r v (reread t) = some a

/-! ## Names that are given once -/

theorem length_eraseDups_le (l : List String) : l.eraseDups.length ≤ l.length := by
  induction hn : l.length using Nat.strongRecOn generalizing l with
  | _ n ih =>
      cases l with
      | nil => simp
      | cons a rest =>
          have hfilter := List.length_filter_le (fun b => !b == a) rest
          rw [List.length_cons] at hn
          have hrest := ih _ (by omega) _ (rfl : (rest.filter fun b => !b == a).length = _)
          rw [List.eraseDups_cons, List.length_cons]
          omega

theorem length_eraseDups_eq_iff {l : List String} :
    l.eraseDups.length = l.length ↔ l.Nodup := by
  induction l with
  | nil => simp
  | cons a rest ih =>
      have hdups := length_eraseDups_le (rest.filter fun b => !b == a)
      have hfilter := List.length_filter_le (fun b => !b == a) rest
      have hkept : (rest.filter fun b => !b == a) = rest ↔ a ∉ rest := by
        rw [List.filter_eq_self]
        constructor
        · intro h ha
          simpa using h a ha
        · intro ha b hb
          have hne : b ≠ a := fun heq => ha (heq ▸ hb)
          simpa using hne
      rw [List.eraseDups_cons, List.length_cons, List.length_cons, List.nodup_cons, ← ih, ← hkept]
      constructor
      · intro h
        have hself := List.filter_eq_self.2 (List.length_filter_eq_length_iff.1
          (by omega : (rest.filter fun b => !b == a).length = rest.length))
        exact ⟨hself, by rw [hself] at h; omega⟩
      · rintro ⟨hself, h⟩
        rw [hself, h]

theorem lookup_of_mem {β : Type} {l : List (String × β)} (h : (l.map (·.1)).Nodup) {name : String}
    {b : β} (hmem : (name, b) ∈ l) : l.lookup name = some b := by
  induction l with
  | nil => cases hmem
  | cons e rest ih =>
      rw [List.map_cons, List.nodup_cons] at h
      rcases List.mem_cons.1 hmem with rfl | hmem
      · exact List.lookup_cons_self
      · have hne : name ≠ e.1 := by
          rintro rfl
          exact h.1 (List.mem_map.2 ⟨_, hmem, rfl⟩)
        rw [List.lookup_cons, beq_false_of_ne hne]
        exact ih h.2 hmem

theorem exists_enter {d : Nat} {v : View} (h : d + 1 < v.depth) :
    ∃ v', v.enter = some v' ∧ d < v'.depth := by
  refine ⟨{ v with depth := v.depth - 1 }, if_neg (by omega), ?_⟩
  simp only
  omega

namespace Recovers

variable {α β κ : Type} {r : Reader α} {d : Nat} {t : Tree} {a : α}

theorem map (h : Recovers r d t a) (f : α → β) : Recovers (fun v t => (r v t).map f) d t (f a) :=
  ⟨h.exact, fun v hv => by rw [h.read v hv]; rfl⟩

/-! ## Scalars -/

theorem bool (b : Bool) : Recovers readBool 0 (.bool b) b := ⟨.bool b, fun _ _ => rfl⟩

theorem text (s : String) : Recovers readText 0 (.text s) s := ⟨.text s, fun _ _ => rfl⟩

theorem signed {n : Int} (hmin : Word.minSigned ≤ n) (hmax : n ≤ Word.maxSigned) :
    Recovers readSigned 0 (.int n) n := by
  have hword : Word.maxSigned ≤ Word.maxUnsigned := by decide
  refine ⟨.int hmin (by omega), fun v _ => ?_⟩
  simp [readSigned, readInt, reread, hmin, hmax]

theorem unsigned {n : Nat} (hmax : n ≤ Word.maxUnsigned) :
    Recovers readUnsigned 0 (writeNat n) n := by
  have hword : Word.minSigned ≤ 0 := by decide
  refine ⟨.int (by omega) (by omega), fun v _ => ?_⟩
  simp [readUnsigned, readNat, readInt, writeNat, reread, hmax]

theorem hash (h : Fingerprint) : Recovers readHash 0 (.int h.toNat) h := by
  have hmax : h.toNat ≤ Word.maxUnsigned := Nat.le_of_lt_succ h.toNat_lt
  have hword := (unsigned hmax).map UInt64.ofNat
  rwa [UInt64.ofNat_toNat] at hword

theorem state (s : TargetState) : Recovers readState 0 (.text (TargetState.name s)) s :=
  ⟨.text _, fun _ _ => by cases s <;> rfl⟩

theorem health (h : Health) : Recovers readHealth 0 (.text (Health.name h)) h :=
  ⟨.text _, fun _ _ => by cases h <;> rfl⟩

/-! ## Options, lists and tables -/

theorem option {f : α → Tree} {o : Option α} (h : ∀ a ∈ o, Recovers r d (f a) a)
    (hnull : ∀ a ∈ o, reread (f a) ≠ .null) : Recovers (readOption r) d (writeOption f o) o := by
  cases o with
  | none => exact ⟨.null, fun _ _ => rfl⟩
  | some a =>
      refine ⟨(h a rfl).exact, fun v hv => ?_⟩
      have hread := (h a rfl).read v hv
      rw [writeOption]
      unfold readOption
      split
      · exact absurd ‹_› (hnull a rfl)
      · rw [hread]
        rfl

theorem list {f : α → Tree} {xs : List α} (h : ∀ x ∈ xs, Recovers r d (f x) x) :
    Recovers (readList r) (d + 1) (.list (xs.map f)) xs := by
  refine ⟨.list fun t ht => ?_, fun v hv => ?_⟩
  · obtain ⟨x, hx, rfl⟩ := List.mem_map.1 ht
    exact (h x hx).exact
  · obtain ⟨v', henter, hv'⟩ := exists_enter hv
    rw [reread, readList, henter, Option.bind_some, rereadItems_eq_map, List.map_map]
    clear henter
    induction xs with
    | nil => rfl
    | cons x rest ih =>
        rw [List.forall_mem_cons] at h
        rw [List.map_cons, List.mapM_cons]
        simp only [Function.comp_apply, h.1.read v' hv', ih h.2]
        rfl

theorem table {key : FieldName → Option κ} (name : κ → FieldName) (f : α → Tree)
    {es : List (κ × α)} (hkey : ∀ e ∈ es, key (rereadName (name e.1)) = some e.1)
    (h : ∀ e ∈ es, Recovers r d (f e.2) e.2) :
    Recovers (readTable key r) (d + 1) (.table (es.map (fun e => (name e.1, f e.2)))) es := by
  refine ⟨.table fun t ht => ?_, fun v hv => ?_⟩
  · obtain ⟨e, he, rfl⟩ := List.mem_map.1 ht
    exact (h e he).exact
  · obtain ⟨v', henter, hv'⟩ := exists_enter hv
    rw [reread, readTable, henter, Option.bind_some, rereadFields_eq_map, List.map_map]
    clear henter
    induction es with
    | nil => rfl
    | cons e rest ih =>
        rw [List.forall_mem_cons] at h hkey
        rw [List.map_cons, List.mapM_cons]
        simp only [Function.comp_apply, hkey.1, h.1.read v' hv', ih hkey.2 h.2]
        rfl

/-! ## Records -/

theorem exists_fields {v : View} (hv : d + 1 < v.depth) (names : List String)
    {fs : List (FieldName × Tree)} (ht : t = .table fs)
    (hknown : ∀ f ∈ fs, names.contains f.1.text = true) (hdistinct : (fs.map (·.1.text)).Nodup) :
    ∃ found : Fields, fields names v (reread t) = some found ∧ d < found.view.depth ∧
      found.given = fs.map (fun f => (f.1.text, reread f.2)) ∧
      ∀ f ∈ fs, found.given.lookup f.1.text = some (reread f.2) := by
  subst ht
  obtain ⟨v', henter, hv'⟩ := exists_enter hv
  let given := fs.map (fun f => (f.1.text, reread f.2))
  have hgiven : (((fs.map fun f => (rereadName f.1, reread f.2)).map
      fun f => (f.1.text, f.2)).filter fun f => names.contains f.1) = given := by
    rw [List.map_map, List.filter_eq_self.2]
    · rfl
    · intro f hf
      obtain ⟨g, hg, rfl⟩ := List.mem_map.1 hf
      exact hknown g hg
  have hnames : (given.map (·.1)).Nodup := by
    rw [List.map_map]
    exact hdistinct
  have hlength : (given.map (·.1)).eraseDups.length = given.length := by
    rw [length_eraseDups_eq_iff.2 hnames, List.length_map]
  refine ⟨⟨v', given⟩, ?_, hv', rfl, fun f hf => ?_⟩
  · rw [reread, rereadFields_eq_map]
    unfold fields
    simp only [hgiven]
    rw [if_pos hlength, henter]
    rfl
  · exact lookup_of_mem hnames (List.mem_map_of_mem hf)

theorem required (h : Recovers r d t a) {fs : Fields} {name : String}
    (hgiven : fs.given.lookup name = some (reread t)) (hd : d < fs.view.depth) :
    fs.required name r = some a := by
  rw [Fields.required, hgiven]
  exact h.read _ hd

theorem optional (h : Recovers r d t a) {fs : Fields} {name : String} (default : α)
    (hgiven : fs.given.lookup name = some (reread t)) (hd : d < fs.view.depth) :
    fs.optional name r default = some a := by
  rw [Fields.optional, hgiven]
  exact h.read _ hd

end Recovers

/-! ## Targets -/

theorem recovers_labels (ls : Labels) : Recovers readLabels 1 (writeLabels ls) ls := by
  have htable : Recovers (readNamed readText) 1 (writeLabels ls) ls.entries :=
    Recovers.table (⟨·, true⟩) .text (fun _ _ => rfl) fun e _ => .text e.2
  have hlabels := htable.map SortedMap.ofList
  rwa [SortedMap.ofList_entries] at hlabels

theorem recovers_target {t : Target} (ht : t.Fits) : Recovers readTarget 2 (writeTarget t) t := by
  have hlabels := recovers_labels t.labels
  have hdiscovered := recovers_labels t.discovered
  have hseries := Recovers.signed ht.series.1 ht.series.2
  refine ⟨?_, fun v hv => ?_⟩
  · refine .table ?_
    simp only [List.forall_mem_cons]
    exact ⟨(Recovers.hash t.hash).exact, .text _, .text _, hdiscovered.exact, hlabels.exact,
      hseries.exact, .text _, by simp⟩
  · obtain ⟨fs, hfs, hdepth, -, hlookup⟩ := Recovers.exists_fields hv
      ["hash", "job", "url", "discovered_labels", "labels", "series", "state"]
      (rfl : writeTarget t = .table _) (by simp) (by simp)
    simp only [List.forall_mem_cons] at hlookup
    obtain ⟨hhash, hjob, hurl, hdisc, hlab, hser, hstate, -⟩ := hlookup
    rw [readTarget, hfs]
    simp [Recovers.required (.hash t.hash) hhash (by omega),
      Recovers.required (.text t.job) hjob (by omega), Recovers.required (.text t.url) hurl (by omega),
      hdiscovered.optional ∅ hdisc (by omega), hlabels.optional ∅ hlab (by omega),
      hseries.optional 0 hser (by omega), (Recovers.state t.state).optional .normal hstate (by omega)]

theorem recovers_targets {ts : TargetsByJob} (h : ∀ l ∈ ts.values, ∀ t ∈ l, t.Fits) :
    Recovers readTargets 4 (writeTargets ts) ts := by
  have htable : Recovers (readNamed (readList readTarget)) 4 (writeTargets ts) ts.entries :=
    Recovers.table (⟨·, true⟩) (fun l : List Target => .list (l.map writeTarget)) (fun _ _ => rfl) fun e he =>
      .list fun t ht => recovers_target (h e.2 (List.mem_map_of_mem he) t ht)
  have htargets := htable.map SortedMap.ofList
  rwa [SortedMap.ofList_entries] at htargets

/-! ## Statuses -/

theorem recovers_shards (ids : SortedSet String) :
    Recovers readShards 1 (.list (ids.keys.map .text)) ids := by
  have hlist := (Recovers.list fun id (_ : id ∈ ids.keys) => Recovers.text id).map SortedSet.ofList
  have hset : SortedSet.ofList ids.keys = ids := by
    rw [SortedSet.ofList, SortedMap.keys, List.map_map]
    have hentries : ids.entries.map ((·, ()) ∘ (·.1)) = ids.entries :=
      List.map_id'' (fun _ => rfl) _
    rw [hentries, SortedMap.ofList_entries]
  rwa [hset] at hlist

theorem recovers_optionalText (o : Option String) :
    Recovers (readOption readText) 0 (writeOption .text o) o :=
  Recovers.option (fun s _ => .text s) fun _ _ h => by cases h

theorem recovers_optionalNat {o : Option Nat} (h : ∀ n ∈ o, n ≤ Word.maxUnsigned) :
    Recovers (readOption readUnsigned) 0 (writeOption writeNat o) o :=
  Recovers.option (fun n hn => .unsigned (h n hn)) fun _ _ h => by cases h

theorem recovers_status {s : Status} (hs : s.Fits) : Recovers readStatus 2 (writeStatus s) s := by
  have hseries := Recovers.signed hs.series.1 hs.series.2
  have hscrapes := Recovers.unsigned hs.scrapes
  have herror := recovers_optionalText s.lastError
  have hlast := recovers_optionalNat hs.lastScrape
  have hduration := Recovers.unsigned hs.lastDurationMs
  have hshards := recovers_shards s.shards
  refine ⟨?_, fun v hv => ?_⟩
  · refine .table ?_
    simp only [List.forall_mem_cons]
    exact ⟨.text _, hseries.exact, hscrapes.exact, herror.exact, hlast.exact, hduration.exact,
      .text _, hshards.exact, by simp⟩
  · obtain ⟨fs, hfs, hdepth, -, hlookup⟩ := Recovers.exists_fields hv
      ["health", "series", "scrape_times", "last_error", "last_scrape", "last_scrape_duration_ms",
        "state", "shards"]
      (rfl : writeStatus s = .table _) (by simp) (by simp)
    simp only [List.forall_mem_cons] at hlookup
    obtain ⟨hhea, hser, hscr, herr, hlas, hdur, hsta, hsha, -⟩ := hlookup
    rw [readStatus, hfs]
    simp [(Recovers.health s.health).optional .unknown hhea (by omega),
      hseries.optional 0 hser (by omega), hscrapes.optional 0 hscr (by omega),
      herror.optional none herr (by omega), hlast.optional none hlas (by omega),
      hduration.optional 0 hdur (by omega),
      (Recovers.state s.state).optional .normal hsta (by omega),
      hshards.optional ∅ hsha (by omega)]

theorem hashKey?_hashKey (h : Fingerprint) : hashKey? (rereadName (hashKey h)) = some h := by
  have hmax : h.toNat ≤ Word.maxUnsigned := Nat.le_of_lt_succ h.toNat_lt
  have hdigits : ∀ c ∈ Nat.toDigits 10 h.toNat, c.isDigit = true := fun c hc =>
    Literal.isDigit_of_mem_numeral hc
  have hplain : (Nat.toDigits 10 h.toNat).all isPlain = true :=
    List.all_eq_true.2 fun c hc => isPlain_of_isDigit (hdigits c hc)
  have hzero : ((Nat.toDigits 10 h.toNat).length ≠ 1 &&
      (Nat.toDigits 10 h.toNat).head? = some '0') = false := by
    rcases Literal.numeral_noLeadingZero h.toNat with hzero | hzero <;> simp [hzero]
  have hrefused : (!(Nat.toDigits 10 h.toNat).all isPlain || (Nat.toDigits 10 h.toNat).isEmpty ||
      !(Nat.toDigits 10 h.toNat).all Char.isDigit || ((Nat.toDigits 10 h.toNat).length ≠ 1 &&
        (Nat.toDigits 10 h.toNat).head? = some '0')) = false := by
    rw [hzero, hplain, List.all_eq_true.2 hdigits]
    simp
  unfold hashKey? rereadName hashKey
  simp only [String.toList_ofList, hrefused, Literal.digitsToNat_numeral, hmax]
  simp

theorem recovers_statuses {m : StatusMap} (h : ∀ s ∈ m.values, s.Fits) :
    Recovers readStatuses 3 (writeStatuses m) m := by
  have htable : Recovers (readTable hashKey? readStatus) 3 (writeStatuses m) m.entries :=
    Recovers.table (hashKey ·) writeStatus (fun e _ => hashKey?_hashKey e.1) fun e he =>
      recovers_status (h e.2 (List.mem_map_of_mem he))
  have hstatuses := htable.map SortedMap.ofList
  rwa [SortedMap.ofList_entries] at hstatuses

/-! ## Load reports and envelopes -/

theorem recovers_runtime {r : Runtime} (hr : r.Fits) :
    Recovers readRuntime 1 (writeRuntime r) r := by
  have hhead := Recovers.signed hr.headSeries.1 hr.headSeries.2
  have hidle := recovers_optionalNat hr.idleStartAt
  refine ⟨?_, fun v hv => ?_⟩
  · refine .table ?_
    simp only [List.forall_mem_cons]
    exact ⟨hhead.exact, .text _, hidle.exact, by simp⟩
  · obtain ⟨fs, hfs, hdepth, -, hlookup⟩ := Recovers.exists_fields hv
      ["head_series", "config_hash", "idle_start_at"]
      (rfl : writeRuntime r = .table _) (by simp) (by simp)
    simp only [List.forall_mem_cons] at hlookup
    obtain ⟨hheadGiven, hconfig, hidleGiven, -⟩ := hlookup
    rw [readRuntime, hfs]
    simp [hhead.required hheadGiven (by omega),
      Recovers.required (.text r.configHash) hconfig (by omega),
      hidle.optional none hidleGiven (by omega)]

theorem recovers_envelope {α : Type} {r : Reader α} {f : α → Tree} {d : Nat} {a : α}
    (h : Recovers r d (f a) a) (hnull : reread (f a) ≠ .null) :
    Recovers (Envelope.read r) (d + 1) (Envelope.write f (.ok a)) (.ok a) := by
  have hdata : Recovers (readOption r) d (f a) (some a) :=
    Recovers.option (o := some a) (by rintro _ ⟨⟩; exact h) (by rintro _ ⟨⟩; exact hnull)
  refine ⟨?_, fun v hv => ?_⟩
  · refine .table ?_
    simp [Envelope.ok, h.exact, Exact.bool]
  · obtain ⟨fs, hfs, hdepth, hgiven, hlookup⟩ := Recovers.exists_fields hv
      ["success", "data", "error"]
      (rfl : Envelope.write f (.ok a) = .table _) (by simp [Envelope.ok]) (by simp [Envelope.ok])
    have herror : fs.optional "error" (readOption readText) none = some none := by
      have habsent : fs.given.lookup "error" = none := by
        rw [hgiven]
        simp [Envelope.ok]
      rw [Fields.optional, habsent]
    have hsuccess : fs.given.lookup "success" = some (reread (.bool true)) :=
      hlookup ("success", .bool true) (by simp [Envelope.ok])
    have hpayload : fs.given.lookup "data" = some (reread (f a)) :=
      hlookup ("data", f a) (by simp [Envelope.ok])
    rw [Envelope.read, hfs]
    simp [(Recovers.bool true).required hsuccess (by omega), hdata.optional none hpayload (by omega),
      herror, Envelope.ok]

end Wire

end ScrapeFleet
