import ScrapeFleet.Replica.Rpc
import ScrapeFleet.Proofs.Text.Utf8
import ScrapeFleet.Proofs.Wire.RoundTrip

/-!
# Bodies of requests and answers

What one side writes into a body the other side reads from it: load reports and statuses
come back from an answer, and targets from a push.  An answer that reports a failure never
yields data, whatever else is in it: it is a refused request with the error text.
-/

namespace ScrapeFleet

open ScrapeFleet.Tree

/-! ## The tree in a body -/

namespace Rpc

/-- The targets that a shard reads from the body of a push. -/
def decodeTargets (b : ByteArray) : Option TargetsByJob :=
  (tree? b).bind (Wire.readTargets Json.view)

variable {α : Type} {r : Reader α} {b : ByteArray} {t : Tree}

mutual

/-- A text without faults has one reading. -/
theorem agreed_self : ∀ t : Tree, agreed t t = t
  | .text _ => by rw [agreed, if_pos rfl]
  | .list ts => by rw [agreed, agreedItems_self ts]
  | .table fs => by rw [agreed, agreedFields_self fs]; rfl
  | .null | .bool _ | .int _ | .real _ | .unreadable => by rw [agreed] <;> rintro _ _ ⟨⟩

theorem agreedItems_self : ∀ ts : List Tree, agreedItems ts ts = ts
  | [] => rfl
  | t :: ts => by rw [agreedItems, agreed_self t, agreedItems_self ts]

theorem agreedFields_self : ∀ fs : List (FieldName × Tree), agreedFields fs fs = some fs
  | [] => rfl
  | (k, t) :: fs => by
      rw [agreedFields, if_pos rfl, agreed_self t, agreedFields_self fs]
      rfl

end

theorem tree?_encode (ht : Json.Exact t) :
    tree? (Json.encode t).toUTF8 = some (Json.reread t) := by
  simp only [tree?, Utf8.decodeWith_toUTF8, String.ofList_toList, Json.parse?_encode ht]
  exact congrArg some (agreed_self _)

theorem decodeEnvelope_eq (r : Reader α) (address : String) (htree : tree? b = some t) :
    decodeEnvelope r address b =
      match Envelope.read r Json.view t with
      | none => .error (.decode address "response is not an envelope")
      | some e => e.result.mapError (.status address 200) := by
  cases he : Envelope.read r Json.view t <;> simp [decodeEnvelope, htree, he]

theorem exists_envelope {address : String} {o : Option α}
    (h : decodeEnvelope r address b = .ok o) :
    ∃ t e, tree? b = some t ∧ Envelope.read r Json.view t = some e ∧ e.result = .ok o := by
  unfold decodeEnvelope at h
  split at h
  · cases h
  · rename_i e he
    obtain ⟨t, htree, hread⟩ := Option.bind_eq_some_iff.1 he
    refine ⟨t, e, htree, hread, ?_⟩
    cases hresult : e.result with
    | error m =>
        rw [hresult] at h
        cases h
    | ok o' =>
        rw [hresult] at h
        rw [Except.ok.inj h]

theorem decodeEnvelope_of_decodeData {address : String} {a : α}
    (h : decodeData r address b = .ok a) : decodeEnvelope r address b = .ok (some a) := by
  unfold decodeData at h
  split at h
  · cases h
  · cases h
  · rename_i a' ha
    rw [ha, Except.ok.inj h]

theorem decodeData_ok {d : Nat} {f : α → Tree} {a : α} (h : Wire.Recovers r d (f a) a)
    (hnull : Json.reread (f a) ≠ .null) (hd : d + 1 < Json.view.depth) (address : String) :
    decodeData r address (Json.encode (Envelope.write f (.ok a))).toUTF8 = .ok a := by
  have henvelope := Wire.recovers_envelope h hnull
  rw [decodeData, decodeEnvelope_eq r address (tree?_encode henvelope.exact),
    henvelope.read _ hd]
  rfl

end Rpc

/-! ## Answers that report a failure -/

/-- The answer says whether it is a success: by name in a table, or in first place in a list. -/
def Tree.Reports (success : Bool) : Tree → Prop
  | .table fs => ∃ f ∈ fs, f.1.text = "success" ∧ f.2 = .bool success
  | .list items => items.head? = some (.bool success)
  | _ => False

def Tree.textOf : Option Tree → Option String
  | some (.text m) => some m
  | _ => none

theorem Tree.textOf_of_readOption {v : View} {t : Tree} {o : Option String}
    (h : readOption readText v t = some o) : textOf (some t) = o := by
  cases t with
  | null => exact Option.some.inj h
  | text m => exact Option.some.inj h
  | _ => cases h

/-- The error text that an answer gives, by name or in third place. -/
def Tree.errorText? : Tree → Option String
  | .table fs => textOf ((fs.map (fun f => (f.1.text, f.2))).lookup "error")
  | .list items => textOf items[2]?
  | _ => none

namespace Envelope

theorem lookup_filter {β : Type} {p : String → Bool} {k : String} (hk : p k = true)
    (l : List (String × β)) : (l.filter (fun e => p e.1)).lookup k = l.lookup k := by
  induction l with
  | nil => rfl
  | cons e rest ih =>
      rw [List.filter_cons]
      by_cases hkey : k = e.1
      · subst hkey
        rw [if_pos hk, List.lookup_cons_self, List.lookup_cons_self]
      · split
        · rw [List.lookup_cons, List.lookup_cons, beq_false_of_ne hkey, ih]
        · rw [List.lookup_cons, beq_false_of_ne hkey, ih]

theorem given_of_fields {names : List String} {v : View} {t : Tree} {fs : Fields}
    (hfs : fields names v t = some fs) :
    (∃ l, t = .table l ∧ (fs.given.map (·.1)).Nodup ∧
        fs.given = (l.map (fun f => (f.1.text, f.2))).filter (fun f => names.contains f.1)) ∨
      ∃ items, t = .list items ∧ fs.given = names.zip items := by
  unfold fields at hfs
  split at hfs
  · rename_i l
    simp only at hfs
    split at hfs
    · rename_i hdistinct
      obtain ⟨v', -, rfl⟩ := Option.map_eq_some_iff.1 hfs
      exact .inl ⟨l, rfl, Wire.length_eraseDups_eq_iff.1 (by rwa [List.length_map]), rfl⟩
    · cases hfs
  · rename_i items
    split at hfs
    · obtain ⟨v', -, rfl⟩ := Option.map_eq_some_iff.1 hfs
      exact .inr ⟨items, rfl, rfl⟩
    · cases hfs
  · cases hfs

section Answer

variable {v : View} {t : Tree} {fs : Fields} {success : Bool}
  (hfs : fields ["success", "data", "error"] v t = some fs)

include hfs

theorem lookup_success_iff :
    fs.given.lookup "success" = some (.bool success) ↔ t.Reports success := by
  rcases given_of_fields hfs with ⟨l, rfl, hnodup, hgiven⟩ | ⟨items, rfl, hgiven⟩
  · constructor
    · intro h
      obtain ⟨before, after, hsplit, -⟩ := List.lookup_eq_some_iff.1 h
      have hmem : ("success", .bool success) ∈ fs.given := by simp [hsplit]
      rw [hgiven] at hmem
      obtain ⟨f, hf, heq⟩ := List.mem_map.1 (List.mem_filter.1 hmem).1
      obtain ⟨hname, hvalue⟩ := Prod.mk.inj heq
      exact ⟨f, hf, hname, hvalue⟩
    · rintro ⟨f, hf, hname, hvalue⟩
      refine Wire.lookup_of_mem hnodup ?_
      rw [hgiven]
      exact List.mem_filter.2 ⟨List.mem_map.2 ⟨f, hf, by rw [hname, hvalue]⟩, by simp⟩
  · rw [hgiven]
    cases items with
    | nil => exact ⟨fun h => (by cases h), fun h => (by cases h)⟩
    | cons first rest => rfl

theorem lookup_error : textOf (fs.given.lookup "error") = t.errorText? := by
  rcases given_of_fields hfs with ⟨l, rfl, -, hgiven⟩ | ⟨items, rfl, hgiven⟩
  · rw [hgiven, errorText?]
    exact congrArg textOf (lookup_filter (by decide) _)
  · rw [hgiven, errorText?]
    match items with
    | [] => rfl
    | [_] => rfl
    | [_, _] => rfl
    | _ :: _ :: _ :: _ => rfl

end Answer

theorem success_of_result {α : Type} {e : Envelope α} {o : Option α} (h : e.result = .ok o) :
    e.success = true := by
  unfold Envelope.result at h
  split at h
  · assumption
  · cases h

/-- An envelope that can be read reports what it is read as, with the error text it gives. -/
theorem reports_of_read {α : Type} {r : Reader α} {v : View} {t : Tree} {e : Envelope α}
    (he : Envelope.read r v t = some e) :
    (∀ success, t.Reports success ↔ e.success = success) ∧ e.error = t.errorText? := by
  unfold Envelope.read at he
  obtain ⟨fs, hfs, he⟩ := Option.bind_eq_some_iff.1 he
  obtain ⟨success, hread, he⟩ := Option.bind_eq_some_iff.1 he
  obtain ⟨data, -, he⟩ := Option.bind_eq_some_iff.1 he
  obtain ⟨error, hreadError, he⟩ := Option.bind_eq_some_iff.1 he
  obtain rfl := Option.some.inj he
  constructor
  · intro other
    obtain ⟨x, hx, hbool⟩ := Option.bind_eq_some_iff.1 hread
    have hvalue : x = .bool success := by
      cases x with
      | bool b => rw [Option.some.inj hbool]
      | _ => cases hbool
    rw [← lookup_success_iff hfs, hx, hvalue]
    simp
  · rw [← lookup_error hfs]
    rw [Fields.optional] at hreadError
    split at hreadError
    · rename_i x hx
      rw [hx]
      exact (textOf_of_readOption hreadError).symm
    · rename_i hx
      rw [hx]
      exact (Option.some.inj hreadError).symm

end Envelope

namespace Rpc

/-- Load reports and statuses come back from the body of an answer and targets from that of a
push.  A body yields data only if it reports a success, and one that reports a failure yields
none: if it can be read at all, then as a refused request with its error text. -/
theorem bodies_faithful (address : String) :
    (∀ x : Runtime, x.Fits →
      decodeData Wire.readRuntime address
        (Json.encode (Envelope.write Wire.writeRuntime (.ok x))).toUTF8 = .ok x) ∧
    (∀ m : StatusMap, (∀ s ∈ m.values, s.Fits) →
      decodeData Wire.readStatuses address
        (Json.encode (Envelope.write Wire.writeStatuses (.ok m))).toUTF8 = .ok m) ∧
    (∀ ts : TargetsByJob, (∀ l ∈ ts.values, ∀ t ∈ l, t.Fits) →
      decodeTargets (pushTargetsRequest address ts).body = some ts) ∧
    ∀ (α : Type) (r : Reader α) (b : ByteArray),
      (∀ o, decodeEnvelope r address b = .ok o →
        ∃ t, tree? b = some t ∧ t.Reports true ∧ ¬t.Reports false) ∧
      ∀ t, tree? b = some t → t.Reports false →
        (∀ a, decodeData r address b ≠ .ok a) ∧
        ((Envelope.read r Json.view t).isSome →
          decodeEnvelope r address b =
            .error (.status address 200 (t.errorText?.getD "unknown error"))) := by
  refine ⟨fun x hx => ?_, fun m hm => ?_, fun ts hts => ?_, fun α r b => ?_⟩
  · exact decodeData_ok (Wire.recovers_runtime hx) (by rintro ⟨⟩) (by decide) address
  · exact decodeData_ok (Wire.recovers_statuses hm) (by rintro ⟨⟩) (by decide) address
  · have htargets := Wire.recovers_targets hts
    have hbody : tree? (pushTargetsRequest address ts).body = _ := tree?_encode htargets.exact
    rw [decodeTargets, hbody]
    exact htargets.read _ (by decide)
  · have hdata : ∀ o, decodeEnvelope r address b = .ok o →
        ∃ t, tree? b = some t ∧ t.Reports true ∧ ¬t.Reports false := by
      intro o hok
      obtain ⟨t, e, htree, he, hresult⟩ := exists_envelope hok
      obtain ⟨hreports, -⟩ := Envelope.reports_of_read he
      have hsuccess : e.success = true := Envelope.success_of_result hresult
      refine ⟨t, htree, (hreports true).2 hsuccess, fun hfalse => ?_⟩
      rw [(hreports false).1 hfalse] at hsuccess
      cases hsuccess
    refine ⟨hdata, fun t htree ht => ⟨fun a hok => ?_, fun hsome => ?_⟩⟩
    · obtain ⟨t', htree', -, hfalse⟩ := hdata _ (decodeEnvelope_of_decodeData hok)
      obtain rfl := Option.some.inj (htree.symm.trans htree')
      exact hfalse ht
    · obtain ⟨e, he⟩ := Option.isSome_iff_exists.1 hsome
      obtain ⟨hreports, herror⟩ := Envelope.reports_of_read he
      rw [decodeEnvelope_eq r address htree, he]
      simp only [Envelope.result, (hreports false).1 ht, herror]
      rfl

def extremeRuntime : Runtime := ⟨Word.maxSigned, "\x01\"é\\", some Word.maxUnsigned⟩

def extremeStatus : Status :=
  { health := .bad, series := Word.minSigned, scrapes := Word.maxUnsigned, lastError := some "\n",
    lastScrape := some 0, state := .inTransfer, shards := .ofList ["s1", "", "s0"] }

def extremeTarget : Target :=
  { hash := 0xffffffffffffffff, job := "", url := "\x7f", labels := .ofList [("é", "\"")],
    series := Word.minSigned }

def refusal : Tree := .table [("success", .bool false), ("data", .null), ("error", .text "no")]

theorem bodies_faithful_extremes :
    (extremeRuntime.Fits ∧ decodeData Wire.readRuntime "s0:80"
      (Json.encode (Envelope.write Wire.writeRuntime (.ok extremeRuntime))).toUTF8 =
        .ok extremeRuntime) ∧
    (extremeStatus.Fits ∧ decodeData Wire.readStatuses "s0:80"
      (Json.encode (Envelope.write Wire.writeStatuses (.ok (.ofList [(7, extremeStatus)])))).toUTF8 =
        .ok (.ofList [(7, extremeStatus)])) ∧
    (extremeTarget.Fits ∧ decodeTargets
      (pushTargetsRequest "s0:80" (.ofList [("node", [extremeTarget])])).body =
        some (.ofList [("node", [extremeTarget])])) ∧
    tree? (Json.encode refusal).toUTF8 = some (Json.reread refusal) ∧
      (Json.reread refusal).Reports false ∧
      decodeEnvelope Wire.readRuntime "s0:80" (Json.encode refusal).toUTF8 =
        .error (.status "s0:80" 200 "no") := by
  have hruntime : extremeRuntime.Fits :=
    ⟨by decide, by rintro _ ⟨⟩; exact Nat.le_refl _⟩
  have hstatus : extremeStatus.Fits :=
    ⟨by decide, by decide, by rintro _ ⟨⟩; decide, by decide⟩
  have htarget : extremeTarget.Fits := ⟨by decide⟩
  have hexact : Json.Exact refusal := .table (by simp [Json.Exact.bool, Json.Exact.null, Json.Exact.text])
  have htree := tree?_encode hexact
  have hreports : (Json.reread refusal).Reports false := ⟨_, List.mem_cons_self, rfl, rfl⟩
  obtain ⟨hreport, hstatuses, htargets, hrefusal⟩ := bodies_faithful "s0:80"
  refine ⟨⟨hruntime, hreport _ hruntime⟩, ⟨hstatus, hstatuses _ ?_⟩, ⟨htarget, htargets _ ?_⟩, htree,
    hreports, ((hrefusal _ Wire.readRuntime _).2 _ htree hreports).2 ?_⟩
  · exact List.forall_mem_singleton.2 hstatus
  · exact List.forall_mem_singleton.2 (List.forall_mem_singleton.2 htarget)
  · decide

end Rpc

end ScrapeFleet
