import Mathlib.Data.List.Nodup
import ScrapeFleet.Proofs.Exposition.Labels

/-!
# Samples as they are written

Whoever exposes a sample writes each label value between quotes, with a backslash before
every quote and every backslash in it and `\n` for a line break, and is free to put blanks
around the punctuation in braces, a comma after the last label and a timestamp after the
value.  Reading gives back the labels, whatever their values are: a value ends at the first
quote that no backslash stands before, and a name is looked for only past that quote.
-/

namespace ScrapeFleet

theorem SortedMap.get?_ofList_eq_some_iff {α : Type} {l : List (String × α)}
    (hnodup : (l.map (·.1)).Nodup) {k : String} {v : α} :
    (ofList l).get? k = some v ↔ (k, v) ∈ l := by
  refine ⟨mem_of_get?_ofList, fun hmem => ?_⟩
  obtain ⟨v', hget⟩ := Option.isSome_iff_exists.1 (isSome_get?_ofList hmem)
  have hsame : (k, v') = (k, v) :=
    List.inj_on_of_nodup_map hnodup (mem_of_get?_ofList hget) hmem rfl
  rwa [(Prod.mk.inj hsame).2] at hget

namespace Exposition

/-! ## Escapes -/

def escapeChar : Char → List Char
  | '\\' => ['\\', '\\']
  | '"' => ['\\', '"']
  | '\n' => ['\\', 'n']
  | c => [c]

def escape (v : List Char) : List Char := v.flatMap escapeChar

theorem value?_escapeChar (c : Char) (cs : List Char) :
    value? (escapeChar c ++ cs) = (value? cs).map (fun (v, after) => (c :: v, after)) := by
  unfold escapeChar
  split
  · rfl
  · rfl
  · rfl
  · rename_i hbackslash hquote _
    have hverbatim : isVerbatim c = true := by
      simp only [isVerbatim, Bool.and_eq_true, decide_eq_true_eq]
      exact ⟨hquote, hbackslash⟩
    exact value?_cons hverbatim cs

theorem value?_escape (v after : List Char) :
    value? (escape v ++ '"' :: after) = some (v, after) := by
  induction v with
  | nil => rfl
  | cons c rest ih =>
      rw [escape, List.flatMap_cons, List.append_assoc, value?_escapeChar, ← escape, ih]
      rfl

/-! ## Labels -/

structure Blanks where
  chars : List Char
  isBlank : ∀ c ∈ chars, Text.isBlank c = true

namespace Blanks

def none : Blanks := ⟨[], List.forall_mem_nil _⟩

def space : Blanks := ⟨[' '], List.forall_mem_singleton.2 (by decide)⟩

theorem trimStart_cons (b : Blanks) {c : Char} (hc : Text.isBlank c = false)
    (cs : List Char) : Text.trimStart (b.chars ++ c :: cs) = c :: cs := by
  rw [Text.trimStart_append_of_blanks b.isBlank, Text.trimStart_cons hc]

end Blanks

/-- A label as it is written, with the blanks around its name and its value. -/
structure LabelText where
  key : String
  value : String
  isLabelName : IsLabelName key
  key_ne_name : key ≠ nameLabel
  beforeKey : Blanks
  afterKey : Blanks
  beforeValue : Blanks
  afterValue : Blanks

namespace LabelText

variable (l : LabelText)

def body : List Char :=
  l.key.toList ++ l.afterKey.chars ++ ['='] ++ l.beforeValue.chars ++
    ['"'] ++ escape l.value.toList ++ ['"'] ++ l.afterValue.chars

def text : List Char := l.beforeKey.chars ++ l.body

theorem body_append (after : List Char) :
    l.body ++ after = l.key.toList ++ l.afterKey.chars ++
      '=' :: (l.beforeValue.chars ++
        '"' :: (escape l.value.toList ++ '"' :: (l.afterValue.chars ++ after))) := by
  simp [body]

theorem exists_body_cons : ∃ c cs, l.body = c :: cs ∧ isLabelChar c = true := by
  obtain ⟨c, rest, hkey⟩ := List.exists_cons_of_ne_nil l.isLabelName.1
  have hhead : l.body.head? = some c := by simp [body, hkey]
  obtain ⟨cs, hbody⟩ := List.head?_eq_some_iff.1 hhead
  exact ⟨c, cs, hbody, l.isLabelName.2 c (hkey ▸ List.mem_cons_self)⟩

theorem trim_key : Text.trim (l.key.toList ++ l.afterKey.chars) = l.key.toList := by
  have hkey : ∀ c ∈ l.key.toList, Text.isBlank c = false := fun c hc =>
    isBlank_of_isMetricChar (isMetricChar_of_isLabelChar (l.isLabelName.2 c hc))
  have hstart : Text.trimStart (l.key.toList ++ l.afterKey.chars) =
      l.key.toList ++ l.afterKey.chars := by
    obtain ⟨c, rest, hcons⟩ := List.exists_cons_of_ne_nil l.isLabelName.1
    rw [hcons]
    exact Text.trimStart_cons (hkey c (hcons ▸ List.mem_cons_self)) _
  have hend : Text.trimEnd l.key.toList = l.key.toList :=
    Text.trimEnd_eq_self fun c hc => hkey c (List.mem_of_mem_getLast? hc)
  rw [Text.trim, hstart, Text.trimEnd_append_of_blanks l.afterKey.isBlank, hend]

theorem equals_not_mem_key : '=' ∉ l.key.toList ++ l.afterKey.chars := by
  rw [List.mem_append]
  rintro (hkey | hblank)
  · exact equals_not_mem l.isLabelName.2 hkey
  · exact absurd (l.afterKey.isBlank _ hblank) (by decide)

theorem label_body {after rest : List Char} (hrest : Follows (l.afterValue.chars ++ after) rest) :
    label (l.body ++ after) = .ok ((l.key.toList, l.value.toList), rest) := by
  obtain ⟨htake, hdrop⟩ := takeWhile_append_equals l.equals_not_mem_key
    (l.beforeValue.chars ++ '"' :: (escape l.value.toList ++ '"' :: (l.afterValue.chars ++ after)))
  rw [l.body_append]
  exact label_of_pieces hdrop (by rw [htake, l.trim_key]) l.isLabelName.1 l.isLabelName.2
    (l.beforeValue.trimStart_cons (by decide) _) (value?_escape _ _) hrest

theorem labels_text {after rest : List Char} (hrest : Follows (l.afterValue.chars ++ after) rest)
    (fuel : Nat) (m : Labels) :
    labels (fuel + 1) m (l.text ++ after) = labels fuel (m.insert l.key l.value) rest := by
  obtain ⟨c, cs, hbody, hc⟩ := l.exists_body_cons
  have hblank := isBlank_of_isMetricChar (isMetricChar_of_isLabelChar hc)
  have htrim : Text.trimStart (l.text ++ after) = l.body ++ after := by
    rw [text, List.append_assoc, hbody, List.cons_append, l.beforeKey.trimStart_cons hblank]
  rw [labels, htrim]
  split
  · -- A name does not begin with the brace that closes the labels.
    rename_i heq
    rw [hbody] at heq
    obtain rfl := (List.cons.inj heq).1
    exact absurd hc (by decide)
  · rw [l.label_body hrest]
    simp [bind, Except.bind]

end LabelText

theorem labels_trimStart (fuel : Nat) (m : Labels) (cs : List Char) :
    labels fuel m (Text.trimStart cs) = labels fuel m cs := by
  cases fuel with
  | zero => rfl
  | succ fuel => simp only [labels, Text.trimStart_trimStart]

/-- Labels with commas between them, and blanks; `trailing` puts a comma after the last label
as well. -/
def labelsText (trailing : Bool) (closing : Blanks) : List LabelText → List Char
  | [] => closing.chars
  | l :: rest =>
    l.text ++ (if rest.isEmpty && !trailing then [] else [',']) ++ labelsText trailing closing rest

theorem length_le_labelsText (trailing : Bool) (closing : Blanks) (ls : List LabelText) :
    ls.length ≤ (labelsText trailing closing ls).length := by
  induction ls with
  | nil => exact Nat.zero_le _
  | cons l rest ih =>
      obtain ⟨c, cs, hbody, -⟩ := l.exists_body_cons
      simp only [labelsText, LabelText.text, hbody, List.length_append, List.length_cons]
      omega

theorem exists_follows (trailing : Bool) (closing blanks : Blanks) (ls : List LabelText)
    (after : List Char) :
    ∃ rest, Follows (blanks.chars ++ ((if ls.isEmpty && !trailing then [] else [',']) ++
        labelsText trailing closing ls ++ '\x7d' :: after)) rest ∧
      ∀ fuel m, labels fuel m rest =
        labels fuel m (labelsText trailing closing ls ++ '\x7d' :: after) := by
  split
  · -- Without a comma the reader stops at the brace, with the blanks before it already passed.
    rename_i hlast
    obtain rfl := List.isEmpty_iff.1 (Bool.and_eq_true_iff.1 hlast).1
    have hclosing : Text.trimStart (labelsText trailing closing [] ++ '\x7d' :: after) =
        '\x7d' :: after := closing.trimStart_cons (by decide) after
    refine ⟨'\x7d' :: after, .inr ⟨?_, rfl⟩, fun fuel m => ?_⟩
    · rw [Text.trimStart_append_of_blanks blanks.isBlank, List.nil_append, hclosing]
    · rw [← labels_trimStart fuel m (_ ++ _), hclosing]
  · exact ⟨_, .inl (blanks.trimStart_cons (by decide) _), fun _ _ => rfl⟩

theorem labels_labelsText (trailing : Bool) (closing : Blanks) (after : List Char)
    {ls : List LabelText} {fuel : Nat} (hfuel : ls.length < fuel) (m : Labels) :
    labels fuel m (labelsText trailing closing ls ++ '\x7d' :: after) =
      .ok (ls.foldl (fun m l => m.insert l.key l.value) m, after) := by
  induction ls generalizing fuel m with
  | nil =>
      obtain ⟨fuel, rfl⟩ := Nat.exists_eq_add_one.2 hfuel
      rw [labels, labelsText, closing.trimStart_cons (by decide)]
      rfl
  | cons l rest ih =>
      obtain ⟨fuel, rfl⟩ := Nat.exists_eq_add_one.2 (Nat.zero_lt_of_lt hfuel)
      obtain ⟨next, hnext, hlabels⟩ := exists_follows trailing closing l.afterValue rest after
      rw [labelsText, List.append_assoc, List.append_assoc, ← List.append_assoc _ _ (_ :: _),
        l.labels_text hnext, hlabels, ih (Nat.lt_of_succ_lt_succ hfuel), List.foldl_cons]

/-! ## Samples -/

/-- A sample as it is written.  A timestamp is among what follows the value. -/
structure SampleText where
  name : String
  isMetricName : IsMetricName name
  labels : List LabelText
  nodup_keys : (labels.map (·.key)).Nodup
  trailing : Bool
  closing : Blanks
  beforeValue : Blanks
  value : List Char
  isFloat : Literal.isFloat value = true
  after : List Char
  isBlank_after : ∀ c ∈ after.head?, Text.isBlank c = true

namespace SampleText

variable (s : SampleText)

def text : List Char :=
  s.name.toList ++ ['\x7b'] ++ labelsText s.trailing s.closing s.labels ++ ['\x7d'] ++
    s.beforeValue.chars ++ s.value ++ s.after

def pairs : List (String × String) :=
  (nameLabel, s.name) :: s.labels.map (fun l => (l.key, l.value))

theorem nodup_pairs : (s.pairs.map (·.1)).Nodup := by
  have hkeys : s.pairs.map (·.1) = nameLabel :: s.labels.map (·.key) := by
    simp [pairs]
  rw [hkeys, List.nodup_cons]
  refine ⟨fun hmem => ?_, s.nodup_keys⟩
  obtain ⟨l, -, hname⟩ := List.mem_map.1 hmem
  exact l.key_ne_name hname

theorem sample_eq_ofList : sample s.text = .ok (SortedMap.ofList s.pairs) := by
  have htext : s.text = s.name.toList ++ '\x7b' ::
      (labelsText s.trailing s.closing s.labels ++
        '\x7d' :: (s.beforeValue.chars ++ (s.value ++ s.after))) := by
    simp [text]
  have hfuel : s.labels.length < (labelsText s.trailing s.closing s.labels ++
      '\x7d' :: (s.beforeValue.chars ++ (s.value ++ s.after))).length + 1 := by
    have hlength := length_le_labelsText s.trailing s.closing s.labels
    rw [List.length_append]
    omega
  have hmap : s.labels.foldl (fun m l => m.insert l.key l.value) (named s.name.toList) =
      SortedMap.ofList s.pairs := by
    simp [SortedMap.ofList, pairs, named, List.foldl_map]
  rw [htext, sample_name s.isMetricName.1 s.isMetricName.2 (.inl rfl), if_pos rfl,
    labels_labelsText _ _ _ hfuel, hmap]
  exact valued_append (isValue_of_isFloat s.isFloat) _ s.beforeValue.isBlank s.isBlank_after

/-- A sample that is written is read, and has the labels that were written and its metric name
for labels, and no others. -/
theorem sample_written :
    ∃ ls, sample s.text = .ok ls ∧
      ∀ k v, ls.get? k = some v ↔
        k = nameLabel ∧ v = s.name ∨ ∃ l ∈ s.labels, l.key = k ∧ l.value = v := by
  refine ⟨_, s.sample_eq_ofList, fun k v => ?_⟩
  rw [SortedMap.get?_ofList_eq_some_iff s.nodup_pairs]
  simp [pairs, Prod.ext_iff]

def manyQuotes : SampleText where
  name := "http:reads_total"
  isMetricName := by decide
  labels :=
    [{ key := "path", value := "a=\"b\", \x7bc\x7d\\", isLabelName := by decide,
       key_ne_name := by decide, beforeKey := .space, afterKey := .space,
       beforeValue := .space, afterValue := .space },
     { key := "le", value := "é\n,=\"", isLabelName := by decide, key_ne_name := by decide,
       beforeKey := .none, afterKey := .none, beforeValue := .none, afterValue := .none }]
  nodup_keys := by decide
  trailing := true
  closing := .space
  beforeValue := .space
  value := ['+', 'I', 'n', 'f']
  isFloat := by decide
  after := ' ' :: "1395066363000".toList
  isBlank_after c hc := by
    obtain rfl := Option.some.inj hc
    decide

theorem sample_written_manyQuotes :
    manyQuotes.text =
        ("http:reads_total\x7b path = \"a=\\\"b\\\", \x7bc\x7d\\\\\" ,le=\"é\\n,=\\\"\", \x7d" ++
          " +Inf 1395066363000").toList ∧
      ∃ ls, sample manyQuotes.text = .ok ls ∧
        ls.get? "path" = some "a=\"b\", \x7bc\x7d\\" ∧ ls.get? "le" = some "é\n,=\"" ∧
          ls.get? nameLabel = some "http:reads_total" ∧ ls.get? "b" = none := by
  obtain ⟨ls, hsample, hget⟩ := manyQuotes.sample_written
  refine ⟨by decide +kernel, ls, hsample, ?_, ?_, ?_, ?_⟩
  · rw [hget]
    decide
  · rw [hget]
    decide
  · rw [hget]
    decide
  · cases hb : ls.get? "b" with
    | none => rfl
    | some v =>
        obtain ⟨hname, -⟩ | ⟨l, hl, hkey, -⟩ := (hget _ _).1 hb
        · exact absurd hname (by decide)
        · exact absurd hkey ((by decide : ∀ l ∈ manyQuotes.labels, l.key ≠ "b") l hl)

end SampleText

end Exposition

end ScrapeFleet
