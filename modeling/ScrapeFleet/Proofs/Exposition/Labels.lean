import ScrapeFleet.Exposition
import ScrapeFleet.Proofs.Text.Lines

/-!
# Labels in the line of a sample

A label value that a reader finds lies between two quotes of the line, and is shorter than
what lies between them if that has escapes; `reach` measures this.  So a text that is
written between quotes as it is comes back only if it has neither quotes nor escapes.
-/

namespace ScrapeFleet.Exposition

/-! ## Quoted values -/

/-- The number of characters up to the last quote. -/
def reach : List Char → Nat
  | [] => 0
  | c :: cs => if c = '"' ∨ 0 < reach cs then reach cs + 1 else 0

theorem reach_append_quote (before after : List Char) :
    reach (before ++ '"' :: after) = before.length + 1 + reach after := by
  induction before with
  | nil => simp [reach, Nat.add_comm]
  | cons c rest ih =>
      rw [List.cons_append, reach, ih, if_pos (.inr (by omega)), List.length_cons]
      omega

theorem reach_cons_quote (after : List Char) : reach ('"' :: after) = reach after + 1 := by
  simp [reach]

theorem reach_le_cons (c : Char) (cs : List Char) : reach cs ≤ reach (c :: cs) := by
  rw [reach]
  split <;> omega

theorem reach_of_not_mem {cs : List Char} (h : '"' ∉ cs) : reach cs = 0 := by
  induction cs with
  | nil => rfl
  | cons c rest ih =>
      rw [List.mem_cons, not_or] at h
      rw [reach, ih h.2, if_neg (by simp [Ne.symm h.1])]

theorem reach_append_of_not_mem {cs after : List Char} (h : '"' ∉ after) :
    reach (cs ++ after) = reach cs := by
  induction cs with
  | nil => exact reach_of_not_mem h
  | cons c rest ih => rw [List.cons_append, reach, reach, ih]

theorem reach_trimEnd (cs : List Char) : reach (Text.trimEnd cs) = reach cs := by
  obtain ⟨blanks, hblanks, hcs⟩ := Text.exists_blanks cs
  have hquote : '"' ∉ blanks := fun hmem => absurd (hblanks _ hmem) (by decide)
  calc reach (Text.trimEnd cs)
      = reach (Text.trimEnd cs ++ blanks) := (reach_append_of_not_mem hquote).symm
    _ = reach cs := by rw [← hcs]

theorem reach_le_length (cs : List Char) : reach cs ≤ cs.length := by
  induction cs with
  | nil => exact Nat.le_refl _
  | cons c rest ih =>
      rw [reach, List.length_cons]
      split <;> omega

theorem reach_le_of_isSuffix {cs cs' : List Char} (h : cs <:+ cs') : reach cs ≤ reach cs' := by
  obtain ⟨before, rfl⟩ := h
  induction before with
  | nil => exact Nat.le_refl _
  | cons c rest ih => exact Nat.le_trans ih (reach_le_cons c _)

def isVerbatim (c : Char) : Bool := c ≠ '"' && c ≠ '\\'

theorem value?_cons {c : Char} (hc : isVerbatim c = true) (cs : List Char) :
    value? (c :: cs) = (value? cs).map (fun (v, after) => (c :: v, after)) := by
  simp only [isVerbatim, Bool.and_eq_true, decide_eq_true_eq] at hc
  rw [value?.eq_def]
  split <;> simp_all

theorem value?_append_quote {v : List Char} (hv : ∀ c ∈ v, isVerbatim c = true)
    (after : List Char) : value? (v ++ '"' :: after) = some (v, after) := by
  induction v with
  | nil => rfl
  | cons c rest ih =>
      rw [List.cons_append, value?_cons (hv c List.mem_cons_self),
        ih fun x hx => hv x (List.mem_cons_of_mem _ hx)]
      rfl

theorem value?_eq_some {cs v after : List Char} (h : value? cs = some (v, after)) :
    ∃ quoted, cs = quoted ++ '"' :: after ∧ v.length ≤ quoted.length ∧
      (v.length = quoted.length → v = quoted ∧ ∀ c ∈ v, isVerbatim c = true) := by
  fun_induction value? cs generalizing v with
  | case1 => cases h
  | case2 rest =>
      obtain ⟨rfl, rfl⟩ := Prod.mk.inj (Option.some.inj h)
      exact ⟨[], rfl, Nat.le_refl _, fun _ => ⟨rfl, by simp⟩⟩
  | case3 c rest ih =>
      obtain ⟨⟨v', after'⟩, hrest, hv⟩ := Option.map_eq_some_iff.1 h
      obtain ⟨rfl, rfl⟩ := Prod.mk.inj hv
      obtain ⟨quoted, rfl, hle, -⟩ := ih hrest
      refine ⟨'\\' :: c :: quoted, rfl, ?_, ?_⟩ <;> simp only [List.length_cons] <;> omega
  | case4 => cases h
  | case5 c rest hquote hescape hlast ih =>
      obtain ⟨⟨v', after'⟩, hrest, hv⟩ := Option.map_eq_some_iff.1 h
      obtain ⟨rfl, rfl⟩ := Prod.mk.inj hv
      obtain ⟨quoted, rfl, hle, heq⟩ := ih hrest
      refine ⟨c :: quoted, rfl, by simpa using hle, fun hlength => ?_⟩
      obtain ⟨rfl, hverbatim⟩ := heq (by simpa using hlength)
      have hc : isVerbatim c = true := by
        simp only [isVerbatim, Bool.and_eq_true, decide_eq_true_eq]
        refine ⟨hquote, ?_⟩
        rintro rfl
        cases v' with
        | nil => exact hescape _ _ rfl rfl
        | cons x xs => exact hescape _ _ rfl rfl
      exact ⟨rfl, List.forall_mem_cons.2 ⟨hc, hverbatim⟩⟩

/-! ## Labels -/

theorem visible_of_isMetricChar {c : Char} (hc : isMetricChar c = true) :
    48 ≤ c.toNat ∧ c.toNat ≤ 122 := by
  unfold isMetricChar isLabelChar Char.isAlphanum Char.isAlpha Char.isUpper Char.isLower
    Char.isDigit at hc
  simp only [UInt32.le_iff_toNat_le, Bool.or_eq_true, Bool.and_eq_true, decide_eq_true_eq] at hc
  rcases hc with ((((hc | hc) | hc) | rfl) | rfl)
  · exact ⟨Nat.le_trans (by decide) hc.1, Nat.le_trans hc.2 (by decide)⟩
  · exact ⟨Nat.le_trans (by decide) hc.1, Nat.le_trans hc.2 (by decide)⟩
  · exact ⟨hc.1, Nat.le_trans hc.2 (by decide)⟩
  · decide
  · decide

theorem isBlank_of_isMetricChar {c : Char} (hc : isMetricChar c = true) :
    Text.isBlank c = false := by
  obtain ⟨hlow, hhigh⟩ := visible_of_isMetricChar hc
  exact Text.isBlank_of_visible (by omega) (by omega)

theorem isMetricChar_of_isLabelChar {c : Char} (hc : isLabelChar c = true) :
    isMetricChar c = true := by
  simp [isMetricChar, hc]

def IsMetricName (name : String) : Prop :=
  name.toList ≠ [] ∧ ∀ c ∈ name.toList, isMetricChar c = true

def IsLabelName (name : String) : Prop :=
  name.toList ≠ [] ∧ ∀ c ∈ name.toList, isLabelChar c = true

instance (name : String) : Decidable (IsMetricName name) :=
  decidable_of_iff ((!name.toList.isEmpty && name.toList.all isMetricChar) = true)
    (by simp [IsMetricName])

instance (name : String) : Decidable (IsLabelName name) :=
  decidable_of_iff ((!name.toList.isEmpty && name.toList.all isLabelChar) = true)
    (by simp [IsLabelName])

def Follows (after rest : List Char) : Prop :=
  Text.trimStart after = ',' :: rest ∨ Text.trimStart after = rest ∧ rest.head? = some '\x7d'

theorem label_eq_ok {cs key value rest : List Char} (h : label cs = .ok ((key, value), rest)) :
    ∃ c afterName quoted after, cs.dropWhile (· ≠ '=') = c :: afterName ∧
      key = Text.trim (cs.takeWhile (· ≠ '=')) ∧ Text.trimStart afterName = '"' :: quoted ∧
      value? quoted = some (value, after) ∧ Follows after rest := by
  unfold label at h
  split at h
  · cases h
  rename_i c afterName hname
  simp only at h
  split at h
  · cases h
  split at h
  · rename_i quoted hquoted
    split at h
    · cases h
    · rename_i value' after hvalue
      split at h
      · rename_i more hmore
        obtain ⟨hlabel, rfl⟩ := Prod.mk.inj (Except.ok.inj h)
        obtain ⟨rfl, rfl⟩ := Prod.mk.inj hlabel
        exact ⟨c, afterName, quoted, after, hname, rfl, hquoted, hvalue, .inl hmore⟩
      · rename_i more hmore
        obtain ⟨hlabel, rfl⟩ := Prod.mk.inj (Except.ok.inj h)
        obtain ⟨rfl, rfl⟩ := Prod.mk.inj hlabel
        exact ⟨c, afterName, quoted, after, hname, rfl, hquoted, hvalue, .inr ⟨hmore, rfl⟩⟩
      · cases h
  · cases h

theorem label_of_pieces {cs key afterName quoted value after rest : List Char} {c : Char}
    (hdrop : cs.dropWhile (· ≠ '=') = c :: afterName)
    (hkey : Text.trim (cs.takeWhile (· ≠ '=')) = key) (hne : key ≠ [])
    (hchars : ∀ c ∈ key, isLabelChar c = true) (hquote : Text.trimStart afterName = '"' :: quoted)
    (hvalue : value? quoted = some (value, after)) (hrest : Follows after rest) :
    label cs = .ok ((key, value), rest) := by
  have hvalid : (key.isEmpty || !key.all isLabelChar) = false := by
    simpa [hne] using hchars
  unfold label
  simp only [hdrop, hkey, hvalid, hquote, hvalue]
  rcases hrest with hcomma | ⟨htrim, hbrace⟩
  · rw [hcomma]
    rfl
  · obtain ⟨more, rfl⟩ := List.head?_eq_some_iff.1 hbrace
    rw [htrim]
    rfl

theorem reach_le_of_follows {after rest : List Char} (h : Follows after rest) :
    reach rest ≤ reach after := by
  have hsuffix : Text.trimStart after <:+ after := List.dropWhile_suffix _
  have hle := reach_le_of_isSuffix hsuffix
  rcases h with h | ⟨h, -⟩
  · rw [h] at hle
    exact Nat.le_trans (reach_le_cons _ _) hle
  · rwa [h] at hle

theorem reach_of_label {cs key value rest : List Char} (h : label cs = .ok ((key, value), rest)) :
    value.length + 2 + reach rest ≤ reach cs := by
  obtain ⟨c, afterName, quoted, after, hname, -, hquote, hvalue, hrest⟩ := label_eq_ok h
  obtain ⟨inner, rfl, hlength, -⟩ := value?_eq_some hvalue
  have hrest := reach_le_of_follows hrest
  have hstart : Text.trimStart afterName <:+ cs :=
    (List.dropWhile_suffix _).trans
      ((List.suffix_cons c afterName).trans (hname ▸ List.dropWhile_suffix _))
  have hcs := reach_le_of_isSuffix hstart
  rw [hquote, reach_cons_quote, reach_append_quote] at hcs
  omega

theorem get?_of_labels {fuel : Nat} {ls ls' : Labels} {cs rest : List Char}
    (h : labels fuel ls cs = .ok (ls', rest)) {key value : String}
    (hvalue : ls'.get? key = some value) :
    ls.get? key = some value ∨ value.toList.length + 2 ≤ reach cs := by
  induction fuel generalizing ls cs with
  | zero => cases h
  | succ fuel ih =>
      rw [labels] at h
      have hcs : reach (Text.trimStart cs) ≤ reach cs :=
        reach_le_of_isSuffix (List.dropWhile_suffix _)
      split at h
      · obtain ⟨rfl, -⟩ := Prod.mk.inj (Except.ok.inj h)
        exact .inl hvalue
      · cases hlabel : label (Text.trimStart cs) with
        | error f =>
            rw [hlabel] at h
            cases h
        | ok read =>
            obtain ⟨⟨key', value'⟩, rest'⟩ := read
            rw [hlabel] at h
            have hreach := reach_of_label hlabel
            rcases ih h with hget | hlater
            · rw [SortedMap.get?_insert] at hget
              split at hget
              · obtain rfl := Option.some.inj hget
                rw [String.toList_ofList]
                exact .inr (by omega)
              · exact .inl hget
            · exact .inr (by omega)

/-! ## A label and its value -/

theorem takeWhile_append_equals {name : List Char} (hname : '=' ∉ name) (after : List Char) :
    (name ++ '=' :: after).takeWhile (· ≠ '=') = name ∧
      (name ++ '=' :: after).dropWhile (· ≠ '=') = '=' :: after := by
  have hne : ∀ c ∈ name, decide (c ≠ '=') = true := by
    intro c hc
    refine decide_eq_true ?_
    rintro rfl
    exact hname hc
  constructor
  · rw [List.takeWhile_append_of_pos hne]
    simp
  · rw [List.dropWhile_append_of_pos hne]
    simp

section Label

variable {key : List Char} (hne : key ≠ []) (hkey : ∀ c ∈ key, isLabelChar c = true)

include hkey

theorem equals_not_mem : '=' ∉ key := fun hmem => absurd (hkey _ hmem) (by decide)

theorem trim_name : Text.trim key = key :=
  Text.trim_eq_self
    (fun _ hc => isBlank_of_isMetricChar
      (isMetricChar_of_isLabelChar (hkey _ (List.mem_of_mem_head? hc))))
    (fun _ hc => isBlank_of_isMetricChar
      (isMetricChar_of_isLabelChar (hkey _ (List.mem_of_mem_getLast? hc))))

theorem label_name_eq_ok {key' quoted value rest : List Char}
    (h : label (key ++ '=' :: '"' :: quoted) = .ok ((key', value), rest)) :
    key' = key ∧ ∃ after, value? quoted = some (value, after) ∧ Follows after rest := by
  obtain ⟨c, afterName, quoted', after, hdrop, rfl, hquote, hvalue, hrest⟩ := label_eq_ok h
  obtain ⟨htake, hdrop'⟩ := takeWhile_append_equals (equals_not_mem hkey) ('"' :: quoted)
  rw [hdrop'] at hdrop
  obtain ⟨rfl, rfl⟩ := List.cons.inj hdrop
  rw [Text.trimStart_cons (by decide)] at hquote
  obtain ⟨-, rfl⟩ := List.cons.inj hquote
  exact ⟨by rw [htake, trim_name hkey], after, hvalue, hrest⟩

include hne

theorem label_verbatim {value : List Char} (hvalue : ∀ c ∈ value, isVerbatim c = true)
    (after : List Char) :
    label (key ++ '=' :: '"' :: (value ++ '"' :: '\x7d' :: after)) =
      .ok ((key, value), '\x7d' :: after) := by
  obtain ⟨htake, hdrop⟩ := takeWhile_append_equals (equals_not_mem hkey)
    ('"' :: (value ++ '"' :: '\x7d' :: after))
  exact label_of_pieces hdrop (by rw [htake, trim_name hkey]) hne hkey
    (Text.trimStart_cons (by decide) _) (value?_append_quote hvalue _)
    (.inr ⟨Text.trimStart_cons (by decide) _, rfl⟩)

theorem labels_name (fuel : Nat) (ls : Labels) (quoted : List Char) :
    labels (fuel + 1) ls (key ++ '=' :: '"' :: quoted) = (do
      let ((key, value), rest) ← label (key ++ '=' :: '"' :: quoted)
      labels fuel (ls.insert (String.ofList key) (String.ofList value)) rest) := by
  obtain ⟨c, name, rfl⟩ := List.exists_cons_of_ne_nil hne
  have hc := hkey c List.mem_cons_self
  have hbrace : c ≠ '\x7d' := by
    rintro rfl
    exact absurd hc (by decide)
  rw [labels, List.cons_append,
    Text.trimStart_cons (isBlank_of_isMetricChar (isMetricChar_of_isLabelChar hc))]
  split
  · rename_i heq
    exact absurd (List.cons.inj heq).1 hbrace
  · rfl

/-- A label that has a value after reading has at least its text up to the last quote, and
just that only if the text needs no escapes. -/
theorem reach_of_labels {fuel : Nat} {ls ls' : Labels} {quoted value rest : List Char}
    (h : labels fuel ls (key ++ '=' :: '"' :: quoted) = .ok (ls', rest))
    (hvalue : ls'.get? (String.ofList key) = some (String.ofList value)) :
    value.length + 1 ≤ reach quoted ∧
      (reach quoted = value.length + 1 → ∀ c ∈ value, isVerbatim c = true) := by
  cases fuel with
  | zero => cases h
  | succ fuel =>
      rw [labels_name hne hkey] at h
      cases hlabel : label (key ++ '=' :: '"' :: quoted) with
      | error f =>
          rw [hlabel] at h
          cases h
      | ok read =>
          obtain ⟨⟨key', first⟩, rest'⟩ := read
          rw [hlabel] at h
          obtain ⟨rfl, after, hfirst, hrest⟩ := label_name_eq_ok hkey hlabel
          obtain ⟨inner, rfl, hle, hverbatim⟩ := value?_eq_some hfirst
          have hrest := reach_le_of_follows hrest
          rw [reach_append_quote]
          -- The value may come from a later label of that name, but such a label has less room.
          rcases get?_of_labels h hvalue with hget | hlater
          · rw [SortedMap.get?_insert, if_pos rfl] at hget
            obtain rfl := String.ofList_injective (Option.some.inj hget)
            exact ⟨by omega, fun heq => (hverbatim (by omega)).2⟩
          · rw [String.toList_ofList] at hlater
            exact ⟨by omega, fun heq => by omega⟩

end Label

/-! ## Value tokens -/

def NoBlank (cs : List Char) : Prop := ∀ c ∈ cs, Text.isBlank c = false

instance (cs : List Char) : Decidable (NoBlank cs) :=
  decidable_of_iff (cs.all (!Text.isBlank ·) = true) (by simp [NoBlank])

theorem noBlank_of_dropSign {cs : List Char} (h : NoBlank (Literal.dropSign cs)) : NoBlank cs := by
  unfold Literal.dropSign at h
  split at h
  · exact List.forall_mem_cons.2 ⟨by decide, h⟩
  · exact List.forall_mem_cons.2 ⟨by decide, h⟩
  · exact h

theorem isBlank_of_isDigit {c : Char} (hc : c.isDigit = true) : Text.isBlank c = false :=
  isBlank_of_isMetricChar (by simp [isMetricChar, isLabelChar, Char.isAlphanum, hc])

theorem noBlank_of_digits {cs : List Char} (h : NoBlank (Literal.digits cs).2) : NoBlank cs := by
  intro c hc
  rw [← List.takeWhile_append_dropWhile (p := Char.isDigit) (l := cs)] at hc
  rcases List.mem_append.1 hc with hdigit | hrest
  · exact isBlank_of_isDigit (List.all_eq_true.1 List.all_takeWhile c hdigit)
  · exact h c hrest

theorem noBlank_of_isExponent {cs : List Char} (h : Literal.isExponent cs = true) : NoBlank cs := by
  cases cs with
  | nil => exact List.forall_mem_nil _
  | cons c rest =>
      rw [Literal.isExponent] at h
      split at h
      · rename_i hc
        have hletter : Text.isBlank c = false := by
          rcases (by simpa using hc : c = 'e' ∨ c = 'E') with rfl | rfl <;> decide
        have hdigits : ∀ x ∈ Literal.dropSign rest, x.isDigit = true :=
          List.all_eq_true.1 (Bool.and_eq_true_iff.1 h).2
        exact List.forall_mem_cons.2
          ⟨hletter, noBlank_of_dropSign fun x hx => isBlank_of_isDigit (hdigits x hx)⟩
      · cases h

theorem noBlank_of_isDecimal {cs : List Char} (h : Literal.isDecimal cs = true) : NoBlank cs := by
  refine noBlank_of_digits ?_
  simp only [Literal.isDecimal] at h
  split at h
  · rename_i more hpoint
    rw [hpoint]
    exact List.forall_mem_cons.2
      ⟨by decide, noBlank_of_digits (noBlank_of_isExponent (Bool.and_eq_true_iff.1 h).2)⟩
  · exact noBlank_of_isExponent (Bool.and_eq_true_iff.1 h).2

theorem toLower_of_isBlank {c : Char} (hc : Text.isBlank c = true) : c.toLower = c := by
  have hupper : ¬ (65 ≤ c.toNat ∧ c.toNat ≤ 90) := by
    rintro ⟨hlow, hhigh⟩
    rw [Text.isBlank_of_visible (by omega) (by omega)] at hc
    cases hc
  unfold Char.toLower
  split
  · rename_i h
    exact absurd h hupper
  · rfl

theorem noBlank_of_map_toLower {cs word : List Char} (h : cs.map Char.toLower = word)
    (hword : NoBlank word) : NoBlank cs := by
  intro c hc
  by_contra hblank
  rw [Bool.not_eq_false] at hblank
  have hmem : c ∈ word := h ▸ toLower_of_isBlank hblank ▸ List.mem_map_of_mem hc
  rw [hword c hmem] at hblank
  cases hblank

theorem noBlank_of_isFloat {cs : List Char} (h : Literal.isFloat cs = true) : NoBlank cs := by
  refine noBlank_of_dropSign ?_
  simp only [Literal.isFloat, Bool.or_eq_true, decide_eq_true_eq] at h
  rcases h with ((hdecimal | hword) | hword) | hword
  · exact noBlank_of_isDecimal hdecimal
  all_goals exact noBlank_of_map_toLower hword (by decide)

/-- Text that is read as the value of a sample. -/
structure IsValue (value : List Char) : Prop where
  ne_nil : value ≠ []
  noBlank : NoBlank value
  isFloat : Literal.isFloat value = true

theorem isValue_of_isFloat {value : List Char} (h : Literal.isFloat value = true) :
    IsValue value where
  ne_nil := by
    rintro rfl
    exact absurd h (by decide)
  noBlank := noBlank_of_isFloat h
  isFloat := h

/-! ## A sample with one label or none -/

section Sample

variable {name : List Char} (hname : name ≠ []) (hchars : ∀ c ∈ name, isMetricChar c = true)

def named (name : List Char) : Labels := SortedMap.empty.insert nameLabel (String.ofList name)

def valued (ls : Labels) (rest : List Char) : Except Fault Labels :=
  let value := Text.firstWord rest
  if value.isEmpty then .error .noValue
  else if Literal.isFloat value then .ok ls
  else .error (.badValue value)

theorem valued_append {value : List Char} (h : IsValue value) (ls : Labels)
    {blanks after : List Char} (hblanks : ∀ c ∈ blanks, Text.isBlank c = true)
    (hafter : ∀ c ∈ after.head?, Text.isBlank c = true) :
    valued ls (blanks ++ (value ++ after)) = .ok ls := by
  have hword := Text.firstWord_append hblanks h.ne_nil h.noBlank hafter
  simp [valued, hword, h.ne_nil, h.isFloat]

theorem valued_eq_ok {value : List Char} (h : IsValue value) (ls : Labels) :
    valued ls (' ' :: value) = .ok ls := by
  have hread := @valued_append value h ls [' '] [] (List.forall_mem_singleton.2 (by decide)) (by simp)
  rwa [List.append_nil] at hread

include hname hchars

theorem sample_name {c : Char} (hc : c = '\x7b' ∨ Text.isBlank c = true) (cs : List Char) :
    sample (name ++ c :: cs) = (do
      let (ls, rest) ← if c = '\x7b' then labels (cs.length + 1) (named name) cs
        else .ok (named name, cs)
      valued ls rest) := by
  have hin : ∀ x ∈ name, (!(decide (x = '\x7b') || Text.isBlank x)) = true := by
    intro x hx
    have hblank := isBlank_of_isMetricChar (hchars x hx)
    have hbrace : x ≠ '\x7b' := by
      rintro rfl
      exact absurd (hchars _ hx) (by decide)
    simp [hblank, hbrace]
  have hend : (!(decide (c = '\x7b') || Text.isBlank c)) = false := by
    rcases hc with rfl | hc
    · rfl
    · simp [hc]
  have hvalid : (name.isEmpty || !name.all isMetricChar) = false := by
    simpa [hname] using hchars
  unfold sample
  simp only [List.takeWhile_append_of_pos hin, List.dropWhile_append_of_pos hin,
    List.takeWhile_cons, List.dropWhile_cons, hend, Bool.false_eq_true, if_false,
    List.append_nil, hvalid]
  rfl

theorem sample_bare {value : List Char} (h : IsValue value) :
    sample (name ++ ' ' :: value) = .ok (named name) := by
  rw [sample_name hname hchars (.inr (by decide)), if_neg (by decide)]
  exact valued_eq_ok h _

theorem labels_of_sample {cs : List Char} {ls : Labels}
    (h : sample (name ++ '\x7b' :: cs) = .ok ls) :
    ∃ rest, labels (cs.length + 1) (named name) cs = .ok (ls, rest) := by
  rw [sample_name hname hchars (.inl rfl), if_pos rfl] at h
  cases hlabels : labels (cs.length + 1) (named name) cs with
  | error f =>
      rw [hlabels] at h
      cases h
  | ok read =>
      obtain ⟨ls', rest⟩ := read
      rw [hlabels] at h
      replace h : valued ls' rest = .ok ls := h
      unfold valued at h
      simp only at h
      split at h
      · cases h
      · split at h
        · obtain rfl := Except.ok.inj h
          exact ⟨rest, rfl⟩
        · cases h

theorem sample_verbatim {key text value : List Char} (hne : key ≠ [])
    (hkey : ∀ c ∈ key, isLabelChar c = true) (htext : ∀ c ∈ text, isVerbatim c = true)
    (h : IsValue value) :
    sample (name ++ '\x7b' :: (key ++ '=' :: '"' :: (text ++ '"' :: '\x7d' :: ' ' :: value))) =
      .ok ((named name).insert (String.ofList key) (String.ofList text)) := by
  have hlength : (key ++ '=' :: '"' :: (text ++ '"' :: '\x7d' :: ' ' :: value)).length =
      (key.length + text.length + value.length + 4) + 1 := by
    simp only [List.length_append, List.length_cons]
    omega
  rw [sample_name hname hchars (.inl rfl), if_pos rfl, labels_name hne hkey,
    label_verbatim hne hkey htext, hlength]
  exact valued_eq_ok h _

/-! ## Lines -/

omit hname hchars in
theorem line_cons {c : Char} (hc : isMetricChar c = true) (rest : List Char) :
    line (c :: rest) = (sample (c :: Text.trimEnd rest)).map some := by
  have hblank := isBlank_of_isMetricChar hc
  have htrim : Text.trim (c :: rest) = c :: Text.trimEnd rest := by
    rw [Text.trim, Text.trimStart_cons hblank]
    exact Text.trimEnd_append_cons hblank [] rest
  unfold line
  rw [htrim]
  split
  · rename_i heq
    cases heq
  · rename_i heq
    obtain rfl := (List.cons.inj heq).1
    exact absurd hc (by decide)
  · rfl

theorem line_braces (cs : List Char) :
    line (name ++ '\x7b' :: cs) = (sample (name ++ '\x7b' :: Text.trimEnd cs)).map some := by
  obtain ⟨c, rest, rfl⟩ := List.exists_cons_of_ne_nil hname
  rw [List.cons_append, line_cons (hchars c List.mem_cons_self),
    Text.trimEnd_append_cons (by decide)]
  rfl

/-- Where a label is read from a line, the value is no longer than what lies before the last
quote, and it is just that only if nothing in it needs an escape. -/
theorem exists_of_line_braces {key quoted : List Char} {read : Option Labels} (hne : key ≠ [])
    (hkey : ∀ c ∈ key, isLabelChar c = true)
    (h : line (name ++ '\x7b' :: (key ++ '=' :: '"' :: quoted)) = .ok read) :
    ∃ ls, read = some ls ∧
      ∀ text, ls.get? (String.ofList key) = some (String.ofList text) →
        text.length + 1 ≤ reach quoted ∧
          (reach quoted = text.length + 1 → ∀ c ∈ text, isVerbatim c = true) := by
  have htrim : Text.trimEnd (key ++ '=' :: '"' :: quoted) =
      key ++ '=' :: '"' :: Text.trimEnd quoted := by
    rw [Text.trimEnd_append_cons (by decide)]
    exact congrArg (fun rest => key ++ '=' :: rest) (Text.trimEnd_append_cons (by decide) [] quoted)
  rw [line_braces hname hchars, htrim] at h
  cases hsample : sample (name ++ '\x7b' :: (key ++ '=' :: '"' :: Text.trimEnd quoted)) with
  | error f =>
      rw [hsample] at h
      cases h
  | ok ls =>
      rw [hsample] at h
      obtain rfl := Except.ok.inj h
      obtain ⟨rest, hlabels⟩ := labels_of_sample hname hchars hsample
      refine ⟨ls, rfl, fun text hget => ?_⟩
      rw [← reach_trimEnd quoted]
      exact reach_of_labels hne hkey hlabels hget

omit hname hchars in
theorem trimEnd_append_value {value : List Char} (h : IsValue value) (before : List Char) :
    Text.trimEnd (before ++ value) = before ++ value := by
  refine Text.trimEnd_eq_self fun c hc => ?_
  rw [List.getLast?_append, List.getLast?_eq_some_getLast h.ne_nil, Option.some_or] at hc
  obtain rfl := Option.some.inj hc
  exact h.noBlank _ (List.getLast_mem _)

theorem line_bare {value : List Char} (h : IsValue value) :
    line (name ++ ' ' :: value) = .ok (some (named name)) := by
  obtain ⟨c, rest, rfl⟩ := List.exists_cons_of_ne_nil hname
  have htrim := trimEnd_append_value h (rest ++ [' '])
  rw [List.append_assoc, List.singleton_append] at htrim
  rw [List.cons_append, line_cons (hchars c List.mem_cons_self), htrim, ← List.cons_append,
    sample_bare hname hchars h]
  rfl

theorem line_verbatim {key text value : List Char} (hne : key ≠ [])
    (hkey : ∀ c ∈ key, isLabelChar c = true) (htext : ∀ c ∈ text, isVerbatim c = true)
    (h : IsValue value) :
    line (name ++ '\x7b' :: (key ++ '=' :: '"' :: (text ++ '"' :: '\x7d' :: ' ' :: value))) =
      .ok (some ((named name).insert (String.ofList key) (String.ofList text))) := by
  have htrim := trimEnd_append_value h (key ++ '=' :: '"' :: (text ++ ['"', '\x7d', ' ']))
  simp only [List.append_assoc, List.cons_append, List.nil_append] at htrim
  rw [line_braces hname hchars, htrim, sample_verbatim hname hchars hne hkey htext h]
  rfl

end Sample

theorem line_comment (rest : List Char) : line ('#' :: rest) = .ok none := by
  have htrim : Text.trim ('#' :: rest) = '#' :: Text.trimEnd rest := by
    rw [Text.trim, Text.trimStart_cons (by decide)]
    exact Text.trimEnd_append_cons (by decide) [] rest
  rw [line, htrim]
  rfl

end ScrapeFleet.Exposition
