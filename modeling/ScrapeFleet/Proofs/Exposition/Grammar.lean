import ScrapeFleet.Proofs.Exposition.Labels

/-!
# Which lines are samples

The reader of a sample goes from left to right and reports the first fault that it meets.
Here the samples that it accepts are described by a grammar, which says nothing on faults
and on the order of reading.
-/

namespace ScrapeFleet.Exposition

def AllBlank (cs : List Char) : Prop := ∀ c ∈ cs, Text.isBlank c = true

/-! ## Grammar -/

inductive IsQuoted : List Char → Prop where
  | nil : IsQuoted []
  | verbatim {c : Char} {cs : List Char} : isVerbatim c = true → IsQuoted cs → IsQuoted (c :: cs)
  | escape {c : Char} {cs : List Char} : IsQuoted cs → IsQuoted ('\\' :: c :: cs)

inductive IsLabel : List Char → Prop where
  | intro {before key afterKey beforeValue quoted after : List Char} :
    AllBlank before → key ≠ [] → (∀ c ∈ key, isLabelChar c = true) → AllBlank afterKey →
    AllBlank beforeValue → IsQuoted quoted → AllBlank after →
    IsLabel (before ++ key ++ afterKey ++ '=' :: (beforeValue ++ '"' :: (quoted ++ '"' :: after)))

/-- Labels with commas between them, up to the brace that closes them; a comma may also stand
after the last one. -/
inductive IsLabels : List Char → Prop where
  | close {blanks : List Char} : AllBlank blanks → IsLabels (blanks ++ ['\x7d'])
  | last {l : List Char} : IsLabel l → IsLabels (l ++ ['\x7d'])
  | next {l rest : List Char} : IsLabel l → IsLabels rest → IsLabels (l ++ ',' :: rest)

/-- A value, and anything after it that white space sets apart. -/
inductive IsValued : List Char → Prop where
  | intro {blanks value after : List Char} :
    AllBlank blanks → Literal.isFloat value = true → (∀ c ∈ after.head?, Text.isBlank c = true) →
    IsValued (blanks ++ (value ++ after))

inductive IsSample : List Char → Prop where
  | bare {name rest : List Char} {c : Char} :
    name ≠ [] → (∀ c ∈ name, isMetricChar c = true) → Text.isBlank c = true → IsValued rest →
    IsSample (name ++ c :: rest)
  | labelled {name ls rest : List Char} :
    name ≠ [] → (∀ c ∈ name, isMetricChar c = true) → IsLabels ls → IsValued rest →
    IsSample (name ++ '\x7b' :: (ls ++ rest))

def IsFine (cs : List Char) : Prop :=
  Text.trim cs = [] ∨ (Text.trim cs).head? = some '#' ∨ IsSample (Text.trim cs)

/-! ## White space -/

theorem trimStart_blanks_cons {blanks : List Char} (hblanks : AllBlank blanks) {c : Char}
    (hc : Text.isBlank c = false) (cs : List Char) :
    Text.trimStart (blanks ++ c :: cs) = c :: cs := by
  rw [Text.trimStart_append_of_blanks hblanks, Text.trimStart_cons hc]

/-! ## Labels -/

theorem exists_value?_iff {cs after : List Char} :
    (∃ v, value? cs = some (v, after)) ↔
      ∃ quoted, IsQuoted quoted ∧ cs = quoted ++ '"' :: after := by
  constructor
  · rintro ⟨v, h⟩
    fun_induction value? cs generalizing v with
    | case1 => cases h
    | case2 rest =>
        obtain ⟨-, rfl⟩ := Prod.mk.inj (Option.some.inj h)
        exact ⟨[], .nil, rfl⟩
    | case3 c rest ih =>
        obtain ⟨⟨v', after'⟩, hrest, hv⟩ := Option.map_eq_some_iff.1 h
        obtain ⟨-, rfl⟩ := Prod.mk.inj hv
        obtain ⟨quoted, hquoted, rfl⟩ := ih _ hrest
        exact ⟨_, .escape hquoted, rfl⟩
    | case4 => cases h
    | case5 c rest hquote hescape hlast ih =>
        obtain ⟨⟨v', after'⟩, hrest, hv⟩ := Option.map_eq_some_iff.1 h
        obtain ⟨-, rfl⟩ := Prod.mk.inj hv
        obtain ⟨quoted, hquoted, rfl⟩ := ih _ hrest
        have hc : isVerbatim c = true := by
          simp only [isVerbatim, Bool.and_eq_true, decide_eq_true_eq]
          refine ⟨hquote, ?_⟩
          rintro rfl
          cases quoted with
          | nil => exact hescape _ _ rfl rfl
          | cons x xs => exact hescape _ _ rfl rfl
        exact ⟨_, .verbatim hc hquoted, rfl⟩
  · rintro ⟨quoted, hquoted, rfl⟩
    induction hquoted with
    | nil => exact ⟨[], rfl⟩
    | verbatim hc _ ih =>
        obtain ⟨v, hv⟩ := ih
        exact ⟨_, by rw [List.cons_append, value?_cons hc, hv]; rfl⟩
    | escape _ ih =>
        obtain ⟨v, hv⟩ := ih
        exact ⟨_, by rw [List.cons_append, List.cons_append, value?, hv]; rfl⟩

theorem name_of_label {cs key value rest : List Char} (h : label cs = .ok ((key, value), rest)) :
    key ≠ [] ∧ ∀ c ∈ key, isLabelChar c = true := by
  obtain ⟨c, afterName, quoted, after, hdrop, hkey, -⟩ := label_eq_ok h
  by_contra hname
  have hinvalid : (key.isEmpty || !key.all isLabelChar) = true := by
    simpa [or_iff_not_imp_left] using hname
  unfold label at h
  simp only [hdrop, ← hkey, hinvalid, if_true] at h
  cases h

theorem isLabel_of_label {cs key value rest : List Char} (h : label cs = .ok ((key, value), rest)) :
    ∃ l, IsLabel l ∧ (cs = l ++ ',' :: rest ∨ cs = l ++ rest ∧ rest.head? = some '\x7d') := by
  obtain ⟨hne, hchars⟩ := name_of_label h
  obtain ⟨c, afterName, quoted, after, hdrop, rfl, hquote, hvalue, hrest⟩ := label_eq_ok h
  obtain ⟨inner, hinner, rfl⟩ := exists_value?_iff.1 ⟨_, hvalue⟩
  obtain ⟨before, afterKey, hbefore, hafterKey, hname⟩ := Text.exists_trim (cs.takeWhile (· ≠ '='))
  obtain ⟨beforeValue, hbeforeValue, hstart⟩ := Text.exists_trimStart afterName
  obtain ⟨blanks, hblanks, hafter⟩ := Text.exists_trimStart after
  obtain rfl : c = '=' := by
    have hhead := List.head?_dropWhile_not (· ≠ '=') cs
    rw [hdrop] at hhead
    simpa using hhead
  have hcs : cs = before ++ Text.trim (cs.takeWhile (· ≠ '=')) ++ afterKey ++
      '=' :: (beforeValue ++ '"' :: (inner ++ '"' :: (blanks ++ Text.trimStart after))) := by
    rw [← hafter, ← hquote, ← hstart, ← hname, ← hdrop, List.takeWhile_append_dropWhile]
  refine ⟨_, .intro hbefore hne hchars hafterKey hbeforeValue hinner hblanks, ?_⟩
  rcases hrest with hcomma | ⟨htrim, hbrace⟩
  · left
    rw [hcomma] at hcs
    simpa using hcs
  · right
    rw [htrim] at hcs
    exact ⟨by simpa using hcs, hbrace⟩

theorem isBlank_of_isLabelChar {c : Char} (hc : isLabelChar c = true) : Text.isBlank c = false :=
  isBlank_of_isMetricChar (isMetricChar_of_isLabelChar hc)

theorem label_of_isLabel {l : List Char} (hl : IsLabel l) {more rest : List Char}
    (hrest : more = ',' :: rest ∨ more = rest ∧ rest.head? = some '\x7d') :
    ∃ read, label (l ++ more) = .ok (read, rest) := by
  obtain @⟨before, key, afterKey, beforeValue, quoted, after, hbefore, hne, hchars, hafterKey,
    hbeforeValue, hquoted, hafter⟩ := hl
  obtain ⟨v, hv⟩ := exists_value?_iff.2 ⟨quoted, hquoted, rfl⟩
  have hequals : '=' ∉ before ++ key ++ afterKey := by
    simp only [List.mem_append, not_or]
    exact ⟨⟨fun hmem => absurd (hbefore _ hmem) (by decide), equals_not_mem hchars⟩,
      fun hmem => absurd (hafterKey _ hmem) (by decide)⟩
  have htext : before ++ key ++ afterKey ++
      '=' :: (beforeValue ++ '"' :: (quoted ++ '"' :: after)) ++ more =
      before ++ key ++ afterKey ++
        '=' :: (beforeValue ++ '"' :: (quoted ++ '"' :: (after ++ more))) := by
    simp
  obtain ⟨htake, hdrop⟩ := takeWhile_append_equals hequals
    (beforeValue ++ '"' :: (quoted ++ '"' :: (after ++ more)))
  have htrim : Text.trim (before ++ key ++ afterKey) = key :=
    Text.trim_between hbefore hafterKey
      (fun c hc => isBlank_of_isLabelChar (hchars c (List.mem_of_mem_head? hc)))
      (fun c hc => isBlank_of_isLabelChar (hchars c (List.mem_of_mem_getLast? hc))) hne
  rw [htext]
  refine ⟨(key, v), label_of_pieces hdrop (by rw [htake, htrim]) hne hchars
    (trimStart_blanks_cons hbeforeValue (by decide) _) hv ?_⟩
  rcases hrest with rfl | ⟨rfl, hbrace⟩
  · exact .inl (trimStart_blanks_cons hafter (by decide) _)
  · obtain ⟨tail, rfl⟩ := List.head?_eq_some_iff.1 hbrace
    exact .inr ⟨trimStart_blanks_cons hafter (by decide) _, hbrace⟩

theorem IsLabel.blanks_append {blanks l : List Char} (hl : IsLabel l) (hblanks : AllBlank blanks) :
    IsLabel (blanks ++ l) := by
  obtain @⟨before, key, afterKey, beforeValue, quoted, after, hbefore, hne, hchars, hafterKey,
    hbeforeValue, hquoted, hafter⟩ := hl
  have hboth : AllBlank (blanks ++ before) := fun c hc =>
    (List.mem_append.1 hc).elim (hblanks c) (hbefore c)
  simpa using IsLabel.intro hboth hne hchars hafterKey hbeforeValue hquoted hafter

theorem IsLabel.trimStart_append {l : List Char} (hl : IsLabel l) (more : List Char) :
    ∃ c cs, isLabelChar c = true ∧ IsLabel (c :: cs) ∧
      Text.trimStart (l ++ more) = c :: cs ++ more := by
  obtain @⟨before, key, afterKey, beforeValue, quoted, after, hbefore, hne, hchars, hafterKey,
    hbeforeValue, hquoted, hafter⟩ := hl
  obtain ⟨c, rest, rfl⟩ := List.exists_cons_of_ne_nil hne
  have hc := hchars c List.mem_cons_self
  refine ⟨c, _, hc,
    .intro (List.forall_mem_nil _) hne hchars hafterKey hbeforeValue hquoted hafter, ?_⟩
  simp only [List.append_assoc, List.cons_append]
  rw [trimStart_blanks_cons hbefore (isBlank_of_isLabelChar hc)]
  simp

theorem isLabels_of_labels {fuel : Nat} {m m' : Labels} {cs rest : List Char}
    (h : labels fuel m cs = .ok (m', rest)) : ∃ text, IsLabels text ∧ cs = text ++ rest := by
  induction fuel generalizing m cs with
  | zero => cases h
  | succ fuel ih =>
      obtain ⟨blanks, hblanks, hcs⟩ := Text.exists_trimStart cs
      rw [labels] at h
      split at h
      · rename_i after hbrace
        obtain ⟨-, rfl⟩ := Prod.mk.inj (Except.ok.inj h)
        rw [hbrace] at hcs
        exact ⟨blanks ++ ['\x7d'], .close hblanks, by simpa using hcs⟩
      · cases hlabel : label (Text.trimStart cs) with
        | error f =>
            rw [hlabel] at h
            cases h
        | ok read =>
            obtain ⟨⟨key, value⟩, rest'⟩ := read
            rw [hlabel] at h
            obtain ⟨l, hl, hcomma | ⟨heq, hbrace⟩⟩ := isLabel_of_label hlabel
            · obtain ⟨text, htext, rfl⟩ := ih h
              refine ⟨blanks ++ l ++ ',' :: text, .next (hl.blanks_append hblanks) htext, ?_⟩
              rw [hcs, hcomma]
              simp
            · -- The brace is still there, and is all that the next round reads.
              obtain ⟨more, rfl⟩ := List.head?_eq_some_iff.1 hbrace
              cases fuel with
              | zero => cases h
              | succ fuel =>
                  obtain ⟨-, rfl⟩ := Prod.mk.inj (Except.ok.inj h)
                  refine ⟨blanks ++ l ++ ['\x7d'], .last (hl.blanks_append hblanks), ?_⟩
                  rw [hcs, heq]
                  simp

theorem labels_step {l more rest : List Char} (hl : IsLabel l)
    (hrest : more = ',' :: rest ∨ more = rest ∧ rest.head? = some '\x7d') (fuel : Nat) (m : Labels) :
    ∃ m', labels (fuel + 1) m (l ++ more) = labels fuel m' rest := by
  obtain ⟨c, cs, hc, hcs, htrim⟩ := hl.trimStart_append more
  obtain ⟨⟨key, value⟩, hread⟩ := label_of_isLabel hcs hrest
  rw [labels, htrim]
  split
  · rename_i heq
    obtain rfl := (List.cons.inj heq).1
    exact absurd hc (by decide)
  · rw [hread]
    exact ⟨_, rfl⟩

theorem labels_brace {blanks : List Char} (hblanks : AllBlank blanks) (fuel : Nat) (m : Labels)
    (rest : List Char) : labels (fuel + 1) m (blanks ++ '\x7d' :: rest) = .ok (m, rest) := by
  rw [labels, trimStart_blanks_cons hblanks (by decide)]
  rfl

theorem labels_of_isLabels {text : List Char} (htext : IsLabels text) (rest : List Char) {fuel : Nat}
    (hfuel : text.length < fuel) (m : Labels) :
    ∃ m', labels fuel m (text ++ rest) = .ok (m', rest) := by
  induction htext generalizing fuel m with
  | @close blanks hblanks =>
      obtain ⟨fuel, rfl⟩ := Nat.exists_eq_add_one.2 (Nat.zero_lt_of_lt hfuel)
      exact ⟨m, by simpa using labels_brace hblanks fuel m rest⟩
  | @last l hl =>
      obtain ⟨c, cs, -, -, htrim⟩ := hl.trimStart_append []
      have hlength : 0 < l.length := by
        rw [List.length_pos_iff]
        rintro rfl
        cases htrim
      rw [List.length_append, List.length_singleton] at hfuel
      obtain ⟨fuel, rfl⟩ := Nat.exists_eq_add_of_le' (show 2 ≤ fuel by omega)
      obtain ⟨m', hm'⟩ := labels_step hl (.inr ⟨rfl, rfl⟩ :
        '\x7d' :: rest = ',' :: ('\x7d' :: rest) ∨ _) (fuel + 1) m
      refine ⟨m', ?_⟩
      rw [List.append_assoc, List.singleton_append, hm']
      exact labels_brace (List.forall_mem_nil _) fuel m' rest
  | @next l text hl _ ih =>
      rw [List.length_append, List.length_cons] at hfuel
      obtain ⟨fuel, rfl⟩ := Nat.exists_eq_add_one.2 (Nat.zero_lt_of_lt hfuel)
      obtain ⟨m', hm'⟩ := labels_step hl (.inl rfl : ',' :: (text ++ rest) = _ ∨ _) fuel m
      rw [List.append_assoc, List.cons_append, hm']
      exact ih (by omega) m'

/-! ## Samples -/

theorem exists_valued_iff {m : Labels} {rest : List Char} :
    (∃ m', valued m rest = .ok m') ↔ IsValued rest := by
  constructor
  · rintro ⟨m', h⟩
    obtain ⟨blanks, hblanks, hrest⟩ := Text.exists_trimStart rest
    have hfloat : Literal.isFloat (Text.firstWord rest) = true := by
      unfold valued at h
      simp only at h
      split at h
      · cases h
      · split at h
        · assumption
        · cases h
    have hafter : ∀ c ∈ ((Text.trimStart rest).dropWhile (fun c => !Text.isBlank c)).head?,
        Text.isBlank c = true := by
      intro c hc
      have hnot := List.head?_dropWhile_not (fun c => !Text.isBlank c) (Text.trimStart rest)
      rw [Option.mem_def.1 hc] at hnot
      simpa using hnot
    have hvalued := IsValued.intro hblanks hfloat hafter
    rw [Text.firstWord, List.takeWhile_append_dropWhile, ← hrest] at hvalued
    exact hvalued
  · rintro ⟨hblanks, hfloat, hafter⟩
    exact ⟨m, valued_append (isValue_of_isFloat hfloat) m hblanks hafter⟩

theorem name_of_sample {cs : List Char} {m : Labels} (h : sample cs = .ok m) :
    ∃ name c rest, cs = name ++ c :: rest ∧ name ≠ [] ∧ (∀ c ∈ name, isMetricChar c = true) ∧
      (c = '\x7b' ∨ Text.isBlank c = true) := by
  unfold sample at h
  simp only at h
  split at h
  · cases h
  rename_i c rest hdrop
  split at h
  · cases h
  rename_i hvalid
  simp only [Bool.or_eq_true, not_or, List.isEmpty_iff, Bool.not_eq_true', List.all_eq_false,
    not_exists, not_and, not_not] at hvalid
  refine ⟨_, c, rest, ?_, hvalid.1, hvalid.2, ?_⟩
  · rw [← hdrop, List.takeWhile_append_dropWhile]
  · have hend := List.head?_dropWhile_not
      (fun c => !(decide (c = '\x7b') || Text.isBlank c)) cs
    rw [hdrop] at hend
    simpa [or_iff_not_imp_left] using hend

theorem exists_sample_iff {cs : List Char} : (∃ m, sample cs = .ok m) ↔ IsSample cs := by
  constructor
  · rintro ⟨m, h⟩
    obtain ⟨name, c, rest, rfl, hne, hchars, hc⟩ := name_of_sample h
    rw [sample_name hne hchars hc] at h
    by_cases hbrace : c = '\x7b'
    · subst hbrace
      rw [if_pos rfl] at h
      cases hlabels : labels (rest.length + 1) (named name) rest with
      | error f =>
          rw [hlabels] at h
          cases h
      | ok read =>
          obtain ⟨m', after⟩ := read
          rw [hlabels] at h
          obtain ⟨text, htext, rfl⟩ := isLabels_of_labels hlabels
          exact .labelled hne hchars htext (exists_valued_iff.1 ⟨m, h⟩)
    · rw [if_neg hbrace] at h
      exact .bare hne hchars (hc.resolve_left hbrace) (exists_valued_iff.1 ⟨m, h⟩)
  · intro h
    cases h with
    | @bare name rest c hne hchars hc hrest =>
        have hbrace : c ≠ '\x7b' := by
          rintro rfl
          exact absurd hc (by decide)
        rw [sample_name hne hchars (.inr hc), if_neg hbrace]
        exact exists_valued_iff.2 hrest
    | @labelled name ls rest hne hchars hls hrest =>
        obtain ⟨m, hm⟩ := labels_of_isLabels hls rest
          (show ls.length < (ls ++ rest).length + 1 by rw [List.length_append]; omega) (named name)
        rw [sample_name hne hchars (.inl rfl), if_pos rfl, hm]
        exact exists_valued_iff.2 hrest

/-- A line is read without a fault just if it is blank, a comment or a sample. -/
theorem exists_line_iff {cs : List Char} : (∃ read, line cs = .ok read) ↔ IsFine cs := by
  unfold line IsFine
  split
  · rename_i hnil
    simp [hnil]
  · rename_i rest hcomment
    simp [hcomment]
  · rename_i hnil hcomment
    have hne : Text.trim cs ≠ [] := hnil
    have hhead : (Text.trim cs).head? ≠ some '#' := by
      intro h
      obtain ⟨rest, hrest⟩ := List.head?_eq_some_iff.1 h
      exact hcomment rest hrest
    simp only [hne, hhead, false_or, ← exists_sample_iff]
    cases sample (Text.trim cs) <;> simp [Except.map]

end ScrapeFleet.Exposition
