import Mathlib.Data.List.Forall2
import ScrapeFleet.Report.Metrics
import ScrapeFleet.Proofs.Decimal.Digits
import ScrapeFleet.Proofs.Exposition.Labels
import ScrapeFleet.Proofs.Exposition.Samples

/-!
# Reading metrics back

A metric is written line by line, and a reader of the line format finds the samples again
where no label value would have needed an escape.  Where one would have, the text cannot
be read, or a sample is missing, added or other than the one that was written: every sample
that is written begins a line with the name of its metric, so none can make up for another.
-/

namespace ScrapeFleet

open Exposition

/-! ## Names and numbers -/

namespace Exposition

theorem newline_not_mem_of_isMetricChar {cs : List Char}
    (hcs : ∀ c ∈ cs, isMetricChar c = true) : '\n' ∉ cs := fun hmem =>
  absurd (hcs _ hmem) (by decide)

theorem mem_repr {x : Int} {c : Char} (hc : c ∈ (Int.repr x).toList) :
    c = '-' ∨ c.isDigit = true := by
  rw [Int.repr_eq_if] at hc
  split at hc
  · rw [Nat.toList_repr] at hc
    exact .inr (Literal.isDigit_of_mem_numeral hc)
  · rw [String.toList_append, Nat.toList_repr] at hc
    exact (List.mem_cons.1 hc).imp_right Literal.isDigit_of_mem_numeral

theorem not_mem_repr {c : Char} (hdash : c ≠ '-') (hdigit : c.isDigit = false) (x : Int) :
    c ∉ (Int.repr x).toList := by
  intro hc
  rcases mem_repr hc with h | h
  · exact hdash h
  · rw [hdigit] at h
    cases h

theorem isValue_repr (x : Int) : IsValue (Int.repr x).toList := by
  refine isValue_of_isFloat (Literal.isFloat_of_isDecimal ?_)
  rw [Int.repr_eq_if]
  split
  · rw [Nat.toList_repr, Literal.dropSign_numeral]
    exact Literal.isDecimal_numeral _
  · rw [String.toList_append, Nat.toList_repr]
    exact Literal.isDecimal_numeral _

end Exposition

namespace Metric

/-! ## What is written -/

/-- A label value that means itself between quotes, in one line. -/
def NeedsNoEscape (text : String) : Prop :=
  ∀ c ∈ text.toList, isVerbatim c = true ∧ c ≠ '\n'

/-- Names that the line format allows, and a help text of one line. -/
structure WellNamed (m : Metric) : Prop where
  name : IsMetricName m.name
  help : '\n' ∉ m.help.toList
  labels : ∀ s ∈ m.samples, ∀ l ∈ s.label, IsLabelName l.1

def allSamples (ms : List Metric) : List (String × MetricSample) :=
  ms.flatMap (fun m => m.samples.map (m.name, ·))

def labelsOf (e : String × MetricSample) : Labels :=
  match e.2.label with
  | none => named e.1.toList
  | some (key, value) => (named e.1.toList).insert key value

def Carries (e : String × MetricSample) (ls : Labels) : Prop :=
  ∀ l ∈ e.2.label, ls.get? l.1 = some l.2

theorem carries_labelsOf (e : String × MetricSample) : Carries e (labelsOf e) := by
  intro l hl
  have hlabel : e.2.label = some (l.1, l.2) := hl
  rw [labelsOf, hlabel]
  exact (SortedMap.get?_insert _ _ _ _).trans (if_pos rfl)

/-- The lines that a sample is written in: one, unless its label has line breaks. -/
def pieces (e : String × MetricSample) : List (List Char) :=
  (sampleLine e.1 e.2).toList.splitOn '\n'

theorem sampleLine_bare (name : String) (value : Int) :
    (sampleLine name ⟨none, value⟩).toList = name.toList ++ ' ' :: (Int.repr value).toList := by
  simp [sampleLine, labelText]

theorem sampleLine_labelled (name key text : String) (value : Int) :
    (sampleLine name ⟨some (key, text), value⟩).toList =
      name.toList ++ '\x7b' :: (key.toList ++
        '=' :: '"' :: (text.toList ++ '"' :: '\x7d' :: ' ' :: (Int.repr value).toList)) := by
  simp [sampleLine, labelText]

/-! ## The lines of one sample -/

section Sample

variable {e : String × MetricSample} (hname : IsMetricName e.1)
  (hkey : ∀ l ∈ e.2.label, IsLabelName l.1)

include hname hkey

theorem newline_mem_sampleLine_iff :
    '\n' ∈ (sampleLine e.1 e.2).toList ↔ ∃ l ∈ e.2.label, '\n' ∈ l.2.toList := by
  obtain ⟨name, label, value⟩ := e
  have hinName := newline_not_mem_of_isMetricChar hname.2
  have hinValue := not_mem_repr (c := '\n') (by decide) (by decide) value
  cases label with
  | none =>
      rw [sampleLine_bare]
      simp_all
  | some l =>
      obtain ⟨key, text⟩ := l
      have hinKey := newline_not_mem_of_isMetricChar fun c hc =>
        isMetricChar_of_isLabelChar ((hkey (key, text) rfl).2 c hc)
      rw [sampleLine_labelled]
      simp_all

theorem samplesOf_pieces (htext : ∀ l ∈ e.2.label, NeedsNoEscape l.2) :
    samplesOf (pieces e) = .ok [labelsOf e] := by
  have hline : '\n' ∉ (sampleLine e.1 e.2).toList := fun hmem => by
    obtain ⟨l, hl, hmem⟩ := (newline_mem_sampleLine_iff hname hkey).1 hmem
    exact (htext l hl _ hmem).2 rfl
  rw [pieces, List.splitOn_eq_singleton hline, samplesOf_cons_eq_ok]
  refine ⟨some (labelsOf e), [], ?_, rfl, rfl⟩
  obtain ⟨name, label, value⟩ := e
  cases label with
  | none =>
      rw [sampleLine_bare]
      exact line_bare hname.1 hname.2 (isValue_repr value)
  | some l =>
      obtain ⟨key, text⟩ := l
      obtain ⟨hne, hchars⟩ := hkey (key, text) rfl
      rw [sampleLine_labelled, line_verbatim hname.1 hname.2 hne hchars
        (fun c hc => (htext (key, text) rfl c hc).1) (isValue_repr value), String.ofList_toList,
        String.ofList_toList]
      rfl

omit hkey in
theorem pieces_labelled {key : String} (text : String) (value : Int) (hlabel : IsLabelName key) :
    ∃ quoted rest, pieces (e.1, ⟨some (key, text), value⟩) =
        (e.1.toList ++ '\x7b' :: (key.toList ++ '=' :: '"' :: quoted)) :: rest ∧
      reach quoted ≤ text.toList.length + 1 ∧
      ('\n' ∈ text.toList → reach quoted ≤ text.toList.length) := by
  have hkey : ∀ l ∈ (some (key, text) : Option (String × String)), IsLabelName l.1 := by
    rintro _ ⟨⟩
    exact hlabel
  by_cases hbreak : '\n' ∈ text.toList
  · -- The first line ends at the first line break, before the closing quote.
    obtain ⟨before, after, htext, hbefore⟩ := List.eq_append_cons_of_mem hbreak
    have hfirst : '\n' ∉ e.1.toList ++ '\x7b' :: (key.toList ++ '=' :: '"' :: before) := by
      have hinName := newline_not_mem_of_isMetricChar hname.2
      have hinKey := newline_not_mem_of_isMetricChar fun c hc =>
        isMetricChar_of_isLabelChar (hlabel.2 c hc)
      simp_all
    let tail := after ++ '"' :: '\x7d' :: ' ' :: (Int.repr value).toList
    refine ⟨before, tail.splitOn '\n', ?_, ?_⟩
    · rw [pieces, sampleLine_labelled, htext,
        ← List.splitOn_append_cons_self_of_not_mem hfirst tail]
      simp [tail]
    · have hreach := reach_le_length before
      rw [htext, List.length_append, List.length_cons]
      exact ⟨by omega, fun _ => by omega⟩
  · have hline : '\n' ∉ (sampleLine e.1 ⟨some (key, text), value⟩).toList := fun hmem => by
      obtain ⟨l, hl, hmem⟩ := (newline_mem_sampleLine_iff (e := (e.1, ⟨some (key, text), value⟩))
        hname hkey).1 hmem
      obtain rfl := Option.some.inj hl
      exact hbreak hmem
    have hafter : '"' ∉ '\x7d' :: ' ' :: (Int.repr value).toList := by
      simp [not_mem_repr (c := '"') (by decide) (by decide) value]
    refine ⟨text.toList ++ '"' :: '\x7d' :: ' ' :: (Int.repr value).toList, [], ?_, ?_⟩
    · rw [pieces, List.splitOn_eq_singleton hline, sampleLine_labelled]
    · rw [reach_append_quote, reach_of_not_mem hafter]
      exact ⟨Nat.le_refl _, fun hmem => absurd hmem hbreak⟩

/-- What is read from a sample begins with the labels in its first line, and these carry the
label that was written only if it needs no escape. -/
theorem of_samplesOf_pieces {reads : List Labels} (h : samplesOf (pieces e) = .ok reads) :
    ∃ ls more, reads = ls :: more ∧ (Carries e ls → ∀ l ∈ e.2.label, NeedsNoEscape l.2) := by
  obtain ⟨name, label, value⟩ := e
  cases label with
  | none =>
      have hplain := samplesOf_pieces hname hkey (by rintro _ ⟨⟩)
      rw [hplain] at h
      exact ⟨_, [], (Except.ok.inj h).symm, by rintro _ _ ⟨⟩⟩
  | some l =>
      obtain ⟨key, text⟩ := l
      have hlabel := hkey (key, text) rfl
      obtain ⟨quoted, rest, hpieces, hreach, hbreak⟩ :=
        pieces_labelled (e := (name, ⟨some (key, text), value⟩)) hname text value hlabel
      rw [hpieces] at h
      obtain ⟨read, more, hread, -, rfl⟩ := samplesOf_cons_eq_ok.1 h
      obtain ⟨ls, rfl, htext⟩ := exists_of_line_braces hname.1 hname.2 hlabel.1 hlabel.2 hread
      refine ⟨ls, more, rfl, fun hcarries l hl => ?_⟩
      obtain rfl := Option.some.inj hl
      have hget : ls.get? key = some text := hcarries (key, text) rfl
      rw [← String.ofList_toList (s := key), ← String.ofList_toList (s := text)] at hget
      obtain ⟨hle, hverbatim⟩ := htext text.toList hget
      have heq : reach quoted = text.toList.length + 1 := by omega
      intro c hc
      refine ⟨hverbatim heq c hc, ?_⟩
      rintro rfl
      have hshort := hbreak hc
      omega

end Sample

/-! ## All samples -/

theorem samplesOf_skip {cs : List Char} (hcs : line cs = .ok none) (rest : List (List Char)) :
    samplesOf (cs :: rest) = samplesOf rest := by
  rw [samplesOf, hcs]
  cases samplesOf rest <;> rfl

theorem samplesOf_comment {l : String} {more : List Char} (hl : l.toList = '#' :: more)
    (hline : '\n' ∉ l.toList) (rest : List (List Char)) :
    samplesOf (l.toList.splitOn '\n' ++ rest) = samplesOf rest := by
  rw [List.splitOn_eq_singleton hline, hl]
  exact samplesOf_skip (line_comment more) rest

theorem lines_render (ms : List Metric) :
    Text.lines (render ms).toList = (ms.flatMap lines).flatMap (·.toList.splitOn '\n') := by
  have htext : (render ms).toList = ((ms.flatMap lines).map String.toList).flatMap (· ++ ['\n']) := by
    simp [render, List.flatMap_map]
  rw [htext, Text.lines_flatMap_ended, List.flatMap_map]

theorem samples_render_eq_ok_iff {ms : List Metric} (hms : ∀ m ∈ ms, m.WellNamed)
    {reads : List Labels} :
    Exposition.samples (render ms).toList = .ok reads ↔
      samplesOf ((allSamples ms).flatMap pieces) = .ok reads := by
  rw [Exposition.samples, lines_render]
  induction ms generalizing reads with
  | nil => rfl
  | cons m rest ih =>
      obtain ⟨hm, hrest⟩ := List.forall_mem_cons.1 hms
      have hinName := newline_not_mem_of_isMetricChar hm.name.2
      have hhelp : '\n' ∉ ("# HELP " ++ m.name ++ " " ++ m.help).toList := by
        simp [hinName, hm.help]
      have htype : '\n' ∉ ("# TYPE " ++ m.name ++ " " ++ m.kind.name).toList := by
        cases hkind : m.kind <;> simp [hinName, MetricKind.name]
      rw [List.flatMap_cons, List.flatMap_append, lines, List.flatMap_cons, List.flatMap_cons,
        List.append_assoc, List.append_assoc, samplesOf_comment (by simp; rfl) hhelp,
        samplesOf_comment (by simp; rfl) htype, allSamples, List.flatMap_cons, List.flatMap_append,
        samplesOf_append_eq_ok, samplesOf_append_eq_ok, List.flatMap_map, List.flatMap_map]
      simp only [ih hrest]
      rfl

theorem mem_allSamples {ms : List Metric} {e : String × MetricSample} :
    e ∈ allSamples ms ↔ ∃ m ∈ ms, e.1 = m.name ∧ e.2 ∈ m.samples := by
  obtain ⟨name, s⟩ := e
  simp [allSamples, and_comm, eq_comm]

section Samples

variable {es : List (String × MetricSample)} (hname : ∀ e ∈ es, IsMetricName e.1)
  (hkey : ∀ e ∈ es, ∀ l ∈ e.2.label, IsLabelName l.1)

include hname hkey

theorem samplesOf_all (htext : ∀ e ∈ es, ∀ l ∈ e.2.label, NeedsNoEscape l.2) :
    samplesOf (es.flatMap pieces) = .ok (es.map labelsOf) := by
  induction es with
  | nil => rfl
  | cons e rest ih =>
      rw [List.forall_mem_cons] at hname hkey htext
      rw [List.flatMap_cons, samplesOf_append_eq_ok]
      exact ⟨_, _, samplesOf_pieces hname.1 hkey.1 htext.1, ih hname.2 hkey.2 htext.2, rfl⟩

theorem length_le_of_samplesOf {reads : List Labels}
    (h : samplesOf (es.flatMap pieces) = .ok reads) : es.length ≤ reads.length := by
  induction es generalizing reads with
  | nil => exact Nat.zero_le _
  | cons e rest ih =>
      rw [List.forall_mem_cons] at hname hkey
      rw [List.flatMap_cons, samplesOf_append_eq_ok] at h
      obtain ⟨a, b, ha, hb, rfl⟩ := h
      obtain ⟨ls, more, rfl, -⟩ := of_samplesOf_pieces hname.1 hkey.1 ha
      have hlength := ih hname.2 hkey.2 hb
      simp only [List.length_append, List.length_cons]
      omega

theorem needsNoEscape_of_carries {reads : List Labels}
    (h : samplesOf (es.flatMap pieces) = .ok reads) (hcarries : List.Forall₂ Carries es reads) :
    ∀ e ∈ es, ∀ l ∈ e.2.label, NeedsNoEscape l.2 := by
  induction es generalizing reads with
  | nil => simp
  | cons e rest ih =>
      rw [List.forall_mem_cons] at hname hkey ⊢
      rw [List.flatMap_cons, samplesOf_append_eq_ok] at h
      obtain ⟨a, b, ha, hb, rfl⟩ := h
      obtain ⟨ls, more, rfl, hread⟩ := of_samplesOf_pieces hname.1 hkey.1 ha
      rw [List.cons_append, List.forall₂_cons] at hcarries
      obtain ⟨hfirst, hothers⟩ := hcarries
      -- The other samples have as many reads as there are left, so this one has just one.
      have hlength := length_le_of_samplesOf hname.2 hkey.2 hb
      have htotal := hothers.length_eq
      rw [List.length_append] at htotal
      obtain rfl := List.eq_nil_of_length_eq_zero (l := more) (by omega)
      exact ⟨hread hfirst, ih hname.2 hkey.2 hb hothers⟩

end Samples

/-- Metrics are read back, sample for sample, exactly if no label value needs an escape. -/
theorem exists_samples_iff {ms : List Metric} (hms : ∀ m ∈ ms, m.WellNamed) :
    (∃ reads, Exposition.samples (render ms).toList = .ok reads ∧
        List.Forall₂ Carries (allSamples ms) reads) ↔
      ∀ e ∈ allSamples ms, ∀ l ∈ e.2.label, NeedsNoEscape l.2 := by
  have hname : ∀ e ∈ allSamples ms, IsMetricName e.1 := by
    intro e he
    obtain ⟨m, hm, hname, -⟩ := mem_allSamples.1 he
    exact hname ▸ (hms m hm).name
  have hkey : ∀ e ∈ allSamples ms, ∀ l ∈ e.2.label, IsLabelName l.1 := by
    intro e he
    obtain ⟨m, hm, -, hs⟩ := mem_allSamples.1 he
    exact (hms m hm).labels _ hs
  simp only [samples_render_eq_ok_iff hms]
  constructor
  · rintro ⟨reads, hreads, hcarries⟩
    exact needsNoEscape_of_carries hname hkey hreads hcarries
  · intro htext
    refine ⟨_, samplesOf_all hname hkey htext, ?_⟩
    exact List.forall₂_map_right_iff.2 (List.forall₂_same.2 fun e _ => carries_labelsOf e)

/-! ## Metrics of a coordinator -/

theorem forall_label_bare {P : String × String → Prop} (value : Int) :
    ∀ s ∈ ([⟨none, value⟩] : List MetricSample), ∀ l ∈ s.label, P l := by
  simp

theorem forall_label_map {α : Type} {P : String × String → Prop} (xs : List α) (key : String)
    (text : α → String) (value : α → Int) :
    (∀ s ∈ xs.map (fun x => (⟨some (key, text x), value x⟩ : MetricSample)), ∀ l ∈ s.label, P l) ↔
      ∀ x ∈ xs, P (key, text x) := by
  simp only [List.forall_mem_map]
  exact forall₂_congr fun x _ => ⟨fun h => h _ rfl, by rintro h _ ⟨⟩; exact h⟩

theorem wellNamed_ofSnapshot (s : Snapshot) (stats : SortedMap String JobStats) :
    ∀ m ∈ ofSnapshot s stats, m.WellNamed := by
  have hbare : ∀ value : Int, ∀ s ∈ ([⟨none, value⟩] : List MetricSample), ∀ l ∈ s.label,
      IsLabelName l.1 := fun value => forall_label_bare value
  have hshard : IsLabelName "shard" := by decide
  have hjob : IsLabelName "job" := by decide
  simp only [ofSnapshot, List.forall_mem_cons]
  refine ⟨⟨?_, ?_, hbare _⟩, ⟨?_, ?_, hbare _⟩, ⟨?_, ?_, hbare _⟩, ⟨?_, ?_, hbare _⟩,
    ⟨?_, ?_, hbare _⟩, ⟨?_, ?_, hbare _⟩,
    ⟨?_, ?_, (forall_label_map _ _ _ _).2 fun _ _ => hshard⟩,
    ⟨?_, ?_, (forall_label_map _ _ _ _).2 fun _ _ => hjob⟩,
    ⟨?_, ?_, (forall_label_map _ _ _ _).2 fun _ _ => hjob⟩, by simp⟩
  all_goals
    dsimp only [gauge, jobCounter]
    decide

theorem length_allSamples_ofSnapshot (s : Snapshot) (stats : SortedMap String JobStats) :
    (allSamples (ofSnapshot s stats)).length = 6 + s.shards.length + 2 * stats.size := by
  simp [allSamples, ofSnapshot, gauge, jobCounter, SortedMap.size]
  omega

theorem forall_label_ofSnapshot (s : Snapshot) (stats : SortedMap String JobStats) :
    (∀ e ∈ allSamples (ofSnapshot s stats), ∀ l ∈ e.2.label, NeedsNoEscape l.2) ↔
      (∀ x ∈ s.shards, NeedsNoEscape x.id) ∧ ∀ job ∈ stats.keys, NeedsNoEscape job := by
  have hnested : (∀ e ∈ allSamples (ofSnapshot s stats), ∀ l ∈ e.2.label, NeedsNoEscape l.2) ↔
      ∀ m ∈ ofSnapshot s stats, ∀ s ∈ m.samples, ∀ l ∈ s.label, NeedsNoEscape l.2 := by
    simp only [allSamples, List.forall_mem_flatMap, List.forall_mem_map]
  have hjobs : (∀ e ∈ stats.entries, NeedsNoEscape e.1) ↔ ∀ job ∈ stats.keys, NeedsNoEscape job :=
    List.forall_mem_map.symm
  rw [hnested]
  simp only [ofSnapshot, gauge, jobCounter, List.forall_mem_cons, forall_label_map, hjobs]
  simp

/-- The metrics of a coordinator are read back, each sample with the label that it was written
with, exactly if no shard or job has a quote, a backslash or a line break in its name. -/
theorem readsBack_iff (s : Snapshot) (stats : SortedMap String JobStats) :
    (count [] (render (ofSnapshot s stats)).toList =
          .ok (6 + s.shards.length + 2 * stats.size) ∧
        ∃ reads, Exposition.samples (render (ofSnapshot s stats)).toList = .ok reads ∧
          List.Forall₂ Carries (allSamples (ofSnapshot s stats)) reads) ↔
      (∀ x ∈ s.shards, NeedsNoEscape x.id) ∧ ∀ job ∈ stats.keys, NeedsNoEscape job := by
  rw [← forall_label_ofSnapshot, ← exists_samples_iff (wellNamed_ofSnapshot s stats),
    and_iff_right_iff_imp]
  rintro ⟨reads, hreads, hcarries⟩
  refine count_nil_eq_ok_iff.2 ⟨reads, hreads, ?_⟩
  rw [← length_allSamples_ofSnapshot, hcarries.length_eq]

def quotedShard : Snapshot := { shards := [⟨"a\"b", true, 10, 0⟩] }

/-- A configuration may name a shard so, and then the metrics cannot be counted. -/
theorem quotedShard_unreadable :
    ({ shards := [{ id := "a\"b", replicas := ["s0:8080"] }] } : Config).validate = .ok () ∧
      count [] (render (ofSnapshot quotedShard ∅)).toList = .error ⟨21, .noSeparator⟩ := by
  rw [count, lines_render]
  decide +kernel

end Metric

end ScrapeFleet
