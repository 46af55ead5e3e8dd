import ScrapeFleet.Exposition

/-!
# The samples of a text

Counting reads the labels of every sample and forgets them.  Here they are kept, so that
what was read can be compared with what was written.
-/

namespace ScrapeFleet.Exposition

def samplesOf : List (List Char) → Except Fault (List Labels)
  | [] => .ok []
  | cs :: rest => do
    let read ← line cs
    let more ← samplesOf rest
    .ok (read.toList ++ more)

def samples (body : List Char) : Except Fault (List Labels) := samplesOf (Text.lines body)

theorem samplesOf_cons_eq_ok {cs : List Char} {rest : List (List Char)} {reads : List Labels} :
    samplesOf (cs :: rest) = .ok reads ↔
      ∃ read more, line cs = .ok read ∧ samplesOf rest = .ok more ∧ reads = read.toList ++ more := by
  rw [samplesOf]
  cases line cs with
  | error f => simp [bind, Except.bind]
  | ok read =>
      cases samplesOf rest with
      | error f => simp [bind, Except.bind]
      | ok more => simp [bind, Except.bind, eq_comm]

theorem samplesOf_append_eq_ok {ls ls' : List (List Char)} {reads : List Labels} :
    samplesOf (ls ++ ls') = .ok reads ↔
      ∃ a b, samplesOf ls = .ok a ∧ samplesOf ls' = .ok b ∧ reads = a ++ b := by
  induction ls generalizing reads with
  | nil => simp [samplesOf]
  | cons cs rest ih =>
      rw [List.cons_append, samplesOf_cons_eq_ok]
      constructor
      · rintro ⟨read, more, hread, hmore, rfl⟩
        obtain ⟨a, b, ha, hb, rfl⟩ := ih.1 hmore
        exact ⟨_, b, samplesOf_cons_eq_ok.2 ⟨read, a, hread, ha, rfl⟩, hb, by simp⟩
      · rintro ⟨a, b, ha, hb, rfl⟩
        obtain ⟨read, more, hread, hmore, rfl⟩ := samplesOf_cons_eq_ok.1 ha
        exact ⟨read, more ++ b, hread, ih.2 ⟨more, b, hmore, hb, rfl⟩, by simp⟩

theorem map_eq_ok_iff {ε α β : Type} {x : Except ε α} {f : α → β} {b : β} :
    x.map f = .ok b ↔ ∃ a, x = .ok a ∧ f a = b := by
  cases x <;> simp [Except.map]

theorem countLines_eq_ok_iff {rules : List Relabel.Filter} {n k : Nat} {ls : List (List Char)} :
    countLines rules n ls = .ok k ↔
      ∃ reads, samplesOf ls = .ok reads ∧ reads.countP (Relabel.keepsAll rules) = k := by
  induction ls generalizing n k with
  | nil => simp [countLines, samplesOf]
  | cons cs rest ih =>
      rw [countLines]
      simp only [samplesOf_cons_eq_ok]
      cases line cs with
      | error f => simp
      | ok read =>
          cases read with
          | none => simp [ih]
          | some ls =>
              have hcons : ∀ reads : List Labels, (ls :: reads).countP (Relabel.keepsAll rules) =
                  if Relabel.keepsAll rules ls then reads.countP (Relabel.keepsAll rules) + 1
                  else reads.countP (Relabel.keepsAll rules) := fun reads => by
                rw [List.countP_cons]
                split <;> rfl
              simp only [map_eq_ok_iff, ih]
              constructor
              · rintro ⟨_, ⟨reads, hreads, rfl⟩, rfl⟩
                exact ⟨ls :: reads, ⟨some ls, reads, rfl, hreads, rfl⟩, hcons reads⟩
              · rintro ⟨_, ⟨read, reads, hread, hreads, rfl⟩, rfl⟩
                obtain rfl := Except.ok.inj hread
                exact ⟨_, ⟨reads, hreads, rfl⟩, (hcons reads).symm⟩

theorem count_nil_eq_ok_iff {body : List Char} {k : Nat} :
    count [] body = .ok k ↔ ∃ reads, samples body = .ok reads ∧ reads.length = k := by
  have hall : ∀ reads : List Labels, reads.countP (Relabel.keepsAll []) = reads.length :=
    fun reads => List.countP_eq_length.2 fun _ _ => rfl
  simp only [count, countLines_eq_ok_iff, hall, samples]

end ScrapeFleet.Exposition
