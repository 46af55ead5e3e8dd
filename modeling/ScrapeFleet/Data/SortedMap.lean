/-!
Finite maps kept as lists of entries in strictly increasing key order.

The order is part of the type, so two maps with the same lookups are equal
(`SortedMap.ext`) and every traversal is in key order.  Each operation has one
lemma about `get?`, the view in which maps are reasoned about.
-/

namespace ScrapeFleet

universe u v w

/-- A finite map from `κ` to `α`, its entries in increasing key order. -/
structure SortedMap (κ : Type u) (α : Type v) [Ord κ] where
  entries : List (κ × α)
  sorted : entries.Pairwise (fun a b => compare a.1 b.1 = .lt)

namespace SortedMap

variable {κ : Type u} {α : Type v} {β : Type w} [Ord κ] [DecidableEq κ]

instance [DecidableEq α] : DecidableEq (SortedMap κ α) := fun a b =>
  if h : a.entries = b.entries then
    isTrue (by cases a; cases b; cases h; rfl)
  else
    isFalse (fun e => h (e ▸ rfl))

instance [Repr κ] [Repr α] : Repr (SortedMap κ α) :=
  ⟨fun m n => reprPrec m.entries n⟩

def empty : SortedMap κ α := ⟨[], .nil⟩

instance : EmptyCollection (SortedMap κ α) := ⟨empty⟩

instance : Inhabited (SortedMap κ α) := ⟨empty⟩

/-! ## Reading -/

def find (k : κ) : List (κ × α) → Option α
  | [] => none
  | (k', v) :: rest => if k = k' then some v else find k rest

def get? (m : SortedMap κ α) (k : κ) : Option α := find k m.entries

def getD (m : SortedMap κ α) (k : κ) (d : α) : α := (m.get? k).getD d

def contains (m : SortedMap κ α) (k : κ) : Bool := (m.get? k).isSome

def keys (m : SortedMap κ α) : List κ := m.entries.map (·.1)

def values (m : SortedMap κ α) : List α := m.entries.map (·.2)

def size (m : SortedMap κ α) : Nat := m.entries.length

def isEmpty (m : SortedMap κ α) : Bool := m.entries.isEmpty

/-! ## Changing values and dropping entries -/

omit [DecidableEq κ] in
theorem pairwise_map {l : List (κ × α)} (f : κ × α → κ × β) (hf : ∀ e, (f e).1 = e.1)
    (h : l.Pairwise (fun a b => compare a.1 b.1 = .lt)) :
    (l.map f).Pairwise (fun a b => compare a.1 b.1 = .lt) := by
  rw [List.pairwise_map]
  exact h.imp (by intro a b hab; rw [hf, hf]; exact hab)

def mapEntries (f : κ → α → β) (m : SortedMap κ α) : SortedMap κ β :=
  ⟨m.entries.map (fun e => (e.1, f e.1 e.2)), pairwise_map _ (fun _ => rfl) m.sorted⟩

def map (f : α → β) (m : SortedMap κ α) : SortedMap κ β := m.mapEntries (fun _ v => f v)

def filter (p : κ → α → Bool) (m : SortedMap κ α) : SortedMap κ α :=
  ⟨m.entries.filter (fun e => p e.1 e.2), m.sorted.filter _⟩

def erase (m : SortedMap κ α) (k : κ) : SortedMap κ α :=
  m.filter (fun k' _ => k' ≠ k)

def modify (m : SortedMap κ α) (k : κ) (f : α → α) : SortedMap κ α :=
  m.mapEntries (fun k' v => if k' = k then f v else v)

/-! ## Adding entries -/

def insertEntry (k : κ) (v : α) : List (κ × α) → List (κ × α)
  | [] => [(k, v)]
  | (k', v') :: rest =>
    match compare k k' with
    | .lt => (k, v) :: (k', v') :: rest
    | .eq => (k, v) :: rest
    | .gt => (k', v') :: insertEntry k v rest

omit [DecidableEq κ] in
theorem mem_insertEntry {k : κ} {v : α} {l : List (κ × α)} {e : κ × α}
    (h : e ∈ insertEntry k v l) : e = (k, v) ∨ e ∈ l := by
  induction l with
  | nil => simp [insertEntry] at h; exact .inl h
  | cons a rest ih =>
    obtain ⟨k', v'⟩ := a
    simp only [insertEntry] at h
    split at h <;> grind

section Lawful

variable [Std.TransOrd κ] [Std.LawfulEqOrd κ]

omit [DecidableEq κ] in
theorem insertEntry_sorted (k : κ) (v : α) {l : List (κ × α)}
    (h : l.Pairwise (fun a b => compare a.1 b.1 = .lt)) :
    (insertEntry k v l).Pairwise (fun a b => compare a.1 b.1 = .lt) := by
  induction l with
  | nil => simp [insertEntry]
  | cons a rest ih =>
    obtain ⟨k', v'⟩ := a
    rw [List.pairwise_cons] at h
    simp only [insertEntry]
    split
    · rename_i hlt
      refine List.pairwise_cons.2 ⟨fun e he => ?_, List.pairwise_cons.2 h⟩
      rcases List.mem_cons.1 he with rfl | he
      · exact hlt
      · exact Std.TransCmp.lt_trans hlt (h.1 e he)
    · rename_i heq
      obtain rfl := Std.LawfulEqOrd.eq_of_compare heq
      exact List.pairwise_cons.2 h
    · rename_i hgt
      refine List.pairwise_cons.2 ⟨fun e he => ?_, ih h.2⟩
      rcases mem_insertEntry he with rfl | he
      · exact Std.OrientedCmp.lt_of_gt hgt
      · exact h.1 e he

def insert (m : SortedMap κ α) (k : κ) (v : α) : SortedMap κ α :=
  ⟨insertEntry k v m.entries, insertEntry_sorted k v m.sorted⟩

def alter (m : SortedMap κ α) (k : κ) (f : Option α → α) : SortedMap κ α :=
  m.insert k (f (m.get? k))

/-- The map of a list of entries; of two entries with one key the later stays. -/
def ofList (l : List (κ × α)) : SortedMap κ α :=
  l.foldl (fun m e => m.insert e.1 e.2) empty

end Lawful

/-! ## Lookups after each operation -/

theorem get?_empty (k : κ) : (∅ : SortedMap κ α).get? k = none := rfl

omit [DecidableEq κ] in
theorem eq_empty_of_size {m : SortedMap κ α} (h : m.size = 0) : m = ∅ := by
  obtain ⟨entries, sorted⟩ := m
  cases entries with
  | nil => rfl
  | cons e rest => cases h

theorem contains_eq_true_iff {m : SortedMap κ α} {k : κ} :
    m.contains k = true ↔ ∃ v, m.get? k = some v := by
  simp [contains, Option.isSome_iff_exists]

theorem get?_mapEntries (f : κ → α → β) (m : SortedMap κ α) (k : κ) :
    (m.mapEntries f).get? k = (m.get? k).map (f k) := by
  obtain ⟨l, hl⟩ := m
  simp only [get?, mapEntries]
  clear hl
  induction l with
  | nil => rfl
  | cons a rest ih =>
    simp only [List.map_cons, find]
    split
    · rename_i h; subst h; rfl
    · exact ih

theorem get?_map (f : α → β) (m : SortedMap κ α) (k : κ) :
    (m.map f).get? k = (m.get? k).map f := get?_mapEntries _ m k

theorem get?_modify (m : SortedMap κ α) (k k' : κ) (f : α → α) :
    (m.modify k f).get? k' = if k' = k then (m.get? k').map f else m.get? k' := by
  rw [modify, get?_mapEntries]
  by_cases h : k' = k
  · subst h; simp
  · simp [h]

section LawfulEq

variable [Std.LawfulEqOrd κ]

theorem find_insertEntry (k k' : κ) (v : α) (l : List (κ × α)) :
    find k' (insertEntry k v l) = if k' = k then some v else find k' l := by
  induction l with
  | nil => simp [insertEntry, find]
  | cons a rest ih =>
    obtain ⟨k₁, v₁⟩ := a
    simp only [insertEntry]
    split
    · simp [find]
    · rename_i heq
      obtain rfl := Std.LawfulEqOrd.eq_of_compare heq
      simp only [find]
      split <;> simp_all
    · rename_i hgt
      simp only [find, ih]
      split
      · rename_i h₁
        subst h₁
        rw [if_neg]
        rintro rfl
        rw [Std.compare_self] at hgt
        cases hgt
      · rfl

theorem find_eq_some_iff {k : κ} {v : α} {l : List (κ × α)}
    (h : l.Pairwise (fun a b => compare a.1 b.1 = .lt)) :
    find k l = some v ↔ (k, v) ∈ l := by
  induction l with
  | nil => simp [find]
  | cons a rest ih =>
    obtain ⟨k', v'⟩ := a
    rw [List.pairwise_cons] at h
    simp only [find]
    split
    · rename_i hk
      subst hk
      constructor
      · intro hv; simp at hv; simp [hv]
      · intro hmem
        rcases List.mem_cons.1 hmem with he | he
        · simp at he; simp [he]
        · have hlt := h.1 _ he
          simp only [Std.compare_self] at hlt
          cases hlt
    · rename_i hk
      rw [ih h.2]
      constructor
      · intro hmem; exact List.mem_cons_of_mem _ hmem
      · intro hmem
        rcases List.mem_cons.1 hmem with he | he
        · simp at he; exact absurd he.1 hk
        · exact he

theorem get?_eq_some_iff {m : SortedMap κ α} {k : κ} {v : α} :
    m.get? k = some v ↔ (k, v) ∈ m.entries := find_eq_some_iff m.sorted

theorem get?_filter (p : κ → α → Bool) (m : SortedMap κ α) (k : κ) :
    (m.filter p).get? k = (m.get? k).filter (p k) := by
  apply Option.ext
  intro v
  rw [get?_eq_some_iff, Option.filter_eq_some_iff, get?_eq_some_iff]
  simp [filter]

theorem get?_erase (m : SortedMap κ α) (k k' : κ) :
    (m.erase k).get? k' = if k' = k then none else m.get? k' := by
  rw [erase, get?_filter]
  by_cases h : k' = k
  · subst h; cases m.get? k' <;> simp
  · cases m.get? k' <;> simp [h]

theorem mem_flatten_values {m : SortedMap κ (List α)} {x : α} :
    x ∈ m.values.flatten ↔ ∃ k l, m.get? k = some l ∧ x ∈ l := by
  simp only [values, List.mem_flatten, List.mem_map, Prod.exists, get?_eq_some_iff]
  constructor
  · rintro ⟨l, ⟨k, l', hmem, rfl⟩, hx⟩
    exact ⟨k, l', hmem, hx⟩
  · rintro ⟨k, l, hmem, hx⟩
    exact ⟨l, ⟨k, l, hmem, rfl⟩, hx⟩

theorem mem_keys_iff {m : SortedMap κ α} {k : κ} : k ∈ m.keys ↔ ∃ v, m.get? k = some v := by
  simp [keys, get?_eq_some_iff]

omit [DecidableEq κ] in
theorem nodup_keys (m : SortedMap κ α) : m.keys.Nodup := by
  refine List.pairwise_map.2 (m.sorted.imp ?_)
  intro a b hab heq
  rw [heq, Std.compare_self] at hab
  cases hab

end LawfulEq

section Lawful

variable [Std.TransOrd κ] [Std.LawfulEqOrd κ]

theorem get?_insert (m : SortedMap κ α) (k k' : κ) (v : α) :
    (m.insert k v).get? k' = if k' = k then some v else m.get? k' := by
  simp only [insert, get?, find_insertEntry]

private theorem mem_or_get?_of_foldl_insert {l : List (κ × α)} {m : SortedMap κ α} {k : κ} {v : α}
    (h : (l.foldl (fun m e => m.insert e.1 e.2) m).get? k = some v) :
    (k, v) ∈ l ∨ m.get? k = some v := by
  induction l generalizing m with
  | nil => exact .inr h
  | cons e rest ih =>
    rcases ih h with hmem | hget
    · exact .inl (List.mem_cons_of_mem _ hmem)
    · rw [get?_insert] at hget
      split at hget
      · rename_i hk
        obtain rfl := Option.some.inj hget
        exact .inl (hk ▸ List.mem_cons_self)
      · exact .inr hget

private theorem isSome_get?_foldl_insert {l : List (κ × α)} {m : SortedMap κ α} {k : κ}
    (h : (∃ v, (k, v) ∈ l) ∨ (m.get? k).isSome) :
    ((l.foldl (fun m e => m.insert e.1 e.2) m).get? k).isSome := by
  induction l generalizing m with
  | nil =>
    rcases h with ⟨v, hv⟩ | h
    · cases hv
    · exact h
  | cons e rest ih =>
    refine ih ?_
    rw [get?_insert]
    rcases h with ⟨v, hv⟩ | h
    · rcases List.mem_cons.1 hv with rfl | hv
      · exact .inr (by simp)
      · exact .inl ⟨v, hv⟩
    · exact .inr (by split <;> simp [h])

theorem mem_of_get?_ofList {l : List (κ × α)} {k : κ} {v : α} (h : (ofList l).get? k = some v) :
    (k, v) ∈ l := by
  rcases mem_or_get?_of_foldl_insert h with hmem | hget
  · exact hmem
  · cases hget

theorem isSome_get?_ofList {l : List (κ × α)} {k : κ} {v : α} (h : (k, v) ∈ l) :
    ((ofList l).get? k).isSome := isSome_get?_foldl_insert (.inl ⟨v, h⟩)

omit [DecidableEq κ] in
theorem eq_of_mem_iff {la lb : List (κ × α)}
    (ha : la.Pairwise (fun a b => compare a.1 b.1 = .lt))
    (hb : lb.Pairwise (fun a b => compare a.1 b.1 = .lt))
    (hmem : ∀ e, e ∈ la ↔ e ∈ lb) : la = lb := by
  induction la generalizing lb with
  | nil =>
    cases lb with
    | nil => rfl
    | cons b rb => exact absurd ((hmem b).2 (by simp)) (by simp)
  | cons a ra ih =>
    cases lb with
    | nil => exact absurd ((hmem a).1 (by simp)) (by simp)
    | cons b rb =>
      rw [List.pairwise_cons] at ha hb
      have irrefl : ∀ x : κ × α, compare x.1 x.1 ≠ .lt := fun x hx => by
        rw [Std.compare_self] at hx; cases hx
      have hab : a = b := by
        rcases List.mem_cons.1 ((hmem a).1 (by simp)) with h | h
        · exact h
        · rcases List.mem_cons.1 ((hmem b).2 (by simp)) with h' | h'
          · exact h'.symm
          · exact absurd (Std.TransCmp.lt_trans (ha.1 b h') (hb.1 a h)) (irrefl a)
      subst hab
      congr 1
      refine ih ha.2 hb.2 (fun e => ⟨fun he => ?_, fun he => ?_⟩)
      · rcases List.mem_cons.1 ((hmem e).1 (by simp [he])) with h | h
        · exact absurd (h ▸ ha.1 e he) (irrefl a)
        · exact h
      · rcases List.mem_cons.1 ((hmem e).2 (by simp [he])) with h | h
        · exact absurd (h ▸ hb.1 e he) (irrefl a)
        · exact h

theorem ext {a b : SortedMap κ α} (h : ∀ k, a.get? k = b.get? k) : a = b := by
  have hmem : ∀ e, e ∈ a.entries ↔ e ∈ b.entries := by
    rintro ⟨k, v⟩
    rw [← get?_eq_some_iff, ← get?_eq_some_iff, h k]
  have heq := eq_of_mem_iff a.sorted b.sorted hmem
  cases a; cases b; cases heq; rfl

theorem ofList_entries (m : SortedMap κ α) : ofList m.entries = m := by
  refine ext fun k => Option.ext fun a => ⟨fun h => ?_, fun h => ?_⟩
  · exact get?_eq_some_iff.2 (mem_of_get?_ofList h)
  · obtain ⟨b, hb⟩ := Option.isSome_iff_exists.1 (isSome_get?_ofList (get?_eq_some_iff.1 h))
    have hmem := get?_eq_some_iff.2 (mem_of_get?_ofList hb)
    rw [hb, ← hmem, h]

theorem map_const_eq_of_keys {a b : SortedMap κ α} (hkeys : a.keys = b.keys) (c : β) :
    (a.map fun _ => c) = b.map fun _ => c := by
  apply ext
  intro k
  have hk : (∃ v, a.get? k = some v) ↔ ∃ v, b.get? k = some v := by
    rw [← mem_keys_iff, ← mem_keys_iff, hkeys]
  rw [get?_map, get?_map]
  cases ha : a.get? k <;> cases hb : b.get? k <;> simp [ha, hb] at hk ⊢

end Lawful

end SortedMap

/-! ## Sorted sets -/

abbrev SortedSet (κ : Type u) [Ord κ] := SortedMap κ Unit

namespace SortedSet

variable {κ : Type u} [Ord κ] [Std.TransOrd κ] [Std.LawfulEqOrd κ]

def ofList (l : List κ) : SortedSet κ := SortedMap.ofList (l.map (·, ()))

def toList (s : SortedSet κ) : List κ := s.keys

variable [DecidableEq κ]

theorem contains_ofList {l : List κ} {k : κ} : (ofList l).contains k = true ↔ k ∈ l := by
  constructor
  · intro h
    obtain ⟨v, hv⟩ := Option.isSome_iff_exists.1 h
    obtain ⟨k', hmem, heq⟩ := List.mem_map.1 (SortedMap.mem_of_get?_ofList hv)
    exact (Prod.mk.inj heq).1 ▸ hmem
  · intro h
    exact SortedMap.isSome_get?_ofList (List.mem_map_of_mem h)

theorem ext {a b : SortedSet κ} (h : ∀ k, a.contains k = b.contains k) : a = b := by
  refine SortedMap.ext fun k => ?_
  have hk : (a.get? k).isSome = (b.get? k).isSome := h k
  cases ha : a.get? k <;> cases hb : b.get? k <;> simp [ha, hb] at hk ⊢

end SortedSet

end ScrapeFleet
