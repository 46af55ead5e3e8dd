import ScrapeFleet.Proofs.Plan.Cycle

/-!
# Shards that may not be changed

Planning reads of such a shard only which targets it holds, as those are not placed
again.  So it may be replaced by a veiled one that has the same targets with blank
statuses and no load: every pass does the same to the veiled pool, and veils what it
leaves of the other one.
-/

namespace ScrapeFleet

open Planning Scaling

/-! ## Veiled shards -/

namespace ShardState

/-- Of a shard that may not be changed, nothing but the targets that it holds. -/
def veiled (s : ShardState) : ShardState :=
  if s.changeable then s
  else { id := "", changeable := false, scraping := s.scraping.map fun _ => {} }

variable {s : ShardState}

theorem veiled_of_changeable (hc : s.changeable = true) : s.veiled = s := by
  simp [veiled, hc]

@[simp] theorem changeable_veiled (s : ShardState) : s.veiled.changeable = s.changeable := by
  cases hc : s.changeable <;> simp [veiled, hc]

@[simp] theorem accepts_veiled (s : ShardState) (series max : Int) :
    s.veiled.accepts series max = s.accepts series max := by
  cases hc : s.changeable <;> simp [accepts, veiled, hc]

@[simp] theorem contains_veiled (s : ShardState) (h : Fingerprint) :
    s.veiled.scraping.contains h = s.scraping.contains h := by
  cases hc : s.changeable <;> simp [veiled, hc, SortedMap.contains, SortedMap.get?_map]

end ShardState

theorem map_modify_of_fixed {α : Type} {l : List α} {i : Nat} {a : α} (veil f : α → α)
    (ha : l[i]? = some a) (hveil : veil a = a) (hf : veil (f a) = f a) :
    (l.map veil).modify i f = (l.modify i f).map veil := by
  apply List.ext_getElem?
  intro k
  simp only [List.getElem?_modify, List.getElem?_map]
  by_cases hik : i = k
  · subst hik
    simp [ha, hveil, hf]
  · cases l[k]? <;> simp [hik]

namespace Pool

def veiled (pool : Pool) : Pool := pool.map ShardState.veiled

def MayChange (pool : Pool) (i : Nat) : Prop := pool[i]?.map (·.changeable) = some true

variable {pool : Pool} {i j : Nat} {s : ShardState} {h : Fingerprint}

@[simp] theorem length_veiled (pool : Pool) : pool.veiled.length = pool.length := by
  simp [veiled]

@[simp] theorem getElem?_veiled (pool : Pool) (i : Nat) :
    pool.veiled[i]? = pool[i]?.map ShardState.veiled := by
  simp [veiled]

theorem getElem?_veiled_iff (hc : s.changeable = true) :
    pool.veiled[i]? = some s ↔ pool[i]? = some s := by
  rw [getElem?_veiled, Option.map_eq_some_iff]
  constructor
  · rintro ⟨t, ht, rfl⟩
    rw [ShardState.changeable_veiled] at hc
    rw [ShardState.veiled_of_changeable hc, ht]
  · intro hs
    exact ⟨s, hs, ShardState.veiled_of_changeable hc⟩

theorem mayChange_iff : pool.MayChange i ↔ ∃ s, pool[i]? = some s ∧ s.changeable = true := by
  simp [MayChange]

theorem veiled_modify {f : ShardState → ShardState} (hi : pool.MayChange i)
    (hf : ∀ s, (f s).changeable = s.changeable) :
    List.modify pool.veiled i f = veiled (pool.modify i f) := by
  obtain ⟨s, hs, hc⟩ := mayChange_iff.1 hi
  apply map_modify_of_fixed ShardState.veiled f hs (ShardState.veiled_of_changeable hc)
  apply ShardState.veiled_of_changeable
  rw [hf, hc]

theorem mayChange_modify {f : ShardState → ShardState}
    (hf : ∀ s, (f s).changeable = s.changeable) :
    MayChange (pool.modify j f) i ↔ pool.MayChange i := by
  rw [MayChange, MayChange, changeable_modify hf]

@[simp] theorem holds_veiled (pool : Pool) (h : Fingerprint) :
    pool.veiled.holds h = pool.holds h := by
  simp [holds, veiled, List.any_map, Function.comp_def]

theorem filter_veiled {p : ShardState → Bool} (hp : ∀ s, p s.veiled = p s)
    (hc : ∀ s, p s = true → s.changeable = true) : pool.veiled.filter p = pool.filter p := by
  have hcomp : p ∘ ShardState.veiled = p := funext hp
  rw [veiled, List.filter_map, hcomp]
  refine (List.map_congr_left fun s hs => ?_).trans (List.map_id _)
  exact ShardState.veiled_of_changeable (hc s (List.mem_filter.1 hs).2)

theorem transfer_veiled (hi : pool.MayChange i) (hj : pool.MayChange j) (h : Fingerprint) :
    pool.veiled.transfer i j h = (pool.transfer i j h).map veiled := by
  obtain ⟨s, hs, hc⟩ := mayChange_iff.1 hi
  unfold transfer
  rw [(getElem?_veiled_iff hc).2 hs, hs, Option.bind_some]
  cases s.scraping.get? h with
  | none => rfl
  | some st =>
      dsimp only
      split
      · rw [Option.map_some, veiled_modify hi fun s => s.changeable_release h, veiled_modify]
        · exact (mayChange_modify fun s => s.changeable_release h).2 hj
        · exact fun s => s.changeable_receive h st.series
      · rfl

theorem mayChange_of_transfer {source dest : Nat} {moved : Pool}
    (htransfer : pool.transfer source dest h = some moved) (hi : pool.MayChange i) :
    moved.MayChange i := by
  unfold transfer at htransfer
  split at htransfer
  · cases htransfer
  · split at htransfer
    · obtain rfl := Option.some.inj htransfer
      rwa [mayChange_modify fun s => s.changeable_receive _ _,
        mayChange_modify fun s => s.changeable_release _]
    · cases htransfer

end Pool

/-! ## Cleaning -/

namespace Cleanup

variable {active : List Fingerprint}

theorem losesDuplicate_veiled (pool : Pool) (i : Nat) (head : Int) (h : Fingerprint)
    (st : Status) : losesDuplicate pool.veiled i head h st = losesDuplicate pool i head h st := by
  rw [Bool.eq_iff_iff, losesDuplicate_iff, losesDuplicate_iff]
  refine and_congr_right fun _ => ?_
  constructor
  · rintro ⟨j, t, other, hne, ht, hc, hrest⟩
    exact ⟨j, t, other, hne, (Pool.getElem?_veiled_iff hc).1 ht, hc, hrest⟩
  · rintro ⟨j, t, other, hne, ht, hc, hrest⟩
    exact ⟨j, t, other, hne, (Pool.getElem?_veiled_iff hc).2 ht, hc, hrest⟩

theorem cleanShard_veiled (acc : Pool × Nat) (i : Nat) :
    cleanShard active (acc.1.veiled, acc.2) i =
      ((cleanShard active acc i).1.veiled, (cleanShard active acc i).2) := by
  obtain ⟨pool, removed⟩ := acc
  unfold cleanShard
  have hstays : ∀ head, stays active pool.veiled i head = stays active pool i head := by
    intro head
    funext h st
    rw [stays, stays, losesDuplicate_veiled]
  cases hs : pool[i]? with
  | none => simp [hs]
  | some s =>
      cases hc : s.changeable with
      | false => simp [hs, hc]
      | true =>
          simp only [Pool.getElem?_veiled, hs, Option.map_some, ShardState.veiled_of_changeable hc,
            hc, if_true, hstays]
          rw [Pool.veiled, Pool.veiled, List.map_set, ShardState.veiled_of_changeable rfl]

theorem run_veiled (active : List Fingerprint) (pool : Pool) :
    run active pool.veiled = ((run active pool).1.veiled, (run active pool).2) := by
  let veil : Pool × Nat → Pool × Nat := fun acc => (acc.1.veiled, acc.2)
  rw [run, run, Pool.length_veiled]
  change List.foldl _ (veil (pool, 0)) _ = veil (List.foldl _ (pool, 0) _)
  exact List.foldl_hom veil cleanShard_veiled

end Cleanup

/-! ## Shedding -/

namespace Shedding

variable {max expected : Int} {pool : Pool} {i : Nat}

theorem destination?_veiled (pool : Pool) (i : Nat) (series max : Int) :
    destination? pool.veiled i series max = destination? pool i series max := by
  unfold destination?
  rw [Pool.length_veiled]
  congr 1
  funext j
  cases hs : pool[j]? <;> simp [hs]

theorem mayChange_of_destination? {series : Int} {j : Nat}
    (hj : destination? pool i series max = some j) : pool.MayChange j := by
  obtain ⟨-, t, ht, haccepts⟩ := destination?_eq_some hj
  exact Pool.mayChange_iff.2 ⟨t, ht, ShardState.changeable_of_accepts haccepts⟩

theorem shed_veiled {candidates : List (Fingerprint × Int)} (total : Int)
    (hi : pool.MayChange i) :
    shed max expected i candidates total pool.veiled =
      ((shed max expected i candidates total pool).1.veiled,
        (shed max expected i candidates total pool).2) := by
  induction candidates generalizing pool total with
  | nil => rfl
  | cons e rest ih =>
      obtain ⟨h, series⟩ := e
      rw [shed, shed]
      split
      · rfl
      rw [destination?_veiled]
      cases hdest : destination? pool i series max with
      | none => exact ih total hi
      | some j =>
          simp only [Option.bind_some,
            Pool.transfer_veiled hi (mayChange_of_destination? hdest) h]
          cases htransfer : pool.transfer i j h with
          | none => exact ih total hi
          | some moved => simp [ih _ (Pool.mayChange_of_transfer htransfer hi)]

def Outcome.veiled (acc : Outcome) : Outcome := { acc with pool := acc.pool.veiled }

theorem shedShard_veiled (acc : Outcome) (i : Nat) :
    shedShard max acc.veiled i = (shedShard max acc i).veiled := by
  unfold shedShard Outcome.veiled
  cases hs : acc.pool[i]? with
  | none => simp [hs]
  | some s =>
      cases hc : s.changeable with
      | false => simp [hs, hc]
      | true =>
          simp only [Pool.getElem?_veiled, hs, Option.map_some, ShardState.veiled_of_changeable hc,
            hc, if_true]
          cases Tier.of? s.head max with
          | none => rfl
          | some tier => simp only [shed_veiled _ (Pool.mayChange_iff.2 ⟨s, hs, hc⟩)]

theorem run_veiled (max : Int) (pool : Pool) :
    run max pool.veiled = (run max pool).veiled := by
  rw [run, run, Pool.length_veiled]
  change List.foldl _ (Outcome.veiled ⟨pool, 0, 0⟩) _ = _
  exact List.foldl_hom Outcome.veiled shedShard_veiled

end Shedding

/-! ## Placement -/

namespace Placement

variable {σ : Type} {max : Int}

theorem eligible_veiled (pool : Pool) (series max : Int) :
    eligible pool.veiled series max = eligible pool series max := by
  unfold eligible Pool.veiled
  rw [List.zipIdx_map, List.filter_map, List.map_map]
  simp [Function.comp_def]

theorem pick_veiled (p : Placement) (pool : Pool) (series max : Int) (d : Draws) :
    p.pick pool.veiled series max d = p.pick pool series max d := by
  cases p with
  | firstFit => simp [pick, Pool.veiled, List.findIdx?_map, Function.comp_def]
  | weighted =>
      simp only [pick, eligible_veiled]
      rw [Pool.filter_veiled (fun s => s.accepts_veiled series max)
        fun s hs => ShardState.changeable_of_accepts hs]

def Outcome.veiled (acc : Outcome σ) : Outcome σ := { acc with pool := acc.pool.veiled }

theorem place_veiled (p : Placement) (max : Int) (h : Fingerprint) (estimate : Option Status)
    (acc : Outcome σ) : place p max h estimate acc.veiled = (place p max h estimate acc).veiled := by
  unfold place Outcome.veiled
  cases estimate with
  | none => rfl
  | some st =>
      dsimp only
      split
      · rfl
      rw [pick_veiled]
      rcases hpick : p.pick acc.pool st.series max acc.draws with ⟨_ | j, draws⟩
      · rfl
      · obtain ⟨t, ht, haccepts⟩ := accepts_of_pick hpick
        have hj := Pool.mayChange_iff.2 ⟨t, ht, ShardState.changeable_of_accepts haccepts⟩
        simp only [Pool.veiled_modify hj fun s => s.changeable_receive h st.series]

theorem placeTarget_veiled (p : Placement) (lookup : Lookup σ) (known : StatusMap)
    (acc : Outcome σ) (item : String × Target) :
    placeTarget p lookup known max acc.veiled item =
      (placeTarget p lookup known max acc item).veiled := by
  unfold placeTarget
  have hholds : acc.veiled.pool.holds item.2.hash = acc.pool.holds item.2.hash :=
    Pool.holds_veiled acc.pool item.2.hash
  dsimp only
  rw [hholds]
  split
  · rfl
  · exact place_veiled p max item.2.hash _
      { acc with explored := (estimate lookup known item.1 item.2 acc.explored).2 }

theorem run_veiled (p : Placement) (lookup : Lookup σ) (known : StatusMap) (max : Int)
    (active : TargetsByJob) (pool : Pool) (draws : Draws) (explored : σ) :
    p.run lookup known max active pool.veiled draws explored =
      (p.run lookup known max active pool draws explored).veiled := by
  unfold run
  change List.foldl _ (Outcome.veiled ⟨pool, 0, 0, draws, explored⟩) _ = _
  exact List.foldl_hom Outcome.veiled (placeTarget_veiled p lookup known)

end Placement

/-! ## Resizing -/

namespace Scaling

variable {max : Int} {maxIdle now : Nat} {pool : Pool} {i : Nat}

def hidden (e : Bool × Int) : Bool × Int := if e.1 then e else (false, 0)

theorem earlier_veiled (pool : Pool) (i : Nat) :
    earlier pool.veiled i = (earlier pool i).map hidden := by
  unfold earlier Pool.veiled
  rw [← List.map_take, List.map_map, List.map_map]
  refine List.map_congr_left fun s _ => ?_
  cases hc : s.changeable <;> simp [ShardState.veiled, hidden, hc, ShardState.head]

theorem drainMoves_hidden (entries : List (Fingerprint × Status)) (loads : List (Bool × Int)) :
    drainMoves max entries (loads.map hidden) = drainMoves max entries loads := by
  induction entries generalizing loads with
  | nil => rfl
  | cons e rest ih =>
      obtain ⟨h, st⟩ := e
      rw [drainMoves, drainMoves]
      split
      · have hfind : (loads.map hidden).findIdx? (fun e => e.1 && Word.add e.2 st.series < max) =
            loads.findIdx? fun e => e.1 && Word.add e.2 st.series < max := by
          rw [List.findIdx?_map]
          congr 1
          funext e
          obtain ⟨c, head⟩ := e
          cases c <;> rfl
        rw [hfind]
        cases hj : loads.findIdx? (fun e => e.1 && Word.add e.2 st.series < max) with
        | none => rfl
        | some j =>
            obtain ⟨hlt, hfits, -⟩ := List.findIdx?_eq_some_iff_getElem.1 hj
            have hc : loads[j].1 = true := (Bool.and_eq_true_iff.1 hfits).1
            have hmodify := map_modify_of_fixed hidden (fun e => (e.1, Word.add e.2 st.series))
              (List.getElem?_eq_getElem hlt) (by simp [hidden, hc]) (by simp [hidden, hc])
            simp only [Option.bind_eq_bind, Option.bind_some, hmodify, ih]
      · exact ih loads

theorem planDrain_veiled (max : Int) (pool : Pool) (i : Nat) (s : ShardState) :
    planDrain max pool.veiled i s = planDrain max pool i s := by
  have hearlier := earlier_veiled pool i
  unfold earlier at hearlier
  rw [planDrain, planDrain, hearlier, drainMoves_hidden]

theorem verdict_veiled (pool : Pool) (i : Nat) :
    verdict max maxIdle now pool.veiled i = verdict max maxIdle now pool i := by
  unfold verdict
  cases hs : pool[i]? with
  | none => simp [hs]
  | some s =>
      cases hc : s.changeable with
      | false => simp [hs, hc]
      | true =>
          simp only [Pool.getElem?_veiled, hs, Option.map_some, ShardState.veiled_of_changeable hc,
            planDrain_veiled]

theorem mayChange_of_drainMoves {entries : List (Fingerprint × Status)}
    {loads : List (Bool × Int)} {moves : List (Fingerprint × Nat)}
    (hmoves : drainMoves max entries loads = some moves) :
    ∀ m ∈ moves, loads[m.2]?.map (·.1) = some true := by
  induction entries generalizing loads moves with
  | nil =>
      obtain rfl := Option.some.inj hmoves
      simp
  | cons e rest ih =>
      obtain ⟨h, st⟩ := e
      rw [drainMoves] at hmoves
      split at hmoves
      · obtain ⟨j, hj, hmoves⟩ := Option.bind_eq_some_iff.1 hmoves
        obtain ⟨later, hlater, hmoves⟩ := Option.bind_eq_some_iff.1 hmoves
        obtain rfl := Option.some.inj hmoves
        intro m hm
        rcases List.mem_cons.1 hm with rfl | hm
        · obtain ⟨hlt, hfits, -⟩ := List.findIdx?_eq_some_iff_getElem.1 hj
          simp [List.getElem?_eq_getElem hlt, (Bool.and_eq_true_iff.1 hfits).1]
        · have hlater := ih hlater m hm
          rw [List.getElem?_modify] at hlater
          cases hload : loads[m.2]? with
          | none => simp [hload] at hlater
          | some load =>
              rw [hload] at hlater
              split at hlater <;> simpa using hlater
      · exact ih hmoves

theorem applyMoves_veiled {moves : List (Fingerprint × Nat)} (hi : pool.MayChange i)
    (hmoves : ∀ m ∈ moves, pool.MayChange m.2) :
    applyMoves i moves pool.veiled =
      ((applyMoves i moves pool).1.veiled, (applyMoves i moves pool).2) := by
  induction moves generalizing pool with
  | nil => rfl
  | cons m rest ih =>
      obtain ⟨h, j⟩ := m
      rw [applyMoves, applyMoves, Pool.transfer_veiled hi (hmoves (h, j) List.mem_cons_self)]
      cases htransfer : pool.transfer i j h with
      | none => exact ih hi fun m hm => hmoves m (List.mem_cons_of_mem _ hm)
      | some moved =>
          have hrest : ∀ m ∈ rest, moved.MayChange m.2 := fun m hm =>
            Pool.mayChange_of_transfer htransfer (hmoves m (List.mem_cons_of_mem _ hm))
          simp [ih (Pool.mayChange_of_transfer htransfer hi) hrest]

theorem applyMoves_veiled_of_drains {moves : List (Fingerprint × Nat)}
    (hdrains : verdict max maxIdle now pool i = .drains moves) :
    applyMoves i moves pool.veiled =
      ((applyMoves i moves pool).1.veiled, (applyMoves i moves pool).2) := by
  obtain ⟨s, hs, hc, -, -, hmoves⟩ := verdict_eq_drains hdrains
  refine applyMoves_veiled (Pool.mayChange_iff.2 ⟨s, hs, hc⟩) fun m hm => ?_
  have hload := mayChange_of_drainMoves hmoves m hm
  change (earlier pool i)[m.2]?.map (·.1) = some true at hload
  rw [getElem?_earlier] at hload
  split at hload
  · rwa [Option.map_map] at hload
  · cases hload

def Shrunk.veiled (acc : Shrunk) : Shrunk := { acc with pool := acc.pool.veiled }

theorem walk_veiled (n : Nat) (acc : Shrunk) :
    walk max maxIdle now n acc.veiled = (walk max maxIdle now n acc).veiled := by
  induction n generalizing acc with
  | zero => rfl
  | succ i ih =>
      have hsame : verdict max maxIdle now acc.veiled.pool i = verdict max maxIdle now acc.pool i :=
        verdict_veiled acc.pool i
      cases hverdict : verdict max maxIdle now acc.pool i <;>
        simp only [walk_succ, hsame, hverdict]
      case counts => exact ih { acc with desired := acc.desired - 1 }
      case drains moves =>
        have happly := applyMoves_veiled_of_drains hverdict
        rw [← ih]
        simp only [Shrunk.veiled, happly]

theorem shrink_veiled (pool : Pool) :
    shrink max maxIdle now pool.veiled = (shrink max maxIdle now pool).veiled := by
  rw [shrink, Pool.length_veiled]
  exact walk_veiled pool.length ⟨pool, pool.length, 0⟩

end Scaling

/-! ## The whole cycle -/

def ShardState.Indistinct (s t : ShardState) : Prop :=
  t = s ∨ s.changeable = false ∧ t.changeable = false ∧ t.scraping.keys = s.scraping.keys

/-- Two pools that differ only in shards that may not be changed, and there not in the targets. -/
def Pool.Indistinct (pool other : Pool) : Prop := List.Forall₂ ShardState.Indistinct pool other

theorem ShardState.Indistinct.veiled_eq {s t : ShardState} (hsame : s.Indistinct t) :
    t.veiled = s.veiled := by
  rcases hsame with rfl | ⟨hs, ht, hkeys⟩
  · rfl
  · simp [veiled, hs, ht, SortedMap.map_const_eq_of_keys hkeys]

theorem Pool.Indistinct.veiled_eq {pool other : Pool} (hsame : pool.Indistinct other) :
    other.veiled = pool.veiled := by
  induction hsame with
  | nil => rfl
  | cons hs _ ih =>
      rw [Pool.veiled, Pool.veiled, List.map_cons, List.map_cons, hs.veiled_eq]
      exact congrArg _ ih

theorem GlobalStatus.merge_veiled {σ : Type} (lookup : Lookup σ) (explored : σ)
    (active : TargetsByJob) (pool : Pool) :
    merge lookup explored active pool.veiled = merge lookup explored active pool := by
  have hholders : holders pool.veiled = holders pool := by
    funext h
    rw [holders, holders, Pool.filter_veiled ShardState.changeable_veiled fun _ hc => hc]
  unfold merge merged
  rw [hholders]

theorem Assignment.build_veiled (active : TargetsByJob) (pool : Pool) :
    build active pool.veiled = (build active pool).veiled := by
  simp only [build, Pool.veiled, List.map_map]
  refine List.map_congr_left fun s _ => ?_
  cases hc : s.changeable <;> simp [ShardState.veiled, hc]

namespace Planner

variable {σ : Type} (lookup : Lookup σ) (now : Nat) (active : TargetsByJob) (planner : Planner)
  (pool : Pool) (explored : σ)

theorem changeableCount_veiled : pool.veiled.changeableCount = pool.changeableCount := by
  simp [Pool.changeableCount, Pool.veiled, List.countP_map, Function.comp_def]

theorem resize_veiled (p : Policy) (needSpace : Int) :
    resize p now needSpace pool.veiled =
      ((resize p now needSpace pool).1.veiled, (resize p now needSpace pool).2) := by
  unfold resize
  split
  · simp only [shrink_veiled, Shrunk.veiled]
  · rw [changeableCount_veiled, Pool.length_veiled]
    split <;> rfl

/-- A veiled pool is planned as the pool itself is, and what comes out is veiled. -/
theorem plan_veiled :
    planner.plan lookup now active pool.veiled explored =
      { planner.plan lookup now active pool explored with
        pool := (planner.plan lookup now active pool explored).pool.veiled } := by
  simp only [plan, Cleanup.run_veiled, Shedding.run_veiled, Shedding.Outcome.veiled,
    Placement.run_veiled, Placement.Outcome.veiled, resize_veiled, GlobalStatus.merge_veiled,
    Assignment.build_veiled]

/-- A shard that may not be changed comes out as it went in, and of what is known of it, only
which targets it holds can matter to the outcome. -/
theorem plan_isolates_frozen :
    (∀ (i : Nat) (s : ShardState), s.changeable = false →
        ((planner.plan lookup now active pool explored).pool[i]? = some s ↔ pool[i]? = some s)) ∧
      ∀ other, pool.Indistinct other →
        let out := planner.plan lookup now active pool explored
        let out' := planner.plan lookup now active other explored
        { out' with pool := out.pool } = out ∧
          ∀ (i : Nat) (s : ShardState), s.changeable = true →
            (out'.pool[i]? = some s ↔ out.pool[i]? = some s) := by
  refine ⟨fun i s hc => getElem?_plan_iff_of_frozen lookup now active planner pool explored hc,
    fun other hsame => ?_⟩
  intro out out'
  have hout : { out' with pool := out'.pool.veiled } = { out with pool := out.pool.veiled } := by
    rw [← plan_veiled, ← plan_veiled, hsame.veiled_eq]
  constructor
  · exact congrArg (fun o : Outcome σ => { o with pool := out.pool }) hout
  · intro i s hc
    have hpool : out'.pool.veiled = out.pool.veiled := congrArg Outcome.pool hout
    rw [← Pool.getElem?_veiled_iff hc, hpool, Pool.getElem?_veiled_iff hc]

def unreachable (head : Int) (st : Status) : Pool :=
  [{ id := "s0", changeable := true, runtime := { headSeries := 185 },
     scraping := .ofList [(1, { health := .good, series := 30, scrapes := 5 })] },
   { id := "s1", changeable := true, runtime := { headSeries := 20 } },
   { id := "s2", changeable := false, runtime := { headSeries := head },
     scraping := .ofList [(1, st), (2, st)] }]

theorem plan_isolates_unreachable_shard :
    let active : TargetsByJob := .ofList
      [("node", [{ hash := 1, job := "node", url := "" }, { hash := 2, job := "node", url := "" }])]
    let planner : Planner :=
      { policy := ⟨100, 16, .ofSecs 60, .ofSecs 15⟩, draws := { ahead := [] } }
    let lookup : Lookup Unit := ⟨fun _ _ e => (none, e), fun _ _ _ => none⟩
    let known : Status := { health := .good, series := 70, scrapes := 5 }
    let out := planner.plan lookup 1000 active (unreachable 0 {}) ()
    let out' := planner.plan lookup 1000 active (unreachable 185 known) ()
    (unreachable 0 {}).Indistinct (unreachable 185 known) ∧ out.transfers = 1 ∧
      out.pool[2]? = (unreachable 0 {})[2]? ∧ { out' with pool := out.pool } = out ∧
      out'.pool[1]? = out.pool[1]? := by
  intro active planner lookup known out out'
  have hsame : (unreachable 0 {}).Indistinct (unreachable 185 known) :=
    .cons (.inl rfl) (.cons (.inl rfl) (.cons (.inr ⟨rfl, rfl, by decide +kernel⟩) .nil))
  obtain ⟨hfrozen, hpools⟩ :=
    plan_isolates_frozen lookup 1000 active planner (unreachable 0 {}) ()
  obtain ⟨hout, hchangeable⟩ := hpools _ hsame
  refine ⟨hsame, by decide +kernel, (hfrozen 2 _ rfl).2 rfl, hout, ?_⟩
  have hdest : out.pool[1]?.map (·.changeable) = some true := by decide +kernel
  obtain ⟨s, hs, hc⟩ := Option.map_eq_some_iff.1 hdest
  rw [hs, (hchangeable 1 s hc).2 hs]

end Planner

end ScrapeFleet
