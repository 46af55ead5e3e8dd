import ScrapeFleet.Proofs.Plan.Cycle
import ScrapeFleet.Proofs.Plan.Demand
import ScrapeFleet.Proofs.Plan.Overload

/-!
# What shards receive

The receipts of a cycle, in the order in which shedding, placement and draining hand the
targets out.  A shard takes a target only if it has room for it at that moment, so the
last one that it takes leaves it below the maximum, however receipts from the three
passes are mixed before.  What has been received has not settled, so that no later step
of the cycle touches it.
-/

namespace ScrapeFleet

open Planning

/-!
## The receipts of a cycle

The receipts of a pass are listed along its own recursion, as it comes by each pool.
-/

structure Receipt where
  dest : Nat
  hash : Fingerprint
  series : Int
  deriving DecidableEq, Repr

namespace Receipt

def ofMove (pool : Pool) (source dest : Nat) (h : Fingerprint) : Receipt :=
  ⟨dest, h, ((pool[source]?.bind (·.scraping.get? h)).map (·.series)).getD 0⟩

def collect {α β : Type} (f : β → α → β) (of : β → α → List Receipt) : List α → β → List Receipt
  | [], _ => []
  | a :: l, b => of b a ++ collect f of l (f b a)

theorem collect_append {α β : Type} (f : β → α → β) (of : β → α → List Receipt) (l l' : List α)
    (b : β) : collect f of (l ++ l') b = collect f of l b ++ collect f of l' (l.foldl f b) := by
  induction l generalizing b with
  | nil => rfl
  | cons a l ih => simp [collect, ih]

def arrivals (log : List Receipt) (i : Nat) : List Int :=
  (log.filter (·.dest = i)).map (·.series)

theorem arrivals_cons (r : Receipt) (log : List Receipt) (i : Nat) :
    arrivals (r :: log) i = if r.dest = i then r.series :: arrivals log i else arrivals log i := by
  by_cases hi : r.dest = i <;> simp [arrivals, hi]

theorem arrivals_eq_nil {log : List Receipt} {i : Nat} (hnone : ∀ r ∈ log, r.dest ≠ i) :
    arrivals log i = [] := by
  rw [arrivals, List.map_eq_nil_iff, List.filter_eq_nil_iff]
  exact fun r hr => by simpa using hnone r hr

end Receipt

namespace Shedding

def shedReceipts (max expected : Int) (i : Nat) :
    List (Fingerprint × Int) → Int → Pool → List Receipt
  | [], _, _ => []
  | (h, series) :: rest, total, pool =>
    if total ≤ expected || max < series then []
    else
      match destination? pool i series max with
      | none => shedReceipts max expected i rest total pool
      | some j =>
        match pool.transfer i j h with
        | none => shedReceipts max expected i rest total pool
        | some moved =>
          .ofMove pool i j h :: shedReceipts max expected i rest (Word.sub total series) moved

def shardReceipts (max : Int) (acc : Outcome) (i : Nat) : List Receipt :=
  match acc.pool[i]? with
  | none => []
  | some s =>
    match s.limit? max with
    | none => []
    | some limit => shedReceipts max limit i (candidates s) s.movableSeries acc.pool

def receipts (max : Int) (pool : Pool) : List Receipt :=
  Receipt.collect (shedShard max) (shardReceipts max) (List.range pool.length) ⟨pool, 0, 0⟩

end Shedding

namespace Placement

variable {σ : Type}

def placeReceipts (p : Placement) (max : Int) (h : Fingerprint) (estimate : Option Status)
    (acc : Outcome σ) : List Receipt :=
  match wanted max estimate with
  | none => []
  | some series =>
    match (p.pick acc.pool series max acc.draws).1 with
    | none => []
    | some j => [⟨j, h, series⟩]

def targetReceipts (p : Placement) (lookup : Lookup σ) (known : StatusMap) (max : Int)
    (acc : Outcome σ) (item : String × Target) : List Receipt :=
  if acc.pool.holds item.2.hash then []
  else
    let (st, explored) := estimate lookup known item.1 item.2 acc.explored
    placeReceipts p max item.2.hash st { acc with explored }

def receipts (p : Placement) (lookup : Lookup σ) (known : StatusMap) (max : Int)
    (active : TargetsByJob) (pool : Pool) (draws : Draws) (explored : σ) : List Receipt :=
  Receipt.collect (placeTarget p lookup known max) (targetReceipts p lookup known max)
    active.listed ⟨pool, 0, 0, draws, explored⟩

end Placement

namespace Scaling

def drainReceipts (i : Nat) : List (Fingerprint × Nat) → Pool → List Receipt
  | [], _ => []
  | (h, j) :: rest, pool =>
    match pool.transfer i j h with
    | none => drainReceipts i rest pool
    | some moved => .ofMove pool i j h :: drainReceipts i rest moved

def walkReceipts (max : Int) (maxIdle now : Nat) : Nat → Pool → List Receipt
  | 0, _ => []
  | i + 1, pool =>
    match verdict max maxIdle now pool i with
    | .ends => []
    | .counts => walkReceipts max maxIdle now i pool
    | .drains moves =>
      drainReceipts i moves pool ++ walkReceipts max maxIdle now i (applyMoves i moves pool).1

end Scaling

namespace Planner

variable {σ : Type}

def resizeReceipts (p : Policy) (now : Nat) (needSpace : Int) (pool : Pool) : List Receipt :=
  if !p.maxIdle.isZero && needSpace = 0 then
    Scaling.walkReceipts p.maxSeries p.maxIdle.secs now pool.length pool
  else []

def receipts (lookup : Lookup σ) (now : Nat) (active : TargetsByJob) (planner : Planner)
    (pool : Pool) (explored : σ) : List Receipt :=
  let p := planner.policy
  let cleaned := (Cleanup.run active.hashes pool).1
  let shed := Shedding.run p.maxSeries cleaned
  let placed := (placement p).run lookup planner.known p.maxSeries active shed.pool
    planner.draws explored
  Shedding.receipts p.maxSeries cleaned ++
    ((placement p).receipts lookup planner.known p.maxSeries active shed.pool planner.draws
        explored ++
      resizeReceipts p now (Word.add shed.needSpace placed.needSpace) placed.pool)

end Planner

/-! ## Receiving -/

namespace Planning

variable {max : Int} {active : List Fingerprint} {pool pool' pool'' : Pool} {r : Receipt}
  {log log' : List Receipt}

/-- A step in which a shard receives a target, from another one or as a new one. -/
inductive Receives (max : Int) (active : List Fingerprint) : Receipt → Pool → Pool → Prop
  | move {pool : Pool} {i j : Nat} {s t : ShardState} {h : Fingerprint} {st : Status} :
      i ≠ j → pool[i]? = some s → s.changeable = true → s.scraping.get? h = some st →
      st.isSettled = true → pool[j]? = some t → t.accepts st.series max = true →
      Receives max active ⟨j, h, st.series⟩ pool
        ((pool.modify i (·.release h)).modify j (·.receive h st.series))
  | place {pool : Pool} {j : Nat} {t : ShardState} {h : Fingerprint} {series : Int} :
      h ∈ active → pool.holds h = false → pool[j]? = some t → t.accepts series max = true →
      Receives max active ⟨j, h, series⟩ pool (pool.modify j (·.receive h series))

inductive Received (max : Int) (active : List Fingerprint) : List Receipt → Pool → Pool → Prop
  | nil {pool : Pool} : Received max active [] pool pool
  | cons {r : Receipt} {log : List Receipt} {pool pool' pool'' : Pool} :
      Receives max active r pool pool' → Received max active log pool' pool'' →
      Received max active (r :: log) pool pool''

theorem Receives.step (receives : Receives max active r pool pool') :
    Step max active pool pool' := by
  cases receives with
  | move hne hs hc hget hsettled ht haccepts =>
      exact .move (.intro hne hs hc hget hsettled ht haccepts)
  | place hactive hholds ht haccepts => exact .place hactive hholds ht haccepts

theorem Received.steps (received : Received max active log pool pool') :
    Steps max active pool pool' := by
  induction received with
  | nil => exact .refl
  | cons receives _ ih => exact .head receives.step ih

theorem Received.append (received : Received max active log pool pool')
    (received' : Received max active log' pool' pool'') :
    Received max active (log ++ log') pool pool'' := by
  induction received with
  | nil => exact received'
  | cons receives _ ih => exact .cons receives (ih received')

theorem Receives.of_transfer {i j : Nat} {s t : ShardState} {h : Fingerprint} {st : Status}
    (hne : i ≠ j) (hs : pool[i]? = some s) (hc : s.changeable = true)
    (hget : s.scraping.get? h = some st) (hsettled : st.isSettled = true)
    (ht : pool[j]? = some t) (haccepts : t.accepts st.series max = true) :
    ∃ moved, pool.transfer i j h = some moved ∧
      Receives max active (.ofMove pool i j h) pool moved ∧
      moved = (pool.modify i (·.release h)).modify j (·.receive h st.series) := by
  obtain ⟨moved, htransfer, -, rfl⟩ := transfer_eq_some hne hs hc hget hsettled ht haccepts
  refine ⟨_, htransfer, ?_, rfl⟩
  have hreceipt : Receipt.ofMove pool i j h = ⟨j, h, st.series⟩ := by
    simp [Receipt.ofMove, hs, hget]
  rw [hreceipt]
  exact .move hne hs hc hget hsettled ht haccepts

/-! ## Loads -/

theorem Receives.head_eq (receives : Receives max active r pool pool') (i : Nat) :
    pool'[i]?.map (·.head) =
      pool[i]?.map fun s => if r.dest = i then Word.add s.head r.series else s.head := by
  cases receives with
  | @move _ k j s t h st hne hs _ _ _ ht _ =>
      rw [List.getElem?_modify, List.getElem?_modify]
      by_cases hj : j = i
      · subst hj
        simp [ht, hne, ShardState.receive, ShardState.head]
      · cases hpool : pool[i]? with
        | none => rfl
        | some u => by_cases hk : k = i <;> simp [hj, hk, ShardState.release]
  | @place _ j t h series _ _ ht _ =>
      rw [List.getElem?_modify]
      by_cases hj : j = i
      · subst hj
        simp [ht, ShardState.receive, ShardState.head]
      · simp [hj]

/-- The load of a shard grows by what it receives. -/
theorem Received.head_eq (received : Received max active log pool pool') (i : Nat) :
    pool'[i]?.map (·.head) =
      pool[i]?.map fun s => (Receipt.arrivals log i).foldl Word.add s.head := by
  induction received with
  | nil => rfl
  | @cons r log pool middle pool' receives _ ih =>
      have hmiddle := receives.head_eq i
      rw [ih]
      cases hs : pool[i]? with
      | none =>
          rw [hs, Option.map_none, Option.map_eq_none_iff] at hmiddle
          rw [hmiddle, Option.map_none, Option.map_none]
      | some s =>
          rw [hs, Option.map_some] at hmiddle
          obtain ⟨t, ht, hhead⟩ := Option.map_eq_some_iff.1 hmiddle
          rw [ht, Option.map_some, Option.map_some, hhead, Receipt.arrivals_cons]
          split <;> rfl

theorem Receives.head_lt (receives : Receives max active r pool pool') :
    ∃ s, pool'[r.dest]? = some s ∧ s.head < max := by
  cases receives with
  | @move _ k j s t h st hne _ _ _ _ ht haccepts =>
      exact ⟨t.receive h st.series, by simp [hne, ht], ShardState.add_lt_of_accepts haccepts⟩
  | @place _ j t h series _ _ ht haccepts =>
      exact ⟨t.receive h series, by simp [ht], ShardState.add_lt_of_accepts haccepts⟩

/-- The last receipt of a shard leaves it below the maximum. -/
theorem Received.head_lt (received : Received max active log pool pool') {i : Nat}
    (hsome : ∃ r ∈ log, r.dest = i) : ∃ s, pool'[i]? = some s ∧ s.head < max := by
  induction received with
  | nil =>
      obtain ⟨r, hmem, -⟩ := hsome
      cases hmem
  | @cons r log pool middle pool' receives received ih =>
      by_cases hlater : ∃ r' ∈ log, r'.dest = i
      · exact ih hlater
      · obtain ⟨r', hmem, hdest⟩ := hsome
        rcases List.mem_cons.1 hmem with rfl | hmem
        · -- What other shards receive later leaves this one as it is.
          have hsame := received.head_eq i
          obtain ⟨s, hs, hlt⟩ := receives.head_lt
          rw [hdest] at hs
          rw [Receipt.arrivals_eq_nil fun r hr heq => hlater ⟨r, hr, heq⟩, hs] at hsame
          obtain ⟨s', hs', hhead⟩ := Option.map_eq_some_iff.1 hsame
          exact ⟨s', hs', hhead.trans_lt hlt⟩
        · exact absurd ⟨r', hmem, hdest⟩ hlater

/-! ## Copies -/

/-- What a shard receives has settled neither there nor anywhere else. -/
theorem Receives.unsettled (receives : Receives max active r pool pool')
    (htidy : Cleanup.Tidy (pool.copies r.hash)) :
    pool'.copies r.hash r.dest = some (.fresh r.series) ∧ Unsettled (pool'.copies r.hash) := by
  cases receives with
  | @move _ k j s t h st hne hs hc hget hsettled ht haccepts =>
      have hcopy : pool.copies h k = some st := by rw [Pool.copies_eq_get? hs hc, hget]
      rw [Pool.copies_move hne ht (ShardState.changeable_of_accepts haccepts), if_pos rfl, hcopy,
        Option.map_some]
      exact ⟨Function.update_self .., htidy.unsettled_of_move hcopy hsettled j⟩
  | @place _ j t h series hactive hholds ht haccepts =>
      rw [Pool.copies_receive ht (ShardState.changeable_of_accepts haccepts), if_pos rfl]
      refine ⟨Function.update_self .., fun i st hst => ?_⟩
      by_cases hij : i = j
      · rw [hij, Function.update_self, Option.some.injEq] at hst
        rw [← hst]
        rfl
      · rw [Function.update_of_ne hij, Pool.copies_eq_none_of_holds hholds] at hst
        cases hst

theorem Receives.settled_or_new (receives : Receives max active r pool pool') :
    (∃ i st, pool.copies r.hash i = some st ∧ st.isSettled = true) ∨
      r.hash ∈ active ∧ ∀ i, pool.copies r.hash i = none := by
  cases receives with
  | @move _ k j s t h st _ hs hc hget hsettled _ _ =>
      exact .inl ⟨k, st, by rw [Pool.copies_eq_get? hs hc, hget], hsettled⟩
  | place hactive hholds _ _ => exact .inr ⟨hactive, Pool.copies_eq_none_of_holds hholds⟩

theorem Received.hash_ne (received : Received max active log pool pool') {h : Fingerprint} {k : Nat}
    {st : Status} (hactive : h ∈ active) (hst : pool.copies h k = some st)
    (hun : Unsettled (pool.copies h)) : ∀ r ∈ log, r.hash ≠ h := by
  induction received with
  | nil => simp
  | @cons r log pool middle pool' receives _ ih =>
      intro r' hmem
      rcases List.mem_cons.1 hmem with rfl | hmem
      · rintro rfl
        rcases receives.settled_or_new with ⟨i, st', hst', hsettled⟩ | ⟨-, hnone⟩
        · rw [hun i st' hst'] at hsettled
          cases hsettled
        · rw [hnone] at hst
          cases hst
      · have hsame := Steps.copies_eq_of_unsettled (.single receives.step) hactive hst hun
        exact ih (by rw [hsame, hst]) (by rwa [hsame]) r' hmem

/-- Each target is received at most once, and it stays where it has arrived. -/
theorem Received.kept (received : Received max active log pool pool')
    (hactive : ∀ h ∉ active, ∀ i, pool.copies h i = none)
    (htidy : ∀ h, Cleanup.Tidy (pool.copies h)) :
    (log.map (·.hash)).Nodup ∧
      ∀ r ∈ log, pool'.copies r.hash r.dest = some (.fresh r.series) := by
  induction received with
  | nil => simp
  | @cons r log pool middle pool' receives received ih =>
      have hmem : r.hash ∈ active := by
        rcases receives.settled_or_new with ⟨i, st, hst, -⟩ | ⟨hmem, -⟩
        · by_contra hinactive
          rw [hactive r.hash hinactive i] at hst
          cases hst
        · exact hmem
      -- What has been received is unsettled, so the rest of the run does not concern it.
      obtain ⟨hfresh, hun⟩ := receives.unsettled (htidy r.hash)
      obtain ⟨hnodup, hkept⟩ := ih
        (fun h hinactive => Steps.copies_eq_none hinactive (.single receives.step) (hactive h hinactive))
        (fun h => (htidy h).change (receives.step.change h))
      constructor
      · rw [List.map_cons, List.nodup_cons]
        refine ⟨fun hagain => ?_, hnodup⟩
        obtain ⟨r', hr', heq⟩ := List.mem_map.1 hagain
        exact received.hash_ne hmem hfresh hun r' hr' heq
      · intro r' hr'
        rcases List.mem_cons.1 hr' with rfl | hr'
        · rw [received.steps.copies_eq_of_unsettled hmem hfresh hun, hfresh]
        · exact hkept r' hr'

end Planning

/-! ## Receipts of the passes -/

variable {max : Int} {active : List Fingerprint} {pool : Pool} {i : Nat}

theorem Receipt.received_collect {α β : Type} {f : β → α → β} {of : β → α → List Receipt}
    (view : β → Pool) (count : β → Nat) {l : List α}
    (hf : ∀ b, ∀ a ∈ l, Received max active (of b a) (view b) (view (f b a)) ∧
      count (f b a) = count b + (of b a).length) (b : β) :
    Received max active (collect f of l b) (view b) (view (l.foldl f b)) ∧
      count (l.foldl f b) = count b + (collect f of l b).length := by
  induction l generalizing b with
  | nil => exact ⟨.nil, rfl⟩
  | cons a l ih =>
      obtain ⟨hfirst, hcount⟩ := hf b a List.mem_cons_self
      obtain ⟨hrest, hcounts⟩ := ih (fun b a ha => hf b a (List.mem_cons_of_mem _ ha)) (f b a)
      rw [List.foldl_cons, collect, List.length_append]
      exact ⟨hfirst.append hrest, by omega⟩

namespace Shedding

theorem HasCandidates.transfer {h : Fingerprint} {series : Int} {rest : List (Fingerprint × Int)}
    (hcand : HasCandidates pool i ((h, series) :: rest)) {j : Nat}
    (hj : destination? pool i series max = some j) :
    ∃ moved, pool.transfer i j h = some moved ∧
      Receives max active (.ofMove pool i j h) pool moved ∧ HasCandidates moved i rest := by
  obtain ⟨hne, t, ht, haccepts⟩ := destination?_eq_some hj
  have hmoved := hcand.moved hne
  obtain ⟨-, s, hs, hc, hall⟩ := hcand
  obtain ⟨st, hget, hmovable, rfl⟩ := hall (h, series) List.mem_cons_self
  obtain ⟨moved, htransfer, receives, rfl⟩ := Receives.of_transfer (Ne.symm hne) hs hc hget
    (isSettled_of_isMovable hmovable) ht haccepts
  exact ⟨_, htransfer, receives, hmoved⟩

theorem received_shed (expected : Int) {candidates : List (Fingerprint × Int)} (total : Int)
    (hcand : HasCandidates pool i candidates) :
    Received max active (shedReceipts max expected i candidates total pool) pool
        (shed max expected i candidates total pool).1 ∧
      (shed max expected i candidates total pool).2.2 =
        (shedReceipts max expected i candidates total pool).length := by
  induction candidates generalizing pool total with
  | nil => exact ⟨.nil, rfl⟩
  | cons e rest ih =>
      obtain ⟨h, series⟩ := e
      rw [shed, shedReceipts]
      split
      · exact ⟨.nil, rfl⟩
      cases hj : destination? pool i series max with
      | none => exact ih total hcand.tail
      | some j =>
          obtain ⟨moved, htransfer, receives, hrest⟩ := hcand.transfer hj
          obtain ⟨received, hcount⟩ := ih (Word.sub total series) hrest
          simp only [Option.bind_some, htransfer, List.length_cons]
          exact ⟨.cons receives received, congrArg (· + 1) hcount⟩

theorem received_shedShard (acc : Outcome) (i : Nat) :
    Received max active (shardReceipts max acc i) acc.pool (shedShard max acc i).pool ∧
      (shedShard max acc i).transfers = acc.transfers + (shardReceipts max acc i).length := by
  rw [shedShard_eq, shardReceipts]
  cases hs : acc.pool[i]? with
  | none => exact ⟨.nil, rfl⟩
  | some s =>
      cases hlimit : s.limit? max with
      | none => simpa [hlimit] using Received.nil
      | some limit =>
          obtain ⟨received, hcount⟩ := received_shed limit s.movableSeries
            (hasCandidates hs (changeable_of_limit? hlimit))
          simp only [hlimit]
          exact ⟨received, by rw [hcount]⟩

theorem received_run (active : List Fingerprint) (max : Int) (pool : Pool) :
    Received max active (receipts max pool) pool (run max pool).pool ∧
      (run max pool).transfers = (receipts max pool).length := by
  refine (Receipt.received_collect Outcome.pool Outcome.transfers
    (fun acc i _ => received_shedShard acc i) ⟨pool, 0, 0⟩).imp_right fun hcount => ?_
  rwa [Nat.zero_add] at hcount

end Shedding

namespace Placement

variable {σ : Type}

theorem received_place (p : Placement) {h : Fingerprint} (estimate : Option Status)
    (acc : Outcome σ) (hactive : h ∈ active) (hholds : acc.pool.holds h = false) :
    Received max active (placeReceipts p max h estimate acc) acc.pool
        (place p max h estimate acc).pool ∧
      (place p max h estimate acc).placed =
        acc.placed + (placeReceipts p max h estimate acc).length := by
  rw [place_eq, placeReceipts]
  cases wanted max estimate with
  | none => exact ⟨.nil, rfl⟩
  | some series =>
      dsimp only
      cases hpick : p.pick acc.pool series max acc.draws with
      | mk j draws =>
          cases j with
          | none => exact ⟨.nil, rfl⟩
          | some j =>
              obtain ⟨t, ht, haccepts⟩ := accepts_of_pick hpick
              exact ⟨.cons (.place hactive hholds ht haccepts) .nil, rfl⟩

theorem received_placeTarget (p : Placement) (lookup : Lookup σ) (known : StatusMap)
    (acc : Outcome σ) {item : String × Target} (hactive : item.2.hash ∈ active) :
    Received max active (targetReceipts p lookup known max acc item) acc.pool
        (placeTarget p lookup known max acc item).pool ∧
      (placeTarget p lookup known max acc item).placed =
        acc.placed + (targetReceipts p lookup known max acc item).length := by
  obtain ⟨job, t⟩ := item
  rw [placeTarget, targetReceipts]
  cases hholds : acc.pool.holds t.hash with
  | true => simpa [hholds] using Received.nil
  | false =>
      simp only [Bool.false_eq_true, if_false]
      exact received_place p _
        { acc with explored := (estimate lookup known job t acc.explored).2 } hactive hholds

theorem received_run (p : Placement) (lookup : Lookup σ) (known : StatusMap) (max : Int)
    (active : TargetsByJob) (pool : Pool) (draws : Draws) (explored : σ) :
    Received max active.hashes (p.receipts lookup known max active pool draws explored) pool
        (p.run lookup known max active pool draws explored).pool ∧
      (p.run lookup known max active pool draws explored).placed =
        (p.receipts lookup known max active pool draws explored).length := by
  refine (Receipt.received_collect Outcome.pool Outcome.placed (fun acc item hitem => ?_)
    ⟨pool, 0, 0, draws, explored⟩).imp_right fun hcount => ?_
  · exact received_placeTarget p lookup known acc (List.mem_map_of_mem hitem)
  · rwa [Nat.zero_add] at hcount

end Placement

namespace Scaling

theorem Undrained.transfer {h : Fingerprint} {st : Status} {rest : List (Fingerprint × Status)}
    (hun : Undrained pool i ((h, st) :: rest)) (hnormal : st.state = .normal) {j : Nat}
    (hj : (earlier pool i).findIdx? (fun e => e.1 && decide (Word.add e.2 st.series < max)) = some j) :
    ∃ moved, pool.transfer i j h = some moved ∧
      Receives max active (.ofMove pool i j h) pool moved ∧ Undrained moved i rest ∧
      earlier moved i = (earlier pool i).modify j fun e => (e.1, Word.add e.2 st.series) := by
  obtain ⟨hji, t, ht, haccepts⟩ := accepts_of_findIdx? hj
  have hmoved := hun.moved hji st.series
  obtain ⟨-, s, hs, hc, hentries, -⟩ := hun
  obtain ⟨hget, hsettled⟩ := hentries (h, st) List.mem_cons_self
  obtain ⟨moved, htransfer, receives, rfl⟩ := Receives.of_transfer (by omega) hs hc hget
    (hsettled (Status.isNormal_iff.2 hnormal)) ht haccepts
  exact ⟨_, htransfer, receives, hmoved, earlier_moved hji h st.series⟩

theorem received_drain {entries : List (Fingerprint × Status)} {moves : List (Fingerprint × Nat)}
    (hun : Undrained pool i entries) (hmoves : drainMoves max entries (earlier pool i) = some moves) :
    Received max active (drainReceipts i moves pool) pool (applyMoves i moves pool).1 ∧
      (applyMoves i moves pool).2 = (drainReceipts i moves pool).length := by
  induction entries generalizing pool moves with
  | nil =>
      obtain rfl : [] = moves := Option.some.inj hmoves
      exact ⟨.nil, rfl⟩
  | cons e rest ih =>
      obtain ⟨h, st⟩ := e
      rw [drainMoves] at hmoves
      split at hmoves
      · rename_i hnormal
        obtain ⟨j, hj, hmoves⟩ := Option.bind_eq_some_iff.1 hmoves
        obtain ⟨later, hlater, hmoves⟩ := Option.bind_eq_some_iff.1 hmoves
        obtain rfl : (h, j) :: later = moves := Option.some.inj hmoves
        obtain ⟨moved, htransfer, receives, hrest, hloads⟩ := hun.transfer hnormal hj
        obtain ⟨received, hcount⟩ := ih hrest (hloads ▸ hlater)
        simp only [applyMoves, drainReceipts, htransfer, List.length_cons]
        exact ⟨.cons receives received, congrArg (· + 1) hcount⟩
      · rename_i hnormal
        exact ih (hun.skip (Bool.eq_false_iff.2 fun hn => hnormal (Status.isNormal_iff.1 hn)))
          hmoves

theorem received_walk (maxIdle now n : Nat) (acc : Shrunk) :
    Received max active (walkReceipts max maxIdle now n acc.pool) acc.pool
        (walk max maxIdle now n acc).pool ∧
      (walk max maxIdle now n acc).transfers =
        acc.transfers + (walkReceipts max maxIdle now n acc.pool).length := by
  induction n generalizing acc with
  | zero => exact ⟨.nil, rfl⟩
  | succ i ih =>
      cases hverdict : verdict max maxIdle now acc.pool i <;>
        simp only [walk_succ, walkReceipts, hverdict]
      case ends => exact ⟨.nil, rfl⟩
      case counts => exact ih { acc with desired := acc.desired - 1 }
      case drains moves =>
        obtain ⟨s, hs, hc, -, hsettled, hmoves⟩ := verdict_eq_drains hverdict
        obtain ⟨hdrain, hdrained⟩ := received_drain (undrained hs hc hsettled) hmoves
        obtain ⟨hrest, hcount⟩ := ih
          { acc with pool := (applyMoves i moves acc.pool).1, transfers := _ }
        refine ⟨hdrain.append hrest, ?_⟩
        rw [hcount, List.length_append, ← hdrained, Nat.add_assoc]

end Scaling

/-! ## The whole cycle -/

theorem Cleanup.head_run (active : List Fingerprint) (pool : Pool) (i : Nat) :
    (run active pool).1[i]?.map (·.head) = pool[i]?.map (·.head) := by
  refine List.foldlRecOn (motive := fun acc : Pool × Nat =>
    acc.1[i]?.map (·.head) = pool[i]?.map (·.head)) _ _ rfl ?_
  intro acc hacc k _
  rw [← hacc]
  obtain ⟨-, heq⟩ | ⟨s, hs, -, heq⟩ := cleanShard_cases active acc k
  · rw [heq]
  · rw [heq, cleaned]
    by_cases hki : k = i
    · subst hki
      rw [List.getElem?_set_self (List.getElem?_eq_some_iff.1 hs).1, hs]
      rfl
    · rw [List.getElem?_set_ne hki]

theorem Assignment.head_build (active : TargetsByJob) (pool : Pool) (i : Nat) :
    (build active pool)[i]?.map (·.head) = pool[i]?.map (·.head) := by
  rw [getElem?_build, Option.map_map]
  congr 1
  funext s
  simp only [Function.comp_apply]
  split <;> rfl

namespace Planner

theorem received_resize (p : Policy) (now : Nat) (needSpace : Int) (pool : Pool) :
    Received p.maxSeries active (resizeReceipts p now needSpace pool) pool
        (resize p now needSpace pool).1 ∧
      (resize p now needSpace pool).2.2 = (resizeReceipts p now needSpace pool).length := by
  unfold resize resizeReceipts
  split
  · refine (Scaling.received_walk p.maxIdle.secs now pool.length
      ⟨pool, pool.length, 0⟩).imp_right fun hcount => ?_
    rwa [Nat.zero_add] at hcount
  · split <;> exact ⟨.nil, rfl⟩

variable {σ : Type} (lookup : Lookup σ) (now : Nat) (active : TargetsByJob) (planner : Planner)
  (pool : Pool) (explored : σ)

/-- After cleaning, a cycle is nothing but receipts. -/
theorem received_plan :
    Received planner.policy.maxSeries active.hashes
        (planner.receipts lookup now active pool explored) (Cleanup.run active.hashes pool).1
        (planner.planned lookup now active pool explored).1 ∧
      (planner.receipts lookup now active pool explored).length =
        (planner.plan lookup now active pool explored).transfers +
          (planner.plan lookup now active pool explored).placed := by
  let p := planner.policy
  let cleaned := (Cleanup.run active.hashes pool).1
  let shed := Shedding.run p.maxSeries cleaned
  let placed := (placement p).run lookup planner.known p.maxSeries active shed.pool
    planner.draws explored
  obtain ⟨hshed, hshedCount⟩ := Shedding.received_run active.hashes p.maxSeries cleaned
  obtain ⟨hplaced, hplacedCount⟩ := Placement.received_run (placement p) lookup planner.known
    p.maxSeries active shed.pool planner.draws explored
  obtain ⟨hresized, hresizedCount⟩ :=
    received_resize p now (Word.add shed.needSpace placed.needSpace) placed.pool
  refine ⟨hshed.append (hplaced.append hresized), ?_⟩
  calc (planner.receipts lookup now active pool explored).length
      = shed.transfers + (placed.placed +
          (resize p now (Word.add shed.needSpace placed.needSpace) placed.pool).2.2) := by
        rw [receipts, List.length_append, List.length_append, hshedCount, hplacedCount, hresizedCount]
    _ = (shed.transfers +
          (resize p now (Word.add shed.needSpace placed.needSpace) placed.pool).2.2) + placed.placed := by
        omega

/-- In a cycle different targets are received, as many as there are transfers and placements, and
in the end each of them is a fresh copy on its shard.  What a shard has received is added to its
load one by one, and one that has received something is below the maximum. -/
theorem plan_receipts :
    ((planner.receipts lookup now active pool explored).map (·.hash)).Nodup ∧
      let out := planner.plan lookup now active pool explored
      let log := planner.receipts lookup now active pool explored
      (log.length = out.transfers + out.placed ∧
          ∀ r ∈ log, out.pool.copies r.hash r.dest = some (.fresh r.series)) ∧
        ∀ (i : Nat) (s : ShardState), pool[i]? = some s → ∃ s', out.pool[i]? = some s' ∧
          s'.head = (Receipt.arrivals log i).foldl Word.add s.head ∧
          (Word.Fits (s.head + (Receipt.arrivals log i).sum) →
            s'.head = s.head + (Receipt.arrivals log i).sum) ∧
          ((∃ r ∈ log, r.dest = i) → s'.head < planner.policy.maxSeries) := by
  obtain ⟨received, hlength⟩ := received_plan lookup now active planner pool explored
  obtain ⟨hnodup, hkept⟩ := received.kept
    (fun h hinactive i => Option.eq_none_iff_forall_ne_some.2 fun st hst =>
      hinactive (Cleanup.mem_active_of_run hst))
    (Cleanup.tidy_run active.hashes pool)
  refine ⟨hnodup, ?_⟩
  intro out log
  refine ⟨⟨hlength, fun r hr => ?_⟩, fun i s hs => ?_⟩
  · rw [plan_pool, Assignment.copies_build, hkept r hr]
  · have hcleaned := Cleanup.head_run active.hashes pool i
    rw [hs, Option.map_some] at hcleaned
    obtain ⟨t, ht, hhead⟩ := Option.map_eq_some_iff.1 hcleaned
    have hload : (planner.planned lookup now active pool explored).1[i]?.map (·.head) =
        some ((Receipt.arrivals log i).foldl Word.add s.head) := by
      rw [received.head_eq i, ht, Option.map_some, hhead]
    have hbuilt : out.pool[i]?.map (·.head) =
        some ((Receipt.arrivals log i).foldl Word.add s.head) :=
      (Assignment.head_build active _ i).trans hload
    obtain ⟨s', hs', hhead'⟩ := Option.map_eq_some_iff.1 hbuilt
    refine ⟨s', hs', hhead', fun hfits => hhead'.trans (Word.foldl_add_eq hfits), fun hsome => ?_⟩
    obtain ⟨t', ht', hlt⟩ := received.head_lt hsome
    rw [ht', Option.map_some, Option.some.injEq] at hload
    rwa [hhead', ← hload]

def uneven : Pool :=
  [{ id := "s0", changeable := true, runtime := { headSeries := 115 },
     scraping := .ofList [(1, { health := .good, series := 60, scrapes := 5 }),
       (2, { health := .good, series := 55, scrapes := 5 })] },
   { id := "s1", changeable := true, runtime := { headSeries := 20 } },
   { id := "s2", changeable := true, runtime := { headSeries := 30 },
     scraping := .ofList [(3, { health := .good, series := 5, scrapes := 5 })] }]

theorem plan_receipts_of_uneven :
    let active : TargetsByJob := .ofList
      [("node", [1, 2, 3, 4].map fun h => { hash := h, job := "node", url := "" })]
    let planner : Planner :=
      { policy := ⟨100, 16, .ofSecs 60, .ofSecs 15⟩, draws := { ahead := [] } }
    let lookup : Lookup Unit :=
      ⟨fun _ _ e => (some { health := .good, series := 10 }, e), fun _ _ _ => none⟩
    let out := planner.plan lookup 1000 active uneven ()
    let log := planner.receipts lookup 1000 active uneven ()
    log = [⟨1, 1, 60⟩, ⟨1, 4, 10⟩, ⟨1, 3, 5⟩] ∧ log.length = out.transfers + out.placed ∧
      out.pool.copies 3 1 = some (.fresh 5) ∧
      ∃ s', out.pool[1]? = some s' ∧ s'.head = 95 ∧ s'.head < 100 := by
  intro active planner lookup out log
  have hlog : log = [⟨1, 1, 60⟩, ⟨1, 4, 10⟩, ⟨1, 3, 5⟩] := by decide +kernel
  obtain ⟨-, ⟨hlength, hkept⟩, hloads⟩ := plan_receipts lookup 1000 active planner uneven ()
  obtain ⟨s', hs', -, hhead, hroom⟩ := hloads 1 uneven[1] rfl
  have hlast : (⟨1, 3, 5⟩ : Receipt) ∈ log := by
    rw [hlog]
    decide
  refine ⟨hlog, hlength, hkept _ hlast, s', hs', ?_, hroom ⟨_, hlast, rfl⟩⟩
  have harrived : Receipt.arrivals log 1 = [60, 10, 5] := by
    rw [hlog]
    rfl
  rw [harrived] at hhead
  exact hhead (by decide)

end Planner

end ScrapeFleet
