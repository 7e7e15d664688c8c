import Stablecoin.Market.Adjustments
import Stablecoin.Market.Closures
import Stablecoin.Market.Deposits
import Stablecoin.Market.Liquidations
import Stablecoin.Market.Peg
import Stablecoin.Proofs.Ledger.Batches
import Stablecoin.Proofs.Ledger.Holders
import Stablecoin.Proofs.Roster

/-!
Who leaves and who joins over the steps of a period, whatever the numbers do. Each step
lists the accounts that it has made idle or active. The list is right as long as every
holder of a trove is active (`Tracked`): then an account that loses its trove was active,
and each step keeps it so. The other direction is not needed, and not every step keeps it.
A redemption that is refused after its walk leaves accounts without troves active.

A step whose list is of accounts that left is a `Departs`, one whose list is of accounts
that joined an `Arrives`, and one after another their lists are appended.
-/
namespace Stablecoin
open Ledger Stablecoin.Random
open Number (tolerance)
variable {α : Type} [Number α]

/-- A market over so many accounts whose roster is in order, and in which every holder of
    a trove is active, if there are any accounts. -/
structure Market.Tracked (size : Nat) (market : Market α) : Prop where
  division : market.roster.Division
  size_eq : market.roster.size = size
  holders : 0 < size → ∀ id, market.ledger.troves.Has id → market.roster.IsActive id

/-- The market has gone over into another in which the listed accounts are active no more. -/
structure Market.Departs (market : Market α) (gone : List AccountId) (left : Market α) : Prop where
  tracked : ∀ {size : Nat}, market.Tracked size → left.Tracked size
  leaves : ∀ {size : Nat}, market.Tracked size → 0 < size → market.roster.Leaves gone left.roster

/-- The market has gone over into another in which the listed accounts have become active. -/
structure Market.Arrives (market : Market α) (fresh : List AccountId) (left : Market α) : Prop where
  tracked : ∀ {size : Nat}, market.Tracked size → left.Tracked size
  joins : ∀ {size : Nat}, market.Tracked size → 0 < size → market.roster.Joins fresh left.roster

namespace Market
variable {size : Nat} {market mid left : Market α} {ledger next : Ledger α} {roster : Roster α}
  {gone fresh later : List AccountId} {context : Context α}

omit [Number α] in
theorem Departs.refl (market : Market α) : Departs market [] market :=
  ⟨id, fun _ _ => Roster.Leaves.refl _⟩

omit [Number α] in
theorem Departs.trans (first : Departs market gone mid) (second : Departs mid later left) :
    Departs market (gone ++ later) left :=
  ⟨second.tracked ∘ first.tracked, fun tracked some =>
    (first.leaves tracked some).trans (second.leaves (first.tracked tracked) some)⟩

omit [Number α] in
theorem Arrives.trans (first : Arrives market fresh mid) (second : Arrives mid later left) :
    Arrives market (fresh ++ later) left :=
  ⟨second.tracked ∘ first.tracked, fun tracked some =>
    (first.joins tracked some).trans (second.joins (first.tracked tracked) some)⟩

/-! ### Single accounts -/

omit [Number α] in
/-- Fewer holders of troves are still all active. -/
theorem Tracked.fewer (tracked : (⟨ledger, roster⟩ : Market α).Tracked size)
    (fewer : ∀ id, next.troves.Has id → ledger.troves.Has id) : (⟨next, roster⟩ : Market α).Tracked size :=
  { tracked with holders := fun some id held => tracked.holders some id (fewer id held) }

omit [Number α] in
theorem Tracked.setPrice (tracked : market.Tracked size) (price : α) :
    (⟨market.ledger.setPrice price, market.roster⟩ : Market α).Tracked size :=
  tracked.fewer fun _ held => held

theorem Tracked.advancePeriod (tracked : market.Tracked size) :
    (⟨market.ledger.advancePeriod, market.roster⟩ : Market α).Tracked size :=
  tracked.fewer fun _ held => held

omit [Number α] in
theorem Departs.fewer (fewer : ∀ id, next.troves.Has id → ledger.troves.Has id) :
    Departs ⟨ledger, roster⟩ [] ⟨next, roster⟩ :=
  ⟨fun tracked => tracked.fewer fewer, fun _ _ => Roster.Leaves.refl _⟩

omit [Number α] in
theorem Arrives.fewer (fewer : ∀ id, next.troves.Has id → ledger.troves.Has id) :
    Arrives ⟨ledger, roster⟩ [] ⟨next, roster⟩ :=
  ⟨fun tracked => tracked.fewer fewer, fun _ _ => Roster.Joins.refl _⟩

omit [Number α] in
/-- A holder whose trove is gone was active, and is deactivated. -/
theorem Departs.closed {account : AccountId} (held : ledger.troves.Has account)
    (has : ∀ id, next.troves.Has id ↔ id ≠ account ∧ ledger.troves.Has id) (period : Nat) :
    Departs ⟨ledger, roster⟩ [account] ⟨next, roster.deactivate account period⟩ where
  tracked tracked :=
    { division := tracked.division.deactivate account period
      size_eq := (roster.size_deactivate account period).trans tracked.size_eq
      holders := fun some id remains => by
        obtain ⟨other, before⟩ := (has id).mp remains
        exact (Roster.isActive_deactivate tracked.division account id period).mpr
          ⟨other, tracked.holders some id before⟩ }
  leaves tracked some := tracked.division.leaves (tracked.holders some account held) period

/-- An account that opens a trove is active afterwards, whether it was idle or not. -/
theorem Tracked.opened (tracked : (⟨ledger, roster⟩ : Market α).Tracked size) {account : AccountId}
    {collateral netDebt : α} {change : TroveChange α} (known : 0 < size → account < size)
    (opening : Opening ledger account collateral netDebt change next) (targetCr inattention : α) (period : Nat) :
    (⟨next, roster.activate account targetCr inattention period⟩ : Market α).Tracked size where
  division := tracked.division.activate account targetCr inattention period
  size_eq := (roster.size_activate account targetCr inattention period).trans tracked.size_eq
  holders some id held := by
    have sizes : roster.size = size := tracked.size_eq
    by_cases idle : roster.idle.Has account
    · rw [Roster.isActive_activate tracked.division idle]
      exact ((opening.has id).mp held).imp_right (tracked.holders some id)
    · have active : roster.IsActive account := by
        by_contra inactive
        exact idle ((tracked.division.idle account).mpr ⟨sizes ▸ known some, inactive⟩)
      rw [Roster.activate_of_not_idle idle]
      rcases (opening.has id).mp held with rfl | before
      · exact active
      · exact tracked.holders some id before

theorem Arrives.opened {account : AccountId} {collateral netDebt : α} {change : TroveChange α}
    (known : ∀ {size : Nat}, (⟨ledger, roster⟩ : Market α).Tracked size → account < size ∧ ¬ roster.IsActive account)
    (opening : Opening ledger account collateral netDebt change next) (targetCr inattention : α) (period : Nat) :
    Arrives ⟨ledger, roster⟩ [account] ⟨next, roster.activate account targetCr inattention period⟩ where
  tracked tracked := tracked.opened (fun _ => (known tracked).1) opening targetCr inattention period
  joins tracked _ := by
    obtain ⟨within, inactive⟩ := known tracked
    rw [← tracked.size_eq] at within
    exact tracked.division.joins within inactive targetCr inattention period

/-! ### Liquidations -/

/-- What was liquidated is booked in the order of the liquidations. -/
theorem foldl_bookLiquidation_eq (context : Context α) (liquidations : List (Liquidation α)) (market : Market α)
    (outcome : LiquidationOutcome α) :
    liquidations.foldl (bookLiquidation context) (market, outcome) =
      ({ market with
         roster := liquidations.foldl
          (fun roster liquidation => roster.deactivate liquidation.account context.period) market.roster },
        { outcome with
          collateralLiquidated := liquidations.foldl
            (fun sum liquidation => sum + liquidation.collateralToPool) outcome.collateralLiquidated
          debtOffset := liquidations.foldl (fun sum liquidation => sum + liquidation.debtOffset) outcome.debtOffset
          liquidated := outcome.liquidated ++ liquidations.map (·.account) }) := by
  induction liquidations generalizing market outcome with
  | nil => simp
  | cons liquidation rest ih =>
    rw [List.foldl_cons, bookLiquidation, ih]
    simp only [List.foldl_cons, List.map_cons, List.append_assoc, List.singleton_append]

theorem Departs.liquidations (roster : Roster α) {liquidator : AccountId}
    {liquidations : List (Liquidation α)} (chain : Liquidations liquidator ledger liquidations next) (period : Nat) :
    Departs ⟨ledger, roster⟩ (liquidations.map (·.account))
      ⟨next, liquidations.foldl (fun roster liquidation => roster.deactivate liquidation.account period) roster⟩ := by
  induction chain generalizing roster with
  | none ledger => exact Departs.refl _
  | next first _ ih => exact (Departs.closed (liquidates_held first) (liquidates_has first) period).trans (ih _)

/-- Batch after batch takes what one batch takes, and books it in the same order. -/
theorem liquidateBatches_eq (context : Context α) (batches : Nat) (market : Market α)
    (outcome : LiquidationOutcome α) :
    ∃ count tally, liquidateBatches context batches (market, outcome) =
      (market.ledger.liquidateUpTo whale count).1.foldl (bookLiquidation context)
        ({ market with ledger := (market.ledger.liquidateUpTo whale count).2 }, { outcome with tally }) := by
  induction batches generalizing market outcome with
  | zero => exact ⟨0, outcome.tally, rfl⟩
  | succ batches ih =>
    unfold liquidateBatches
    split
    · exact ⟨0, outcome.tally, rfl⟩
    · split
      · exact ⟨0, outcome.tally.reject, rfl⟩
      · rename_i liquidations left accepted
        obtain ⟨_, batch⟩ := liquidateTroves_ok accepted
        obtain ⟨count, tally, later⟩ := ih
          { ledger := left
            roster := liquidations.foldl
              (fun roster liquidation => roster.deactivate liquidation.account context.period) market.roster }
          (liquidations.foldl (bookLiquidation context)
            ({ market with ledger := left }, { outcome with tally := outcome.tally.accept })).2
        refine ⟨context.parameters.terms.maxLiquidationsPerCall + count, tally, ?_⟩
        rw [liquidateUpTo_add, batch, List.foldl_append]
        simp only [foldl_bookLiquidation_eq context liquidations] at later ⊢
        exact later

theorem liquidateBatches_departs (context : Context α) (batches : Nat) (market : Market α)
    (outcome : LiquidationOutcome α) :
    ∃ gone, (liquidateBatches context batches (market, outcome)).2.liquidated = outcome.liquidated ++ gone ∧
      Departs market gone (liquidateBatches context batches (market, outcome)).1 := by
  obtain ⟨count, tally, batched⟩ := liquidateBatches_eq context batches market outcome
  have chain := liquidateUpTo_chain whale count market.ledger
  rw [batched, foldl_bookLiquidation_eq]
  exact ⟨_, rfl, Departs.liquidations market.roster chain context.period⟩

theorem liquidate_departs (context : Context α) (market : Market α) (state : MarketState α) :
    Departs market (liquidate context market state).2.liquidated (liquidate context market state).1 := by
  have rewarded (ledger : Ledger α) (roster : Roster α) : Departs ⟨ledger, roster⟩ []
      ⟨(ledger.issueRewards context.parameters.stability.airdropQuantity).2, roster⟩ :=
    .fewer fun id held => by rwa [issueRewards_troves] at held
  unfold liquidate
  dsimp only
  split
  · exact rewarded market.ledger market.roster
  · obtain ⟨gone, listed, departs⟩ := liquidateBatches_departs context
      market.ledger.troves.size market ⟨[], 0, 0, 0, 0, 0, {}⟩
    rw [listed]
    have both := departs.trans (rewarded _ _)
    rwa [List.append_nil] at both

theorem liquidate_nobody (context : Context α) (nobody : market.roster.active = []) (state : MarketState α) :
    (liquidate context market state).2.liquidated = [] := by
  unfold liquidate
  rw [nobody]
  rfl

/-! ### Closures -/

theorem topUp_troves {account : AccountId} {need : α} (accepted : ledger.topUp account need = .ok next) :
    next.troves = ledger.troves := by
  unfold Ledger.topUp at accepted
  dsimp only at accepted
  split at accepted
  · exact transfer_troves accepted
  · cases accepted
    rfl

theorem closeTurn_departs (context : Context α) (account : AccountId) (market : Market α)
    (outcome : ClosureOutcome) :
    ∃ gone, (closeTurn context account market outcome).2.2.closed = outcome.closed ++ gone ∧
      (∀ id ∈ gone, id = account) ∧ Departs market gone (closeTurn context account market outcome).2.1 := by
  have nobody : ∀ id ∈ ([] : List AccountId), id = account := fun _ member => absurd member List.not_mem_nil
  unfold closeTurn
  split
  · exact ⟨[], (List.append_nil _).symm, nobody, Departs.refl _⟩
  · rename_i trove found
    dsimp only
    split
    · exact ⟨[], (List.append_nil _).symm, nobody, Departs.refl _⟩
    · rename_i funded topped
      have same := topUp_troves topped
      have kept : Departs market [] ⟨funded, market.roster⟩ := .fewer fun id held => same ▸ held
      split
      · exact ⟨[], (List.append_nil _).symm, nobody, kept⟩
      · rename_i accepted
        obtain ⟨trove, closing⟩ := closeTrove_ok accepted
        have held : funded.troves.Has account := (Book.has_iff _ _).mpr ⟨trove, closing.found⟩
        exact ⟨[account], rfl, fun id member => List.mem_singleton.mp member,
          kept.trans (.closed held closing.has context.period)⟩

theorem closeTurns_departs (context : Context α) (accounts : List AccountId) (market : Market α)
    (outcome : ClosureOutcome) :
    ∃ gone, (closeTurns context accounts (market, outcome)).2.closed = outcome.closed ++ gone ∧
      (∀ id ∈ gone, id ∈ accounts) ∧ Departs market gone (closeTurns context accounts (market, outcome)).1 := by
  induction accounts generalizing market outcome with
  | nil =>
    exact ⟨[], (List.append_nil _).symm, fun _ member => absurd member List.not_mem_nil, Departs.refl _⟩
  | cons account rest ih =>
    obtain ⟨gone, listed, own, turned⟩ := closeTurn_departs context account market outcome
    have member : ∀ id ∈ gone, id ∈ account :: rest := fun id there => own id there ▸ List.mem_cons_self
    unfold closeTurns
    generalize closeTurn context account market outcome = done at listed turned ⊢
    obtain ⟨looks, market, outcome⟩ := done
    dsimp only at listed turned ⊢
    split
    · exact ⟨gone, listed, member, turned⟩
    · obtain ⟨others, all, among, departs⟩ := ih market outcome
      refine ⟨gone ++ others, ?_, ?_, turned.trans departs⟩
      · rw [all, listed, List.append_assoc]
      · intro id there
        rcases List.mem_append.mp there with first | second
        · exact member id first
        · exact List.mem_cons_of_mem _ (among id second)

theorem mem_choose {β : Type} {items : List β} {amount : Nat} {streams : Streams} {purpose : Purpose} {period : Nat}
    {item : β} (chosen : item ∈ choose items amount streams purpose period) : item ∈ items := by
  unfold choose at chosen
  dsimp only at chosen
  split at chosen
  · cases chosen
  · obtain ⟨place, _, found⟩ := List.mem_filterMap.mp chosen
    rw [List.getElem?_toArray] at found
    exact List.mem_of_getElem? found

/-- Only borrowers close their troves, and never the whale. -/
theorem close_departs (context : Context α) (market : Market α) :
    (∀ id ∈ (close context market).2.closed, id ∈ market.roster.activeBorrowers) ∧
      Departs market (close context market).2.closed (close context market).1 := by
  unfold close
  split
  · exact ⟨fun _ member => absurd member List.not_mem_nil, Departs.refl _⟩
  · dsimp only
    generalize closeCount context.parameters.borrowing _ _ _ _ = target
    obtain ⟨gone, listed, among, departs⟩ := closeTurns_departs context
      (choose (market.roster.activeBorrowers.filter (market.isTriggered context)) target context.streams
        .closeSelection context.period) market { target }
    rw [List.nil_append] at listed
    rw [listed]
    exact ⟨fun id member => (List.mem_filter.mp (mem_choose (among id member))).1, departs⟩

/-! ### Adjustments -/

theorem adjustTrove_has {account : AccountId} {collateralDelta debtDelta : α} {change : TroveChange α}
    (accepted : ledger.adjustTrove account collateralDelta debtDelta = .ok (change, next)) (id : AccountId) :
    next.troves.Has id ↔ ledger.troves.Has id := by
  obtain ⟨trove, adjustment⟩ := adjustTrove_ok accepted
  exact adjustment.has id

theorem apply_has (rebalance : Rebalance α) (ledger : Ledger α) (account : AccountId) (outcome : Issuance α)
    (id : AccountId) : (rebalance.apply ledger account outcome).1.troves.Has id ↔ ledger.troves.Has id := by
  cases rebalance with
  | addCollateral amount =>
    unfold Rebalance.apply
    dsimp only
    split
    · exact Iff.rfl
    · exact adjustTrove_has (by assumption) id
  | repay amount =>
    unfold Rebalance.apply
    dsimp only
    split
    · exact Iff.rfl
    · rename_i funded topped
      have same := topUp_troves topped
      split
      · rw [same]
      · rw [adjustTrove_has (by assumption) id, same]
  | withdrawCollateral amount =>
    unfold Rebalance.apply
    dsimp only
    split
    · exact Iff.rfl
    · exact adjustTrove_has (by assumption) id
  | draw amount =>
    unfold Rebalance.apply
    dsimp only
    split
    · exact Iff.rfl
    · exact adjustTrove_has (by assumption) id

theorem adjustTurn_has (context : Context α) (state : Market α × Issuance α) (account : AccountId) :
    (adjustTurn context state account).1.roster = state.1.roster ∧
      ∀ id, (adjustTurn context state account).1.ledger.troves.Has id ↔ state.1.ledger.troves.Has id := by
  unfold adjustTurn
  dsimp only
  split
  · split
    · exact ⟨rfl, apply_has _ _ _ _⟩
    · exact ⟨rfl, fun _ => Iff.rfl⟩
  · exact ⟨rfl, fun _ => Iff.rfl⟩

theorem adjust_has (context : Context α) (market : Market α) :
    (adjust context market).1.roster = market.roster ∧
      ∀ id, (adjust context market).1.ledger.troves.Has id ↔ market.ledger.troves.Has id := by
  unfold adjust
  refine List.foldlRecOn market.roster.activeBorrowers (adjustTurn context)
    (motive := fun state => state.1.roster = market.roster ∧
      ∀ id, state.1.ledger.troves.Has id ↔ market.ledger.troves.Has id) ?_ ?_
  · exact ⟨rfl, fun _ => Iff.rfl⟩
  · intro state kept account _
    obtain ⟨roster, has⟩ := adjustTurn_has context state account
    exact ⟨roster.trans kept.1, fun id => (has id).trans (kept.2 id)⟩

theorem adjust_departs (context : Context α) (market : Market α) :
    Departs market [] (adjust context market).1 := by
  obtain ⟨roster, has⟩ := adjust_has context market
  generalize (adjust context market).1 = done at roster has ⊢
  obtain ⟨left, _⟩ := done
  obtain rfl : _ = market.roster := roster
  exact .fewer fun id held => (has id).mp held

/-! ### Openings -/

omit [Number α] in
theorem Tracked.idle (tracked : market.Tracked size) {account : AccountId}
    (idle : account ∈ market.roster.idleBorrowers) : account < size ∧ ¬ market.roster.IsActive account := by
  have noted : market.roster.idle.Has account := (List.mem_filter.mp idle).1
  have known := (tracked.division.idle account).mp noted
  rwa [tracked.size_eq] at known

omit [Number α] in
/-- Without accounts nobody is active and nobody is idle. -/
theorem Tracked.nobody (tracked : market.Tracked 0) : market.roster.active = [] ∧ market.roster.idleBorrowers = [] := by
  constructor
  · refine List.eq_nil_iff_forall_not_mem.mpr fun id member => ?_
    have known := Roster.isActive_lt ((tracked.division.mem_active id).mp member)
    rw [tracked.size_eq] at known
    exact Nat.not_lt_zero id known
  · exact List.eq_nil_iff_forall_not_mem.mpr fun id member => Nat.not_lt_zero id (tracked.idle member).1

omit [Number α] in
/-- A roster without accounts passes its check. -/
theorem Tracked.isPartitioned (tracked : market.Tracked 0) : market.roster.isPartitioned = true := by
  refine tracked.division.isPartitioned fun id borrower found => ?_
  have known : id < market.roster.size := (Array.getElem?_eq_some_iff.mp found).1
  rw [tracked.size_eq] at known
  exact absurd known (Nat.not_lt_zero id)

/-- What the openings so far have led to: the accounts that opened hold troves, so none of
    them opens another. -/
structure Opens (market : Market α) (state : Market α × Issuance α) : Prop where
  arrives : Arrives market state.2.accounts state.1
  hold : ∀ id ∈ state.2.accounts, state.1.ledger.troves.Has id
  idle : ∀ id ∈ state.2.accounts, id ∈ market.roster.idleBorrowers

theorem Opens.openTurn {state : Market α × Issuance α} (opens : Opens market state) {account : AccountId}
    (idle : account ∈ market.roster.idleBorrowers) : Opens market (openTurn context state account) := by
  unfold Stablecoin.openTurn
  dsimp only
  split
  · exact ⟨opens.arrives, opens.hold, opens.idle⟩
  · rename_i change next accepted
    have opening := openTrove_ok accepted
    have fresh : account ∉ state.2.accounts := fun member => opening.fresh (opens.hold account member)
    refine ⟨⟨?_, ?_⟩, ?_, ?_⟩
    · intro size tracked
      exact (opens.arrives.tracked tracked).opened (fun _ => (tracked.idle idle).1) opening _ _ _
    · intro size tracked some
      have joined := opens.arrives.joins tracked some
      have inactive : ¬ state.1.roster.IsActive account := by
        rw [joined.isActive, not_or]
        exact ⟨(tracked.idle idle).2, fresh⟩
      have now := opens.arrives.tracked tracked
      have within : account < state.1.roster.size := by
        rw [now.size_eq]
        exact (tracked.idle idle).1
      exact joined.trans (now.division.joins within inactive _ _ _)
    · intro id member
      rw [opening.has]
      rcases List.mem_append.mp member with before | last
      · exact .inr (opens.hold id before)
      · exact .inl (List.mem_singleton.mp last)
    · intro id member
      rcases List.mem_append.mp member with before | last
      · exact opens.idle id before
      · rwa [List.mem_singleton.mp last]

theorem openTroves_opens (context : Context α) (market : Market α) :
    Opens market (openTroves context market) := by
  unfold openTroves
  dsimp only
  generalize openCount context.parameters.borrowing _ _ _ _ _ = count
  refine List.foldlRecOn (choose market.roster.idleBorrowers count context.streams .openSelection context.period)
    (openTurn context) (motive := Opens market) ?_ ?_
  · exact ⟨.fewer fun _ held => held, fun _ member => absurd member List.not_mem_nil,
      fun _ member => absurd member List.not_mem_nil⟩
  · intro state opens account chosen
    exact opens.openTurn (mem_choose chosen)

/-! ### Deposits -/

theorem claimTurn_troves (state : Ledger α × DepositOutcome α) (account : AccountId) :
    (claimTurn state account).1.troves = state.1.troves := by
  unfold claimTurn
  dsimp only
  split
  · rfl
  · exact claim_troves (by assumption)

theorem provideTurn_troves (state : Ledger α × DepositOutcome α × α) (account : AccountId) :
    (provideTurn state account).1.troves = state.1.troves := by
  unfold provideTurn
  dsimp only
  split
  · rfl
  · split
    · rfl
    · split
      · rfl
      · exact provide_troves (by assumption)

theorem withdrawTurn_troves (surplus current : α) (state : Ledger α × DepositOutcome α) (account : AccountId) :
    (withdrawTurn surplus current state account).1.troves = state.1.troves := by
  unfold withdrawTurn
  dsimp only
  split
  · rfl
  · split
    · rfl
    · exact withdraw_troves (by assumption)

omit [Number α] in
/-- Turns that each leave the troves as they are leave them so together. -/
theorem foldl_troves {σ : Type} {turn : Ledger α × σ → AccountId → Ledger α × σ}
    (same : ∀ state account, (turn state account).1.troves = state.1.troves) (accounts : List AccountId)
    (ledger : Ledger α) (start : σ) : (accounts.foldl turn (ledger, start)).1.troves = ledger.troves :=
  List.foldlRecOn accounts turn (motive := fun last => last.1.troves = ledger.troves) rfl
    fun last kept account _ => (same last account).trans kept

theorem updateDeposits_troves (context : Context α) (market : Market α) (poolReturn : α) :
    (updateDeposits context market poolReturn).1.troves = market.ledger.troves := by
  have claimed := foldl_troves claimTurn_troves market.ledger.depositors market.ledger ⟨0, 0, 0, 0, 0, 0, {}⟩
  unfold updateDeposits
  dsimp only
  split
  · exact (foldl_troves provideTurn_troves _ _ _).trans claimed
  · split
    · exact (foldl_troves (withdrawTurn_troves _ _) _ _ _).trans claimed
    · exact claimed

/-! ### The peg -/

theorem openArbitrageTrove_arrives (context : Context α) {market : Market α} {account : AccountId}
    (idle : account ∈ market.roster.idleBorrowers) (shortfall : α) :
    (∀ id ∈ (openArbitrageTrove context market account shortfall).2.2.accounts, id = account) ∧
      Arrives market (openArbitrageTrove context market account shortfall).2.2.accounts
        (openArbitrageTrove context market account shortfall).2.1 := by
  unfold openArbitrageTrove
  dsimp only
  split
  · exact ⟨fun _ member => absurd member List.not_mem_nil, .fewer fun _ held => held⟩
  · rename_i accepted
    exact ⟨fun id member => List.mem_singleton.mp member,
      .opened (fun tracked => tracked.idle idle) (openTrove_ok accepted) _ _ _⟩

/-- The whale that draws on its own trove opens none. -/
theorem whaleDraw_arrives (context : Context α) (market : Market α) (shortfall : α) :
    (whaleDraw context market shortfall).2.2.accounts = [] ∧
      Arrives market [] (whaleDraw context market shortfall).2.1 := by
  unfold whaleDraw
  dsimp only
  split
  · exact ⟨rfl, .fewer fun _ held => held⟩
  · rename_i accepted
    exact ⟨rfl, .fewer fun id held => (adjustTrove_has accepted id).mp held⟩

/-- The account that opens a trove for arbitrage was idle. Nothing is redeemed yet. -/
theorem defendCeiling_arrives (context : Context α) (market : Market α) (pool : α) (outcome : PegOutcome α)
    (none : outcome.issuance.accounts = []) :
    (∀ id ∈ (defendCeiling context market pool outcome).2.issuance.accounts, id ∈ market.roster.idleBorrowers) ∧
      Arrives market (defendCeiling context market pool outcome).2.issuance.accounts
        (defendCeiling context market pool outcome).1 ∧
      (defendCeiling context market pool outcome).2.redeemedOut = outcome.redeemedOut := by
  unfold defendCeiling
  dsimp only
  split
  · split
    · rename_i account rest listed
      have idle : account ∈ market.roster.idleBorrowers := listed ▸ List.mem_cons_self
      obtain ⟨own, arrives⟩ := openArbitrageTrove_arrives context idle _
      exact ⟨fun id member => own id member ▸ idle, arrives, rfl⟩
    · obtain ⟨nobody, arrives⟩ := whaleDraw_arrives context market _
      dsimp only
      rw [nobody]
      exact ⟨fun _ member => absurd member List.not_mem_nil, arrives, rfl⟩
  · rw [none]
    exact ⟨fun _ member => absurd member List.not_mem_nil, .fewer fun _ held => held, rfl⟩

/-- The roster follows a walk by deactivating what the walk has closed so far. -/
theorem Departs.walked {redeemer : AccountId} {amount : α} {walk : Walk α}
    (walked : Walked ledger redeemer amount walk) (period : Nat) :
    Departs ⟨ledger, roster⟩ walk.taken.closed
      ⟨walk.ledger, walk.taken.closed.foldl (fun roster account => roster.deactivate account period) roster⟩ := by
  refine walked.keeps (motive := fun walk => Departs ⟨ledger, roster⟩ walk.taken.closed
    ⟨walk.ledger, walk.taken.closed.foldl (fun roster account => roster.deactivate account period) roster⟩)
    (Departs.refl _) ?_
  intro walk next followed step
  rcases Walk.step_has step with ⟨account, closed, held, has⟩ | ⟨same, has⟩
  · rw [closed, List.foldl_append]
    exact followed.trans (.closed held has period)
  · rw [same]
    have both := followed.trans (.fewer fun id held => (has id).mp held)
    rwa [List.append_nil] at both

/-- A walk only takes holders of troves away. -/
theorem walked_has {redeemer : AccountId} {amount : α} {walk : Walk α}
    (walked : Walked ledger redeemer amount walk) (id : AccountId) (held : walk.ledger.troves.Has id) :
    ledger.troves.Has id := by
  refine walked.keeps (motive := fun walk => walk.ledger.troves.Has id → ledger.troves.Has id) (fun held => held) ?_ held
  intro walk next before step held
  rcases Walk.step_has step with ⟨account, _, _, has⟩ | ⟨_, has⟩
  · exact before ((has id).mp held).2
  · exact before ((has id).mp held)

theorem redeems_refused_has {redeemer : AccountId} {amount : α} {refusal : Refusal α}
    (redeems : Redeems ledger redeemer amount (.error refusal) next) (id : AccountId) (held : next.troves.Has id) :
    ledger.troves.Has id := by
  cases redeems with
  | refused => exact held
  | nothing walked => exact walked_has walked id held
  | short walked => exact walked_has walked id held

/-- An accepted redemption closes what its walk has closed. -/
theorem Departs.redeemed {redeemer : AccountId} {amount : α} {redemption : Redemption α}
    (redeems : Redeems ledger redeemer amount (.ok redemption) next) (period : Nat) :
    Departs ⟨ledger, roster⟩ redemption.closed
      ⟨next, redemption.closed.foldl (fun roster account => roster.deactivate account period) roster⟩ := by
  cases redeems with
  | @accepted walk left baseRate fee walked something debited baseRate_eq fee_eq =>
    obtain ⟨_, rfl⟩ := debit_ok debited
    have paid (roster : Roster α) : Departs ⟨walk.ledger, roster⟩ [] ⟨{ walk.ledger with
        balances := walk.ledger.balances.insert redeemer
          (Number.max (walk.ledger.balance redeemer - walk.taken.redeemed) 0)
        supply := walk.ledger.supply - walk.taken.redeemed
        baseRate
        redemptionFees := walk.ledger.redemptionFees + fee }, roster⟩ := .fewer fun _ held => held
    have followed : Departs ⟨ledger, roster⟩ walk.taken.closed ⟨walk.ledger, _⟩ := .walked walked period
    have both := followed.trans (paid _)
    rwa [List.append_nil] at both

theorem defendFloor_departs (context : Context α) (market : Market α) (pool supply : α)
    (outcome : PegOutcome α)
    (none : outcome.redeemedOut = []) :
    Departs market (defendFloor context market pool supply outcome).2.redeemedOut
        (defendFloor context market pool supply outcome).1 ∧
      (defendFloor context market pool supply outcome).2.issuance = outcome.issuance := by
  unfold defendFloor
  dsimp only
  split
  · split
    · split
      · rename_i refusal left refused
        dsimp only
        rw [none]
        exact ⟨.fewer (redeems_refused_has (redeems_of_redeem refused)), rfl⟩
      · rename_i redemption left accepted
        exact ⟨.redeemed (redeems_of_redeem accepted) context.period, rfl⟩
    · rw [none]
      exact ⟨Departs.refl _, rfl⟩
  · rw [none]
    exact ⟨Departs.refl _, rfl⟩

/-- Above the ceiling an account joins, and below the floor accounts leave afterwards. -/
theorem stabilizePrice_turnover (context : Context α) (market : Market α) (previousDemand : α) :
    (∀ id ∈ (stabilizePrice context market previousDemand).2.issuance.accounts, id ∈ market.roster.idleBorrowers) ∧
      ∃ mid, Arrives market (stabilizePrice context market previousDemand).2.issuance.accounts mid ∧
        Departs mid (stabilizePrice context market previousDemand).2.redeemedOut
          (stabilizePrice context market previousDemand).1 := by
  unfold stabilizePrice
  dsimp only
  generalize market.ledger.supply = supply
  generalize market.ledger.totalDeposits = pool
  generalize clearingPrice _ _ context.parameters.liquidity.elasticity = price
  generalize _ * (1 + _ : α) = demand
  obtain ⟨idle, arrives, kept⟩ := defendCeiling_arrives context market pool
    ⟨price, demand, 0, 0, [], {}, Issuance.none⟩ rfl
  generalize defendCeiling context market pool _ = ceiling at idle arrives kept ⊢
  obtain ⟨mid, outcome⟩ := ceiling
  obtain ⟨departs, same⟩ := defendFloor_departs context mid pool supply outcome kept
  dsimp only at idle arrives ⊢
  rw [same]
  exact ⟨idle, mid, arrives, departs⟩

end Market
end Stablecoin
