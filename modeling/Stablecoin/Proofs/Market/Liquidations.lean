import Stablecoin.Proofs.Ledger.LiquidationOrder
import Stablecoin.Proofs.Market.Turnover

/-!
The liquidations of a period as a whole. The step liquidates batch after batch while
troves wait for it, and nothing in its loop bounds the batches (`Settles`). But each of
them takes a trove, and so the loop ends after at most as many as there are
(`liquidateBatches_settles`): with one trove, or with none below the minimum ratio, as
far as ratios can be compared (`liquidate_clears`).

It takes the troves that one call for all of them would take, however many a call may
take, and so the greatest number for a call shows in the tally alone
(`batches_unseen`).
-/
namespace Stablecoin
open Ledger
variable {α : Type} [Number α]

/-- What a period has liquidated at its beginning. -/
def LiquidationOutcome.start : LiquidationOutcome α := ⟨[], 0, 0, 0, 0, 0, {}⟩

/-- The same knowledge of a period, under another greatest number of liquidations in a call. -/
def Context.batchedBy (context : Context α) (count : Nat) : Context α :=
  { context with parameters.terms.maxLiquidationsPerCall := count }

namespace Market
variable {context : Context α}

/-- The loop goes from one state to another: it ends where no trove waits, or with a batch
    that is refused. -/
inductive Settles (context : Context α) :
    Market α × LiquidationOutcome α → Market α × LiquidationOutcome α → Prop
  | finished {market : Market α} {outcome : LiquidationOutcome α}
      (finished : ¬ market.ledger.HasPendingLiquidations) : Settles context (market, outcome) (market, outcome)
  | refused {market : Market α} {outcome : LiquidationOutcome α} {refusal : Refusal α}
      (pending : market.ledger.HasPendingLiquidations)
      (refused : market.ledger.liquidateTroves whale context.parameters.terms.maxLiquidationsPerCall =
        .error refusal) :
      Settles context (market, outcome) (market, { outcome with tally := outcome.tally.reject })
  | batch {market : Market α} {outcome : LiquidationOutcome α} {liquidations : List (Liquidation α)}
      {left : Ledger α} {last : Market α × LiquidationOutcome α}
      (pending : market.ledger.HasPendingLiquidations)
      (accepted : market.ledger.liquidateTroves whale context.parameters.terms.maxLiquidationsPerCall =
        .ok (liquidations, left))
      (later : Settles context
        (liquidations.foldl (bookLiquidation context)
          ({ market with ledger := left }, { outcome with tally := outcome.tally.accept })) last) :
      Settles context (market, outcome) last

/-- Where a call may take a trove the loop ends with none that waits. -/
theorem Settles.not_pending (some : context.parameters.terms.maxLiquidationsPerCall ≠ 0)
    {state last : Market α × LiquidationOutcome α} (settles : Settles context state last) :
    ¬ last.1.ledger.HasPendingLiquidations := by
  induction settles with
  | finished finished => exact finished
  | refused pending refused =>
    obtain ⟨done, accepted⟩ := liquidateTroves_of_pending whale some pending
    cases accepted.symm.trans refused
  | batch _ _ _ ih => exact ih

/-- As many batches as there are troves are enough for the loop to end. -/
theorem liquidateBatches_settles (some : context.parameters.terms.maxLiquidationsPerCall ≠ 0) {batches : Nat}
    {market : Market α} (outcome : LiquidationOutcome α) (enough : market.ledger.troves.size ≤ batches) :
    Settles context (market, outcome) (liquidateBatches context batches (market, outcome)) := by
  induction batches generalizing market outcome with
  | zero => exact .finished (not_pending_of_few (enough.trans zero_le_one))
  | succ batches ih =>
    unfold liquidateBatches
    split
    · rename_i finished
      exact .finished finished
    · rename_i waits
      have pending := not_not.mp waits
      obtain ⟨⟨liquidations, left⟩, accepted⟩ := liquidateTroves_of_pending whale some pending
      obtain ⟨something, batch⟩ := liquidateTroves_ok accepted
      have size := liquidations_size (liquidations_of_batch batch)
      have length := List.length_pos_iff.mpr something
      simp only [accepted]
      refine .batch pending accepted ?_
      rw [foldl_bookLiquidation_eq]
      exact ih _ (by dsimp only; omega)

/-- The loop takes what one call for all troves would take. -/
theorem liquidateBatches_all (some : context.parameters.terms.maxLiquidationsPerCall ≠ 0) (market : Market α)
    (outcome : LiquidationOutcome α) :
    ∃ tally, liquidateBatches context market.ledger.troves.size (market, outcome) =
      (market.ledger.liquidateUpTo whale market.ledger.troves.size).1.foldl (bookLiquidation context)
        ({ market with ledger := (market.ledger.liquidateUpTo whale market.ledger.troves.size).2 },
          { outcome with tally }) := by
  have finished := (liquidateBatches_settles some outcome (le_refl market.ledger.troves.size)).not_pending some
  obtain ⟨count, tally, batched⟩ := liquidateBatches_eq context market.ledger.troves.size market outcome
  rw [batched, foldl_bookLiquidation_eq] at finished
  rw [← liquidateUpTo_of_finished finished]
  exact ⟨tally, batched⟩

/-- How many troves a call may take shows in the tally of the step alone. -/
theorem liquidate_batchedBy {count other : Nat} (some : count ≠ 0) (someOther : other ≠ 0) (context : Context α)
    (market : Market α) (state : MarketState α) :
    ∃ tally, liquidate (context.batchedBy other) market state =
      ((liquidate (context.batchedBy count) market state).1,
        { (liquidate (context.batchedBy count) market state).2 with tally }) := by
  obtain ⟨tally, one⟩ := @liquidateBatches_all α _ (context.batchedBy count) some market .start
  obtain ⟨others, two⟩ := @liquidateBatches_all α _ (context.batchedBy other) someOther market .start
  unfold liquidate
  dsimp only
  split
  · exact ⟨_, rfl⟩
  · rw [LiquidationOutcome.start] at one two
    rw [one, two, foldl_bookLiquidation_eq, foldl_bookLiquidation_eq]
    exact ⟨others, rfl⟩

/-- Two calls to liquidate leave and list what one call for both numbers does, and a call
    is accepted exactly where a trove waits. So the step of a period does the same whatever
    the greatest number for a call is, and only its tally differs. -/
theorem batches_unseen {count other : Nat} (some : 1 ≤ count) (someOther : 1 ≤ other) (ledger : Ledger α)
    (liquidator : AccountId) :
    ledger.after [.liquidateTroves liquidator count, .liquidateTroves liquidator other] =
        ledger.after [.liquidateTroves liquidator (count + other)] ∧
      (ledger.answers [.liquidateTroves liquidator count, .liquidateTroves liquidator other]).flatMap listed =
        (ledger.answers [.liquidateTroves liquidator (count + other)]).flatMap listed ∧
      ((∃ liquidations, liquidations ≠ [] ∧
          (ledger.perform (.liquidateTroves liquidator count)).1 = .ok (.liquidated liquidations)) ↔
        ledger.HasPendingLiquidations) ∧
      ∀ (context : Context α) (roster : Roster α) (state : MarketState α), ∃ tally,
        liquidate (context.batchedBy other) ⟨ledger, roster⟩ state =
          ((liquidate (context.batchedBy count) ⟨ledger, roster⟩ state).1,
            { (liquidate (context.batchedBy count) ⟨ledger, roster⟩ state).2 with tally }) := by
  have positive := Nat.one_le_iff_ne_zero.mp some
  obtain ⟨left, list⟩ := ledger.liquidateTroves_twice liquidator count other
  exact ⟨left, list, ledger.accepted_iff_pending liquidator positive, fun context roster state =>
    liquidate_batchedBy positive (Nat.one_le_iff_ne_zero.mp someOther) context ⟨ledger, roster⟩ state⟩

theorem pair_pending : pair.HasPendingLiquidations := by
  by_contra finished
  cases pair_next.symm.trans ((not_pending_iff 9).mp finished)

theorem pair_batches_unseen :
    pair.after [.liquidateTroves 9 1, .liquidateTroves 9 2] = pair.after [.liquidateTroves 9 3] ∧
      ∃ liquidations, liquidations ≠ [] ∧ (pair.perform (.liquidateTroves 9 1)).1 = .ok (.liquidated liquidations) := by
  obtain ⟨same, _, accepted, _⟩ := batches_unseen (le_refl 1) one_le_two pair 9
  exact ⟨same, accepted.mpr pair_pending⟩

/-- What the liquidations of a period did and left. -/
structure Cleared (context : Context α) (market : Market α) (liquidations : List (Liquidation α)) (left : Market α)
    (outcome : LiquidationOutcome α) : Prop where
  /-- The loop ends, and on what it leaves nothing is done but issue the rewards. -/
  ends : ∃ last, Settles context (market, .start) last ∧ Liquidations whale market.ledger liquidations last.1.ledger ∧
    left = ⟨(last.1.ledger.issueRewards context.parameters.stability.airdropQuantity).2, last.1.roster⟩
  length_le : liquidations.length ≤ market.ledger.troves.size - 1
  remains : 1 ≤ market.ledger.troves.size → 1 ≤ left.ledger.troves.size
  price_eq : left.ledger.price = market.ledger.price
  terms_eq : left.ledger.terms = market.ledger.terms
  /-- One trove is left, or none below the minimum ratio. -/
  secured : left.ledger.troves.size ≤ 1 ∨
    left.ledger.troves.Each fun trove => ¬ (trove.icr left.ledger.price).Below (.of left.ledger.terms.mcr)
  liquidated_eq : outcome.liquidated = liquidations.map (·.account)
  nodup : outcome.liquidated.Nodup
  mem_liquidated : ∀ id, id ∈ outcome.liquidated ↔ market.ledger.troves.Has id ∧ ¬ left.ledger.troves.Has id
  inactive : ∀ id ∈ outcome.liquidated, ¬ left.roster.IsActive id ∧ id ∉ left.roster.active
  collateral_eq : outcome.collateralLiquidated =
    liquidations.foldl (fun sum liquidation => sum + liquidation.collateralToPool) 0
  debt_eq : outcome.debtOffset = liquidations.foldl (fun sum liquidation => sum + liquidation.debtOffset) 0

/-- With somebody active the step of a period liquidates all that one call for all troves would take. -/
theorem liquidate_takes (some : context.parameters.terms.maxLiquidationsPerCall ≠ 0) {market : Market α}
    (active : market.roster.active ≠ []) (state : MarketState α) :
    ∃ liquidations last, Settles context (market, .start) last ∧
      Liquidations whale market.ledger liquidations last.1.ledger ∧
      (liquidate context market state).1 =
        ⟨(last.1.ledger.issueRewards context.parameters.stability.airdropQuantity).2, last.1.roster⟩ ∧
      (liquidate context market state).2.liquidated = liquidations.map (·.account) ∧
      (liquidate context market state).2.collateralLiquidated =
        liquidations.foldl (fun sum liquidation => sum + liquidation.collateralToPool) 0 ∧
      (liquidate context market state).2.debtOffset =
        liquidations.foldl (fun sum liquidation => sum + liquidation.debtOffset) 0 := by
  have awake : ¬ market.roster.active.isEmpty = true := by simpa using active
  have settles := liquidateBatches_settles some .start (le_refl market.ledger.troves.size)
  have chain := liquidateUpTo_chain whale market.ledger.troves.size market.ledger
  obtain ⟨tally, all⟩ := liquidateBatches_all some market .start
  refine ⟨(market.ledger.liquidateUpTo whale market.ledger.troves.size).1, _, settles, ?_, ?_⟩
  · rw [all, foldl_bookLiquidation_eq]
    exact chain
  · unfold liquidate
    rw [LiquidationOutcome.start, foldl_bookLiquidation_eq] at all
    simp only [if_neg awake, LiquidationOutcome.start, all, List.nil_append, and_self]

/-- The step ends, takes no more than all troves but one, and leaves one trove or none
    below the minimum ratio, if the ratios that it leaves can be compared. It lists the
    accounts that lost their troves, of which none is active any more, and counts what was
    taken of them. -/
theorem liquidate_clears [Number.Ordered α] (some : context.parameters.terms.maxLiquidationsPerCall ≠ 0)
    {market : Market α} (division : market.roster.Division) (active : market.roster.active ≠ [])
    (holders : ∀ id, market.ledger.troves.Has id → market.roster.IsActive id) (state : MarketState α)
    (defined : (liquidate context market state).1.ledger.troves.Each
      fun trove => (trove.icr (liquidate context market state).1.ledger.price).IsDefined) :
    ∃ liquidations, Cleared context market liquidations (liquidate context market state).1
      (liquidate context market state).2 := by
  have tracked : market.Tracked market.roster.size := ⟨division, rfl, fun _ => holders⟩
  have accounts : 0 < market.roster.size := by
    obtain ⟨id, rest, known⟩ := List.exists_cons_of_ne_nil active
    exact Nat.zero_lt_of_lt (Roster.isActive_lt ((division.mem_active id).mp (known ▸ List.mem_cons_self)))
  have departs := liquidate_departs context market state
  have leaves := departs.leaves tracked accounts
  have kept := (departs.tracked tracked).division
  obtain ⟨liquidations, last, settles, chain, left_eq, liquidated, collateral, debt⟩ :=
    liquidate_takes some active state
  obtain ⟨_, issued⟩ := last.1.ledger.issueRewards_eq context.parameters.stability.airdropQuantity
  generalize (liquidate context market state).1 = left at *
  generalize (liquidate context market state).2 = outcome at *
  have troves : left.ledger.troves = last.1.ledger.troves := by rw [left_eq, issued]
  have price : left.ledger.price = last.1.ledger.price := by rw [left_eq, issued]
  have terms : left.ledger.terms = last.1.ledger.terms := by rw [left_eq, issued]
  have size := liquidations_size chain
  have lost (positive : 0 < market.ledger.troves.size) := chain.length_lt positive
  refine ⟨liquidations, ⟨last, settles, chain, left_eq⟩, by omega, ?_, ?_, ?_, ?_, liquidated, leaves.nodup, ?_, ?_,
    collateral, debt⟩
  · intro positive
    have fewer := lost positive
    rw [troves]
    omega
  · rw [price, liquidations_price chain]
  · rw [terms, liquidations_terms chain]
  · rcases Nat.lt_or_ge 1 left.ledger.troves.size with several | few
    · rw [troves, price] at defined
      rw [troves] at several
      rw [troves, price, terms]
      exact .inr (not_below_of_finished defined several (settles.not_pending some))
    · exact .inl few
  · intro id
    rw [liquidated, troves]
    exact mem_liquidations_iff chain id
  · intro id member
    have gone : ¬ left.roster.IsActive id := fun stays => ((leaves.isActive id).mp stays).2 member
    exact ⟨gone, fun listed => gone ((kept.mem_active id).mp listed)⟩

end Market

namespace Ledger

/-! ### Two troves of which one goes -/

/-- The first period of a run with the default parameters, at the fallen price. -/
noncomputable def fallenPeriod : Context ℝ where
  parameters := Parameters.default
  streams := ⟨42⟩
  traits := ⟨⟨10.0, 5.0⟩, .gamma ⟨8.0, 2.0⟩, ⟨4.0, 0.08⟩, 1.1, 0.1, 1.1⟩
  period := 1
  collateralPrice := 270.0
  stablePrice := 1.0
  rewardPrice := 0.4
  naturalRate := 0.2

/-- A roster in which the holders of two troves are active, with the ratios that they aim at. -/
noncomputable def coupleAiming (first second : ℝ) : Roster ℝ :=
  ((Roster.ofSize 10).activate 7 first 0.1 1).activate 8 second 0.1 1

/-- Both of them aim at the same ratio. -/
noncomputable def couple : Roster ℝ := coupleAiming 1.5 1.5

theorem couple_division : couple.Division := ((Roster.ofSize_division 10).activate 7 1.5 0.1 1).activate 8 1.5 0.1 1

theorem coupleAiming_active (first second : ℝ) : (coupleAiming first second).active = [7, 8] := rfl

theorem couple_isActive (id : AccountId) : couple.IsActive id ↔ id = 7 ∨ id = 8 := by
  rw [← couple_division.mem_active, couple, coupleAiming_active]
  simp

theorem couple_active : couple.active ≠ [] := by simp [couple, coupleAiming_active]

theorem pair_holders (id : AccountId) (held : pair.troves.Has id) : couple.IsActive id := by
  rw [couple_isActive]
  simpa [pair] using held

/-- Of the two troves one is below the minimum ratio, and the step leaves the other. -/
theorem pair_clears : ∃ liquidations,
    Market.Cleared fallenPeriod ⟨pair, couple⟩ liquidations (liquidate fallenPeriod ⟨pair, couple⟩ .initial).1
        (liquidate fallenPeriod ⟨pair, couple⟩ .initial).2 ∧
      (liquidate fallenPeriod ⟨pair, couple⟩ .initial).1.ledger.troves.size = 1 := by
  have some : fallenPeriod.parameters.terms.maxLiquidationsPerCall ≠ 0 := by decide
  obtain ⟨liquidations, cleared⟩ := @Market.liquidate_clears ℝ _ fallenPeriod _ some ⟨pair, couple⟩ couple_division
    couple_active pair_holders .initial fun _ _ _ => Ratio.isDefined_real _
  refine ⟨liquidations, cleared, ?_⟩
  have remains := cleared.remains one_le_two
  obtain ⟨last, settles, chain, left_eq⟩ := cleared.ends
  have finished := settles.not_pending some
  have size : last.1.ledger.troves.size + liquidations.length = 2 := liquidations_size chain
  rw [left_eq, issueRewards_troves] at remains ⊢
  generalize last.1.ledger = settled at *
  cases chain with
  | none => exact absurd Market.pair_pending finished
  | next first later =>
    rw [List.length_cons] at size
    omega

end Ledger
end Stablecoin
