import Stablecoin.Proofs.Market.Turnover

/-!
The roster and the ledger tell the same. In a market that is `Sound` an account is
active exactly if it holds a trove, and every step of a period leaves the market sound.
The two are changed by separate calls: where an opening, a closing, a liquidation or a
redemption changes the holders, the roster follows, and every other call leaves the
holders as they are. That a refused redemption has closed nothing is part of it.

A roster without accounts has no one to activate, so of such a market nothing more is
said than that it stays divided.
-/
namespace Stablecoin
open Ledger Stablecoin.Random
open Number (tolerance)

/-- A market whose ledger and roster are each in order, over so many accounts, and which
    knows the whale and every holder of a trove as active, if it has any accounts. -/
structure Market.Sound (size : Nat) (market : Market ℝ) : Prop where
  wellFormed : market.ledger.WellFormed
  division : market.roster.Division
  size_eq : market.roster.size = size
  agree : 0 < size → ∀ id, market.roster.IsActive id ↔ market.ledger.troves.Has id

namespace Market
variable {size : Nat} {market : Market ℝ} {ledger left : Ledger ℝ} {roster : Roster ℝ} {context : Context ℝ}

theorem Sound.steady (sound : (⟨ledger, roster⟩ : Market ℝ).Sound size) (steady : Steady ledger left) :
    (⟨left, roster⟩ : Market ℝ).Sound size :=
  { sound with
    wellFormed := steady.wellFormed sound.wellFormed
    agree := fun some id => (sound.agree some id).trans (steady.has id).symm }

/-- An account that opens a trove is activated. It is idle, for it held no trove before. -/
theorem Sound.opened (sound : (⟨ledger, roster⟩ : Market ℝ).Sound size) {account : AccountId}
    {collateral netDebt : ℝ} {change : TroveChange ℝ} (known : 0 < size → account < size)
    (accepted : ledger.openTrove account collateral netDebt = .ok (change, left)) (targetCr inattention : ℝ)
    (period : Nat) : (⟨left, roster.activate account targetCr inattention period⟩ : Market ℝ).Sound size := by
  have opening := openTrove_ok accepted
  refine
    { wellFormed := opening.wellFormed sound.wellFormed
      division := sound.division.activate account targetCr inattention period
      size_eq := (roster.size_activate account targetCr inattention period).trans sound.size_eq
      agree := fun some id => ?_ }
  have inactive : ¬ roster.IsActive account := fun active => opening.fresh ((sound.agree some account).mp active)
  have inRoster : account < roster.size := by
    have sizes : roster.size = size := sound.size_eq
    rw [sizes]
    exact known some
  have idle : roster.idle.Has account := (sound.division.idle account).mpr ⟨inRoster, inactive⟩
  rw [Roster.isActive_activate sound.division idle, opening.has]
  exact or_congr Iff.rfl (sound.agree some id)

/-- An account whose trove is gone is deactivated. -/
theorem Sound.closed (sound : (⟨ledger, roster⟩ : Market ℝ).Sound size) {account : AccountId}
    (wellFormed : left.WellFormed) (has : ∀ id, left.troves.Has id ↔ id ≠ account ∧ ledger.troves.Has id)
    (period : Nat) : (⟨left, roster.deactivate account period⟩ : Market ℝ).Sound size where
  wellFormed := wellFormed
  division := sound.division.deactivate account period
  size_eq := (roster.size_deactivate account period).trans sound.size_eq
  agree some id := by
    rw [Roster.isActive_deactivate sound.division, has]
    exact and_congr Iff.rfl (sound.agree some id)

theorem Sound.liquidations (sound : (⟨ledger, roster⟩ : Market ℝ).Sound size) {liquidator : AccountId}
    {liquidations : List (Liquidation ℝ)} (chain : Liquidations liquidator ledger liquidations left) (period : Nat) :
    (⟨left, liquidations.foldl (fun roster liquidation => roster.deactivate liquidation.account period) roster⟩ :
      Market ℝ).Sound size := by
  induction chain generalizing roster with
  | none ledger => exact sound
  | next first _ ih => exact ih (sound.closed (sound.wellFormed.liquidates first) (liquidates_has first) period)

theorem liquidateBatches_sound (batches : Nat) (sound : market.Sound size) (outcome : LiquidationOutcome ℝ) :
    (liquidateBatches context batches (market, outcome)).1.Sound size := by
  obtain ⟨count, tally, batched⟩ := liquidateBatches_eq context batches market outcome
  have chain := liquidateUpTo_chain whale count market.ledger
  rw [batched, foldl_bookLiquidation_eq]
  exact sound.liquidations chain context.period

theorem liquidate_sound (context : Context ℝ) (sound : market.Sound size) (state : MarketState ℝ) :
    (liquidate context market state).1.Sound size := by
  unfold liquidate
  dsimp only
  split
  · exact sound.steady (issueRewards_steady _ _)
  · exact (liquidateBatches_sound _ sound _).steady (issueRewards_steady _ _)

theorem topUp_steady {account : AccountId} {need : ℝ} (accepted : ledger.topUp account need = .ok left) :
    Steady ledger left := by
  unfold Ledger.topUp at accepted
  dsimp only at accepted
  split at accepted
  · exact transfer_steady accepted
  · cases accepted
    exact Steady.refl _

theorem closeTurn_sound (context : Context ℝ) (account : AccountId) (sound : market.Sound size)
    (outcome : ClosureOutcome) : (closeTurn context account market outcome).2.1.Sound size := by
  unfold closeTurn
  split
  · exact sound
  · dsimp only
    split
    · exact sound
    · rename_i funded topped
      have steady := topUp_steady topped
      split
      · exact sound.steady steady
      · rename_i accepted
        obtain ⟨trove, closing⟩ := closeTrove_ok accepted
        have kept := sound.steady steady
        exact kept.closed (closing.wellFormed kept.wellFormed) closing.has context.period

theorem closeTurns_sound (context : Context ℝ) (accounts : List AccountId) (sound : market.Sound size)
    (outcome : ClosureOutcome) : (closeTurns context accounts (market, outcome)).1.Sound size := by
  induction accounts generalizing market outcome with
  | nil => exact sound
  | cons account rest ih =>
    have turned := closeTurn_sound context account sound outcome
    unfold closeTurns
    dsimp only
    split
    · exact turned
    · exact ih turned _

theorem close_sound (context : Context ℝ) (sound : market.Sound size) : (close context market).1.Sound size := by
  unfold close
  split
  · exact sound
  · exact closeTurns_sound context _ sound _

theorem apply_steady (rebalance : Rebalance ℝ) (ledger : Ledger ℝ) (account : AccountId) (outcome : Issuance ℝ) :
    Steady ledger (rebalance.apply ledger account outcome).1 := by
  cases rebalance with
  | addCollateral amount =>
    unfold Rebalance.apply
    dsimp only
    split
    · exact Steady.refl _
    · exact adjustTrove_steady (by assumption)
  | repay amount =>
    unfold Rebalance.apply
    dsimp only
    split
    · exact Steady.refl _
    · rename_i funded topped
      split
      · exact topUp_steady topped
      · exact (topUp_steady topped).trans (adjustTrove_steady (by assumption))
  | withdrawCollateral amount =>
    unfold Rebalance.apply
    dsimp only
    split
    · exact Steady.refl _
    · exact adjustTrove_steady (by assumption)
  | draw amount =>
    unfold Rebalance.apply
    dsimp only
    split
    · exact Steady.refl _
    · exact adjustTrove_steady (by assumption)

theorem adjustTurn_sound (context : Context ℝ) (account : AccountId) (sound : market.Sound size)
    (outcome : Issuance ℝ) : (adjustTurn context (market, outcome) account).1.Sound size := by
  unfold adjustTurn
  dsimp only
  split
  · split
    · exact sound.steady (apply_steady _ _ _ _)
    · exact sound
  · exact sound

theorem adjust_sound (context : Context ℝ) (sound : market.Sound size) : (adjust context market).1.Sound size :=
  List.foldlRecOn _ (adjustTurn context) (motive := fun state => state.1.Sound size) sound
    fun state kept account _ => adjustTurn_sound context account kept state.2

theorem Sound.idle_lt (sound : market.Sound size) {account : AccountId}
    (idle : account ∈ market.roster.idleBorrowers) : account < size := by
  have noted : market.roster.idle.Has account := (List.mem_filter.mp idle).1
  have known := ((sound.division.idle account).mp noted).1
  rwa [sound.size_eq] at known

theorem openTurn_sound (context : Context ℝ) {account : AccountId} (known : account < size)
    (sound : market.Sound size) (outcome : Issuance ℝ) :
    (openTurn context (market, outcome) account).1.Sound size := by
  unfold openTurn
  dsimp only
  split
  · exact sound
  · rename_i accepted
    exact sound.opened (fun _ => known) accepted _ _ _

theorem openTroves_sound (context : Context ℝ) (sound : market.Sound size) :
    (openTroves context market).1.Sound size :=
  List.foldlRecOn _ (openTurn context) (motive := fun state => state.1.Sound size) sound
    fun state kept _ chosen => openTurn_sound context (sound.idle_lt (mem_choose chosen)) kept state.2

theorem claimTurn_steady (state : Ledger ℝ × DepositOutcome ℝ) (account : AccountId) :
    Steady state.1 (claimTurn state account).1 := by
  unfold claimTurn
  dsimp only
  split
  · exact Steady.refl _
  · exact claim_steady (by assumption)

theorem provideTurn_steady (state : Ledger ℝ × DepositOutcome ℝ × ℝ) (account : AccountId) :
    Steady state.1 (provideTurn state account).1 := by
  unfold provideTurn
  dsimp only
  split
  · exact Steady.refl _
  · split
    · exact Steady.refl _
    · split
      · exact Steady.refl _
      · exact provide_steady (by assumption)

theorem withdrawTurn_steady (surplus current : ℝ) (state : Ledger ℝ × DepositOutcome ℝ) (account : AccountId) :
    Steady state.1 (withdrawTurn surplus current state account).1 := by
  unfold withdrawTurn
  dsimp only
  split
  · exact Steady.refl _
  · split
    · exact Steady.refl _
    · exact withdraw_steady (by assumption)

/-- Turns that each leave the holders as they are leave them so together. -/
theorem foldl_steady {σ : Type} {turn : Ledger ℝ × σ → AccountId → Ledger ℝ × σ}
    (steady : ∀ state account, Steady state.1 (turn state account).1) (accounts : List AccountId)
    (ledger : Ledger ℝ) (start : σ) : Steady ledger (accounts.foldl turn (ledger, start)).1 :=
  List.foldlRecOn accounts turn (motive := fun last => Steady ledger last.1) (Steady.refl _)
    fun last kept account _ => kept.trans (steady last account)

theorem updateDeposits_steady (context : Context ℝ) (market : Market ℝ) (poolReturn : ℝ) :
    Steady market.ledger (updateDeposits context market poolReturn).1 := by
  have claimed := foldl_steady claimTurn_steady market.ledger.depositors market.ledger ⟨0, 0, 0, 0, 0, 0, {}⟩
  unfold updateDeposits
  dsimp only
  split
  · exact claimed.trans (foldl_steady provideTurn_steady _ _ _)
  · split
    · exact claimed.trans (foldl_steady (withdrawTurn_steady _ _) _ _ _)
    · exact claimed

theorem openArbitrageTrove_sound (context : Context ℝ) (sound : market.Sound size) {account : AccountId}
    (known : account < size) (shortfall : ℝ) :
    (openArbitrageTrove context market account shortfall).2.1.Sound size := by
  unfold openArbitrageTrove
  dsimp only
  split
  · exact sound
  · rename_i accepted
    exact sound.opened (fun _ => known) accepted _ _ _

theorem whaleDraw_sound (context : Context ℝ) (sound : market.Sound size) (shortfall : ℝ) :
    (whaleDraw context market shortfall).2.1.Sound size := by
  unfold whaleDraw
  dsimp only
  split
  · exact sound
  · exact sound.steady (adjustTrove_steady (by assumption))

theorem defendCeiling_sound (context : Context ℝ) (sound : market.Sound size) (pool : ℝ) (outcome : PegOutcome ℝ) :
    (defendCeiling context market pool outcome).1.Sound size := by
  unfold defendCeiling
  dsimp only
  split
  · cases idle : market.roster.idleBorrowers with
    | nil => exact whaleDraw_sound context sound _
    | cons account rest =>
      have first : account ∈ market.roster.idleBorrowers := by
        rw [idle]
        exact List.mem_cons_self
      exact openArbitrageTrove_sound context sound (sound.idle_lt first) _
  · exact sound

/-- The roster follows a walk by deactivating what the walk has closed so far. -/
theorem Sound.walked (sound : (⟨ledger, roster⟩ : Market ℝ).Sound size) {redeemer : AccountId} {amount : ℝ}
    {walk : Walk ℝ} (walked : Walked ledger redeemer amount walk) (period : Nat) :
    (⟨walk.ledger, walk.taken.closed.foldl (fun roster account => roster.deactivate account period) roster⟩ :
      Market ℝ).Sound size := by
  refine walked.keeps (motive := fun walk => (⟨walk.ledger, walk.taken.closed.foldl
    (fun roster account => roster.deactivate account period) roster⟩ : Market ℝ).Sound size) sound ?_
  intro walk next followed step
  rcases Walk.step_has step with ⟨account, closed, _, has⟩ | ⟨same, has⟩
  · rw [closed, List.foldl_append]
    exact followed.closed (Walk.step_wellFormed step followed.wellFormed) has period
  · rw [same]
    exact followed.steady ⟨fun wellFormed => Walk.step_wellFormed step wellFormed, has⟩

theorem defendFloor_sound (context : Context ℝ) (sound : market.Sound size) (pool supply : ℝ)
    (outcome : PegOutcome ℝ) : (defendFloor context market pool supply outcome).1.Sound size := by
  unfold defendFloor
  dsimp only
  split
  · split
    · split
      · rename_i refusal left refused
        rw [redeems_refused sound.wellFormed (redeems_of_redeem refused)]
        exact sound
      · rename_i redemption left accepted
        have redeems := redeems_of_redeem accepted
        have wellFormed := sound.wellFormed.redeems redeems
        cases redeems with
        | accepted walked something debited baseRate_eq fee_eq =>
          have closed := sound.walked walked context.period
          obtain ⟨_, rfl⟩ := debit_ok debited
          exact closed.steady ⟨fun _ => wellFormed, fun _ => Iff.rfl⟩
    · exact sound
  · exact sound

theorem stabilizePrice_sound (context : Context ℝ) (sound : market.Sound size) (previousDemand : ℝ) :
    (stabilizePrice context market previousDemand).1.Sound size := by
  unfold stabilizePrice
  exact defendFloor_sound context (defendCeiling_sound context sound _ _) _ _ _

/-- In a sound market the active accounts are as many as the troves. -/
theorem Sound.active_length (sound : market.Sound size) (some : 0 < size) :
    market.roster.active.length = market.ledger.troves.size := by
  have same : market.roster.active.Perm market.ledger.troves.accounts := by
    rw [List.perm_ext_iff_of_nodup sound.division.nodup market.ledger.troves.nodup_accounts]
    intro id
    rw [sound.division.mem_active]
    exact sound.agree some id
  rw [same.length_eq]
  exact List.length_map _

end Market
end Stablecoin
