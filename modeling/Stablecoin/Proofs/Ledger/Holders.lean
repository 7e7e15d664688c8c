import Stablecoin.Proofs.Ledger.Atomicity

namespace Stablecoin.Ledger
open Number (tolerance)

section AnyNumbers
variable {α : Type} [Number α] {ledger left : Ledger α}

theorem Opening.has {account : AccountId} {collateral netDebt : α} {change : TroveChange α}
    (opening : Opening ledger account collateral netDebt change left) (id : AccountId) :
    left.troves.Has id ↔ id = account ∨ ledger.troves.Has id := by
  rw [opening.left_eq]
  exact Book.has_insert _ _ _ _

theorem Closing.has {account : AccountId} {trove : Trove α} {change : TroveChange α}
    (closing : Closing ledger account trove change left) (id : AccountId) :
    left.troves.Has id ↔ id ≠ account ∧ ledger.troves.Has id := by
  rw [closing.left_eq]
  exact Book.has_erase _ _ _

theorem Adjustment.has {account : AccountId} {collateralDelta debtDelta : α} {trove : Trove α} {change : TroveChange α}
    (adjustment : Adjustment ledger account collateralDelta debtDelta trove change left) (id : AccountId) :
    left.troves.Has id ↔ ledger.troves.Has id := by
  rw [adjustment.left_eq]
  exact Book.has_insert_found adjustment.found _ _

theorem redistribute_has (ledger : Ledger α) (debt collateral : α) (id : AccountId) :
    (ledger.redistribute debt collateral).troves.Has id ↔ ledger.troves.Has id := by
  unfold redistribute
  dsimp only
  split
  · exact Iff.rfl
  · exact Book.has_map _ _ _

theorem liquidates_has {liquidator : AccountId} {liquidation : Liquidation α}
    (liquidates : Liquidates liquidator ledger liquidation left) (id : AccountId) :
    left.troves.Has id ↔ id ≠ liquidation.account ∧ ledger.troves.Has id := by
  cases liquidates with
  | capped =>
    simp only [settleCapped, offset_troves]
    exact Book.has_erase _ _ _
  | inFull =>
    simp only [settleInFull, redistribute_has, offset_troves]
    exact Book.has_erase _ _ _

theorem liquidates_held {liquidator : AccountId} {liquidation : Liquidation α}
    (liquidates : Liquidates liquidator ledger liquidation left) : ledger.troves.Has liquidation.account := by
  cases liquidates with
  | capped several worst found => exact (Book.has_iff _ _).mpr ⟨_, found⟩
  | inFull several worst found => exact (Book.has_iff _ _).mpr ⟨_, found⟩

theorem liquidations_has {liquidator : AccountId} {liquidations : List (Liquidation α)}
    (chain : Liquidations liquidator ledger liquidations left) (id : AccountId) :
    left.troves.Has id ↔ id ∉ liquidations.map (·.account) ∧ ledger.troves.Has id := by
  induction chain with
  | none ledger => simp
  | next first later ih =>
    rw [ih, liquidates_has first, List.map_cons, List.mem_cons, not_or, and_left_comm, and_assoc]

theorem liquidations_held {liquidator : AccountId} {liquidations : List (Liquidation α)}
    (chain : Liquidations liquidator ledger liquidations left) :
    ∀ id ∈ liquidations.map (·.account), ledger.troves.Has id := by
  induction chain with
  | none ledger => simp
  | next first later ih =>
    rw [List.map_cons, List.forall_mem_cons]
    exact ⟨liquidates_held first, fun id member => ((liquidates_has first id).mp (ih id member)).2⟩

/-- The liquidated accounts are those that hold a trove no longer. -/
theorem mem_liquidations_iff {liquidator : AccountId} {liquidations : List (Liquidation α)}
    (chain : Liquidations liquidator ledger liquidations left) (id : AccountId) :
    id ∈ liquidations.map (·.account) ↔ ledger.troves.Has id ∧ ¬ left.troves.Has id := by
  have held := liquidations_held chain id
  rw [liquidations_has chain]
  tauto

/-- A trove that is closed on the walk is listed as closed, and one that is not stays. -/
theorem Walk.step_has {walk next : Walk α} (step : Walk.Step walk next) :
    (∃ account, next.taken.closed = walk.taken.closed ++ [account] ∧ walk.ledger.troves.Has account ∧
        ∀ id, next.ledger.troves.Has id ↔ id ≠ account ∧ walk.ledger.troves.Has id) ∨
      next.taken.closed = walk.taken.closed ∧ ∀ id, next.ledger.troves.Has id ↔ walk.ledger.troves.Has id := by
  cases step with
  | @take account trove wanted found eligible noDust =>
    by_cases closes : walk.kept trove ≤ tolerance
    · refine .inl ⟨account, ?_, (Book.has_iff _ _).mpr ⟨trove, found⟩, fun id => ?_⟩
      · simp only [Walk.take, if_pos closes]
      · simp only [Walk.take, if_pos closes]
        exact Book.has_erase _ _ _
    · refine .inr ⟨?_, fun id => ?_⟩
      · simp only [Walk.take, if_neg closes]
      · simp only [Walk.take, if_neg closes]
        exact Book.has_insert_found found _ _

end AnyNumbers

variable {ledger mid left : Ledger ℝ}

/-- The same accounts hold troves, and a well-formed ledger stays well-formed. -/
structure Steady (ledger left : Ledger ℝ) : Prop where
  wellFormed : ledger.WellFormed → left.WellFormed
  has : ∀ id, left.troves.Has id ↔ ledger.troves.Has id

theorem Steady.refl (ledger : Ledger ℝ) : Steady ledger ledger := ⟨id, fun _ => Iff.rfl⟩

theorem Steady.trans (first : Steady ledger mid) (second : Steady mid left) : Steady ledger left :=
  ⟨second.wellFormed ∘ first.wellFormed, fun id => (second.has id).trans (first.has id)⟩

theorem setPrice_steady (ledger : Ledger ℝ) (price : ℝ) : Steady ledger (ledger.setPrice price) :=
  ⟨fun wellFormed => wellFormed.setPrice price, fun _ => Iff.rfl⟩

theorem advancePeriod_steady (ledger : Ledger ℝ) : Steady ledger ledger.advancePeriod :=
  ⟨WellFormed.advancePeriod, fun _ => Iff.rfl⟩

theorem Steady.of_troves (wellFormed : ledger.WellFormed → left.WellFormed) (same : left.troves = ledger.troves) :
    Steady ledger left :=
  ⟨wellFormed, fun _ => by rw [same]⟩

theorem transfer_steady {sender receiver : AccountId} {amount : ℝ}
    (accepted : ledger.transfer sender receiver amount = .ok left) : Steady ledger left :=
  .of_troves (fun wellFormed => wellFormed.transfer accepted) (transfer_troves accepted)

theorem adjustTrove_steady {account : AccountId} {collateralDelta debtDelta : ℝ} {change : TroveChange ℝ}
    (accepted : ledger.adjustTrove account collateralDelta debtDelta = .ok (change, left)) : Steady ledger left := by
  obtain ⟨trove, adjustment⟩ := adjustTrove_ok accepted
  exact ⟨adjustment.wellFormed, adjustment.has⟩

theorem provide_steady {account : AccountId} {amount : ℝ} (accepted : ledger.provide account amount = .ok left) :
    Steady ledger left :=
  .of_troves (fun wellFormed => wellFormed.provide accepted) (provide_troves accepted)

theorem withdraw_steady {account : AccountId} {amount withdrawn : ℝ}
    (accepted : ledger.withdraw account amount = .ok (withdrawn, left)) : Steady ledger left :=
  .of_troves (withdraw_ok accepted).wellFormed (withdraw_troves accepted)

theorem claim_steady {account : AccountId} {gains : Gains ℝ} (accepted : ledger.claim account = .ok (gains, left)) :
    Steady ledger left := by
  refine .of_troves (fun wellFormed => ?_) (claim_troves accepted)
  obtain ⟨_, paidOut⟩ := claim_ok accepted
  obtain rfl : left = (ledger.payOutGains account).2 := congrArg Prod.snd paidOut
  exact wellFormed.payOutGains account

theorem issueRewards_steady (ledger : Ledger ℝ) (amount : ℝ) : Steady ledger (ledger.issueRewards amount).2 :=
  .of_troves (fun wellFormed => wellFormed.issueRewards amount) (issueRewards_troves ledger amount)

end Stablecoin.Ledger
