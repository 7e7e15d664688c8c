import Stablecoin.Proofs.Ledger.Runs
import Stablecoin.Proofs.Ledger.Totals

namespace Stablecoin.Ledger
variable {α : Type} [Number α] {ledger left : Ledger α} {account : AccountId} {liquidator : AccountId}
  {liquidation : Liquidation α} {liquidations : List (Liquidation α)}

theorem redistribute_size (ledger : Ledger α) (debt collateral : α) :
    (ledger.redistribute debt collateral).troves.size = ledger.troves.size := by
  unfold redistribute
  dsimp only
  split
  · rfl
  · exact Book.size_map _ _

theorem offset_price (ledger : Ledger α) (debt collateral : α) :
    (ledger.offset debt collateral).price = ledger.price := by
  obtain ⟨_, _, _, _, cancelled⟩ := ledger.offset_eq debt collateral
  rw [cancelled]

theorem redistribute_price (ledger : Ledger α) (debt collateral : α) :
    (ledger.redistribute debt collateral).price = ledger.price := by
  obtain ⟨_, spread⟩ := ledger.redistribute_eq debt collateral
  rw [spread]

theorem offset_terms (ledger : Ledger α) (debt collateral : α) :
    (ledger.offset debt collateral).terms = ledger.terms := by
  obtain ⟨_, _, _, _, cancelled⟩ := ledger.offset_eq debt collateral
  rw [cancelled]

theorem redistribute_terms (ledger : Ledger α) (debt collateral : α) :
    (ledger.redistribute debt collateral).terms = ledger.terms := by
  obtain ⟨_, spread⟩ := ledger.redistribute_eq debt collateral
  rw [spread]

theorem Liquidates.several (liquidates : Liquidates liquidator ledger liquidation left) : 1 < ledger.troves.size := by
  cases liquidates with
  | capped several => exact several
  | inFull several => exact several

theorem liquidates_size (liquidates : Liquidates liquidator ledger liquidation left) :
    left.troves.size + 1 = ledger.troves.size := by
  have erased {account : AccountId} {trove : Trove α} (found : ledger.troves.get? account = some trove) :
      (ledger.troves.erase account).size + 1 = ledger.troves.size := by
    have size := Book.size_erase_found found
    rw [eq_sub_iff_add_eq] at size
    exact_mod_cast size
  cases liquidates with
  | capped several worst found =>
    simp only [settleCapped, offset_troves]
    exact erased found
  | inFull several worst found =>
    simp only [settleInFull, redistribute_size, offset_troves]
    exact erased found

theorem liquidates_price (liquidates : Liquidates liquidator ledger liquidation left) : left.price = ledger.price := by
  cases liquidates with
  | capped => exact offset_price _ _ _
  | inFull => exact (redistribute_price _ _ _).trans (offset_price _ _ _)

theorem liquidates_terms (liquidates : Liquidates liquidator ledger liquidation left) : left.terms = ledger.terms := by
  cases liquidates with
  | capped => exact offset_terms _ _ _
  | inFull => exact (redistribute_terms _ _ _).trans (offset_terms _ _ _)

theorem liquidations_size (chain : Liquidations liquidator ledger liquidations left) :
    left.troves.size + liquidations.length = ledger.troves.size := by
  induction chain with
  | none ledger => rfl
  | next first later ih =>
    have one := liquidates_size first
    rw [List.length_cons]
    omega

/-- A batch does not take the last trove. -/
theorem Liquidations.length_lt (chain : Liquidations liquidator ledger liquidations left)
    (some : 0 < ledger.troves.size) : liquidations.length < ledger.troves.size := by
  induction chain with
  | none ledger => exact some
  | next first later ih =>
    have several := first.several
    have size := liquidates_size first
    have rest := ih (by omega)
    rw [List.length_cons]
    omega

theorem liquidations_price (chain : Liquidations liquidator ledger liquidations left) : left.price = ledger.price := by
  induction chain with
  | none ledger => rfl
  | next first later ih => exact ih.trans (liquidates_price first)

theorem liquidations_terms (chain : Liquidations liquidator ledger liquidations left) : left.terms = ledger.terms := by
  induction chain with
  | none ledger => rfl
  | next first later ih => exact ih.trans (liquidates_terms first)

theorem liquidateUpTo_length_le (ledger : Ledger α) (liquidator : AccountId) (count : Nat) :
    (ledger.liquidateUpTo liquidator count).1.length ≤ count := by
  induction count generalizing ledger with
  | zero => exact le_rfl
  | succ count ih =>
    unfold liquidateUpTo
    split
    · exact Nat.zero_le _
    · rename_i liquidation left next
      exact Nat.succ_le_succ (ih left)

theorem not_pending_of_few (few : ledger.troves.size ≤ 1) : ¬ ledger.HasPendingLiquidations := by
  simp [HasPendingLiquidations, nextLiquidation?, guard, not_lt.mpr few]

/-- What is found can be liquidated. -/
theorem liquidateOne?_of_next (liquidator : AccountId) (next : ledger.nextLiquidation? = some account) :
    ∃ done, ledger.liquidateOne? account liquidator = some done := by
  obtain ⟨_, _, trove, _, found, _⟩ := nextLiquidation?_some next
  simp only [liquidateOne?, found, bind, Option.bind_some, pure]
  split <;> exact ⟨_, rfl⟩

theorem not_pending_iff (liquidator : AccountId) :
    ¬ ledger.HasPendingLiquidations ↔ ledger.nextLiquidation?.bind (ledger.liquidateOne? · liquidator) = none := by
  rw [HasPendingLiquidations]
  cases next : ledger.nextLiquidation? with
  | none => simp
  | some account =>
    obtain ⟨done, taken⟩ := liquidateOne?_of_next liquidator next
    simp [taken]

theorem liquidateUpTo_of_not_pending (liquidator : AccountId) (finished : ¬ ledger.HasPendingLiquidations)
    (count : Nat) : ledger.liquidateUpTo liquidator count = ([], ledger) := by
  cases count with
  | zero => rfl
  | succ count =>
    unfold liquidateUpTo
    rw [(not_pending_iff liquidator).mp finished]

/-- A batch that may take as many troves as there are stops only where none is found. -/
theorem liquidateUpTo_finished (liquidator : AccountId) {count : Nat} (enough : ledger.troves.size ≤ count) :
    ¬ (ledger.liquidateUpTo liquidator count).2.HasPendingLiquidations := by
  induction count generalizing ledger with
  | zero => exact not_pending_of_few (enough.trans zero_le_one)
  | succ count ih =>
    unfold liquidateUpTo
    cases next : ledger.nextLiquidation?.bind (ledger.liquidateOne? · liquidator) with
    | none => exact (not_pending_iff liquidator).mpr next
    | some done =>
      have size := liquidates_size (liquidates_of_next next)
      exact ih (by omega)

theorem liquidateUpTo_nil {count : Nat} (nothing : (ledger.liquidateUpTo liquidator count).1 = []) :
    (ledger.liquidateUpTo liquidator count).2 = ledger := by
  have chain := liquidateUpTo_chain liquidator count ledger
  rw [nothing] at chain
  generalize (ledger.liquidateUpTo liquidator count).2 = last at chain ⊢
  cases chain
  rfl

theorem liquidateUpTo_of_next
    (next : ledger.nextLiquidation?.bind (ledger.liquidateOne? · liquidator) = some (liquidation, left)) (count : Nat) :
    ledger.liquidateUpTo liquidator (count + 1) =
      (liquidation :: (left.liquidateUpTo liquidator count).1, (left.liquidateUpTo liquidator count).2) := by
  simp only [liquidateUpTo, next]

/-- A liquidation of a batch is made on the ledger that those before it left. -/
theorem liquidates_at {count place : Nat}
    (listed : (ledger.liquidateUpTo liquidator count).1[place]? = some liquidation) :
    Liquidates liquidator (ledger.liquidateUpTo liquidator place).2 liquidation
      (ledger.liquidateUpTo liquidator (place + 1)).2 := by
  induction count generalizing ledger place with
  | zero => simp [liquidateUpTo] at listed
  | succ count ih =>
    cases next : ledger.nextLiquidation?.bind (ledger.liquidateOne? · liquidator) with
    | none => simp [liquidateUpTo, next] at listed
    | some done =>
      rw [liquidateUpTo_of_next next] at listed
      rw [liquidateUpTo_of_next next]
      cases place with
      | zero =>
        obtain rfl := Option.some.inj listed
        exact liquidates_of_next next
      | succ place =>
        rw [liquidateUpTo_of_next next]
        exact ih listed

/-- Two batches take what one batch of both sizes takes. -/
theorem liquidateUpTo_add (ledger : Ledger α) (liquidator : AccountId) (count more : Nat) :
    ledger.liquidateUpTo liquidator (count + more) =
      ((ledger.liquidateUpTo liquidator count).1 ++
          ((ledger.liquidateUpTo liquidator count).2.liquidateUpTo liquidator more).1,
        ((ledger.liquidateUpTo liquidator count).2.liquidateUpTo liquidator more).2) := by
  induction count generalizing ledger with
  | zero =>
    rw [Nat.zero_add]
    rfl
  | succ count ih =>
    rw [Nat.succ_add]
    cases next : ledger.nextLiquidation?.bind (ledger.liquidateOne? · liquidator) with
    | none =>
      have finished := (not_pending_iff liquidator).mpr next
      simp only [liquidateUpTo_of_not_pending liquidator finished, List.append_nil]
    | some done =>
      obtain ⟨liquidation, left⟩ := done
      simp only [liquidateUpTo, next, ih left, List.cons_append]

/-- No batch takes more than one of as many troves as there are. -/
theorem liquidateUpTo_of_enough (liquidator : AccountId) {count : Nat} (enough : ledger.troves.size ≤ count) :
    ledger.liquidateUpTo liquidator count = ledger.liquidateUpTo liquidator ledger.troves.size := by
  obtain ⟨more, rfl⟩ := Nat.exists_eq_add_of_le enough
  have finished := liquidateUpTo_finished liquidator (le_refl ledger.troves.size)
  rw [liquidateUpTo_add, liquidateUpTo_of_not_pending liquidator finished, List.append_nil]

/-- A batch after which none would be found has taken all that a larger one takes. -/
theorem liquidateUpTo_of_finished {count : Nat}
    (finished : ¬ (ledger.liquidateUpTo liquidator count).2.HasPendingLiquidations) :
    ledger.liquidateUpTo liquidator count = ledger.liquidateUpTo liquidator ledger.troves.size := by
  have further := ledger.liquidateUpTo_add liquidator count ledger.troves.size
  rw [liquidateUpTo_of_not_pending liquidator finished, List.append_nil] at further
  exact further.symm.trans (liquidateUpTo_of_enough liquidator (Nat.le_add_left _ _))

/-- What an answer lists as liquidated. -/
def listed : Except (Refusal α) (Answer α) → List (Liquidation α)
  | .ok (.liquidated liquidations) => liquidations
  | _ => []

/-- A call to liquidate leaves what its batch leaves, also where it is refused. -/
theorem perform_liquidateTroves (ledger : Ledger α) (liquidator : AccountId) (count : Nat) :
    (ledger.perform (.liquidateTroves liquidator count)).2 = (ledger.liquidateUpTo liquidator count).2 := by
  simp only [perform, liquidateTroves]
  split
  · rename_i left batch
    have same := liquidateUpTo_nil (congrArg Prod.fst batch)
    rw [same]
    rfl
  · rename_i liquidations left _ batch
    rw [batch]
    rfl

theorem listed_liquidateTroves (ledger : Ledger α) (liquidator : AccountId) (count : Nat) :
    listed (ledger.perform (.liquidateTroves liquidator count)).1 = (ledger.liquidateUpTo liquidator count).1 := by
  simp only [perform, liquidateTroves]
  split
  · rename_i left batch
    rw [batch]
    rfl
  · rename_i liquidations left _ batch
    rw [batch]
    rfl

/-- A call finds something to liquidate where a trove waits and it may take one. -/
theorem liquidateTroves_of_pending (liquidator : AccountId) {count : Nat} (some : count ≠ 0)
    (pending : ledger.HasPendingLiquidations) :
    ∃ done, ledger.liquidateTroves liquidator count = .ok done := by
  obtain ⟨count, rfl⟩ := Nat.exists_eq_succ_of_ne_zero some
  have found := mt (not_pending_iff liquidator).mpr (not_not.mpr pending)
  obtain ⟨⟨liquidation, mid⟩, next⟩ := Option.ne_none_iff_exists'.mp found
  simp only [liquidateTroves, liquidateUpTo, next]
  exact ⟨_, rfl⟩

/-- A call that may take a trove is accepted, and not for nothing, exactly where one waits. -/
theorem accepted_iff_pending (ledger : Ledger α) (liquidator : AccountId) {count : Nat} (some : count ≠ 0) :
    (∃ liquidations, liquidations ≠ [] ∧
        (ledger.perform (.liquidateTroves liquidator count)).1 = .ok (.liquidated liquidations)) ↔
      ledger.HasPendingLiquidations := by
  constructor
  · rintro ⟨liquidations, something, accepted⟩
    by_contra finished
    have taken := ledger.listed_liquidateTroves liquidator count
    rw [accepted, liquidateUpTo_of_not_pending liquidator finished] at taken
    exact something taken
  · intro pending
    obtain ⟨⟨liquidations, left⟩, accepted⟩ := liquidateTroves_of_pending liquidator some pending
    refine ⟨liquidations, (liquidateTroves_ok accepted).1, ?_⟩
    simp only [perform, settle, accepted]

/-- Two calls leave and list what one call for both numbers leaves and lists. -/
theorem liquidateTroves_twice (ledger : Ledger α) (liquidator : AccountId) (count more : Nat) :
    ledger.after [.liquidateTroves liquidator count, .liquidateTroves liquidator more] =
        ledger.after [.liquidateTroves liquidator (count + more)] ∧
      (ledger.answers [.liquidateTroves liquidator count, .liquidateTroves liquidator more]).flatMap listed =
        (ledger.answers [.liquidateTroves liquidator (count + more)]).flatMap listed := by
  simp only [after, answers, List.foldl_cons, List.foldl_nil, List.flatMap_cons, List.flatMap_nil, List.append_nil,
    perform_liquidateTroves, listed_liquidateTroves, liquidateUpTo_add ledger liquidator count more, and_self]

end Stablecoin.Ledger
