import Stablecoin.Proofs.Run.Quiet

namespace Stablecoin.Simulation
open Ledger
variable {sim : Simulation ℝ} {parameters : Parameters ℝ}

/-- After any calls an account is active exactly if it holds a trove, unless the number
    of accounts is a multiple of 2³² and a trove is open. With any other number of
    accounts each row of a further step or run counts the accounts that are active then. -/
theorem active_iff_holds (starts : Starts parameters sim) (conventional : parameters.terms.Conventional)
    (calls : List (Call ℝ)) :
    ((∀ id, (sim.after calls).market.roster.IsActive id ↔ (sim.after calls).market.ledger.troves.Has id) ↔
        parameters.accounts % UInt32.size ≠ 0 ∨ ∀ id, ¬ (sim.after calls).market.ledger.troves.Has id) ∧
      (parameters.accounts % UInt32.size ≠ 0 →
        (∀ takes row, ((sim.after calls).stepInto some (table takes)).1 = .ok (some row) →
          row.numTroves = ((sim.after calls).stepInto some (table takes)).2.market.roster.active.length) ∧
        ∀ takes (place : Nat) row, ((sim.after calls).runInto some (table takes)).1[place]? = some row →
          row.numTroves =
            ((sim.after calls).stepsInto some (table takes) (place + 1)).2.2.market.roster.active.length) := by
  have sound := after_sound calls (starts.sound conventional)
  constructor
  · by_cases accounts : parameters.accounts % UInt32.size = 0
    · have inactive (id : AccountId) : ¬ (sim.after calls).market.roster.IsActive id := by
        intro active
        have known := Roster.isActive_lt active
        rw [sound.size_eq, accounts] at known
        exact Nat.not_lt_zero id known
      simp [inactive, accounts]
    · exact ⟨fun _ => .inl accounts, fun _ => sound.agree (Nat.pos_of_ne_zero accounts)⟩
  · intro accounts
    have some : 0 < parameters.accounts % UInt32.size := Nat.pos_of_ne_zero accounts
    constructor
    · intro takes row done
      obtain ⟨stepped, counted⟩ := stepInto_sound Option.some (table takes) sound
      rw [counted row done, stepped.active_length some]
    · intro takes place row listed
      have stepped := stepsInto_sound Option.some (table takes) (place + 1) sound
      rw [stepsInto_row Option.some (table takes) sound listed, stepped.active_length some]

/-- A seeded trove that is accepted is held. -/
theorem seedTrove_holds {account : AccountId} {collateral netDebt targetCr inattention : ℝ}
    (accepted : (sim.seedTrove account collateral netDebt targetCr inattention).1 = .ok ()) :
    (sim.seedTrove account collateral netDebt targetCr inattention).2.market.ledger.troves.Has account := by
  unfold seedTrove at accepted ⊢
  dsimp only at accepted ⊢
  split at accepted
  · cases accepted
  · rename_i running
    split at accepted
    · cases accepted
    · rename_i available
      split at accepted
      · cases accepted
      · rename_i opened
        simp only [if_neg running, if_neg available]
        exact ((openTrove_ok opened).has account).mpr (.inl rfl)

/-- On its own the whale is counted in the first row, and then an account joins it. -/
theorem quiet_active_iff_holds : ∃ (sim : Simulation ℝ) (row : Row ℝ), Starts Parameters.quiet sim ∧
    ((sim.after [.bootstrap]).stepInto some (table fun _ => true)).1 = .ok (some row) ∧
    row.numTroves = ((sim.after [.bootstrap]).stepInto some (table fun _ => true)).2.market.roster.active.length ∧
    (sim.after seededCalls).market.roster.IsActive 1 ∧
      ∀ id, (sim.after seededCalls).market.roster.IsActive id ↔
        (sim.after seededCalls).market.ledger.troves.Has id := by
  obtain ⟨sim, starts, replayed⟩ := exists_replayed
  have sound := bootstrap_sound (starts.sound defaultTerms_conventional)
  have accounts : (Parameters.quiet : Parameters ℝ).accounts % UInt32.size ≠ 0 := by decide
  obtain ⟨⟨row, given⟩, _⟩ := quiet_stepped replayed sound some fun _ => rfl
  have counted := (active_iff_holds starts defaultTerms_conventional [.bootstrap]).2 accounts
  have agree := (active_iff_holds starts defaultTerms_conventional seededCalls).1.mpr (.inl accounts)
  have held : (sim.after seededCalls).market.ledger.troves.Has 1 := seedTrove_holds (quiet_joined replayed sound)
  exact ⟨sim, row, starts, given, counted.1 _ row given, (agree 1).mpr held, agree⟩

/-! ### A roster without accounts -/

/-- A bootstrap whose opening is accepted leaves the whale with a trove, even where it is
    refused later on. -/
theorem bootstrap_holds (unstarted : sim.phase = .bootstrapping) {change : TroveChange ℝ} {ledger : Ledger ℝ}
    (opened : (sim.market.ledger.setPrice (sim.collateralPrices[0]?.getD 0)).openTrove whale
      sim.parameters.bootstrap.whaleCollateral sim.parameters.bootstrap.whaleDebt = .ok (change, ledger)) :
    sim.bootstrap.2.market.ledger.troves.Has whale := by
  have held : ledger.troves.Has whale := ((openTrove_ok opened).has whale).mpr (.inl rfl)
  unfold bootstrap
  simp only [unstarted, ne_eq, not_true_eq_false, if_false, opened]
  split
  · exact held
  · rename_i seeded provided
    have kept : Steady ledger seeded := by
      split at provided
      · exact provide_steady provided
      · cases provided
        exact Steady.refl _
    split <;> exact (kept.has whale).mpr held

/-- The bundle without shocks, over as many accounts as there are 32-bit words. -/
noncomputable def wrapped : Parameters ℝ := { Parameters.quiet with accounts := 4294967296 }

theorem wrapped_valid : wrapped.Valid := { quiet_valid with accounts := by decide }

theorem wrapped_opened : ∃ change left, ((Ledger.new wrapped.terms wrapped.collateral.initial).setPrice
    wrapped.collateral.initial).openTrove whale wrapped.bootstrap.whaleCollateral wrapped.bootstrap.whaleDebt =
      .ok (change, left) := by
  refine ⟨_, _, CalmOpening.accepted ⟨new_calm _ _, ?_, ?_, ?_, rfl, ?_, ?_, rfl⟩⟩
  all_goals
    norm_num [readings, wrapped, Parameters.quiet, Parameters.default, Parameters.defaultTerms,
      Parameters.defaultBootstrap, Parameters.defaultCollateral, Ledger.new, setPrice]

/-- The bootstrap opens the trove of the whale, but the whale is not active. -/
theorem wrapped_disagrees : ∃ sim : Simulation ℝ, Starts wrapped sim ∧ wrapped.terms.Conventional ∧
    (sim.after [.bootstrap]).market.ledger.troves.Has whale ∧
      ¬ (sim.after [.bootstrap]).market.roster.IsActive whale := by
  obtain ⟨sim, made⟩ := new_of_valid wrapped_valid
  obtain ⟨_, same, unstarted, first, market⟩ := new_ok made
  obtain ⟨change, left, opened⟩ := wrapped_opened
  have sound := bootstrap_sound (Starts.sound (.inl made) (defaultTerms_conventional : wrapped.terms.Conventional))
  refine ⟨sim, .inl made, defaultTerms_conventional, ?_, ?_⟩
  · apply bootstrap_holds unstarted
    rw [market, first, same]
    exact opened
  · intro active
    have known := Roster.isActive_lt active
    have none : (sim.after [.bootstrap]).market.roster.size = 0 := sound.size_eq
    rw [none] at known
    exact Nat.not_lt_zero whale known

end Stablecoin.Simulation
