import Stablecoin.Proofs.Market.Agreement
import Stablecoin.Proofs.Run.Steps

namespace Stablecoin.Simulation
open Ledger
variable {sim start : Simulation ℝ} {parameters : Parameters ℝ} {size : Nat}

/-- Parameters that pass validation make distributions of the traits, and so a run. -/
theorem new_of_valid (valid : parameters.Valid) : ∃ sim, Simulation.new parameters = .ok sim := by
  have positive := valid.gamma
  simp only [not_or, not_le] at positive
  have collateral : 0 < parameters.borrowing.collateralGammaK ∧ 0 < parameters.borrowing.collateralGammaTheta :=
    ⟨positive.1, positive.2.1⟩
  have inattention : 0 < parameters.borrowing.inattentionGammaK ∧ 0 < parameters.borrowing.inattentionGammaTheta :=
    positive.2.2
  have ratio : ∃ squares, Random.ChiSquare.ofDegrees? parameters.borrowing.targetCrDf = some squares := by
    have degrees := not_le.mp valid.targetCrDf
    have half : 0 < 0.5 * parameters.borrowing.targetCrDf ∧ (0 : ℝ) < 2.0 := ⟨by positivity, by norm_num⟩
    unfold Random.ChiSquare.ofDegrees? Random.Gamma.ofParameters?
    rw [if_pos half]
    split <;> exact ⟨_, rfl⟩
  obtain ⟨squares, drawn⟩ := ratio
  have traits : ∃ traits, TraitModel.ofParameters? parameters.borrowing parameters.terms.mcr = some traits := by
    simp [TraitModel.ofParameters?, Random.Gamma.ofParameters?, collateral, inattention, drawn]
  obtain ⟨traits, model⟩ := traits
  have checked := (Parameters.validate_ok_iff parameters).mpr valid
  simp only [Simulation.new, checked, model, Except.mapError, ok_bind]
  exact ⟨_, rfl⟩

theorem new_sound (admissible : parameters.terms.Admissible) (accounts : Nat) (price : ℝ) :
    (⟨Ledger.new parameters.terms price, Roster.ofSize accounts⟩ : Market ℝ).Sound (accounts % UInt32.size) where
  wellFormed := new_wellFormed admissible price
  division := Roster.ofSize_division accounts
  size_eq := Roster.size_ofSize accounts
  agree _ id := by
    have inactive := Roster.not_isActive_ofSize (α := ℝ) accounts id
    simp [inactive, Ledger.new, Book.Has, Book.empty]

theorem Starts.sound (starts : Starts parameters sim) (conventional : parameters.terms.Conventional) :
    sim.market.Sound (parameters.accounts % UInt32.size) := by
  have made (drawn : Simulation ℝ) (fresh : Simulation.new parameters = .ok drawn) :
      drawn.market.Sound (parameters.accounts % UInt32.size) := by
    obtain ⟨valid, _, _, _, market⟩ := new_ok fresh
    rw [market]
    exact new_sound (valid.admissible conventional) parameters.accounts _
  rcases starts with fresh | ⟨drawn, prices, fresh, replayed⟩
  · exact made sim fresh
  · obtain ⟨_, rfl⟩ := withPrices_ok replayed
    exact made drawn fresh

theorem bootstrap_sound (sound : sim.market.Sound size) : sim.bootstrap.2.market.Sound size := by
  unfold bootstrap
  dsimp only
  split
  · exact sound
  · have priced := sound.steady (setPrice_steady sim.market.ledger (sim.collateralPrices[0]?.getD 0))
    split
    · exact priced
    · rename_i change ledger opened
      have followed := priced.opened id opened ((ledger.icr? whale).getD .unbounded).toNumber Number.infinity 0
      split
      · exact followed
      · rename_i seeded provided
        have kept : Steady ledger seeded := by
          split at provided
          · exact provide_steady provided
          · cases provided
            exact Steady.refl _
        split
        · exact followed.steady kept
        · exact followed.steady kept

theorem seedTrove_sound (sound : sim.market.Sound size) (account : AccountId)
    (collateral netDebt targetCr inattention : ℝ) :
    (sim.seedTrove account collateral netDebt targetCr inattention).2.market.Sound size := by
  unfold seedTrove
  dsimp only
  split
  · exact sound
  · split
    · exact sound
    · rename_i available
      split
      · exact sound
      · rename_i opened
        have known : account < size := by
          rw [← sound.size_eq]
          by_contra unknown
          have missing : sim.market.roster.get? account = none := Array.getElem?_eq_none (not_lt.mp unknown)
          exact available (.inr (by rw [missing]; rfl))
        exact sound.opened (fun _ => known) opened targetCr inattention _

theorem runSteps_sound (context : Context ℝ) {market : Market ℝ} (sound : market.Sound size) (state : MarketState ℝ) :
    (runSteps context market state).1.Sound size := by
  unfold runSteps
  have liquidated := Market.liquidate_sound context sound state
  generalize liquidate context market state = done at liquidated ⊢
  obtain ⟨market, liquidations⟩ := done
  have closed := Market.close_sound context liquidated
  dsimp only at closed ⊢
  generalize close context market = done at closed ⊢
  obtain ⟨market, closures⟩ := done
  have adjusted := Market.adjust_sound context closed
  dsimp only at adjusted ⊢
  generalize adjust context market = done at adjusted ⊢
  obtain ⟨market, adjustments⟩ := done
  have opened := Market.openTroves_sound context adjusted
  dsimp only at opened ⊢
  generalize openTroves context market = done at opened ⊢
  obtain ⟨market, openings⟩ := done
  have deposited := opened.steady (Market.updateDeposits_steady context market liquidations.stabilityReturn)
  exact Market.stabilizePrice_sound context deposited state.liquidityDemand

theorem work_sound (sound : sim.market.Sound size) (period : Nat) : (sim.work period).1.Sound size := by
  unfold work
  exact runSteps_sound _ (sound.steady (setPrice_steady sim.market.ledger (sim.priceIn period))) sim.state

theorem advance_sound (sound : sim.market.Sound size) (period : Nat) : (sim.advance period).2.market.Sound size := by
  have worked := work_sound sound period
  have advanced := sim.advance_advanced period
  generalize (sim.advance period).1 = answer at advanced
  generalize (sim.advance period).2 = left at advanced ⊢
  cases advanced with
  | unpriced unpriced error => exact worked
  | broken priced error => exact worked
  | passed priced => exact worked.steady (advancePeriod_steady _)

/-- The row of a period counts the troves that the period leaves. -/
theorem advance_row {period : Nat} {row : Row ℝ} (done : (sim.advance period).1 = .ok row) :
    row.numTroves = (sim.advance period).2.market.ledger.troves.size := by
  have advanced := sim.advance_advanced period
  rw [done] at advanced
  generalize (sim.advance period).2 = left at advanced ⊢
  cases advanced with
  | passed priced => rfl

section Tables
variable {ε : Type} (failed : RunError ℝ → ε) (append : Row ℝ → Except ε Unit)

/-- A step leaves the market sound, and its row counts the troves that it leaves. -/
theorem stepInto_sound (sound : sim.market.Sound size) :
    (sim.stepInto failed append).2.market.Sound size ∧
      ∀ row, (sim.stepInto failed append).1 = .ok (some row) →
        row.numTroves = (sim.stepInto failed append).2.market.ledger.troves.size := by
  refine ⟨stepInto_keeps (fun _ => bootstrap_sound) (fun _ period sound => advance_sound sound period) failed append
    sound, fun row done => ?_⟩
  have stepped := stepInto_stepped failed append sim
  rw [done] at stepped
  generalize (sim.stepInto failed append).2 = left at stepped ⊢
  cases stepped with
  | @taken mid _ _ booted remains advanced taken =>
    have counted := @advance_row mid mid.nextPeriod row
    rw [advanced] at counted
    exact counted rfl

theorem stepsInto_sound (count : Nat) (sound : sim.market.Sound size) :
    (sim.stepsInto failed append count).2.2.market.Sound size :=
  stepsInto_keeps (fun _ => bootstrap_sound) (fun _ period sound => advance_sound sound period) failed append count
    sound

/-- Each row of many steps counts the troves that are left after so many of them. -/
theorem stepsInto_row {count place : Nat} {row : Row ℝ} (sound : sim.market.Sound size)
    (listed : (sim.stepsInto failed append count).1[place]? = some row) :
    row.numTroves = (sim.stepsInto failed append (place + 1)).2.2.market.ledger.troves.size := by
  induction count generalizing sim place with
  | zero => simp [stepsInto] at listed
  | succ count ih =>
    obtain ⟨stepped, counted⟩ := stepInto_sound failed append sound
    unfold stepsInto at listed ⊢
    generalize sim.stepInto failed append = done at stepped counted listed ⊢
    obtain ⟨answer, left⟩ := done
    cases answer with
    | error error => simp at listed
    | ok answer =>
      cases answer with
      | none => simp at listed
      | some first =>
        cases place with
        | zero =>
          obtain rfl : first = row := by simpa using listed
          exact counted first rfl
        | succ place => exact ih stepped listed

end Tables

theorem after_sound (calls : List (Call ℝ)) (sound : sim.market.Sound size) : (sim.after calls).market.Sound size :=
  after_keeps (fun _ => bootstrap_sound) (fun _ account _ _ _ _ sound => seedTrove_sound sound account _ _ _ _)
    (fun _ period sound => advance_sound sound period) calls sound

end Stablecoin.Simulation
