import Stablecoin.Proofs.Market.Collateral
import Stablecoin.Proofs.Run.Quiet

/-!
The collateral of a run. What was added over all periods covers what was liquidated and
what the open troves still hold (`Covered`). Every accepted call keeps this, for a period
counts all of the collateral that its steps bring into the troves and no more than they
lose to liquidations. So no period finds more collateral liquidated than was added
(`collateral_covered`).

Where the stablecoin stays in demand, no period counts less than nothing, and the totals
of the rows never fall (`rows_ascend`).
-/
namespace Stablecoin

/-- What a row tells of the totals of the run. -/
def Row.totals (row : Row ℝ) : ℝ × ℝ × ℝ :=
  (row.totalCollateralAdded, row.totalCollateralLiquidated, row.totalStableRedeemed)

namespace Simulation
open Ledger
open Number (tolerance tolerance_pos)
variable {sim start left : Simulation ℝ} {parameters : Parameters ℝ} {size : Nat}

/-- A bootstrap, a seeded trove or a step that has not ended in an error, and the
    stablecoin is in demand after the step. -/
def Orderly (sim : Simulation ℝ) : Call ℝ → Prop
  | .bootstrap => sim.bootstrap.1 = .ok ()
  | .seedTrove account collateral netDebt targetCr inattention =>
    (sim.seedTrove account collateral netDebt targetCr inattention).1 = .ok ()
  | .step takes => (∃ row, (sim.stepInto some (table takes)).1 = .ok row) ∧
      0 < (sim.stepInto some (table takes)).2.state.liquidityDemand
  | .run _ => False

/-- The run has valid parameters and a positive price for every period that it will
    execute. -/
structure Priced (parameters : Parameters ℝ) (sim : Simulation ℝ) : Prop where
  parameters_eq : sim.parameters = parameters
  valid : parameters.Valid
  path : sim.periods < sim.collateralPrices.size
  positive : ∀ price ∈ sim.prices, 0 < price

theorem Priced.of_settings (priced : sim.Priced parameters) (same : left.settings = sim.settings) :
    left.Priced parameters := by
  obtain ⟨sameParameters, same⟩ := Prod.mk.inj same
  obtain ⟨samePeriods, samePrices⟩ := Prod.mk.inj same
  refine ⟨sameParameters.trans priced.parameters_eq, priced.valid, ?_, ?_⟩
  · rw [samePeriods, samePrices]
    exact priced.path
  · rw [prices, samePeriods, samePrices]
    exact priced.positive

theorem Priced.price_pos (priced : sim.Priced parameters) {period : Nat} (within : period ≤ sim.periods) :
    0 < sim.collateralPrices[period]?.getD 0 := by
  have known : period < sim.collateralPrices.size := within.trans_lt priced.path
  rw [Array.getElem?_eq_getElem known, Option.getD_some]
  apply priced.positive
  rw [prices, Array.mem_extract_iff_getElem]
  exact ⟨period, by omega, by simp⟩

theorem Starts.priced (starts : Starts parameters sim) (positive : ∀ price ∈ sim.prices, 0 < price) :
    sim.Priced parameters := by
  rcases starts with made | ⟨drawn, prices, made, replayed⟩
  · obtain ⟨valid, same, _⟩ := new_ok made
    exact ⟨same, valid, (new_path made).2.1, positive⟩
  · obtain ⟨valid, same, _⟩ := new_ok made
    obtain ⟨long, rfl⟩ := withPrices_ok replayed
    refine ⟨same, valid, ?_, positive⟩
    dsimp only
    omega

/-- What the steps of a period count, against what the troves held before and hold now. -/
structure Steps.Counts (held : ℝ) (left : Ledger ℝ) (steps : Steps ℝ) : Prop where
  total : left.totalCollateral + steps.liquidated.collateralLiquidated ≤
    held + (steps.adjusted.collateralAdded + steps.opened.collateralAdded + steps.peg.issuance.collateralAdded)
  liquidated : 0 ≤ steps.liquidated.collateralLiquidated
  redeemed : 0 ≤ steps.peg.redeemed

theorem runSteps_counts {context : Context ℝ} (positive : 0 < context.collateralPrice) {market : Market ℝ}
    (sound : market.Sound size) (state : MarketState ℝ) :
    Steps.Counts market.ledger.totalCollateral (runSteps context market state).1.ledger
        (runSteps context market state).2 ∧
      (context.parameters.Valid → 0 < context.parameters.liquidity.ceiling →
        0 < (runSteps context market state).2.peg.liquidityDemand →
        0 ≤ (runSteps context market state).2.adjusted.collateralAdded +
          (runSteps context market state).2.opened.collateralAdded +
          (runSteps context market state).2.peg.issuance.collateralAdded) := by
  unfold runSteps
  have kept := Market.liquidate_sound context sound state
  obtain ⟨taken, lost⟩ := Market.liquidate_collateral context sound.wellFormed state
  generalize liquidate context market state = done at kept taken lost ⊢
  obtain ⟨market, liquidations⟩ := done
  have closed := Market.close_collateral context kept
  replace kept := Market.close_sound context kept
  dsimp only at closed kept ⊢
  generalize close context market = done at closed kept ⊢
  obtain ⟨market, closures⟩ := done
  have adjusted := Market.adjust_brings positive kept
  replace kept := Market.adjust_sound context kept
  dsimp only at adjusted kept ⊢
  generalize adjust context market = done at adjusted kept ⊢
  obtain ⟨market, adjustments⟩ := done
  have opened := Market.openTroves_brings context market
  replace kept := Market.openTroves_sound context kept
  dsimp only at opened kept ⊢
  generalize openTroves context market = done at opened kept ⊢
  obtain ⟨market, openings⟩ := done
  have same := totalCollateral_of_troves (Market.updateDeposits_troves context market liquidations.stabilityReturn)
  replace kept := kept.steady (Market.updateDeposits_steady context market liquidations.stabilityReturn)
  obtain ⟨pegged, redeemed, demanded⟩ := Market.stabilizePrice_collateral context kept state.liquidityDemand
  have adjustedTotal := adjusted.total
  have openedTotal := opened.total
  dsimp only at *
  refine ⟨⟨by linarith, taken, redeemed⟩, ?_⟩
  intro valid ceiling demand
  have arbitrage : 0 ≤ context.parameters.liquidity.arbitrageCr := by
    linarith [not_lt.mp valid.arbitrageCr, not_le.mp valid.mcr]
  have added := demanded positive arbitrage ceiling (not_le.mp valid.elasticity) demand
  linarith [adjusted.added, opened.added]

/-- What was added covers what was liquidated and what the troves hold. Before the
    bootstrap nothing was added, and there are no troves. -/
structure Covered (parameters : Parameters ℝ) (size : Nat) (sim : Simulation ℝ) : Prop where
  sound : sim.market.Sound size
  priced : sim.Priced parameters
  fresh : sim.phase = .bootstrapping → sim.state = MarketState.initial ∧ sim.market.ledger.totalCollateral = 0
  covered : sim.state.totalCollateralLiquidated + sim.market.ledger.totalCollateral ≤ sim.state.totalCollateralAdded

theorem Starts.covered (starts : Starts parameters sim) (conventional : parameters.terms.Conventional)
    (positive : ∀ price ∈ sim.prices, 0 < price) : sim.Covered parameters (parameters.accounts % UInt32.size) := by
  have fresh : sim.state = MarketState.initial ∧ sim.market.ledger.totalCollateral = 0 := by
    have made (drawn : Simulation ℝ) (new : Simulation.new parameters = .ok drawn) :
        drawn.state = MarketState.initial ∧ drawn.market.ledger.totalCollateral = 0 := by
      obtain ⟨_, _, _, _, market⟩ := new_ok new
      refine ⟨(new_path new).2.2.1, ?_⟩
      rw [market, totalCollateral_eq]
      rfl
    rcases starts with new | ⟨drawn, prices, new, replayed⟩
    · exact made sim new
    · obtain ⟨_, rfl⟩ := withPrices_ok replayed
      exact made drawn new
  refine ⟨starts.sound conventional, starts.priced positive, fun _ => fresh, ?_⟩
  rw [fresh.1, fresh.2]
  exact (add_zero _).le

/-- An accepted bootstrap counts the collateral of the whale. -/
theorem bootstrap_ok (accepted : sim.bootstrap.1 = .ok ()) :
    sim.phase = .bootstrapping ∧ sim.bootstrap.2.phase = .running ∧ 0 < sim.parameters.bootstrap.whaleCollateral ∧
      sim.bootstrap.2.state.totals = (sim.parameters.bootstrap.whaleCollateral, 0, 0) ∧
      sim.bootstrap.2.market.ledger.totalCollateral =
        sim.market.ledger.totalCollateral + sim.parameters.bootstrap.whaleCollateral := by
  unfold bootstrap at accepted ⊢
  dsimp only at accepted ⊢
  split at accepted
  · cases accepted
  · rename_i unstarted
    rw [if_neg unstarted]
    split at accepted
    · cases accepted
    · rename_i change ledger opened
      obtain ⟨positive, brought⟩ := openTrove_collateral opened
      split at accepted
      · cases accepted
      · rename_i seeded provided
        have kept : seeded.troves = ledger.troves := by
          split at provided
          · exact provide_troves provided
          · cases provided
            rfl
        split at accepted
        · cases accepted
        · rename_i circulates
          rw [if_neg circulates]
          exact ⟨not_not.mp unstarted, rfl, positive, rfl, (totalCollateral_of_troves kept).trans brought⟩

theorem bootstrap_covered (covered : sim.Covered parameters size) (accepted : sim.bootstrap.1 = .ok ()) :
    sim.bootstrap.2.Covered parameters size ∧ sim.state.totals ≤ sim.bootstrap.2.state.totals := by
  obtain ⟨unstarted, running, positive, counted, brought⟩ := bootstrap_ok accepted
  obtain ⟨initial, none⟩ := covered.fresh unstarted
  obtain ⟨added, rest⟩ := Prod.mk.inj counted
  obtain ⟨liquidated, _⟩ := Prod.mk.inj rest
  constructor
  · refine ⟨bootstrap_sound covered.sound, covered.priced.of_settings (bootstrap_frame fun _ _ _ => rfl), ?_, ?_⟩
    · intro again
      rw [running] at again
      cases again
    · rw [added, liquidated, brought, none, zero_add, zero_add]
  · rw [counted, initial]
    exact ⟨positive.le, le_rfl, le_rfl⟩

theorem seedTrove_covered (covered : sim.Covered parameters size) {account : AccountId}
    {collateral netDebt targetCr inattention : ℝ}
    (accepted : (sim.seedTrove account collateral netDebt targetCr inattention).1 = .ok ()) :
    (sim.seedTrove account collateral netDebt targetCr inattention).2.Covered parameters size ∧
      sim.state.totals ≤ (sim.seedTrove account collateral netDebt targetCr inattention).2.state.totals := by
  have sound := seedTrove_sound covered.sound account collateral netDebt targetCr inattention
  have priced := covered.priced.of_settings
    (seedTrove_frame (fun _ _ => rfl) account collateral netDebt targetCr inattention)
  unfold seedTrove at accepted sound priced ⊢
  dsimp only at accepted sound priced ⊢
  split at accepted
  · cases accepted
  · rename_i running
    split at accepted
    · cases accepted
    · rename_i available
      split at accepted
      · cases accepted
      · rename_i opened
        obtain ⟨positive, brought⟩ := openTrove_collateral opened
        simp only [if_neg running, if_neg available, opened] at sound priced ⊢
        refine ⟨⟨sound, priced, ?_, ?_⟩, ?_⟩
        · intro unstarted
          have both : Phase.bootstrapping = .running := unstarted.symm.trans (not_not.mp running)
          cases both
        · rw [brought]
          linarith [covered.covered]
        · exact ⟨le_add_of_nonneg_right positive.le, le_rfl, le_rfl⟩

/-- A period that finds more collateral liquidated than was added. -/
def Overdrawn (error : RunError ℝ) : Prop :=
  ∃ period liquidated added, error = .violation period (.collateral liquidated added)

/-- A period that is carried over counts what its steps count, and its row tells it. -/
theorem conclude_ok {context : Context ℝ} {steps : Steps ℝ} {row : Row ℝ}
    (done : (sim.conclude context steps).1 = .ok row) :
    (sim.conclude context steps).2.state.totals = (steps.carry context.period sim.state).totals ∧
      row.totals = (steps.carry context.period sim.state).totals ∧
      (sim.conclude context steps).2.state.liquidityDemand = steps.peg.liquidityDemand ∧
      (sim.conclude context steps).2.market.ledger.totalCollateral = sim.market.ledger.totalCollateral ∧
      (sim.conclude context steps).2.phase = sim.phase := by
  unfold conclude at done ⊢
  dsimp only at done ⊢
  split at done
  · cases done
  · rename_i priced
    rw [if_neg priced]
    split at done
    · cases done
    · rename_i covered
      rw [if_neg covered]
      split at done
      · cases done
      · rename_i divided
        rw [if_neg divided]
        cases done
        exact ⟨rfl, rfl, rfl, rfl, rfl⟩

/-- No period is found overdrawn whose counts are covered. -/
theorem conclude_not_overdrawn {context : Context ℝ} {steps : Steps ℝ} {error : RunError ℝ}
    (covered : (steps.carry context.period sim.state).totalCollateralLiquidated ≤
      (steps.carry context.period sim.state).totalCollateralAdded)
    (failed : (sim.conclude context steps).1 = .error error) : ¬ Overdrawn error := by
  rintro ⟨period, liquidated, added, rfl⟩
  unfold conclude at failed
  dsimp only at failed
  split at failed
  · cases failed
  · split at failed
    · rename_i overdrawn
      have more := tolerance_pos
      linarith
    · split at failed <;> cases failed

/-- A period keeps the collateral covered, and is not found overdrawn. In demand it counts
    nothing negative. -/
theorem advance_covered (covered : sim.Covered parameters size) (started : sim.phase ≠ .bootstrapping) {period : Nat}
    (within : period ≤ sim.periods) :
    (∀ row, (sim.advance period).1 = .ok row → (sim.advance period).2.Covered parameters size ∧
        (sim.advance period).2.phase ≠ .bootstrapping ∧
        row.totals = (sim.advance period).2.state.totals ∧
        (0 < parameters.liquidity.ceiling → 0 < (sim.advance period).2.state.liquidityDemand →
          sim.state.totals ≤ (sim.advance period).2.state.totals)) ∧
      ∀ error, (sim.advance period).1 = .error error → ¬ Overdrawn error := by
  have sound := advance_sound covered.sound period
  have settings := sim.advance_settings period
  have price_pos := covered.priced.price_pos within
  unfold advance at sound settings ⊢
  dsimp only at sound settings ⊢
  generalize sim.collateralPrices[period]?.getD 0 = price at sound settings price_pos ⊢
  have priced := covered.sound.steady (setPrice_steady sim.market.ledger price)
  have kept := runSteps_sound (sim.context period price) priced sim.state
  have positive : 0 < (sim.context period price).collateralPrice := price_pos
  obtain ⟨counts, demanded⟩ := runSteps_counts positive priced sim.state
  generalize (runSteps _ _ _ : Market ℝ × Steps ℝ) = done at sound settings counts demanded kept ⊢
  obtain ⟨market, steps⟩ := done
  dsimp only at sound settings counts demanded kept ⊢
  have held : 0 ≤ market.ledger.totalCollateral := kept.wellFormed.secured.totalCollateral_nonneg
  have before := covered.covered
  have total : market.ledger.totalCollateral + steps.liquidated.collateralLiquidated ≤
      sim.market.ledger.totalCollateral +
        (steps.adjusted.collateralAdded + steps.opened.collateralAdded + steps.peg.issuance.collateralAdded) :=
    counts.total
  constructor
  · intro row done
    obtain ⟨carried, told, demand, collateral, phase⟩ := conclude_ok done
    obtain ⟨added, rest⟩ := Prod.mk.inj carried
    obtain ⟨liquidated, _⟩ := Prod.mk.inj rest
    refine ⟨⟨sound, covered.priced.of_settings settings, ?_, ?_⟩, ?_, told.trans carried.symm, ?_⟩
    · intro unstarted
      exact absurd (phase.symm.trans unstarted) started
    · rw [added, liquidated, collateral]
      simp only [Steps.carry]
      linarith
    · rw [phase]
      exact started
    · intro ceiling inDemand
      rw [demand] at inDemand
      rw [carried]
      have valid := covered.priced.valid
      rw [← covered.priced.parameters_eq] at valid ceiling
      have brought := demanded valid ceiling inDemand
      exact ⟨le_add_of_nonneg_right brought, le_add_of_nonneg_right counts.liquidated,
        le_add_of_nonneg_right counts.redeemed⟩
  · intro error failed
    refine conclude_not_overdrawn ?_ failed
    simp only [Steps.carry]
    linarith

theorem bootstrap_not_overdrawn {error : RunError ℝ} (failed : sim.bootstrap.1 = .error error) : ¬ Overdrawn error := by
  rintro ⟨period, liquidated, added, rfl⟩
  unfold bootstrap at failed
  dsimp only at failed
  split at failed
  · cases failed
  · split at failed
    · cases failed
    · split at failed
      · cases failed
      · split at failed <;> cases failed

theorem Covered.moved (covered : sim.Covered parameters size) {phase : Phase} (started : phase ≠ .bootstrapping)
    (nextPeriod : Nat) : { sim with nextPeriod, phase }.Covered parameters size where
  sound := covered.sound
  priced := covered.priced.of_settings rfl
  fresh unstarted := absurd unstarted started
  covered := covered.covered

/-- What a step finds, where it bootstraps first. -/
theorem ready_covered (covered : sim.Covered parameters size) (booted : sim.ready = (.ok (), left)) :
    left.Covered parameters size ∧ left.phase ≠ .bootstrapping ∧ sim.state.totals ≤ left.state.totals := by
  unfold ready at booted
  split at booted
  · have accepted : sim.bootstrap.1 = .ok () := by rw [booted]
    obtain ⟨kept, grows⟩ := bootstrap_covered covered accepted
    obtain ⟨_, running, _⟩ := bootstrap_ok accepted
    rw [booted] at kept grows running
    refine ⟨kept, ?_, grows⟩
    rw [running]
    exact Phase.noConfusion
  · rename_i started
    cases booted
    exact ⟨covered, started, le_rfl⟩

theorem ready_not_overdrawn {error : RunError ℝ} (booting : sim.ready = (.error error, left)) : ¬ Overdrawn error := by
  unfold ready at booting
  split at booting
  · exact bootstrap_not_overdrawn (congrArg Prod.fst booting)
  · cases booting

section Tables
variable {ε : Type} {failed : RunError ℝ → ε} {append : Row ℝ → Except ε Unit}

/-- A step that has not ended in an error keeps the collateral covered, and its row tells
    the totals that it leaves. In demand they have not fallen. -/
theorem Stepped.covered {answer : Option (Row ℝ)} (stepped : Stepped failed append sim (.ok answer) left)
    (covered : sim.Covered parameters size) :
    left.Covered parameters size ∧ (∀ row ∈ answer, row.totals = left.state.totals) ∧
      (0 < parameters.liquidity.ceiling → 0 < left.state.liquidityDemand →
        sim.state.totals ≤ left.state.totals) := by
  cases stepped with
  | ended booted finished =>
    obtain ⟨kept, _, grows⟩ := ready_covered covered booted
    exact ⟨kept, by simp, fun _ _ => grows⟩
  | @past mid booted unfinished past =>
    obtain ⟨kept, _, grows⟩ := ready_covered covered booted
    exact ⟨kept.moved Phase.noConfusion mid.nextPeriod, by simp, fun _ _ => grows⟩
  | @taken mid last row booted remains advanced taken =>
    obtain ⟨kept, started, grows⟩ := ready_covered covered booted
    have advance := (advance_covered kept started remains.within).1 row (congrArg Prod.fst advanced)
    rw [advanced] at advance
    obtain ⟨done, phase, told, demanded⟩ := advance
    refine ⟨done.moved (moveOn_started _ phase) _, ?_, ?_⟩
    · intro other here
      rw [← Option.some.inj here]
      exact told
    · intro ceiling demand
      exact grows.trans (demanded ceiling demand)

/-- A step fails where its table refuses the row, and elsewhere never because the period
    is overdrawn. -/
theorem Stepped.not_overdrawn {fault : ε} (stepped : Stepped failed append sim (.error fault) left)
    (covered : sim.Covered parameters size) :
    (∃ row, append row = .error fault) ∨ ∃ error, fault = failed error ∧ ¬ Overdrawn error := by
  cases stepped with
  | @unready error _ booting => exact .inr ⟨error, rfl, ready_not_overdrawn booting⟩
  | @broken _ _ error booted remains advanced =>
    obtain ⟨kept, started, _⟩ := ready_covered covered booted
    have sound := (advance_covered kept started remains.within).2
    exact .inr ⟨error, rfl, sound error (congrArg Prod.fst advanced)⟩
  | @refused _ _ row _ booted remains advanced refused => exact .inl ⟨row, refused⟩

end Tables

/-- Every orderly call keeps the collateral covered. The totals do not fall, and a row
    tells them. -/
theorem perform_covered (covered : sim.Covered parameters size) (ceiling : 0 < parameters.liquidity.ceiling)
    {call : Call ℝ} (orderly : sim.Orderly call) :
    (sim.perform call).Covered parameters size ∧ sim.state.totals ≤ (sim.perform call).state.totals ∧
      ∀ row ∈ sim.row? call, row.totals = (sim.perform call).state.totals := by
  cases call with
  | bootstrap =>
    obtain ⟨kept, grows⟩ := bootstrap_covered covered orderly
    exact ⟨kept, grows, by simp [row?]⟩
  | seedTrove account collateral netDebt targetCr inattention =>
    obtain ⟨kept, grows⟩ := seedTrove_covered covered orderly
    exact ⟨kept, grows, by simp [row?]⟩
  | step takes =>
    obtain ⟨⟨answer, done⟩, demand⟩ := orderly
    have stepped := stepInto_stepped some (table takes) sim
    rw [done] at stepped
    obtain ⟨kept, told, demanded⟩ := stepped.covered covered
    refine ⟨kept, demanded ceiling demand, ?_⟩
    simp only [row?, done]
    exact told
  | run takes => exact orderly.elim

theorem after_covered (ceiling : 0 < parameters.liquidity.ceiling) {calls : List (Call ℝ)}
    (covered : sim.Covered parameters size) (orderly : sim.Along Orderly calls) :
    (sim.after calls).Covered parameters size := by
  induction calls generalizing sim with
  | nil => exact covered
  | cons call calls ih => exact ih (perform_covered covered ceiling orderly.1).1 orderly.2

/-- The rows of orderly calls start from the totals of the run and do not fall. -/
theorem rows_ascend (ceiling : 0 < parameters.liquidity.ceiling) {calls : List (Call ℝ)}
    (covered : sim.Covered parameters size) (orderly : sim.Along Orderly calls) :
    (∀ row ∈ sim.rows calls, sim.state.totals ≤ row.totals) ∧
      (sim.rows calls).Pairwise fun row later => row.totals ≤ later.totals := by
  induction calls generalizing sim with
  | nil => exact ⟨fun row member => by simp [rows] at member, List.Pairwise.nil⟩
  | cons call calls ih =>
    obtain ⟨kept, grows, told⟩ := perform_covered covered ceiling orderly.1
    obtain ⟨above, ascending⟩ := ih kept orderly.2
    unfold rows
    constructor
    · intro row member
      rcases List.mem_append.mp member with first | later
      · rw [told row (Option.mem_toList.mp first)]
        exact grows
      · exact grows.trans (above row later)
    · refine List.pairwise_append.mpr ⟨?_, ascending, ?_⟩
      · cases sim.row? call with
        | none => exact List.Pairwise.nil
        | some row => exact List.pairwise_singleton _ _
      · intro row first later member
        rw [told row (Option.mem_toList.mp first)]
        exact above later member

/-- Along orderly calls at positive prices what was added covers what was liquidated and
    what the open troves hold. So no further step finds more collateral liquidated than
    was added, and no total falls from one row to a later one. -/
theorem collateral_covered (starts : Starts parameters sim) (conventional : parameters.terms.Conventional)
    (positive : ∀ price ∈ sim.prices, 0 < price) (ceiling : 0 < parameters.liquidity.ceiling) {calls : List (Call ℝ)}
    (orderly : sim.Along Orderly calls) :
    (sim.after calls).state.totalCollateralLiquidated + (sim.after calls).market.ledger.totalCollateral ≤
        (sim.after calls).state.totalCollateralAdded ∧
      (∀ takes period liquidated added, ((sim.after calls).stepInto some (table takes)).1 ≠
        .error (some (.violation period (.collateral liquidated added)))) ∧
      (sim.rows calls).Pairwise fun row later =>
        row.totalCollateralAdded ≤ later.totalCollateralAdded ∧
          row.totalCollateralLiquidated ≤ later.totalCollateralLiquidated ∧
          row.totalStableRedeemed ≤ later.totalStableRedeemed := by
  have start := starts.covered conventional positive
  have last := after_covered ceiling start orderly
  refine ⟨last.covered, ?_, ?_⟩
  · intro takes period liquidated added fails
    have stepped := stepInto_stepped some (table takes) (sim.after calls)
    rw [fails] at stepped
    rcases stepped.not_overdrawn last with ⟨row, refused⟩ | ⟨error, same, sound⟩
    · unfold table at refused
      split at refused <;> cases refused
    · exact sound ⟨period, liquidated, added, (Option.some.inj same).symm⟩
  · refine (rows_ascend ceiling start orderly).2.imp ?_
    intro row later ascends
    exact ⟨ascends.1, ascends.2.1, ascends.2.2⟩

/-! ### A run with one seeded borrower -/

theorem seededCalls_orderly (replayed : sim.Replayed) (sound : sim.bootstrap.2.market.Sound size) :
    sim.Along Orderly seededCalls := by
  obtain ⟨ratio, booted⟩ := quiet_bootstrapped replayed
  obtain ⟨⟨row, given⟩, _, kept, _⟩ := quiet_stepped replayed sound some fun _ => rfl
  exact ⟨by rw [Orderly, booted], ⟨⟨_, given⟩, Number.tolerance_pos.trans_le kept.circulates⟩,
    quiet_joined replayed sound, trivial⟩

theorem seededCalls_covered : ∃ sim, Starts Parameters.quiet sim ∧ (∀ price ∈ sim.prices, 0 < price) ∧
    sim.Along Orderly seededCalls ∧
      (sim.after seededCalls).state.totalCollateralLiquidated + (sim.after seededCalls).market.ledger.totalCollateral ≤
        (sim.after seededCalls).state.totalCollateralAdded := by
  obtain ⟨sim, starts, replayed⟩ := exists_replayed
  have positive : ∀ price ∈ sim.prices, 0 < price := by
    intro price member
    rw [Simulation.prices, replayed.prices, Array.mem_extract_iff_getElem] at member
    obtain ⟨place, within, rfl⟩ := member
    have each : ∀ price ∈ steadyPrices, 0 < price := by norm_num [steadyPrices]
    exact each _ (Array.getElem_mem _)
  have ceiling : 0 < (Parameters.quiet : Parameters ℝ).liquidity.ceiling := by
    norm_num [Parameters.quiet, Parameters.default, Parameters.defaultLiquidity]
  have orderly := seededCalls_orderly replayed (bootstrap_sound (starts.sound defaultTerms_conventional))
  exact ⟨sim, starts, positive, orderly,
    (collateral_covered starts defaultTerms_conventional positive ceiling orderly).1⟩

end Simulation
end Stablecoin
