import Stablecoin.Proofs.Run.Rest

namespace Stablecoin.Simulation
open Ledger
variable {sim : Simulation ℝ} {size : Nat}

/-- Where neither the collateral price nor the natural rate moves, every period finds them
    as they start. -/
theorem new_still {parameters : Parameters ℝ} (made : Simulation.new parameters = .ok sim)
    (volatility : parameters.collateral.volatility ≤ 0) (drift : parameters.collateral.drift = 0)
    (still : parameters.stability.naturalRateSd = 0) (rate : 0 ≤ parameters.stability.naturalRateInitial) {period : Nat}
    (within : period ≤ parameters.periods) :
    sim.collateralPrices[period]? = some parameters.collateral.initial ∧
      sim.naturalRates[period]? = some parameters.stability.naturalRateInitial := by
  obtain ⟨_, _, _, rfl⟩ := new_eq made
  exact ⟨collateralPath_constant volatility drift _ within, naturalRatePath_constant still rate _ within⟩

/-- On its own in a new roster the whale is no borrower. -/
theorem activeBorrowers_whale (accounts : Nat) (targetCr inattention : ℝ) (period : Nat) :
    ((Roster.ofSize accounts : Roster ℝ).activate whale targetCr inattention period).activeBorrowers = [] := by
  have nobody : (Roster.ofSize accounts : Roster ℝ).active = [] := rfl
  by_cases idle : (Roster.ofSize accounts : Roster ℝ).idle.Has whale
  · simp [Roster.activeBorrowers, Roster.activate_of_idle idle, nobody]
  · simp [Roster.activeBorrowers, Roster.activate_of_not_idle idle, nobody]

/-- At an initial price of one the demand is what circulates. -/
theorem openingState_demand {parameters : Parameters ℝ} (par : parameters.bootstrap.initialStablePrice = 1)
    (circulating : ℝ) : (openingState parameters circulating).liquidityDemand = circulating := by
  simp [openingState, par, Number.pow_real]

/-- Where the whale's trove opens, the bootstrap is accepted at any seed of the pool that
    the whale can spare and that leaves some stablecoin in circulation. -/
theorem bootstrap_seeded {parameters : Parameters ℝ} (made : Simulation.new parameters = .ok sim)
    {change : TroveChange ℝ} {opened : Ledger ℝ}
    (opens : ((Ledger.new parameters.terms parameters.collateral.initial).setPrice
      parameters.collateral.initial).openTrove whale parameters.bootstrap.whaleCollateral
        parameters.bootstrap.whaleDebt = .ok (change, opened))
    (unseeded : opened.totalDeposits = 0) {seed : ℝ} (seeds : parameters.bootstrap.stabilityInitial = seed)
    (positive : 0 < seed) (covered : seed ≤ opened.balance whale) (circulates : seed < opened.supply) :
    ∃ ratio funded, GainsApart { opened with
        balances := opened.balances.insert whale (opened.balance whale - seed)
        deposits := addTo opened.deposits whale seed } funded ∧ funded.totalDeposits = seed ∧
      sim.bootstrap = (.ok (), { sim with
        market := ⟨funded, (Roster.ofSize parameters.accounts).activate whale ratio Number.infinity 0⟩
        state := openingState parameters (funded.supply - seed)
        phase := .running }) := by
  obtain ⟨_, rfl, unstarted, first, market⟩ := new_ok made
  obtain ⟨funded, provided, gains⟩ := Market.provide_gains positive covered
  have readings : funded.supply = opened.supply ∧ funded.totalDeposits = seed := by
    obtain ⟨_, _, _, rfl⟩ := gains
    refine ⟨rfl, ?_⟩
    rw [totalDeposits_eq, sumOf_addTo, ← totalDeposits_eq, unseeded, zero_add]
  obtain ⟨supply, pool⟩ := readings
  have opensThen : (sim.market.ledger.setPrice (sim.collateralPrices[0]?.getD 0)).openTrove whale
      sim.parameters.bootstrap.whaleCollateral sim.parameters.bootstrap.whaleDebt = .ok (change, opened) := by
    rw [market, first]
    exact opens
  have funds : (if 0 < sim.parameters.bootstrap.stabilityInitial then
      opened.provide whale sim.parameters.bootstrap.stabilityInitial else pure opened) = .ok funded := by
    rw [seeds, if_pos positive, provided]
  have some : ¬ funded.supply - funded.totalDeposits ≤ 0 := by
    rw [supply, pool]
    exact not_le.mpr (sub_pos.mpr circulates)
  obtain ⟨ratio, booted⟩ := bootstrap_eq unstarted opensThen funds some
  have roster : sim.market.roster = Roster.ofSize sim.parameters.accounts := congrArg Market.roster market
  rw [pool, roster] at booted
  exact ⟨ratio, funded, gains, pool, booted⟩

/-- The whale has opened its trove in the bundle without shocks. -/
noncomputable def quietOpened : Ledger ℝ :=
  { Ledger.new Parameters.defaultTerms 2000.0 with
    troves := ⟨[(whale, ⟨30000.0, 10050200.0⟩)], by simp⟩
    balances := ⟨[(whale, 10000000.0)], by simp⟩
    feePool := 50000.0
    gasPool := 200.0
    supply := 10050200.0 }

/-- It has seeded the stability pool as well. -/
noncomputable def quietLedger : Ledger ℝ :=
  { quietOpened with
    balances := ⟨[(whale, 9500000.0)], by simp⟩
    deposits := ⟨[(whale, 500000.0)], by simp⟩ }

/-- The prices of a run of two periods. -/
noncomputable def steadyPrices : Array ℝ := #[2000.0, 2000.0, 2000.0]

/-- After a period the whale is joined by a borrower. -/
noncomputable def seededCalls : List (Call ℝ) :=
  [.bootstrap, .step fun _ => true, .seedTrove 1 10.0 2000.0 2.0 0.3]

/-- The opening does not depend on what a redemption will cost. -/
theorem quiet_opened (redemptionFeeFloor : ℝ) : ∃ change,
    ((Ledger.new { Parameters.defaultTerms with redemptionFeeFloor } 2000.0).setPrice 2000.0).openTrove whale 30000.0
      10000000.0 = .ok (change, { quietOpened with terms := { Parameters.defaultTerms with redemptionFeeFloor } }) := by
  refine ⟨⟨30000.0, 10050200.0, 50000.0⟩, CalmOpening.accepted ?_⟩
  constructor
  case calm => exact new_calm _ _
  all_goals norm_num [readings, quietOpened, Ledger.new, setPrice, Parameters.defaultTerms]

theorem quiet_provided (price : ℝ) :
    { quietOpened with price }.provide whale 500000.0 = .ok { quietLedger with price } := by
  rw [provide_eq] <;> norm_num [afterDeposit, payOutGains, readings, quietLedger, quietOpened, Ledger.new, whale]

theorem quiet_seeded {left : Ledger ℝ} (gains : GainsApart (quietLedger.setPrice 2000.0) left) :
    ∃ done, left.advancePeriod.openTrove 1 10.0 2000.0 = .ok done := by
  obtain ⟨collateralGains, rewardGains, poolCollateral, rfl⟩ := gains
  refine ⟨(⟨10.0, 2210.0, 10.0⟩,
    { quietLedger with
      collateralGains, rewardGains, poolCollateral
      troves := ⟨[(whale, ⟨30000.0, 10050200.0⟩), (1, ⟨10.0, 2210.0⟩)], by simp [whale]⟩
      balances := ⟨[(whale, 9500000.0), (1, 2000.0)], by simp [whale]⟩
      feePool := 50010.0
      gasPool := 400.0
      supply := 10052410.0 }), CalmOpening.accepted ?_⟩
  constructor <;>
    norm_num [inRecovery_iff, readings, advancePeriod, setPrice, quietLedger, quietOpened, Ledger.new, whale,
      Parameters.defaultTerms, Number.tolerance_real]

/-- At whatever price the opening of the whale is accepted, it leaves the same trove. -/
theorem quiet_opened_left {price : ℝ} {change : TroveChange ℝ} {left : Ledger ℝ}
    (opened : ((Ledger.new Parameters.defaultTerms 2000.0).setPrice price).openTrove whale 30000.0 10000000.0 =
      .ok (change, left)) : left = { quietOpened with price } := by
  have opening := openTrove_ok opened
  have calm : ¬ ((Ledger.new (Parameters.defaultTerms : Terms ℝ) 2000.0).setPrice price).InRecovery := new_calm _ _
  have fee : change.fee = 50000 := by
    rw [opening.fee_eq, if_neg calm]
    norm_num [readings, Ledger.new, setPrice, Parameters.defaultTerms]
  have debt : change.debt = 10050200 := by
    rw [opening.debt_eq, fee]
    norm_num [Ledger.new, setPrice, Parameters.defaultTerms]
  rw [opening.left_eq, debt, fee]
  norm_num [quietOpened, Ledger.new, setPrice, Parameters.defaultTerms]

/-- The run is made from the bundle without shocks, over any periods, seed and accounts, and
    has not been bootstrapped. -/
structure Fresh (accounts : Nat) (sim : Simulation ℝ) : Prop where
  parameters : ∃ periods seed, sim.parameters = { Parameters.quiet with periods, seed, accounts }
  unstarted : sim.phase = .bootstrapping
  market : sim.market = ⟨Ledger.new Parameters.defaultTerms 2000.0, Roster.ofSize accounts⟩

section Fresh
variable {accounts : Nat} {change : TroveChange ℝ} {opened : Ledger ℝ}

/-- Where the whale's trove opens, the rest of the bootstrap follows. -/
theorem Fresh.bootstrapped (fresh : sim.Fresh accounts)
    (opens : ((Ledger.new Parameters.defaultTerms 2000.0).setPrice (sim.priceIn 0)).openTrove whale 30000.0
      10000000.0 = .ok (change, opened)) : ∃ ratio, sim.bootstrap =
    (.ok (), { sim with
      market :=
        ⟨{ quietLedger with price := sim.priceIn 0 }, (Roster.ofSize accounts).activate whale ratio Number.infinity 0⟩
      state := openingState sim.parameters (quietLedger.supply - quietLedger.totalDeposits)
      phase := .running }) := by
  obtain ⟨periods, seed, parameters⟩ := fresh.parameters
  have left := quiet_opened_left opens
  have circulates : ¬ quietLedger.supply - quietLedger.totalDeposits ≤ 0 := by
    norm_num [quietLedger, quietOpened, totalDeposits, Book.values]
  have boots : (sim.market.ledger.setPrice (sim.collateralPrices[0]?.getD 0)).openTrove whale
      sim.parameters.bootstrap.whaleCollateral sim.parameters.bootstrap.whaleDebt =
        .ok (change, { quietOpened with price := sim.priceIn 0 }) := by
    rw [fresh.market, parameters, ← left]
    exact opens
  have seeds : (0 : ℝ) < sim.parameters.bootstrap.stabilityInitial := by
    rw [parameters]
    norm_num [Parameters.quiet, Parameters.default, Parameters.defaultBootstrap]
  have provides : { quietOpened with price := sim.priceIn 0 }.provide whale
      sim.parameters.bootstrap.stabilityInitial = .ok { quietLedger with price := sim.priceIn 0 } := by
    rw [parameters]
    exact quiet_provided _
  obtain ⟨ratio, booted⟩ := bootstrap_eq fresh.unstarted boots ((if_pos seeds).trans provides) circulates
  refine ⟨ratio, ?_⟩
  rw [booted, fresh.market]
  rfl

/-- A bootstrap that is accepted has opened the whale's trove. -/
theorem Fresh.opens (fresh : sim.Fresh accounts) (accepted : sim.bootstrap.1 = .ok ()) : ∃ change opened,
    ((Ledger.new Parameters.defaultTerms 2000.0).setPrice (sim.priceIn 0)).openTrove whale 30000.0 10000000.0 =
      .ok (change, opened) := by
  obtain ⟨periods, seed, parameters⟩ := fresh.parameters
  unfold bootstrap at accepted
  simp only [fresh.unstarted, fresh.market, parameters, ne_eq, not_true_eq_false, if_false] at accepted
  split at accepted
  · cases accepted
  · rename_i change opened done
    exact ⟨change, opened, done⟩

/-- The bootstrap leaves the run at rest, whatever the price that it was made at. -/
theorem Fresh.rests (fresh : sim.Fresh accounts) (accepted : sim.bootstrap.1 = .ok ()) : sim.bootstrap.2.Rests := by
  obtain ⟨change, opened, opens⟩ := fresh.opens accepted
  obtain ⟨ratio, booted⟩ := fresh.bootstrapped opens
  obtain ⟨periods, seed, parameters⟩ := fresh.parameters
  rw [booted]
  have numbered : (Roster.ofSize accounts : Roster ℝ).Numbered := Roster.ofSize_numbered accounts
  have demand : (openingState sim.parameters (quietLedger.supply - quietLedger.totalDeposits)).liquidityDemand =
      quietLedger.supply - quietLedger.totalDeposits :=
    openingState_demand
      (by norm_num [parameters, Parameters.quiet, Parameters.default, Parameters.defaultBootstrap]) _
  constructor
  case calm =>
    rw [parameters]
    exact { Parameters.quiet_calm with }
  case par => norm_num [openingState, parameters, Parameters.quiet, Parameters.default, Parameters.defaultBootstrap]
  case alone => exact activeBorrowers_whale accounts _ _ _
  case numbered => exact numbered.activate whale ratio Number.infinity 0
  case single => exact le_refl 1
  case pool => norm_num [quietLedger, totalDeposits, Book.values, Number.tolerance_real]
  case circulates =>
    rw [demand]
    norm_num [quietLedger, quietOpened, totalDeposits, Book.values, Number.tolerance_real]
  case cleared => exact demand.symm
  case covered =>
    norm_num [openingState, MarketState.initial, parameters, Parameters.quiet, Parameters.default,
      Parameters.defaultBootstrap]

end Fresh

/-- The run is replayed and has not been bootstrapped. -/
structure Replayed (sim : Simulation ℝ) : Prop where
  quiet : sim.parameters = Parameters.quiet
  unstarted : sim.phase = .bootstrapping
  first : sim.nextPeriod = 1
  periods : sim.periods = 2
  prices : sim.collateralPrices = steadyPrices
  market : sim.market = ⟨Ledger.new Parameters.defaultTerms 2000.0, Roster.ofSize 200⟩

theorem replay_quiet {drawn : Simulation ℝ} (made : Simulation.new Parameters.quiet = .ok drawn) :
    ∃ sim, drawn.withPrices steadyPrices = .ok sim ∧ sim.Replayed := by
  obtain ⟨_, same, unstarted, _, market⟩ := new_ok made
  have positive : steadyPrices.find? (fun price => ¬ (0 < price ∧ Number.isFinite price)) = none := by
    norm_num [steadyPrices, Number.isFinite_real]
  refine ⟨_, withPrices_of_positive unstarted (by decide : 2 ≤ 3) positive, ?_⟩
  exact ⟨same, unstarted, (new_path made).2.2.2, by rw [same]; rfl, rfl, market⟩

theorem exists_replayed : ∃ sim, Starts Parameters.quiet sim ∧ sim.Replayed := by
  obtain ⟨drawn, made⟩ := new_of_valid quiet_valid
  obtain ⟨sim, replays, replayed⟩ := replay_quiet made
  exact ⟨sim, .inr ⟨drawn, steadyPrices, made, replays⟩, replayed⟩

theorem Replayed.fresh (replayed : sim.Replayed) : sim.Fresh 200 where
  parameters := ⟨_, _, replayed.quiet⟩
  unstarted := replayed.unstarted
  market := replayed.market

theorem quiet_bootstrapped (replayed : sim.Replayed) : ∃ ratio, sim.bootstrap =
    (.ok (), { sim with
      market := ⟨quietLedger, (Roster.ofSize 200).activate whale ratio Number.infinity 0⟩
      state := openingState Parameters.quiet (quietLedger.supply - quietLedger.totalDeposits)
      phase := .running }) := by
  have price : sim.priceIn 0 = 2000.0 := by
    rw [priceIn, replayed.prices]
    rfl
  obtain ⟨change, opened⟩ := quiet_opened 0.005
  rw [← replayed.quiet]
  have boots := replayed.fresh.bootstrapped (price.symm ▸ opened)
  rw [price] at boots
  exact boots

/-- The bootstrap of the bundle without shocks leaves the run at rest. -/
theorem quiet_rests (replayed : sim.Replayed) : sim.bootstrap.2.Rests := by
  obtain ⟨ratio, booted⟩ := quiet_bootstrapped replayed
  exact replayed.fresh.rests (by rw [booted])

/-- A run that goes on seeds an account that is not active if the ledger accepts its
    trove. -/
theorem seedTrove_ok {account : AccountId} {collateral netDebt targetCr inattention : ℝ}
    {done : TroveChange ℝ × Ledger ℝ} (running : sim.phase = .running) (inactive : ¬ sim.market.roster.IsActive account)
    (known : account < sim.market.roster.size)
    (opened : sim.market.ledger.openTrove account collateral netDebt = .ok done) :
    (sim.seedTrove account collateral netDebt targetCr inattention).1 = .ok () := by
  have found : ¬ (sim.market.roster.get? account).isNone = true := by
    simpa [Roster.get?, Roster.size] using known
  unfold seedTrove
  simp only [running, ne_eq, not_true_eq_false, if_false, inactive, found, opened]
  rfl

/-- After its bootstrap the run gives a row for the first period and goes on. -/
theorem quiet_stepped {ε : Type} (replayed : sim.Replayed) (sound : sim.bootstrap.2.market.Sound size)
    (failed : RunError ℝ → ε) {append : Row ℝ → Except ε Unit} (takes : ∀ row, append row = .ok ()) :
    (∃ row, (sim.bootstrap.2.stepInto failed append).1 = .ok (some row)) ∧
      (sim.bootstrap.2.stepInto failed append).2.phase = .running ∧
      (sim.bootstrap.2.stepInto failed append).2.Rests ∧
      ∃ ledger, GainsApart (quietLedger.setPrice 2000.0) ledger ∧
        (sim.bootstrap.2.stepInto failed append).2.market = ⟨ledger.advancePeriod, sim.bootstrap.2.market.roster⟩ := by
  obtain ⟨ratio, booted⟩ := quiet_bootstrapped replayed
  have rests := quiet_rests replayed
  have running : sim.bootstrap.2.phase = .running := by rw [booted]
  have period : sim.bootstrap.2.nextPeriod = 1 := by rw [booted, replayed.first]
  have remains : sim.bootstrap.2.nextPeriod < sim.bootstrap.2.periods := by
    rw [period, booted, replayed.periods]
    decide
  have stepped := stepInto_stepped failed append sim.bootstrap.2
  obtain ⟨given, on, ledger, gains, market⟩ := stepped.running rests sound running remains takes
  have resting : Resting size sim.bootstrap.2.state.totals sim.bootstrap.2 := ⟨rests, sound, by simp [running], rfl⟩
  have passing := resting_passing size sim.bootstrap.2.state.totals
  have kept := (stepped.passing passing (passing.settled resting)).1.rests
  have opened : sim.bootstrap.2.market.ledger = quietLedger := by rw [booted]
  have price : sim.bootstrap.2.priceIn 1 = 2000.0 := by
    rw [booted]
    simp only [priceIn, replayed.prices]
    rfl
  rw [period, price, opened] at gains
  exact ⟨given, on, kept, ledger, gains, market⟩

/-- A borrower can join the whale after the first period. -/
theorem quiet_joined (replayed : sim.Replayed) (sound : sim.bootstrap.2.market.Sound size) :
    (((sim.perform .bootstrap).perform (.step fun _ => true)).seedTrove 1 10.0 2000.0 2.0 0.3).1 = .ok () := by
  obtain ⟨ratio, booted⟩ := quiet_bootstrapped replayed
  obtain ⟨_, on, _, ledger, gains, market⟩ := quiet_stepped replayed sound some fun _ => rfl
  obtain ⟨done, opened⟩ := quiet_seeded gains
  have roster : sim.bootstrap.2.market.roster = (Roster.ofSize 200).activate whale ratio Number.infinity 0 := by
    rw [booted]
  have idle : (Roster.ofSize 200 : Roster ℝ).idle.Has whale := by decide
  have inactive : ¬ sim.bootstrap.2.market.roster.IsActive 1 := by
    rw [roster, Roster.isActive_activate (Roster.ofSize_division 200) idle]
    rintro (whale | active)
    · cases whale
    · exact Roster.not_isActive_ofSize 200 1 active
  have known : 1 < sim.bootstrap.2.market.roster.size := by
    rw [roster, Roster.size_activate, Roster.size_ofSize]
    decide
  have after : ((sim.perform .bootstrap).perform (.step fun _ => true)).market =
      ⟨ledger.advancePeriod, sim.bootstrap.2.market.roster⟩ := market
  refine @seedTrove_ok _ _ _ _ _ _ done on ?_ ?_ ?_
  · rwa [after]
  · rwa [after]
  · rwa [after]

end Stablecoin.Simulation
