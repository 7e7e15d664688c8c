import Stablecoin.Proofs.Run.Records

/-!
The trailing windows of a period. The return of the stability pool looks back over the
gains before the period, and the earnings of the reward token over the fees up to the
period itself. Both windows are as wide as the period is old, up to the configured width,
and end exactly where their series end at the time of reading, so neither is moved or cut
(`Windows`). From one period to the next a window of full width takes in one period and
gives up one (`periodsBefore_succ`). Over exact numbers nothing is divided by zero there
(`run_windows`). A pool of no more than the tolerance has no such return: it counts as
empty, although something is deposited (`dusty_return`).
-/
namespace Stablecoin
open Simulation
open Number (tolerance tolerance_pos)
variable {α : Type} [Number α]

theorem mem_periodsBefore {stop width period : Nat} (fits : width ≤ stop) :
    period ∈ periodsBefore stop width ↔ stop ≤ period + width ∧ period < stop := by
  rw [periodsBefore, List.mem_range'_1]
  omega

theorem periodsBefore_nodup (stop width : Nat) : (periodsBefore stop width).Nodup := List.nodup_range'

/-- As the end moves on by one, one period leaves the window and one enters it. -/
theorem periodsBefore_succ {stop width : Nat} (some : 0 < width) (fits : width ≤ stop) :
    ∃ kept, periodsBefore stop width = (stop - width) :: kept ∧ periodsBefore (stop + 1) width = kept ++ [stop] := by
  obtain ⟨rest, rfl⟩ := Nat.exists_eq_add_of_lt some
  have first : stop - (0 + rest + 1) + 1 = stop - rest := by omega
  have last : stop - rest + 1 * rest = stop := by omega
  refine ⟨periodsBefore stop rest, ?_, ?_⟩
  · rw [periodsBefore, List.range'_succ, first, Nat.zero_add, periodsBefore]
  · rw [periodsBefore, List.range'_concat, Nat.zero_add, Nat.add_sub_add_right, last, periodsBefore]

namespace Simulation
variable {parameters : Parameters α} {sim mid : Simulation α} {past : List (Steps α)} {count : Nat}

/-- What the periods of a window gave, summed up. -/
def windowTotal (past : List (Steps α)) (read : Steps α → α) (stop width : Nat) : α :=
  Number.sum ((periodsBefore stop width).map (ofPeriod (past.map read)))

/-- The width of the windows of a period. -/
def windowWidth (sim : Simulation α) (period : Nat) : Nat := min period sim.parameters.stability.returnWindow

/-- The deposits that the return of a period is worked out on. -/
def returnPool (sim : Simulation α) (period : Nat) : α :=
  (liquidate (sim.context period (sim.priceIn period))
    ⟨sim.market.ledger.setPrice (sim.priceIn period), sim.market.roster⟩ sim.state).1.ledger.totalDeposits

/-- The yearly return of the pool on the gains of the window before a period. -/
def windowReturn (sim : Simulation α) (past : List (Steps α)) (period : Nat) : α :=
  let width := sim.windowWidth period
  let gains := windowTotal past (·.liquidated.liquidationGain) period width +
    windowTotal past (·.liquidated.airdropGain) period width
  sim.parameters.periodsPerYear / (width : α) * gains / (sim.state.stablePrice * sim.returnPool period)

/-- The yearly earnings on the fees of the window that ends with a period. -/
def windowEarnings (sim : Simulation α) (past : List (Steps α)) (period : Nat) : α :=
  let width := sim.windowWidth period
  let fees := windowTotal past (·.issuanceFee) (period + 1) width +
    windowTotal past (·.peg.redemptionFee) (period + 1) width
  fees / (width : α) * sim.parameters.periodsPerYear

theorem work_return (sim : Simulation α) (period : Nat) : (sim.work period).2.liquidated.stabilityReturn =
    stabilityReturn sim.parameters sim.state period (sim.returnPool period) sim.state.stablePrice := by
  unfold work
  rfl

theorem rewards_earnings (sim : Simulation α) (period : Nat) : (sim.rewards period).annualizedEarnings =
    ((sim.work period).2.carry period sim.state).trailingRevenue (period + 1)
        (min (max period 1) sim.parameters.stability.returnWindow) /
      ((min (max period 1) sim.parameters.stability.returnWindow : Nat) : α) * sim.parameters.periodsPerYear := rfl

theorem trailingGains_eq {state : MarketState α} (records : state.Records past) {stop width : Nat} (fits : width ≤ stop)
    (reached : stop ≤ past.length + 1) : state.trailingGains stop width =
    windowTotal past (·.liquidated.liquidationGain) stop width +
      windowTotal past (·.liquidated.airdropGain) stop width := by
  rw [MarketState.trailingGains, windowSum_eq records.liquidationGain fits (by rwa [List.length_map]),
    windowSum_eq records.airdropGain fits (by rwa [List.length_map])]
  rfl

theorem trailingRevenue_eq {state : MarketState α} (records : state.Records past) {stop width : Nat}
    (fits : width ≤ stop) (reached : stop ≤ past.length + 1) : state.trailingRevenue stop width =
    windowTotal past (·.issuanceFee) stop width + windowTotal past (·.peg.redemptionFee) stop width := by
  rw [MarketState.trailingRevenue, windowSum_eq records.issuanceFee fits (by rwa [List.length_map]),
    windowSum_eq records.redemptionFee fits (by rwa [List.length_map])]
  rfl

/-- What the windows of the next period of a run read, of which the periods so far have
    reported the past. -/
structure Windows (sim : Simulation α) (past : List (Steps α)) : Prop where
  /-- Every period before this one is told. -/
  told : past.length + 1 = sim.nextPeriod
  width_pos : 0 < sim.windowWidth sim.nextPeriod
  /-- The return is that of the gains of the window before the period. -/
  stabilityReturn : 1 < sim.nextPeriod →
    ¬ sim.returnPool sim.nextPeriod ≤ tolerance → ¬ sim.state.stablePrice ≤ 0 →
      (sim.work sim.nextPeriod).2.liquidated.stabilityReturn = sim.windowReturn past sim.nextPeriod
  /-- The earnings are those on the fees of the window that ends with the period. -/
  earnings : (sim.rewards sim.nextPeriod).annualizedEarnings =
    sim.windowEarnings (past ++ [(sim.work sim.nextPeriod).2]) sim.nextPeriod
  /-- Neither window reaches past the end of a series, or starts before it. -/
  gainsEnd : ∀ series ∈ sim.state.series, series.size = sim.nextPeriod
  feesEnd : ∀ series ∈ (sim.carried sim.nextPeriod).state.series, series.size = sim.nextPeriod + 1
  /-- A window holds its periods, each of them once. -/
  once : ∀ stop, stop = sim.nextPeriod ∨ stop = sim.nextPeriod + 1 →
    (periodsBefore stop (sim.windowWidth sim.nextPeriod)).Nodup ∧
      ∀ period, period ∈ periodsBefore stop (sim.windowWidth sim.nextPeriod) ↔
        stop ≤ period + sim.windowWidth sim.nextPeriod ∧ period < stop
  /-- From a period of full width to the next each window takes in one period and gives up one. -/
  moves : sim.parameters.stability.returnWindow ≤ sim.nextPeriod →
    ∀ stop, stop = sim.nextPeriod ∨ stop = sim.nextPeriod + 1 →
      ∃ kept, periodsBefore stop (sim.windowWidth sim.nextPeriod) = (stop - sim.windowWidth sim.nextPeriod) :: kept ∧
        periodsBefore (stop + 1) (sim.windowWidth (sim.nextPeriod + 1)) = kept ++ [stop]

theorem Counts.windows (counts : sim.Counts count) (started : sim.phase ≠ .bootstrapping)
    (records : sim.state.Records past) (valid : sim.parameters.Valid) : sim.Windows past := by
  have told := counts.past_length started records
  have spans := counts.series started
  have begun : 0 < sim.nextPeriod := told ▸ Nat.succ_pos _
  have wide : 0 < sim.windowWidth sim.nextPeriod := lt_min begun (Nat.pos_of_ne_zero valid.returnWindow)
  have fits : sim.windowWidth sim.nextPeriod ≤ sim.nextPeriod := min_le_left _ _
  have within {stop : Nat} (read : stop = sim.nextPeriod ∨ stop = sim.nextPeriod + 1) :
      sim.windowWidth sim.nextPeriod ≤ stop := by omega
  constructor
  case told => exact told
  case width_pos => exact wide
  case stabilityReturn =>
    intro later deposited priced
    have gains := trailingGains_eq records fits told.ge
    rw [work_return, Stablecoin.stabilityReturn, if_neg (not_le.mpr later), if_neg (not_or.mpr ⟨deposited, priced⟩),
      ← windowWidth]
    dsimp only
    rw [gains, windowReturn]
  case earnings =>
    have fees := trailingRevenue_eq (records.carry (sim.work sim.nextPeriod).2 sim.nextPeriod)
      (fits.trans (Nat.le_succ _)) (by rw [List.length_append, List.length_singleton, told])
    rw [rewards_earnings, max_eq_left begun, ← windowWidth, fees]
    rfl
  case gainsEnd =>
    intro series member
    rw [(spans series member).1, counts.next]
  case feesEnd =>
    intro series member
    have carried := Steps.carry_spans spans (sim.work sim.nextPeriod).2 sim.nextPeriod
    rw [(carried series member).1, counts.next]
  case once => exact fun stop read => ⟨periodsBefore_nodup _ _, fun _ => mem_periodsBefore (within read)⟩
  case moves =>
    intro full stop read
    have same : sim.windowWidth (sim.nextPeriod + 1) = sim.windowWidth sim.nextPeriod := by
      rw [windowWidth, windowWidth, min_eq_right full, min_eq_right (full.trans (Nat.le_succ _))]
    rw [same]
    exact periodsBefore_succ wide (within read)

/-- Over exact numbers the windows of the next period divide by nothing that is zero. -/
structure Divides (sim : Simulation ℝ) (past : List (Steps ℝ)) : Prop where
  price : 0 < sim.state.stablePrice
  width : (sim.windowWidth sim.nextPeriod : ℝ) ≠ 0
  pool : tolerance < sim.returnPool sim.nextPeriod → sim.state.stablePrice * sim.returnPool sim.nextPeriod ≠ 0
  stabilityReturn : 1 < sim.nextPeriod → tolerance < sim.returnPool sim.nextPeriod →
    (sim.work sim.nextPeriod).2.liquidated.stabilityReturn = sim.windowReturn past sim.nextPeriod

/-- The stablecoin has a price from the bootstrap on. -/
theorem price_lasting {parameters : Parameters ℝ} (valid : parameters.Valid) :
    Lasting parameters fun _ state => 0 < state.stablePrice where
  opening _ := not_le.mp valid.initialStablePrice
  seeded _ _ _ priced := priced
  carried _ _ _ _ _ priced _ := priced

theorem Windows.divides {sim : Simulation ℝ} {past : List (Steps ℝ)} (windows : sim.Windows past)
    (priced : 0 < sim.state.stablePrice) : sim.Divides past where
  price := priced
  width := Nat.cast_ne_zero.mpr windows.width_pos.ne'
  pool deposited := mul_ne_zero priced.ne' (tolerance_pos.trans deposited).ne'
  stabilityReturn later deposited := windows.stabilityReturn later (not_le.mpr deposited) (not_le.mpr priced)

/-- In every period of a run of which no step has failed, the two windows read the periods
    that they are about, each once, and divide by their width. Over exact numbers the return
    of a pool above the tolerance divides by nothing that is zero. -/
theorem run_windows :
    (∀ (α : Type) [Number α] (parameters : Parameters α) (sim : Simulation α), Starts parameters sim →
      ∀ calls, sim.Along Unfailing calls → ∀ mid, (sim.after calls).ready = (.ok (), mid) →
        mid.Windows (sim.works calls)) ∧
      ∀ (parameters : Parameters ℝ) (sim : Simulation ℝ), Starts parameters sim →
        ∀ calls, sim.Along Unfailing calls → ∀ mid, (sim.after calls).ready = (.ok (), mid) →
          mid.Divides (sim.works calls) := by
  have reads {α : Type} [Number α] {parameters : Parameters α} {sim mid : Simulation α}
      (starts : Starts parameters sim) {calls : List (Call α)} (unfailing : sim.Along Unfailing calls)
      (booted : (sim.after calls).ready = (.ok (), mid)) : mid.Windows (sim.works calls) := by
    obtain ⟨recounted, started⟩ := after_recounted (records_lasting parameters) starts unfailing booted
    obtain ⟨_, counts⟩ := recounted.counts
    exact counts.windows started (recounted.state started) (recounted.parameters_eq ▸ starts.parameters_eq.2)
  refine ⟨fun α _ parameters sim starts calls unfailing mid booted => reads starts unfailing booted,
    fun parameters sim starts calls unfailing mid booted => ?_⟩
  obtain ⟨priced, started⟩ := after_recounted (price_lasting starts.parameters_eq.2) starts unfailing booted
  exact (reads starts unfailing booted).divides (priced.state started)

/-! ### The second period without shocks -/

section Quiet
open Ledger
variable {sim : Simulation ℝ} {size : Nat}

/-- The bootstrap and a first period. -/
noncomputable def openingCalls : List (Call ℝ) := [.bootstrap, .step fun _ => true]

/-- With nobody but the whale in debt nothing is taken from the pool before its return is
    worked out. -/
theorem returnPool_alone (few : sim.market.ledger.troves.size ≤ 1) (period : Nat) :
    sim.returnPool period = sim.market.ledger.totalDeposits := by
  obtain ⟨_, _, _, same⟩ := (@Market.liquidate_resting
    ⟨sim.market.ledger.setPrice (sim.priceIn period), sim.market.roster⟩ (sim.context period (sim.priceIn period)) few
    sim.state).1
  rw [returnPool, same]
  rfl

/-- A period at rest leaves the troves and the pool as they are. -/
theorem Passes.kept {price : ℝ} {left : Simulation ℝ} (passes : sim.Passes price left) :
    left.market.ledger.troves = sim.market.ledger.troves ∧
      left.market.ledger.totalDeposits = sim.market.ledger.totalDeposits := by
  obtain ⟨_, ⟨_, _, _, rfl⟩, market⟩ := passes.market
  rw [market]
  exact ⟨rfl, rfl⟩

/-- After the bundle without shocks has passed one period, the windows of the second read
    both periods so far, and the return of the pool is the one of the window. -/
theorem quiet_windows : ∃ sim mid : Simulation ℝ, Starts Parameters.quiet sim ∧ sim.Along Unfailing openingCalls ∧
    (sim.after openingCalls).ready = (.ok (), mid) ∧ mid.Remains ∧ mid.nextPeriod = 2 ∧
      tolerance < mid.returnPool 2 ∧ mid.Windows (sim.works openingCalls) ∧
      (mid.work 2).2.liquidated.stabilityReturn = mid.windowReturn (sim.works openingCalls) 2 := by
  obtain ⟨sim, starts, replayed⟩ := exists_replayed
  have sound := bootstrap_sound (starts.sound defaultTerms_conventional)
  obtain ⟨ratio, booted⟩ := quiet_bootstrapped replayed
  obtain ⟨⟨row, given⟩, running, rests, -⟩ := quiet_stepped replayed sound some fun _ => rfl
  have accepted : sim.Along Accepted openingCalls :=
    ⟨by rw [Accepted, booted], ⟨fun _ => rfl, _, given⟩, trivial⟩
  have unfailing : sim.Along Unfailing openingCalls := ⟨trivial, ⟨_, given⟩, trivial⟩
  have counts := after_counts starts.counts.1 accepted
  have periods : (sim.after openingCalls).periods = 2 :=
    (congrArg Horizon.periods (after_horizon accepted)).trans replayed.periods
  have second : (sim.after openingCalls).nextPeriod = 2 := by
    rw [counts.next, periods]
    rfl
  have ready : (sim.after openingCalls).ready = (.ok (), sim.after openingCalls) :=
    ready_of_started (by rw [show (sim.after openingCalls).phase = .running from running]; exact Phase.noConfusion)
  have remains : (sim.after openingCalls).Remains := by
    refine ⟨?_, by rw [second, periods]⟩
    rw [show (sim.after openingCalls).phase = .running from running]
    exact Phase.noConfusion
  have rested : (sim.after openingCalls).Rests := rests
  have deposited : tolerance < (sim.after openingCalls).returnPool 2 := by
    rw [returnPool_alone rested.single]
    exact rested.pool
  have windows := run_windows.1 ℝ Parameters.quiet sim starts openingCalls unfailing _ ready
  have divides := run_windows.2 Parameters.quiet sim starts openingCalls unfailing _ ready
  refine ⟨sim, _, starts, unfailing, ready, remains, second, deposited, windows, ?_⟩
  have read := divides.stabilityReturn
  rw [second] at read
  exact read one_lt_two deposited

end Quiet

/-! ### A pool of next to nothing -/

section Dusty
open Ledger
variable {sim : Simulation ℝ} {size : Nat}

/-- The whale seeds the pool with less than the tolerance, and no return makes anybody
    deposit more. -/
noncomputable def dusty : Parameters ℝ :=
  { Parameters.quiet with
    periods := 2
    bootstrap := { Parameters.quiet.bootstrap with stabilityInitial := 1e-10 }
    stability := { Parameters.quiet.stability with naturalRateInitial := 1.0 } }

theorem dusty_valid : dusty.Valid :=
  { quiet_valid with
    stabilityInitial := by norm_num [dusty, Parameters.quiet, Parameters.default, Parameters.defaultBootstrap] }

/-- The run before its first period. -/
structure Dusty (sim : Simulation ℝ) : Prop where
  parameters : sim.parameters = dusty
  running : sim.phase = .running
  next : sim.nextPeriod = 1
  periods : sim.periods = 2
  few : sim.market.ledger.troves.size ≤ 1
  alone : sim.market.roster.activeBorrowers = []
  numbered : sim.market.roster.Numbered
  pool : sim.market.ledger.totalDeposits = 1e-10
  circulates : tolerance ≤ sim.state.liquidityDemand
  cleared : sim.market.ledger.supply - sim.market.ledger.totalDeposits = sim.state.liquidityDemand
  covered : sim.state.totalCollateralLiquidated ≤ sim.state.totalCollateralAdded
  naturalRate : sim.naturalRates[1]? = some (1.0 : ℝ)

theorem Dusty.worked (dusts : sim.Dusty) (sound : sim.market.Sound size) :
    GainsApart (sim.market.ledger.setPrice (sim.priceIn 1)) (sim.work 1).1.ledger ∧
      (sim.work 1).1.roster = sim.market.roster ∧ Steps.Idle sim.state.liquidityDemand (sim.work 1).2 := by
  have calm : sim.parameters.Calm := by
    rw [dusts.parameters]
    exact { Parameters.quiet_calm with }
  have rate : (sim.context 1 (sim.priceIn 1)).naturalRate = 1.0 := congrArg (Option.getD · 0) dusts.naturalRate
  have initial : sim.parameters.stability.initialReturn = 0.2 := by
    rw [dusts.parameters]
    rfl
  obtain ⟨ledger, rewarded, funded, deposits, left, peg, nobody⟩ :=
    sim.work_alone dusts.few dusts.alone calm.initialOpen
  have filled : ledger.totalDeposits = 1e-10 := by
    obtain ⟨_, _, _, rfl⟩ := rewarded
    exact dusts.pool
  have settled : poolTarget (sim.context 1 (sim.priceIn 1)) ledger.totalDeposits
      sim.parameters.stability.initialReturn = ledger.totalDeposits := by
    refine Market.poolTarget_unstarted calm (by rw [filled]; norm_num) fun started => ?_
    have attractive := started.2
    rw [rate, initial] at attractive
    norm_num at attractive
  have claimed := @Market.updateDeposits_settled (sim.context 1 (sim.priceIn 1)) ⟨ledger, sim.market.roster⟩ _ settled
  rw [← deposits] at claimed
  have gains : GainsApart (sim.market.ledger.setPrice (sim.priceIn 1)) funded := rewarded.trans claimed
  have par : stabilizePrice (sim.context 1 (sim.priceIn 1)) ⟨funded, sim.market.roster⟩ sim.state.liquidityDemand =
      (⟨funded, sim.market.roster⟩, Market.parOutcome sim.state.liquidityDemand) := by
    obtain ⟨_, _, _, same⟩ := gains
    rw [same]
    exact Market.stabilizePrice_par calm sound.wellFormed.secured.borrowingRate_nonneg
      sound.wellFormed.redemptionRate_nonneg dusts.circulates dusts.cleared
  rw [par] at left peg
  rw [left]
  exact ⟨gains, rfl, nobody, peg⟩

theorem Dusty.advanced (dusts : sim.Dusty) (sound : sim.market.Sound size) :
    (∃ row, (sim.advance 1).1 = .ok row) ∧ sim.Passes (sim.priceIn 1) (sim.advance 1).2 := by
  rw [advance_eq]
  obtain ⟨gains, roster, idle⟩ := dusts.worked sound
  generalize sim.work 1 = done at gains roster idle ⊢
  obtain ⟨⟨left, _⟩, steps⟩ := done
  obtain rfl : _ = sim.market.roster := roster
  exact conclude_resting gains idle dusts.covered (sound.division.isPartitioned dusts.numbered)

/-- Nothing is liquidated in the period, and no rewards are handed out for next to nothing. -/
theorem Dusty.gains (dusts : sim.Dusty) : (sim.work 1).2.liquidated.liquidationGain = 0 ∧
    (sim.work 1).2.liquidated.airdropGain = 0 := by
  have dust : (sim.market.ledger.setPrice (sim.priceIn 1)).totalDeposits ≤ tolerance := by
    refine (show _ = (1e-10 : ℝ) from dusts.pool).trans_le ?_
    norm_num [Number.tolerance_real]
  have nobody := @Market.liquidateBatches_resting ⟨sim.market.ledger.setPrice (sim.priceIn 1), sim.market.roster⟩
    (sim.context 1 (sim.priceIn 1)) dusts.few
  unfold work
  rw [runSteps_liquidated]
  unfold liquidate
  simp [nobody, issueRewards, dust]

theorem dusty_bootstrapped (made : Simulation.new dusty = .ok sim) : sim.bootstrap.2.Dusty := by
  obtain ⟨_, parameters, -⟩ := new_ok made
  obtain ⟨periods, _, _, next⟩ := new_path made
  obtain ⟨_, rate⟩ := new_still made (by norm_num [dusty, Parameters.quiet]) (by norm_num [dusty, Parameters.quiet])
    (by norm_num [dusty, Parameters.quiet]) (by norm_num [dusty]) (show 1 ≤ dusty.periods by decide)
  obtain ⟨change, opened⟩ := quiet_opened 0.005
  have held : quietOpened.balance whale = 10000000.0 := by
    norm_num [balance, quietOpened, Book.get?, Book.lookup_entry]
  have unseeded : quietOpened.totalDeposits = 0 := by
    norm_num [totalDeposits_eq, quietOpened, Ledger.new]
  have opens : ((Ledger.new dusty.terms dusty.collateral.initial).setPrice dusty.collateral.initial).openTrove whale
      dusty.bootstrap.whaleCollateral dusty.bootstrap.whaleDebt = .ok (change, quietOpened) := opened
  have seeds : dusty.bootstrap.stabilityInitial = 1e-10 := rfl
  obtain ⟨ratio, funded, gains, pool, booted⟩ := bootstrap_seeded made opens unseeded seeds (by norm_num)
    (by rw [held]; norm_num) (by norm_num [quietOpened])
  have readings : funded.supply = 10050200.0 ∧ funded.troves.size ≤ 1 := by
    obtain ⟨_, _, _, rfl⟩ := gains
    exact ⟨rfl, le_refl 1⟩
  obtain ⟨supply, few⟩ := readings
  have demand : (openingState dusty (funded.supply - 1e-10)).liquidityDemand = funded.supply - 1e-10 :=
    openingState_demand (by norm_num [dusty, Parameters.quiet, Parameters.default, Parameters.defaultBootstrap]) _
  rw [booted]
  constructor
  case parameters => exact parameters
  case running => rfl
  case next => exact next
  case periods => exact periods
  case few => exact few
  case alone => exact activeBorrowers_whale dusty.accounts ratio Number.infinity 0
  case numbered => exact (Roster.ofSize_numbered dusty.accounts).activate whale ratio Number.infinity 0
  case pool => exact pool
  case circulates =>
    rw [demand, supply]
    norm_num [Number.tolerance_real]
  case cleared =>
    rw [demand]
    exact congrArg (funded.supply - ·) pool
  case covered =>
    norm_num [openingState, MarketState.initial, dusty, Parameters.quiet, Parameters.default,
      Parameters.defaultBootstrap]
  case naturalRate => exact rate

theorem Dusty.stepped (dusts : sim.Dusty) (sound : sim.market.Sound size) : ∃ row,
    sim.stepInto some (table fun _ => true) = (.ok (some row), (sim.advance 1).2.moveOn 1) := by
  obtain ⟨⟨row, passed⟩, -⟩ := dusts.advanced sound
  have ready : sim.ready = (.ok (), sim) := ready_of_started (by simp [dusts.running])
  have remains : sim.Remains := ⟨by simp [dusts.running], by rw [dusts.next, dusts.periods]; decide⟩
  have advanced : sim.advance sim.nextPeriod = (.ok row, (sim.advance 1).2) := by
    rw [dusts.next, ← passed]
  refine ⟨row, ?_⟩
  rw [stepInto_of_passes ready remains advanced rfl, dusts.next]

/-- The run after the period has one more to execute, and still next to nothing in the pool. -/
theorem Dusty.onward {price : ℝ} {left : Simulation ℝ} (dusts : sim.Dusty) (passes : sim.Passes price left) :
    (left.moveOn 1).parameters = dusty ∧ (left.moveOn 1).phase = .running ∧ (left.moveOn 1).Remains ∧
      (left.moveOn 1).returnPool 2 = 1e-10 := by
  have parameters : left.parameters = dusty := (congrArg Prod.fst passes.settings).trans dusts.parameters
  have periods : left.periods = 2 := (congrArg (fun settings => settings.2.1) passes.settings).trans dusts.periods
  have running : (left.moveOn 1).phase = .running := by
    rw [moveOn, periods, if_neg (by decide)]
    exact passes.phase.trans dusts.running
  obtain ⟨troves, deposits⟩ := passes.kept
  have few : left.market.ledger.troves.size ≤ 1 := troves ▸ dusts.few
  exact ⟨parameters, running, ⟨by simp [running], periods.ge⟩,
    (returnPool_alone few 2).trans (deposits.trans dusts.pool)⟩

/-- A pool within the tolerance has twice the initial return after the first period. -/
theorem dusty_doubled (parameters : sim.parameters = dusty) (pool : sim.returnPool 2 = 1e-10) :
    (sim.work 2).2.liquidated.stabilityReturn = 0.4 := by
  have dust : (1e-10 : ℝ) ≤ tolerance := by norm_num [Number.tolerance_real]
  rw [work_return, stabilityReturn, if_neg (by decide), pool, if_pos (.inl dust), parameters]
  norm_num [dusty, Parameters.quiet, Parameters.default, Parameters.defaultStability]

theorem windowTotal_zero {steps : Steps ℝ} {read : Steps ℝ → ℝ} (nothing : read steps = 0) (stop width : Nat) :
    windowTotal [steps] read stop width = 0 := by
  have each : ofPeriod [(0 : ℝ)] = fun _ => 0 := by
    funext period
    rcases period with _ | _ | _ <;> rfl
  simp [windowTotal, nothing, each]

/-- In the second period the pool is not empty, and yet it has another return than the one of
    its window. -/
theorem dusty_return : ∃ sim mid : Simulation ℝ, Starts dusty sim ∧ sim.Along Unfailing openingCalls ∧
    (sim.after openingCalls).ready = (.ok (), mid) ∧ mid.Remains ∧ mid.nextPeriod = 2 ∧ 0 < mid.returnPool 2 ∧
      (mid.work 2).2.liquidated.stabilityReturn = 0.4 ∧ mid.windowReturn (sim.works openingCalls) 2 = 0 := by
  obtain ⟨sim, made⟩ := new_of_valid dusty_valid
  have dusts := dusty_bootstrapped made
  have starts : Starts dusty sim := .inl made
  have sound := bootstrap_sound (starts.sound defaultTerms_conventional)
  obtain ⟨row, stepped⟩ := dusts.stepped sound
  obtain ⟨parameters, running, remains, pool⟩ := dusts.onward (dusts.advanced sound).2
  have unfailing : sim.Along Unfailing openingCalls := ⟨trivial, ⟨_, congrArg Prod.fst stepped⟩, trivial⟩
  have after : sim.after openingCalls = (sim.bootstrap.2.advance 1).2.moveOn 1 := by
    change (sim.bootstrap.2.stepInto some (table fun _ => true)).2 = _
    rw [stepped]
  have told : sim.works openingCalls = [(sim.bootstrap.2.work 1).2] := by
    have ready : sim.bootstrap.2.ready = (.ok (), sim.bootstrap.2) := ready_of_started (by simp [dusts.running])
    change [] ++ (sim.bootstrap.2.worksIn (fun _ => true) 1 ++ []) = _
    rw [worksIn, stepped, ready, dusts.next]
    rfl
  refine ⟨sim, _, starts, unfailing, ?_, remains, rfl, by rw [pool]; norm_num, dusty_doubled parameters pool, ?_⟩
  · rw [after]
    exact ready_of_started (by simp [running])
  · obtain ⟨liquidations, airdrops⟩ := dusts.gains
    rw [told, windowReturn, windowTotal_zero liquidations, windowTotal_zero airdrops, add_zero, mul_zero, zero_div]

end Dusty

end Simulation
end Stablecoin
