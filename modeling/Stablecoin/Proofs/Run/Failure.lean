import Stablecoin.Proofs.Run.Quiet

/-!
What a run does after a period that ended in an error. The error takes nothing back and
does not move the run on, so the next step executes the same period again, on the market
that the failed one left. Whether the run has come to its end there is decided by that
market alone: it has exactly if the price fails again and the steps of the period find
nothing more to do (`breaks_ends_iff`).
-/
namespace Stablecoin.Simulation
variable {α ε : Type} [Number α] {sim mid left : Simulation α}

/-- The call executes a period and answers with an error, of the run or of the table. -/
def Breaks (sim : Simulation α) : Call α → Prop
  | .step takes => sim.ready.1 = .ok () ∧ ∃ fault, (sim.stepInto some (table takes)).1 = .error fault
  | .run takes => sim.ready.1 = .ok () ∧ ∃ fault, (sim.runInto some (table takes)).2.1 = some fault
  | _ => False

/-- The runs have the same market, reports and carried state. -/
structure Untouched (sim left : Simulation α) : Prop where
  market : left.market = sim.market
  reports : left.reports = sim.reports
  state : left.state = sim.state

/-- The rows that a step or run gives. -/
def given (sim : Simulation α) : Call α → List (Row α)
  | .step takes => (sim.stepInto some (table takes)).1.toOption.join.toList
  | .run takes => (sim.runInto some (table takes)).1
  | _ => []

/-- A step or run of a run that has ended: it gives no row and changes nothing. -/
def Ends (sim : Simulation α) : Call α → Prop
  | .step takes => sim.given (.step takes) = [] ∧ sim.Untouched (sim.perform (.step takes))
  | .run takes => sim.given (.run takes) = [] ∧ sim.Untouched (sim.perform (.run takes))
  | _ => True

/-- The next period, executed once more, arrives at no price and finds nothing to do. -/
structure Stuck (sim : Simulation α) : Prop where
  unpriced : ¬ sim.IsPriced sim.nextPeriod
  still : (sim.work sim.nextPeriod).1 = sim.market

/-- A step or run that is stuck. -/
def Stalls (sim : Simulation α) : Call α → Prop
  | .step _ => sim.Stuck
  | .run _ => sim.Stuck
  | _ => True

/-- The next step executes a period. -/
structure Resumes (sim : Simulation α) : Prop where
  running : sim.phase = .running
  within : sim.nextPeriod ≤ sim.periods

theorem advance_resumes (remains : mid.Remains) (started : mid.phase ≠ .bootstrapping) {period : Nat}
    {answer : Except (RunError α) (Row α)} (advanced : mid.advance period = (answer, left)) : left.Resumes := by
  have phase : (mid.advance period).2.phase = mid.phase := advance_frame (fun _ _ _ => rfl) period
  have next : (mid.advance period).2.nextPeriod = mid.nextPeriod := advance_frame (fun _ _ _ => rfl) period
  have periods : (mid.advance period).2.periods = mid.periods := advance_frame (fun _ _ _ => rfl) period
  rw [advanced] at phase next periods
  refine ⟨?_, ?_⟩
  · cases same : mid.phase with
    | bootstrapping => exact absurd same started
    | running => exact phase.trans same
    | finished => exact absurd same remains.unfinished
  · rw [next, periods]
    exact remains.within

section Tables
variable {failed : RunError α → ε} {append : Row α → Except ε Unit}

theorem Stepped.resumes {fault : ε} (stepped : Stepped failed append sim (.error fault) left)
    (booted : sim.ready.1 = .ok ()) : left.Resumes := by
  cases stepped with
  | unready booting =>
    rw [booting] at booted
    cases booted
  | broken booted remains advanced => exact advance_resumes remains (ready_started booted) advanced
  | refused booted remains advanced refused => exact advance_resumes remains (ready_started booted) advanced

theorem stepsInto_resumes {count : Nat} (booted : sim.ready.1 = .ok ()) {fault : ε}
    (broke : (sim.stepsInto failed append count).2.1 = some fault) :
    (sim.stepsInto failed append count).2.2.Resumes := by
  induction count generalizing sim with
  | zero => cases broke
  | succ count ih =>
    have stepped := stepInto_stepped failed append sim
    unfold stepsInto at broke ⊢
    cases answered : sim.stepInto failed append with
    | mk answer left =>
      rw [answered] at broke stepped
      cases answer with
      | error error => exact stepped.resumes booted
      | ok row =>
        cases row with
        | none => cases broke
        | some row =>
          have onward : left.ready.1 = .ok () := by rw [ready_of_started stepped.started]
          exact ih onward broke

end Tables

theorem stepsInto_next (failed : RunError α → ε) (append : Row α → Except ε Unit) (count : Nat) :
    (sim.stepsInto failed append count).2.2.nextPeriod =
      sim.nextPeriod + (sim.stepsInto failed append count).1.length := by
  induction count generalizing sim with
  | zero => rfl
  | succ count ih =>
    have next := (stepInto_stepped failed append sim).next
    unfold stepsInto
    generalize sim.stepInto failed append = done at next ⊢
    obtain ⟨answer, left⟩ := done
    cases answer with
    | error error => exact next
    | ok row =>
      cases row with
      | none => exact next
      | some row =>
        dsimp only
        rw [ih, next, List.length_cons, Nat.add_assoc, Nat.add_comm _ 1]
        rfl

/-- A step or run moves the run on by the rows that it gives, also where it breaks off. -/
theorem Breaks.next {call : Call α} (broke : Breaks sim call) :
    (sim.perform call).nextPeriod = sim.nextPeriod + (sim.given call).length := by
  cases call with
  | bootstrap => exact broke.elim
  | seedTrove account collateral netDebt targetCr inattention => exact broke.elim
  | step takes => exact (stepInto_stepped some (table takes) sim).next
  | run takes => exact stepsInto_next some (table takes) _

/-- A call that breaks off leaves the run before a period, which the next step executes. -/
theorem Breaks.resumes {call : Call α} (broke : Breaks sim call) : (sim.perform call).Resumes := by
  cases call with
  | bootstrap => exact broke.elim
  | seedTrove account collateral netDebt targetCr inattention => exact broke.elim
  | step takes =>
    obtain ⟨booted, fault, answered⟩ := broke
    have stepped := stepInto_stepped some (table takes) sim
    rw [answered] at stepped
    exact stepped.resumes booted
  | run takes =>
    obtain ⟨booted, fault, answered⟩ := broke
    exact stepsInto_resumes booted answered

theorem carried_state_ne (sim : Simulation α) (period : Nat) : (sim.carried period).state ≠ sim.state := by
  intro same
  have size := congrArg (fun state => state.liquidationGain.size) same
  simp [carried, Steps.carry] at size

omit [Number α] in
theorem Resumes.started (resumes : sim.Resumes) : sim.phase ≠ .bootstrapping := by
  rw [resumes.running]
  exact Phase.noConfusion

/-- The step of a run that resumes executes its next period. Either it arrives at no price,
    and only the market may have changed, or the state has been carried over. -/
theorem Stepped.retried {failed : RunError α → ε} {append : Row α → Except ε Unit}
    {answer : Except ε (Option (Row α))} (stepped : Stepped failed append sim answer left) (resumes : sim.Resumes) :
    (¬ sim.IsPriced sim.nextPeriod ∧ left = { sim with market := (sim.work sim.nextPeriod).1 } ∧
      ∃ error, answer = .error (failed error)) ∨
    (sim.IsPriced sim.nextPeriod ∧ left.state = (sim.carried sim.nextPeriod).state) := by
  have ready := ready_of_started resumes.started
  cases stepped with
  | unready booting => cases ready.symm.trans booting
  | ended booted finished =>
    cases ready.symm.trans booted
    cases resumes.running.symm.trans finished
  | past booted unfinished past =>
    cases ready.symm.trans booted
    exact absurd resumes.within (not_le.mpr past)
  | broken booted remains advanced =>
    cases ready.symm.trans booted
    have done := sim.advance_advanced sim.nextPeriod
    rw [advanced] at done
    cases done with
    | unpriced unpriced error => exact .inl ⟨unpriced, rfl, _, rfl⟩
    | broken priced error => exact .inr ⟨priced, rfl⟩
  | refused booted remains advanced refused =>
    cases ready.symm.trans booted
    have done := sim.advance_advanced sim.nextPeriod
    rw [advanced] at done
    cases done with
    | passed priced => exact .inr ⟨priced, rfl⟩
  | taken booted remains advanced taken =>
    cases ready.symm.trans booted
    have done := sim.advance_advanced sim.nextPeriod
    rw [advanced] at done
    cases done with
    | passed priced => exact .inr ⟨priced, rfl⟩

section Tables
variable {failed : RunError α → ε} {append : Row α → Except ε Unit}

/-- A run that is stuck answers every step with an error and stays as it is. -/
theorem Stuck.stepInto (stuck : sim.Stuck) (resumes : sim.Resumes) :
    ∃ error, sim.stepInto failed append = (.error (failed error), sim) := by
  have stepped := stepInto_stepped failed append sim
  generalize sim.stepInto failed append = result at stepped ⊢
  rcases stepped.retried resumes with ⟨_, left, error, answer⟩ | ⟨priced, _⟩
  · refine ⟨error, Prod.ext answer ?_⟩
    rw [left, stuck.still]
  · exact absurd priced stuck.unpriced

theorem Stuck.stepsInto (stuck : sim.Stuck) (resumes : sim.Resumes) (count : Nat) :
    ∃ error, sim.stepsInto failed append (count + 1) = ([], some (failed error), sim) := by
  obtain ⟨error, answered⟩ := stuck.stepInto resumes
  unfold Simulation.stepsInto
  rw [answered]
  exact ⟨error, rfl⟩

/-- A step that changes nothing has been stuck. -/
theorem Stepped.stuck {answer : Except ε (Option (Row α))} (stepped : Stepped failed append sim answer left)
    (resumes : sim.Resumes) (untouched : sim.Untouched left) :
    sim.Stuck ∧ ∃ error, answer = .error (failed error) := by
  rcases stepped.retried resumes with ⟨unpriced, rfl, answered⟩ | ⟨_, state⟩
  · exact ⟨⟨unpriced, untouched.market⟩, answered⟩
  · exact absurd (state.symm.trans untouched.state) (sim.carried_state_ne _)

/-- Steps that give no row and change nothing have been stuck at the first of them. -/
theorem stepsInto_ends_iff (resumes : sim.Resumes) (count : Nat) :
    (sim.stepsInto failed append (count + 1)).1 = [] ∧ sim.Untouched (sim.stepsInto failed append (count + 1)).2.2 ↔
      sim.Stuck := by
  have stepped := stepInto_stepped failed append sim
  constructor
  · rintro ⟨rowless, untouched⟩
    unfold stepsInto at rowless untouched
    cases answered : sim.stepInto failed append with
    | mk answer left =>
      rw [answered] at stepped rowless untouched
      cases answer with
      | error error => exact (stepped.stuck resumes untouched).1
      | ok row =>
        cases row with
        | none => exact (stepped.stuck resumes untouched).1
        | some row => cases rowless
  · intro stuck
    obtain ⟨error, answered⟩ := stuck.stepsInto resumes count
    rw [answered]
    exact ⟨rfl, rfl, rfl, rfl⟩

end Tables

theorem Resumes.ends_iff (resumes : sim.Resumes) (call : Call α) : Ends sim call ↔ Stalls sim call := by
  cases call with
  | bootstrap => exact Iff.rfl
  | seedTrove account collateral netDebt targetCr inattention => exact Iff.rfl
  | run takes => exact stepsInto_ends_iff resumes sim.periods
  | step takes =>
    constructor
    · intro ends
      exact ((stepInto_stepped some (table takes) sim).stuck resumes ends.2).1
    · intro stuck
      obtain ⟨error, answered⟩ := stuck.stepInto resumes
      rw [Ends, perform, given, answered]
      exact ⟨rfl, rfl, rfl, rfl⟩

theorem Resumes.perform (resumes : sim.Resumes) {call : Call α} (stalls : Stalls sim call) :
    (sim.perform call).Resumes := by
  cases call with
  | bootstrap =>
    have booted := sim.bootstrap_booted
    rw [Simulation.perform]
    generalize sim.bootstrap.1 = answer at booted
    generalize sim.bootstrap.2 = left at booted ⊢
    cases booted with
    | again started => exact resumes
    | refused unstarted fault market => exact absurd unstarted resumes.started
    | accepted unstarted market circulating => exact absurd unstarted resumes.started
  | seedTrove account collateral netDebt targetCr inattention =>
    have seeded := sim.seedTrove_seeded account collateral netDebt targetCr inattention
    rw [Simulation.perform]
    generalize (sim.seedTrove account collateral netDebt targetCr inattention).1 = answer at seeded
    generalize (sim.seedTrove account collateral netDebt targetCr inattention).2 = left at seeded ⊢
    cases seeded with
    | refused fault => exact resumes
    | accepted running market added => exact ⟨running, resumes.within⟩
  | step takes =>
    obtain ⟨error, answered⟩ := Stuck.stepInto stalls resumes
    rw [Simulation.perform, answered]
    exact resumes
  | run takes =>
    obtain ⟨error, answered⟩ := Stuck.stepsInto stalls resumes sim.periods
    rw [Simulation.perform, runInto, answered]
    exact resumes

/-- From a run that resumes on, calls that end it are calls that are stuck. -/
theorem Resumes.along_iff (resumes : sim.Resumes) (later : List (Call α)) :
    sim.Along Ends later ↔ sim.Along Stalls later := by
  induction later generalizing sim with
  | nil => exact Iff.rfl
  | cons call later ih =>
    rw [Along, Along, resumes.ends_iff]
    exact and_congr_right fun stalls => ih (resumes.perform stalls)

/-- A call that breaks off has moved the run on by the rows that it gave and no further, so
    the next step executes the period that failed once more. The run has ended, in that no
    later step or run gives a row or changes the market, the reports or the state, exactly
    if each of them is stuck: the period arrives at no price again, and its steps leave the
    market as they find it. -/
theorem breaks_ends_iff {call : Call α} (broke : Breaks sim call) (later : List (Call α)) :
    (sim.perform call).Resumes ∧ (sim.perform call).nextPeriod = sim.nextPeriod + (sim.given call).length ∧
      ((sim.perform call).Along Ends later ↔ (sim.perform call).Along Stalls later) :=
  ⟨broke.resumes, broke.next, broke.resumes.along_iff later⟩

/-! ### A run without demand -/

section Starved
open Ledger
open Number (tolerance)
variable {sim : Simulation ℝ} {pool held : ℝ}

/-- The demand for the stablecoin vanishes in the only period, at a redemption fee that
    takes everything. The pool answers to its return, which lies above the natural rate. -/
noncomputable def starved : Parameters ℝ :=
  { Parameters.quiet with
    periods := 1
    terms := { Parameters.defaultTerms with redemptionFeeFloor := 1 }
    stability := { Parameters.quiet.stability with sensitivity := 1, naturalRateInitial := 0.1 }
    liquidity := { Parameters.quiet.liquidity with drift := 0 } }

theorem starved_valid : starved.Valid := { quiet_valid with }

/-- The run before its only period, with so much in the pool and so much held by the whale. -/
structure Starved (sim : Simulation ℝ) (pool held : ℝ) : Prop where
  parameters : sim.parameters = starved
  next : sim.nextPeriod = 1
  few : sim.market.ledger.troves.size ≤ 1
  alone : sim.market.roster.activeBorrowers = []
  borrowing : 0 ≤ sim.market.ledger.borrowingRate
  redemption : sim.market.ledger.redemptionRate = 1
  pool : sim.market.ledger.totalDeposits = pool
  held : sim.market.ledger.balance whale = held
  naturalRate : sim.naturalRates[1]? = some (0.1 : ℝ)

/-- Without demand the stablecoin has no price, and nothing is issued or redeemed for it. -/
theorem starved_pegged {context : Context ℝ} (parameters : context.parameters = starved) {market : Market ℝ}
    (borrowing : 0 ≤ market.ledger.borrowingRate) (redemption : market.ledger.redemptionRate = 1) (demand : ℝ) :
    (stabilizePrice context market demand).1 = market ∧ (stabilizePrice context market demand).2.stablePrice = 0 := by
  have liquidity : context.parameters.liquidity = ⟨0, 0, -20, 1.1, 1.2⟩ := by
    rw [parameters]
    norm_num [starved, Parameters.quiet, Parameters.default, Parameters.defaultLiquidity]
  have price (circulating : ℝ) : clearingPrice circulating 0 (-20) = 0 := by
    rw [clearingPrice, div_zero, Number.pow_real, Real.zero_rpow (by norm_num)]
  have ceiling : ¬ (1.1 : ℝ) + market.ledger.borrowingRate < 0 := by linarith
  have floor : ¬ (0 : ℝ) < 1 - 1 := by norm_num
  unfold stabilizePrice defendCeiling defendFloor
  simp only [liquidity, mul_zero, zero_mul, price, if_neg ceiling, redemption, if_neg floor]
  exact ⟨trivial, trivial⟩

/-- The pool is drawn to a tenth more than it has. -/
theorem Starved.target (starves : sim.Starved pool held) (wanted : tolerance < 0.1 * pool) (price : ℝ) :
    poolTarget (sim.context 1 price) pool sim.parameters.stability.initialReturn - pool = 0.1 * pool := by
  have stability : sim.parameters.stability = ⟨0.2, 0.1, 0, 0, 1, 720, 500⟩ := by
    rw [starves.parameters]
    norm_num [starved, Parameters.quiet, Parameters.default, Parameters.defaultStability]
  have rate : (sim.context 1 price).naturalRate = 0.1 := congrArg (Option.getD · 0) starves.naturalRate
  have some : 0 < 0.1 * pool := Number.tolerance_pos.trans wanted
  have enough : ¬ (pool ≤ tolerance ∧ (0.1 : ℝ) < 0.2) := fun none => by linarith [none.1]
  have positive : 0 ≤ pool * (1 + 0) * (1 + 1 * ((0.2 : ℝ) - 0.1)) := by linarith
  unfold poolTarget
  rw [rate]
  simp only [context, stability, Market.normalShock_zero, if_neg enough, Number.max_real, max_eq_left positive]
  ring

/-- The period arrives at no price, after its steps have moved a tenth of the pool from
    what the whale holds into it. -/
theorem Starved.worked (starves : sim.Starved pool held) (wanted : tolerance < 0.1 * pool)
    (covered : 0.1 * pool ≤ held) :
    ¬ sim.IsPriced 1 ∧
      Starved { sim with market := (sim.work 1).1 } (pool + 0.1 * pool) (held - 0.1 * pool) := by
  have unopened : sim.parameters.borrowing.initialOpen = 0 := by
    norm_num [starves.parameters, starved, Parameters.quiet]
  obtain ⟨ledger, rewarded, funded, deposits, market, pegged, -⟩ := sim.work_alone starves.few starves.alone unopened
  have readings : ledger.troves = sim.market.ledger.troves ∧ ledger.borrowingRate = sim.market.ledger.borrowingRate ∧
      ledger.redemptionRate = sim.market.ledger.redemptionRate ∧ ledger.totalDeposits = pool ∧
      ledger.balance whale = held := by
    obtain ⟨_, _, _, rfl⟩ := rewarded
    exact ⟨rfl, rfl, rfl, starves.pool, starves.held⟩
  obtain ⟨troves, borrowing, redemption, filled, holds⟩ := readings
  have grown := @Market.updateDeposits_funded (sim.context 1 (sim.priceIn 1)) ⟨ledger, sim.market.roster⟩
    sim.parameters.stability.initialReturn (0.1 * pool) starves.alone (by rw [filled]; exact starves.target wanted _)
    wanted (by rw [holds]; exact covered)
  rw [← deposits] at grown
  have kept : funded.troves = ledger.troves ∧ funded.borrowingRate = ledger.borrowingRate ∧
      funded.redemptionRate = ledger.redemptionRate ∧ funded.totalDeposits = pool + 0.1 * pool ∧
      funded.balance whale = held - 0.1 * pool := by
    obtain ⟨_, _, _, same⟩ := grown
    rw [same]
    refine ⟨rfl, rfl, rfl, ?_, ?_⟩
    · rw [totalDeposits_eq, ← filled, totalDeposits_eq]
      exact sumOf_addTo _ _ _
    · rw [balance, Book.get?_insert, if_pos rfl, Option.getD_some, holds]
  obtain ⟨sameTroves, sameBorrowing, sameRedemption, more, less⟩ := kept
  have parameters : (sim.context 1 (sim.priceIn 1)).parameters = starved := starves.parameters
  have issues : 0 ≤ funded.borrowingRate := by
    rw [sameBorrowing, borrowing]
    exact starves.borrowing
  have redeems : funded.redemptionRate = 1 := by rw [sameRedemption, redemption, starves.redemption]
  obtain ⟨unmoved, worthless⟩ := @starved_pegged (sim.context 1 (sim.priceIn 1)) parameters
    ⟨funded, sim.market.roster⟩ issues redeems sim.state.liquidityDemand
  rw [unmoved] at market
  constructor
  · rintro ⟨positive, -⟩
    rw [pegged, worthless] at positive
    exact lt_irrefl _ positive
  · rw [market]
    exact ⟨starves.parameters, starves.next, by rw [sameTroves, troves]; exact starves.few, starves.alone, issues,
      redeems, more, less, starves.naturalRate⟩

/-- The whale has opened its trove. -/
noncomputable def starvedLedger : Ledger ℝ := { quietOpened with terms := starved.terms }

theorem starved_bootstrapped (made : Simulation.new starved = .ok sim) :
    sim.bootstrap.1 = .ok () ∧ sim.bootstrap.2.phase = .running ∧ sim.bootstrap.2.periods = 1 ∧
      sim.bootstrap.2.Starved 500000.0 9500000.0 := by
  obtain ⟨_, parameters, -⟩ := new_ok made
  obtain ⟨periods, _, _, next⟩ := new_path made
  obtain ⟨_, rate⟩ := new_still made (by norm_num [starved, Parameters.quiet]) (by norm_num [starved, Parameters.quiet])
    (by norm_num [starved, Parameters.quiet]) (by norm_num [starved]) (le_refl 1)
  obtain ⟨change, opened⟩ := quiet_opened 1
  have held : starvedLedger.balance whale = 10000000.0 := by
    norm_num [balance, starvedLedger, quietOpened, Book.get?, Book.lookup_entry]
  have unseeded : starvedLedger.totalDeposits = 0 := by
    norm_num [totalDeposits_eq, starvedLedger, quietOpened, Ledger.new]
  have opens : ((Ledger.new starved.terms starved.collateral.initial).setPrice starved.collateral.initial).openTrove
      whale starved.bootstrap.whaleCollateral starved.bootstrap.whaleDebt = .ok (change, starvedLedger) := opened
  have seeds : starved.bootstrap.stabilityInitial = 500000.0 := rfl
  obtain ⟨ratio, funded, gains, pool, booted⟩ := bootstrap_seeded made opens unseeded seeds (by norm_num)
    (by rw [held]; norm_num) (by norm_num [starvedLedger, quietOpened])
  have readings : funded.troves.size ≤ 1 ∧ 0 ≤ funded.borrowingRate ∧ funded.redemptionRate = 1 ∧
      funded.balance whale = 9500000.0 := by
    obtain ⟨_, _, _, rfl⟩ := gains
    refine ⟨le_refl 1, ?_, ?_, ?_⟩
    · norm_num [borrowingRate, starvedLedger, starved, quietOpened, Ledger.new, Parameters.defaultTerms]
    · norm_num [redemptionRate, starvedLedger, starved, quietOpened, Ledger.new]
    · rw [balance, Book.get?_insert, if_pos rfl, Option.getD_some, held]
      norm_num
  obtain ⟨few, borrowing, redemption, left⟩ := readings
  rw [booted]
  refine ⟨rfl, rfl, periods, parameters, next, few, ?_, borrowing, redemption, pool, left, rate⟩
  exact activeBorrowers_whale starved.accounts ratio Number.infinity 0

/-- The first step breaks off, and leaves a pool that it has filled up. -/
theorem starved_breaks (made : Simulation.new starved = .ok sim) :
    Breaks sim (.step fun _ => true) ∧ (sim.perform (.step fun _ => true)).Starved 550000.0 9450000.0 := by
  obtain ⟨accepted, running, periods, starves⟩ := starved_bootstrapped made
  have unstarted : sim.phase = .bootstrapping := (new_ok made).2.2.1
  have booted : sim.bootstrap = (.ok (), sim.bootstrap.2) := Prod.ext accepted rfl
  have ready : sim.ready.1 = .ok () := by rw [ready, if_pos unstarted, accepted]
  have resumes : sim.bootstrap.2.Resumes := ⟨running, by rw [starves.next, periods]⟩
  obtain ⟨unpriced, worked⟩ := starves.worked (by norm_num [Number.tolerance_real]) (by norm_num)
  have stepped := stepInto_stepped some (table fun _ => true) sim.bootstrap.2
  rw [← stepInto_of_bootstrapped some _ unstarted booted running] at stepped
  rcases stepped.retried resumes with ⟨_, left, error, answer⟩ | ⟨priced, _⟩
  · refine ⟨⟨ready, _, answer⟩, ?_⟩
    have pool : (500000.0 + 0.1 * 500000.0 : ℝ) = 550000.0 := by norm_num
    have held : (9500000.0 - 0.1 * 500000.0 : ℝ) = 9450000.0 := by norm_num
    rw [pool, held, ← starves.next] at worked
    rwa [perform, left]
  · rw [starves.next] at priced
    exact absurd priced unpriced

/-- The rule at the first step of the run without demand. -/
theorem starved_ends_iff : ∃ sim : Simulation ℝ, Starts starved sim ∧ Breaks sim (.step fun _ => true) ∧
    ((sim.perform (.step fun _ => true)).Along Ends [.step fun _ => true] ↔
      (sim.perform (.step fun _ => true)).Along Stalls [.step fun _ => true]) := by
  obtain ⟨sim, made⟩ := new_of_valid starved_valid
  have broke := (starved_breaks made).1
  exact ⟨sim, .inl made, broke, (breaks_ends_iff broke [.step fun _ => true]).2.2⟩

/-- The run has not ended with its first error: the second step applies the period to the
    market again, and the pool grows once more. -/
theorem starved_goes_on : ∃ sim : Simulation ℝ, Starts starved sim ∧ Breaks sim (.step fun _ => true) ∧
    ¬ (sim.perform (.step fun _ => true)).Along Ends [.step fun _ => true] := by
  obtain ⟨sim, made⟩ := new_of_valid starved_valid
  obtain ⟨broke, starves⟩ := starved_breaks made
  refine ⟨sim, .inl made, broke, ?_⟩
  rw [broke.resumes.along_iff]
  rintro ⟨stuck, -⟩
  -- A stuck period would leave the pool as it is, but this one adds a tenth to it.
  have grown := (starves.worked (by norm_num [Number.tolerance_real]) (by norm_num)).2.pool
  have still := stuck.still
  rw [starves.next] at still
  rw [still, starves.pool] at grown
  norm_num at grown

end Starved

end Stablecoin.Simulation
