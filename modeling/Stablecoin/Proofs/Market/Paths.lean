import Mathlib.Analysis.SpecialFunctions.Pow.Real
import Stablecoin.Market.Paths
import Stablecoin.Proofs.Parameters

namespace Stablecoin
open Stablecoin.Random

section AnyNumbers
variable {α : Type}

theorem walk_succ (step : α → Draw α) (steps : Nat) (value : α) (stream : KeyStream) :
    ((walk step (steps + 1) value).run stream).1 = ((step value).run stream).1 ::
      ((walk step steps ((step value).run stream).1).run ((step value).run stream).2).1 := by
  rw [walk]
  simp only [StateT.run_bind]
  rfl

theorem length_walk (step : α → Draw α) (steps : Nat) (value : α) (stream : KeyStream) :
    ((walk step steps value).run stream).1.length = steps := by
  induction steps generalizing value stream with
  | zero => rfl
  | succ steps ih => rw [walk_succ, List.length_cons, ih]

theorem walk_begins (step : α → Draw α) {steps longer : Nat} (fewer : steps ≤ longer) (value : α)
    (stream : KeyStream) : ((walk step steps value).run stream).1 <+: ((walk step longer value).run stream).1 := by
  induction steps generalizing longer value stream with
  | zero => exact List.nil_prefix
  | succ steps ih =>
    obtain ⟨longer, rfl⟩ := Nat.exists_eq_add_one.mpr (Nat.zero_lt_of_lt fewer)
    rw [walk_succ, walk_succ]
    exact List.cons_prefix_cons.mpr ⟨rfl, ih (Nat.le_of_succ_le_succ fewer) _ _⟩

/-- Where a step from the start leads back to it, every value of the walk is the start. -/
theorem walk_constant {step : α → Draw α} {value : α} (stays : ∀ stream, ((step value).run stream).1 = value)
    (steps : Nat) (stream : KeyStream) : ((walk step steps value).run stream).1 = List.replicate steps value := by
  induction steps generalizing stream with
  | zero => rfl
  | succ steps ih => rw [walk_succ, stays, ih, List.replicate_succ]

/-- What every step leads to holds of every value of the walk. -/
theorem walk_each {step : α → Draw α} {property : α → Prop}
    (leads : ∀ value stream, property ((step value).run stream).1) (steps : Nat) (value : α) (stream : KeyStream) :
    ∀ next ∈ ((walk step steps value).run stream).1, property next := by
  induction steps generalizing value stream with
  | zero => exact fun _ member => absurd member List.not_mem_nil
  | succ steps ih =>
    intro next member
    rw [walk_succ] at member
    rcases List.mem_cons.mp member with rfl | later
    · exact leads value stream
    · exact ih _ _ next later

variable [Number α] (collateral : CollateralWalk α) (stability : Stability α) (streams : Streams)

theorem size_collateralPath (periods : Nat) : (collateralPath collateral periods streams).size = periods + 1 := by
  simp [collateralPath, path, length_walk]

theorem size_naturalRatePath (periods : Nat) : (naturalRatePath stability periods streams).size = periods + 1 := by
  simp [naturalRatePath, path, length_walk]

theorem collateralPath_begins {periods longer : Nat} (fewer : periods ≤ longer) :
    (collateralPath collateral periods streams).toList <+: (collateralPath collateral longer streams).toList :=
  List.cons_prefix_cons.mpr ⟨rfl, walk_begins _ fewer _ _⟩

theorem naturalRatePath_begins {periods longer : Nat} (fewer : periods ≤ longer) :
    (naturalRatePath stability periods streams).toList <+: (naturalRatePath stability longer streams).toList :=
  List.cons_prefix_cons.mpr ⟨rfl, walk_begins _ fewer _ _⟩

end AnyNumbers

/-- Without drift and volatility the collateral price stays where it starts. -/
theorem collateralPath_constant {collateral : CollateralWalk ℝ} (still : collateral.volatility ≤ 0)
    (steady : collateral.drift = 0) (streams : Streams) {period periods : Nat} (within : period ≤ periods) :
    (collateralPath collateral periods streams)[period]? = some collateral.initial := by
  rw [collateralPath, path, List.getElem?_toArray, walk_constant, ← List.replicate_succ]
  · exact List.getElem?_replicate_of_lt (Nat.lt_succ_of_le within)
  · intro stream
    simp only [logNormal, Number.max_real, max_eq_right still, lt_irrefl, and_false, if_false, pure_bind, steady,
      add_zero, mul_one]
    rfl

/-- Without a deviation the natural rate stays where it starts. -/
theorem naturalRatePath_constant {stability : Stability ℝ} (still : stability.naturalRateSd = 0)
    (start : 0 ≤ stability.naturalRateInitial) (streams : Streams) {period periods : Nat} (within : period ≤ periods) :
    (naturalRatePath stability periods streams)[period]? = some stability.naturalRateInitial := by
  rw [naturalRatePath, path, List.getElem?_toArray, walk_constant, ← List.replicate_succ]
  · exact List.getElem?_replicate_of_lt (Nat.lt_succ_of_le within)
  · intro stream
    simp only [gaussian, still, lt_irrefl, and_false, if_false, pure_bind, add_zero, mul_one]
    change Number.max stability.naturalRateInitial 0 = stability.naturalRateInitial
    rw [Number.max_real, max_eq_left start]

/-! ### Paths of valid parameters -/

theorem logNormal_pos (deviation : ℝ) (stream : KeyStream) : 0 < ((logNormal deviation).run stream).1 := by
  unfold logNormal
  split
  · exact Real.exp_pos _
  · exact zero_lt_one

/-- Where each step scales the value by the same growth and a positive shock, so do all steps
    up to any place together. -/
theorem walk_scaled {step : ℝ → Draw ℝ} {growth : ℝ}
    (scales : ∀ value stream, ∃ shock : ℝ, 0 < shock ∧ ((step value).run stream).1 = value * growth * shock)
    {steps place : Nat} (within : place < steps) (value : ℝ) (stream : KeyStream) :
    ∃ scale : ℝ, 0 < scale ∧
      ((walk step steps value).run stream).1[place]? = some (value * growth ^ (place + 1) * scale) := by
  induction steps generalizing place value stream with
  | zero => cases within
  | succ steps ih =>
    obtain ⟨shock, shock_pos, moved⟩ := scales value stream
    rw [walk_succ, moved]
    cases place with
    | zero => exact ⟨shock, shock_pos, by simp⟩
    | succ place =>
      obtain ⟨scale, scale_pos, found⟩ := ih (Nat.lt_of_succ_lt_succ within) (value * growth * shock) _
      refine ⟨shock * scale, mul_pos shock_pos scale_pos, ?_⟩
      rw [List.getElem?_cons_succ, found]
      ring_nf

/-- The price of a period is the first price, scaled by the drift in every period up to it
    and by a positive shock. -/
theorem collateralPath_scaled (collateral : CollateralWalk ℝ) (streams : Streams) {period periods : Nat}
    (within : period ≤ periods) :
    ∃ scale : ℝ, 0 < scale ∧ (collateralPath collateral periods streams)[period]? =
      some (collateral.initial * (1 + collateral.drift) ^ period * scale) := by
  rw [collateralPath, path, List.getElem?_toArray]
  cases period with
  | zero => exact ⟨1, zero_lt_one, by simp⟩
  | succ place =>
    rw [List.getElem?_cons_succ]
    exact walk_scaled (fun value stream => ⟨_, logNormal_pos (Number.max collateral.volatility 0) stream, rfl⟩)
      (Nat.lt_of_succ_le within) _ _

theorem collateralPath_pos_iff {collateral : CollateralWalk ℝ} (initial : 0 < collateral.initial) (streams : Streams)
    (periods : Nat) :
    (∀ price ∈ collateralPath collateral periods streams, 0 < price) ↔ periods = 0 ∨ -1 < collateral.drift := by
  constructor
  · intro positive
    refine or_iff_not_imp_left.mpr fun some => ?_
    obtain ⟨scale, scale_pos, first⟩ := collateralPath_scaled collateral streams (Nat.one_le_iff_ne_zero.mpr some)
    have moved := positive _ (Array.mem_of_getElem? first)
    rw [pow_one, mul_pos_iff_of_pos_right scale_pos, mul_pos_iff_of_pos_left initial] at moved
    linarith
  · intro sound price member
    obtain ⟨period, found⟩ := Array.mem_iff_getElem?.mp member
    have within : period ≤ periods := by
      obtain ⟨bounded, _⟩ := Array.getElem?_eq_some_iff.mp found
      rw [size_collateralPath] at bounded
      exact Nat.le_of_lt_succ bounded
    obtain ⟨scale, scale_pos, scaled⟩ := collateralPath_scaled collateral streams within
    obtain rfl := Option.some.inj (found.symm.trans scaled)
    refine mul_pos (mul_pos initial ?_) scale_pos
    rcases sound with rfl | kept
    · rw [Nat.le_zero.mp within, pow_zero]
      exact zero_lt_one
    · exact pow_pos (by linarith) period

/-- No step leads to a rate below zero, so that only the first rate can lie there. -/
theorem naturalRatePath_nonneg_iff (stability : Stability ℝ) (streams : Streams) (periods : Nat) :
    (∀ rate ∈ naturalRatePath stability periods streams, 0 ≤ rate) ↔ 0 ≤ stability.naturalRateInitial := by
  let step (rate : ℝ) : Draw ℝ := do
    return Number.max (rate * (1 + (← gaussian stability.naturalRateSd))) 0
  have leads (value : ℝ) (stream : KeyStream) : 0 ≤ ((step value).run stream).1 :=
    (le_max_right _ _).trans_eq (Number.max_real _ _).symm
  have later := @walk_each _ step (0 ≤ ·) leads periods stability.naturalRateInitial (streams.pathStream .naturalRate)
  simp only [naturalRatePath, path, List.mem_toArray, List.forall_mem_cons]
  exact and_iff_left later

/-- Valid parameters have paths of one entry more than there are periods. The prices start at
    the initial one. All of them are positive exactly if there is no period or the drift stays
    above minus one, and no rate is negative exactly if the first is not. -/
theorem paths_usable_iff {p : Parameters ℝ} (valid : p.Valid) (streams : Streams) (periods : Nat) :
    let prices := collateralPath p.collateral periods streams
    let rates := naturalRatePath p.stability periods streams
    prices.size = periods + 1 ∧ prices[0]? = some p.collateral.initial ∧ rates.size = periods + 1 ∧
      ((∀ price ∈ prices, 0 < price) ↔ periods = 0 ∨ -1 < p.collateral.drift) ∧
      ((∀ rate ∈ rates, 0 ≤ rate) ↔ 0 ≤ p.stability.naturalRateInitial) :=
  ⟨size_collateralPath _ _ _, rfl, size_naturalRatePath _ _ _,
    collateralPath_pos_iff (not_le.mp valid.collateralInitial) streams periods,
    naturalRatePath_nonneg_iff p.stability streams periods⟩

/-- A bundle with a price that halves in the mean, and moves by chance. -/
noncomputable def halving : Parameters ℝ :=
  { Parameters.quiet with collateral := { initial := 2000.0, drift := -0.5, volatility := 0.02 } }

theorem halving_valid : halving.Valid :=
  { quiet_valid with
    collateralInitial := by norm_num [halving]
    collateralVolatility := by norm_num [halving] }

theorem halving_paths_usable : halving.Valid ∧
    (∀ price ∈ collateralPath halving.collateral 720 ⟨42⟩, 0 < price) ∧
    ∀ rate ∈ naturalRatePath halving.stability 720 ⟨42⟩, 0 ≤ rate := by
  obtain ⟨_, _, _, prices, rates⟩ := paths_usable_iff halving_valid ⟨42⟩ 720
  refine ⟨halving_valid, prices.mpr (.inr ?_), rates.mpr ?_⟩
  · norm_num [halving]
  · norm_num [halving, Parameters.quiet, Parameters.default, Parameters.defaultStability]

/-- A bundle in which a period takes twice the price of the collateral, and the rate starts
    below zero. -/
noncomputable def sinking : Parameters ℝ :=
  { Parameters.quiet with
    collateral := { initial := 2000.0, drift := -2.0, volatility := 0.0 }
    stability := { (Parameters.quiet : Parameters ℝ).stability with naturalRateInitial := -0.1 } }

/-- The validation accepts the bundle, whose price falls below zero in the first period. -/
theorem sinking_unusable : sinking.validate = .ok () ∧
    (∃ price, (collateralPath sinking.collateral 1 ⟨42⟩)[1]? = some price ∧ price < 0) ∧
    ∃ rate, (naturalRatePath sinking.stability 1 ⟨42⟩)[0]? = some rate ∧ rate < 0 := by
  have valid : sinking.Valid :=
    { quiet_valid with
      collateralInitial := by norm_num [sinking]
      collateralVolatility := by norm_num [sinking] }
  obtain ⟨scale, scale_pos, first⟩ := collateralPath_scaled sinking.collateral ⟨42⟩ (Nat.le_refl 1)
  refine ⟨(Parameters.validate_ok_iff sinking).mpr valid, ⟨_, first, ?_⟩,
    ⟨sinking.stability.naturalRateInitial, rfl, ?_⟩⟩
  · have lost : sinking.collateral.initial * (1 + sinking.collateral.drift) ^ 1 < 0 := by norm_num [sinking]
    exact mul_neg_of_neg_of_pos lost scale_pos
  · norm_num [sinking]

end Stablecoin
