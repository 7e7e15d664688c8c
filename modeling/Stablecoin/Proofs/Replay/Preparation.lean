import Mathlib.Tactic.FieldSimp
import Mathlib.Tactic.Linarith
import Mathlib.Tactic.Positivity
import Stablecoin.Proofs.Run.Agreement
import Stablecoin.Replay.Preparation

/-!
Recorded prices as the path of a run. A prepared path passes through every recorded price,
scaled to the start of the run, and goes on a straight line in equal parts from one to the
next (`Prepared`). So it stays above zero, and a run takes it: the run starts from the price
that the path was scaled to, and is as long as the path at most (`prepared_path`).

All of it follows from where a point stands: the point `j` of the interval `i` stands at
`i * steps + j`, and the end of an interval is the start of the next one
(`getElem?_intervals`).
-/
namespace Stablecoin
namespace Replay
variable {prices : List ℝ} {steps : Nat} {initial : ℝ}

theorem length_interval (first second : ℝ) (steps : Nat) : (interval first second steps).length = steps := by
  simp [interval]

theorem getElem?_interval (first second : ℝ) {j : Nat} (inside : j < steps) :
    (interval first second steps)[j]? = some (first + (second - first) * (j / steps)) := by
  simp [interval, inside]

theorem length_intervals (steps : Nat) (first : ℝ) (rest : List ℝ) :
    (intervals steps (first :: rest)).length = rest.length * steps + 1 := by
  induction rest generalizing first with
  | nil => simp [intervals]
  | cons second rest ih =>
    rw [intervals, List.length_append, length_interval, ih, List.length_cons, Nat.succ_mul]
    omega

theorem head_intervals (some : 0 < steps) (first : ℝ) (rest : List ℝ) :
    (intervals steps (first :: rest))[0]? = .some first := by
  cases rest with
  | nil => rfl
  | cons second rest =>
    rw [intervals, List.getElem?_append_left (by rwa [length_interval]), getElem?_interval first second some]
    simp

/-- Every point of an interval stands on the line between the prices at its ends, and so do
    the ends. -/
theorem getElem?_intervals (some : 0 < steps) {i j : Nat} (inside : i + 1 < prices.length) (within : j ≤ steps) :
    (intervals steps prices)[i * steps + j]? =
      .some (prices.getD i 0 + (prices.getD (i + 1) 0 - prices.getD i 0) * (j / steps)) := by
  have positive : (0 : ℝ) < steps := Nat.cast_pos.mpr some
  induction prices generalizing i with
  | nil => simp at inside
  | cons first rest ih =>
    cases rest with
    | nil => simp at inside
    | cons second rest =>
      have length := length_interval first second steps
      rw [intervals]
      cases i with
      | zero =>
        rw [Nat.zero_mul, Nat.zero_add]
        rcases Nat.lt_or_eq_of_le within with before | rfl
        · rw [List.getElem?_append_left (by rwa [length]), getElem?_interval first second before]
          rfl
        · -- The last point of an interval is the first of what follows.
          rw [List.getElem?_append_right length.le, length, Nat.sub_self, head_intervals some]
          simp [positive.ne']
      | succ i =>
        have place : (i + 1) * steps + j - steps = i * steps + j := by
          rw [Nat.succ_mul]
          omega
        have beyond : (interval first second steps).length ≤ (i + 1) * steps + j := by
          rw [length, Nat.succ_mul]
          omega
        rw [List.getElem?_append_right beyond, length, place]
        exact ih (by simpa using inside)

theorem mem_intervals_pos (positive : ∀ price ∈ prices, 0 < price) : ∀ price ∈ intervals steps prices, 0 < price := by
  induction prices with
  | nil => simp [intervals]
  | cons first rest ih =>
    obtain ⟨firstPos, restPos⟩ := List.forall_mem_cons.mp positive
    cases rest with
    | nil => simpa [intervals] using firstPos
    | cons second rest =>
      have secondPos := (List.forall_mem_cons.mp restPos).1
      intro price member
      rw [intervals, List.mem_append] at member
      rcases member with inside | after
      · obtain ⟨j, before, rfl⟩ := List.mem_map.mp inside
        have total : (0 : ℝ) < steps := Nat.cast_pos.mpr (Nat.zero_lt_of_lt (List.mem_range.mp before))
        have part : (j : ℝ) / steps < 1 := (div_lt_one total).mpr (Nat.cast_lt.mpr (List.mem_range.mp before))
        have started : (0 : ℝ) ≤ j / steps := by positivity
        nlinarith
      · exact ih restPos price after

/-- A single step is the whole interval. -/
theorem intervals_one (prices : List ℝ) : intervals 1 prices = prices := by
  induction prices with
  | nil => rfl
  | cons first rest ih =>
    cases rest with
    | nil => rfl
    | cons second rest =>
      rw [intervals, ih]
      simp [interval]

theorem interpolate_eq (prices : List ℝ) (some : 1 ≤ steps) : interpolate prices steps = intervals steps prices := by
  unfold interpolate
  split
  · rename_i single
    rw [Nat.le_antisymm single some, intervals_one]
  · rfl

/-- The recorded price at a place, scaled so that the first one becomes `initial`. -/
noncomputable def scaled (prices : List ℝ) (initial : ℝ) (place : Nat) : ℝ :=
  prices.getD place 0 / prices.getD 0 0 * initial

theorem rebase_eq (begins : prices[0]? = some first) (positive : 0 < first) (initial : ℝ) :
    rebase prices initial = prices.map fun price => price / first * initial := by
  cases prices with
  | nil => cases begins
  | cons head rest =>
    obtain rfl : head = first := Option.some.inj begins
    exact if_pos positive

/-- As many points as there are steps follow a first one at equal distances. -/
def Even (path : List ℝ) (start steps : Nat) (first distance : ℝ) : Prop :=
  ∀ j ≤ steps, path[start + j]? = some (first + j * distance)

section
variable {path : List ℝ} {start : Nat} {first distance : ℝ}

theorem Even.getD (even : Even path start steps first distance) {j : Nat} (within : j ≤ steps) :
    path.getD (start + j) 0 = first + j * distance := by
  rw [List.getD_eq_getElem?_getD, even j within, Option.getD_some]

theorem Even.rises (even : Even path start steps first distance) (up : 0 ≤ distance) :
    MonotoneOn (fun j => path.getD (start + j) 0) (Set.Iic steps) := by
  intro j within k within' before
  have more := mul_le_mul_of_nonneg_right (Nat.cast_le (α := ℝ).mpr before) up
  simp only [even.getD within, even.getD within']
  linarith

theorem Even.falls (even : Even path start steps first distance) (down : distance ≤ 0) :
    AntitoneOn (fun j => path.getD (start + j) 0) (Set.Iic steps) := by
  intro j within k within' before
  have less := mul_le_mul_of_nonpos_right (Nat.cast_le (α := ℝ).mpr before) down
  simp only [even.getD within, even.getD within']
  linarith

end

/-- The distance between two points on the way from one recorded price to the next. -/
noncomputable def distance (prices : List ℝ) (steps : Nat) (initial : ℝ) (place : Nat) : ℝ :=
  (scaled prices initial (place + 1) - scaled prices initial place) / steps

/-- What a path is to the recorded prices that it was prepared from. -/
structure Prepared (prices : List ℝ) (steps : Nat) (initial : ℝ) (path : List ℝ) : Prop where
  length : path.length = (prices.length - 1) * steps + 1
  begins : path[0]? = some initial
  recorded : ∀ i < prices.length, path[i * steps]? = some (scaled prices initial i)
  even : ∀ i, i + 1 < prices.length →
    Even path (i * steps) steps (scaled prices initial i) (distance prices steps initial i)
  rises : ∀ i, i + 1 < prices.length → scaled prices initial i ≤ scaled prices initial (i + 1) →
    MonotoneOn (fun j => path.getD (i * steps + j) 0) (Set.Iic steps)
  falls : ∀ i, i + 1 < prices.length → scaled prices initial (i + 1) ≤ scaled prices initial i →
    AntitoneOn (fun j => path.getD (i * steps + j) 0) (Set.Iic steps)
  positive : ∀ price ∈ path, 0 < price

theorem prepared (several : 2 ≤ prices.length) (positive : ∀ price ∈ prices, 0 < price) (some : 1 ≤ steps)
    (initial_pos : 0 < initial) : Prepared prices steps initial (rebase (interpolate prices steps) initial) := by
  obtain ⟨first, rest, rfl⟩ := List.exists_cons_of_ne_nil (List.ne_nil_of_length_pos (by omega : 0 < prices.length))
  have firstPos : 0 < first := positive first List.mem_cons_self
  have stepsPos : (0 : ℝ) < steps := Nat.cast_pos.mpr some
  have begins := head_intervals some first rest
  rw [interpolate_eq _ some, rebase_eq begins firstPos]
  have even {i : Nat} (inside : i + 1 < (first :: rest).length) :
      Even ((intervals steps (first :: rest)).map fun price => price / first * initial) (i * steps) steps
        (scaled (first :: rest) initial i) (distance (first :: rest) steps initial i) := by
    intro j within
    rw [List.getElem?_map, getElem?_intervals some inside within]
    simp only [Option.map_some, scaled, distance, List.getD_cons_zero, Option.some.injEq]
    field_simp
  constructor
  case length =>
    rw [List.length_map, length_intervals]
    rfl
  case begins =>
    rw [List.getElem?_map, begins]
    simp [firstPos.ne']
  case recorded =>
    intro i inside
    cases i with
    | zero => simpa using even (by omega : 0 + 1 < _) 0 (Nat.zero_le _)
    | succ i =>
      have last := even inside steps le_rfl
      rw [distance, mul_div_cancel₀ _ stepsPos.ne', add_sub_cancel] at last
      rw [Nat.succ_mul, last]
  case even => exact fun i inside => even inside
  case rises =>
    intro i inside up
    exact (even inside).rises (div_nonneg (sub_nonneg.mpr up) stepsPos.le)
  case falls =>
    intro i inside down
    exact (even inside).falls (div_nonpos_of_nonpos_of_nonneg (sub_nonpos.mpr down) stepsPos.le)
  case positive =>
    intro price member
    obtain ⟨recorded, inPath, rfl⟩ := List.mem_map.mp member
    have above := mem_intervals_pos positive recorded inPath
    positivity

end Replay

/-! ### The run of a path -/

/-- The bootstrap sets the price of the collateral to the first of the path, also where it is
    refused later. -/
theorem Simulation.bootstrap_price {α : Type} [Number α] {sim : Simulation α} (unstarted : sim.phase = .bootstrapping) :
    sim.bootstrap.2.market.ledger.price = sim.collateralPrices[0]?.getD 0 := by
  unfold bootstrap
  simp only [unstarted, ne_eq, not_true_eq_false, if_false]
  split
  · rfl
  · rename_i opened opens
    have price : opened.price = sim.collateralPrices[0]?.getD 0 := by
      rw [(Ledger.openTrove_ok opens).left_eq]
      rfl
    split
    · exact price
    · rename_i funded seeds
      have same : funded.price = opened.price := by
        split at seeds
        · obtain ⟨_, paid, debited, rfl⟩ := Ledger.provide_ok seeds
          obtain ⟨_, rfl⟩ := Ledger.debit_ok debited
          rfl
        · cases seeds
          rfl
      split <;> exact same.trans price

namespace Replay

/-- A prepared path passes evenly through the recorded prices, and a run takes it and starts
    from the price that it was scaled to. -/
theorem prepared_path (several : 2 ≤ prices.length) (positive : ∀ price ∈ prices, 0 < price) (some : 1 ≤ steps)
    (initial_pos : 0 < initial) :
    let path := rebase (interpolate prices steps) initial
    Prepared prices steps initial path ∧
      ∀ (parameters : Parameters ℝ) (sim : Simulation ℝ), Simulation.new parameters = .ok sim →
        ∃ replayed, sim.withPrices path.toArray = .ok replayed ∧
          replayed.periods = min parameters.periods ((prices.length - 1) * steps) ∧
          replayed.prices.toList = path.take (replayed.periods + 1) ∧ replayed.prices[0]? = .some initial ∧
          replayed.bootstrap.2.market.ledger.price = initial := by
  intro path
  have shape : Prepared prices steps initial path := prepared several positive some initial_pos
  refine ⟨shape, fun parameters sim made => ?_⟩
  obtain ⟨_, parameters_eq, unstarted, _⟩ := Simulation.new_ok made
  have intervals : 1 * 1 ≤ (prices.length - 1) * steps := Nat.mul_le_mul (by omega) some
  have size : path.toArray.size = (prices.length - 1) * steps + 1 := shape.length
  have usable : path.toArray.find? (fun price => ¬ (0 < price ∧ Number.isFinite price)) = none := by
    simpa using shape.positive
  refine ⟨_, Simulation.withPrices_of_positive unstarted (by omega) usable, ?_, ?_, ?_, ?_⟩
  · rw [parameters_eq, size, Nat.add_sub_cancel]
  · simp [Simulation.prices]
  · simpa [Simulation.prices, Array.getElem?_extract] using shape.begins
  · refine (Simulation.bootstrap_price ?_).trans ?_
    · exact unstarted
    · simp [shape.begins]

/-- Prices that rise and fall again, in half steps. -/
theorem bent_path_prepared :
    let prices : List ℝ := [1, 3, 2]
    let path := rebase (interpolate prices 2) 2000
    2 ≤ prices.length ∧ (∀ price ∈ prices, 0 < price) ∧ 1 ≤ 2 ∧ (0 : ℝ) < 2000 ∧ path.length = 5 ∧
      path[2]? = some 6000 ∧ path[3]? = some 5000 ∧
      ∃ sim replayed, Simulation.new Parameters.quiet = .ok sim ∧ sim.withPrices path.toArray = .ok replayed ∧
        replayed.periods = 4 ∧ replayed.bootstrap.2.market.ledger.price = 2000 := by
  intro prices path
  have several : 2 ≤ prices.length := by decide
  have positive : ∀ price ∈ prices, 0 < price := by simp [prices]
  have initial_pos : (0 : ℝ) < 2000 := by norm_num
  obtain ⟨shape, run⟩ := prepared_path several positive one_le_two initial_pos
  obtain ⟨sim, made⟩ := Simulation.new_of_valid quiet_valid
  obtain ⟨replayed, replays, periods, _, _, price⟩ := run Parameters.quiet sim made
  have peak := shape.recorded 1 (by decide)
  have half := shape.even 1 (by decide) 1 one_le_two
  norm_num [scaled, distance, prices] at peak half
  exact ⟨several, positive, one_le_two, initial_pos, shape.length, peak, half, sim, replayed, made, replays, periods,
    price⟩

end Replay
end Stablecoin
