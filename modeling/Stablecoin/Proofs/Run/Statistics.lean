import Mathlib.Algebra.Order.BigOperators.Group.List
import Mathlib.Algebra.Order.Floor.Semiring
import Mathlib.Data.List.Sort
import Stablecoin.Proofs.Exact
import Stablecoin.Run.Batch

/-!
The statistics of a batch, in exact arithmetic. What a batch says of its finished runs
does not depend on the order in which they finish, and its percentiles are order
statistics: prices of runs, at a rank that the number of the runs decides. A rank is told
by counts, so that the ranks of two columns can be compared entry by entry, without
looking at how either is sorted: where one column lies below another in every entry, so
do their entries at equal ranks. `ofOutcomes_orderStatistics` puts this together with
the bounds of each summary.
-/
namespace Stablecoin

namespace Number

theorem least_real (a : ℝ) (rest : List ℝ) : some (least (a :: rest)) = (a :: rest).min? := by
  have whole : (a :: rest).filter (IsDefined ·) = a :: rest :=
    List.filter_eq_self.mpr fun b _ => decide_eq_true (le_refl b)
  simp only [least, whole, List.min?_cons']
  congr 2
  funext x y
  exact min_real x y

theorem greatest_real (a : ℝ) (rest : List ℝ) : some (greatest (a :: rest)) = (a :: rest).max? := by
  have whole : (a :: rest).filter (IsDefined ·) = a :: rest :=
    List.filter_eq_self.mpr fun b _ => decide_eq_true (le_refl b)
  simp only [greatest, whole, List.max?_cons']
  congr 2
  funext x y
  exact max_real x y

theorem least_le {l : List ℝ} {a : ℝ} (member : a ∈ l) : least l ≤ a := by
  cases l with
  | nil => cases member
  | cons b rest => exact (List.min?_eq_some_iff.mp (least_real b rest).symm).2 a member

theorem le_greatest {l : List ℝ} {a : ℝ} (member : a ∈ l) : a ≤ greatest l := by
  cases l with
  | nil => cases member
  | cons b rest => exact (List.max?_eq_some_iff.mp (greatest_real b rest).symm).2 a member

end Number

/-- The mean of the stable price lies between the least and the greatest. -/
structure RunSummary.Ordered (summary : RunSummary ℝ) : Prop where
  least : summary.minStablePrice ≤ summary.meanStablePrice
  greatest : summary.meanStablePrice ≤ summary.maxStablePrice

namespace RunSummary

theorem ordered_ofRows {rows : List (Row ℝ)} {summary : RunSummary ℝ} (made : ofRows? rows = some summary) :
    summary.Ordered := by
  obtain ⟨last, final, rfl⟩ := Option.map_eq_some_iff.mp made
  have someRow : 0 < rows.length := List.length_pos_of_mem (List.mem_of_getLast? final)
  have divisor : (0 : ℝ) < rows.length := Nat.cast_pos.mpr someRow
  have least := List.card_nsmul_le_sum (rows.map (·.stablePrice)) _ fun _ => Number.least_le
  have greatest := List.sum_le_card_nsmul (rows.map (·.stablePrice)) _ fun _ => Number.le_greatest
  rw [List.length_map, nsmul_eq_mul] at least greatest
  constructor
  · simpa only [Number.sum_real, le_div_iff₀ divisor, mul_comm] using least
  · simpa only [Number.sum_real, div_le_iff₀ divisor, mul_comm] using greatest

theorem Ordered.min_le_max {summary : RunSummary ℝ} (ordered : summary.Ordered) :
    summary.minStablePrice ≤ summary.maxStablePrice :=
  ordered.least.trans ordered.greatest

end RunSummary

/-- The number stands at the rank among the numbers: it is one of them, at most that many
    lie below it, and more do not lie above it. -/
structure Ranked (values : List ℝ) (rank : ℕ) (value : ℝ) : Prop where
  mem : value ∈ values
  below : values.countP (· < value) ≤ rank
  upTo : rank < values.countP (· ≤ value)

namespace Ranked

/-- Where one column lies below another in every entry, so do their numbers at equal
    ranks. -/
theorem le {β : Type} {entries : List β} {lower upper : β → ℝ} {first second : ℕ} {value greater : ℝ}
    (dominated : ∀ entry ∈ entries, lower entry ≤ upper entry) (ranks : first ≤ second)
    (ranked : Ranked (entries.map lower) first value) (above : Ranked (entries.map upper) second greater) :
    value ≤ greater := by
  by_contra less
  rw [not_le] at less
  have below := ranked.below
  have upTo := above.upTo
  rw [List.countP_map] at below upTo
  have fewer : entries.countP ((· ≤ greater) ∘ upper) ≤ entries.countP ((· < value) ∘ lower) := by
    refine List.countP_mono_left fun entry member low => ?_
    have low : upper entry ≤ greater := by simpa using low
    simpa using ((dominated entry member).trans low).trans_lt less
  omega

theorem unique {values : List ℝ} {rank : ℕ} {value other : ℝ} (one : Ranked values rank value)
    (two : Ranked values rank other) : value = other := by
  rw [← values.map_id] at one two
  exact le_antisymm (le (fun _ _ => le_rfl) le_rfl one two) (le (fun _ _ => le_rfl) le_rfl two one)

theorem perm {values others : List ℝ} (reordered : values.Perm others) {rank : ℕ} {value : ℝ}
    (ranked : Ranked values rank value) : Ranked others rank value where
  mem := reordered.mem_iff.mp ranked.mem
  below := (reordered.countP_eq _).symm.trans_le ranked.below
  upTo := ranked.upTo.trans_eq (reordered.countP_eq _)

/-- In an ascending list every number stands at the rank of its place. -/
theorem getElem {values : List ℝ} (ascending : values.Pairwise (· ≤ ·)) {place : ℕ} (inside : place < values.length) :
    Ranked values place values[place] := by
  have order {i j : ℕ} (later : j < values.length) (le : i ≤ j) : values[i] ≤ values[j] := by
    rcases le.lt_or_eq with less | rfl
    · exact List.pairwise_iff_getElem.mp ascending i j _ later less
    · exact le_rfl
  have split (low : ℝ → Bool) (k : ℕ) :
      values.countP low = (values.take k).countP low + (values.drop k).countP low := by
    rw [← List.countP_append, List.take_append_drop]
  refine ⟨List.getElem_mem inside, ?below, ?upTo⟩
  case below =>
    have noneAfter : (values.drop place).countP (· < values[place]) = 0 := by
      refine List.countP_eq_zero.mpr fun value member => ?_
      obtain ⟨k, short, rfl⟩ := List.mem_iff_getElem.mp member
      rw [List.length_drop] at short
      simpa using order (by omega) (Nat.le_add_right place k)
    have few : (values.take place).countP (· < values[place]) ≤ (values.take place).length :=
      List.countP_le_length
    rw [List.length_take] at few
    rw [split _ place]
    omega
  case upTo =>
    have allBefore : (values.take (place + 1)).countP (· ≤ values[place]) = (values.take (place + 1)).length := by
      refine List.countP_eq_length.mpr fun value member => ?_
      obtain ⟨k, short, rfl⟩ := List.mem_iff_getElem.mp member
      rw [List.length_take] at short
      simpa using order inside (show k ≤ place by omega)
    rw [List.length_take] at allBefore
    rw [split _ (place + 1)]
    omega

end Ranked

namespace BatchSummary

theorem sorted_perm (values : List ℝ) : (sorted values).Perm values := List.mergeSort_perm _ _

theorem sorted_ascending (values : List ℝ) : (sorted values).Pairwise (· ≤ ·) := by
  have transitive (a b c : ℝ) (ab : decide (a ≤ b)) (bc : decide (b ≤ c)) : decide (a ≤ c) := by
    simp only [decide_eq_true_eq] at ab bc ⊢
    exact ab.trans bc
  have total (a b : ℝ) : decide (a ≤ b) || decide (b ≤ a) := by simpa using le_total a b
  exact (List.pairwise_mergeSort transitive total values).imp of_decide_eq_true

/-- Sorting forgets the order. -/
theorem sorted_eq {values others : List ℝ} (reordered : values.Perm others) : sorted values = sorted others := by
  have same : (sorted values).Perm (sorted others) :=
    (sorted_perm values).trans (reordered.trans (sorted_perm others).symm)
  exact same.eq_of_pairwise (fun _ _ _ _ => le_antisymm) (sorted_ascending values) (sorted_ascending others)

/-- The place at a share of the way through a list of the length. -/
noncomputable def place (length : ℕ) (share : ℝ) : ℕ := Number.nearestNat (((length - 1 : ℕ) : ℝ) * share)

/-- The place lies inside the list, for every length. -/
theorem place_lt {length : ℕ} (entries : 0 < length) {share : ℝ} (whole : share ≤ 1) : place length share < length := by
  have most : ((length - 1 : ℕ) : ℝ) * share ≤ (length - 1 : ℕ) := mul_le_of_le_one_right (Nat.cast_nonneg _) whole
  have floor : ⌊((length - 1 : ℕ) : ℝ) * share + 1 / 2⌋₊ ≤ length - 1 := by
    refine Nat.lt_succ_iff.mp (Nat.floor_lt' (Nat.succ_ne_zero _) |>.mpr ?_)
    rw [Nat.cast_succ]
    linarith
  exact ((min_le_left _ _).trans floor).trans_lt (Nat.sub_one_lt_of_lt entries)

theorem place_mono (length : ℕ) {share greater : ℝ} (le : share ≤ greater) :
    place length share ≤ place length greater :=
  min_le_min_right _ (Nat.floor_le_floor
    (add_le_add_left (mul_le_mul_of_nonneg_left le (Nat.cast_nonneg _)) _))

/-- The place that a percentile reads lies inside the list, and is never cut. -/
theorem percentile_eq {values : List ℝ} (entries : values ≠ []) {share : ℝ} (whole : share ≤ 1) :
    ∃ inside : place values.length share < values.length,
      percentile values share = values[place values.length share] := by
  have inside := place_lt (List.length_pos_iff.mpr entries) whole
  have uncut : min (place values.length share) (values.length - 1) = place values.length share :=
    min_eq_left (Nat.le_sub_one_of_lt inside)
  refine ⟨inside, ?_⟩
  simp only [percentile]
  rw [← place, uncut, List.getElem?_eq_getElem inside, Option.getD_some]

/-- The percentile of a sorted column is the number at the rank of its place. -/
theorem percentile_ranked {column : List ℝ} (entries : column ≠ []) {share : ℝ} (whole : share ≤ 1) :
    Ranked column (place column.length share) (percentile (sorted column) share) := by
  have same : (sorted column).length = column.length := (sorted_perm column).length_eq
  have someSorted : sorted column ≠ [] := by
    rwa [← List.length_pos_iff, same, List.length_pos_iff]
  obtain ⟨inside, read⟩ := percentile_eq someSorted whole
  rw [read, ← same]
  exact (Ranked.getElem (sorted_ascending column) inside).perm (sorted_perm column)

/-! ### The statistics of a batch -/

section AnyNumbers
variable {α ε : Type} [Number α]

/-- The summaries of the runs that have one. -/
def finished (outcomes : List (SeedOutcome α ε)) : List (RunSummary α) := outcomes.filterMap (·.summary)

/-- Every summary among the outcomes is that of a table. -/
def Tabled (outcomes : List (SeedOutcome α ε)) : Prop :=
  ∀ outcome ∈ outcomes, ∀ summary, outcome.summary = some summary → ∃ rows, RunSummary.ofRows? rows = some summary

theorem outcome_tabled {seed : UInt64} {rows : Option (List (Row α))} {error : Option ε} {summary : RunSummary α}
    (summarized : (Batch.outcome seed rows error).summary = some summary) :
    ∃ table, RunSummary.ofRows? table = some summary := by
  simp only [Batch.outcome] at summarized
  split at summarized
  · cases summarized
  · obtain ⟨table, -, made⟩ := Option.bind_eq_some_iff.mp summarized
    exact ⟨table, made⟩

/-- The outcomes that a batch leaves are such. -/
theorem outcomes_tabled (batch : Batch α) : Tabled batch.outcomes := by
  intro outcome member summary summarized
  obtain ⟨seed, -, rfl⟩ := List.mem_map.mp member
  exact outcome_tabled summarized

end AnyNumbers

variable {ε : Type} {outcomes others : List (SeedOutcome ℝ ε)}

theorem finished_ordered (tabled : Tabled outcomes) {summary : RunSummary ℝ} (member : summary ∈ finished outcomes) :
    summary.Ordered := by
  obtain ⟨outcome, one, summarized⟩ := List.mem_filterMap.mp member
  obtain ⟨rows, made⟩ := tabled outcome one summary summarized
  exact RunSummary.ordered_ofRows made

/-- What a batch says does not depend on the order in which its runs are listed. -/
theorem ofOutcomes_perm (reordered : outcomes.Perm others) : ofOutcomes others = ofOutcomes outcomes := by
  have summaries : (others.filterMap (·.summary)).Perm (outcomes.filterMap (·.summary)) :=
    reordered.symm.filterMap _
  simp only [ofOutcomes, Number.sum_real, reordered.length_eq, reordered.countP_eq, summaries.length_eq,
    summaries.countP_eq, sorted_eq (summaries.map _), (summaries.map _).sum_eq]

/-- The percentiles are the prices of finished runs at the ranks of their shares, and the
    percentiles of the least prices lie below that of the greatest. -/
structure OrderStatistics (batch : BatchSummary ℝ) (runs : List (RunSummary ℝ)) : Prop where
  p5 : Ranked (runs.map (·.minStablePrice)) (place runs.length 0.05) batch.minStablePriceP5
  median : Ranked (runs.map (·.minStablePrice)) (place runs.length 0.5) batch.minStablePriceMedian
  p95 : Ranked (runs.map (·.maxStablePrice)) (place runs.length 0.95) batch.maxStablePriceP95
  p5_le_median : batch.minStablePriceP5 ≤ batch.minStablePriceMedian
  median_le_p95 : batch.minStablePriceMedian ≤ batch.maxStablePriceP95

theorem ofOutcomes_ranked (tabled : Tabled outcomes) (someRun : finished outcomes ≠ []) :
    OrderStatistics (ofOutcomes outcomes) (finished outcomes) := by
  have atPlace (price : RunSummary ℝ → ℝ) {share : ℝ} (whole : share ≤ 1) :
      Ranked ((finished outcomes).map price) (place (finished outcomes).length share)
        (percentile (sorted ((finished outcomes).map price)) share) := by
    have column : (finished outcomes).map price ≠ [] := by simpa using someRun
    have ranked := percentile_ranked column whole
    rwa [List.length_map] at ranked
  have p5 := atPlace (·.minStablePrice) (show (0.05 : ℝ) ≤ 1 by norm_num)
  have median := atPlace (·.minStablePrice) (show (0.5 : ℝ) ≤ 1 by norm_num)
  have p95 := atPlace (·.maxStablePrice) (show (0.95 : ℝ) ≤ 1 by norm_num)
  exact {
    p5, median, p95
    p5_le_median := Ranked.le (fun _ _ => le_rfl) (place_mono _ (by norm_num)) p5 median
    median_le_p95 := Ranked.le (fun _ member => (finished_ordered tabled member).min_le_max)
      (place_mono _ (by norm_num)) median p95 }

theorem recoveryRunShare_mem (outcomes : List (SeedOutcome ℝ ε)) :
    0 ≤ (ofOutcomes outcomes).recoveryRunShare ∧ (ofOutcomes outcomes).recoveryRunShare ≤ 1 := by
  simp only [ofOutcomes]
  have someRun : (0 : ℝ) < (max (outcomes.filterMap (·.summary)).length 1 : ℕ) := by
    exact_mod_cast lt_max_of_lt_right one_pos
  refine ⟨by positivity, (div_le_one someRun).mpr (Nat.cast_le.mpr ?_)⟩
  exact List.countP_le_length.trans (le_max_left _ _)

/-- The statistics of a batch are order statistics of the finished runs, whatever failed
    besides them and in whatever order they are listed. -/
theorem ofOutcomes_orderStatistics (outcomes : List (SeedOutcome ℝ ε)) (tabled : Tabled outcomes) :
    (∀ summary ∈ finished outcomes, summary.minStablePrice ≤ summary.meanStablePrice ∧
        summary.meanStablePrice ≤ summary.maxStablePrice) ∧
      (∀ others, outcomes.Perm others → ofOutcomes others = ofOutcomes outcomes) ∧
      (finished outcomes ≠ [] → OrderStatistics (ofOutcomes outcomes) (finished outcomes)) ∧
      (∀ values : List ℝ, values ≠ [] → ∀ share, 0 ≤ share → share ≤ 1 →
        ∃ inside : place values.length share < values.length,
          percentile values share = values[place values.length share]) ∧
      0 ≤ (ofOutcomes outcomes).recoveryRunShare ∧ (ofOutcomes outcomes).recoveryRunShare ≤ 1 := by
  refine ⟨fun summary member => ?_, fun _ => ofOutcomes_perm, ofOutcomes_ranked tabled, ?_,
    recoveryRunShare_mem outcomes⟩
  · have ordered := finished_ordered tabled member
    exact ⟨ordered.least, ordered.greatest⟩
  · intro values entries share _ whole
    exact percentile_eq entries whole

/-- A row of which only the price of the stablecoin matters. -/
noncomputable def pricedRow (stablePrice : ℝ) : Row ℝ where
  iteration := 0
  collateralPrice := 0
  stablePrice
  rewardPrice := 0
  numTroves := 0
  totalCollateral := 0
  totalDebt := 0
  tcr := 0
  recoveryMode := false
  lastIcr := 0
  poolStable := 0
  poolCollateral := 0
  totalCollateralAdded := 0
  totalCollateralLiquidated := 0
  totalStableRedeemed := 0

/-- A run that failed between two that finished. -/
noncomputable def interruptedBatch : List (SeedOutcome ℝ String) :=
  [Batch.outcome 0 (some [pricedRow 1.0, pricedRow 1.25]) none, Batch.outcome 1 (some [pricedRow 2.0]) (some "aborted"),
    Batch.outcome 2 (some [pricedRow 1.5, pricedRow 0.75]) none]

/-- The percentiles of two runs, and those of the same runs the other way around. -/
theorem interruptedBatch_orderStatistics :
    Tabled interruptedBatch ∧ (finished interruptedBatch).length = 2 ∧
      (ofOutcomes interruptedBatch).minStablePriceP5 = 0.75 ∧ (ofOutcomes interruptedBatch).minStablePriceMedian = 1 ∧
      (ofOutcomes interruptedBatch).maxStablePriceP95 = 1.5 ∧
      ofOutcomes interruptedBatch.reverse = ofOutcomes interruptedBatch := by
  have tabled : Tabled interruptedBatch := by
    intro outcome member summary summarized
    simp only [interruptedBatch, List.mem_cons, List.not_mem_nil, or_false] at member
    obtain rfl | rfl | rfl := member <;> exact outcome_tabled summarized
  obtain ⟨-, reordered, ranked, -⟩ := ofOutcomes_orderStatistics interruptedBatch tabled
  have two : (finished interruptedBatch).length = 2 := by rfl
  obtain ⟨p5, median, p95, -, -⟩ := ranked (by simp [← List.length_pos_iff, two])
  have minima : (finished interruptedBatch).map (·.minStablePrice) = [1, 0.75] := by
    change [Number.least [(1.0 : ℝ), 1.25], Number.least [1.5, 0.75]] = _
    norm_num [Number.least, Number.IsDefined]
  have maxima : (finished interruptedBatch).map (·.maxStablePrice) = [1.25, 1.5] := by
    change [Number.greatest [(1.0 : ℝ), 1.25], Number.greatest [1.5, 0.75]] = _
    norm_num [Number.greatest, Number.IsDefined]
  have places : place 2 0.05 = 0 ∧ place 2 0.5 = 1 ∧ place 2 0.95 = 1 := by
    have rounded : ⌊(29 / 20 : ℝ)⌋₊ = 1 := by norm_num [Nat.floor_eq_iff]
    norm_num [place, Number.nearestNat, rounded]
  simp only [two, minima, maxima, places] at p5 median p95
  refine ⟨tabled, two, p5.unique ⟨?_, ?_, ?_⟩, median.unique ⟨?_, ?_, ?_⟩, p95.unique ⟨?_, ?_, ?_⟩,
    reordered _ interruptedBatch.reverse_perm.symm⟩
  all_goals norm_num

end BatchSummary
end Stablecoin
