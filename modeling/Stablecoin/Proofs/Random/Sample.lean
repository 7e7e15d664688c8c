import Mathlib.Data.List.Range
import Stablecoin.Market.Flows
import Stablecoin.Proofs.Random.SinglePrecision

namespace Stablecoin
namespace Random

/-- Whatever the stream brings, the draw ends with a value of the kind. -/
def Draw.Yields {β : Type} (draw : Draw β) (kind : β → Prop) : Prop := ∀ stream, kind (draw.run stream).1

namespace Draw
variable {β γ : Type} {kind : β → Prop}

theorem yields_pure {value : β} (holds : kind value) : Yields (pure value) kind := fun _ => holds

theorem Yields.bind {goal : γ → Prop} {draw : Draw β} {next : β → Draw γ} (first : draw.Yields kind)
    (later : ∀ value, kind value → (next value).Yields goal) : (draw >>= next).Yields goal := fun stream =>
  later _ (first stream) (draw.run stream).2

theorem yields_any (draw : Draw β) : draw.Yields fun _ => True := fun _ => trivial

/-- What every turn of a loop keeps holds after the loop. -/
theorem yields_foldlM {step : β → γ → Draw β} {value : β} (start : kind value) (items : List γ)
    (next : ∀ value, kind value → ∀ item ∈ items, (step value item).Yields kind) :
    (items.foldlM step value).Yields kind := by
  induction items generalizing value with
  | nil => exact yields_pure start
  | cons item rest ih =>
    rw [List.foldlM_cons]
    refine (next value start item List.mem_cons_self).bind fun value holds => ?_
    exact ih holds fun value holds item member => next value holds item (List.mem_cons_of_mem _ member)

/-- A loop over the places of a range, with what holds before each place. -/
theorem yields_foldlM_range (kind : Nat → β → Prop) {step : β → Nat → Draw β} {value : β} (start : kind 0 value)
    (next : ∀ place value, kind place value → (step value place).Yields (kind (place + 1))) (count : Nat) :
    ((List.range count).foldlM step value).Yields (kind count) := by
  induction count with
  | zero => exact yields_pure start
  | succ count ih =>
    rw [List.range_succ, List.foldlM_append]
    refine ih.bind fun value holds => ?_
    simpa using next count value holds

theorem yields_retry {fallback : β} {trial : Draw (Option β)} (last : kind fallback)
    (tried : trial.Yields fun result => ∀ value ∈ result, kind value) (tries : Nat) :
    (retry fallback trial tries).Yields kind := by
  induction tries with
  | zero => exact yields_pure last
  | succ tries ih =>
    refine tried.bind fun result holds => ?_
    cases result with
    | none => exact ih
    | some value => exact yields_pure (holds value rfl)

/-- The high half of a product of two words is below either of them. -/
theorem highHalf_lt (drawn outcomes : UInt32) (some : outcomes ≠ 0) :
    ((drawn.toUInt64 * outcomes.toUInt64) >>> 32).toUInt32.toNat < outcomes.toNat := by
  have positive : 0 < outcomes.toNat := by
    rw [Nat.pos_iff_ne_zero]
    exact fun none => some (UInt32.toNat_inj.mp none)
  have product : drawn.toNat * outcomes.toNat < 2 ^ 32 * outcomes.toNat :=
    Nat.mul_lt_mul_of_pos_right drawn.toNat_lt positive
  have high : drawn.toNat * outcomes.toNat / 2 ^ 32 < outcomes.toNat :=
    Nat.div_lt_of_lt_mul product
  have small : 2 ^ 32 * outcomes.toNat ≤ 2 ^ 64 := by
    have bound := outcomes.toNat_lt
    omega
  have read : ((drawn.toUInt64 * outcomes.toUInt64) >>> 32).toUInt32.toNat =
      drawn.toNat * outcomes.toNat / 2 ^ 32 % 2 ^ 32 := by
    rw [UInt64.toNat_toUInt32, UInt64.toNat_shiftRight, UInt64.toNat_mul, UInt32.toNat_toUInt64, UInt32.toNat_toUInt64,
      Nat.shiftRight_eq_div_pow, Nat.mod_eq_of_lt (product.trans_le small)]
    rfl
  rw [read]
  exact (Nat.mod_le _ _).trans_lt high

theorem upTo_le (last : UInt32) : (upTo last).Yields fun drawn => drawn.toNat ≤ last.toNat := by
  have counted : (last + 1).toNat = (last.toNat + 1) % 2 ^ 32 := by simp
  have bound := last.toNat_lt
  unfold upTo
  dsimp only
  split
  · rename_i wraps
    intro stream
    have none : (last + 1).toNat = 0 := congrArg UInt32.toNat wraps
    have word := (Draw.word.run stream).1.toNat_lt
    omega
  · rename_i some
    have counts : (last + 1).toNat ≠ 0 := fun none => some (UInt32.toNat_inj.mp none)
    refine @yields_retry _ (fun drawn : UInt32 => drawn.toNat ≤ last.toNat) 0 _ (Nat.zero_le _) ?_ enough
    refine (yields_any word).bind fun drawn _ => yields_pure ?_
    intro value taken
    split at taken
    · obtain rfl := Option.some.inj taken
      have below := highHalf_lt drawn (last + 1) some
      omega
    · cases taken

end Draw
open Draw

theorem indexUpTo_le (last : Nat) : (indexUpTo last).Yields (· ≤ last) := by
  refine (upTo_le last.toUInt32).bind fun drawn within => yields_pure ?_
  exact within.trans (Nat.mod_le last (2 ^ 32))

theorem swapIfInBounds_perm (places : Array Nat) (i j : Nat) :
    (places.swapIfInBounds i j).toList.Perm places.toList := by
  rw [Array.swapIfInBounds_def]
  split
  · split
    · exact Array.perm_iff_toList_perm.mp (Array.swap_perm _ _)
    · exact .refl _
  · exact .refl _

/-- Swaps of drawn places leave what was there, in some order. -/
theorem foldlM_swap_perm (places : Array Nat) (items : List Nat) (draw : Nat → Draw Nat) (other : Nat → Nat → Nat) :
    (items.foldlM (fun (places : Array Nat) i => do return places.swapIfInBounds i (other i (← draw i))) places).Yields
      (·.toList.Perm places.toList) := by
  refine yields_foldlM (.refl _) items fun swapped perm i _ => ?_
  exact (yields_any (draw i)).bind fun j _ => yields_pure ((swapIfInBounds_perm swapped i _).trans perm)

theorem sampleByShuffle_perm (length : Nat) : (sampleByShuffle length length).Yields (·.Perm (List.range length)) := by
  refine (foldlM_swap_perm (Array.range length) (List.range length) _ (· + ·)).bind fun shuffled perm => yields_pure ?_
  rw [Array.toList_range] at perm
  rw [List.take_of_length_le (by rw [perm.length_eq, List.length_range])]
  exact perm

theorem insertDrawn_perm (drawn fresh : Nat) (list : List Nat) :
    (insertDrawn drawn fresh list).Perm ((if drawn ∈ list then fresh else drawn) :: list) := by
  induction list with
  | nil => simp [insertDrawn]
  | cons x rest ih =>
    unfold insertDrawn
    split
    · rename_i here
      simp [here]
    · rename_i elsewhere
      have known : (drawn ∈ x :: rest) = (drawn ∈ rest) := by simp [Ne.symm elsewhere]
      simp only [known]
      exact (ih.cons x).trans (.swap _ _ _)

/-- Where all smaller indices are taken, the next one is the place itself. -/
theorem next_eq_place {chosen : List Nat} {drawn place : Nat} (perm : chosen.Perm (List.range place))
    (within : drawn ≤ place) : (if drawn ∈ chosen then place else drawn) = place := by
  split
  · rfl
  · rename_i fresh
    rw [perm.mem_iff, List.mem_range, Nat.not_lt] at fresh
    exact Nat.le_antisymm within fresh

theorem range_succ_perm {chosen : List Nat} {place : Nat} (perm : chosen.Perm (List.range place)) :
    (place :: chosen).Perm (List.range (place + 1)) := by
  rw [List.range_succ]
  exact (perm.cons place).trans (List.perm_append_singleton place _).symm

theorem sampleByPlaces_perm (length : Nat) : (sampleByPlaces length length).Yields (·.Perm (List.range length)) := by
  have places : (List.range length).map (length - length + ·) = List.range length := by simp
  unfold sampleByPlaces
  simp only [places]
  split
  · refine yields_foldlM_range (fun place chosen => List.Perm chosen (List.range place)) (.refl _)
      (fun place chosen perm => ?_) length
    refine (indexUpTo_le place).bind fun drawn within => yields_pure ?_
    have inserted := insertDrawn_perm drawn place chosen
    rw [next_eq_place perm within] at inserted
    exact inserted.trans (range_succ_perm perm)
  · have chosen : ((List.range length).foldlM (fun (chosen : Array Nat) place => do
        let drawn ← indexUpTo place
        return chosen.push (if chosen.contains drawn then place else drawn)) #[]).Yields
          fun chosen => chosen.toList.Perm (List.range length) := by
      refine yields_foldlM_range (fun place (chosen : Array Nat) => chosen.toList.Perm (List.range place)) (.refl _)
        (fun place chosen perm => ?_) length
      refine (indexUpTo_le place).bind fun drawn within => yields_pure ?_
      have next := next_eq_place perm within
      simp only [Array.contains_eq_mem, decide_eq_true_eq, Array.toList_push, ← Array.mem_toList_iff, next]
      exact (List.perm_append_singleton place _).trans (range_succ_perm perm)
    refine chosen.bind fun drawn perm => ?_
    exact (foldlM_swap_perm drawn _ indexUpTo fun _ j => j).bind fun shuffled swapped =>
      yields_pure (swapped.trans perm)

/-- A sample of the whole range is the range in some order. -/
theorem sampleIndices_perm {length : Nat} (small : length < 2 ^ 32) :
    (sampleIndices length length).Yields (·.Perm (List.range length)) := by
  unfold sampleIndices
  split
  · exact sampleByShuffle_perm length
  · rename_i unshuffled
    have short : length < 163 := by
      by_contra long
      exact unshuffled (shufflePays_self (Nat.not_lt.mp long) small)
    rw [if_pos short]
    exact sampleByPlaces_perm length

end Random
open Stablecoin.Random

theorem filterMap_range_getElem? {β : Type} (items : List β) :
    (List.range items.length).filterMap (items[·]?) = items := by
  induction items with
  | nil => rfl
  | cons item rest ih =>
    rw [List.length_cons, List.range_succ_eq_map, List.filterMap_cons, List.filterMap_map]
    simpa using ih

/-- The choice of as many items as there are takes each of them once. -/
theorem choose_perm {β : Type} (items : List β) (few : items.length < 2 ^ 32) (streams : Streams) (purpose : Purpose)
    (period : Nat) : (choose items items.length streams purpose period).Perm items := by
  unfold choose
  simp only [Nat.min_self]
  split
  · rename_i none
    rw [List.length_eq_zero_iff.mp none]
  · have sample := sampleIndices_perm few (streams.stream purpose period 0)
    have visited := sample.filterMap (items[·]?)
    rw [filterMap_range_getElem?] at visited
    simpa using visited

end Stablecoin
