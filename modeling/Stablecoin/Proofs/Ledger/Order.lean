import Mathlib.Data.Prod.Lex
import Mathlib.Data.Real.Basic
import Mathlib.Order.WithBot
import Stablecoin.Proofs.Comparison
import Stablecoin.Proofs.Ledger.Steps

namespace Stablecoin

namespace Ledger

theorem mem_sortedTroves {α : Type} [Number α] {ledger : Ledger α} (entry : AccountId × Ratio α) :
    entry ∈ ledger.sortedTroves ↔
      ∃ trove, ledger.troves.get? entry.1 = some trove ∧ entry.2 = trove.icr ledger.price := by
  rw [ledger.sortedTroves_perm.mem_iff, List.mem_map]
  constructor
  · rintro ⟨recorded, member, rfl⟩
    exact ⟨recorded.2, (Book.get?_eq_some_iff _ _ _).mpr member, rfl⟩
  · rintro ⟨trove, found, ratio⟩
    exact ⟨(entry.1, trove), (Book.get?_eq_some_iff _ _ _).mp found, Prod.ext rfl ratio.symm⟩

section Comparable
variable {α : Type} [Number α] [Number.Ordered α] {ledger : Ledger α}

/-- Nothing in the list is below what comes after it. -/
def FromBest (list : List (AccountId × Ratio α)) : Prop :=
  list.Pairwise fun better worse => ¬ better.2.Below worse.2

theorem place_fromBest (trove : AccountId × Ratio α) {list : List (AccountId × Ratio α)}
    (defined : ∀ entry ∈ list, entry.2.IsDefined) (ordered : FromBest list) : FromBest (place trove list) := by
  induction list with
  | nil => exact List.pairwise_singleton _ _
  | cons best rest ih =>
    obtain ⟨above, tail⟩ := List.pairwise_cons.mp ordered
    obtain ⟨bestDefined, restDefined⟩ := List.forall_mem_cons.mp defined
    unfold place
    split
    · rename_i precedes
      refine List.pairwise_cons.mpr ⟨?_, ih restDefined tail⟩
      intro other member
      rcases List.mem_cons.mp ((place_perm trove rest).mem_iff.mp member) with rfl | there
      · rcases precedes with below | ⟨notAbove, _⟩
        · exact Ratio.below_asymm below
        · exact notAbove
      · exact above other there
    · rename_i follows
      have notBelow : ¬ trove.2.Below best.2 := fun below => follows (.inl below)
      refine List.pairwise_cons.mpr ⟨?_, ordered⟩
      intro other member
      rcases List.mem_cons.mp member with rfl | there
      · exact notBelow
      · intro below
        rcases Ratio.below_or_below bestDefined below with first | second
        · exact notBelow first
        · exact above other there second

theorem foldl_place_fromBest {entries : List (AccountId × Ratio α)} (defined : ∀ entry ∈ entries, entry.2.IsDefined) :
    FromBest (entries.foldl (fun best entry => place entry best) []) := by
  -- Whatever has been placed so far is one of the entries, and so has a defined ratio.
  refine (List.foldlRecOn entries _ (motive := fun placed =>
    FromBest placed ∧ ∀ entry ∈ placed, entry.2.IsDefined) ⟨.nil, by simp⟩ ?_).1
  rintro placed ⟨ordered, placedDefined⟩ entry member
  refine ⟨place_fromBest entry placedDefined ordered, fun other there => ?_⟩
  rcases List.mem_cons.mp ((place_perm entry placed).mem_iff.mp there) with rfl | before
  · exact defined other member
  · exact placedDefined other before

/-- No trove is below one that is listed before it. -/
theorem sortedTroves_not_below (defined : ledger.troves.Each fun trove => (trove.icr ledger.price).IsDefined) :
    ledger.sortedTroves.Pairwise fun worse better => ¬ better.2.Below worse.2 := by
  have ordered := @foldl_place_fromBest α _ _
    (ledger.troves.entries.map fun entry => (entry.1, entry.2.icr ledger.price)) <| by
      intro entry member
      obtain ⟨recorded, inBook, rfl⟩ := List.mem_map.mp member
      exact defined.of_mem inBook
  rw [List.foldl_map] at ordered
  exact List.pairwise_reverse.mpr ordered

/-- Where the first of several troves does not wait for liquidation, all of them are at
    or above the minimum ratio. -/
theorem not_below_of_finished (defined : ledger.troves.Each fun trove => (trove.icr ledger.price).IsDefined)
    (several : 1 < ledger.troves.size) (finished : ¬ ledger.HasPendingLiquidations) :
    ledger.troves.Each fun trove => ¬ (trove.icr ledger.price).Below (.of ledger.terms.mcr) := by
  intro id other found below
  have ordered := sortedTroves_not_below defined
  have listed := (@mem_sortedTroves _ _ ledger (id, other.icr ledger.price)).mpr ⟨other, found, rfl⟩
  obtain ⟨first, rest, sorted⟩ := List.exists_cons_of_ne_nil (List.ne_nil_of_mem listed)
  have head : first ∈ ledger.sortedTroves := sorted ▸ List.mem_cons_self
  obtain ⟨trove, recorded, ratio⟩ := (mem_sortedTroves first).mp head
  have secured : ¬ first.2.Below (.of ledger.terms.mcr) := by
    intro unsecured
    rw [ratio] at unsecured
    have eligible : ledger.Liquidatable trove := .inl unsecured
    simp [HasPendingLiquidations, nextLiquidation?, guard, several, sorted, recorded, eligible] at finished
  have least : ¬ (other.icr ledger.price).Below first.2 := by
    rw [sorted] at ordered listed
    rcases List.mem_cons.mp listed with here | there
    · rw [← here]
      exact fun itself => Ratio.below_asymm itself itself
    · exact (List.pairwise_cons.mp ordered).1 _ there
  have firstDefined : first.2.IsDefined := ratio ▸ defined first.1 trove recorded
  rcases Ratio.below_or_below firstDefined below with worse | unsecured
  · exact least worse
  · exact secured unsecured

end Comparable

end Ledger

/-! ### Exact ratios -/

/-- The place of a ratio on the line of numbers, where the unbounded ratio lies above all. -/
def Ratio.level : Ratio ℝ → WithTop ℝ
  | of value => value
  | unbounded => ⊤

theorem Ratio.below_iff (r s : Ratio ℝ) : r.Below s ↔ r.level < s.level := by
  cases r <;> cases s <;> simp [level]

namespace Ledger
variable {ledger : Ledger ℝ}

/-- What decides between two troves: their ratios, and then their accounts. -/
def standing (entry : AccountId × Ratio ℝ) : WithTop ℝ ×ₗ AccountId := toLex (entry.2.level, entry.1)

theorem precedes_iff (a b : AccountId × Ratio ℝ) : Precedes a b ↔ standing a < standing b := by
  rw [Precedes, Ratio.below_iff, Ratio.below_iff, not_lt, standing, standing, Prod.Lex.toLex_lt_toLex]
  constructor
  · rintro (below | ⟨notAbove, earlier⟩)
    · exact .inl below
    · exact notAbove.lt_or_eq.imp_right fun same => ⟨same, earlier⟩
  · rintro (below | ⟨same, earlier⟩)
    · exact .inl below
    · exact .inr ⟨same.le, earlier⟩

/-- From the best secured trove down. -/
def Descending (list : List (AccountId × Ratio ℝ)) : Prop :=
  list.Pairwise fun better worse => standing worse ≤ standing better

theorem place_descending (trove : AccountId × Ratio ℝ) {list : List (AccountId × Ratio ℝ)}
    (descending : Descending list) : Descending (place trove list) := by
  induction list with
  | nil => exact List.pairwise_singleton _ _
  | cons best rest ih =>
    obtain ⟨above, tail⟩ := List.pairwise_cons.mp descending
    unfold place
    split
    · rename_i precedes
      refine List.pairwise_cons.mpr ⟨?_, ih tail⟩
      intro other member
      rcases List.mem_cons.mp ((place_perm trove rest).mem_iff.mp member) with rfl | there
      · exact ((precedes_iff _ _).mp precedes).le
      · exact above other there
    · rename_i follows
      rw [precedes_iff, not_lt] at follows
      refine List.pairwise_cons.mpr ⟨?_, descending⟩
      intro other member
      rcases List.mem_cons.mp member with rfl | there
      · exact follows
      · exact (above other there).trans follows

theorem foldl_place_descending (entries : List (AccountId × Ratio ℝ)) :
    Descending (entries.foldl (fun best entry => place entry best) []) :=
  List.foldlRecOn entries _ (motive := Descending) List.Pairwise.nil fun _ kept entry _ => place_descending entry kept

/-- The ordered troves ascend, and accounts decide where their ratios do not. -/
theorem sortedTroves_standing (ledger : Ledger ℝ) :
    ledger.sortedTroves.Pairwise fun worse better => standing worse ≤ standing better := by
  have descending := foldl_place_descending
    (ledger.troves.entries.map fun entry => (entry.1, entry.2.icr ledger.price))
  rw [List.foldl_map] at descending
  exact List.pairwise_reverse.mpr descending

/-- The ordered troves ascend from the one that is secured worst. -/
theorem sortedTroves_ascending (ledger : Ledger ℝ) :
    ledger.sortedTroves.Pairwise fun worse better => worse.2.level ≤ better.2.level :=
  ledger.sortedTroves_standing.imp fun inOrder => Prod.Lex.monotone_fst _ _ inOrder

/-- The trove of the account comes first in the order, and so none is secured worse. -/
structure Worst (ledger : Ledger ℝ) (account : AccountId) (trove : Trove ℝ) : Prop where
  found : ledger.troves.get? account = some trove
  first : ledger.sortedTroves.head? = some (account, trove.icr ledger.price)
  least : ∀ id other, ledger.troves.get? id = some other →
    (trove.icr ledger.price).level ≤ (other.icr ledger.price).level

theorem exists_worst (some : 0 < ledger.troves.size) : ∃ account trove, ledger.Worst account trove := by
  have ascending := ledger.sortedTroves_ascending
  have listed := @mem_sortedTroves ℝ _ ledger
  have length : ledger.sortedTroves.length = ledger.troves.size := by
    rw [ledger.sortedTroves_perm.length_eq, List.length_map, Book.size]
  cases sorted : ledger.sortedTroves with
  | nil =>
    rw [sorted] at length
    exact absurd some (by simp [← length])
  | cons first rest =>
    rw [sorted] at ascending listed
    obtain ⟨trove, found, ratio⟩ := (listed first).mp List.mem_cons_self
    refine ⟨first.1, trove, found, by rw [sorted, ← ratio]; rfl, ?_⟩
    intro id other recorded
    rw [← ratio]
    rcases List.mem_cons.mp ((listed (id, other.icr ledger.price)).mpr ⟨other, recorded, rfl⟩) with here | there
    · rw [← here]
    · exact (List.pairwise_cons.mp ascending).1 _ there

end Ledger
end Stablecoin
