import Mathlib.Logic.Relation
import Stablecoin.Proofs.Book
import Stablecoin.Proofs.Ledger.Acceptance

/-!
The two loops of the protocol as relations. `Liquidates` says what the liquidation of
one trove has checked and done, and a batch is a chain of such liquidations
(`Liquidations`). `Walk.Step` says the same of one trove redeemed against, and a walk
along the troves is a chain of such steps (`along_reaches`). What each step keeps, a
whole loop keeps.
-/
namespace Stablecoin.Ledger
open Number (tolerance)
variable {α : Type} [Number α]

theorem place_perm (trove : AccountId × Ratio α) (list : List (AccountId × Ratio α)) :
    (place trove list).Perm (trove :: list) := by
  induction list with
  | nil => exact List.Perm.refl _
  | cons best rest ih =>
    unfold place
    split
    · exact (ih.cons best).trans (List.Perm.swap trove best rest)
    · exact List.Perm.refl _

theorem foldl_place_perm (entries list : List (AccountId × Ratio α)) :
    (entries.foldl (fun best entry => place entry best) list).Perm (entries ++ list) := by
  induction entries generalizing list with
  | nil => exact List.Perm.refl _
  | cons entry rest ih =>
    have placed := (place_perm entry list).append_left rest
    exact ((ih (place entry list)).trans placed).trans List.perm_middle

/-- The ordered troves are the troves of the book with their ratios. -/
theorem sortedTroves_perm (ledger : Ledger α) :
    ledger.sortedTroves.Perm (ledger.troves.entries.map fun entry => (entry.1, entry.2.icr ledger.price)) := by
  have placed := foldl_place_perm (ledger.troves.entries.map fun entry => (entry.1, entry.2.icr ledger.price)) []
  rw [List.foldl_map, List.append_nil] at placed
  exact (List.reverse_perm _).trans placed

/-- One trove is liquidated: the one that is secured worst, among several, and one that
    may be liquidated. -/
inductive Liquidates (liquidator : AccountId) (ledger : Ledger α) : Liquidation α → Ledger α → Prop
  | capped {account : AccountId} {icr : Ratio α} {trove : Trove α}
      (several : 1 < ledger.troves.size)
      (worst : ledger.sortedTroves.head? = some (account, icr))
      (found : ledger.troves.get? account = some trove)
      (eligible : ledger.Liquidatable trove)
      (recovery : ledger.InRecovery)
      (secured : ¬ (trove.icr ledger.price).Below (.of ledger.terms.mcr)) :
      Liquidates liquidator ledger ((ledger.seize account liquidator trove).settleCapped account trove).1
        ((ledger.seize account liquidator trove).settleCapped account trove).2
  | inFull {account : AccountId} {icr : Ratio α} {trove : Trove α}
      (several : 1 < ledger.troves.size)
      (worst : ledger.sortedTroves.head? = some (account, icr))
      (found : ledger.troves.get? account = some trove)
      (eligible : ledger.Liquidatable trove)
      (unsecured : ¬ (ledger.InRecovery ∧ ¬ (trove.icr ledger.price).Below (.of ledger.terms.mcr))) :
      Liquidates liquidator ledger ((ledger.seize account liquidator trove).settleInFull account trove).1
        ((ledger.seize account liquidator trove).settleInFull account trove).2

/-- At or above the minimum ratio a trove may go only if the pool covers its debt. -/
theorem Liquidatable.covered {ledger : Ledger α} {trove : Trove α} (eligible : ledger.Liquidatable trove)
    (secured : ¬ (trove.icr ledger.price).Below (.of ledger.terms.mcr)) :
    trove.debt ≤ ledger.totalDeposits + tolerance :=
  (eligible.resolve_left secured).2.2

/-- A trove that may go and is not capped is below the minimum ratio. -/
theorem Liquidatable.below {ledger : Ledger α} {trove : Trove α} (eligible : ledger.Liquidatable trove)
    (unsecured : ¬ (ledger.InRecovery ∧ ¬ (trove.icr ledger.price).Below (.of ledger.terms.mcr))) :
    (trove.icr ledger.price).Below (.of ledger.terms.mcr) := by
  rcases eligible with below | ⟨recovery, _⟩
  · exact below
  · exact not_not.mp fun secured => unsecured ⟨recovery, secured⟩

theorem nextLiquidation?_some {ledger : Ledger α} {account : AccountId}
    (next : ledger.nextLiquidation? = some account) :
    1 < ledger.troves.size ∧ ∃ icr trove, ledger.sortedTroves.head? = some (account, icr) ∧
      ledger.troves.get? account = some trove ∧ ledger.Liquidatable trove := by
  unfold nextLiquidation? at next
  simp only [guard, bind, Option.bind_eq_some_iff] at next
  obtain ⟨_, several, ⟨first, icr⟩, worst, trove, found, chosen⟩ := next
  split at chosen
  · rename_i eligible
    cases chosen
    by_cases many : 1 < ledger.troves.size
    · exact ⟨many, icr, trove, worst, found, eligible⟩
    · simp [many] at several
  · cases chosen

/-- Of several troves the one that is secured worst is asked. -/
theorem nextLiquidation?_of_head {ledger : Ledger α} {account : AccountId} {icr : Ratio α} {trove : Trove α}
    (several : 1 < ledger.troves.size) (head : ledger.sortedTroves.head? = some (account, icr))
    (found : ledger.troves.get? account = some trove) :
    ledger.nextLiquidation? = if ledger.Liquidatable trove then some account else none := by
  simp [nextLiquidation?, guard, several, head, found]

/-- Below the minimum ratio it is taken, and settled in full. -/
theorem next_of_unsecured {ledger : Ledger α} {account : AccountId} {icr : Ratio α} {trove : Trove α}
    (several : 1 < ledger.troves.size) (head : ledger.sortedTroves.head? = some (account, icr))
    (found : ledger.troves.get? account = some trove)
    (unsecured : (trove.icr ledger.price).Below (.of ledger.terms.mcr)) (liquidator : AccountId) :
    ledger.nextLiquidation?.bind (ledger.liquidateOne? · liquidator) =
      some ((ledger.seize account liquidator trove).settleInFull account trove) := by
  have eligible : ledger.Liquidatable trove := .inl unsecured
  rw [nextLiquidation?_of_head several head found, if_pos eligible]
  simp [liquidateOne?, found, unsecured]

/-- A batch of one takes it. -/
theorem perform_of_unsecured {ledger : Ledger α} {account : AccountId} {icr : Ratio α} {trove : Trove α}
    (several : 1 < ledger.troves.size) (head : ledger.sortedTroves.head? = some (account, icr))
    (found : ledger.troves.get? account = some trove)
    (unsecured : (trove.icr ledger.price).Below (.of ledger.terms.mcr)) (liquidator : AccountId) :
    ledger.perform (.liquidateTroves liquidator 1) =
      (.ok (.liquidated [((ledger.seize account liquidator trove).settleInFull account trove).1]),
        ((ledger.seize account liquidator trove).settleInFull account trove).2) := by
  simp [perform, liquidateTroves, liquidateUpTo, next_of_unsecured several head found unsecured liquidator, settle,
    pure_eq_ok]

theorem liquidates_of_next {ledger left : Ledger α} {liquidator : AccountId} {liquidation : Liquidation α}
    (done : (ledger.nextLiquidation?.bind (ledger.liquidateOne? · liquidator)) = some (liquidation, left)) :
    Liquidates liquidator ledger liquidation left := by
  obtain ⟨account, next, taken⟩ := Option.bind_eq_some_iff.mp done
  obtain ⟨several, icr, trove, worst, found, eligible⟩ := nextLiquidation?_some next
  unfold liquidateOne? at taken
  simp only [found, bind, Option.bind_some, pure] at taken
  split at taken
  · rename_i capped
    have settled := Option.some.inj taken
    rw [← (Prod.mk.inj settled).1, ← (Prod.mk.inj settled).2]
    exact .capped several worst found eligible capped.1 capped.2
  · rename_i unsecured
    have settled := Option.some.inj taken
    rw [← (Prod.mk.inj settled).1, ← (Prod.mk.inj settled).2]
    exact .inFull several worst found eligible unsecured

/-- A batch of liquidations, each on the ledger that the one before left. -/
inductive Liquidations (liquidator : AccountId) : Ledger α → List (Liquidation α) → Ledger α → Prop
  | none (ledger : Ledger α) : Liquidations liquidator ledger [] ledger
  | next {ledger mid left : Ledger α} {liquidation : Liquidation α} {rest : List (Liquidation α)}
      (first : Liquidates liquidator ledger liquidation mid) (later : Liquidations liquidator mid rest left) :
      Liquidations liquidator ledger (liquidation :: rest) left

theorem liquidateUpTo_chain (liquidator : AccountId) (count : Nat) (ledger : Ledger α) :
    Liquidations liquidator ledger (ledger.liquidateUpTo liquidator count).1
      (ledger.liquidateUpTo liquidator count).2 := by
  induction count generalizing ledger with
  | zero => exact .none ledger
  | succ count ih =>
    unfold liquidateUpTo
    split
    · exact .none ledger
    · rename_i liquidation left done
      exact .next (liquidates_of_next done) (ih left)

theorem liquidations_of_batch {ledger left : Ledger α} {liquidator : AccountId} {count : Nat}
    {liquidations : List (Liquidation α)} (batch : ledger.liquidateUpTo liquidator count = (liquidations, left)) :
    Liquidations liquidator ledger liquidations left := by
  have chain := liquidateUpTo_chain liquidator count ledger
  rwa [batch] at chain

theorem liquidateTroves_ok {ledger left : Ledger α} {liquidator : AccountId} {count : Nat}
    {liquidations : List (Liquidation α)}
    (accepted : ledger.liquidateTroves liquidator count = .ok (liquidations, left)) :
    liquidations ≠ [] ∧ ledger.liquidateUpTo liquidator count = (liquidations, left) := by
  unfold liquidateTroves at accepted
  split at accepted
  · cases accepted
  · rename_i some all different done
    cases accepted
    exact ⟨different, done⟩

namespace Walk

/-- What the walk takes from a trove: all that remains, or all of its net debt. -/
def share (walk : Walk α) (trove : Trove α) : α :=
  Number.min walk.remaining (trove.debt - walk.ledger.terms.gasCompensation)

/-- The net debt that the trove keeps. -/
def kept (walk : Walk α) (trove : Trove α) : α :=
  trove.debt - walk.ledger.terms.gasCompensation - walk.share trove

/-- One trove is redeemed against. -/
inductive Step : Walk α → Walk α → Prop
  | take {walk : Walk α} {account : AccountId} {trove : Trove α}
      (wanted : ¬ walk.remaining ≤ tolerance)
      (found : walk.ledger.troves.get? account = some trove)
      (eligible : ¬ (trove.icr walk.ledger.price).Below (.of walk.ledger.terms.mcr))
      (noDust : ¬ (tolerance < walk.kept trove ∧ walk.kept trove + tolerance < walk.ledger.terms.minNetDebt)) :
      Step walk (walk.take account trove (walk.share trove) (walk.kept trove))

/-- The list holds different accounts, with the ratio of each trove that is still there. -/
structure Lists (walk : Walk α) (list : List (AccountId × Ratio α)) : Prop where
  nodup : (list.map (·.1)).Nodup
  ratio : ∀ entry ∈ list, ∀ trove, walk.ledger.troves.get? entry.1 = some trove →
    entry.2 = trove.icr walk.ledger.price

theorem Lists.tail {walk : Walk α} {entry : AccountId × Ratio α} {rest : List (AccountId × Ratio α)}
    (lists : walk.Lists (entry :: rest)) : walk.Lists rest :=
  ⟨(List.nodup_cons.mp lists.nodup).2, fun other member => lists.ratio other (List.mem_cons_of_mem _ member)⟩

@[simp] theorem take_terms (walk : Walk α) (account : AccountId) (trove : Trove α) (taken left : α) :
    (walk.take account trove taken left).ledger.terms = walk.ledger.terms := by
  unfold take
  dsimp only
  split <;> rfl

@[simp] theorem take_price (walk : Walk α) (account : AccountId) (trove : Trove α) (taken left : α) :
    (walk.take account trove taken left).ledger.price = walk.ledger.price := by
  unfold take
  dsimp only
  split <;> rfl

theorem take_troves_other (walk : Walk α) {account other : AccountId} (trove : Trove α) (taken left : α)
    (different : other ≠ account) :
    (walk.take account trove taken left).ledger.troves.get? other = walk.ledger.troves.get? other := by
  unfold take
  dsimp only
  split <;> simp [different]

/-- Taking from the trove of one account leaves the rest of the list in order. -/
theorem Lists.take {walk : Walk α} {entry : AccountId × Ratio α} {rest : List (AccountId × Ratio α)}
    (lists : walk.Lists (entry :: rest)) (trove : Trove α) (taken left : α) :
    (walk.take entry.1 trove taken left).Lists rest := by
  refine ⟨lists.tail.nodup, ?_⟩
  intro other member found recorded
  have different : other.1 ≠ entry.1 := by
    intro same
    have again : entry.1 ∈ rest.map (·.1) := List.mem_map.mpr ⟨other, member, same⟩
    exact (List.nodup_cons.mp lists.nodup).1 again
  rw [take_troves_other walk trove taken left different] at recorded
  rw [take_price]
  exact lists.tail.ratio other member found recorded

/-- A walk along the troves is a chain of redemptions against single ones. -/
theorem along_reaches {walk : Walk α} {list : List (AccountId × Ratio α)} (lists : walk.Lists list) :
    Relation.ReflTransGen Step walk (walk.along list) := by
  induction list generalizing walk with
  | nil => exact .refl
  | cons entry rest ih =>
    obtain ⟨account, icr⟩ := entry
    unfold along
    dsimp only
    split
    · exact .refl
    rename_i wanted
    split
    · exact ih lists.tail
    rename_i eligible
    split
    · exact ih lists.tail
    · rename_i trove found
      split
      · exact .refl
      · rename_i noDust
        have current : icr = trove.icr walk.ledger.price := lists.ratio (account, icr) List.mem_cons_self trove found
        rw [current] at eligible
        exact .head (.take wanted found eligible noDust) (ih (lists.take trove _ _))

end Walk

/-- The walk of a redemption before its first step. -/
def walkOf (ledger : Ledger α) (amount : α) : Walk α := ⟨ledger, amount, ⟨0, 0, 0, []⟩⟩

theorem walkOf_lists (ledger : Ledger α) (amount : α) : (ledger.walkOf amount).Lists ledger.sortedTroves := by
  have sorted := ledger.sortedTroves_perm
  constructor
  · refine ((sorted.map (·.1)).nodup_iff).mpr ?_
    rw [List.map_map]
    exact ledger.troves.nodup_accounts
  · intro entry member trove found
    obtain ⟨recorded, inBook, rfl⟩ := List.mem_map.mp (sorted.mem_iff.mp member)
    have same := (Book.get?_eq_some_iff ledger.troves recorded.1 recorded.2).mpr inBook
    have equal : some recorded.2 = some trove := same.symm.trans found
    rw [Option.some.inj equal]
    rfl

/-- A redemption that has passed its checks and walked along the troves. -/
structure Walked (ledger : Ledger α) (redeemer : AccountId) (amount : α) (walk : Walk α) : Prop where
  proper : ¬ (amount ≤ 0 ∨ Number.isFinite amount = false)
  covered : ¬ ledger.balance redeemer + tolerance < amount
  systemSecured : ¬ ledger.tcr.Below (.of ledger.terms.mcr)
  reached : Relation.ReflTransGen Walk.Step (ledger.walkOf amount) walk
  walk_eq : walk = (ledger.walkOf amount).along ledger.sortedTroves

/-- What holds before the first step, and what every step keeps, holds of the walk. -/
theorem Walked.keeps {ledger : Ledger α} {redeemer : AccountId} {amount : α} {walk : Walk α} {motive : Walk α → Prop}
    (walked : Walked ledger redeemer amount walk) (start : motive (ledger.walkOf amount))
    (step : ∀ walk next, motive walk → Walk.Step walk next → motive next) : motive walk := by
  have reached := walked.reached
  clear walked
  induction reached with
  | refl => exact start
  | tail _ last ih => exact step _ _ ih last

/-- How a redemption ends: refused by a check, without anything to redeem, short of the
    stablecoin to pay with, or accepted. -/
inductive Redeems (ledger : Ledger α) (redeemer : AccountId) (amount : α) :
    Except (Refusal α) (Redemption α) → Ledger α → Prop
  | refused (refusal : Refusal α) : Redeems ledger redeemer amount (.error refusal) ledger
  | nothing {walk : Walk α} (walked : Walked ledger redeemer amount walk)
      (dust : walk.taken.redeemed ≤ tolerance) :
      Redeems ledger redeemer amount (.error .nothingToRedeem) walk.ledger
  | short {walk : Walk α} {refusal : Refusal α} (walked : Walked ledger redeemer amount walk)
      (something : ¬ walk.taken.redeemed ≤ tolerance)
      (uncovered : walk.ledger.debit redeemer walk.taken.redeemed = .error refusal) :
      Redeems ledger redeemer amount (.error refusal) walk.ledger
  | accepted {walk : Walk α} {paid : Ledger α} {baseRate fee : α} (walked : Walked ledger redeemer amount walk)
      (something : ¬ walk.taken.redeemed ≤ tolerance)
      (debited : walk.ledger.debit redeemer walk.taken.redeemed = .ok paid)
      (baseRate_eq : baseRate =
        if tolerance < ledger.supply then
          Number.min (paid.baseRate + walk.taken.redeemed / ledger.supply / ledger.terms.redemptionBeta) 1
        else paid.baseRate)
      (fee_eq : fee = walk.taken.collateralDrawn *
        { paid with supply := paid.supply - walk.taken.redeemed, baseRate }.redemptionRate) :
      Redeems ledger redeemer amount (.ok { walk.taken with fee })
        { paid with
          supply := paid.supply - walk.taken.redeemed
          baseRate := baseRate
          redemptionFees := paid.redemptionFees + fee }

theorem redeem_redeems (ledger : Ledger α) (redeemer : AccountId) (amount : α) :
    Redeems ledger redeemer amount (ledger.redeem redeemer amount).1 (ledger.redeem redeemer amount).2 := by
  have reached := Walk.along_reaches (ledger.walkOf_lists amount)
  unfold redeem
  dsimp only
  split
  · exact .refused _
  rename_i proper
  split
  · exact .refused _
  rename_i covered
  split
  · exact .refused _
  rename_i systemSecured
  have walked : Walked ledger redeemer amount _ := ⟨proper, covered, systemSecured, reached, rfl⟩
  split
  · rename_i dust
    exact .nothing walked dust
  · rename_i something
    split
    · rename_i refusal uncovered
      exact .short walked something uncovered
    · rename_i paid debited
      exact .accepted walked something debited rfl rfl

theorem redeems_of_redeem {ledger left : Ledger α} {redeemer : AccountId} {amount : α}
    {result : Except (Refusal α) (Redemption α)} (redeemed : ledger.redeem redeemer amount = (result, left)) :
    Redeems ledger redeemer amount result left := by
  have redeems := ledger.redeem_redeems redeemer amount
  rwa [redeemed] at redeems

end Stablecoin.Ledger
