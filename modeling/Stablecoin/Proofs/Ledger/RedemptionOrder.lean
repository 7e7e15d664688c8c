import Stablecoin.Proofs.Ledger.Backing
import Stablecoin.Proofs.Ledger.Order

/-!
The order of redemption. A redemption goes up the troves at or above the minimum ratio and
takes what it still wants of each (`takes`). It closes the first of them, may take a part of
the one after, and leaves all others alone. It stops where nothing more is wanted, where no
trove is left, or before a trove that would keep too little (`Climbs`, `WalkedUp`). What it
takes is what it reports, in stablecoin and in collateral, and it keeps no fee beyond that
(`redemption_walks_up`).
-/
namespace Stablecoin.Ledger
open Number (tolerance tolerance_pos)
variable {terms : Terms ℝ} {ledger left : Ledger ℝ} {walk final : Walk ℝ} {account : AccountId} {trove : Trove ℝ}
  {list : List (AccountId × Ratio ℝ)} {troves closed rest : List (AccountId × Trove ℝ)}
  {cut : Option (AccountId × Trove ℝ)}

/-- The listed troves at or above the minimum ratio. -/
noncomputable def redeemableOf (ledger : Ledger ℝ) (list : List (AccountId × Ratio ℝ)) : List (AccountId × Trove ℝ) :=
  list.filterMap fun entry =>
    if entry.2.Below (.of ledger.terms.mcr) then none else (ledger.troves.get? entry.1).map (entry.1, ·)

/-- The troves that may be redeemed against, from the worst secured one up. -/
noncomputable def redeemable (ledger : Ledger ℝ) : List (AccountId × Trove ℝ) := ledger.redeemableOf ledger.sortedTroves

/-- What is taken from each trove in turn: what is still wanted, or its net debt. -/
noncomputable def takes (gas : ℝ) : ℝ → List (AccountId × Trove ℝ) → List ℝ
  | _, [] => []
  | wanted, (_, trove) :: rest =>
    min wanted (trove.debt - gas) :: takes gas (wanted - min wanted (trove.debt - gas)) rest

/-- What has become of the troves: those that are closed gave all of their net debt, of the
    one that is cut the last take is gone with the collateral for it, and every other is as
    it was. -/
structure TakenFrom (ledger : Ledger ℝ) (wanted : ℝ) (closed : List (AccountId × Trove ℝ))
    (cut : Option (AccountId × Trove ℝ)) (left : Ledger ℝ) : Prop where
  emptied : List.Forall₂ (fun entry taken => entry.2.debt - ledger.terms.gasCompensation - taken ≤ tolerance) closed
    (takes ledger.terms.gasCompensation wanted closed)
  gone : ∀ entry ∈ closed, left.troves.get? entry.1 = none
  reduced : ∀ account trove, cut = some (account, trove) → ∃ taken,
    takes ledger.terms.gasCompensation wanted (closed ++ [(account, trove)]) =
        takes ledger.terms.gasCompensation wanted closed ++ [taken] ∧
      0 < taken ∧ left.troves.get? account = some ⟨trove.collateral - taken / ledger.price, trove.debt - taken⟩ ∧
      ledger.terms.minNetDebt - tolerance ≤ trove.debt - taken - ledger.terms.gasCompensation
  untouched : ∀ account, account ∉ (closed ++ cut.toList).map (·.1) →
    left.troves.get? account = ledger.troves.get? account

/-- There is no trove to go on with, or the first would keep net debt below the minimum. -/
def StopsBefore (ledger : Ledger ℝ) (wanted : ℝ) : List (AccountId × Trove ℝ) → Prop
  | [] => True
  | (_, trove) :: _ =>
    tolerance < trove.debt - ledger.terms.gasCompensation - wanted ∧
      trove.debt - ledger.terms.gasCompensation - wanted + tolerance < ledger.terms.minNetDebt

/-! ### The troves that may be redeemed against -/

theorem mem_redeemable :
    (account, trove) ∈ ledger.redeemable ↔
      ledger.troves.get? account = some trove ∧ ¬ (trove.icr ledger.price).Below (.of ledger.terms.mcr) := by
  simp only [redeemable, redeemableOf, List.mem_filterMap]
  constructor
  · rintro ⟨entry, listed, taken⟩
    split at taken
    · cases taken
    · rename_i secured
      obtain ⟨other, found, same⟩ := Option.map_eq_some_iff.mp taken
      cases same
      obtain ⟨_, recorded, ratio⟩ := (mem_sortedTroves entry).mp listed
      obtain rfl := Option.some.inj (found.symm.trans recorded)
      exact ⟨found, ratio ▸ secured⟩
  · rintro ⟨found, secured⟩
    exact ⟨(account, trove.icr ledger.price), (mem_sortedTroves _).mpr ⟨trove, found, rfl⟩, by simp [secured, found]⟩

theorem redeemableOf_cons_of_below {icr : Ratio ℝ} (below : icr.Below (.of ledger.terms.mcr)) :
    ledger.redeemableOf ((account, icr) :: list) = ledger.redeemableOf list := by
  simp [redeemableOf, below]

theorem redeemableOf_cons_of_none {icr : Ratio ℝ} (none : ledger.troves.get? account = none) :
    ledger.redeemableOf ((account, icr) :: list) = ledger.redeemableOf list := by
  simp [redeemableOf, none]

theorem redeemableOf_cons {icr : Ratio ℝ} (secured : ¬ icr.Below (.of ledger.terms.mcr))
    (found : ledger.troves.get? account = some trove) :
    ledger.redeemableOf ((account, icr) :: list) = (account, trove) :: ledger.redeemableOf list := by
  simp [redeemableOf, secured, found]

theorem redeemableOf_accounts (ledger : Ledger ℝ) (list : List (AccountId × Ratio ℝ)) :
    ((ledger.redeemableOf list).map (·.1)).Sublist (list.map (·.1)) := by
  induction list with
  | nil => exact .slnil
  | cons entry rest ih =>
    obtain ⟨account, icr⟩ := entry
    by_cases below : icr.Below (.of ledger.terms.mcr)
    · rw [redeemableOf_cons_of_below below]
      exact ih.cons _
    · cases found : ledger.troves.get? account with
      | none =>
        rw [redeemableOf_cons_of_none found]
        exact ih.cons _
      | some trove =>
        rw [redeemableOf_cons below found]
        exact ih.cons_cons _

/-- Taking from one trove leaves the others as redeemable as they were. -/
theorem redeemableOf_take (walk : Walk ℝ) (trove : Trove ℝ) (taken left : ℝ) {entry : AccountId × Ratio ℝ}
    (lists : walk.Lists (entry :: list)) :
    (walk.take entry.1 trove taken left).ledger.redeemableOf list = walk.ledger.redeemableOf list := by
  refine List.filterMap_congr fun other member => ?_
  have different : other.1 ≠ entry.1 := by
    intro same
    exact (List.nodup_cons.mp lists.nodup).1 (List.mem_map.mpr ⟨other, member, same⟩)
  rw [Walk.take_terms, Walk.take_troves_other walk trove taken left different]

/-! ### The walk -/

namespace Walk

theorem share_eq (walk : Walk ℝ) (trove : Trove ℝ) :
    walk.share trove = min walk.remaining (trove.debt - walk.ledger.terms.gasCompensation) :=
  Number.min_real _ _

/-- A trove that keeps net debt has given all that was wanted. -/
theorem share_eq_remaining (stays : tolerance < walk.kept trove) : walk.share trove = walk.remaining := by
  have some := tolerance_pos
  rw [kept, share_eq] at stays
  rw [share_eq]
  apply min_eq_left
  by_contra less
  rw [min_eq_right (not_le.mp less).le] at stays
  linarith

theorem along_of_spent (spent : walk.remaining ≤ tolerance) (list : List (AccountId × Ratio ℝ)) :
    walk.along list = walk := by
  cases list with
  | nil => rfl
  | cons entry rest => simp [along, spent]

/-- A walk up the troves to where it ends. -/
inductive Climbs : Walk ℝ → List (AccountId × Trove ℝ) → Walk ℝ → Prop
  | spent {walk : Walk ℝ} {troves : List (AccountId × Trove ℝ)} (spent : walk.remaining ≤ tolerance) :
      Climbs walk troves walk
  | exhausted (walk : Walk ℝ) : Climbs walk [] walk
  | dust {walk : Walk ℝ} {account : AccountId} {trove : Trove ℝ} {rest : List (AccountId × Trove ℝ)}
      (keeps : tolerance < walk.kept trove) (little : walk.kept trove + tolerance < walk.ledger.terms.minNetDebt) :
      Climbs walk ((account, trove) :: rest) walk
  | reduces {walk : Walk ℝ} {account : AccountId} {trove : Trove ℝ} {rest : List (AccountId × Trove ℝ)}
      (wanted : tolerance < walk.remaining) (keeps : tolerance < walk.kept trove)
      (enough : walk.ledger.terms.minNetDebt ≤ walk.kept trove + tolerance) :
      Climbs walk ((account, trove) :: rest) (walk.take account trove (walk.share trove) (walk.kept trove))
  | closes {walk final : Walk ℝ} {account : AccountId} {trove : Trove ℝ} {rest : List (AccountId × Trove ℝ)}
      (gone : walk.kept trove ≤ tolerance)
      (later : Climbs (walk.take account trove (walk.share trove) (walk.kept trove)) rest final) :
      Climbs walk ((account, trove) :: rest) final

theorem along_climbs (lists : walk.Lists list) : Climbs walk (walk.ledger.redeemableOf list) (walk.along list) := by
  induction list generalizing walk with
  | nil => exact .exhausted walk
  | cons entry rest ih =>
    obtain ⟨account, icr⟩ := entry
    unfold along
    dsimp only
    split
    · rename_i spent
      exact .spent spent
    rename_i wanted
    split
    · rename_i below
      rw [redeemableOf_cons_of_below below]
      exact ih lists.tail
    rename_i secured
    split
    · rename_i none
      rw [redeemableOf_cons_of_none none]
      exact ih lists.tail
    rename_i trove found
    rw [redeemableOf_cons secured found]
    split
    · rename_i dust
      exact .dust dust.1 dust.2
    rename_i noDust
    by_cases gone : walk.kept trove ≤ tolerance
    · have later := ih (lists.take trove (walk.share trove) (walk.kept trove))
      rw [redeemableOf_take walk trove _ _ lists] at later
      exact .closes gone later
    · -- What is taken in part takes all that is wanted, so the walk ends here.
      have keeps := not_le.mp gone
      have enough : walk.ledger.terms.minNetDebt ≤ walk.kept trove + tolerance :=
        not_lt.mp fun little => noDust ⟨keeps, little⟩
      have spent : (walk.take account trove (walk.share trove) (walk.kept trove)).remaining ≤ tolerance := by
        simp only [take, share_eq_remaining keeps, sub_self]
        exact tolerance_pos.le
      refine (along_of_spent spent rest).symm ▸ ?_
      exact .reduces (not_le.mp wanted) keeps enough

/-- A walk has closed some troves and cut at most one more. -/
structure WalkedUp (walk : Walk ℝ) (closed : List (AccountId × Trove ℝ)) (cut : Option (AccountId × Trove ℝ))
    (rest : List (AccountId × Trove ℝ)) (final : Walk ℝ) : Prop where
  closed_eq : final.taken.closed = walk.taken.closed ++ closed.map (·.1)
  redeemed_eq : final.taken.redeemed = walk.taken.redeemed +
    (takes walk.ledger.terms.gasCompensation walk.remaining (closed ++ cut.toList)).sum
  troves : TakenFrom walk.ledger walk.remaining closed cut final.ledger
  complete : tolerance < final.remaining → cut = none ∧ StopsBefore walk.ledger final.remaining rest

/-- A walk that ends where it starts. -/
theorem WalkedUp.stays (stops : tolerance < walk.remaining → StopsBefore walk.ledger walk.remaining troves) :
    WalkedUp walk [] none troves walk where
  closed_eq := (List.append_nil _).symm
  redeemed_eq := (add_zero _).symm
  troves :=
    { emptied := .nil
      gone := by simp
      reduced := by simp
      untouched := fun _ _ => rfl }
  complete some := ⟨rfl, stops some⟩

theorem WalkedUp.reduces (wanted : tolerance < walk.remaining) (keeps : tolerance < walk.kept trove)
    (enough : walk.ledger.terms.minNetDebt ≤ walk.kept trove + tolerance) :
    WalkedUp walk [] (some (account, trove)) rest (walk.take account trove (walk.share trove) (walk.kept trove)) where
  closed_eq := by simp [take, not_le.mpr keeps]
  redeemed_eq := by simp [take, takes, share_eq]
  troves :=
    { emptied := .nil
      gone := by simp
      reduced := by
        rintro account trove ⟨⟩
        rw [kept] at enough
        have taken : 0 < walk.share trove := by
          rw [share_eq_remaining keeps]
          exact tolerance_pos.trans wanted
        exact ⟨walk.share trove, by simp [takes, share_eq], taken, by simp [take, not_le.mpr keeps], by linarith⟩
      untouched := by
        intro other absent
        exact take_troves_other walk trove _ _ (by simpa using absent) }
  complete some := by
    -- All that was wanted has been taken.
    simp only [take, share_eq_remaining keeps, sub_self] at some
    exact absurd some tolerance_pos.not_gt

theorem WalkedUp.closes (gone : walk.kept trove ≤ tolerance)
    (absent : account ∉ (closed ++ cut.toList).map (·.1))
    (later : WalkedUp (walk.take account trove (walk.share trove) (walk.kept trove)) closed cut rest final) :
    WalkedUp walk ((account, trove) :: closed) cut rest final := by
  have taken : (walk.take account trove (walk.share trove) (walk.kept trove)).ledger.troves.get? account = none := by
    simp [take, gone]
  have remaining : (walk.take account trove (walk.share trove) (walk.kept trove)).remaining =
      walk.remaining - min walk.remaining (trove.debt - walk.ledger.terms.gasCompensation) := by
    rw [← share_eq]
    rfl
  obtain ⟨closed_eq, redeemed_eq, ⟨emptied, others, reduced, untouched⟩, complete⟩ := later
  rw [take_terms, remaining] at redeemed_eq emptied
  simp only [take_terms, take_price, remaining] at reduced
  constructor
  · simpa [take, gone] using closed_eq
  · rw [redeemed_eq]
    simp only [take, share_eq, takes, List.cons_append, List.sum_cons]
    ring
  · rw [kept, share_eq] at gone
    constructor
    · exact .cons gone emptied
    · intro entry member
      rcases List.mem_cons.mp member with rfl | there
      · exact (untouched account absent).trans taken
      · exact others entry there
    · intro other otherTrove isCut
      obtain ⟨last, appended, some, kept, enough⟩ := reduced other otherTrove isCut
      exact ⟨last, by simp only [List.cons_append, takes, appended], some, kept, enough⟩
    · intro other outside
      rw [List.cons_append, List.map_cons, List.mem_cons, not_or] at outside
      exact (untouched other outside.2).trans (take_troves_other walk trove _ _ outside.1)
  · intro some
    obtain ⟨isNone, stops⟩ := complete some
    refine ⟨isNone, ?_⟩
    unfold StopsBefore at stops ⊢
    simpa only [take_terms] using stops

theorem Climbs.walkedUp (climbs : Climbs walk troves final) (nodup : (troves.map (·.1)).Nodup) :
    ∃ closed cut rest, troves = closed ++ (cut.toList ++ rest) ∧ WalkedUp walk closed cut rest final := by
  induction climbs with
  | @spent walk troves spent => exact ⟨[], none, troves, rfl, .stays fun some => absurd some (not_lt.mpr spent)⟩
  | exhausted walk => exact ⟨[], none, [], rfl, .stays fun _ => trivial⟩
  | @dust walk account trove rest keeps little =>
    refine ⟨[], none, (account, trove) :: rest, rfl, .stays fun _ => ?_⟩
    have all := share_eq_remaining keeps
    rw [kept, all] at keeps little
    exact ⟨keeps, little⟩
  | @reduces walk account trove rest wanted keeps enough =>
    exact ⟨[], some (account, trove), rest, rfl, .reduces wanted keeps enough⟩
  | @closes walk final account trove rest gone later ih =>
    obtain ⟨absent, nodupRest⟩ := List.nodup_cons.mp nodup
    obtain ⟨closed, cut, others, rfl, walkedUp⟩ := ih nodupRest
    refine ⟨(account, trove) :: closed, cut, others, rfl, walkedUp.closes gone ?_⟩
    intro member
    rw [← List.append_assoc, List.map_append] at absent
    exact absent (List.mem_append_left _ member)

/-- The amounts of a walk on its way. -/
structure Measured (start : Ledger ℝ) (amount : ℝ) (walk : Walk ℝ) : Prop where
  price : walk.ledger.price = start.price
  remaining : walk.remaining = amount - walk.taken.redeemed
  within : walk.taken.redeemed ≤ amount
  drawn : walk.taken.collateralDrawn = walk.taken.redeemed / start.price

theorem Measured.step {next : Walk ℝ} {amount : ℝ} (measured : walk.Measured ledger amount) (step : Step walk next) :
    next.Measured ledger amount := by
  cases step with
  | @take account trove wanted found eligible noDust =>
    have within := walk.share_le_remaining trove
    rw [measured.remaining] at within
    constructor
    · rw [take_price, measured.price]
    · simp only [take, measured.remaining]
      ring
    · simp only [take]
      linarith
    · simp only [take, measured.price, measured.drawn]
      ring

end Walk

variable {redeemer : AccountId} {amount : ℝ} {redemption : Redemption ℝ}

theorem Walked.measured (walked : Walked ledger redeemer amount walk) (proper : 0 ≤ amount) :
    walk.Measured ledger amount :=
  walked.keeps
    { price := rfl
      remaining := (sub_zero _).symm
      within := proper
      drawn := (zero_div _).symm }
    fun _ _ measured step => measured.step step

theorem Walked.walkedUp (walked : Walked ledger redeemer amount walk) :
    ∃ closed cut rest, ledger.redeemable = closed ++ (cut.toList ++ rest) ∧
      Walk.WalkedUp (ledger.walkOf amount) closed cut rest walk := by
  have climbs := Walk.along_climbs (ledger.walkOf_lists amount)
  rw [← walked.walk_eq] at climbs
  refine climbs.walkedUp ?_
  exact (ledger.redeemableOf_accounts ledger.sortedTroves).nodup (ledger.walkOf_lists amount).nodup

/-! ### An accepted redemption -/

/-- A sound trove that is secured above its debt is no worse secured once debt was taken
    for collateral of the same worth. -/
theorem icr_of_reduced (secure : terms.Secure) (sound : trove.Sound terms) {price taken : ℝ}
    (eligible : ¬ (trove.icr price).Below (.of terms.mcr)) (taken_nonneg : 0 ≤ taken) (less : taken < trove.debt) :
    ¬ ((⟨trove.collateral - taken / price, trove.debt - taken⟩ : Trove ℝ).icr price).Below (trove.icr price) := by
  have indebted := sound.indebted secure
  have positive := sound.price_pos secure eligible
  have worth : trove.debt ≤ trove.collateral * price :=
    (le_mul_of_one_le_left indebted.le secure.mcr.le).trans (Trove.le_of_not_below indebted eligible)
  have left : 0 < trove.debt - taken := sub_pos.mpr less
  rw [Trove.icr, Trove.icr, if_neg (not_le.mpr left), if_neg (not_le.mpr indebted), Ratio.below_of_of, not_lt]
  rw [div_le_div_iff₀ indebted left, sub_mul, div_mul_cancel₀ _ positive.ne']
  have more := mul_le_mul_of_nonneg_left worth taken_nonneg
  linarith

/-- What a redemption takes, whom it takes it from, and what it says of it. -/
structure RedeemsInOrder (ledger : Ledger ℝ) (amount : ℝ) (redemption : Redemption ℝ) (left : Ledger ℝ)
    (closed : List (AccountId × Trove ℝ)) (cut : Option (AccountId × Trove ℝ)) (rest : List (AccountId × Trove ℝ)) :
    Prop where
  split : ledger.redeemable = closed ++ (cut.toList ++ rest)
  closed_eq : redemption.closed = closed.map (·.1)
  redeemed_eq : redemption.redeemed = (takes ledger.terms.gasCompensation amount (closed ++ cut.toList)).sum
  troves : TakenFrom ledger amount closed cut left
  icr_le : ∀ account trove, cut = some (account, trove) → ∀ after, left.troves.get? account = some after →
    ¬ (after.icr ledger.price).Below (trove.icr ledger.price)
  complete : tolerance < amount - redemption.redeemed →
    cut = none ∧ StopsBefore ledger (amount - redemption.redeemed) rest

theorem Secured.price_pos_of_redeemable (secured : ledger.Secured terms) {entry : AccountId × Trove ℝ}
    (member : entry ∈ ledger.redeemable) : 0 < ledger.price := by
  obtain rfl := secured.terms_eq
  obtain ⟨found, eligible⟩ := mem_redeemable.mp member
  exact (secured.troves _ _ found).price_pos secured.secure eligible

/-- Something is taken from a trove only, so not below a positive price. -/
theorem Secured.price_pos_of_walked (secured : ledger.Secured terms) (walked : Walked ledger redeemer amount walk)
    (something : tolerance < walk.taken.redeemed) : 0 < ledger.price := by
  obtain ⟨closed, cut, rest, split, walkedUp⟩ := walked.walkedUp
  cases touched : closed ++ cut.toList with
  | nil =>
    have nothing := walkedUp.redeemed_eq
    rw [touched] at nothing
    simp only [takes, walkOf, List.sum_nil, add_zero] at nothing
    rw [nothing] at something
    exact absurd something tolerance_pos.not_gt
  | cons entry others =>
    have member : entry ∈ ledger.redeemable := by
      rw [split, ← List.append_assoc, touched]
      exact List.mem_cons_self
    exact secured.price_pos_of_redeemable member

theorem Secured.redeemsInOrder (secured : ledger.Secured terms)
    (redeems : Redeems ledger redeemer amount (.ok redemption) left) :
    ∃ closed cut rest, RedeemsInOrder ledger amount redemption left closed cut rest := by
  cases redeems with
  | @accepted walk paid baseRate fee walked something debited baseRate_eq fee_eq =>
    obtain ⟨closed, cut, rest, split, walkedUp⟩ := walked.walkedUp
    have measured := walked.measured (not_le.mp (not_or.mp walked.proper).1).le
    obtain ⟨_, rfl⟩ := debit_ok debited
    have troves : TakenFrom ledger amount closed cut walk.ledger := walkedUp.troves
    refine ⟨closed, cut, rest, ?_⟩
    constructor
    · exact split
    · exact walkedUp.closed_eq
    · exact walkedUp.redeemed_eq.trans (zero_add _)
    · exact { troves with }
    · intro account trove isCut after found
      obtain ⟨taken, _, positive, kept, enough⟩ := troves.reduced account trove isCut
      obtain rfl := Option.some.inj (found.symm.trans kept)
      have member : (account, trove) ∈ ledger.redeemable := by simp [split, isCut]
      obtain ⟨recorded, eligible⟩ := mem_redeemable.mp member
      obtain rfl := secured.terms_eq
      have less : taken < trove.debt := by
        have minimum := secured.secure.minNetDebt
        have gas := secured.secure.gas
        linarith [tolerance_pos]
      exact icr_of_reduced secured.secure (secured.troves account trove recorded) eligible positive.le less
    · have complete := walkedUp.complete
      rw [measured.remaining] at complete
      exact complete

/-- An accepted redemption reports what it took, and keeps a part of the collateral at most. -/
theorem Secured.redeems_amounts (secured : ledger.Secured terms)
    (redeems : Redeems ledger redeemer amount (.ok redemption) left) :
    redemption.redeemed ≤ amount ∧ redemption.collateralDrawn * ledger.price = redemption.redeemed ∧
      0 ≤ redemption.fee ∧ redemption.fee ≤ redemption.collateralDrawn ∧
      left.supply = ledger.supply - (redemption.redeemed + terms.gasCompensation * redemption.closed.length) := by
  have rate_nonneg := (secured.redeems redeems).baseRate_nonneg
  obtain rfl := secured.terms_eq
  cases redeems with
  | @accepted walk paid baseRate fee walked something debited baseRate_eq fee_eq =>
    have measured := walked.measured (not_le.mp (not_or.mp walked.proper).1).le
    have burned := walked.burned
    have some := not_le.mp something
    have positive := secured.price_pos_of_walked walked some
    obtain ⟨_, rfl⟩ := debit_ok debited
    have drawn : 0 ≤ walk.taken.collateralDrawn := by
      rw [measured.drawn]
      exact div_nonneg (tolerance_pos.trans some).le positive.le
    have floor := secured.secure.redemptionFeeFloor
    rw [← burned.terms] at floor
    rw [redemptionRate, Number.min_real] at fee_eq
    refine ⟨measured.within, ?_, ?_, ?_, ?_⟩
    · simp only [measured.drawn]
      exact div_mul_cancel₀ _ positive.ne'
    · rw [fee_eq]
      exact mul_nonneg drawn (le_min (add_nonneg floor rate_nonneg) zero_le_one)
    · rw [fee_eq]
      exact mul_le_of_le_one_right drawn (min_le_right _ _)
    · simp only [burned.supply]
      ring

/-- After every run an accepted redemption goes up the troves at or above the minimum ratio:
    it closes the first of them, cuts at most the one after, and stops early only before a
    trove that would keep too little. -/
theorem redemption_walks_up (secure : terms.Secure) (price : ℝ) (calls : List (Call ℝ))
    (accepted : ((new terms price).after calls).redeem redeemer amount = (.ok redemption, left)) :
    let ledger := (new terms price).after calls
    (∃ closed cut rest, RedeemsInOrder ledger amount redemption left closed cut rest) ∧
      redemption.redeemed ≤ amount ∧ redemption.collateralDrawn * ledger.price = redemption.redeemed ∧
      0 ≤ redemption.fee ∧ redemption.fee ≤ redemption.collateralDrawn ∧
      left.supply = ledger.supply - (redemption.redeemed + terms.gasCompensation * redemption.closed.length) := by
  intro ledger
  have secured : ledger.Secured terms := after_secured secure price calls
  have redeems := redeems_of_redeem accepted
  exact ⟨secured.redeemsInOrder redeems, secured.redeems_amounts redeems⟩

/-! ### A redemption that closes one trove and cuts another -/

/-- Two troves at a price that secures both, and stablecoin of the one owner with the other. -/
noncomputable def hoarded : Ledger ℝ :=
  { pair with
    price := 1000.0
    balances := ⟨[(7, 2500.0), (8, 1500.0)], by simp⟩ }

/-- The calls that lead to the two troves and move the stablecoin. -/
noncomputable def hoardingCalls : List (Call ℝ) :=
  [.openTrove 7 10.0 2000.0, .openTrove 8 3.0 2000.0, .transfer 8 7 500.0]

theorem hoarded_reached : (new Parameters.defaultTerms 1000.0).after hoardingCalls = hoarded := by
  have moved : ({ pair with price := 1000.0 }.perform (.transfer 8 7 500.0)).2 = hoarded := by
    refine congrArg Prod.snd (perform_transfer ?_ ?_ ?_) <;> norm_num [readings, hoarded, pair_eq]
  rw [hoardingCalls, after_cons, lone_opened, after_cons, lone_joined, after_cons, moved]
  rfl

theorem hoarded_redeemed : ∃ redemption left, hoarded.redeem 7 2110.0 = (.ok redemption, left) ∧
    redemption.closed = [8] ∧ redemption.redeemed = 2110 := by
  have secured : ¬ hoarded.tcr.Below (.of hoarded.terms.mcr) :=
    not_ratio_below (by norm_num [readings, hoarded, pair_eq, Parameters.defaultTerms])
  have sorted : hoarded.sortedTroves = [(8, .of (3000 / 2210)), (7, .of (10000 / 2210))] := by
    norm_num [hoarded, pair, sortedTroves, place, Precedes, Trove.icr]
  have walked : (hoarded.walkOf 2110.0).along hoarded.sortedTroves =
      ⟨{ hoarded with
          troves := ⟨[(7, ⟨9.9, 2110.0⟩)], by simp⟩
          gasPool := 200.0
          supply := 4220.0
          surplus := 0.99 }, 0, ⟨2110.0, 2.11, 0, [8]⟩⟩ := by
    rw [sorted]
    norm_num [hoarded, pair_eq, walkOf, Number.tolerance_real, Walk.along, Walk.take, Parameters.defaultTerms]
  rw [walkOf] at walked
  simp only [redeem, secured, walked]
  norm_num [readings, hoarded, debit, Number.tolerance_real, pure_eq_ok]

theorem hoarded_walks_up :
    (Parameters.defaultTerms : Terms ℝ).Secure ∧
      ∃ redemption left, ((new Parameters.defaultTerms 1000.0).after hoardingCalls).redeem 7 2110.0 =
          (.ok redemption, left) ∧
        redemption.closed = [8] ∧ redemption.redeemed = 2110 ∧ left.supply = 2110 := by
  obtain ⟨redemption, left, accepted, closed, redeemed⟩ := hoarded_redeemed
  rw [← hoarded_reached] at accepted
  have amounts := (redemption_walks_up defaultTerms_admissible.secure 1000.0 hoardingCalls accepted).2
  refine ⟨defaultTerms_admissible.secure, redemption, left, accepted, closed, redeemed, ?_⟩
  rw [amounts.2.2.2.2, closed, redeemed, hoarded_reached]
  norm_num [hoarded, pair, Parameters.defaultTerms]

end Stablecoin.Ledger
