import Mathlib
import Stablecoin.Random.Sample

/-!
Single precision, as far as the choice between the methods of sampling depends on it. A
single that is neither next to zero nor next to the largest one has a mantissa of 24 bits,
and its exponent says how large it is up to a factor of two (`IsNormal`). Conversion of a
number below 2³² gives such a single (`ofNat_isNormal`), and a product with a factor of
four or more is larger than the other factor (`mul_isNormal`, `lt_mul_of_slope`). That is
enough to see that a whole range which is not short is always shuffled (`shufflePays_self`).
-/
namespace Stablecoin.Random
open Float.Model (Format UnpackedFloat totalExponent)
open Float.Model.UnpackedFloat

theorem mantissa_shiftRight (extended : ExtendedMantissa) (places : Nat) :
    (extended >>> places).mantissa = extended.mantissa / 2 ^ places := by
  induction places with
  | zero => simp [HShiftRight.hShiftRight, Nat.repeat]
  | succ places ih =>
    change (extended >>> places).mantissa / 2 = _
    rw [ih, Nat.div_div_eq_div_mul, Nat.pow_succ]

/-- Rounding keeps the mantissa or moves it up by one. -/
theorem roundedMantissa_cases (extended : ExtendedMantissa) :
    extended.roundedMantissa = extended.mantissa ∨ extended.roundedMantissa = extended.mantissa + 1 := by
  obtain ⟨mantissa, round, sticky⟩ := extended
  cases round <;> cases sticky <;>
    simp [ExtendedMantissa.roundedMantissa, ExtendedMantissa.accuracy, Accuracy.roundToNearestEven]
  omega

/-- A mantissa of 24 bits or more, with an exponent that is not too small, is shifted to 24 bits. -/
theorem shiftToTargetExponent_normal {mantissa : Nat} {exponent : ℤ} {places : Nat}
    (log : mantissa.log2 = 23 + places) (low : -149 ≤ exponent + places) :
    shiftToTargetExponent Format.binary32 mantissa exponent .exact =
      ((⟨mantissa, false, false⟩ : ExtendedMantissa) >>> places, exponent + places) := by
  have target : Format.binary32.targetExponent (totalExponent mantissa exponent) = exponent + places := by
    simp only [Format.targetExponent, totalExponent, log, Format.mantissaBits, Format.minExponent]
    omega
  have shift : (exponent + places - exponent).toNat = places := by omega
  simp only [shiftToTargetExponent, target, shiftToExponent, shift, ExtendedMantissa.ofMantissaAndAccuracy]

theorem log2_shifted {mantissa places : Nat} (log : mantissa.log2 = 23 + places) :
    (mantissa / 2 ^ places).log2 = 23 := by
  have some : mantissa ≠ 0 := by
    rintro rfl
    simp at log
    omega
  obtain ⟨lower, upper⟩ := (Nat.log2_eq_iff some).mp log
  have within : 2 ^ 23 ≤ mantissa / 2 ^ places := by
    rw [Nat.le_div_iff_mul_le (Nat.two_pow_pos places), ← Nat.pow_add]
    exact lower
  refine (Nat.log2_eq_iff (by omega)).mpr ⟨within, ?_⟩
  rw [Nat.div_lt_iff_lt_mul (Nat.two_pow_pos places), ← Nat.pow_add]
  exact lt_of_lt_of_eq upper (by ring)

/-- Rounding lengthens a mantissa of 24 bits by one bit at most. -/
theorem log2_roundedMantissa {extended : ExtendedMantissa} (log : extended.mantissa.log2 = 23) :
    ∃ more, extended.roundedMantissa.log2 = 23 + more ∧ more ≤ 1 := by
  have some : extended.mantissa ≠ 0 := by
    intro none
    simp [none] at log
  obtain ⟨lower, upper⟩ := (Nat.log2_eq_iff some).mp log
  rcases roundedMantissa_cases extended with kept | moved
  · exact ⟨0, by rw [kept, log], Nat.zero_le 1⟩
  · rcases Nat.lt_or_ge (extended.mantissa + 1) (2 ^ 24) with small | full
    · exact ⟨0, by rw [moved]; exact (Nat.log2_eq_iff (by omega)).mpr ⟨by omega, small⟩, Nat.zero_le 1⟩
    · have exact : extended.mantissa + 1 = 2 ^ 24 := Nat.le_antisymm upper full
      exact ⟨1, by rw [moved, exact, Nat.log2_two_pow], le_rfl⟩

/-- Rounding keeps the exponent of a normal number, or moves it up by one. -/
theorem roundWithAccuracy_normal (sign : Sign) {mantissa : Nat} {exponent : ℤ} {places : Nat}
    (log : mantissa.log2 = 23 + places) (low : -149 ≤ exponent + places) :
    ∃ rounded moved positive, roundWithAccuracy Format.binary32 sign mantissa exponent .exact =
        .finite sign rounded moved positive ∧
      rounded.log2 = 23 ∧ exponent + places ≤ moved ∧ moved ≤ exponent + places + 1 := by
  let shifted : ExtendedMantissa := (⟨mantissa, false, false⟩ : ExtendedMantissa) >>> places
  have first : shiftToTargetExponent Format.binary32 mantissa exponent .exact = (shifted, exponent + places) :=
    shiftToTargetExponent_normal log low
  have kept : shifted.mantissa.log2 = 23 := by
    rw [mantissa_shiftRight]
    exact log2_shifted log
  obtain ⟨more, lengthened, atMost⟩ := log2_roundedMantissa kept
  have second := @shiftToTargetExponent_normal _ (exponent + places) _ lengthened (by omega)
  have final := log2_shifted lengthened
  have some : shifted.roundedMantissa / 2 ^ more ≠ 0 := by
    intro none
    simp [none] at final
  refine ⟨_, exponent + places + more, Nat.pos_of_ne_zero some, ?_, final, by omega, by omega⟩
  simp only [roundWithAccuracy, first, second, mantissa_shiftRight, some, dite_false]

theorem unpackSign_packComponents (sign : Sign) (exponent : BitVec 8) (mantissa : BitVec 23) :
    unpackSign (packComponents Format.binary32 sign exponent mantissa) = sign.toBitVec := by
  change (sign.toBitVec ++ exponent ++ mantissa).extractLsb' 31 1 = sign.toBitVec
  rw [BitVec.extractLsb'_append_eq_of_le (by decide), BitVec.extractLsb'_append_eq_of_le (by decide)]
  cases sign <;> rfl

/-- The leading bit of a mantissa of 24 bits is the one that packing leaves out. -/
theorem toNat_leading_append {mantissa : Nat} (log : mantissa.log2 = 23) :
    (1#1 ++ BitVec.ofNat 23 mantissa).toNat = mantissa := by
  have some : mantissa ≠ 0 := by
    rintro rfl
    simp at log
  obtain ⟨lower, upper⟩ := (Nat.log2_eq_iff some).mp log
  rw [BitVec.toNat_append, ← Nat.shiftLeft_add_eq_or_of_lt (BitVec.isLt _), BitVec.toNat_ofNat, Nat.shiftLeft_eq]
  change 1 * 2 ^ 23 + mantissa % 2 ^ 23 = mantissa
  omega

/-- A normal single is read back as it was packed. -/
theorem unpack_pack_normal {mantissa : Nat} {exponent : ℤ} (positive : 0 < mantissa) (log : mantissa.log2 = 23)
    (low : -149 ≤ exponent) (high : exponent ≤ 104) :
    (Float32.Model.pack (.finite .positive mantissa exponent positive)).unpack =
      .finite .positive mantissa exponent positive := by
  let biased : Nat := (exponent + Format.binary32.exponentBias + Format.binary32.mantissaBitsWithoutImplicit).toNat
  have biased_eq : (biased : ℤ) = exponent + 150 := by
    change ((exponent + (127 : ℕ) + (23 : ℕ)).toNat : ℤ) = _
    omega
  have fits : ¬ 2 ^ Format.binary32.exponentBits ≤ biased + 1 := by
    change ¬ 256 ≤ biased + 1
    omega
  have read : (BitVec.ofNat 8 biased).toNat = biased := by
    rw [BitVec.toNat_ofNat, Nat.mod_eq_of_lt (by omega)]
  have notFull : BitVec.ofNat 8 biased ≠ -1#8 := by
    intro full
    have value := congrArg BitVec.toNat full
    rw [read] at value
    change biased = 255 at value
    omega
  have notNone : BitVec.ofNat 8 biased ≠ 0#8 := by
    intro none
    have value := congrArg BitVec.toNat none
    rw [read] at value
    change biased = 0 at value
    omega
  change unpack Format.binary32 (pack Format.binary32 (.finite .positive mantissa exponent positive)) = _
  unfold pack
  dsimp only
  rw [if_neg fits, if_pos (by rw [log]; rfl)]
  unfold unpack
  simp only [unpackMantissa_packComponents, unpackExponent_packComponents, unpackSign_packComponents]
  rw [if_neg notFull, if_neg notNone]
  have unbiased : ((BitVec.ofNat 8 biased).toNat : ℤ) - ((127 : ℕ) + (23 : ℕ)) = exponent := by
    rw [read]
    omega
  simp only [toNat_leading_append log]
  exact (UnpackedFloat.finite.injEq _ _ _ _ _ _ _ _).mpr ⟨rfl, rfl, unbiased⟩

/-- A positive single with a mantissa of 24 bits and an exponent between the bounds. -/
def IsNormal (low high : ℤ) (x : UnpackedFloat) : Prop :=
  ∃ mantissa exponent positive, x = .finite .positive mantissa exponent positive ∧ mantissa.log2 = 23 ∧
    low ≤ exponent ∧ exponent ≤ high

theorem roundWithAccuracy_isNormal {mantissa : Nat} {exponent low high : ℤ} {places : Nat}
    (log : mantissa.log2 = 23 + places) (above : low ≤ exponent + places) (below : exponent + places + 1 ≤ high)
    (bounds : -149 ≤ low) :
    IsNormal low high (roundWithAccuracy Format.binary32 .positive mantissa exponent .exact) := by
  obtain ⟨rounded, moved, positive, rounds, normal, atLeast, atMost⟩ :=
    roundWithAccuracy_normal .positive log (bounds.trans above)
  exact ⟨rounded, moved, positive, rounds, normal, above.trans atLeast, atMost.trans below⟩

theorem IsNormal.packed {low high : ℤ} {x : UnpackedFloat} (normal : IsNormal low high x) (least : -149 ≤ low)
    (greatest : high ≤ 104) : IsNormal low high (Float32.Model.pack x).unpack := by
  obtain ⟨mantissa, exponent, positive, rfl, log, above, below⟩ := normal
  exact ⟨mantissa, exponent, positive, unpack_pack_normal positive log (least.trans above) (below.trans greatest), log,
    above, below⟩

theorem IsNormal.mono {low high least greatest : ℤ} {x : UnpackedFloat} (normal : IsNormal low high x)
    (less : least ≤ low) (more : high ≤ greatest) : IsNormal least greatest x := by
  obtain ⟨mantissa, exponent, positive, rfl, log, above, below⟩ := normal
  exact ⟨mantissa, exponent, positive, rfl, log, less.trans above, below.trans more⟩

theorem log2_mul {a b : Nat} (some : a ≠ 0) (other : b ≠ 0) :
    ∃ carry, (a * b).log2 = a.log2 + b.log2 + carry ∧ carry ≤ 1 := by
  obtain ⟨lowerA, upperA⟩ := (Nat.log2_eq_iff some).mp rfl
  obtain ⟨lowerB, upperB⟩ := (Nat.log2_eq_iff other).mp rfl
  have product : a * b ≠ 0 := Nat.mul_ne_zero some other
  have lower : 2 ^ (a.log2 + b.log2) ≤ a * b := by
    rw [Nat.pow_add]
    exact Nat.mul_le_mul lowerA lowerB
  have upper : a * b < 2 ^ (a.log2 + b.log2 + 2) := by
    have both := Nat.mul_lt_mul'' upperA upperB
    rw [← Nat.pow_add] at both
    exact lt_of_lt_of_eq both (by ring)
  have atLeast := (Nat.le_log2 product).mpr lower
  have atMost := (Nat.log2_lt product).mpr upper
  exact ⟨(a * b).log2 - (a.log2 + b.log2), by omega, by omega⟩

/-- The exponents of a product add up, with the 23 places that rounding drops. -/
theorem mul_isNormal {x y : UnpackedFloat} {low high least greatest : ℤ} (first : IsNormal low high x)
    (second : IsNormal least greatest y) (bound : -149 ≤ low + least + 23) :
    IsNormal (low + least + 23) (high + greatest + 25) (mul Format.binary32 x y) := by
  obtain ⟨mantissa, exponent, positive, rfl, log, above, below⟩ := first
  obtain ⟨other, power, otherPositive, rfl, otherLog, otherAbove, otherBelow⟩ := second
  obtain ⟨carry, product, small⟩ := log2_mul positive.ne' otherPositive.ne'
  have places : (mantissa * other).log2 = 23 + (23 + carry) := by omega
  exact roundWithAccuracy_isNormal places (by push_cast; omega) (by push_cast; omega) bound

/-- Of two normal singles the one with the smaller exponents is smaller. -/
theorem IsNormal.lt {x y : UnpackedFloat} {low high least greatest : ℤ} (first : IsNormal low high x)
    (second : IsNormal least greatest y) (apart : high < least) : x.lt y = true := by
  obtain ⟨mantissa, exponent, positive, rfl, log, above, below⟩ := first
  obtain ⟨other, power, otherPositive, rfl, otherLog, otherAbove, otherBelow⟩ := second
  have smaller : compare exponent power = .lt := compare_lt_iff_lt.mpr (by omega)
  simp [UnpackedFloat.lt, UnpackedFloat.compare, smaller]

theorem log2_mul_two_pow {n : Nat} (some : n ≠ 0) (places : Nat) : (n * 2 ^ places).log2 = n.log2 + places := by
  induction places with
  | zero => simp
  | succ places ih =>
    have doubled : n * 2 ^ (places + 1) = 2 * (n * 2 ^ places) := by ring
    rw [doubled, Nat.log2_two_mul (Nat.mul_ne_zero some (Nat.two_pow_pos places).ne'), ih, Nat.add_assoc]

theorem round_isNormal {n : Nat} (some : n ≠ 0) (short : n.log2 ≤ 23) :
    IsNormal (-23) 1 (UnpackedFloat.round Format.binary32 .positive n 0) := by
  have target : Format.binary32.targetExponent (totalExponent n 0) = (n.log2 : ℤ) - 23 := by
    simp only [Format.targetExponent, totalExponent, Format.mantissaBits, Format.minExponent]
    omega
  have shift : (0 - ((n.log2 : ℤ) - 23)).toNat = 23 - n.log2 := by omega
  have log : (n <<< (23 - n.log2)).log2 = 23 + 0 := by
    rw [Nat.shiftLeft_eq, log2_mul_two_pow some]
    omega
  simp only [UnpackedFloat.round, target, decreaseExponent, shift]
  exact roundWithAccuracy_isNormal log (by push_cast; omega) (by push_cast; omega) (by decide)

/-- A number of at most 23 bits as a single. -/
theorem toFloat32_isNormal {n : Nat} (some : n ≠ 0) (short : n < 2 ^ 23) :
    IsNormal (-23) 1 n.toUInt64.toFloat32.toModel.unpack := by
  have log := (Nat.log2_lt some).mpr short
  have word : n.toUInt64.toNat = n := by
    change n % 2 ^ 64 = n
    omega
  have positive : compare (n : ℤ) 0 = .gt := compare_gt_iff_gt.mpr (by omega)
  have converted : UnpackedFloat.ofUInt64 Format.binary32 n.toUInt64 =
      UnpackedFloat.round Format.binary32 .positive n 0 := by
    simp only [UnpackedFloat.ofUInt64, UnpackedFloat.ofNat, UnpackedFloat.ofInt, UnpackedFloat.normalize, word, positive,
      Int.toNat_natCast]
  have rounded := round_isNormal some (by omega)
  rw [← converted] at rounded
  exact rounded.packed (by decide) (by decide)

theorem toModel_mul (x y : Float32) : (x * y).toModel.unpack =
    (Float32.Model.pack (mul Format.binary32 x.toModel.unpack y.toModel.unpack)).unpack := rfl

theorem one_isNormal : IsNormal (-23) (-23) Float32.exactlyRepresentablePowersOfTen[0].toModel.unpack :=
  ⟨8388608, -23, by decide, rfl, by decide, le_rfl, le_rfl⟩

/-- A number below 2³² is converted to a normal single. -/
theorem ofNat_isNormal {n : Nat} (some : n ≠ 0) (small : n < 2 ^ 32) :
    IsNormal (-23) 10 (Float32.ofNat n).toModel.unpack := by
  have log := (Nat.log2_lt some).mpr small
  rcases Nat.lt_or_ge n (2 ^ 23) with short | long
  · have converted : Float32.ofNat n = n.toUInt64.toFloat32 * Float32.exactlyRepresentablePowersOfTen[0] := by
      unfold Float32.ofNat
      simp only [OfScientific.ofScientific, Float32.ofScientific]
      rw [dif_pos ⟨short, by decide⟩]
      rfl
    rw [converted, toModel_mul]
    have product := mul_isNormal (toFloat32_isNormal some short) one_isNormal (by decide)
    exact (product.packed (by decide) (by decide)).mono (by decide) (by decide)
  · have converted : Float32.ofNat n = .ofModel (Float32.Model.ofScientific n 0) := by
      unfold Float32.ofNat
      simp only [OfScientific.ofScientific, Float32.ofScientific]
      rw [dif_neg fun exact => absurd exact.1 (Nat.not_lt.mpr long)]
      rfl
    have log_ge := (Nat.le_log2 some).mpr long
    have shifted : (n <<< 24 * 10 ^ 0).log2 = 23 + (n.log2 + 1) := by
      rw [pow_zero, mul_one, Nat.shiftLeft_eq, log2_mul_two_pow some]
      omega
    have within : ¬ (0 : ℤ) < -((2 ^ Format.binary32.exponentBits : ℤ) + n.log2) := by
      change ¬ (0 : ℤ) < -(2 ^ 8 + n.log2)
      omega
    have scientific : UnpackedFloat.ofScientific Format.binary32 n 0 =
        roundWithAccuracy Format.binary32 .positive (n <<< 24 * 10 ^ 0) (-24) .exact := by
      unfold UnpackedFloat.ofScientific
      rw [dif_neg some, if_neg (by decide), if_neg within, if_pos le_rfl]
      rfl
    have rounded : IsNormal (-23) 10 (UnpackedFloat.ofScientific Format.binary32 n 0) := by
      rw [scientific]
      exact roundWithAccuracy_isNormal shifted (by push_cast; omega) (by push_cast; omega) (by decide)
    rw [converted]
    exact rounded.packed (by decide) (by decide)

/-! ### The choice of the method -/

/-- A factor of four or more, as the slopes of the bounds are, makes a single larger. -/
theorem lt_mul_of_slope {slope x : Float32} (factor : IsNormal (-18) (-15) slope.toModel.unpack)
    (normal : IsNormal (-23) 10 x.toModel.unpack) : x < slope * x := by
  obtain ⟨mantissa, exponent, positive, unpacked, log, above, below⟩ := normal
  -- The product is measured against the exponent of the factor itself.
  have exactly : IsNormal exponent exponent x.toModel.unpack :=
    ⟨mantissa, exponent, positive, unpacked, log, le_rfl, le_rfl⟩
  have product := (mul_isNormal factor exactly (by omega)).packed (by omega) (by omega)
  rw [← toModel_mul] at product
  exact decide_eq_true_iff.mpr (exactly.lt product (by omega))

theorem slopes_areNormal : IsNormal (-18) (-15) (270.0 : Float32).toModel.unpack ∧
    IsNormal (-18) (-15) (330.0 / 9.0 : Float32).toModel.unpack :=
  ⟨⟨8847360, -15, by decide, rfl, by decide, by decide, by decide⟩,
    ⟨9611947, -18, by decide, rfl, by decide, by decide, by decide⟩⟩

/-- A whole range that is not short is shuffled. -/
theorem shufflePays_self {n : Nat} (long : 163 ≤ n) (small : n < 2 ^ 32) : shufflePays n n = true := by
  have normal := ofNat_isNormal (by omega) small
  unfold shufflePays
  dsimp only
  rw [if_neg (Nat.not_lt.mpr long), decide_eq_true_iff]
  refine lt_mul_of_slope ?_ normal
  split
  · exact slopes_areNormal.1
  · exact slopes_areNormal.2

end Stablecoin.Random
