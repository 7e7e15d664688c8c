import Mathlib.Logic.Function.Basic
import Stablecoin.Random.Streams

/-!
Streams that do not meet. The seed of a stream is mixed from four coordinates: the seed of
the run, the purpose, the period and the index. Every step of the mixing can be undone:
adding a word, multiplying by an odd one, and folding a word onto itself from a third of its
length on (`fold_bijective`). So `mix` is a bijection of the words (`mix_bijective`), and two
streams that differ in a single coordinate have different seeds (`key_separates`).
-/
namespace Stablecoin.Random

theorem xor_xor_self (word mask : UInt64) : word ^^^ mask ^^^ mask = word := by
  rw [UInt64.xor_assoc, UInt64.xor_self, UInt64.xor_zero]

theorem add_bijective (amount : UInt64) : Function.Bijective (· + amount) :=
  Function.bijective_iff_has_inverse.mpr
    ⟨(· - amount), fun word => UInt64.add_sub_cancel word amount, fun word => UInt64.sub_add_cancel word amount⟩

/-- A factor with an inverse among the words loses nothing. -/
theorem mul_bijective {factor : UInt64} (inverse : UInt64) (unit : factor * inverse = 1) :
    Function.Bijective (· * factor) := by
  refine Function.bijective_iff_has_inverse.mpr ⟨(· * inverse), fun word => ?_, fun word => ?_⟩
  · dsimp only
    rw [UInt64.mul_assoc, unit, UInt64.mul_one]
  · dsimp only
    rw [UInt64.mul_assoc, UInt64.mul_comm inverse, unit, UInt64.mul_one]

/-- Three shifts by a third of the length of a word leave nothing of it. -/
theorem shifted_out {shift : UInt64} (small : shift.toNat < 64) (third : 64 ≤ 3 * shift.toNat) (word : UInt64) :
    word >>> shift >>> shift >>> shift = 0 := by
  have short : word.toNat < 2 ^ (shift.toNat + shift.toNat + shift.toNat) :=
    Nat.lt_of_lt_of_le word.toNat_lt (Nat.pow_le_pow_right (by decide) (by omega))
  apply UInt64.toNat_inj.mp
  simp only [UInt64.toNat_shiftRight, Nat.mod_eq_of_lt small, ← Nat.shiftRight_add]
  exact Nat.shiftRight_eq_zero _ _ short

/-- A word that was folded onto itself is restored by its two shifts. -/
theorem fold_bijective {shift : UInt64} (small : shift.toNat < 64) (third : 64 ≤ 3 * shift.toNat) :
    Function.Bijective fun word : UInt64 => word ^^^ (word >>> shift) := by
  have gone := shifted_out small third
  refine Function.bijective_iff_has_inverse.mpr
    ⟨fun word => word ^^^ (word >>> shift) ^^^ (word >>> shift >>> shift), fun word => ?_, fun word => ?_⟩
  · simp only [UInt64.shiftRight_xor, gone, UInt64.xor_zero, ← UInt64.xor_assoc, xor_xor_self]
  · simp only [UInt64.shiftRight_xor, gone, UInt64.xor_zero]
    rw [UInt64.xor_comm (word >>> shift), ← UInt64.xor_assoc, xor_xor_self, xor_xor_self]

theorem mix_bijective : Function.Bijective mix := by
  have shifted := add_bijective 0x9E3779B97F4A7C15
  have once : Function.Bijective fun z : UInt64 => (z ^^^ (z >>> 30)) * 0xBF58476D1CE4E5B9 :=
    (mul_bijective 0x96DE1B173F119089 (by decide)).comp (fold_bijective (by decide) (by decide))
  have twice : Function.Bijective fun z : UInt64 => (z ^^^ (z >>> 27)) * 0x94D049BB133111EB :=
    (mul_bijective 0x319642B2D24D8EC3 (by decide)).comp (fold_bijective (by decide) (by decide))
  have last : Function.Bijective fun z : UInt64 => z ^^^ (z >>> 31) := fold_bijective (by decide) (by decide)
  exact last.comp (twice.comp (once.comp shifted))

theorem xor_injective (mask : UInt64) : Function.Injective (· ^^^ mask) :=
  have restored : Function.LeftInverse (· ^^^ mask) (· ^^^ mask) := fun word => xor_xor_self word mask
  restored.injective

/-- The purpose can be read off its tag. -/
theorem Purpose.tag_injective : Function.Injective Purpose.tag := by
  have restored : Function.LeftInverse (fun tag => Purpose.ofNat (tag.toNat - 1)) Purpose.tag := by
    intro purpose
    cases purpose <;> rfl
  exact restored.injective

/-- No two words are mixed into the same, and no two streams that differ in one coordinate
    alone, be it the seed of the run, the purpose, the period or the index, start from the
    same seed. -/
theorem key_separates :
    Function.Bijective mix ∧
      (∀ purpose period index, Function.Injective fun seed => (Streams.mk seed).key purpose period index) ∧
      (∀ (streams : Streams) period index, Function.Injective fun purpose => streams.key purpose period index) ∧
      (∀ (streams : Streams) purpose index, Function.Injective fun period => streams.key purpose period index) ∧
      ∀ (streams : Streams) purpose period, Function.Injective fun index => streams.key purpose period index := by
  have mixed := mix_bijective.injective
  -- A mixed word is folded into the next coordinate, and that coordinate into it.
  have into (mask : UInt64) : Function.Injective fun word => mix (word ^^^ mask) :=
    mixed.comp (xor_injective mask)
  have onto (word : UInt64) : Function.Injective fun mask => mix (word ^^^ mask) := by
    simpa only [UInt64.xor_comm word] using into word
  have tags : Function.Injective fun purpose : Purpose => purpose.tag * 0xA24BAED4963EE407 :=
    (mul_bijective 0x8B951323F69349B7 (by decide)).injective.comp Purpose.tag_injective
  have indices : Function.Injective fun index : UInt64 => index * 0x9FB21C651E98DF25 :=
    (mul_bijective 0x02AB9C720D1024AD (by decide)).injective
  refine ⟨mix_bijective, fun purpose period index => ?_, fun streams period index => ?_,
    fun streams purpose index => ?_, fun streams purpose period => ?_⟩
  · exact (into _).comp ((into period).comp (into _))
  · exact (into _).comp ((into period).comp ((onto streams.seed).comp tags))
  · exact (into _).comp (onto _)
  · exact (onto _).comp indices

end Stablecoin.Random
