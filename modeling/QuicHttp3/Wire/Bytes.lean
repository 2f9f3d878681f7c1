import Mathlib.Data.Nat.Bitwise

/-!
# Bytes

Wire bytes are `UInt8`; what the encoders compute on them (`|` into a working byte, a prefix
field below it) is done on `toNat`. This file gives the `toNat` forms of `UInt8.ofNat` and `|`,
and the two bit facts every prefix code of the development rests on: high bits that clear the
low `n` bits leave a field below `2 ^ n` readable by `% 2 ^ n` (`or_mod_two_pow`), and a mask
that misses the low `n` bits sees only the high bits (`or_and_of_mod_eq_zero`).
-/

namespace QuicHttp3

@[simp] theorem byte_toNat_ofNat (n : Nat) : (UInt8.ofNat n).toNat = n % 256 := rfl

theorem byte_toNat_lt (b : UInt8) : b.toNat < 256 := b.toBitVec.isLt

/-- `|` on bytes is `|` on their values (core has only the `&` form); `simp` uses it wherever a
static bit is set in the working byte. -/
@[simp] theorem byte_toNat_or (a b : UInt8) : (a ||| b).toNat = a.toNat ||| b.toNat :=
  BitVec.toNat_or ..

/-- A working byte with one more bit below `2 ^ 8` set is still a byte. -/
theorem byte_toNat_or_two_pow (b : UInt8) {n : Nat} (hn : n ≤ 7) :
    (UInt8.ofNat (b.toNat ||| 2 ^ n)).toNat = b.toNat ||| 2 ^ n :=
  Nat.mod_eq_of_lt (Nat.or_lt_two_pow (byte_toNat_lt b)
    (Nat.lt_of_lt_of_le (Nat.pow_lt_pow_right (by decide) (by omega : n < 8)) le_rfl))

/-! ## Bit fields -/

theorem testBit_of_mod_eq_zero {x n i : Nat} (hx : x % 2 ^ n = 0) (hi : i < n) :
    x.testBit i = false := by
  have := Nat.testBit_mod_two_pow x n i
  simp_all

theorem testBit_of_lt_two_pow {v n i : Nat} (hv : v < 2 ^ n) (hi : n ≤ i) :
    v.testBit i = false :=
  Nat.testBit_lt_two_pow (Nat.lt_of_lt_of_le hv (Nat.pow_le_pow_right (by decide) hi))

/-- High bits that clear the low `n` bits do not disturb a field below `2 ^ n`. -/
theorem or_mod_two_pow {x v n : Nat} (hx : x % 2 ^ n = 0) (hv : v < 2 ^ n) :
    (x ||| v) % 2 ^ n = v := by
  apply Nat.eq_of_testBit_eq
  intro i
  rw [Nat.testBit_mod_two_pow, Nat.testBit_or]
  by_cases hi : i < n
  · simp [hi, testBit_of_mod_eq_zero hx hi]
  · simp [hi, testBit_of_lt_two_pow hv (Nat.le_of_not_lt hi)]

/-- A mask that misses the low `n` bits sees only the high bits. -/
theorem or_and_of_mod_eq_zero {x v m n : Nat} (hm : m % 2 ^ n = 0) (hv : v < 2 ^ n) :
    (x ||| v) &&& m = x &&& m := by
  apply Nat.eq_of_testBit_eq
  intro i
  simp only [Nat.testBit_and, Nat.testBit_or]
  by_cases hi : i < n
  · simp [testBit_of_mod_eq_zero hm hi]
  · simp [testBit_of_lt_two_pow hv (Nat.le_of_not_lt hi)]

/-- A bit the mask does not share leaves a masked read unchanged. -/
theorem or_and_of_and_eq_zero {x y m : Nat} (hy : y &&& m = 0) : (x ||| y) &&& m = x &&& m := by
  apply Nat.eq_of_testBit_eq
  intro i
  have := congrArg (Nat.testBit · i) hy
  simp only [Nat.testBit_and, Nat.testBit_or, Nat.zero_testBit] at this ⊢
  cases x.testBit i <;> cases h : y.testBit i <;> simp_all

/-! ## Masks

A mask `x` lies within `U` when `x &&& U = x`; two masks are disjoint when their `&&&` is `0`. -/

theorem and_eq_zero_of_within {x U m : Nat} (hx : x &&& U = x) (hU : U &&& m = 0) :
    x &&& m = 0 := by
  apply Nat.eq_of_testBit_eq
  intro i
  have h1 := congrArg (Nat.testBit · i) hx
  have h2 := congrArg (Nat.testBit · i) hU
  simp only [Nat.testBit_and, Nat.zero_testBit] at h1 h2 ⊢
  cases hxi : x.testBit i <;> cases hUi : U.testBit i <;> simp_all

theorem or_within_or {x U p : Nat} (hx : x &&& U = x) : (x ||| p) &&& (U ||| p) = x ||| p := by
  apply Nat.eq_of_testBit_eq
  intro i
  have h1 := congrArg (Nat.testBit · i) hx
  simp only [Nat.testBit_and, Nat.testBit_or] at h1 ⊢
  cases hxi : x.testBit i <;> cases hUi : U.testBit i <;> simp_all

theorem within_or {x U p : Nat} (hx : x &&& U = x) : x &&& (U ||| p) = x := by
  apply Nat.eq_of_testBit_eq
  intro i
  have h1 := congrArg (Nat.testBit · i) hx
  simp only [Nat.testBit_and, Nat.testBit_or] at h1 ⊢
  cases hxi : x.testBit i <;> cases hUi : U.testBit i <;> simp_all

theorem or_and_eq_zero {x y m : Nat} (hx : x &&& m = 0) (hy : y &&& m = 0) : (x ||| y) &&& m = 0 := by
  rw [or_and_of_and_eq_zero hy, hx]

theorem and_eq_zero_of_and_or {x y z : Nat} (h : x &&& (y ||| z) = 0) : x &&& y = 0 ∧ x &&& z = 0 := by
  constructor <;>
  · apply Nat.eq_of_testBit_eq
    intro i
    have h1 := congrArg (Nat.testBit · i) h
    simp only [Nat.testBit_and, Nat.testBit_or, Nat.zero_testBit] at h1 ⊢
    cases hx : x.testBit i <;> simp_all

theorem or_and_right_self (x y : Nat) : (x ||| y) &&& y = y := by
  apply Nat.eq_of_testBit_eq
  intro i
  simp only [Nat.testBit_and, Nat.testBit_or]
  cases x.testBit i <;> cases y.testBit i <;> rfl

theorem self_within_or (U p : Nat) : p &&& (U ||| p) = p := by
  apply Nat.eq_of_testBit_eq
  intro i
  simp only [Nat.testBit_and, Nat.testBit_or]
  cases U.testBit i <;> cases p.testBit i <;> rfl

theorem mod_two_pow_eq_zero_of_and {x n : Nat} (h : x &&& 2 ^ n - 1 = 0) : x % 2 ^ n = 0 := by
  rwa [Nat.and_pow_two_sub_one_eq_mod] at h

/-- A flag at bit `n` keeps the low `n` bits clear. -/
theorem or_two_pow_mod {x n : Nat} (hx : x % 2 ^ n = 0) : (x ||| 2 ^ n) % 2 ^ n = 0 :=
  mod_two_pow_eq_zero_of_and (or_and_eq_zero (by rwa [Nat.and_pow_two_sub_one_eq_mod])
    (by rw [Nat.and_pow_two_sub_one_eq_mod, Nat.mod_self]))

/-- The prefix and the flag of a string field make up its group bits. -/
theorem string_groupBits (n : Nat) : 2 ^ (n + 1) - 1 = (2 ^ n - 1) ||| 2 ^ n := by
  apply Nat.eq_of_testBit_eq
  intro i
  have hpos : 0 < 2 ^ n := Nat.two_pow_pos n
  rw [Nat.testBit_or, Nat.testBit_two_pow_sub_one, Nat.testBit_two_pow_sub_one, Nat.testBit_two_pow]
  by_cases h : i < n
  · simp [h, Nat.lt_succ_of_lt h]
  · by_cases h' : i = n
    · simp [h']
    · simp [h, h']
      omega

end QuicHttp3
