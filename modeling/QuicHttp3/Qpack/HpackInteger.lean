import QuicHttp3.Wire.Bytes

/-!
# HPACK prefix integers

`http2::HpackVarintEncoder::Encode(high_bits, prefix_length, varint, output)`, through which the
QPACK instruction encoder writes every integer and every string length, is not among the sources.
`encodeInteger` models it from the spec (§4.5: "an HPACK-style prefix-coded varint with prefix
length `param`, using the working byte as the prefix byte") and the integer representation of
RFC 7541 §5.1 that the spec refers to: a value below `2 ^ n - 1` sits in the low `n` bits of the
working byte; otherwise those bits are all set and the rest follows seven bits a byte, least
significant first. `decodeInteger` is the §5.1 decoder.

`decodeInteger_encodeInteger` is the round trip, with any bytes after the integer, for every
value and every working byte that leaves the prefix clear; `encodeInteger_cons` says that the
first byte shows the working byte unchanged to every mask above the prefix.
-/

namespace QuicHttp3

/-- The continuation bytes: seven bits a byte, least significant first, the top bit set on every
byte but the last. -/
def encodeContinuation (v : Nat) : List UInt8 :=
  if v < 128 then [UInt8.ofNat v] else UInt8.ofNat (128 + v % 128) :: encodeContinuation (v / 128)
termination_by v
decreasing_by omega

/-- Modelled from the spec (RFC 7541 §5.1): `http2::HpackVarintEncoder::Encode` (not among the
sources). -/
def encodeInteger (highBits : UInt8) (prefixLength : Nat) (varint : Nat) : List UInt8 :=
  let prefixMask := 2 ^ prefixLength - 1
  if varint < prefixMask then [UInt8.ofNat (highBits.toNat ||| varint)]
  else UInt8.ofNat (highBits.toNat ||| prefixMask) :: encodeContinuation (varint - prefixMask)

/-- The continuation bytes read back: `none` when the bytes end before a byte without the top
bit. -/
def decodeContinuation : List UInt8 → Option (Nat × List UInt8)
  | [] => none
  | b :: bs =>
    if b.toNat < 128 then some (b.toNat, bs)
    else (decodeContinuation bs).map fun r => (b.toNat - 128 + 128 * r.1, r.2)

/-- The RFC 7541 §5.1 decoder for an integer with an `n`-bit prefix. -/
def decodeInteger (prefixLength : Nat) : List UInt8 → Option (Nat × List UInt8)
  | [] => none
  | b :: bs =>
    let prefixMask := 2 ^ prefixLength - 1
    if b.toNat % 2 ^ prefixLength < prefixMask then some (b.toNat % 2 ^ prefixLength, bs)
    else (decodeContinuation bs).map fun r => (prefixMask + r.1, r.2)

theorem decodeContinuation_encodeContinuation (v : Nat) (rest : List UInt8) :
    decodeContinuation (encodeContinuation v ++ rest) = some (v, rest) := by
  induction v using Nat.strong_induction_on with
  | _ v ih =>
    rw [encodeContinuation]
    split_ifs with hv
    · simp [decodeContinuation, Nat.mod_eq_of_lt (Nat.lt_trans hv (by decide : 128 < 256)), hv]
    · have hb : (128 + v % 128) % 256 = 128 + v % 128 := Nat.mod_eq_of_lt (by omega)
      rw [List.cons_append, decodeContinuation, byte_toNat_ofNat, hb, if_neg (by omega),
        ih (v / 128) (by omega), Option.map_some']
      simp only [Option.some.injEq, Prod.mk.injEq, and_true]
      omega

/-- Every value comes back, whatever follows, when the working byte leaves the prefix clear. -/
theorem decodeInteger_encodeInteger (highBits : UInt8) {n : Nat} (hn : n ≤ 8)
    (hclear : highBits.toNat % 2 ^ n = 0) (v : Nat) (rest : List UInt8) :
    decodeInteger n (encodeInteger highBits n v ++ rest) = some (v, rest) := by
  have hpow : 2 ^ n ≤ 2 ^ 8 := Nat.pow_le_pow_right (by decide) hn
  have hpos : 0 < 2 ^ n := Nat.two_pow_pos n
  have hfits (low : Nat) (hlow : low < 2 ^ n) : (highBits.toNat ||| low) % 256 = highBits.toNat ||| low :=
    Nat.mod_eq_of_lt (Nat.or_lt_two_pow (byte_toNat_lt highBits) (Nat.lt_of_lt_of_le hlow hpow))
  rw [encodeInteger]
  split_ifs with hv
  · simp [decodeInteger, hfits v (by omega), or_mod_two_pow hclear (by omega : v < 2 ^ n), hv]
  · simp only [List.cons_append, decodeInteger, byte_toNat_ofNat, hfits (2 ^ n - 1) (by omega),
      or_mod_two_pow hclear (by omega : 2 ^ n - 1 < 2 ^ n), Nat.lt_irrefl, if_false,
      decodeContinuation_encodeContinuation, Option.map_some']
    rw [Nat.add_sub_cancel' (Nat.le_of_not_lt hv)]

/-- The first byte shows the working byte unchanged to every mask above the prefix. -/
theorem encodeInteger_cons (highBits : UInt8) {n : Nat} (hn : n ≤ 8) (v : Nat) :
    ∃ b bs, encodeInteger highBits n v = b :: bs ∧
      ∀ m, m % 2 ^ n = 0 → b.toNat &&& m = highBits.toNat &&& m := by
  have hpow : 2 ^ n ≤ 2 ^ 8 := Nat.pow_le_pow_right (by decide) hn
  have hpos : 0 < 2 ^ n := Nat.two_pow_pos n
  have hread (low : Nat) (hlow : low < 2 ^ n) (m : Nat) (hm : m % 2 ^ n = 0) :
      (UInt8.ofNat (highBits.toNat ||| low)).toNat &&& m = highBits.toNat &&& m := by
    rw [byte_toNat_ofNat, Nat.mod_eq_of_lt (Nat.or_lt_two_pow (byte_toNat_lt highBits)
      (Nat.lt_of_lt_of_le hlow hpow)), or_and_of_mod_eq_zero hm hlow]
  rw [encodeInteger]
  split_ifs with hv
  · exact ⟨_, _, rfl, hread v (by omega)⟩
  · exact ⟨_, _, rfl, hread (2 ^ n - 1) (by omega)⟩

theorem length_encodeContinuation (v : Nat) :
    (encodeContinuation v).length =
      if v < 128 then 1 else (encodeContinuation (v / 128)).length + 1 := by
  rw [encodeContinuation]
  split_ifs <;> rfl

/-- A larger value takes at least as many continuation bytes. -/
theorem length_encodeContinuation_mono {v w : Nat} (h : v ≤ w) :
    (encodeContinuation v).length ≤ (encodeContinuation w).length := by
  induction w using Nat.strong_induction_on generalizing v with
  | _ w ih =>
    rw [length_encodeContinuation v, length_encodeContinuation w]
    split_ifs
    · exact le_rfl
    · omega
    · omega
    · exact Nat.succ_le_succ (ih _ (by omega) (Nat.div_le_div_right h))

/-- A larger value takes at least as many bytes, whatever the working byte. -/
theorem length_encodeInteger_mono (highBits highBits' : UInt8) (n : Nat) {v w : Nat} (h : v ≤ w) :
    (encodeInteger highBits n v).length ≤ (encodeInteger highBits' n w).length := by
  rw [encodeInteger, encodeInteger]
  split_ifs with hv hw hw
  · exact le_rfl
  · simp
  · omega
  · simpa using length_encodeContinuation_mono (Nat.sub_le_sub_right h _)

end QuicHttp3
