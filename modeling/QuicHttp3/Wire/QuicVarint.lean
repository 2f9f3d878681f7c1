import QuicHttp3.Wire.Bytes

/-!
# QUIC variable-length integers

`QuicDataWriter::WriteVarInt62`, which `QpackSendStream` uses for the stream type, is not among
the sources; `writeVarInt62` models it from the spec (§3, §4.1): the two high bits of the first
byte give the length, 1, 2, 4 or 8 bytes, the other bits carry the value in network byte order,
and the writer picks the shortest length that holds the value. Values from `2 ^ 62` on do not fit
and are refused. `readVarInt62` is the reader of §4.1, which takes the length from the first byte
alone. `readVarInt62_writeVarInt62` is the round trip for every value below `2 ^ 62`, with any
bytes after it.
-/

namespace QuicHttp3

/-- The low `k` bytes of `v`, most significant first. -/
def bigEndian : Nat → Nat → List UInt8
  | 0, _ => []
  | k + 1, v => UInt8.ofNat (v / 256 ^ k) :: bigEndian k v

/-- The value of bytes in network byte order. -/
def beValue : List UInt8 → Nat
  | [] => 0
  | b :: bs => b.toNat * 256 ^ bs.length + beValue bs

@[simp] theorem length_bigEndian (k v : Nat) : (bigEndian k v).length = k := by
  induction k <;> simp [bigEndian, *]

theorem beValue_bigEndian (k v : Nat) : beValue (bigEndian k v) = v % 256 ^ k := by
  induction k with
  | zero => simp [bigEndian, beValue, Nat.mod_one]
  | succ k ih =>
    rw [bigEndian, beValue, length_bigEndian, ih, byte_toNat_ofNat, Nat.mod_pow_succ,
      Nat.mul_comm, Nat.add_comm]

/-- Modelled from the spec: `QuicDataWriter::WriteVarInt62` writes the shortest of the four
lengths, with tag `t` (for `2 ^ t` bytes) in the top two bits of the big-endian number. -/
def writeVarInt62 (value : Nat) : Option (List UInt8) :=
  if value < 2 ^ 6 then some (bigEndian 1 value)
  else if value < 2 ^ 14 then some (bigEndian 2 (2 ^ 14 + value))
  else if value < 2 ^ 30 then some (bigEndian 4 (2 * 2 ^ 30 + value))
  else if value < 2 ^ 62 then some (bigEndian 8 (3 * 2 ^ 62 + value))
  else none

/-- The §4.1 reader: the first byte's two high bits give the length; the value is the big-endian
number of that many bytes without the two tag bits. -/
def readVarInt62 : List UInt8 → Option (Nat × List UInt8)
  | [] => none
  | b :: bs =>
    let length := 2 ^ (b.toNat / 64)
    if (b :: bs).length < length then none
    else some (beValue ((b :: bs).take length) % 2 ^ (8 * length - 2), (b :: bs).drop length)

/-- Reading back one length class: `x` is the tagged number of `k + 1 = 2 ^ t` bytes. -/
theorem readVarInt62_bigEndian (k t x value : Nat) (rest : List UInt8) (hk : 2 ^ t = k + 1)
    (hx : x = t * 2 ^ (8 * (k + 1) - 2) + value) (hv : value < 2 ^ (8 * (k + 1) - 2))
    (hfirst : x / 256 ^ k % 256 / 64 = t) (hfit : x < 256 ^ (k + 1)) :
    readVarInt62 (bigEndian (k + 1) x ++ rest) = some (value, rest) := by
  have hbe := beValue_bigEndian (k + 1) x
  simp only [bigEndian] at hbe ⊢
  simp only [List.cons_append, readVarInt62, byte_toNat_ofNat, hfirst, hk, List.length_cons,
    List.length_append, length_bigEndian, List.take_succ_cons, List.drop_succ_cons,
    List.take_left', List.drop_left', hbe]
  rw [if_neg (by omega), Nat.mod_eq_of_lt hfit, hx, Nat.add_comm, Nat.add_mul_mod_self_right,
    Nat.mod_eq_of_lt hv]

/-- Every value below `2 ^ 62` is written and read back, whatever bytes follow it. -/
theorem readVarInt62_writeVarInt62 {value : Nat} (h : value < 2 ^ 62) (rest : List UInt8) :
    ∃ bytes, writeVarInt62 value = some bytes ∧ readVarInt62 (bytes ++ rest) = some (value, rest) := by
  unfold writeVarInt62
  split_ifs with h6 h14 h30
  · exact ⟨_, rfl, readVarInt62_bigEndian 0 0 _ _ rest rfl (by simp) h6 (by omega) (by omega)⟩
  · exact ⟨_, rfl, readVarInt62_bigEndian 1 1 _ _ rest rfl (by omega) h14 (by omega) (by omega)⟩
  · exact ⟨_, rfl, readVarInt62_bigEndian 3 2 _ _ rest rfl (by omega) h30 (by omega) (by omega)⟩
  · exact ⟨_, rfl, readVarInt62_bigEndian 7 3 _ _ rest rfl (by omega) h (by omega) (by omega)⟩

end QuicHttp3
