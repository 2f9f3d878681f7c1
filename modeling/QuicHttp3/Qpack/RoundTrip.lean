import QuicHttp3.Qpack.InstructionEncoder

/-!
# Encoding and parsing QPACK instructions

The grammar of a descriptor reads back what `QpackInstructionEncoder::Encode` writes for it.
`encodeFields_cons` says that the first byte of a group shows the group's working byte to every
mask within the bits already taken, so the opcode and the static bits survive the integer or string
written under them; `parseField_encodeString` reads back a string, with or without the Huffman
flag; `parseFields_encodeFields` is the round trip for well-formed fields by induction on the
list. `encode_parseInstruction` puts them together for `Encode` from any reachable encoder.

A static bit with an empty mask is a well-formed field that no byte can carry:
`encode_zero_sbit_mask_misread` is a well-formed descriptor whose static bit comes back cleared.
-/

namespace QuicHttp3

namespace QpackInstructionEncoder

variable (huffman : HuffmanCode)

theorem paramOk_le {f : QpackInstructionField} (h : f.paramOk = true) (ht : f.type ≠ .kSbit) :
    f.param.toNat ≤ 8 := by
  unfold QpackInstructionField.paramOk at h
  cases hf : f.type <;> simp_all <;> omega

theorem paramOk_string_le {f : QpackInstructionField} (h : f.paramOk = true)
    (ht : f.type = .kName ∨ f.type = .kValue) : f.param.toNat ≤ 7 := by
  unfold QpackInstructionField.paramOk at h
  rcases ht with ht | ht <;> simp_all

/-- The first byte of a string field shows the working byte to every mask that misses the
string's prefix and flag. -/
theorem encodeString_cons (byte : UInt8) (f : QpackInstructionField) (s : List UInt8)
    (hn : f.param.toNat ≤ 7) :
    ∃ b bytes, encodeString huffman byte f s = b :: bytes ∧
      ∀ m, (2 ^ f.param.toNat - 1 ||| 2 ^ f.param.toNat) &&& m = 0 →
        b.toNat &&& m = byte.toNat &&& m := by
  have hmod (m : Nat) (h : (2 ^ f.param.toNat - 1 ||| 2 ^ f.param.toNat) &&& m = 0) :
      m % 2 ^ f.param.toNat = 0 := by
    rw [Nat.land_comm] at h
    exact mod_two_pow_eq_zero_of_and (and_eq_zero_of_and_or h).1
  unfold encodeString
  split_ifs
  · obtain ⟨b, bytes, h, hb⟩ := encodeInteger_cons (UInt8.ofNat (byte.toNat ||| 2 ^ f.param.toNat))
      (by omega : f.param.toNat ≤ 8) (huffman.encode s).length
    refine ⟨b, bytes ++ huffman.encode s, by simp [h], fun m hm => ?_⟩
    rw [hb m (hmod m hm), byte_toNat_or_two_pow byte hn, or_and_of_and_eq_zero]
    rw [Nat.land_comm] at hm ⊢
    exact (and_eq_zero_of_and_or hm).2
  · obtain ⟨b, bytes, h, hb⟩ := encodeInteger_cons byte (by omega : f.param.toNat ≤ 8) s.length
    exact ⟨b, bytes ++ s, by simp [h], fun m hm => hb m (hmod m hm)⟩

theorem parseField_encodeString (byte : UInt8) (f : QpackInstructionField) (s rest : List UInt8)
    (ht : f.type = .kName ∨ f.type = .kValue) (hn : f.param.toNat ≤ 7)
    (hclear : byte.toNat % 2 ^ f.param.toNat = 0) (hflag : byte.toNat &&& 2 ^ f.param.toNat = 0) :
    parseField huffman f (encodeString huffman byte f s ++ rest) = some (.string s, rest) := by
  have hdec (highBits : UInt8) (hc : highBits.toNat % 2 ^ f.param.toNat = 0) (bytes : List UInt8) :
      ∃ b bs, encodeInteger highBits f.param.toNat bytes.length ++ (bytes ++ rest) = b :: bs ∧
        b.toNat &&& 2 ^ f.param.toNat = highBits.toNat &&& 2 ^ f.param.toNat ∧
        decodeInteger f.param.toNat (b :: bs) = some (bytes.length, bytes ++ rest) := by
    obtain ⟨b, bs, h, hb⟩ := encodeInteger_cons highBits (by omega : f.param.toNat ≤ 8) bytes.length
    refine ⟨b, bs ++ (bytes ++ rest), by simp [h], hb _ (Nat.mod_self _), ?_⟩
    rw [← List.cons_append, ← h]
    exact decodeInteger_encodeInteger highBits (by omega) hc _ _
  unfold encodeString
  split_ifs with hh
  · obtain ⟨b, bs, h, hb, hd⟩ := hdec (UInt8.ofNat (byte.toNat ||| 2 ^ f.param.toNat))
      (by rw [byte_toNat_or_two_pow byte hn]; exact or_two_pow_mod hclear) (huffman.encode s)
    rw [byte_toNat_or_two_pow byte hn, or_and_right_self] at hb
    rw [List.append_assoc, h]
    rcases ht with ht | ht <;>
      simp [parseField, ht, hd, hb, huffman.decode_encode, List.take_left', List.drop_left']
  · obtain ⟨b, bs, h, hb, hd⟩ := hdec byte hclear s
    rw [hflag] at hb
    rw [List.append_assoc, h]
    rcases ht with ht | ht <;> simp [parseField, ht, hd, hb, List.take_left', List.drop_left']

/-- The first byte of what `encodeFields` writes shows the group's working byte to every mask
within the bits already taken. -/
theorem encodeFields_cons (inputs : Inputs) (used : Nat) (byte : UInt8)
    (fields : List QpackInstructionField) (hwf : fieldsWellFormed used fields = true)
    (hbyte : byte.toNat &&& used = byte.toNat) :
    ∃ b bytes, encodeFields huffman inputs byte fields = b :: bytes ∧
      ∀ m, m &&& used = m → b.toNat &&& m = byte.toNat &&& m := by
  induction fields generalizing used byte with
  | nil => simp [fieldsWellFormed] at hwf
  | cons f fs ih =>
    simp only [fieldsWellFormed, Bool.and_eq_true, beq_iff_eq] at hwf
    obtain ⟨⟨hparam, hdisj⟩, hrest⟩ := hwf
    -- a mask within `used` misses the bits this field takes
    have hmiss (m : Nat) (hm : m &&& used = m) : f.groupBits &&& m = 0 := by
      rw [Nat.land_comm]; exact and_eq_zero_of_within hm (by rwa [Nat.land_comm])
    cases ht : f.type with
    | kSbit =>
      simp only [ht, if_true, QpackInstructionField.groupBits] at hrest hmiss
      obtain ⟨b, bytes, h, hb⟩ := ih (used ||| f.param.toNat)
        (if inputs.sBit then byte ||| f.param else byte) hrest (staticBit_within _ _ hbyte)
      refine ⟨b, bytes, by simp [encodeFields, ht, h], fun m hm => ?_⟩
      rw [hb m (within_or hm)]
      cases inputs.sBit <;> simp [or_and_of_and_eq_zero (hmiss m hm)]
    | kVarint | kVarint2 =>
      simp only [ht, QpackInstructionField.groupBits] at hmiss
      obtain ⟨b, bytes, h, hb⟩ := encodeInteger_cons byte (paramOk_le hparam (by simp [ht]))
        (if f.type = .kVarint then inputs.varint else inputs.varint2)
      refine ⟨b, bytes ++ encodeFields huffman inputs 0 fs, by simp_all [encodeFields], fun m hm => ?_⟩
      exact hb m (mod_two_pow_eq_zero_of_and (by rw [Nat.land_comm]; exact hmiss m hm))
    | kName | kValue =>
      simp only [ht, QpackInstructionField.groupBits, string_groupBits] at hmiss
      obtain ⟨b, bytes, h, hb⟩ := encodeString_cons huffman byte f
        (if f.type = .kName then inputs.name else inputs.value) (paramOk_string_le hparam (by simp [ht]))
      refine ⟨b, bytes ++ encodeFields huffman inputs 0 fs, by simp_all [encodeFields], fun m hm => ?_⟩
      exact hb m (hmiss m hm)

/-- The grammar reads back what the encoder writes for well-formed fields, whatever follows. -/
theorem parseFields_encodeFields (inputs : Inputs) (used : Nat) (byte : UInt8)
    (fields : List QpackInstructionField) (hwf : fieldsWellFormed used fields = true)
    (hbyte : byte.toNat &&& used = byte.toNat)
    (hsbit : ∀ f ∈ fields, f.type = .kSbit → f.param ≠ 0) (rest : List UInt8) :
    parseFields huffman fields (encodeFields huffman inputs byte fields ++ rest) =
      some (fields.map inputs.fieldValue, rest) := by
  induction fields generalizing used byte with
  | nil => simp [fieldsWellFormed] at hwf
  | cons f fs ih =>
    simp only [fieldsWellFormed, Bool.and_eq_true, beq_iff_eq] at hwf
    obtain ⟨⟨hparam, hdisj⟩, hrest⟩ := hwf
    have hfree : byte.toNat &&& f.groupBits = 0 :=
      and_eq_zero_of_within hbyte (by rwa [Nat.land_comm])
    have hsbit' : ∀ f ∈ fs, f.type = .kSbit → f.param ≠ 0 := fun f hf => hsbit f (.tail _ hf)
    -- the next group starts from a clear working byte
    have next (hne : f.type ≠ .kSbit) :
        parseFields huffman fs (encodeFields huffman inputs 0 fs ++ rest) =
          some (fs.map inputs.fieldValue, rest) := by
      rcases (by simpa [hne] using hrest : fs = [] ∨ fieldsWellFormed 0 fs = true) with rfl | hwf
      · simp [parseFields, encodeFields]
      · exact ih 0 0 hwf rfl hsbit'
    cases ht : f.type with
    | kSbit =>
      simp only [ht, if_true, QpackInstructionField.groupBits] at hrest hfree
      obtain ⟨b, bytes, h, hb⟩ := encodeFields_cons huffman inputs (used ||| f.param.toNat)
        (if inputs.sBit then byte ||| f.param else byte) fs hrest (staticBit_within _ _ hbyte)
      have hparam0 : f.param.toNat ≠ 0 := fun h0 => hsbit f (.head _) ht (UInt8.toNat.inj h0)
      have hbit : (b.toNat &&& f.param.toNat != 0) = inputs.sBit := by
        rw [hb _ (self_within_or _ _)]
        cases inputs.sBit <;> simp [hfree, or_and_right_self, hparam0]
      have htail := ih (used ||| f.param.toNat) (if inputs.sBit then byte ||| f.param else byte) hrest
        (staticBit_within _ _ hbyte) hsbit'
      rw [h, List.cons_append] at htail
      simp [encodeFields, ht, h, parseFields, parseField, hbit, htail, Inputs.fieldValue]
    | kVarint | kVarint2 =>
      simp only [ht, QpackInstructionField.groupBits] at hfree
      have hv := decodeInteger_encodeInteger byte (paramOk_le hparam (by simp [ht]))
        (mod_two_pow_eq_zero_of_and hfree)
        (if f.type = .kVarint then inputs.varint else inputs.varint2)
        (encodeFields huffman inputs 0 fs ++ rest)
      simp_all [encodeFields, parseFields, parseField, Inputs.fieldValue]
    | kName | kValue =>
      simp only [ht, QpackInstructionField.groupBits, string_groupBits] at hfree
      have hs := parseField_encodeString huffman byte f
        (if f.type = .kName then inputs.name else inputs.value)
        (encodeFields huffman inputs 0 fs ++ rest) (by simp [ht])
        (paramOk_string_le hparam (by simp [ht]))
        (mod_two_pow_eq_zero_of_and (and_eq_zero_of_and_or hfree).1) (and_eq_zero_of_and_or hfree).2
      simp_all [encodeFields, parseFields, Inputs.fieldValue]

/-- What `Encode` appends carries the opcode in its first byte, and the grammar reads it back as the
values of the fields, whatever follows. -/
theorem encode_reads_back (instruction : QpackInstruction) (hwf : instruction.WellFormed)
    (hsbit : instruction.SbitMasksNonzero) (e : QpackInstructionEncoder) (he : Reachable huffman e)
    (output : List UInt8) :
    ∃ e' b bytes, encode huffman instruction e output = some (e', output ++ b :: bytes) ∧
      b.toNat &&& instruction.opcode.mask.toNat = instruction.opcode.value.toNat ∧
      ∀ rest, parseInstruction huffman instruction (b :: bytes ++ rest) =
        some (instruction.fields.map e.inputs.fieldValue, rest) := by
  obtain ⟨e', henc, -, -⟩ := @encode_eq huffman instruction hwf e he.byte_eq_zero output
  obtain ⟨b, bytes, h, hb⟩ := encodeFields_cons huffman e.inputs instruction.opcode.mask.toNat
    instruction.opcode.value instruction.fields hwf.2 hwf.1
  have hop : b.toNat &&& instruction.opcode.mask.toNat = instruction.opcode.value.toNat := by
    rw [hb _ (Nat.and_self _), hwf.1]
  refine ⟨e', b, bytes, h ▸ henc, hop, fun rest => ?_⟩
  have hparse := parseFields_encodeFields huffman e.inputs _ _ _ hwf.2 hwf.1 hsbit rest
  rw [h] at hparse
  simpa [parseInstruction, hop] using hparse

/-- `Encode` terminates, writes the opcode into the first byte, and the grammar reads exactly the
appended bytes back as the values of the fields. -/
theorem encode_parseInstruction (huffman : HuffmanCode) (instruction : QpackInstruction)
    (hwf : instruction.WellFormed) (hsbit : instruction.SbitMasksNonzero)
    (e : QpackInstructionEncoder) (he : Reachable huffman e) (output rest : List UInt8) :
    ∃ e' b bytes, encode huffman instruction e output = some (e', output ++ b :: bytes) ∧
      b.toNat &&& instruction.opcode.mask.toNat = instruction.opcode.value.toNat ∧
      parseInstruction huffman instruction (b :: bytes ++ rest) =
        some (instruction.fields.map e.inputs.fieldValue, rest) := by
  obtain ⟨e', b, bytes, henc, hop, hparse⟩ := encode_reads_back huffman instruction hwf hsbit e he output
  exact ⟨e', b, bytes, henc, hop, hparse rest⟩

theorem insertWithNameReference_encode_parses :
    ∃ e' b bytes, encode HuffmanCode.identity insertWithNameReferenceInstruction init [] =
        some (e', [] ++ b :: bytes) ∧
      b.toNat &&& insertWithNameReferenceInstruction.opcode.mask.toNat =
        insertWithNameReferenceInstruction.opcode.value.toNat ∧
      parseInstruction HuffmanCode.identity insertWithNameReferenceInstruction (b :: bytes ++ []) =
        some (insertWithNameReferenceInstruction.fields.map init.inputs.fieldValue, []) :=
  encode_parseInstruction HuffmanCode.identity insertWithNameReferenceInstruction (by decide)
    (by decide) init .init [] []

/-- A static bit with an empty mask is read back clear; an `Encode` on a descriptor ending in a
static bit leaves `byte_` at `0x80`, so the next `Encode` fails `DCHECK_EQ(0u, byte_)`. -/
theorem encode_zero_sbit_mask_misread_and_trailing_sbit_fails :
    let instruction : QpackInstruction := ⟨⟨0, 0⟩, [⟨.kSbit, 0⟩, ⟨.kVarint, 8⟩]⟩
    let e := init.setSBit true
    let trailing : QpackInstruction := ⟨⟨0x80, 0x80⟩, [⟨.kSbit, 0x40⟩]⟩
    (instruction.WellFormed ∧ Reachable HuffmanCode.identity e ∧
      (encode HuffmanCode.identity instruction e []).map Prod.snd = some [0] ∧
      parseInstruction HuffmanCode.identity instruction [0] = some ([.sbit false, .integer 0], []) ∧
      instruction.fields.map e.inputs.fieldValue = [.sbit true, .integer 0]) ∧
    (¬ trailing.WellFormed ∧
      (encode HuffmanCode.identity trailing init []).map (fun r => r.1.byte) = some 0x80 ∧
      insertWithNameReferenceInstruction.WellFormed ∧
      ((encode HuffmanCode.identity trailing init []).bind fun r =>
        encode HuffmanCode.identity insertWithNameReferenceInstruction r.1 r.2) = none) :=
  ⟨⟨by decide, .setSBit true .init, by decide, by decide, rfl⟩, by decide, by decide, by decide, rfl⟩

end QpackInstructionEncoder

end QuicHttp3
