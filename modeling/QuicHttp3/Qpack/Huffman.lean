import QuicHttp3.Qpack.InstructionEncoder

/-!
# The Huffman choice never lengthens an instruction

`DoStartString` Huffman-codes a name or a value only when the coded string is strictly shorter,
and then sets the Huffman flag just above the length prefix, in the byte the length is written
under, so the flag costs no byte and the length written is smaller. `encodeString_length_le`
compares one string with its literal form, `encodeFields_length_le` a list of fields, and
`encode_length_le_identity` says that `Encode`, from any encoder the setters and earlier calls on
well-formed descriptors reach, writes no more bytes than with a code that never shortens a string
(`HuffmanCode.identity`), which takes the literal path of `DoStartString` every time.
-/

namespace QuicHttp3

namespace QpackInstructionEncoder

variable (huffman : HuffmanCode)

/-- With the identity code a string is written literally. -/
theorem encodeString_identity (byte : UInt8) (field : QpackInstructionField) (s : List UInt8) :
    encodeString HuffmanCode.identity byte field s =
      encodeInteger byte field.param.toNat s.length ++ s := by
  simp [encodeString, HuffmanCode.identity]

/-- A string field never takes more bytes than its literal form. -/
theorem encodeString_length_le (byte : UInt8) (field : QpackInstructionField) (s : List UInt8) :
    (encodeString huffman byte field s).length ≤
      (encodeString HuffmanCode.identity byte field s).length := by
  rw [encodeString_identity, encodeString]
  split_ifs with hshorter
  · have := length_encodeInteger_mono (UInt8.ofNat (byte.toNat ||| 2 ^ field.param.toNat)) byte
      field.param.toNat hshorter.le
    simp only [List.length_append]
    omega
  · exact le_rfl

theorem encodeFields_length_le (inputs : Inputs) (byte : UInt8)
    (fields : List QpackInstructionField) :
    (encodeFields huffman inputs byte fields).length ≤
      (encodeFields HuffmanCode.identity inputs byte fields).length := by
  induction fields generalizing byte with
  | nil => exact le_rfl
  | cons field fields ih =>
    have hrest := ih 0
    cases ht : field.type <;> simp only [encodeFields, ht, List.length_append]
    case kSbit => exact ih _
    case kName => have := encodeString_length_le huffman byte field inputs.name; omega
    case kValue => have := encodeString_length_le huffman byte field inputs.value; omega
    all_goals omega

/-- From every reachable encoder, `Encode` on a well-formed descriptor writes no more bytes with the
Huffman code than with a code that never shortens a string. -/
theorem encode_length_le_identity (instruction : QpackInstruction) (hwf : instruction.WellFormed)
    {e : QpackInstructionEncoder} (he : Reachable huffman e) (output : List UInt8) :
    ∃ r r', encode huffman instruction e output = some r ∧
      encode HuffmanCode.identity instruction e output = some r' ∧ r.2.length ≤ r'.2.length := by
  obtain ⟨e₁, h₁, -, -⟩ := @encode_eq huffman instruction hwf e he.byte_eq_zero output
  obtain ⟨e₂, h₂, -, -⟩ := @encode_eq HuffmanCode.identity instruction hwf e he.byte_eq_zero output
  refine ⟨_, _, h₁, h₂, ?_⟩
  simpa using encodeFields_length_le huffman e.inputs instruction.opcode.value instruction.fields

theorem encode_length_le_identity_insertWithNameReference :
    ∃ r r', encode HuffmanCode.identity insertWithNameReferenceInstruction init [] = some r ∧
      encode HuffmanCode.identity insertWithNameReferenceInstruction init [] = some r' ∧
        r.2.length ≤ r'.2.length :=
  encode_length_le_identity HuffmanCode.identity insertWithNameReferenceInstruction (by decide) .init []

end QpackInstructionEncoder

end QuicHttp3
