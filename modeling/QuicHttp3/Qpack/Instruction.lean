import QuicHttp3.Qpack.HpackInteger

/-!
# QPACK instruction descriptors and their grammar

A QPACK instruction is described by a table entry, `QpackInstruction` of `qpack_constants.h`
(not among the sources): an opcode byte with its fixed bits, and a list of fields, each a static
bit (`kSbit`, `param` the bit's mask), an integer (`kVarint`, `kVarint2`, `param` the prefix
length) or a string (`kName`, `kValue`, `param` the prefix length of the string's length, with
the Huffman flag at bit `param` just above it). The fields of a descriptor fall into byte groups:
a run of static bits and then one integer or string, all sharing the group's first byte. The four
encoder-stream descriptors are modelled from the spec's table (§4.5).

`parseInstruction` is the grammar a descriptor defines: the opcode bits of the first byte, then
each field in turn, a static bit read from the group's first byte, an RFC 7541 integer, a string
as its flag bit, its length and that many bytes, Huffman-decoded when the flag is set.
`WellFormed` is the shape every descriptor of the table has: a last field that closes a group,
prefix lengths from 1 to 8 (7 for strings), and in each group the opcode mask (first group only),
the static-bit masks, the Huffman flag and the prefix bits pairwise disjoint.
-/

namespace QuicHttp3

inductive QpackInstructionFieldType
  | kSbit
  | kName
  | kValue
  | kVarint
  | kVarint2
  deriving DecidableEq, Repr

structure QpackInstructionField where
  type : QpackInstructionFieldType
  param : UInt8
  deriving DecidableEq, Repr

structure QpackInstructionOpcode where
  value : UInt8
  mask : UInt8
  deriving DecidableEq, Repr

structure QpackInstruction where
  opcode : QpackInstructionOpcode
  fields : List QpackInstructionField
  deriving DecidableEq, Repr

/-! ## The encoder-stream descriptors -/

/-- Modelled from the spec: `InsertWithNameReferenceInstruction()` (the descriptors are not among
the sources), `1Txxxxxx`, static bit `T`, a 6-bit name index, the value. -/
def insertWithNameReferenceInstruction : QpackInstruction :=
  ⟨⟨0b10000000, 0b10000000⟩, [⟨.kSbit, 0b01000000⟩, ⟨.kVarint, 6⟩, ⟨.kValue, 7⟩]⟩

/-- Modelled from the spec: `InsertWithoutNameReferenceInstruction()`, `01xxxxxx`, the name with a
5-bit length prefix, the value. -/
def insertWithoutNameReferenceInstruction : QpackInstruction :=
  ⟨⟨0b01000000, 0b11000000⟩, [⟨.kName, 5⟩, ⟨.kValue, 7⟩]⟩

/-- Modelled from the spec: `DuplicateInstruction()`, `000xxxxx`, a 5-bit index. -/
def duplicateInstruction : QpackInstruction :=
  ⟨⟨0b00000000, 0b11100000⟩, [⟨.kVarint, 5⟩]⟩

/-- Modelled from the spec: `SetDynamicTableCapacityInstruction()`, `001xxxxx`, a 5-bit
capacity. -/
def setDynamicTableCapacityInstruction : QpackInstruction :=
  ⟨⟨0b00100000, 0b11100000⟩, [⟨.kVarint, 5⟩]⟩

/-! ## Well-formed descriptors -/

/-- The bits a field takes in its group's first byte: a static bit's mask; an integer's prefix;
a string's prefix and the Huffman flag above it. -/
def QpackInstructionField.groupBits (field : QpackInstructionField) : Nat :=
  match field.type with
  | .kSbit => field.param.toNat
  | .kVarint | .kVarint2 => 2 ^ field.param.toNat - 1
  | .kName | .kValue => 2 ^ (field.param.toNat + 1) - 1

/-- Prefix lengths from 1 to 8 for integers and from 1 to 7 for strings. -/
def QpackInstructionField.paramOk (field : QpackInstructionField) : Bool :=
  match field.type with
  | .kSbit => true
  | .kVarint | .kVarint2 => 1 ≤ field.param.toNat && field.param.toNat ≤ 8
  | .kName | .kValue => 1 ≤ field.param.toNat && field.param.toNat ≤ 7

/-- Fields after the bits `used` of the group's first byte are taken: each takes bits of its own, a
static bit leaves the group open, any other field closes it, and the last closes a group. -/
def fieldsWellFormed (used : Nat) : List QpackInstructionField → Bool
  | [] => false
  | field :: fields =>
    field.paramOk && field.groupBits &&& used == 0 &&
      if field.type = .kSbit then fieldsWellFormed (used ||| field.groupBits) fields
      else fields.isEmpty || fieldsWellFormed 0 fields

/-- The opcode value lies within its mask, and the fields are well formed with the opcode mask
taken in the first group. -/
def QpackInstruction.WellFormed (instruction : QpackInstruction) : Prop :=
  instruction.opcode.value.toNat &&& instruction.opcode.mask.toNat =
      instruction.opcode.value.toNat ∧
    fieldsWellFormed instruction.opcode.mask.toNat instruction.fields = true

instance (instruction : QpackInstruction) : Decidable instruction.WellFormed :=
  inferInstanceAs (Decidable (_ ∧ _))

/-- Every static bit of the descriptor has a mask with a bit in it. -/
def QpackInstruction.SbitMasksNonzero (instruction : QpackInstruction) : Prop :=
  ∀ field ∈ instruction.fields, field.type = .kSbit → field.param ≠ 0

instance (instruction : QpackInstruction) : Decidable instruction.SbitMasksNonzero :=
  inferInstanceAs (Decidable (∀ _ ∈ _, _))

example : insertWithNameReferenceInstruction.WellFormed ∧
    insertWithoutNameReferenceInstruction.WellFormed ∧ duplicateInstruction.WellFormed ∧
    setDynamicTableCapacityInstruction.WellFormed := by decide

/-! ## The grammar -/

/-- HPACK Huffman coding (`http2::HuffmanEncode` and its decoder, not among the sources), taken
as a parameter with the one law the grammar needs: decoding undoes encoding. -/
structure HuffmanCode where
  encode : List UInt8 → List UInt8
  decode : List UInt8 → Option (List UInt8)
  decode_encode : ∀ s, decode (encode s) = some s

/-- The code that leaves every string as it is; the encoder never prefers it, since it is never
shorter. -/
def HuffmanCode.identity : HuffmanCode := ⟨id, some, fun _ => rfl⟩

/-- A decoded field: a static bit, an integer, or a string. -/
inductive FieldValue
  | sbit (bit : Bool)
  | integer (value : Nat)
  | string (bytes : List UInt8)
  deriving DecidableEq, Repr

/-- One field of the grammar; a static bit reads the next byte without consuming it. -/
def parseField (huffman : HuffmanCode) (field : QpackInstructionField) (bytes : List UInt8) :
    Option (FieldValue × List UInt8) :=
  match field.type with
  | .kSbit => bytes.head?.map fun b => (.sbit (b.toNat &&& field.param.toNat != 0), bytes)
  | .kVarint | .kVarint2 =>
    (decodeInteger field.param.toNat bytes).map fun r => (.integer r.1, r.2)
  | .kName | .kValue => do
    let b ← bytes.head?
    let (length, rest) ← decodeInteger field.param.toNat bytes
    if rest.length < length then none
    else
      let s ← if b.toNat &&& 2 ^ field.param.toNat = 0 then some (rest.take length)
        else huffman.decode (rest.take length)
      pure (.string s, rest.drop length)

def parseFields (huffman : HuffmanCode) :
    List QpackInstructionField → List UInt8 → Option (List FieldValue × List UInt8)
  | [], bytes => some ([], bytes)
  | field :: fields, bytes => do
    let (value, bytes) ← parseField huffman field bytes
    let (values, rest) ← parseFields huffman fields bytes
    pure (value :: values, rest)

/-- The instruction the descriptor describes, if the first byte carries its opcode. -/
def parseInstruction (huffman : HuffmanCode) (instruction : QpackInstruction) :
    List UInt8 → Option (List FieldValue × List UInt8)
  | [] => none
  | b :: bytes =>
    if b.toNat &&& instruction.opcode.mask.toNat = instruction.opcode.value.toNat then
      parseFields huffman instruction.fields (b :: bytes)
    else none

end QuicHttp3
