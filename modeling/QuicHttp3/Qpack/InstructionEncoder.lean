import QuicHttp3.Qpack.Instruction

/-!
# The QPACK instruction encoder

`QpackInstructionEncoder` (`qpack_instruction_encoder.cc`) as a state machine over its own
fields. `encode` resets `state_` to `kOpcode` and `field_` to the first field, then repeats one of
`doOpcode`, `doStartField`, `doStaticBit`, `doVarintEncode`, `doStartString`, `doWriteString`
until `field_` reaches the end. The working byte `byte_` collects the opcode, the static bits and
the Huffman flag of a byte group; writing an integer or a string length flushes it and clears it.
Each `DCHECK` of the source is a failure (`none`) of the step that makes it.

`encodeFields` is what the loop writes for a list of fields from a given working byte, as one
recursive function; `encodeLoop_fields` says that the loop writes exactly that and ends with a
clear working byte, for well-formed fields and enough fuel, and `encode_eq` lifts it to `encode`.
`Reachable` are the encoder objects the setters and earlier `Encode` calls on well-formed
descriptors produce; all have a clear working byte.
-/

namespace QuicHttp3

inductive QpackInstructionEncoder.State
  | kOpcode
  | kStartField
  | kSbit
  | kVarintEncode
  | kStartString
  | kWriteString
  deriving DecidableEq, Repr

/-- The encoder object. `field` is the iterator `field_` as the fields from it to the end; the
instruction `instruction_` is `encode`'s argument. -/
structure QpackInstructionEncoder where
  sBit : Bool
  varint : Nat
  varint2 : Nat
  name : List UInt8
  value : List UInt8
  stringToWrite : List UInt8
  huffmanEncodedString : List UInt8
  byte : UInt8
  state : QpackInstructionEncoder.State
  field : List QpackInstructionField

namespace QpackInstructionEncoder

open State

/-- The constructor. -/
def init : QpackInstructionEncoder :=
  ⟨false, 0, 0, [], [], [], [], 0, kOpcode, []⟩

/-! ## Setters (`qpack_instruction_encoder.h`, modelled from the spec: they store their argument) -/

def setSBit (e : QpackInstructionEncoder) (sBit : Bool) : QpackInstructionEncoder :=
  { e with sBit := sBit }

def setVarint (e : QpackInstructionEncoder) (varint : Nat) : QpackInstructionEncoder :=
  { e with varint := varint }

def setVarint2 (e : QpackInstructionEncoder) (varint2 : Nat) : QpackInstructionEncoder :=
  { e with varint2 := varint2 }

def setName (e : QpackInstructionEncoder) (name : List UInt8) : QpackInstructionEncoder :=
  { e with name := name }

def setValue (e : QpackInstructionEncoder) (value : List UInt8) : QpackInstructionEncoder :=
  { e with value := value }

/-! ## The steps -/

def doOpcode (instruction : QpackInstruction) (e : QpackInstructionEncoder) :
    Option QpackInstructionEncoder :=
  if e.byte = 0 then some { e with byte := instruction.opcode.value, state := kStartField }
  else none

def doStartField (e : QpackInstructionEncoder) : Option QpackInstructionEncoder :=
  match e.field with
  | [] => none
  | field :: _ =>
    match field.type with
    | .kSbit => some { e with state := kSbit }
    | .kVarint | .kVarint2 => some { e with state := kVarintEncode }
    | .kName | .kValue => some { e with state := kStartString }

def doStaticBit (e : QpackInstructionEncoder) : Option QpackInstructionEncoder :=
  match e.field with
  | [] => none
  | field :: fields =>
    if field.type ≠ .kSbit then none
    else if e.sBit then
      if e.byte &&& field.param ≠ 0 then none
      else some { e with byte := e.byte ||| field.param, field := fields, state := kStartField }
    else some { e with field := fields, state := kStartField }

def doVarintEncode (e : QpackInstructionEncoder) (output : List UInt8) :
    Option (QpackInstructionEncoder × List UInt8) :=
  match e.field with
  | [] => none
  | field :: fields =>
    if field.type = .kSbit then none
    else
      let integerToEncode :=
        match field.type with
        | .kVarint => e.varint
        | .kVarint2 => e.varint2
        | _ => e.stringToWrite.length
      let output := output ++ encodeInteger e.byte field.param.toNat integerToEncode
      if field.type = .kVarint ∨ field.type = .kVarint2 then
        some ({ e with byte := 0, field := fields, state := kStartField }, output)
      else some ({ e with byte := 0, state := kWriteString }, output)

def doStartString (huffman : HuffmanCode) (e : QpackInstructionEncoder) :
    Option QpackInstructionEncoder :=
  match e.field with
  | [] => none
  | field :: _ =>
    if field.type ≠ .kName ∧ field.type ≠ .kValue then none
    else
      let stringToWrite := if field.type = .kName then e.name else e.value
      let huffmanEncodedString := huffman.encode stringToWrite
      if huffmanEncodedString.length < stringToWrite.length then
        if e.byte.toNat &&& 2 ^ field.param.toNat ≠ 0 then none
        else some { e with
          byte := UInt8.ofNat (e.byte.toNat ||| 2 ^ field.param.toNat)
          stringToWrite := huffmanEncodedString
          huffmanEncodedString := huffmanEncodedString
          state := kVarintEncode }
      else some { e with
        stringToWrite := stringToWrite
        huffmanEncodedString := huffmanEncodedString
        state := kVarintEncode }

def doWriteString (e : QpackInstructionEncoder) (output : List UInt8) :
    Option (QpackInstructionEncoder × List UInt8) :=
  match e.field with
  | [] => none
  | field :: fields =>
    if field.type ≠ .kName ∧ field.type ≠ .kValue then none
    else some ({ e with field := fields, state := kStartField }, output ++ e.stringToWrite)

/-- One turn of `Encode`'s `switch (state_)`. -/
def step (huffman : HuffmanCode) (instruction : QpackInstruction) (e : QpackInstructionEncoder)
    (output : List UInt8) : Option (QpackInstructionEncoder × List UInt8) :=
  match e.state with
  | kOpcode => (doOpcode instruction e).map (·, output)
  | kStartField => (doStartField e).map (·, output)
  | kSbit => (doStaticBit e).map (·, output)
  | kVarintEncode => doVarintEncode e output
  | kStartString => (doStartString huffman e).map (·, output)
  | kWriteString => doWriteString e output

/-- `do { ... } while (field_ != instruction_->fields.end())`, on fuel. -/
def encodeLoop (huffman : HuffmanCode) (instruction : QpackInstruction) :
    Nat → QpackInstructionEncoder → List UInt8 → Option (QpackInstructionEncoder × List UInt8)
  | 0, _, _ => none
  | fuel + 1, e, output => do
    let (e, output) ← e.step huffman instruction output
    if e.field = [] then pure (e, output) else encodeLoop huffman instruction fuel e output

/-- `QpackInstructionEncoder::Encode`, appending to `output`. The loop gets fuel for four steps a
field and the opcode, as many as it can take (`encode_eq`). -/
def encode (huffman : HuffmanCode) (instruction : QpackInstruction) (e : QpackInstructionEncoder)
    (output : List UInt8) : Option (QpackInstructionEncoder × List UInt8) :=
  if instruction.fields = [] then none
  else encodeLoop huffman instruction (4 * instruction.fields.length + 1)
    { e with state := kOpcode, field := instruction.fields } output

/-! ## What the loop writes -/

/-- What the caller sets before `Encode`: the values the fields take. -/
structure Inputs where
  sBit : Bool
  varint : Nat
  varint2 : Nat
  name : List UInt8
  value : List UInt8

def inputs (e : QpackInstructionEncoder) : Inputs := ⟨e.sBit, e.varint, e.varint2, e.name, e.value⟩

/-- The value a field carries. -/
def Inputs.fieldValue (inputs : Inputs) (field : QpackInstructionField) : FieldValue :=
  match field.type with
  | .kSbit => .sbit inputs.sBit
  | .kVarint => .integer inputs.varint
  | .kVarint2 => .integer inputs.varint2
  | .kName => .string inputs.name
  | .kValue => .string inputs.value

/-- A string field: its length under the working byte, with the Huffman flag when the coded form
is shorter, then the string. -/
def encodeString (huffman : HuffmanCode) (byte : UInt8) (field : QpackInstructionField)
    (s : List UInt8) : List UInt8 :=
  if (huffman.encode s).length < s.length then
    encodeInteger (UInt8.ofNat (byte.toNat ||| 2 ^ field.param.toNat)) field.param.toNat
      (huffman.encode s).length ++ huffman.encode s
  else encodeInteger byte field.param.toNat s.length ++ s

/-- What the encoder writes for `fields` when the working byte of the current group is `byte`. -/
def encodeFields (huffman : HuffmanCode) (inputs : Inputs) :
    UInt8 → List QpackInstructionField → List UInt8
  | _, [] => []
  | byte, field :: fields =>
    match field.type with
    | .kSbit => encodeFields huffman inputs (if inputs.sBit then byte ||| field.param else byte) fields
    | .kVarint => encodeInteger byte field.param.toNat inputs.varint ++ encodeFields huffman inputs 0 fields
    | .kVarint2 => encodeInteger byte field.param.toNat inputs.varint2 ++ encodeFields huffman inputs 0 fields
    | .kName => encodeString huffman byte field inputs.name ++ encodeFields huffman inputs 0 fields
    | .kValue => encodeString huffman byte field inputs.value ++ encodeFields huffman inputs 0 fields

/-- What the encoder writes for fields depends only on the values those fields take. -/
theorem encodeFields_congr (huffman : HuffmanCode) {inputs inputs' : Inputs} (byte : UInt8)
    (fields : List QpackInstructionField)
    (h : ∀ field ∈ fields, inputs.fieldValue field = inputs'.fieldValue field) :
    encodeFields huffman inputs byte fields = encodeFields huffman inputs' byte fields := by
  induction fields generalizing byte with
  | nil => rfl
  | cons field fields ih =>
    have hfield := h field (List.mem_cons_self _ _)
    have hrest := fun byte => ih byte fun f hf => h f (List.mem_cons_of_mem _ hf)
    cases ht : field.type <;>
      simp only [Inputs.fieldValue, ht, FieldValue.sbit.injEq, FieldValue.integer.injEq,
        FieldValue.string.injEq] at hfield <;>
      simp only [encodeFields, ht, hfield, hrest]

variable {huffman : HuffmanCode} {instruction : QpackInstruction}

theorem encodeLoop_succ {fuel : Nat} {e e' : QpackInstructionEncoder} {output output' : List UInt8}
    (h : e.step huffman instruction output = some (e', output')) :
    encodeLoop huffman instruction (fuel + 1) e output =
      if e'.field = [] then some (e', output') else encodeLoop huffman instruction fuel e' output' := by
  simp [encodeLoop, h]


/-- A static bit: two steps, and the bit is in the working byte when `s_bit_` is set. -/
theorem encodeLoop_sbit (e : QpackInstructionEncoder) (output : List UInt8) {f : QpackInstructionField}
    {fs : List QpackInstructionField} (hstate : e.state = kStartField) (hfield : e.field = f :: fs)
    (ht : f.type = .kSbit) (hfree : e.byte.toNat &&& f.param.toNat = 0) (hne : fs ≠ []) (fuel : Nat) :
    encodeLoop huffman instruction (fuel + 2) e output =
      encodeLoop huffman instruction fuel
        { e with byte := if e.sBit then e.byte ||| f.param else e.byte, field := fs,
                 state := kStartField } output := by
  have hb : e.byte &&& f.param = 0 := UInt8.toNat.inj (by simpa using hfree)
  have h1 : e.step huffman instruction output = some ({ e with state := kSbit }, output) := by
    simp [step, hstate, doStartField, hfield, ht]
  have h2 : ({ e with state := kSbit } : QpackInstructionEncoder).step huffman instruction output =
      some ({ e with byte := if e.sBit then e.byte ||| f.param else e.byte, field := fs,
                     state := kStartField }, output) := by
    cases h : e.sBit <;> simp [step, doStaticBit, hfield, ht, h, hb]
  rw [encodeLoop_succ h1, if_neg (by simp [hfield]), encodeLoop_succ h2, if_neg hne]

/-- An integer: two steps, which write it under the working byte and clear the byte. -/
theorem encodeLoop_integer (e : QpackInstructionEncoder) (output : List UInt8) {f : QpackInstructionField}
    {fs : List QpackInstructionField} (hstate : e.state = kStartField) (hfield : e.field = f :: fs)
    {v : Nat} (ht : f.type = .kVarint ∧ v = e.varint ∨ f.type = .kVarint2 ∧ v = e.varint2)
    (fuel : Nat) :
    encodeLoop huffman instruction (fuel + 2) e output =
      if fs = [] then
        some ({ e with byte := 0, field := fs, state := kStartField },
          output ++ encodeInteger e.byte f.param.toNat v)
      else encodeLoop huffman instruction fuel { e with byte := 0, field := fs, state := kStartField }
        (output ++ encodeInteger e.byte f.param.toNat v) := by
  have h1 : e.step huffman instruction output = some ({ e with state := kVarintEncode }, output) := by
    rcases ht with ⟨ht, -⟩ | ⟨ht, -⟩ <;> simp [step, hstate, doStartField, hfield, ht]
  have h2 : ({ e with state := kVarintEncode } : QpackInstructionEncoder).step huffman instruction
      output = some ({ e with byte := 0, field := fs, state := kStartField },
        output ++ encodeInteger e.byte f.param.toNat v) := by
    rcases ht with ⟨ht, rfl⟩ | ⟨ht, rfl⟩ <;> simp [step, doVarintEncode, hfield, ht]
  rw [encodeLoop_succ h1, if_neg (by simp [hfield]), encodeLoop_succ h2]

/-- A name or a value: four steps, which write the length under the working byte (with the
Huffman flag when the coded form is shorter), then the string, and clear the byte. -/
theorem encodeLoop_string (e : QpackInstructionEncoder) (output : List UInt8) {f : QpackInstructionField}
    {fs : List QpackInstructionField} (hstate : e.state = kStartField) (hfield : e.field = f :: fs)
    {s : List UInt8} (ht : f.type = .kName ∧ s = e.name ∨ f.type = .kValue ∧ s = e.value)
    (hfree : e.byte.toNat &&& 2 ^ f.param.toNat = 0) (fuel : Nat) :
    ∃ e', encodeLoop huffman instruction (fuel + 4) e output =
      (if e'.field = [] then some (e', output ++ encodeString huffman e.byte f s)
        else encodeLoop huffman instruction fuel e' (output ++ encodeString huffman e.byte f s)) ∧
      e'.state = kStartField ∧ e'.field = fs ∧ e'.byte = 0 ∧ e'.inputs = e.inputs := by
  have hstr : f.type ≠ .kSbit ∧ f.type ≠ .kVarint ∧ f.type ≠ .kVarint2 ∧
      (f.type = .kName ∨ f.type = .kValue) ∧ (if f.type = .kName then e.name else e.value) = s := by
    rcases ht with ⟨ht, rfl⟩ | ⟨ht, rfl⟩ <;> simp [ht]
  obtain ⟨hs, hv, hv2, hnv, hsel⟩ := hstr
  have h1 : e.step huffman instruction output = some ({ e with state := kStartString }, output) := by
    rcases hnv with ht | ht <;> simp [step, hstate, doStartField, hfield, ht]
  obtain ⟨e2, h2, hs2, hf2, hin2, henc⟩ : ∃ e2,
      ({ e with state := kStartString } : QpackInstructionEncoder).step huffman instruction output =
        some (e2, output) ∧ e2.state = kVarintEncode ∧ e2.field = f :: fs ∧ e2.inputs = e.inputs ∧
      encodeInteger e2.byte f.param.toNat e2.stringToWrite.length ++ e2.stringToWrite =
        encodeString huffman e.byte f s := by
    by_cases hh : (huffman.encode s).length < s.length
    · refine ⟨{ e with
          byte := UInt8.ofNat (e.byte.toNat ||| 2 ^ f.param.toNat)
          stringToWrite := huffman.encode s
          huffmanEncodedString := huffman.encode s
          state := kVarintEncode }, ?_, rfl, hfield, rfl, by simp [encodeString, hh]⟩
      rcases ht with ⟨ht, rfl⟩ | ⟨ht, rfl⟩ <;> simp [step, doStartString, hfield, ht, hh, hfree]
    · refine ⟨{ e with
          stringToWrite := s
          huffmanEncodedString := huffman.encode s
          state := kVarintEncode }, ?_, rfl, hfield, rfl, by simp [encodeString, hh]⟩
      rcases ht with ⟨ht, rfl⟩ | ⟨ht, rfl⟩ <;> simp [step, doStartString, hfield, ht, hh]
  have h3 : e2.step huffman instruction output = some ({ e2 with byte := 0, state := kWriteString },
      output ++ encodeInteger e2.byte f.param.toNat e2.stringToWrite.length) := by
    rcases hnv with ht | ht <;> simp [step, hs2, doVarintEncode, hf2, ht]
  have h4 : ({ e2 with byte := 0, state := kWriteString } : QpackInstructionEncoder).step huffman
      instruction (output ++ encodeInteger e2.byte f.param.toNat e2.stringToWrite.length) =
      some ({ e2 with byte := 0, field := fs, state := kStartField },
        output ++ encodeString huffman e.byte f s) := by
    rcases hnv with ht | ht <;> simp [step, doWriteString, hf2, ht, ← henc]
  refine ⟨{ e2 with byte := 0, field := fs, state := kStartField }, ?_, rfl, rfl, rfl, hin2⟩
  rw [encodeLoop_succ h1, if_neg (by simp [hfield]), encodeLoop_succ h2, if_neg (by simp [hf2]),
    encodeLoop_succ h3, if_neg (by simp [hf2]), encodeLoop_succ h4]

/-- Writing a static bit keeps the working byte within the bits taken, that bit included. -/
theorem staticBit_within (sBit : Bool) {byte : UInt8} {used : Nat} (param : UInt8)
    (hbyte : byte.toNat &&& used = byte.toNat) :
    (if sBit then byte ||| param else byte).toNat &&& (used ||| param.toNat) =
      (if sBit then byte ||| param else byte).toNat := by
  cases sBit <;> simp [or_within_or hbyte, within_or hbyte]

/-- The loop over well-formed fields from a group whose working byte lies within the bits `used`
writes `encodeFields` and ends with a clear working byte. -/
theorem encodeLoop_fields (e : QpackInstructionEncoder) (output : List UInt8) (used : Nat)
    (fields : List QpackInstructionField) (hstate : e.state = kStartField) (hfield : e.field = fields)
    (hwf : fieldsWellFormed used fields = true) (hbyte : e.byte.toNat &&& used = e.byte.toNat)
    (fuel : Nat) (hfuel : 4 * fields.length ≤ fuel) :
    ∃ e', encodeLoop huffman instruction fuel e output =
        some (e', output ++ encodeFields huffman e.inputs e.byte fields) ∧
      e'.byte = 0 ∧ e'.inputs = e.inputs := by
  induction fields generalizing e output used fuel with
  | nil => simp [fieldsWellFormed] at hwf
  | cons f fs ih =>
    simp only [fieldsWellFormed, Bool.and_eq_true, beq_iff_eq] at hwf
    obtain ⟨⟨-, hdisj⟩, hrest⟩ := hwf
    have hfree : e.byte.toNat &&& f.groupBits = 0 :=
      and_eq_zero_of_within hbyte (by rwa [Nat.land_comm])
    simp only [List.length_cons] at hfuel
    obtain ⟨fuel, rfl⟩ : ∃ k, fuel = k + 4 := ⟨fuel - 4, by omega⟩
    have next (e₁ : QpackInstructionEncoder) (output₁ : List UInt8) (h₁ : e₁.state = kStartField)
        (hf₁ : e₁.field = fs) (hb₁ : e₁.byte = 0) (hi₁ : e₁.inputs = e.inputs) (k : Nat)
        (hk : 4 * fs.length ≤ k) (hrest : fs = [] ∨ fieldsWellFormed 0 fs = true) :
        ∃ e', (if e₁.field = [] then some (e₁, output₁)
            else encodeLoop huffman instruction k e₁ output₁) =
          some (e', output₁ ++ encodeFields huffman e.inputs 0 fs) ∧ e'.byte = 0 ∧
          e'.inputs = e.inputs := by
      rcases hrest with rfl | hwf
      · exact ⟨e₁, by simp [hf₁, encodeFields], hb₁, hi₁⟩
      · have hne : fs ≠ [] := by rintro rfl; simp [fieldsWellFormed] at hwf
        rw [if_neg (by rwa [hf₁])]
        obtain ⟨e', h, h0, hi⟩ := ih e₁ output₁ 0 h₁ hf₁ hwf (by simp [hb₁]) k hk
        exact ⟨e', by rw [h, hb₁, hi₁], h0, hi.trans hi₁⟩
    have hclosed (hne : f.type ≠ .kSbit) : fs = [] ∨ fieldsWellFormed 0 fs = true := by
      simpa [hne] using hrest
    cases ht : f.type with
    | kSbit =>
      simp only [ht, if_true] at hrest
      have hne : fs ≠ [] := by rintro rfl; simp [fieldsWellFormed] at hrest
      simp only [QpackInstructionField.groupBits, ht] at hfree hrest
      rw [show fuel + 4 = fuel + 2 + 2 by omega, encodeLoop_sbit e output hstate hfield ht hfree hne]
      obtain ⟨e', h, h0, hi⟩ := ih { e with
          byte := if e.sBit then e.byte ||| f.param else e.byte
          field := fs
          state := kStartField } output (used ||| f.param.toNat) rfl rfl hrest
        (staticBit_within _ _ hbyte) (fuel + 2) (by omega)
      exact ⟨e', by rw [h]; simp [encodeFields, ht, inputs], h0, hi⟩
    | kVarint | kVarint2 =>
      rw [show fuel + 4 = fuel + 2 + 2 by omega, encodeLoop_integer e output hstate hfield
        (by first | exact Or.inl ⟨ht, rfl⟩ | exact Or.inr ⟨ht, rfl⟩)]
      obtain ⟨e', h, h0, hi⟩ := next { e with byte := 0, field := fs, state := kStartField } _ rfl rfl
        rfl rfl (fuel + 2) (by omega) (hclosed (by simp [ht]))
      exact ⟨e', by rw [h]; simp [encodeFields, ht, inputs], h0, hi⟩
    | kName | kValue =>
      simp only [QpackInstructionField.groupBits, ht, string_groupBits] at hfree
      obtain ⟨e₁, h, h₁, hf₁, hb₁, hi₁⟩ := encodeLoop_string e output hstate hfield
        (by first | exact Or.inl ⟨ht, rfl⟩ | exact Or.inr ⟨ht, rfl⟩) (and_eq_zero_of_and_or hfree).2 fuel
      obtain ⟨e', h', h0, hi⟩ := next e₁ _ h₁ hf₁ hb₁ hi₁ fuel (by omega) (hclosed (by simp [ht]))
      exact ⟨e', by rw [h, h']; simp [encodeFields, ht, inputs], h0, hi⟩

/-- `Encode` on a well-formed descriptor from a clear working byte writes the fields from the opcode
value, and leaves the working byte clear and the inputs as they were. -/
theorem encode_eq (instruction : QpackInstruction) (hwf : instruction.WellFormed)
    (e : QpackInstructionEncoder) (hbyte : e.byte = 0) (output : List UInt8) :
    ∃ e', encode huffman instruction e output =
        some (e', output ++ encodeFields huffman e.inputs instruction.opcode.value instruction.fields) ∧
      e'.byte = 0 ∧ e'.inputs = e.inputs := by
  obtain ⟨hvalue, hfields⟩ := hwf
  have hne : instruction.fields ≠ [] := by
    intro h
    simp [h, fieldsWellFormed] at hfields
  let opened : QpackInstructionEncoder :=
    { e with byte := instruction.opcode.value, state := kStartField, field := instruction.fields }
  have h1 : ({ e with state := kOpcode, field := instruction.fields } : QpackInstructionEncoder).step
      huffman instruction output = some (opened, output) := by
    simp [opened, step, doOpcode, hbyte]
  obtain ⟨e', h, h0, hi⟩ := @encodeLoop_fields huffman instruction opened output
    instruction.opcode.mask.toNat instruction.fields rfl rfl hfields hvalue _ le_rfl
  exact ⟨e', by rw [encode, if_neg hne, encodeLoop_succ h1, if_neg hne, h]; rfl, h0, hi⟩

/-- The encoder objects the constructor, the setters and `Encode` calls on well-formed descriptors
produce. -/
inductive Reachable (huffman : HuffmanCode) : QpackInstructionEncoder → Prop
  | init : Reachable huffman init
  | setSBit {e : QpackInstructionEncoder} (sBit : Bool) :
      Reachable huffman e → Reachable huffman (e.setSBit sBit)
  | setVarint {e : QpackInstructionEncoder} (varint : Nat) :
      Reachable huffman e → Reachable huffman (e.setVarint varint)
  | setVarint2 {e : QpackInstructionEncoder} (varint2 : Nat) :
      Reachable huffman e → Reachable huffman (e.setVarint2 varint2)
  | setName {e : QpackInstructionEncoder} (name : List UInt8) :
      Reachable huffman e → Reachable huffman (e.setName name)
  | setValue {e : QpackInstructionEncoder} (value : List UInt8) :
      Reachable huffman e → Reachable huffman (e.setValue value)
  | encode {e e' : QpackInstructionEncoder} (instruction : QpackInstruction)
      (output output' : List UInt8) : instruction.WellFormed → Reachable huffman e →
      QpackInstructionEncoder.encode huffman instruction e output = some (e', output') →
      Reachable huffman e'

/-- Every reachable encoder has a clear working byte, so `doOpcode`'s `DCHECK` holds. -/
theorem Reachable.byte_eq_zero {e : QpackInstructionEncoder} (h : Reachable huffman e) : e.byte = 0 := by
  induction h with
  | init => rfl
  | setSBit _ _ ih | setVarint _ _ ih | setVarint2 _ _ ih | setName _ _ ih | setValue _ _ ih => exact ih
  | encode instruction output _ hwf _ henc ih =>
    obtain ⟨e'', h, h0, -⟩ := encode_eq instruction hwf _ ih output
    rw [h, Option.some.injEq, Prod.mk.injEq] at henc
    exact henc.1 ▸ h0

end QpackInstructionEncoder

end QuicHttp3
