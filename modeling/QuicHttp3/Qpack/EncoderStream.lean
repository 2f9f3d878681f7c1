import QuicHttp3.Wire.QuicVarint
import QuicHttp3.Qpack.RoundTrip

/-!
# The QPACK encoder stream

`QpackEncoderStreamSender` (`qpack_encoder_stream_sender.cc`) sets the instruction encoder's
inputs for each of its four `Send*` methods, encodes one instruction into a fresh string and hands
it to its delegate. With a `QpackSendStream` (`qpack_send_stream.cc`) as the delegate, the first
`WriteStreamData` writes the stream type as a QUIC varint before the instruction.

`parseEncoderStream` is the encoder-stream grammar: a varint, then instructions up to the end, each
read with the descriptor whose opcode its first byte carries. `sendAll_parseEncoderStream` says
that after any non-empty sequence of calls the bytes written are the stream type followed by one
chunk per call, each chunk reads back as its call, and the grammar returns the stream type and the
calls. Without any call nothing is written at all (`sendAll_nil_writes_nothing`).

The four methods share one instruction encoder, whose inputs keep the values of earlier calls, yet
each call writes the encoding of its own arguments alone (`EncoderStreamInstruction.encoded`), and
`sendAll_written` gives what a sequence of calls writes in closed form.
-/

namespace QuicHttp3

/-- `QpackSendStream`: `stream_type_`, `stream_type_sent_`, and the bytes handed to
`WriteOrBufferData` so far, in order. -/
structure QpackSendStream where
  streamType : Nat
  streamTypeSent : Bool
  written : List UInt8

namespace QpackSendStream

/-- The constructor. -/
def init (streamType : Nat) : QpackSendStream := ⟨streamType, false, []⟩

/-- `QuicStream::WriteOrBufferData`, as what it sends: the bytes, after those sent before. -/
def writeOrBufferData (s : QpackSendStream) (data : List UInt8) : QpackSendStream :=
  { s with written := s.written ++ data }

/-- `WriteStreamData`: the stream type first, once. A type that does not fit a varint leaves the
writer empty, and nothing is written for it. -/
def writeStreamData (s : QpackSendStream) (data : List UInt8) : QpackSendStream :=
  let s := if s.streamTypeSent then s
    else { s.writeOrBufferData ((writeVarInt62 s.streamType).getD []) with streamTypeSent := true }
  s.writeOrBufferData data

theorem writeStreamData_of_streamTypeSent {s : QpackSendStream} (h : s.streamTypeSent = true)
    (data : List UInt8) : s.writeStreamData data = { s with written := s.written ++ data } := by
  simp [writeStreamData, writeOrBufferData, h]

@[simp] theorem writeStreamData_streamType (s : QpackSendStream) (data : List UInt8) :
    (s.writeStreamData data).streamType = s.streamType := by
  unfold writeStreamData writeOrBufferData; split <;> rfl

@[simp] theorem writeStreamData_streamTypeSent (s : QpackSendStream) (data : List UInt8) :
    (s.writeStreamData data).streamTypeSent = true := by
  unfold writeStreamData writeOrBufferData; split <;> simp_all

@[simp] theorem writeStreamData_written (s : QpackSendStream) (data : List UInt8) :
    (s.writeStreamData data).written =
      s.written ++ (if s.streamTypeSent then [] else (writeVarInt62 s.streamType).getD []) ++ data := by
  unfold writeStreamData writeOrBufferData; split <;> simp_all

theorem written_foldl_of_streamTypeSent (datas : List (List UInt8)) {s : QpackSendStream}
    (h : s.streamTypeSent = true) : (datas.foldl writeStreamData s).written = s.written ++ datas.flatten := by
  induction datas generalizing s with
  | nil => simp
  | cons data datas ih =>
    rw [List.foldl_cons, ih (writeStreamData_streamTypeSent s data)]
    simp [h]

/-- However the data is split into `WriteStreamData` calls, a fresh stream carries the varint of
its type once, before all the data, from the first call on. -/
theorem written_foldl_writeStreamData (streamType : Nat) (datas : List (List UInt8)) :
    (datas.foldl writeStreamData (init streamType)).written =
      if datas = [] then [] else (writeVarInt62 streamType).getD [] ++ datas.flatten := by
  cases datas with
  | nil => rfl
  | cons data datas =>
    rw [List.foldl_cons,
      written_foldl_of_streamTypeSent datas (writeStreamData_streamTypeSent _ data)]
    simp [init]

end QpackSendStream

/-- `QpackEncoderStreamSender` with a `QpackSendStream` as its delegate. -/
structure QpackEncoderStreamSender where
  delegate : QpackSendStream
  instructionEncoder : QpackInstructionEncoder

/-- A call on the sender: the method and its arguments. -/
inductive EncoderStreamInstruction
  | insertWithNameReference (isStatic : Bool) (nameIndex : Nat) (value : List UInt8)
  | insertWithoutNameReference (name value : List UInt8)
  | duplicate (index : Nat)
  | setDynamicTableCapacity (capacity : Nat)
  deriving DecidableEq, Repr

namespace QpackEncoderStreamSender

open QpackInstructionEncoder

/-- The constructor, on a fresh encoder. -/
def init (delegate : QpackSendStream) : QpackEncoderStreamSender :=
  ⟨delegate, QpackInstructionEncoder.init⟩

/-- What every `Send*` method does once its setters have run: `Encode` into an empty string and
hand the string to the delegate. -/
def encodeAndWrite (huffman : HuffmanCode) (instruction : QpackInstruction)
    (sender : QpackEncoderStreamSender) (e : QpackInstructionEncoder) :
    Option QpackEncoderStreamSender :=
  (encode huffman instruction e []).map fun r => ⟨sender.delegate.writeStreamData r.2, r.1⟩

def sendInsertWithNameReference (huffman : HuffmanCode) (sender : QpackEncoderStreamSender)
    (isStatic : Bool) (nameIndex : Nat) (value : List UInt8) : Option QpackEncoderStreamSender :=
  encodeAndWrite huffman insertWithNameReferenceInstruction sender
    (((sender.instructionEncoder.setSBit isStatic).setVarint nameIndex).setValue value)

def sendInsertWithoutNameReference (huffman : HuffmanCode) (sender : QpackEncoderStreamSender)
    (name value : List UInt8) : Option QpackEncoderStreamSender :=
  encodeAndWrite huffman insertWithoutNameReferenceInstruction sender
    ((sender.instructionEncoder.setName name).setValue value)

def sendDuplicate (huffman : HuffmanCode) (sender : QpackEncoderStreamSender) (index : Nat) :
    Option QpackEncoderStreamSender :=
  encodeAndWrite huffman duplicateInstruction sender (sender.instructionEncoder.setVarint index)

def sendSetDynamicTableCapacity (huffman : HuffmanCode) (sender : QpackEncoderStreamSender)
    (capacity : Nat) : Option QpackEncoderStreamSender :=
  encodeAndWrite huffman setDynamicTableCapacityInstruction sender
    (sender.instructionEncoder.setVarint capacity)

/-- One call. -/
def send (huffman : HuffmanCode) (sender : QpackEncoderStreamSender) :
    EncoderStreamInstruction → Option QpackEncoderStreamSender
  | .insertWithNameReference isStatic nameIndex value =>
    sendInsertWithNameReference huffman sender isStatic nameIndex value
  | .insertWithoutNameReference name value => sendInsertWithoutNameReference huffman sender name value
  | .duplicate index => sendDuplicate huffman sender index
  | .setDynamicTableCapacity capacity => sendSetDynamicTableCapacity huffman sender capacity

/-- A sequence of calls, in order. -/
def sendAll (huffman : HuffmanCode) :
    QpackEncoderStreamSender → List EncoderStreamInstruction → Option QpackEncoderStreamSender
  | sender, [] => some sender
  | sender, call :: calls => (send huffman sender call).bind fun sender => sendAll huffman sender calls

end QpackEncoderStreamSender

/-! ## The encoder-stream grammar -/

/-- One instruction, read with the descriptor whose opcode the first byte carries. -/
def parseEncoderStreamInstruction (huffman : HuffmanCode) (bytes : List UInt8) :
    Option (EncoderStreamInstruction × List UInt8) :=
  (match parseInstruction huffman insertWithNameReferenceInstruction bytes with
    | some ([.sbit isStatic, .integer nameIndex, .string value], rest) =>
      some (.insertWithNameReference isStatic nameIndex value, rest)
    | _ => none) <|>
  (match parseInstruction huffman insertWithoutNameReferenceInstruction bytes with
    | some ([.string name, .string value], rest) => some (.insertWithoutNameReference name value, rest)
    | _ => none) <|>
  (match parseInstruction huffman duplicateInstruction bytes with
    | some ([.integer index], rest) => some (.duplicate index, rest)
    | _ => none) <|>
  (match parseInstruction huffman setDynamicTableCapacityInstruction bytes with
    | some ([.integer capacity], rest) => some (.setDynamicTableCapacity capacity, rest)
    | _ => none)

/-- Instructions up to the end of the bytes; `fuel` bounds their number. -/
def parseInstructions (huffman : HuffmanCode) :
    Nat → List UInt8 → Option (List EncoderStreamInstruction)
  | _, [] => some []
  | 0, _ :: _ => none
  | fuel + 1, bytes => do
    let (instruction, rest) ← parseEncoderStreamInstruction huffman bytes
    let instructions ← parseInstructions huffman fuel rest
    pure (instruction :: instructions)

/-- The stream type, then instructions up to the end. -/
def parseEncoderStream (huffman : HuffmanCode) (bytes : List UInt8) :
    Option (Nat × List EncoderStreamInstruction) := do
  let (streamType, rest) ← readVarInt62 bytes
  let instructions ← parseInstructions huffman rest.length rest
  pure (streamType, instructions)

/-! ## Reading back what the sender writes -/

/-- A byte that carries an opcode under a mask shows, under a narrower mask, the part of that
opcode the narrower mask covers. -/
theorem opcode_narrow {b m₁ v₁ m₂ v₂ : Nat} (h₁ : b &&& m₁ = v₁) (h₂ : b &&& m₂ = v₂)
    (hm : m₂ &&& m₁ = m₂) : v₁ &&& m₂ = v₂ := by
  rw [← h₁, ← h₂, Nat.land_assoc, Nat.land_comm m₁, hm]

/-- Two descriptors with nested masks whose opcodes disagree on the narrower mask: a byte that
carries the one does not carry the other. -/
theorem parseInstruction_of_opcode {b : UInt8} {i : QpackInstruction} (j : QpackInstruction)
    (hi : b.toNat &&& i.opcode.mask.toNat = i.opcode.value.toNat)
    (hij : j.opcode.mask.toNat &&& i.opcode.mask.toNat = j.opcode.mask.toNat ∧
        i.opcode.value.toNat &&& j.opcode.mask.toNat ≠ j.opcode.value.toNat ∨
      i.opcode.mask.toNat &&& j.opcode.mask.toNat = i.opcode.mask.toNat ∧
        j.opcode.value.toNat &&& i.opcode.mask.toNat ≠ i.opcode.value.toNat)
    (huffman : HuffmanCode) (bytes : List UInt8) : parseInstruction huffman j (b :: bytes) = none := by
  rw [parseInstruction, if_neg]
  intro hj
  rcases hij with ⟨hm, hv⟩ | ⟨hm, hv⟩
  · exact hv (opcode_narrow hi hj hm)
  · exact hv (opcode_narrow hj hi hm)

namespace QpackEncoderStreamSender

open QpackInstructionEncoder

variable (huffman : HuffmanCode)

/-- The shared tail of the `Send*` methods, from a reachable encoder: a non-empty chunk for the
delegate that starts with the opcode and reads back as the fields. -/
theorem encodeAndWrite_reads_back (instruction : QpackInstruction) (hwf : instruction.WellFormed)
    (hsbit : instruction.SbitMasksNonzero) (sender : QpackEncoderStreamSender)
    (e : QpackInstructionEncoder) (he : Reachable huffman e) :
    ∃ e' b bytes, encodeAndWrite huffman instruction sender e =
        some ⟨sender.delegate.writeStreamData (b :: bytes), e'⟩ ∧ Reachable huffman e' ∧
      b.toNat &&& instruction.opcode.mask.toNat = instruction.opcode.value.toNat ∧
      ∀ rest, parseInstruction huffman instruction (b :: (bytes ++ rest)) =
        some (instruction.fields.map e.inputs.fieldValue, rest) := by
  obtain ⟨e', b, bytes, henc, hop, hparse⟩ :=
    encode_reads_back huffman instruction hwf hsbit e he []
  exact ⟨e', b, bytes, by simp [encodeAndWrite, henc], .encode instruction [] _ hwf he henc, hop,
    fun rest => by simpa using hparse rest⟩

/-- Each call hands the delegate one non-empty chunk that the grammar reads back as the call. -/
theorem send_reads_back (sender : QpackEncoderStreamSender)
    (he : Reachable huffman sender.instructionEncoder) (call : EncoderStreamInstruction) :
    ∃ e' chunk, send huffman sender call = some ⟨sender.delegate.writeStreamData chunk, e'⟩ ∧
      Reachable huffman e' ∧ chunk ≠ [] ∧
      ∀ rest, parseEncoderStreamInstruction huffman (chunk ++ rest) = some (call, rest) := by
  cases call with
  | insertWithNameReference isStatic nameIndex value =>
    obtain ⟨e', b, bytes, h, he', hop, hparse⟩ := encodeAndWrite_reads_back huffman
      insertWithNameReferenceInstruction (by decide) (by decide) sender _
      (.setValue value (.setVarint nameIndex (.setSBit isStatic he)))
    refine ⟨e', b :: bytes, h, he', List.cons_ne_nil _ _, fun rest => ?_⟩
    rw [List.cons_append, parseEncoderStreamInstruction, hparse rest]
    rfl
  | insertWithoutNameReference name value =>
    obtain ⟨e', b, bytes, h, he', hop, hparse⟩ := encodeAndWrite_reads_back huffman
      insertWithoutNameReferenceInstruction (by decide) (by decide) sender _
      (.setValue value (.setName name he))
    refine ⟨e', b :: bytes, h, he', List.cons_ne_nil _ _, fun rest => ?_⟩
    have h1 := parseInstruction_of_opcode insertWithNameReferenceInstruction hop (by decide) huffman
      (bytes ++ rest)
    rw [List.cons_append, parseEncoderStreamInstruction, h1, hparse rest]
    rfl
  | duplicate index =>
    obtain ⟨e', b, bytes, h, he', hop, hparse⟩ := encodeAndWrite_reads_back huffman
      duplicateInstruction (by decide) (by decide) sender _ (.setVarint index he)
    refine ⟨e', b :: bytes, h, he', List.cons_ne_nil _ _, fun rest => ?_⟩
    have h1 := parseInstruction_of_opcode insertWithNameReferenceInstruction hop (by decide) huffman
      (bytes ++ rest)
    have h2 := parseInstruction_of_opcode insertWithoutNameReferenceInstruction hop (by decide) huffman
      (bytes ++ rest)
    rw [List.cons_append, parseEncoderStreamInstruction, h1, h2, hparse rest]
    rfl
  | setDynamicTableCapacity capacity =>
    obtain ⟨e', b, bytes, h, he', hop, hparse⟩ := encodeAndWrite_reads_back huffman
      setDynamicTableCapacityInstruction (by decide) (by decide) sender _ (.setVarint capacity he)
    refine ⟨e', b :: bytes, h, he', List.cons_ne_nil _ _, fun rest => ?_⟩
    have h1 := parseInstruction_of_opcode insertWithNameReferenceInstruction hop (by decide) huffman
      (bytes ++ rest)
    have h2 := parseInstruction_of_opcode insertWithoutNameReferenceInstruction hop (by decide) huffman
      (bytes ++ rest)
    have h3 := parseInstruction_of_opcode duplicateInstruction hop (by decide) huffman (bytes ++ rest)
    rw [List.cons_append, parseEncoderStreamInstruction, h1, h2, h3, hparse rest]
    rfl

/-- Once the stream type has been sent, a sequence of calls appends one chunk per call, each read
back by the grammar as its call. -/
theorem sendAll_reads_back (sender : QpackEncoderStreamSender)
    (he : Reachable huffman sender.instructionEncoder) (hsent : sender.delegate.streamTypeSent = true)
    (calls : List EncoderStreamInstruction) :
    ∃ sender' chunks, sendAll huffman sender calls = some sender' ∧
      sender'.delegate = { sender.delegate with written := sender.delegate.written ++ chunks.flatten } ∧
      List.Forall₂ (fun call chunk => chunk ≠ [] ∧
        ∀ rest, parseEncoderStreamInstruction huffman (chunk ++ rest) = some (call, rest)) calls chunks := by
  induction calls generalizing sender with
  | nil => exact ⟨sender, [], rfl, by simp, .nil⟩
  | cons call calls ih =>
    obtain ⟨e', chunk, h, he', hne, hparse⟩ := send_reads_back huffman sender he call
    obtain ⟨sender', chunks, h', hdelegate, hall⟩ :=
      ih ⟨sender.delegate.writeStreamData chunk, e'⟩ he' (by simp)
    refine ⟨sender', chunk :: chunks, by simp [sendAll, h, h'], ?_, .cons ⟨hne, hparse⟩ hall⟩
    rw [hdelegate, QpackSendStream.writeStreamData_of_streamTypeSent hsent]
    simp

end QpackEncoderStreamSender

/-- The grammar reads a concatenation of chunks back as their calls, with fuel for one byte a
chunk. -/
theorem parseInstructions_join {huffman : HuffmanCode} {calls : List EncoderStreamInstruction}
    {chunks : List (List UInt8)}
    (h : List.Forall₂ (fun call chunk => chunk ≠ [] ∧
      ∀ rest, parseEncoderStreamInstruction huffman (chunk ++ rest) = some (call, rest)) calls chunks)
    (fuel : Nat) (hfuel : chunks.flatten.length ≤ fuel) :
    parseInstructions huffman fuel chunks.flatten = some calls := by
  induction h generalizing fuel with
  | nil => cases fuel <;> rfl
  | @cons call chunk calls chunks hchunk _ ih =>
    obtain ⟨hne, hparse⟩ := hchunk
    obtain ⟨b, bs, rfl⟩ := List.exists_cons_of_ne_nil hne
    simp only [List.flatten_cons, List.length_append, List.length_cons] at hfuel
    obtain ⟨fuel, rfl⟩ : ∃ k, fuel = k + 1 := ⟨fuel - 1, by omega⟩
    have hp := hparse chunks.flatten
    simp only [List.flatten_cons, List.cons_append] at hp ⊢
    simp [parseInstructions, hp, ih fuel (by omega)]

open QpackEncoderStreamSender in
/-- After a non-empty sequence of calls on a fresh sender, the encoder-stream grammar reads the
bytes written back as the stream type and the calls, one chunk per call. -/
theorem sendAll_parseEncoderStream (huffman : HuffmanCode) {streamType : Nat}
    (h : streamType < 2 ^ 62) (calls : List EncoderStreamInstruction) (hne : calls ≠ []) :
    ∃ sender bytes chunks, sendAll huffman (init (.init streamType)) calls = some sender ∧
      writeVarInt62 streamType = some bytes ∧ sender.delegate.written = bytes ++ chunks.flatten ∧
      List.Forall₂ (fun call chunk => chunk ≠ [] ∧
        ∀ rest, parseEncoderStreamInstruction huffman (chunk ++ rest) = some (call, rest)) calls chunks ∧
      parseEncoderStream huffman sender.delegate.written = some (streamType, calls) := by
  obtain ⟨call, calls, rfl⟩ := List.exists_cons_of_ne_nil hne
  obtain ⟨e', chunk, h1, he', hchunk, hparse⟩ :=
    send_reads_back huffman (init (.init streamType)) .init call
  obtain ⟨sender, chunks, h2, hdelegate, hall⟩ :=
    sendAll_reads_back huffman ⟨(QpackSendStream.init streamType).writeStreamData chunk, e'⟩ he'
      (by simp) calls
  obtain ⟨bytes, hbytes, hread⟩ := readVarInt62_writeVarInt62 h (chunk :: chunks).flatten
  have hwritten : sender.delegate.written = bytes ++ (chunk :: chunks).flatten := by
    simp [hdelegate, QpackSendStream.init, hbytes]
  have hall' := List.Forall₂.cons ⟨hchunk, hparse⟩ hall
  refine ⟨sender, bytes, chunk :: chunks, by rw [sendAll, h1]; exact h2, hbytes, hwritten, hall', ?_⟩
  simp only [parseEncoderStream, hwritten, hread, Option.bind_eq_bind, Option.some_bind]
  rw [parseInstructions_join hall' _ le_rfl]
  rfl

theorem sendAll_parseEncoderStream_duplicate :
    ∃ sender bytes chunks, QpackEncoderStreamSender.sendAll HuffmanCode.identity
        (.init (.init 2)) [.duplicate 5] = some sender ∧
      writeVarInt62 2 = some bytes ∧ sender.delegate.written = bytes ++ chunks.flatten ∧
      List.Forall₂ (fun call chunk => chunk ≠ [] ∧ ∀ rest,
        parseEncoderStreamInstruction HuffmanCode.identity (chunk ++ rest) = some (call, rest))
        [.duplicate 5] chunks ∧
      parseEncoderStream HuffmanCode.identity sender.delegate.written = some (2, [.duplicate 5]) :=
  sendAll_parseEncoderStream HuffmanCode.identity (by decide) [.duplicate 5] (List.cons_ne_nil _ _)

/-- Without any call nothing is written, not even the stream type. -/
theorem sendAll_nil_writes_nothing :
    (QpackEncoderStreamSender.sendAll HuffmanCode.identity (.init (.init 2)) []).map
        (·.delegate.written) = some [] ∧ writeVarInt62 2 = some [2] :=
  ⟨rfl, rfl⟩

/-! ## What each call writes -/

namespace EncoderStreamInstruction

/-- The descriptor a call encodes. -/
def instruction : EncoderStreamInstruction → QpackInstruction
  | .insertWithNameReference .. => insertWithNameReferenceInstruction
  | .insertWithoutNameReference .. => insertWithoutNameReferenceInstruction
  | .duplicate _ => duplicateInstruction
  | .setDynamicTableCapacity _ => setDynamicTableCapacityInstruction

/-- The values a call gives its descriptor's fields; the fields it has none for keep the
constructor's values. -/
def inputs : EncoderStreamInstruction → QpackInstructionEncoder.Inputs
  | .insertWithNameReference isStatic nameIndex value => ⟨isStatic, nameIndex, 0, [], value⟩
  | .insertWithoutNameReference name value => ⟨false, 0, 0, name, value⟩
  | .duplicate index => ⟨false, index, 0, [], []⟩
  | .setDynamicTableCapacity capacity => ⟨false, capacity, 0, [], []⟩

/-- The bytes of a call on its own: its descriptor's fields written from the opcode with the call's
arguments. -/
def encoded (huffman : HuffmanCode) (call : EncoderStreamInstruction) : List UInt8 :=
  QpackInstructionEncoder.encodeFields huffman call.inputs call.instruction.opcode.value
    call.instruction.fields

end EncoderStreamInstruction

namespace QpackEncoderStreamSender

open QpackInstructionEncoder

variable (huffman : HuffmanCode)

/-- The shared tail of the `Send*` methods writes the descriptor's fields with any values that agree
with the encoder's on those fields. -/
theorem encodeAndWrite_eq (instruction : QpackInstruction) (hwf : instruction.WellFormed)
    (sender : QpackEncoderStreamSender) {e : QpackInstructionEncoder} (he : Reachable huffman e)
    {inputs : Inputs} (hinputs : ∀ field ∈ instruction.fields,
      e.inputs.fieldValue field = inputs.fieldValue field) :
    ∃ e', encodeAndWrite huffman instruction sender e = some ⟨sender.delegate.writeStreamData
        (encodeFields huffman inputs instruction.opcode.value instruction.fields), e'⟩ ∧
      Reachable huffman e' := by
  obtain ⟨e', h, -, -⟩ := @encode_eq huffman instruction hwf e he.byte_eq_zero []
  refine ⟨e', ?_, .encode instruction [] _ hwf he h⟩
  rw [encodeAndWrite, h, encodeFields_congr huffman _ _ hinputs]
  rfl

/-- From any reachable encoder, a call writes its own encoding, whatever earlier calls left in the
shared encoder. -/
theorem send_encoded (sender : QpackEncoderStreamSender)
    (he : Reachable huffman sender.instructionEncoder) (call : EncoderStreamInstruction) :
    ∃ e', send huffman sender call =
        some ⟨sender.delegate.writeStreamData (call.encoded huffman), e'⟩ ∧ Reachable huffman e' := by
  cases call with
  | insertWithNameReference isStatic nameIndex value =>
    exact encodeAndWrite_eq huffman _ (by decide) sender
      (.setValue value (.setVarint nameIndex (.setSBit isStatic he)))
      (by simp [insertWithNameReferenceInstruction, Inputs.fieldValue, inputs, setSBit, setVarint,
        setValue, EncoderStreamInstruction.inputs])
  | insertWithoutNameReference name value =>
    exact encodeAndWrite_eq huffman _ (by decide) sender (.setValue value (.setName name he))
      (by simp [insertWithoutNameReferenceInstruction, Inputs.fieldValue, inputs, setName, setValue,
        EncoderStreamInstruction.inputs])
  | duplicate index =>
    exact encodeAndWrite_eq huffman _ (by decide) sender (.setVarint index he)
      (by simp [duplicateInstruction, Inputs.fieldValue, inputs, setVarint,
        EncoderStreamInstruction.inputs])
  | setDynamicTableCapacity capacity =>
    exact encodeAndWrite_eq huffman _ (by decide) sender (.setVarint capacity he)
      (by simp [setDynamicTableCapacityInstruction, Inputs.fieldValue, inputs, setVarint,
        EncoderStreamInstruction.inputs])

theorem sendAll_delegate (sender : QpackEncoderStreamSender)
    (he : Reachable huffman sender.instructionEncoder) (calls : List EncoderStreamInstruction) :
    ∃ sender', sendAll huffman sender calls = some sender' ∧
      sender'.delegate = (calls.map (EncoderStreamInstruction.encoded huffman)).foldl
        QpackSendStream.writeStreamData sender.delegate := by
  induction calls generalizing sender with
  | nil => exact ⟨sender, rfl, rfl⟩
  | cons call calls ih =>
    obtain ⟨e', h, he'⟩ := send_encoded huffman sender he call
    obtain ⟨sender', h', hdelegate⟩ :=
      ih ⟨sender.delegate.writeStreamData (call.encoded huffman), e'⟩ he'
    exact ⟨sender', by rw [sendAll, h, Option.some_bind]; exact h', hdelegate⟩

/-- A fresh sender writes the stream type's varint with its first call, then each call's own
encoding in order: what earlier calls leave in the shared encoder never reaches the stream. -/
theorem sendAll_written (streamType : Nat) (calls : List EncoderStreamInstruction) :
    ∃ sender, sendAll huffman (init (.init streamType)) calls = some sender ∧
      sender.delegate.written =
        (if calls = [] then [] else (writeVarInt62 streamType).getD []) ++
          (calls.map (EncoderStreamInstruction.encoded huffman)).flatten := by
  obtain ⟨sender, h, hdelegate⟩ := sendAll_delegate huffman (init (.init streamType)) .init calls
  refine ⟨sender, h, ?_⟩
  rw [hdelegate]
  cases calls with
  | nil => rfl
  | cons call calls =>
    rw [List.map_cons, List.foldl_cons, QpackSendStream.written_foldl_of_streamTypeSent _
      (QpackSendStream.writeStreamData_streamTypeSent _ _)]
    simp [init, QpackSendStream.init]

end QpackEncoderStreamSender

end QuicHttp3
