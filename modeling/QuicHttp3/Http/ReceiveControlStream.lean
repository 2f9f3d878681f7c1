import QuicHttp3.Http.Decoder

/-!
# The receive control stream

`QuicReceiveControlStream` (`quic_receive_control_stream.cc`) and its `HttpDecoderVisitor`. The
state holds the stream's own fields, what it reads of its sequencer (`NumBytesConsumed()`) and of
its stream (`reading_stopped()`), and the calls it has made on its session, from which
`connected()` follows. `sequencer_offset_` is kept apart, as the second component of the loop's
state: no callback reads or writes it.

Each visitor method is a function of the state that returns the new state and the method's
answer; `HttpDecoderVisitor.visit` is the decoder's dispatch of an event to its method. `drive`
runs one `ProcessInput` call against the visitor, `onDataAvailableLoop` is the loop of
`OnDataAvailable` on fuel, and `onDataAvailableRun` a sequence of `OnDataAvailable` calls, each
with the sequencer as it then is. `visit_false` is the fact the loop's termination rests on: a
callback that returns false has closed the connection.
-/

namespace QuicHttp3

/-- The state of a `QuicReceiveControlStream` the callbacks read and write. -/
structure QuicReceiveControlStream where
  readingStopped : Bool
  currentPriorityLength : Nat
  receivedSettingsLength : Nat
  numBytesConsumed : Nat
  effects : List SessionEffect

namespace QuicReceiveControlStream

/-- The constructor, on a pending stream that has consumed `consumed` bytes (its stream type);
`sequencer_offset_` starts there too. -/
def init (consumed : Nat) : QuicReceiveControlStream := ⟨false, 0, 0, consumed, []⟩

/-- `session()->connection()->connected()`. -/
def connected (s : QuicReceiveControlStream) : Bool := connectedAfter s.effects

/-- A call on the session. -/
def call (s : QuicReceiveControlStream) (effect : SessionEffect) : QuicReceiveControlStream :=
  { s with effects := s.effects ++ [effect] }

/-- `session()->connection()->CloseConnection(error, details, SEND_CONNECTION_CLOSE_PACKET)`. -/
def closeConnection (s : QuicReceiveControlStream) (error : QuicErrorCode) (details : String) :
    QuicReceiveControlStream :=
  s.call (.closeConnection error details)

/-- Modelled from the spec: `sequencer()->MarkConsumed(n)` (the stream sequencer is not among the
sources); `n` more bytes are consumed. -/
def markConsumed (s : QuicReceiveControlStream) (n : Nat) : QuicReceiveControlStream :=
  { s with numBytesConsumed := s.numBytesConsumed + n }

def onStreamReset (s : QuicReceiveControlStream) : QuicReceiveControlStream :=
  s.closeConnection .quicInvalidStreamId "Attempt to reset receive control stream"

def onSettingsFrameStart (s : QuicReceiveControlStream) (frameLengths : Http3FrameLengths) :
    QuicReceiveControlStream × Bool :=
  if s.receivedSettingsLength ≠ 0 then
    (s.closeConnection .quicInvalidStreamId "Settings frames are received twice.", false)
  else
    ({ s with
      receivedSettingsLength :=
        s.receivedSettingsLength + (frameLengths.headerLength + frameLengths.payloadLength) }, true)

/-- One entry of `settings.values`: `kSettingsMaxHeaderListSize` sets the session's limit;
`kSettingsNumPlaceholders` and every other identifier do nothing. -/
def onSettingsEntry (s : QuicReceiveControlStream) (entry : Nat × Nat) : QuicReceiveControlStream :=
  if entry.1 = kSettingsMaxHeaderListSize then s.call (.setMaxOutboundHeaderListSize entry.2) else s

def onSettingsFrame (s : QuicReceiveControlStream) (settings : SettingsFrame) :
    QuicReceiveControlStream × Bool :=
  let s := settings.values.foldl onSettingsEntry s
  (s.markConsumed s.receivedSettingsLength, true)

def onPriorityFrameStart (s : QuicReceiveControlStream) (frameLengths : Http3FrameLengths) :
    QuicReceiveControlStream × Bool :=
  ({ s with currentPriorityLength := frameLengths.headerLength + frameLengths.payloadLength }, true)

def onPriorityFrame (session : Session) (s : QuicReceiveControlStream) (priority : PriorityFrame) :
    QuicReceiveControlStream × Bool :=
  let id := priority.prioritizedElementId
  let stream := session.getOrCreateStream s.effects id
  let s := s.call (.getOrCreateStream id stream)
  let s := if stream = .found then s.call (.setPriority id priority.weight) else s
  ({ s.markConsumed s.currentPriorityLength with currentPriorityLength := 0 }, true)

@[simp] theorem call_effects (s : QuicReceiveControlStream) (e : SessionEffect) :
    (s.call e).effects = s.effects ++ [e] := rfl

@[simp] theorem connected_call (s : QuicReceiveControlStream) (e : SessionEffect) :
    (s.call e).connected = (s.connected && !e.closes) := by
  simp [connected, call]

@[simp] theorem connected_closeConnection (s : QuicReceiveControlStream) (error : QuicErrorCode)
    (details : String) : (s.closeConnection error details).connected = false := by
  simp [closeConnection, SessionEffect.closes]

@[simp] theorem connected_markConsumed (s : QuicReceiveControlStream) (n : Nat) :
    (s.markConsumed n).connected = s.connected := rfl

@[simp] theorem effects_markConsumed (s : QuicReceiveControlStream) (n : Nat) :
    (s.markConsumed n).effects = s.effects := rfl

theorem foldl_onSettingsEntry (values : List (Nat × Nat)) (s : QuicReceiveControlStream) :
    values.foldl onSettingsEntry s = { s with effects := s.effects ++ values.filterMap fun entry =>
      if entry.1 = kSettingsMaxHeaderListSize then some (.setMaxOutboundHeaderListSize entry.2)
      else none } := by
  induction values generalizing s with
  | nil => simp
  | cons entry values ih =>
    rw [List.foldl_cons, ih]
    by_cases h : entry.1 = kSettingsMaxHeaderListSize <;> simp [onSettingsEntry, call, h]

theorem onSettingsFrame_eq (s : QuicReceiveControlStream) (settings : SettingsFrame) :
    s.onSettingsFrame settings =
      ({ s with
        numBytesConsumed := s.numBytesConsumed + s.receivedSettingsLength
        effects := s.effects ++ settings.values.filterMap fun entry =>
          if entry.1 = kSettingsMaxHeaderListSize then some (.setMaxOutboundHeaderListSize entry.2)
          else none }, true) := by
  simp [onSettingsFrame, foldl_onSettingsEntry, markConsumed]

theorem onPriorityFrame_eq (session : Session) (s : QuicReceiveControlStream)
    (priority : PriorityFrame) :
    s.onPriorityFrame session priority =
      let id := priority.prioritizedElementId
      let stream := session.getOrCreateStream s.effects id
      ({ s with
        currentPriorityLength := 0
        numBytesConsumed := s.numBytesConsumed + s.currentPriorityLength
        effects := s.effects ++ .getOrCreateStream id stream ::
          if stream = .found then [.setPriority id priority.weight] else [] }, true) := by
  simp only [onPriorityFrame, markConsumed, call]
  split_ifs <;> simp

/-- The calls SETTINGS make do not close the connection. -/
theorem connectedAfter_settings (values : List (Nat × Nat)) :
    connectedAfter (values.filterMap fun entry =>
      if entry.1 = kSettingsMaxHeaderListSize then some (.setMaxOutboundHeaderListSize entry.2)
      else none) = true := by
  induction values with
  | nil => rfl
  | cons entry values ih =>
    rw [List.filterMap_cons]
    split_ifs
    · simpa [connectedAfter, SessionEffect.closes] using ih
    · exact ih

theorem connected_onSettingsFrame (s : QuicReceiveControlStream) (settings : SettingsFrame) :
    (s.onSettingsFrame settings).1.connected = s.connected := by
  simp [onSettingsFrame_eq, connected, connectedAfter_settings]

/-- PRIORITY closes the connection exactly when the session refuses the stream. -/
theorem connected_onPriorityFrame (session : Session) (s : QuicReceiveControlStream)
    (priority : PriorityFrame) :
    (s.onPriorityFrame session priority).1.connected =
      (s.connected &&
        decide (session.getOrCreateStream s.effects priority.prioritizedElementId ≠ .refused)) := by
  rw [onPriorityFrame_eq]
  cases hr : session.getOrCreateStream s.effects priority.prioritizedElementId <;>
    simp [connected, connectedAfter, hr, SessionEffect.closes]

end QuicReceiveControlStream

/-! ## The visitor -/

namespace HttpDecoderVisitor

open QuicReceiveControlStream

variable (session : Session) (s : QuicReceiveControlStream)

def onError : QuicReceiveControlStream :=
  s.closeConnection .quicHttpDecoderError "Http decoder internal error"

def closeConnectionOnWrongFrame (frameType : String) : QuicReceiveControlStream :=
  s.closeConnection .quicHttpDecoderError (frameType ++ " frame received on control stream")

/-- The methods for a frame that has no place on the control stream: close, and return false. -/
def wrongFrame (frameType : String) : QuicReceiveControlStream × Bool :=
  (closeConnectionOnWrongFrame s frameType, false)

def onPriorityFrameStart (frameLengths : Http3FrameLengths) : QuicReceiveControlStream × Bool :=
  if session.perspective = .isClient then
    (s.closeConnection .quicHttpDecoderError "Server must not send Priority frames.", false)
  else s.onPriorityFrameStart frameLengths

def onPriorityFrame (frame : PriorityFrame) : QuicReceiveControlStream × Bool :=
  if session.perspective = .isClient then
    (s.closeConnection .quicHttpDecoderError "Server must not send Priority frames.", false)
  else s.onPriorityFrame session frame

def onCancelPushFrame : QuicReceiveControlStream × Bool := wrongFrame s "Cancel Push"

def onMaxPushIdFrame : QuicReceiveControlStream × Bool := wrongFrame s "Max Push Id"

def onGoAwayFrame : QuicReceiveControlStream × Bool := wrongFrame s "Goaway"

def onSettingsFrameStart (frameLengths : Http3FrameLengths) : QuicReceiveControlStream × Bool :=
  s.onSettingsFrameStart frameLengths

def onSettingsFrame (frame : SettingsFrame) : QuicReceiveControlStream × Bool :=
  s.onSettingsFrame frame

def onDuplicatePushFrame : QuicReceiveControlStream × Bool := wrongFrame s "Duplicate Push"

def onDataFrameStart : QuicReceiveControlStream × Bool := wrongFrame s "Data"

def onDataFramePayload : QuicReceiveControlStream × Bool := wrongFrame s "Data"

def onDataFrameEnd : QuicReceiveControlStream × Bool := wrongFrame s "Data"

def onHeadersFrameStart : QuicReceiveControlStream × Bool := wrongFrame s "Headers"

def onHeadersFramePayload : QuicReceiveControlStream × Bool := wrongFrame s "Headers"

def onHeadersFrameEnd : QuicReceiveControlStream × Bool := wrongFrame s "Headers"

def onPushPromiseFrameStart : QuicReceiveControlStream × Bool := wrongFrame s "Push Promise"

def onPushPromiseFramePayload : QuicReceiveControlStream × Bool := wrongFrame s "Push Promise"

def onPushPromiseFrameEnd : QuicReceiveControlStream × Bool := wrongFrame s "Push Promise"

/-- The method the decoder calls for an event. -/
def visit : HttpEvent → QuicReceiveControlStream × Bool
  | .priorityFrameStart frameLengths => onPriorityFrameStart session s frameLengths
  | .priorityFrame frame => onPriorityFrame session s frame
  | .cancelPushFrame => onCancelPushFrame s
  | .maxPushIdFrame => onMaxPushIdFrame s
  | .goAwayFrame => onGoAwayFrame s
  | .settingsFrameStart frameLengths => onSettingsFrameStart s frameLengths
  | .settingsFrame frame => onSettingsFrame s frame
  | .duplicatePushFrame => onDuplicatePushFrame s
  | .dataFrameStart => onDataFrameStart s
  | .dataFramePayload => onDataFramePayload s
  | .dataFrameEnd => onDataFrameEnd s
  | .headersFrameStart => onHeadersFrameStart s
  | .headersFramePayload => onHeadersFramePayload s
  | .headersFrameEnd => onHeadersFrameEnd s
  | .pushPromiseFrameStart => onPushPromiseFrameStart s
  | .pushPromiseFramePayload => onPushPromiseFramePayload s
  | .pushPromiseFrameEnd => onPushPromiseFrameEnd s

/-! The events the visitor hands to the stream, as what the stream's methods compute. -/

@[simp] theorem visit_priorityFrameStart (frameLengths : Http3FrameLengths) :
    visit session s (.priorityFrameStart frameLengths) =
      if session.perspective = .isClient then
        (s.closeConnection .quicHttpDecoderError "Server must not send Priority frames.", false)
      else
        ({ s with currentPriorityLength := frameLengths.headerLength + frameLengths.payloadLength },
          true) := rfl

@[simp] theorem visit_priorityFrame (frame : PriorityFrame) :
    visit session s (.priorityFrame frame) =
      if session.perspective = .isClient then
        (s.closeConnection .quicHttpDecoderError "Server must not send Priority frames.", false)
      else s.onPriorityFrame session frame := rfl

@[simp] theorem visit_settingsFrameStart (frameLengths : Http3FrameLengths) :
    visit session s (.settingsFrameStart frameLengths) =
      if s.receivedSettingsLength ≠ 0 then
        (s.closeConnection .quicInvalidStreamId "Settings frames are received twice.", false)
      else
        ({ s with receivedSettingsLength :=
            s.receivedSettingsLength + (frameLengths.headerLength + frameLengths.payloadLength) },
          true) := rfl

@[simp] theorem visit_settingsFrame (frame : SettingsFrame) :
    visit session s (.settingsFrame frame) = s.onSettingsFrame frame := rfl

@[simp] theorem wrongFrame_fst_connected (frameType : String) :
    (wrongFrame s frameType).1.connected = false := by
  simp [wrongFrame, closeConnectionOnWrongFrame]

/-- A callback that returns false has closed the connection. -/
theorem visit_false (event : HttpEvent) (h : (visit session s event).2 = false) :
    (visit session s event).1.connected = false := by
  cases event with
  | priorityFrameStart _ | priorityFrame _ | settingsFrameStart _ =>
    simp only [visit_priorityFrameStart, visit_priorityFrame, visit_settingsFrameStart] at h ⊢
    split_ifs at h ⊢ <;> simp_all [QuicReceiveControlStream.onPriorityFrame]
  | settingsFrame f => simp [QuicReceiveControlStream.onSettingsFrame] at h
  | _ => exact connected_closeConnection _ _ _

/-- A callback only adds calls on the session. -/
theorem visit_effects (event : HttpEvent) :
    ∃ es, (visit session s event).1.effects = s.effects ++ es := by
  cases event with
  | priorityFrameStart _ | priorityFrame _ | settingsFrameStart _ =>
    simp only [visit_priorityFrameStart, visit_priorityFrame, visit_settingsFrameStart,
      onPriorityFrame_eq]
    split_ifs <;> simp [closeConnection]
  | settingsFrame f => simp [onSettingsFrame_eq]
  | _ => exact ⟨_, rfl⟩

/-- A closed connection stays closed. -/
theorem visit_connected_false (event : HttpEvent) (h : s.connected = false) :
    (visit session s event).1.connected = false := by
  obtain ⟨es, hes⟩ := visit_effects session s event
  simp_all [connected]

@[simp] theorem visit_readingStopped (event : HttpEvent) :
    (visit session s event).1.readingStopped = s.readingStopped := by
  cases event <;> try rfl
  all_goals
    simp only [visit_priorityFrameStart, visit_priorityFrame, visit_settingsFrameStart,
      visit_settingsFrame, onPriorityFrame_eq, onSettingsFrame_eq] <;>
    (try split_ifs) <;> rfl

end HttpDecoderVisitor

/-! ## `OnDataAvailable` -/

open HttpDecoderVisitor in
/-- The callbacks of one `ProcessInput` call, made on the coordinator in turn; the coordinator
after them, the count returned and the decoder's new state. -/
def drive {D : Type} (session : Session) :
    QuicReceiveControlStream → Interaction D → QuicReceiveControlStream × Nat × D
  | s, .call _ event next => drive session (visit session s event).1 (next (visit session s event).2)
  | s, .onError _ next => drive session (onError s) next
  | s, .done processed d => (s, processed, d)

theorem drive_connected_false {D : Type} (session : Session) (it : Interaction D)
    {s : QuicReceiveControlStream} (h : s.connected = false) :
    (drive session s it).1.connected = false := by
  induction it generalizing s with
  | call _ event next ih =>
    exact ih _ (HttpDecoderVisitor.visit_connected_false session s event h)
  | onError _ next ih => exact ih (by simp [HttpDecoderVisitor.onError])
  | done => exact h

/-- The stream sequencer, as `OnDataAvailable` reads it: the bytes received so far, contiguous
from the start of the stream, and the end of the buffer block holding each offset. -/
structure QuicStreamSequencer where
  received : Nat
  blockEnd : Nat → Nat
  blockEnd_gt : ∀ offset, offset < blockEnd offset

/-- Modelled from the spec: `PeekRegion(offset, &iov)`, the length of the received bytes from
`offset` to the end of its block, if there are any. -/
def QuicStreamSequencer.peekRegion (sequencer : QuicStreamSequencer) (offset : Nat) : Option Nat :=
  if offset < sequencer.received then some (min (sequencer.blockEnd offset) sequencer.received - offset)
  else none

namespace QuicReceiveControlStream

variable {D : Type} (session : Session) (decoder : HttpDecoder D) (sequencer : QuicStreamSequencer)

/-- `while (connected() && !reading_stopped() && decoder_.error() == QUIC_NO_ERROR)`, on fuel: peek
the region at `sequencer_offset_`, hand it to `ProcessInput`, advance by the count returned. -/
def onDataAvailableLoop :
    Nat → QuicReceiveControlStream → Nat → D → Option (QuicReceiveControlStream × Nat × D)
  | 0, _, _, _ => none
  | fuel + 1, s, offset, d =>
    if s.connected ∧ s.readingStopped = false ∧ decoder.error d = false then
      match sequencer.peekRegion offset with
      | none => some (s, offset, d)
      | some length =>
        let r := drive session s (decoder.processInput d length)
        onDataAvailableLoop fuel r.1 (offset + r.2.1) r.2.2
    else some (s, offset, d)

/-- `OnDataAvailable`, with fuel for an iteration per received byte and one more: enough for every
decoder that keeps its contract. Other decoders are run with `onDataAvailableLoop` at every fuel. -/
def onDataAvailable (s : QuicReceiveControlStream) (offset : Nat) (d : D) :
    Option (QuicReceiveControlStream × Nat × D) :=
  onDataAvailableLoop session decoder sequencer (sequencer.received + 1) s offset d

/-- `OnDataAvailable` after each arrival of data, with the sequencer as it is then. -/
def onDataAvailableRun :
    List QuicStreamSequencer → QuicReceiveControlStream → Nat → D →
      Option (QuicReceiveControlStream × Nat × D)
  | [], s, offset, d => some (s, offset, d)
  | sequencer :: sequencers, s, offset, d =>
    (onDataAvailable session decoder sequencer s offset d).bind fun r =>
      onDataAvailableRun sequencers r.1 r.2.1 r.2.2

end QuicReceiveControlStream

end QuicHttp3
