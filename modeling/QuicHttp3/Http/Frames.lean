import Mathlib.Data.List.Basic

/-!
# HTTP/3 frames and the session of the control stream

The visitor callbacks of `HttpDecoder::Visitor` (`http_decoder.h`) other than `OnError`, as one
type `HttpEvent`, with the arguments the receive control stream reads: the frame lengths of the
PRIORITY and SETTINGS starts, the element and weight of a PRIORITY frame, the entries of a
SETTINGS frame. The session is what `QuicReceiveControlStream` calls on it (`SessionEffect`):
`CloseConnection`, `set_max_outbound_header_list_size`, `GetOrCreateStream`, and `SetPriority` on
the stream found. `connected()` is a function of these calls: the connection is open until one of
them closes it, which a `GetOrCreateStream` that refuses the id does as well (`SessionEffect.closes`).
`upToClose` keeps the calls up to and including the first that closes the connection.
-/

namespace QuicHttp3

/-- `Http3FrameLengths`: the lengths of a frame's header and payload. -/
structure Http3FrameLengths where
  headerLength : Nat
  payloadLength : Nat
  deriving DecidableEq, Repr

/-- The fields of `PriorityFrame` the control stream reads: the prioritized element and the
weight. -/
structure PriorityFrame where
  prioritizedElementId : Nat
  weight : UInt8
  deriving DecidableEq, Repr

/-- `SettingsFrame`: its `values`, a `std::map`, as the entries in increasing key order. -/
structure SettingsFrame where
  values : List (Nat × Nat)
  sorted : values.Pairwise fun a b => a.1 < b.1

/-- Modelled from the spec: `kSettingsMaxHeaderListSize` (its declaration is not among the
sources) is `0x06`. -/
def kSettingsMaxHeaderListSize : Nat := 0x6

/-- A callback of `HttpDecoder::Visitor` other than `OnError`. -/
inductive HttpEvent
  | priorityFrameStart (frameLengths : Http3FrameLengths)
  | priorityFrame (frame : PriorityFrame)
  | cancelPushFrame
  | maxPushIdFrame
  | goAwayFrame
  | settingsFrameStart (frameLengths : Http3FrameLengths)
  | settingsFrame (frame : SettingsFrame)
  | duplicatePushFrame
  | dataFrameStart
  | dataFramePayload
  | dataFrameEnd
  | headersFrameStart
  | headersFramePayload
  | headersFrameEnd
  | pushPromiseFrameStart
  | pushPromiseFramePayload
  | pushPromiseFrameEnd

inductive Perspective
  | isClient
  | isServer
  deriving DecidableEq, Repr

/-- The error codes the control stream closes the connection with. -/
inductive QuicErrorCode
  | quicHttpDecoderError
  | quicInvalidStreamId
  deriving DecidableEq, Repr

/-- What `GetOrCreateStream` returns: a stream; `nullptr`; or `nullptr` after closing the
connection, as a QUIC session does for an id it refuses. -/
inductive StreamLookup
  | found
  | notFound
  | refused
  deriving DecidableEq, Repr

/-- A call the control stream makes on its session and connection. -/
inductive SessionEffect
  | closeConnection (error : QuicErrorCode) (details : String)
  | setMaxOutboundHeaderListSize (size : Nat)
  | getOrCreateStream (id : Nat) (result : StreamLookup)
  | setPriority (id : Nat) (priority : UInt8)
  deriving DecidableEq, Repr

/-- The calls after which `connected()` is false. -/
def SessionEffect.closes : SessionEffect → Bool
  | .closeConnection _ _ => true
  | .getOrCreateStream _ .refused => true
  | _ => false

/-- The session as the control stream sees it: its perspective, and what `GetOrCreateStream`
returns for an id, given the calls made so far. -/
structure Session where
  perspective : Perspective
  getOrCreateStream : List SessionEffect → Nat → StreamLookup

/-- `connection()->connected()` after the given calls. -/
def connectedAfter (effects : List SessionEffect) : Bool := !effects.any SessionEffect.closes

/-- The calls up to and including the first that closes the connection. -/
def upToClose : List SessionEffect → List SessionEffect
  | [] => []
  | e :: es => if e.closes then [e] else e :: upToClose es

@[simp] theorem connectedAfter_nil : connectedAfter [] = true := rfl

@[simp] theorem connectedAfter_append (es es' : List SessionEffect) :
    connectedAfter (es ++ es') = (connectedAfter es && connectedAfter es') := by
  simp [connectedAfter]

@[simp] theorem connectedAfter_singleton (e : SessionEffect) : connectedAfter [e] = !e.closes := by
  simp [connectedAfter]

theorem upToClose_append_of_connected {es : List SessionEffect} (h : connectedAfter es = true)
    (es' : List SessionEffect) : upToClose (es ++ es') = es ++ upToClose es' := by
  induction es with
  | nil => rfl
  | cons e es ih =>
    simp only [connectedAfter, List.any_cons, Bool.not_or, Bool.and_eq_true, Bool.not_eq_true'] at h
    simp [upToClose, h.1, ih (by simpa [connectedAfter] using h.2)]

/-- Calls made after the connection is closed do not show before the close. -/
theorem upToClose_append_of_closed {es : List SessionEffect} (h : connectedAfter es = false)
    (es' : List SessionEffect) : upToClose (es ++ es') = upToClose es := by
  induction es with
  | nil => simp at h
  | cons e es ih =>
    cases he : e.closes
    · simp only [connectedAfter, List.any_cons, he, Bool.false_or] at h
      simp [upToClose, he, ih h]
    · simp [upToClose, he]

end QuicHttp3
