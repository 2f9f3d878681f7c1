import Mathlib.Algebra.Order.Ring.Nat
import QuicHttp3.Http.Frames

/-!
# The HTTP/3 frame decoder, as its caller sees it

`HttpDecoder::ProcessInput` (`http_decoder.h`; the decoder's code is not among the sources) makes
visitor callbacks, each of which returns whether to go on, and returns the count of bytes it
processed. `Interaction` is one such call as a tree: a callback, continued according to its answer;
`OnError`; the return. A decoder is any `processInput` with an `error()` flag; `Progress` is the
contract of its header: on non-empty input the count is positive unless a callback returned false
or an error was raised.

The stream is described by what such a decoder reports for it (`Report`): its frames, each with
its callbacks at their offsets in the frame (`StreamFrame.callbacks`: Start then Frame for PRIORITY
and SETTINGS, Start, Payload and End for DATA, HEADERS and PUSH_PROMISE, one callback for the other
known types, none for unknown and reserved types), and possibly a final malformed frame ending in
`OnError`. `TraceDecoder` is the decoder that reports it: a call on a region makes the callbacks due
by the end of the region, in order, and pauses at the first that returns false.
It keeps the contract (`traceDecoder_keepsContract`, from `TraceDecoder.progress_deliver`).
-/

namespace QuicHttp3

/-- One `ProcessInput` call: a callback at `position`, continued by what it returns; `OnError`; or
the count of bytes processed, with the decoder after the call. -/
inductive Interaction (D : Type)
  | call (position : Nat) (event : HttpEvent) (next : Bool → Interaction D)
  | onError (position : Nat) (next : Interaction D)
  | done (processed : Nat) (decoder : D)

/-- `HttpDecoder`: `ProcessInput` on a region of the given length, and whether `error()` is set. -/
structure HttpDecoder (D : Type) where
  processInput : D → Nat → Interaction D
  error : D → Bool

/-- The contract of one `ProcessInput` call on non-empty input: when every callback returns true
and no error is raised, the count returned is positive. -/
def Progress {D : Type} : Interaction D → Prop
  | .call _ _ next => Progress (next true)
  | .onError _ _ => True
  | .done processed _ => 0 < processed

/-- A decoder keeps the contract on every non-empty region while it has no error. -/
def HttpDecoder.KeepsContract {D : Type} (decoder : HttpDecoder D) : Prop :=
  ∀ d length, decoder.error d = false → 0 < length → Progress (decoder.processInput d length)

/-! ## What a decoder reports for a stream -/

/-- A report of the decoder: a callback, or `OnError`. -/
inductive Callback
  | event (event : HttpEvent)
  | onError

/-- The streamed payload callbacks: one per chunk, at the offset where the chunk ends. -/
def payloadCallbacks (event : HttpEvent) : Nat → List Nat → List (Nat × HttpEvent)
  | _, [] => []
  | offset, chunk :: chunks => (offset + chunk, event) :: payloadCallbacks event (offset + chunk) chunks

/-- A frame of the stream with what a decoder reports for it. PUSH_PROMISE's header length counts
the push id, after which its Start is reported. -/
inductive StreamFrame
  | priority (frameLengths : Http3FrameLengths) (frame : PriorityFrame)
  | settings (frameLengths : Http3FrameLengths) (frame : SettingsFrame)
  | cancelPush (length : Nat)
  | maxPushId (length : Nat)
  | goAway (length : Nat)
  | duplicatePush (length : Nat)
  | data (frameLengths : Http3FrameLengths) (chunks : List Nat)
  | headers (frameLengths : Http3FrameLengths) (chunks : List Nat)
  | pushPromise (frameLengths : Http3FrameLengths) (chunks : List Nat)
  | unknown (length : Nat)

namespace StreamFrame

/-- The bytes of the frame. -/
def size : StreamFrame → Nat
  | priority l _ | settings l _ | data l _ | headers l _ | pushPromise l _ =>
    l.headerLength + l.payloadLength
  | cancelPush n | maxPushId n | goAway n | duplicatePush n | unknown n => n

/-- A streamed frame's callbacks: Start after the header, a Payload per chunk, End. -/
def streamed (l : Http3FrameLengths) (chunks : List Nat) (start payload finish : HttpEvent) :
    List (Nat × HttpEvent) :=
  (l.headerLength, start) :: payloadCallbacks payload l.headerLength chunks ++
    [(l.headerLength + l.payloadLength, finish)]

/-- The callbacks a decoder makes for the frame, at their offsets in it. -/
def callbacks : StreamFrame → List (Nat × HttpEvent)
  | priority l f =>
    [(l.headerLength, .priorityFrameStart l), (l.headerLength + l.payloadLength, .priorityFrame f)]
  | settings l f =>
    [(l.headerLength, .settingsFrameStart l), (l.headerLength + l.payloadLength, .settingsFrame f)]
  | cancelPush n => [(n, .cancelPushFrame)]
  | maxPushId n => [(n, .maxPushIdFrame)]
  | goAway n => [(n, .goAwayFrame)]
  | duplicatePush n => [(n, .duplicatePushFrame)]
  | data l chunks => streamed l chunks .dataFrameStart .dataFramePayload .dataFrameEnd
  | headers l chunks => streamed l chunks .headersFrameStart .headersFramePayload .headersFrameEnd
  | pushPromise l chunks =>
    streamed l chunks .pushPromiseFrameStart .pushPromiseFramePayload .pushPromiseFrameEnd
  | unknown _ => []

/-- A frame as the wire has it: a type and a length of a byte at least each, and streamed payload
chunks that are non-empty and make up the payload. -/
def WellFormed : StreamFrame → Prop
  | priority l _ | settings l _ => 2 ≤ l.headerLength
  | data l chunks | headers l chunks | pushPromise l chunks =>
    2 ≤ l.headerLength ∧ (∀ c ∈ chunks, 0 < c) ∧ chunks.sum = l.payloadLength
  | cancelPush n | maxPushId n | goAway n | duplicatePush n | unknown n => 2 ≤ n

end StreamFrame

/-- The frame the decoder fails on, before any callback or in a PRIORITY or SETTINGS payload after
its Start; `position` is the offset in the frame at which `OnError` is reported. -/
inductive Malformed
  | frameHeader (position : Nat)
  | priorityPayload (frameLengths : Http3FrameLengths) (position : Nat)
  | settingsPayload (frameLengths : Http3FrameLengths) (position : Nat)

namespace Malformed

def size : Malformed → Nat
  | frameHeader p | priorityPayload _ p | settingsPayload _ p => p

def callbacks : Malformed → List (Nat × Callback)
  | frameHeader p => [(p, .onError)]
  | priorityPayload l p => [(l.headerLength, .event (.priorityFrameStart l)), (p, .onError)]
  | settingsPayload l p => [(l.headerLength, .event (.settingsFrameStart l)), (p, .onError)]

def WellFormed : Malformed → Prop
  | frameHeader p => 1 ≤ p
  | priorityPayload l p | settingsPayload l p =>
    2 ≤ l.headerLength ∧ l.headerLength ≤ p ∧ p ≤ l.headerLength + l.payloadLength

end Malformed

/-- What a decoder reports for a stream: its frames, and the malformed frame it stops at, if any. -/
structure Report where
  frames : List StreamFrame
  malformed : Option Malformed

/-- The callbacks of frames laid out from `start`, at their positions in the stream. -/
def framesCallbacks (start : Nat) (malformed : Option Malformed) :
    List StreamFrame → List (Nat × Callback)
  | [] => ((malformed.map Malformed.callbacks).getD []).map fun c => (start + c.1, c.2)
  | f :: fs =>
    f.callbacks.map (fun c => (start + c.1, .event c.2)) ++
      framesCallbacks (start + f.size) malformed fs

namespace Report

/-- The bytes the decoder reads: the frames, and the malformed frame up to its error. -/
def size (report : Report) : Nat :=
  (report.frames.map StreamFrame.size).sum + ((report.malformed.map Malformed.size).getD 0)

/-- The callbacks of the report at their positions in a stream whose frames start at `base`. -/
def callbacks (report : Report) (base : Nat) : List (Nat × Callback) :=
  framesCallbacks base report.malformed report.frames

def WellFormed (report : Report) : Prop :=
  (∀ f ∈ report.frames, f.WellFormed) ∧ ∀ m ∈ report.malformed, m.WellFormed

end Report

/-! ## Positions of the callbacks of a report -/

/-- A list of callbacks in stream order. -/
def InOrder {α : Type} (cs : List (Nat × α)) : Prop := cs.Pairwise fun a b => a.1 ≤ b.1

theorem payloadCallbacks_bounds (event : HttpEvent) (offset : Nat) (chunks : List Nat) :
    ∀ c ∈ payloadCallbacks event offset chunks, offset ≤ c.1 ∧ c.1 ≤ offset + chunks.sum := by
  induction chunks generalizing offset with
  | nil => simp [payloadCallbacks]
  | cons chunk chunks ih =>
    intro c hc
    simp only [payloadCallbacks, List.mem_cons] at hc
    rcases hc with rfl | hc
    · simp
    · have := ih (offset + chunk) c hc
      simp only [List.sum_cons]; omega

theorem payloadCallbacks_inOrder (event : HttpEvent) (offset : Nat) (chunks : List Nat) :
    InOrder (payloadCallbacks event offset chunks) := by
  induction chunks generalizing offset with
  | nil => exact .nil
  | cons chunk chunks ih =>
    exact .cons (fun c hc => (payloadCallbacks_bounds event _ chunks c hc).1) (ih _)

namespace StreamFrame

theorem callbacks_bounds {f : StreamFrame} (hwf : f.WellFormed) :
    ∀ c ∈ f.callbacks, 1 ≤ c.1 ∧ c.1 ≤ f.size := by
  cases f <;> simp only [WellFormed] at hwf
  case data l chunks | headers l chunks | pushPromise l chunks =>
    intro c hc
    simp only [callbacks, streamed, List.cons_append, List.mem_cons, List.mem_append,
      List.not_mem_nil, or_false] at hc
    rcases hc with rfl | hc | rfl
    · simp [size]; omega
    · have := payloadCallbacks_bounds _ _ _ c hc
      simp [size]; omega
    · simp [size]; omega
  case priority l _ | settings l _ =>
    intro c hc
    simp only [callbacks, List.mem_cons, List.not_mem_nil, or_false] at hc
    rcases hc with rfl | rfl <;> simp [size] <;> omega
  case unknown => simp [callbacks]
  all_goals
    intro c hc
    simp only [callbacks, List.mem_cons, List.not_mem_nil, or_false] at hc
    subst hc
    simp [size]; omega

theorem callbacks_inOrder {f : StreamFrame} (hwf : f.WellFormed) : InOrder f.callbacks := by
  cases f <;> simp only [WellFormed] at hwf
  case data l chunks | headers l chunks | pushPromise l chunks =>
    have hb := fun e => payloadCallbacks_bounds e l.headerLength chunks
    simp only [callbacks, streamed, InOrder, List.cons_append, List.pairwise_cons, List.mem_append,
      List.mem_cons, List.not_mem_nil, or_false, List.pairwise_append, List.pairwise_singleton,
      List.Pairwise.nil, and_true]
    refine ⟨?_, payloadCallbacks_inOrder _ _ _, by simp, ?_⟩
    · rintro c (hc | rfl)
      · exact (hb _ c hc).1
      · simp
    · rintro a ha b rfl
      have := (hb _ a ha).2
      simp only; omega
  all_goals simp [callbacks, InOrder]

end StreamFrame

namespace Malformed

theorem callbacks_bounds {m : Malformed} (hwf : m.WellFormed) :
    ∀ c ∈ m.callbacks, 1 ≤ c.1 ∧ c.1 ≤ m.size := by
  cases m <;> simp only [WellFormed] at hwf <;> intro c hc <;>
    simp only [callbacks, List.mem_cons, List.not_mem_nil, or_false] at hc
  case frameHeader => subst hc; simpa [size] using hwf
  all_goals rcases hc with rfl | rfl <;> simp [size] <;> omega

theorem callbacks_inOrder {m : Malformed} (hwf : m.WellFormed) : InOrder m.callbacks := by
  cases m <;> simp only [WellFormed] at hwf <;> simp [callbacks, InOrder] <;> omega

end Malformed

theorem framesCallbacks_bounds (malformed : Option Malformed)
    (hm : ∀ m ∈ malformed, m.WellFormed) (frames : List StreamFrame)
    (hwf : ∀ f ∈ frames, f.WellFormed) (start : Nat) :
    ∀ c ∈ framesCallbacks start malformed frames, start < c.1 ∧
      c.1 ≤ start + (frames.map StreamFrame.size).sum + (malformed.map Malformed.size).getD 0 := by
  induction frames generalizing start with
  | nil =>
    cases malformed with
    | none => simp [framesCallbacks]
    | some m =>
      intro c hc
      simp only [framesCallbacks, Option.map_some', Option.getD_some, List.mem_map] at hc
      obtain ⟨c, hc, rfl⟩ := hc
      have := m.callbacks_bounds (hm m rfl) c hc
      simp; omega
  | cons f frames ih =>
    intro c hc
    simp only [framesCallbacks, List.mem_append, List.mem_map] at hc
    rcases hc with ⟨c, hc, rfl⟩ | hc
    · have := f.callbacks_bounds (hwf f (List.mem_cons_self _ _)) c hc
      simp; omega
    · have := ih (fun f hf => hwf f (List.mem_cons_of_mem _ hf)) _ c hc
      simp; omega

theorem framesCallbacks_inOrder (malformed : Option Malformed)
    (hm : ∀ m ∈ malformed, m.WellFormed) (frames : List StreamFrame)
    (hwf : ∀ f ∈ frames, f.WellFormed) (start : Nat) :
    InOrder (framesCallbacks start malformed frames) := by
  induction frames generalizing start with
  | nil =>
    cases malformed with
    | none => exact .nil
    | some m =>
      simp only [framesCallbacks, Option.map_some', Option.getD_some, InOrder, List.pairwise_map]
      exact (m.callbacks_inOrder (hm m rfl)).imp fun h => by omega
  | cons f frames ih =>
    have hf := hwf f (List.mem_cons_self _ _)
    simp only [framesCallbacks, InOrder, List.pairwise_append, List.pairwise_map]
    refine ⟨(f.callbacks_inOrder hf).imp fun h => by omega,
      ih (fun f hf => hwf f (List.mem_cons_of_mem _ hf)) _, ?_⟩
    intro a ha b hb
    simp only [List.mem_map] at ha
    obtain ⟨a, ha, rfl⟩ := ha
    have h1 := f.callbacks_bounds hf a ha
    have h2 := framesCallbacks_bounds malformed hm frames
      (fun f hf => hwf f (List.mem_cons_of_mem _ hf)) _ b hb
    simp only; omega

namespace Report

theorem callbacks_bounds {report : Report} (hwf : report.WellFormed) (base : Nat) :
    ∀ c ∈ report.callbacks base, base < c.1 ∧ c.1 ≤ base + report.size := by
  intro c hc
  have := framesCallbacks_bounds report.malformed hwf.2 report.frames hwf.1 base c hc
  simp only [size]; omega

theorem callbacks_inOrder {report : Report} (hwf : report.WellFormed) (base : Nat) :
    InOrder (report.callbacks base) :=
  framesCallbacks_inOrder report.malformed hwf.2 report.frames hwf.1 base

end Report

/-! ## The decoder that reports a given report -/

/-- Modelled from the spec (§4.2, §5): a decoder that makes given callbacks, with the position it
has processed the stream to, the callbacks still to make, and its error flag. -/
structure TraceDecoder where
  position : Nat
  pending : List (Nat × Callback)
  error : Bool

namespace TraceDecoder

/-- The callbacks due by `limit`, in order: a callback that returns false pauses the decoder at its
position, `OnError` stops it there with its error set. -/
def deliver (d : TraceDecoder) (limit : Nat) : List (Nat × Callback) → Interaction TraceDecoder
  | [] => .done (limit - d.position) { d with position := limit, pending := [] }
  | (p, c) :: rest =>
    if limit < p then .done (limit - d.position) { d with position := limit, pending := (p, c) :: rest }
    else match c with
      | .event e => .call p e fun go =>
        if go then deliver d limit rest else .done (p - d.position) { d with position := p, pending := rest }
      | .onError => .onError p (.done (p - d.position) { d with position := p, pending := rest, error := true })

/-- `ProcessInput` on the next `length` bytes. -/
def processInput (d : TraceDecoder) (length : Nat) : Interaction TraceDecoder :=
  d.deliver (d.position + length) d.pending

/-- The decoder before any byte of a report whose frames start at `base`. -/
def start (report : Report) (base : Nat) : TraceDecoder := ⟨base, report.callbacks base, false⟩

theorem progress_deliver (d : TraceDecoder) {limit : Nat} (h : d.position < limit)
    (pending : List (Nat × Callback)) : Progress (d.deliver limit pending) := by
  induction pending with
  | nil => simp [deliver, Progress]; omega
  | cons c rest ih =>
    obtain ⟨p, c⟩ := c
    unfold deliver
    split_ifs
    · simp [Progress]; omega
    · cases c with
      | event e => simpa [Progress] using ih
      | onError => trivial

end TraceDecoder

/-- The decoder that reports a report. -/
def traceDecoder : HttpDecoder TraceDecoder := ⟨TraceDecoder.processInput, TraceDecoder.error⟩

theorem traceDecoder_keepsContract : traceDecoder.KeepsContract :=
  fun d _ _ hlength => TraceDecoder.progress_deliver d (by omega) d.pending

end QuicHttp3
