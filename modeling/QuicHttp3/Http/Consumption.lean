import QuicHttp3.Http.TraceRun

/-!
# Bytes marked consumed by the control stream

`QuicReceiveControlStream` tells its sequencer which bytes it is done with by `MarkConsumed`, with
the lengths that the decoder's PRIORITY and SETTINGS Start callbacks report, while the loop of
`OnDataAvailable` moves `sequencer_offset_` by the counts `ProcessInput` returns. `ConsumptionOk`
is what the code asks of a callback: `OnPriorityFrameStart` finds no PRIORITY frame open (its
DCHECK on `current_priority_length_`), and the `MarkConsumed` of `OnPriorityFrame` and of
`OnSettingsFrame` stays within the bytes the decoder has processed when it makes the callback.
`LoopOk` and `RunOk` ask a property of every head of the loop and of every callback, following the
recursion of `onDataAvailableLoop` and `onDataAvailableRun`.

The frames of a report are walked once (`allCallbacks_frames`), with the invariant that between
frames every byte consumed lies before the next frame and no PRIORITY frame is open (`Settled`).
`TraceState.loopOk` and `TraceState.runOk` carry a property of all the report's callbacks to every
callback of a run, and `onDataAvailableRun_consumption` puts the two together: for either
perspective, any report a decoder can make and any run of `OnDataAvailable` calls, every head of
the loop has `NumBytesConsumed() <= sequencer_offset_` and every callback is `ConsumptionOk`.

An unknown frame makes no callback, so its bytes are never marked consumed
(`onDataAvailable_unknown_frame_unconsumed`).
-/

namespace QuicHttp3

open QuicReceiveControlStream HttpDecoderVisitor

/-- At a server the `DCHECK` of `OnPriorityFrameStart` holds and the `MarkConsumed` of
`OnPriorityFrame` stays within `position`, the bytes processed, as does that of `OnSettingsFrame`. -/
def ConsumptionOk (perspective : Perspective) (s : QuicReceiveControlStream) (position : Nat) :
    Callback → Prop
  | .event (.priorityFrameStart _) => perspective = .isServer → s.currentPriorityLength = 0
  | .event (.priorityFrame _) =>
    perspective = .isServer → s.numBytesConsumed + s.currentPriorityLength ≤ position
  | .event (.settingsFrame _) => s.numBytesConsumed + s.receivedSettingsLength ≤ position
  | _ => True

section

variable {D : Type} (session : Session) (decoder : HttpDecoder D)
  (Q : QuicReceiveControlStream → Nat → Prop) (P : QuicReceiveControlStream → Nat → Callback → Prop)

/-- `Q` holds at every head of the loop of `OnDataAvailable`, of the coordinator and
`sequencer_offset_`, and `P` at every callback of every `ProcessInput` call the loop makes. -/
def LoopOk (sequencer : QuicStreamSequencer) : Nat → QuicReceiveControlStream → Nat → D → Prop
  | 0, _, _, _ => True
  | fuel + 1, s, offset, d =>
    s.connected ∧ s.readingStopped = false ∧ decoder.error d = false →
      Q s offset ∧ ∀ length, sequencer.peekRegion offset = some length →
        DriveOk session P s (decoder.processInput d length) ∧
          LoopOk sequencer fuel (drive session s (decoder.processInput d length)).1
            (offset + (drive session s (decoder.processInput d length)).2.1)
            (drive session s (decoder.processInput d length)).2.2

/-- `LoopOk` in each of a sequence of `OnDataAvailable` calls. -/
def RunOk : List QuicStreamSequencer → QuicReceiveControlStream → Nat → D → Prop
  | [], _, _, _ => True
  | sequencer :: sequencers, s, offset, d =>
    LoopOk session decoder Q P sequencer (sequencer.received + 1) s offset d ∧
      ∀ r, onDataAvailable session decoder sequencer s offset d = some r →
        RunOk sequencers r.1 r.2.1 r.2.2

end

/-! ## From the report's callbacks to the run -/

section

variable (session : Session)

/-- A `ProcessInput` call of the trace decoder makes its callbacks from the pending ones, so it
satisfies what they all do. -/
theorem driveOk_deliver {P : QuicReceiveControlStream → Nat → Callback → Prop} (d : TraceDecoder)
    (limit : Nat) (pending : List (Nat × Callback)) {s : QuicReceiveControlStream}
    (h : AllCallbacks session P s pending) : DriveOk session P s (d.deliver limit pending) := by
  induction pending generalizing s with
  | nil => trivial
  | cons c rest ih =>
    obtain ⟨p, c⟩ := c
    unfold TraceDecoder.deliver
    split_ifs
    · trivial
    · cases c with
      | event e =>
        obtain ⟨hp, hrest⟩ := h
        refine ⟨hp, ?_⟩
        cases hgo : (visit session s e).2
        · simp only [hgo, Bool.false_eq_true, if_false]; trivial
        · simpa only [hgo, if_true] using ih (hrest hgo)
      | onError => exact ⟨h, trivial⟩

variable {session} {s₀ : QuicReceiveControlStream} {cbs : List (Nat × Callback)}
  {P : QuicReceiveControlStream → Nat → Callback → Prop}

/-- While the connection is open, the callbacks still to come satisfy what all of them do. -/
theorem TraceState.allCallbacks_pending {s : QuicReceiveControlStream} {offset : Nat}
    {d : TraceDecoder} (hJ : TraceState session s₀ cbs s offset d) (hconnected : s.connected = true)
    (hP : AllCallbacks session P s₀ cbs) : AllCallbacks session P s d.pending := by
  obtain ⟨pre, hcbs, hs, -⟩ := hJ.delivered
  rw [hcbs, allCallbacks_append] at hP
  exact hs ▸ hP.2 (handleAll_go session s₀ pre (hs ▸ hconnected))

variable {Q : QuicReceiveControlStream → Nat → Prop}

/-- A property of every state of the run holds at every head of the loop, and a property of all
the report's callbacks at every callback the loop makes. -/
theorem TraceState.loopOk (hQ : ∀ {s offset d}, TraceState session s₀ cbs s offset d → Q s offset)
    (hP : AllCallbacks session P s₀ cbs) (sequencer : QuicStreamSequencer) (fuel : Nat)
    {s : QuicReceiveControlStream} {offset : Nat} {d : TraceDecoder}
    (hJ : TraceState session s₀ cbs s offset d) :
    LoopOk session traceDecoder Q P sequencer fuel s offset d := by
  induction fuel generalizing s offset d with
  | zero => trivial
  | succ fuel ih =>
    rintro ⟨hconnected, -, herror⟩
    exact ⟨hQ hJ, fun length _ => ⟨driveOk_deliver session d _ d.pending
      (hJ.allCallbacks_pending hconnected hP), ih (hJ.drive hconnected herror length)⟩⟩

theorem TraceState.runOk (hQ : ∀ {s offset d}, TraceState session s₀ cbs s offset d → Q s offset)
    (hP : AllCallbacks session P s₀ cbs) (sequencers : List QuicStreamSequencer)
    {s : QuicReceiveControlStream} {offset : Nat} {d : TraceDecoder}
    (hJ : TraceState session s₀ cbs s offset d) :
    RunOk session traceDecoder Q P sequencers s offset d := by
  induction sequencers generalizing s offset d with
  | nil => trivial
  | cons sequencer sequencers ih =>
    exact ⟨hJ.loopOk hQ hP sequencer _, fun r hr => ih (hJ.loop sequencer _ hr).1⟩

end

/-! ## The coordinator's callbacks over a report -/

section

variable (session : Session)

/-- Between frames: every byte consumed lies before `start`, and no PRIORITY frame is open. -/
def Settled (s : QuicReceiveControlStream) (start : Nat) : Prop :=
  s.numBytesConsumed ≤ start ∧ s.currentPriorityLength = 0

/-- A callback that is `ConsumptionOk` marks nothing consumed beyond its position. -/
theorem visit_numBytesConsumed_le {s : QuicReceiveControlStream} {p : Nat} {e : HttpEvent}
    (h : ConsumptionOk session.perspective s p (.event e)) {bound : Nat}
    (hs : s.numBytesConsumed ≤ bound) (hp : p ≤ bound) :
    (visit session s e).1.numBytesConsumed ≤ bound := by
  cases e with
  | priorityFrame frame =>
    cases hpersp : session.perspective
    · simpa [hpersp, closeConnection, call] using hs
    · have := h hpersp
      simp [hpersp, onPriorityFrame_eq]
      omega
  | settingsFrame frame =>
    have : s.numBytesConsumed + s.receivedSettingsLength ≤ p := h
    simp only [visit_settingsFrame, onSettingsFrame_eq]
    omega
  | priorityFrameStart _ | settingsFrameStart _ =>
    simp only [visit_priorityFrameStart, visit_settingsFrameStart]
    split_ifs <;> exact hs
  | _ => exact hs

/-- Callbacks that are `ConsumptionOk` mark nothing consumed beyond the last of their positions. -/
theorem handleAll_numBytesConsumed_le {s : QuicReceiveControlStream} {cs : List (Nat × Callback)}
    (h : AllCallbacks session (ConsumptionOk session.perspective) s cs) {bound : Nat}
    (hs : s.numBytesConsumed ≤ bound) (hcs : ∀ c ∈ cs, c.1 ≤ bound) :
    (handleAll session s cs).1.numBytesConsumed ≤ bound := by
  induction cs generalizing s with
  | nil => exact hs
  | cons c cs ih =>
    obtain ⟨p, c⟩ := c
    cases c with
    | event e =>
      obtain ⟨he, hrest⟩ := h
      have hle := visit_numBytesConsumed_le session he hs (hcs _ (List.mem_cons_self _ _))
      simp only [handleAll]
      split_ifs with hgo
      · exact ih (hrest hgo) hle fun c hc => hcs c (List.mem_cons_of_mem _ hc)
      · exact hle
    | onError => exact hs

/-- The callbacks of a frame are `ConsumptionOk`, and when they do not stop they leave the
coordinator settled at the frame's end. -/
theorem allCallbacks_frame (f : StreamFrame) (start : Nat) {s : QuicReceiveControlStream}
    (hs : Settled s start) :
    AllCallbacks session (ConsumptionOk session.perspective) s
        (f.callbacks.map fun c => (start + c.1, Callback.event c.2)) ∧
      ((handleAll session s (f.callbacks.map fun c => (start + c.1, Callback.event c.2))).2 = true →
        Settled (handleAll session s (f.callbacks.map fun c => (start + c.1, Callback.event c.2))).1
          (start + f.size)) := by
  obtain ⟨hconsumed, hpriority⟩ := hs
  cases f with
  | settings l frame =>
    by_cases hrsl : s.receivedSettingsLength = 0
    · simp [StreamFrame.callbacks, AllCallbacks, handleAll, onSettingsFrame_eq, ConsumptionOk,
        Settled, StreamFrame.size, hrsl, hpriority]
      omega
    · simp [StreamFrame.callbacks, AllCallbacks, handleAll, ConsumptionOk, hrsl]
  | priority l frame =>
    cases hpersp : session.perspective
    · simp [StreamFrame.callbacks, AllCallbacks, handleAll, ConsumptionOk, hpersp]
    · simp [StreamFrame.callbacks, AllCallbacks, handleAll, onPriorityFrame_eq, ConsumptionOk,
        Settled, StreamFrame.size, hpersp, hpriority]
      omega
  | unknown n =>
    simp only [StreamFrame.callbacks, List.map_nil, handleAll, StreamFrame.size]
    exact ⟨trivial, fun _ => ⟨by omega, hpriority⟩⟩
  | _ => exact ⟨⟨trivial, nofun⟩, nofun⟩

/-- The callbacks of a malformed frame are `ConsumptionOk`. -/
theorem allCallbacks_malformed (m : Malformed) (start : Nat) {s : QuicReceiveControlStream}
    (hs : Settled s start) :
    AllCallbacks session (ConsumptionOk session.perspective) s
      (m.callbacks.map fun c => (start + c.1, c.2)) := by
  cases m <;> simp [Malformed.callbacks, AllCallbacks, ConsumptionOk, hs.2]

theorem allCallbacks_frames (malformed : Option Malformed) (frames : List StreamFrame)
    (start : Nat) {s : QuicReceiveControlStream} (hs : Settled s start) :
    AllCallbacks session (ConsumptionOk session.perspective) s
      (framesCallbacks start malformed frames) := by
  induction frames generalizing start s with
  | nil =>
    cases malformed with
    | none => trivial
    | some m => exact allCallbacks_malformed session m start hs
  | cons f frames ih =>
    obtain ⟨hall, hnext⟩ := allCallbacks_frame session f start hs
    rw [framesCallbacks, allCallbacks_append]
    exact ⟨hall, fun hgo => ih _ (hnext hgo)⟩

/-- Along a run over a report, the sequencer has consumed no byte beyond `sequencer_offset_`. -/
theorem TraceState.numBytesConsumed_le {s₀ s : QuicReceiveControlStream}
    {cbs : List (Nat × Callback)} {offset : Nat} {d : TraceDecoder}
    (hJ : TraceState session s₀ cbs s offset d)
    (hall : AllCallbacks session (ConsumptionOk session.perspective) s₀ cbs) :
    s.numBytesConsumed ≤ offset := by
  obtain ⟨pre, hcbs, hs, hpre⟩ := hJ.delivered
  rw [hcbs, allCallbacks_append] at hall
  exact hs ▸ handleAll_numBytesConsumed_le session hall.1 hJ.start_le hpre

end

/-- Over any run, every head of the loop has `NumBytesConsumed() <= sequencer_offset_` and every
callback is `ConsumptionOk`. -/
theorem onDataAvailableRun_consumption (session : Session) {report : Report}
    (hwf : report.WellFormed) (base : Nat) (sequencers : List QuicStreamSequencer) :
    RunOk session traceDecoder (fun s offset => s.numBytesConsumed ≤ offset)
      (ConsumptionOk session.perspective) sequencers (init base) base
      (TraceDecoder.start report base) :=
  have hall := allCallbacks_frames session report.malformed report.frames base ⟨le_rfl, rfl⟩
  (TraceState.start hwf base).runOk (fun hJ => hJ.numBytesConsumed_le session hall) hall sequencers

theorem onDataAvailableRun_consumption_priority_settings :
    RunOk ⟨.isServer, fun _ _ => .found⟩ traceDecoder (fun s offset => s.numBytesConsumed ≤ offset)
      (ConsumptionOk .isServer)
      [⟨3, fun o => o + 1, fun o => Nat.lt_succ_self o⟩, ⟨8, fun o => o + 8, fun _ =>
        Nat.lt_add_of_pos_right (by decide)⟩] (init 0) 0
      (TraceDecoder.start ⟨[.priority ⟨2, 2⟩ ⟨1, 16⟩, .settings ⟨2, 2⟩ ⟨[(6, 5)], by decide⟩], none⟩
        0) :=
  onDataAvailableRun_consumption _ (by simp [Report.WellFormed, StreamFrame.WellFormed]) 0 _

/-! ## Where the run ends -/

section

variable (session : Session)

/-- A `ProcessInput` call of the trace decoder processes no byte beyond `limit`. -/
theorem drive_deliver_le (s : QuicReceiveControlStream) (d : TraceDecoder) (limit : Nat)
    (pending : List (Nat × Callback)) :
    (drive session s (d.deliver limit pending)).2.1 ≤ limit - d.position := by
  induction pending generalizing s with
  | nil => exact le_rfl
  | cons c rest ih =>
    obtain ⟨p, c⟩ := c
    unfold TraceDecoder.deliver
    split_ifs with hlate
    · exact le_rfl
    · cases c with
      | event e =>
        simp only [drive]
        cases hgo : (visit session s e).2
        · simp only [Bool.false_eq_true, if_false, drive]; omega
        · simpa only [if_true] using ih _
      | onError => simp only [drive]; omega

theorem drive_processInput_le (s : QuicReceiveControlStream) (d : TraceDecoder) (length : Nat) :
    (drive session s (traceDecoder.processInput d length)).2.1 ≤ length :=
  (drive_deliver_le session s d (d.position + length) d.pending).trans (by omega)

/-- The loop does not move `sequencer_offset_` past a bound on the bytes received. -/
theorem onDataAvailableLoop_le (sequencer : QuicStreamSequencer) (fuel : Nat)
    {s : QuicReceiveControlStream} {offset : Nat} {d : TraceDecoder}
    {r : QuicReceiveControlStream × Nat × TraceDecoder}
    (h : onDataAvailableLoop session traceDecoder sequencer fuel s offset d = some r) {bound : Nat}
    (hoffset : offset ≤ bound) (hreceived : sequencer.received ≤ bound) : r.2.1 ≤ bound := by
  induction fuel generalizing s offset d with
  | zero => simp [onDataAvailableLoop] at h
  | succ fuel ih =>
    unfold onDataAvailableLoop at h
    split_ifs at h
    · unfold QuicStreamSequencer.peekRegion at h
      split_ifs at h with hpeek
      · refine ih h ?_
        have := drive_processInput_le session s d
          (min (sequencer.blockEnd offset) sequencer.received - offset)
        omega
      · cases h; exact hoffset
    · cases h; exact hoffset

theorem onDataAvailableRun_le (sequencers : List QuicStreamSequencer)
    {s : QuicReceiveControlStream} {offset : Nat} {d : TraceDecoder}
    {r : QuicReceiveControlStream × Nat × TraceDecoder}
    (h : onDataAvailableRun session traceDecoder sequencers s offset d = some r) {bound : Nat}
    (hoffset : offset ≤ bound) (hreceived : ∀ sequencer ∈ sequencers, sequencer.received ≤ bound) :
    r.2.1 ≤ bound := by
  induction sequencers generalizing s offset d with
  | nil => cases h; exact hoffset
  | cons sequencer sequencers ih =>
    simp only [onDataAvailableRun, Option.bind_eq_some] at h
    obtain ⟨r', h', hrun⟩ := h
    exact ih hrun (onDataAvailableLoop_le session sequencer _ h' hoffset
      (hreceived _ (List.mem_cons_self _ _))) fun sq hsq => hreceived sq (List.mem_cons_of_mem _ hsq)

end

/-! ## Streams the coordinator accepts -/

namespace StreamFrame

/-- The frames the coordinator accepts: SETTINGS, PRIORITY at a server, and frames of unknown or
reserved types. -/
def acceptedBy (perspective : Perspective) : StreamFrame → Bool
  | settings _ _ | unknown _ => true
  | priority _ _ => perspective == .isServer
  | _ => false

def isSettings : StreamFrame → Bool
  | settings _ _ => true
  | _ => false

/-- The bytes of the frame the coordinator marks consumed: all of a PRIORITY or SETTINGS frame. -/
def markedSize : StreamFrame → Nat
  | priority l _ | settings l _ => l.headerLength + l.payloadLength
  | _ => 0

/-- The bytes of a frame of an unknown or reserved type. -/
def unknownSize : StreamFrame → Nat
  | unknown n => n
  | _ => 0

theorem sum_size_of_acceptedBy {perspective : Perspective} (frames : List StreamFrame)
    (h : ∀ f ∈ frames, f.acceptedBy perspective = true) :
    (frames.map size).sum = (frames.map markedSize).sum + (frames.map unknownSize).sum := by
  induction frames with
  | nil => rfl
  | cons f frames ih =>
    have hf := h f (List.mem_cons_self _ _)
    have := ih fun f hf => h f (List.mem_cons_of_mem _ hf)
    cases f <;> simp_all [acceptedBy, size, markedSize, unknownSize] <;> omega

end StreamFrame

section

variable (session : Session)

/-- The callbacks of an accepted frame mark its bytes consumed if it is PRIORITY or SETTINGS, leave
no PRIORITY frame open, and close the connection only through a refused stream. -/
structure AcceptedStep (f : StreamFrame) (s s' : QuicReceiveControlStream) : Prop where
  consumed : s'.numBytesConsumed = s.numBytesConsumed + f.markedSize
  priorityClosed : s'.currentPriorityLength = 0
  settingsKept : f.isSettings = false → s'.receivedSettingsLength = s.receivedSettingsLength
  connected : (∀ effects id, session.getOrCreateStream effects id ≠ .refused) →
    s'.connected = s.connected

/-- The callbacks of an accepted frame, with no PRIORITY frame open and, for a SETTINGS frame, none
received before, do not stop. -/
theorem handleAll_acceptedFrame {f : StreamFrame} (hacc : f.acceptedBy session.perspective = true)
    (start : Nat) {s : QuicReceiveControlStream} (hpriority : s.currentPriorityLength = 0)
    (hsettings : f.isSettings = true → s.receivedSettingsLength = 0) :
    (handleAll session s (f.callbacks.map fun c => (start + c.1, Callback.event c.2))).2 = true ∧
      AcceptedStep session f s
        (handleAll session s (f.callbacks.map fun c => (start + c.1, Callback.event c.2))).1 := by
  cases f with
  | settings l frame =>
    have hrsl := hsettings rfl
    simp only [StreamFrame.callbacks, List.map_cons, List.map_nil, handleAll,
      visit_settingsFrameStart, visit_settingsFrame, hrsl, ne_eq, not_true_eq_false, if_false,
      onSettingsFrame_eq, if_true]
    exact ⟨trivial, by simp [StreamFrame.markedSize], hpriority, nofun, fun _ => by
      simpa only [onSettingsFrame_eq] using connected_onSettingsFrame _ frame⟩
  | priority l frame =>
    have hserver : session.perspective = .isServer := by simpa [StreamFrame.acceptedBy] using hacc
    simp only [StreamFrame.callbacks, List.map_cons, List.map_nil, handleAll,
      visit_priorityFrameStart, visit_priorityFrame, hserver, reduceCtorEq, if_false,
      onPriorityFrame_eq, if_true]
    refine ⟨trivial, by simp [StreamFrame.markedSize], rfl, fun _ => rfl, fun hrefuse => ?_⟩
    have h := connected_onPriorityFrame session
      { s with currentPriorityLength := l.headerLength + l.payloadLength } frame
    simp only [onPriorityFrame_eq] at h
    simpa [hrefuse s.effects frame.prioritizedElementId, QuicReceiveControlStream.connected] using h
  | unknown n =>
    exact ⟨rfl, ⟨rfl, hpriority, fun _ => rfl, fun _ => rfl⟩⟩
  | _ => simp [StreamFrame.acceptedBy] at hacc

/-- The callbacks of accepted frames, at most one SETTINGS frame among them and none at all after
one was received, do not stop and mark the PRIORITY and SETTINGS frames consumed. -/
theorem handleAll_acceptedFrames (frames : List StreamFrame)
    (hacc : ∀ f ∈ frames, f.acceptedBy session.perspective = true) (start : Nat)
    {s : QuicReceiveControlStream} (hpriority : s.currentPriorityLength = 0)
    (hcount : frames.countP StreamFrame.isSettings ≤ 1)
    (hsettings : s.receivedSettingsLength ≠ 0 → frames.countP StreamFrame.isSettings = 0) :
    (handleAll session s (framesCallbacks start none frames)).2 = true ∧
      (handleAll session s (framesCallbacks start none frames)).1.numBytesConsumed =
        s.numBytesConsumed + (frames.map StreamFrame.markedSize).sum ∧
      ((∀ effects id, session.getOrCreateStream effects id ≠ .refused) →
        (handleAll session s (framesCallbacks start none frames)).1.connected = s.connected) := by
  induction frames generalizing start s with
  | nil => exact ⟨rfl, rfl, fun _ => rfl⟩
  | cons f frames ih =>
    rw [List.countP_cons] at hcount hsettings
    obtain ⟨hgo, hstep⟩ := handleAll_acceptedFrame session (hacc f (List.mem_cons_self _ _)) start
      hpriority fun hf => by simpa [hf] using hsettings
    obtain ⟨hgo', hconsumed, hconnected⟩ := ih (fun f hf => hacc f (List.mem_cons_of_mem _ hf))
      (start + f.size) hstep.priorityClosed (by split at hcount <;> omega) fun h => by
        cases hf : f.isSettings
        · rw [hstep.settingsKept hf] at h; simpa [hf] using hsettings h
        · simp only [hf, if_true] at hcount; omega
    rw [framesCallbacks, handleAll_append, if_pos hgo]
    refine ⟨hgo', by rw [hconsumed, hstep.consumed]; simp [Nat.add_assoc], fun hrefuse => ?_⟩
    rw [hconnected hrefuse, hstep.connected hrefuse]

end

/-- Once a stream of accepted frames has arrived, `NumBytesConsumed()` falls short of the offset
at its end by exactly the bytes of the unknown and reserved frames. -/
theorem onDataAvailableRun_numBytesConsumed (session : Session) {report : Report}
    (hwf : report.WellFormed) (hwhole : report.malformed = none)
    (haccepted : ∀ f ∈ report.frames, f.acceptedBy session.perspective = true)
    (honce : report.frames.countP StreamFrame.isSettings ≤ 1) (base : Nat)
    (sequencers : List QuicStreamSequencer) (final : QuicStreamSequencer)
    (hreceived : ∀ sequencer ∈ sequencers, sequencer.received ≤ base + report.size)
    (hfinal : final.received = base + report.size) :
    ∃ r, onDataAvailableRun session traceDecoder (sequencers ++ [final]) (init base) base
        (TraceDecoder.start report base) = some r ∧
      ((∀ effects id, session.getOrCreateStream effects id ≠ .refused) → r.1.connected = true) ∧
      (r.1.connected = true → r.2.1 = base + report.size ∧
        r.1.numBytesConsumed + (report.frames.map StreamFrame.unknownSize).sum = r.2.1) := by
  obtain ⟨r, h, pre, rest, hcbs, hs, hdone⟩ :=
    onDataAvailableRun_handleAll hwf base sequencers final hfinal.ge
  have hall : report.callbacks base = framesCallbacks base none report.frames := by
    rw [Report.callbacks, hwhole]
  obtain ⟨-, hconsumed, hconnected⟩ := handleAll_acceptedFrames session report.frames haccepted base
    (s := init base) rfl honce fun h => absurd rfl h
  have hbound := onDataAvailableRun_le session (sequencers ++ [final]) h (Nat.le_add_right _ _)
    fun sq hsq => by
      rcases List.mem_append.1 hsq with hsq | hsq
      · exact hreceived sq hsq
      · rw [List.mem_singleton.1 hsq, hfinal]
  have hsize : report.size = (report.frames.map StreamFrame.markedSize).sum +
      (report.frames.map StreamFrame.unknownSize).sum := by
    rw [Report.size, hwhole, StreamFrame.sum_size_of_acceptedBy _ haccepted]; rfl
  refine ⟨r, h, fun hrefuse => ?_, fun hopen => ?_⟩
  · rw [hs]
    exact handleAll_connected_of_append session _ pre rest (hcbs ▸ hall ▸ hconnected hrefuse)
  · obtain ⟨hrest, hend⟩ := hdone hopen
    have hoffset : r.2.1 = base + report.size := by omega
    rw [hs, ← List.append_nil pre, ← hrest, ← hcbs, hall, hconsumed, hoffset, hsize]
    simp [init, Nat.add_assoc]

theorem onDataAvailableRun_numBytesConsumed_settings_unknown :
    ∃ r, onDataAvailableRun ⟨.isServer, fun _ _ => .found⟩ traceDecoder
        ([⟨3, fun o => o + 1, fun o => Nat.lt_succ_self o⟩] ++
          [⟨6, fun o => o + 1, fun o => Nat.lt_succ_self o⟩]) (init 0) 0
        (TraceDecoder.start ⟨[.settings ⟨2, 2⟩ ⟨[(6, 5)], by decide⟩, .unknown 2], none⟩ 0) = some r ∧
      ((∀ effects id, (⟨.isServer, fun _ _ => .found⟩ : Session).getOrCreateStream effects id ≠
        .refused) → r.1.connected = true) ∧
      (r.1.connected = true →
        r.2.1 = 0 + Report.size ⟨[.settings ⟨2, 2⟩ ⟨[(6, 5)], by decide⟩, .unknown 2], none⟩ ∧
        r.1.numBytesConsumed +
          ([StreamFrame.settings ⟨2, 2⟩ ⟨[(6, 5)], by decide⟩, .unknown 2].map
            StreamFrame.unknownSize).sum = r.2.1) :=
  onDataAvailableRun_numBytesConsumed _ (by simp [Report.WellFormed, StreamFrame.WellFormed]) rfl
    (by decide) (by decide) 0 _ _ (by decide) (by decide)

/-- An unknown frame makes no callback, so its bytes are never marked consumed: past the frame
`sequencer_offset_` is 2 and `NumBytesConsumed()` is 0. -/
theorem onDataAvailable_unknown_frame_unconsumed :
    Report.WellFormed ⟨[.unknown 2], none⟩ ∧ Report.size ⟨[.unknown 2], none⟩ = 2 ∧
      (onDataAvailable ⟨.isServer, fun _ _ => .found⟩ traceDecoder
          ⟨2, fun o => o + 2, fun _ => Nat.lt_add_of_pos_right (by decide)⟩ (init 0) 0
          (TraceDecoder.start ⟨[.unknown 2], none⟩ 0)).map
        (fun r => (r.1.numBytesConsumed, r.2.1)) = some (0, 2) :=
  ⟨by simp [Report.WellFormed, StreamFrame.WellFormed], rfl, by decide⟩

end QuicHttp3
