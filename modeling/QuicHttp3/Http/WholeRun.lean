import QuicHttp3.Http.Policy
import QuicHttp3.Http.Consumption
import QuicHttp3.Http.Invariants

/-!
# Whole runs of the control stream

What a run of `OnDataAvailable` calls leaves behind, past the first close of the connection.

With a session that refuses no stream, every callback that closes the connection returns false,
so the decoder stops at the first close wherever the region it was reading ends. Once the last call
has seen every byte, the control stream is then in the state that making all the report's callbacks
in one go gives (`handleAll`), whatever the block layout and the number of calls
(`onDataAvailableRun_eq_handleAll`): the calls on the session and the bytes marked consumed do not
depend on how the stream arrived. A session that closes the connection inside `GetOrCreateStream`
breaks this, as `onDataAvailable_after_refused_priority` shows.

For every session, refusing or not, and every run, complete or not, the session's header list limit
is set at most once, to the MAX_HEADER_LIST_SIZE value of the stream's first SETTINGS frame
(`onDataAvailableRun_headerListLimit`): the Start of any later SETTINGS frame finds
`received_settings_length_` set and returns false before its entries are read. The effects of a run
that stopped early are a prefix of those of the whole report (`handleAll_effects_extend`), and the
whole report is walked in two phases, before the first SETTINGS frame and after it.
-/

namespace QuicHttp3

open QuicReceiveControlStream HttpDecoderVisitor

/-! ## The state after the whole stream does not depend on its layout -/

section

variable (session : Session) (hrefuse : ∀ effects id, session.getOrCreateStream effects id ≠ .refused)
include hrefuse

/-- With a session that refuses no stream, callbacks that all returned true leave an open
connection open. -/
theorem handleAll_connected_of_go {s : QuicReceiveControlStream} (hs : s.connected = true)
    (cs : List (Nat × Callback)) (hgo : (handleAll session s cs).2 = true) :
    (handleAll session s cs).1.connected = true := by
  induction cs generalizing s with
  | nil => simpa [handleAll] using hs
  | cons c cs ih =>
    obtain ⟨p, c⟩ := c
    cases c with
    | event e =>
      simp only [handleAll] at hgo ⊢
      split_ifs at hgo ⊢ with hvisit
      obtain ⟨es, hes, -, hopen⟩ := visit_effects_upToClose session hrefuse s e
      exact ih (by simpa [QuicReceiveControlStream.connected, hes, hopen hvisit] using hs) hgo
    | onError => simp [handleAll] at hgo

end

/-- With a session that refuses no stream, once the last call has seen every byte, the stream is in
the state all the report's callbacks give in one go, however the bytes were split. -/
theorem onDataAvailableRun_eq_handleAll (session : Session)
    (hrefuse : ∀ effects id, session.getOrCreateStream effects id ≠ .refused) {report : Report}
    (hwf : report.WellFormed) (base : Nat) (sequencers : List QuicStreamSequencer)
    (final : QuicStreamSequencer) (hfinal : base + report.size ≤ final.received) :
    ∃ r, onDataAvailableRun session traceDecoder (sequencers ++ [final]) (init base) base
        (TraceDecoder.start report base) = some r ∧
      r.1 = (handleAll session (init base) (report.callbacks base)).1 := by
  obtain ⟨r, h, pre, rest, hcbs, hs, hdone⟩ :=
    onDataAvailableRun_handleAll hwf base sequencers final hfinal
  refine ⟨r, h, ?_⟩
  rw [hcbs, handleAll_append, hs]
  cases hgo : (handleAll session (init base) pre).2
  · simp
  · obtain ⟨rfl, -⟩ := hdone (hs ▸ handleAll_connected_of_go session hrefuse (s := init base) rfl pre hgo)
    simp [handleAll]

theorem onDataAvailableRun_eq_handleAll_priority_settings :
    ∃ r, onDataAvailableRun ⟨.isServer, fun _ _ => .found⟩ traceDecoder
        ([⟨3, fun o => o + 1, fun o => Nat.lt_succ_self o⟩] ++
          [⟨8, fun o => o + 8, fun _ => Nat.lt_add_of_pos_right (by decide)⟩]) (init 0) 0
        (TraceDecoder.start ⟨[.priority ⟨2, 2⟩ ⟨1, 16⟩, .settings ⟨2, 2⟩ ⟨[(6, 5)], by decide⟩], none⟩ 0) =
          some r ∧
      r.1 = (handleAll ⟨.isServer, fun _ _ => .found⟩ (init 0)
        (Report.callbacks ⟨[.priority ⟨2, 2⟩ ⟨1, 16⟩, .settings ⟨2, 2⟩ ⟨[(6, 5)], by decide⟩], none⟩ 0)).1 :=
  onDataAvailableRun_eq_handleAll _ (fun _ _ => by simp)
    (by simp [Report.WellFormed, StreamFrame.WellFormed]) 0 _ _ (by decide)

/-! ## The header list limit is set at most once -/

/-- The size a call sets the session's header list limit to: that of
`set_max_outbound_header_list_size`. -/
def SessionEffect.headerListLimit : SessionEffect → Option Nat
  | .setMaxOutboundHeaderListSize size => some size
  | _ => none

/-- The first SETTINGS frame among the frames. -/
def firstSettings (frames : List StreamFrame) : Option SettingsFrame :=
  frames.findSome? fun
    | .settings _ settings => some settings
    | _ => none

/-- The MAX_HEADER_LIST_SIZE value of the first SETTINGS frame, if it has that entry. -/
def firstHeaderListLimit (frames : List StreamFrame) : Option Nat :=
  (firstSettings frames).bind fun settings =>
    (settings.values.find? fun entry => entry.1 = kSettingsMaxHeaderListSize).map Prod.snd

theorem firstHeaderListLimit_cons {f : StreamFrame} (hf : f.isSettings = false)
    (frames : List StreamFrame) : firstHeaderListLimit (f :: frames) = firstHeaderListLimit frames := by
  have hskip : firstSettings (f :: frames) = firstSettings frames := by
    cases f
    case settings => simp [StreamFrame.isSettings] at hf
    all_goals rfl
  rw [firstHeaderListLimit, firstHeaderListLimit, hskip]

theorem settingsEffects_headerListLimit (settings : SettingsFrame) :
    (settingsEffects settings).filterMap SessionEffect.headerListLimit =
      ((settings.values.find? fun entry => entry.1 = kSettingsMaxHeaderListSize).map Prod.snd).toList := by
  rw [settingsEffects, filterMap_maxHeaderListSize _ settings.sorted]
  cases settings.values.find? fun entry => entry.1 = kSettingsMaxHeaderListSize <;>
    rfl

/-- The effects of callbacks that stopped early are a prefix of those of all of them. -/
theorem handleAll_effects_extend (session : Session) (s : QuicReceiveControlStream)
    (xs ys : List (Nat × Callback)) :
    (handleAll session s xs).1.effects <+: (handleAll session s (xs ++ ys)).1.effects := by
  rw [handleAll_append]
  split
  · obtain ⟨es, hes⟩ := handleAll_effects session (handleAll session s xs).1 ys
    rw [hes]
    exact List.prefix_append _ _
  · exact List.prefix_refl _

section

variable (session : Session)

/-- A callback other than SETTINGS' Frame sets no header list limit. -/
theorem visit_headerListLimit (s : QuicReceiveControlStream) (event : HttpEvent)
    (hevent : ∀ settings, event ≠ .settingsFrame settings) :
    (visit session s event).1.effects.filterMap SessionEffect.headerListLimit =
      s.effects.filterMap SessionEffect.headerListLimit := by
  rcases visit_effects_cases session s event with h | ⟨_, _, h⟩ | ⟨settings, he, -⟩ | ⟨-, priority, -, h⟩
  · rw [h]
  · simp [h, SessionEffect.headerListLimit]
  · exact absurd he (hevent settings)
  · rw [h, priorityEffects]
    split_ifs <;> simp [SessionEffect.headerListLimit]

/-- A callback other than SETTINGS' Start leaves `received_settings_length_` as it is. -/
theorem visit_receivedSettingsLength (s : QuicReceiveControlStream) (event : HttpEvent)
    (hevent : ∀ frameLengths, event ≠ .settingsFrameStart frameLengths) :
    (visit session s event).1.receivedSettingsLength = s.receivedSettingsLength := by
  cases event with
  | settingsFrameStart frameLengths => exact absurd rfl (hevent frameLengths)
  | priorityFrameStart _ | priorityFrame _ =>
    simp only [visit_priorityFrameStart, visit_priorityFrame, onPriorityFrame_eq]
    split_ifs <;> rfl
  | settingsFrame _ => rw [visit_settingsFrame, onSettingsFrame_eq]
  | _ => rfl

theorem handleAll_headerListLimit (s : QuicReceiveControlStream) (cs : List (Nat × Callback))
    (hcs : ∀ c ∈ cs, ∀ settings, c.2 ≠ .event (.settingsFrame settings)) :
    (handleAll session s cs).1.effects.filterMap SessionEffect.headerListLimit =
      s.effects.filterMap SessionEffect.headerListLimit := by
  induction cs generalizing s with
  | nil => rfl
  | cons c cs ih =>
    obtain ⟨p, c⟩ := c
    cases c with
    | event e =>
      have he := visit_headerListLimit session s e fun settings h =>
        hcs _ (List.mem_cons_self _ _) settings (by rw [h])
      simp only [handleAll]
      split_ifs
      · rw [ih _ fun c hc => hcs c (List.mem_cons_of_mem _ hc), he]
      · exact he
    | onError => simp [handleAll, HttpDecoderVisitor.onError, closeConnection, SessionEffect.headerListLimit]

theorem handleAll_receivedSettingsLength (s : QuicReceiveControlStream) (cs : List (Nat × Callback))
    (hcs : ∀ c ∈ cs, ∀ frameLengths, c.2 ≠ .event (.settingsFrameStart frameLengths)) :
    (handleAll session s cs).1.receivedSettingsLength = s.receivedSettingsLength := by
  induction cs generalizing s with
  | nil => rfl
  | cons c cs ih =>
    obtain ⟨p, c⟩ := c
    cases c with
    | event e =>
      have he := visit_receivedSettingsLength session s e fun l h =>
        hcs _ (List.mem_cons_self _ _) l (by rw [h])
      simp only [handleAll]
      split_ifs
      · rw [ih _ fun c hc => hcs c (List.mem_cons_of_mem _ hc), he]
      · exact he
    | onError => rfl

end

theorem payloadCallbacks_event (event : HttpEvent) (offset : Nat) (chunks : List Nat) :
    ∀ c ∈ payloadCallbacks event offset chunks, c.2 = event := by
  induction chunks generalizing offset with
  | nil => simp [payloadCallbacks]
  | cons chunk chunks ih =>
    intro c hc
    rcases List.mem_cons.1 hc with rfl | hc
    · rfl
    · exact ih _ c hc

/-- A frame other than SETTINGS makes neither of SETTINGS' callbacks. -/
theorem StreamFrame.callbacks_not_settings {f : StreamFrame} (hf : f.isSettings = false)
    (start : Nat) :
    ∀ c ∈ f.callbacks.map (fun c => (start + c.1, Callback.event c.2)),
      (∀ settings, c.2 ≠ .event (.settingsFrame settings)) ∧
        ∀ frameLengths, c.2 ≠ .event (.settingsFrameStart frameLengths) := by
  have hevents : ∀ c ∈ f.callbacks, (∀ settings, c.2 ≠ .settingsFrame settings) ∧
      ∀ frameLengths, c.2 ≠ .settingsFrameStart frameLengths := by
    cases f
    case settings => simp [isSettings] at hf
    case data l chunks | headers l chunks | pushPromise l chunks =>
      intro c hc
      simp only [callbacks, streamed, List.cons_append, List.mem_cons, List.mem_append,
        List.not_mem_nil, or_false] at hc
      rcases hc with rfl | hc | rfl
      · simp
      · rw [payloadCallbacks_event _ _ _ c hc]; simp
      · simp
    all_goals simp [callbacks]
  intro c hc
  obtain ⟨c', hc', rfl⟩ := List.mem_map.1 hc
  obtain ⟨h1, h2⟩ := hevents c' hc'
  exact ⟨fun settings h => h1 settings (Callback.event.inj h), fun l h => h2 l (Callback.event.inj h)⟩

/-- The callbacks of the malformed frame the report may end with include no SETTINGS Frame. -/
theorem framesCallbacks_nil_not_settingsFrame (start : Nat) (malformed : Option Malformed) :
    ∀ c ∈ framesCallbacks start malformed [], ∀ settings, c.2 ≠ .event (.settingsFrame settings) := by
  cases malformed with
  | none => simp [framesCallbacks]
  | some m => cases m <;> simp [framesCallbacks, Malformed.callbacks]

section

variable (session : Session)

/-- The callbacks of a frame other than SETTINGS leave the header list limits and the recorded
SETTINGS length as they were. -/
theorem handleAll_frame_not_settings {f : StreamFrame} (hf : f.isSettings = false) (start : Nat)
    (s : QuicReceiveControlStream) :
    let r := (handleAll session s (f.callbacks.map fun c => (start + c.1, Callback.event c.2))).1
    r.effects.filterMap SessionEffect.headerListLimit =
        s.effects.filterMap SessionEffect.headerListLimit ∧
      r.receivedSettingsLength = s.receivedSettingsLength :=
  ⟨handleAll_headerListLimit session s _ fun c hc => (f.callbacks_not_settings hf start c hc).1,
    handleAll_receivedSettingsLength session s _ fun c hc => (f.callbacks_not_settings hf start c hc).2⟩

/-- After the first SETTINGS frame, no callback of the stream sets the header list limit. -/
theorem handleAll_framesCallbacks_settled (malformed : Option Malformed) (frames : List StreamFrame)
    (start : Nat) {s : QuicReceiveControlStream} (hs : s.receivedSettingsLength ≠ 0) :
    (handleAll session s (framesCallbacks start malformed frames)).1.effects.filterMap
        SessionEffect.headerListLimit = s.effects.filterMap SessionEffect.headerListLimit := by
  induction frames generalizing start s with
  | nil => exact handleAll_headerListLimit session s _ (framesCallbacks_nil_not_settingsFrame start malformed)
  | cons f frames ih =>
    rw [framesCallbacks, handleAll_append]
    cases hf : f.isSettings
    · obtain ⟨hlimit, hrsl⟩ := handleAll_frame_not_settings session hf start s
      split
      · rw [ih _ (by rwa [hrsl]), hlimit]
      · exact hlimit
    · cases f with
      | settings l settings =>
        simp [StreamFrame.callbacks, handleAll, hs, closeConnection, SessionEffect.headerListLimit]
      | _ => simp [StreamFrame.isSettings] at hf

/-- Before the first SETTINGS frame, the callbacks of the stream set the header list limit at most
to the value of that frame's MAX_HEADER_LIST_SIZE entry. -/
theorem handleAll_framesCallbacks_unsettled (malformed : Option Malformed)
    (frames : List StreamFrame) (hwf : ∀ f ∈ frames, f.WellFormed) (start : Nat)
    {s : QuicReceiveControlStream} (hs : s.receivedSettingsLength = 0) :
    (handleAll session s (framesCallbacks start malformed frames)).1.effects.filterMap
        SessionEffect.headerListLimit <+:
      s.effects.filterMap SessionEffect.headerListLimit ++ (firstHeaderListLimit frames).toList := by
  induction frames generalizing start s with
  | nil =>
    rw [handleAll_headerListLimit session s _ (framesCallbacks_nil_not_settingsFrame start malformed)]
    exact List.prefix_append _ _
  | cons f frames ih =>
    rw [framesCallbacks, handleAll_append]
    cases hf : f.isSettings
    · obtain ⟨hlimit, hrsl⟩ := handleAll_frame_not_settings session hf start s
      rw [firstHeaderListLimit_cons hf]
      split
      · rw [← hlimit]
        exact ih (fun f hf => hwf f (List.mem_cons_of_mem _ hf)) _ (by rwa [hrsl])
      · rw [hlimit]
        exact List.prefix_append _ _
    · cases f with
      | settings l settings =>
        have hl : 2 ≤ l.headerLength := hwf _ (List.mem_cons_self _ _)
        -- the frame is read whole: its Start records its length, its Frame applies its entries
        let s' : QuicReceiveControlStream := { s with
          receivedSettingsLength := l.headerLength + l.payloadLength
          numBytesConsumed := s.numBytesConsumed + (l.headerLength + l.payloadLength)
          effects := s.effects ++ settingsEffects settings }
        have hframe : handleAll session s ((StreamFrame.settings l settings).callbacks.map
            fun c => (start + c.1, Callback.event c.2)) = (s', true) := by
          simp [s', StreamFrame.callbacks, handleAll, hs, onSettingsFrame_eq, settingsEffects]
        rw [hframe, if_pos rfl, handleAll_framesCallbacks_settled session malformed frames _ (s := s')
          (by simp [s']; omega), List.filterMap_append, settingsEffects_headerListLimit]
        exact List.prefix_refl _
      | _ => simp [StreamFrame.isSettings] at hf

end

/-- Over any run, the session's header list limit is set at most once, to the MAX_HEADER_LIST_SIZE
value of the first SETTINGS frame. -/
theorem onDataAvailableRun_headerListLimit (session : Session) {report : Report}
    (hwf : report.WellFormed) (base : Nat) (sequencers : List QuicStreamSequencer) :
    ∃ r, onDataAvailableRun session traceDecoder sequencers (init base) base
        (TraceDecoder.start report base) = some r ∧
      r.1.effects.filterMap SessionEffect.headerListLimit <+:
        (firstHeaderListLimit report.frames).toList := by
  obtain ⟨r, h⟩ := onDataAvailableRun_isSome traceDecoder traceDecoder_keepsContract sequencers
    (init base) base (TraceDecoder.start report base)
  obtain ⟨pre, hcbs, hs, -⟩ := ((TraceState.start hwf base).run sequencers h).delivered
  refine ⟨r, h, ?_⟩
  have hwhole := handleAll_framesCallbacks_unsettled session report.malformed report.frames hwf.1
    base (s := init base) rfl
  rw [hs]
  refine ((handleAll_effects_extend session (init base) pre r.2.2.pending).filterMap _).trans ?_
  rw [← hcbs]
  simpa [init] using hwhole

theorem onDataAvailableRun_headerListLimit_settings_twice :
    ∃ r, onDataAvailableRun ⟨.isServer, fun _ _ => .refused⟩ traceDecoder
        [⟨8, fun o => o + 8, fun _ => Nat.lt_add_of_pos_right (by decide)⟩] (init 0) 0
        (TraceDecoder.start ⟨[.settings ⟨2, 2⟩ ⟨[(6, 5)], by decide⟩,
          .settings ⟨2, 2⟩ ⟨[(6, 7)], by decide⟩], none⟩ 0) = some r ∧
      r.1.effects.filterMap SessionEffect.headerListLimit <+:
        (firstHeaderListLimit [.settings ⟨2, 2⟩ ⟨[(6, 5)], by decide⟩,
          .settings ⟨2, 2⟩ ⟨[(6, 7)], by decide⟩]).toList :=
  onDataAvailableRun_headerListLimit _ (by simp [Report.WellFormed, StreamFrame.WellFormed]) 0 _

end QuicHttp3
