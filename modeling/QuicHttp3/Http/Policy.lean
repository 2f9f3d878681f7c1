import QuicHttp3.Http.TraceRun

/-!
# The frame policy of the control stream

The spec's table (§4.4) as a function of the frames alone (`referencePolicy`): the first SETTINGS
frame sets the session's outbound header list limit when it carries `MAX_HEADER_LIST_SIZE` and
does nothing else, a second closes the connection; a PRIORITY frame closes the connection at a
client, and at a server looks the stream up and sets its priority when there is one; every other
known frame closes the connection with its name; unknown and reserved frames do nothing; a
malformed frame closes the connection with the decoder's error, after what its Start calls for.
No lengths, no pauses, no consumption and no fragmentation appear in it.

`handleAll_frames` says that the coordinator's callbacks over a report show the session exactly
the policy's calls up to the first that closes the connection, and
`onDataAvailableRun_refines_referencePolicy` puts it together with the run of `OnDataAvailable`
calls: for either perspective, any session, any report a decoder can make, any sequence of calls
and any block layout, the session sees the policy's calls up to the first close.
-/

namespace QuicHttp3

/-- What the policy remembers: whether a SETTINGS frame has been seen, and the calls made on the
session so far. -/
structure PolicyState where
  settingsSeen : Bool
  effects : List SessionEffect

namespace PolicyState

def close (p : PolicyState) (error : QuicErrorCode) (details : String) : PolicyState :=
  { p with effects := p.effects ++ [.closeConnection error details] }

end PolicyState

/-- The close a frame that has no place on the control stream calls for. -/
def wrongFrameDetails (name : String) : String := name ++ " frame received on control stream"

/-- The calls on the session the spec's table asks for on a frame. -/
def policyFrame (session : Session) (p : PolicyState) : StreamFrame → PolicyState
  | .settings _ frame =>
    if p.settingsSeen then p.close .quicInvalidStreamId "Settings frames are received twice."
    else
      ⟨true, p.effects ++ ((frame.values.find? fun entry => entry.1 = kSettingsMaxHeaderListSize).map
        fun entry => SessionEffect.setMaxOutboundHeaderListSize entry.2).toList⟩
  | .priority _ frame =>
    match session.perspective with
    | .isClient => p.close .quicHttpDecoderError "Server must not send Priority frames."
    | .isServer =>
      let id := frame.prioritizedElementId
      let stream := session.getOrCreateStream p.effects id
      { p with effects := p.effects ++ .getOrCreateStream id stream ::
        if stream = .found then [.setPriority id frame.weight] else [] }
  | .cancelPush _ => p.close .quicHttpDecoderError (wrongFrameDetails "Cancel Push")
  | .maxPushId _ => p.close .quicHttpDecoderError (wrongFrameDetails "Max Push Id")
  | .goAway _ => p.close .quicHttpDecoderError (wrongFrameDetails "Goaway")
  | .duplicatePush _ => p.close .quicHttpDecoderError (wrongFrameDetails "Duplicate Push")
  | .data _ _ => p.close .quicHttpDecoderError (wrongFrameDetails "Data")
  | .headers _ _ => p.close .quicHttpDecoderError (wrongFrameDetails "Headers")
  | .pushPromise _ _ => p.close .quicHttpDecoderError (wrongFrameDetails "Push Promise")
  | .unknown _ => p

/-- A malformed frame: what its Start calls for, then the close for the decoder's error. -/
def policyMalformed (session : Session) (p : PolicyState) : Malformed → PolicyState
  | .frameHeader _ => p.close .quicHttpDecoderError "Http decoder internal error"
  | .priorityPayload _ _ =>
    match session.perspective with
    | .isClient => p.close .quicHttpDecoderError "Server must not send Priority frames."
    | .isServer => p.close .quicHttpDecoderError "Http decoder internal error"
  | .settingsPayload _ _ =>
    if p.settingsSeen then p.close .quicInvalidStreamId "Settings frames are received twice."
    else p.close .quicHttpDecoderError "Http decoder internal error"

/-- The policy over frames, then the malformed frame. -/
def policyFrames (session : Session) (malformed : Option Malformed) :
    PolicyState → List StreamFrame → PolicyState
  | p, [] => (malformed.map (policyMalformed session p)).getD p
  | p, f :: fs => policyFrames session malformed (policyFrame session p f) fs

/-- The calls on the session the spec's policy asks for on a report. -/
def referencePolicy (session : Session) (report : Report) : List SessionEffect :=
  (policyFrames session report.malformed ⟨false, []⟩ report.frames).effects

/-! ## The coordinator follows the policy -/

section

open QuicReceiveControlStream HttpDecoderVisitor

theorem filterMap_maxHeaderListSize (values : List (Nat × Nat))
    (h : values.Pairwise fun a b => a.1 < b.1) :
    (values.filterMap fun entry =>
      if entry.1 = kSettingsMaxHeaderListSize then some (.setMaxOutboundHeaderListSize entry.2)
      else none) =
      ((values.find? fun entry => entry.1 = kSettingsMaxHeaderListSize).map
        fun entry => SessionEffect.setMaxOutboundHeaderListSize entry.2).toList := by
  induction values with
  | nil => rfl
  | cons entry values ih =>
    rw [List.pairwise_cons] at h
    by_cases hkey : entry.1 = kSettingsMaxHeaderListSize
    · -- the entries after it have larger identifiers
      have hafter : ∀ e ∈ values, e.1 ≠ kSettingsMaxHeaderListSize := fun e he => by
        have := h.1 e he; omega
      simp +contextual [List.filterMap_cons, hkey, List.filterMap_eq_nil_iff, hafter]
    · simp [List.filterMap_cons, hkey, ih h.2]

theorem policyFrame_effects (session : Session) (p : PolicyState) (f : StreamFrame) :
    ∃ es, (policyFrame session p f).effects = p.effects ++ es := by
  cases f <;> simp only [policyFrame, PolicyState.close]
  case settings => split_ifs <;> exact ⟨_, rfl⟩
  case priority => split <;> exact ⟨_, rfl⟩
  case unknown => exact ⟨[], by simp⟩
  all_goals exact ⟨_, rfl⟩

theorem policyMalformed_effects (session : Session) (p : PolicyState) (m : Malformed) :
    ∃ es, (policyMalformed session p m).effects = p.effects ++ es := by
  cases m <;> simp only [policyMalformed, PolicyState.close]
  case priorityPayload => split <;> exact ⟨_, rfl⟩
  case settingsPayload => split_ifs <;> exact ⟨_, rfl⟩
  all_goals exact ⟨_, rfl⟩

theorem policyFrames_effects (session : Session) (malformed : Option Malformed) (p : PolicyState)
    (frames : List StreamFrame) :
    ∃ es, (policyFrames session malformed p frames).effects = p.effects ++ es := by
  induction frames generalizing p with
  | nil =>
    cases malformed with
    | none => exact ⟨[], by simp [policyFrames]⟩
    | some m => exact policyMalformed_effects session p m
  | cons f frames ih =>
    obtain ⟨es, hes⟩ := policyFrame_effects session p f
    obtain ⟨es', hes'⟩ := ih (policyFrame session p f)
    exact ⟨es ++ es', by rw [policyFrames, hes', hes, List.append_assoc]⟩

variable (session : Session)

/-- The callbacks of one frame show the session the policy's calls for it, and, when they do not
stop, leave the coordinator knowing of a SETTINGS frame exactly when the policy does. -/
theorem handleAll_frame {f : StreamFrame} (hwf : f.WellFormed) (start : Nat)
    {s : QuicReceiveControlStream} {p : PolicyState} (heffects : s.effects = p.effects)
    (hseen : s.receivedSettingsLength = 0 ↔ p.settingsSeen = false) :
    (handleAll session s (f.callbacks.map fun c => (start + c.1, Callback.event c.2))).1.effects =
        (policyFrame session p f).effects ∧
      ((handleAll session s (f.callbacks.map fun c => (start + c.1, Callback.event c.2))).2 = true →
        ((handleAll session s (f.callbacks.map fun c => (start + c.1, Callback.event c.2))).1.receivedSettingsLength = 0 ↔
          (policyFrame session p f).settingsSeen = false)) := by
  cases f with
  | settings l frame =>
    simp only [StreamFrame.WellFormed] at hwf
    by_cases hrsl : s.receivedSettingsLength = 0
    · have hp : p.settingsSeen = false := hseen.1 hrsl
      simp [StreamFrame.callbacks, handleAll, onSettingsFrame_eq, policyFrame, hrsl, hp, heffects,
        filterMap_maxHeaderListSize _ frame.sorted]
      omega
    · have hp : p.settingsSeen = true := by simpa [hrsl] using hseen
      simp [StreamFrame.callbacks, handleAll, policyFrame, hrsl, hp, heffects, PolicyState.close,
        closeConnection]
  | priority l frame =>
    cases hpersp : session.perspective
    · simp [StreamFrame.callbacks, handleAll, policyFrame, hpersp, heffects, PolicyState.close,
        closeConnection]
    · simp [StreamFrame.callbacks, handleAll, onPriorityFrame_eq, policyFrame, hpersp, heffects,
        hseen]
  | unknown n => simp [StreamFrame.callbacks, handleAll, policyFrame, heffects, hseen]
  | _ => exact ⟨congrArg (· ++ _) heffects, nofun⟩

/-- The callbacks of a malformed frame show the session the policy's calls for it. -/
theorem handleAll_malformed {m : Malformed} (start : Nat) {s : QuicReceiveControlStream}
    {p : PolicyState} (heffects : s.effects = p.effects)
    (hseen : s.receivedSettingsLength = 0 ↔ p.settingsSeen = false) :
    (handleAll session s (m.callbacks.map fun c => (start + c.1, c.2))).1.effects =
      (policyMalformed session p m).effects := by
  cases m with
  | frameHeader => simp [Malformed.callbacks, handleAll, HttpDecoderVisitor.onError,
      policyMalformed, PolicyState.close, closeConnection, heffects]
  | priorityPayload l =>
    cases hpersp : session.perspective <;>
      simp [Malformed.callbacks, handleAll, HttpDecoderVisitor.onError, policyMalformed, hpersp,
        PolicyState.close, closeConnection, heffects]
  | settingsPayload l =>
    by_cases hrsl : s.receivedSettingsLength = 0
    · simp [Malformed.callbacks, handleAll, HttpDecoderVisitor.onError, policyMalformed, hrsl,
        hseen.1 hrsl, PolicyState.close, closeConnection, heffects]
    · have hp : p.settingsSeen = true := by simpa [hrsl] using hseen
      simp [Malformed.callbacks, handleAll, policyMalformed, hrsl, hp, PolicyState.close,
        closeConnection, heffects]

/-- Up to the first close, the coordinator's callbacks over frames laid out from `start` show the
session the policy's calls. -/
theorem handleAll_frames (malformed : Option Malformed) (frames : List StreamFrame) (hwf : ∀ f ∈ frames, f.WellFormed) (start : Nat)
    {s : QuicReceiveControlStream} {p : PolicyState} (heffects : s.effects = p.effects)
    (hseen : s.receivedSettingsLength = 0 ↔ p.settingsSeen = false) :
    upToClose (handleAll session s (framesCallbacks start malformed frames)).1.effects =
      upToClose (policyFrames session malformed p frames).effects := by
  induction frames generalizing start s p with
  | nil =>
    cases malformed with
    | none => simp [framesCallbacks, handleAll, policyFrames, heffects]
    | some m =>
      simp only [framesCallbacks, Option.map_some', Option.getD_some, policyFrames]
      rw [handleAll_malformed session start heffects hseen]
  | cons f frames ih =>
    obtain ⟨heffects', hseen'⟩ := handleAll_frame session (hwf f (List.mem_cons_self _ _)) start
      heffects hseen
    rw [framesCallbacks, handleAll_append, policyFrames]
    split
    · exact ih (fun f hf => hwf f (List.mem_cons_of_mem _ hf)) _ heffects' (hseen' ‹_›)
    · rename_i hstop
      obtain ⟨es, hes⟩ := policyFrames_effects session malformed (policyFrame session p f) frames
      have hclosed := handleAll_stopped session s _ (by simpa using hstop)
      rw [hes, ← heffects', upToClose_append_of_closed hclosed]

end

open QuicReceiveControlStream in
/-- Once the last `OnDataAvailable` call has seen every byte, the calls on the session up to the
first close are those of the spec's policy. -/
theorem onDataAvailableRun_refines_referencePolicy (session : Session) {report : Report}
    (hwf : report.WellFormed) (base : Nat) (sequencers : List QuicStreamSequencer)
    (final : QuicStreamSequencer) (hfinal : base + report.size ≤ final.received) :
    ∃ r, onDataAvailableRun session traceDecoder (sequencers ++ [final]) (init base) base
        (TraceDecoder.start report base) = some r ∧
      upToClose r.1.effects = upToClose (referencePolicy session report) := by
  obtain ⟨r, h, heq⟩ := onDataAvailableRun_upToClose hwf base sequencers final hfinal
  exact ⟨r, h, heq.trans (handleAll_frames session report.malformed report.frames hwf.1 base rfl
    (by simp [init]))⟩

open QuicReceiveControlStream in
theorem onDataAvailableRun_refines_referencePolicy_settings :
    ∃ r, onDataAvailableRun ⟨.isClient, fun _ _ => .notFound⟩ traceDecoder
        ([] ++ [⟨4, fun o => o + 1, fun o => Nat.lt_succ_self o⟩]) (init 0) 0
        (TraceDecoder.start ⟨[.settings ⟨2, 2⟩ ⟨[(6, 5)], by decide⟩], none⟩ 0) = some r ∧
      upToClose r.1.effects = upToClose (referencePolicy ⟨.isClient, fun _ _ => .notFound⟩
        ⟨[.settings ⟨2, 2⟩ ⟨[(6, 5)], by decide⟩], none⟩) :=
  onDataAvailableRun_refines_referencePolicy _ (by simp [Report.WellFormed, StreamFrame.WellFormed])
    0 [] _ (by decide)

end QuicHttp3
