import QuicHttp3.Http.Termination

/-!
# The control stream driven by a decoder that reports a given stream

For the decoder `traceDecoder` that reports a `Report`, the callbacks the coordinator receives over
any sequence of `OnDataAvailable` calls, with any block layout of the sequencer, are those of
`handleAll`: the report's callbacks in order, up to the first that returns false or reports an
error. `drive_deliver` says what one `ProcessInput` call does; `TraceState` is the invariant of the
run (the coordinator is `handleAll` of the callbacks delivered so far, and the decoder waits at
`sequencer_offset_` with the others, all beyond it while the connection is open); `TraceState.loop`
and `TraceState.run` carry it through the loop and the calls. When the last call sees every byte,
the whole report has been delivered unless the connection was closed
(`onDataAvailableRun_handleAll`), so up to the first close the session sees what `handleAll` of the
whole report shows it (`onDataAvailableRun_upToClose`).

Every close the coordinator makes itself comes with a false, so with a session that refuses no
stream nothing is called on the session after the first close (`onDataAvailableRun_nothing_after_close`).
A callback that closes the connection and still returns true does not stop the decoder:
`onDataAvailable_after_refused_priority` is a stream on which the coordinator applies SETTINGS
after the session has closed the connection.
-/

namespace QuicHttp3

open QuicReceiveControlStream HttpDecoderVisitor

variable (session : Session)

/-- The callbacks made in order without pauses, up to the first that returns false and the first
`OnError`: the coordinator after them, and whether none of them stopped the run. -/
def handleAll : QuicReceiveControlStream → List (Nat × Callback) → QuicReceiveControlStream × Bool
  | s, [] => (s, true)
  | s, (_, .event e) :: cs =>
    if (visit session s e).2 then handleAll (visit session s e).1 cs else ((visit session s e).1, false)
  | s, (_, .onError) :: _ => (onError s, false)

theorem handleAll_append (s : QuicReceiveControlStream) (xs ys : List (Nat × Callback)) :
    handleAll session s (xs ++ ys) =
      if (handleAll session s xs).2 then handleAll session (handleAll session s xs).1 ys
      else handleAll session s xs := by
  induction xs generalizing s with
  | nil => simp [handleAll]
  | cons c xs ih =>
    obtain ⟨p, c⟩ := c
    cases c with
    | event e =>
      simp only [List.cons_append, handleAll]
      split_ifs <;> simp_all
    | onError => simp [handleAll]

/-- A run of callbacks that stopped has closed the connection. -/
theorem handleAll_stopped (s : QuicReceiveControlStream) (cs : List (Nat × Callback))
    (h : (handleAll session s cs).2 = false) : (handleAll session s cs).1.connected = false := by
  induction cs generalizing s with
  | nil => simp [handleAll] at h
  | cons c cs ih =>
    obtain ⟨p, c⟩ := c
    cases c with
    | event e =>
      simp only [handleAll] at h ⊢
      split_ifs at h ⊢ with hgo
      · exact ih _ h
      · exact visit_false session s e (by simpa using hgo)
    | onError => simp [handleAll, HttpDecoderVisitor.onError]

/-- A run of callbacks that leaves the connection open did not stop. -/
theorem handleAll_go (s : QuicReceiveControlStream) (cs : List (Nat × Callback))
    (h : (handleAll session s cs).1.connected = true) : (handleAll session s cs).2 = true := by
  by_contra hstop
  simp [handleAll_stopped session s cs (by simpa using hstop)] at h

theorem handleAll_effects (s : QuicReceiveControlStream) (cs : List (Nat × Callback)) :
    ∃ es, (handleAll session s cs).1.effects = s.effects ++ es := by
  induction cs generalizing s with
  | nil => exact ⟨[], by simp [handleAll]⟩
  | cons c cs ih =>
    obtain ⟨p, c⟩ := c
    cases c with
    | event e =>
      obtain ⟨es, hes⟩ := visit_effects session s e
      simp only [handleAll]
      split_ifs
      · obtain ⟨es', hes'⟩ := ih (visit session s e).1
        exact ⟨es ++ es', by rw [hes', hes, List.append_assoc]⟩
      · exact ⟨es, hes⟩
    | onError => exact ⟨_, rfl⟩

/-- A connection open after callbacks was open after every prefix of them. -/
theorem handleAll_connected_of_append (s : QuicReceiveControlStream) (xs ys : List (Nat × Callback))
    (h : (handleAll session s (xs ++ ys)).1.connected = true) :
    (handleAll session s xs).1.connected = true := by
  rw [handleAll_append] at h
  split at h
  · obtain ⟨es, hes⟩ := handleAll_effects session (handleAll session s xs).1 ys
    simp only [QuicReceiveControlStream.connected, hes, connectedAfter_append,
      Bool.and_eq_true] at h
    exact h.1
  · exact h

/-- `P` holds at each callback `handleAll` makes, of the coordinator before it and the position
the callback is made at. -/
def AllCallbacks (P : QuicReceiveControlStream → Nat → Callback → Prop) :
    QuicReceiveControlStream → List (Nat × Callback) → Prop
  | _, [] => True
  | s, (p, .event e) :: cs =>
    P s p (.event e) ∧ ((visit session s e).2 = true → AllCallbacks P (visit session s e).1 cs)
  | s, (p, .onError) :: _ => P s p .onError

theorem allCallbacks_append (P : QuicReceiveControlStream → Nat → Callback → Prop)
    (s : QuicReceiveControlStream) (xs ys : List (Nat × Callback)) :
    AllCallbacks session P s (xs ++ ys) ↔ AllCallbacks session P s xs ∧
      ((handleAll session s xs).2 = true → AllCallbacks session P (handleAll session s xs).1 ys) := by
  induction xs generalizing s with
  | nil => simp [AllCallbacks, handleAll]
  | cons c xs ih =>
    obtain ⟨p, c⟩ := c
    cases c with
    | event e =>
      simp only [List.cons_append, AllCallbacks, handleAll]
      split_ifs with hgo <;> simp_all [and_assoc]
    | onError => simp [AllCallbacks, handleAll]

/-- `P` holds at each callback a `ProcessInput` call makes. -/
def DriveOk {D : Type} (P : QuicReceiveControlStream → Nat → Callback → Prop) :
    QuicReceiveControlStream → Interaction D → Prop
  | s, .call p e next => P s p (.event e) ∧ DriveOk P (visit session s e).1 (next (visit session s e).2)
  | s, .onError p next => P s p .onError ∧ DriveOk P (onError s) next
  | _, .done _ _ => True

/-- One `ProcessInput` call makes, as `handleAll` does, the pending callbacks due by `limit` up
to the first that stops it, and the decoder waits at the stop. -/
theorem drive_deliver (s : QuicReceiveControlStream) (d : TraceDecoder) (limit low : Nat)
    (pending : List (Nat × Callback)) (hsorted : pending.Pairwise fun a b => a.1 ≤ b.1)
    (hlow : ∀ c ∈ pending, low ≤ c.1) (hlimit : low ≤ limit) (hpos : d.position ≤ low) :
    ∃ pre s' processed d', drive session s (d.deliver limit pending) = (s', processed, d') ∧
      pending = pre ++ d'.pending ∧ s' = (handleAll session s pre).1 ∧
      d'.position = d.position + processed ∧ low ≤ d'.position ∧ (∀ c ∈ pre, c.1 ≤ d'.position) ∧
      ((handleAll session s pre).2 = true →
        d'.position = limit ∧ d'.error = d.error ∧ ∀ c ∈ d'.pending.head?, limit < c.1) := by
  induction pending generalizing s low with
  | nil =>
    refine ⟨[], s, _, _, rfl, rfl, rfl, ?_, ?_, by simp, fun _ => ⟨rfl, rfl, by simp⟩⟩ <;> simp <;> omega
  | cons c rest ih =>
    obtain ⟨p, c⟩ := c
    rw [List.pairwise_cons] at hsorted
    have hp : low ≤ p := hlow _ (List.mem_cons_self _ _)
    unfold TraceDecoder.deliver
    split_ifs with hlate
    · refine ⟨[], s, _, _, rfl, rfl, rfl, ?_, ?_, by simp, fun _ => ⟨rfl, rfl, by simpa using hlate⟩⟩ <;>
        simp <;> omega
    · cases c with
      | event e =>
        simp only [drive]
        cases hgo : (visit session s e).2
        · refine ⟨[(p, .event e)], _, _, _, rfl, rfl, by simp [handleAll, hgo], ?_, hp, ?_, ?_⟩
          · simp; omega
          · simp
          · simp [handleAll, hgo]
        · obtain ⟨pre, s', processed, d', h, hrest, hs', hd', hlow', hpre, hdone⟩ :=
            ih (visit session s e).1 p hsorted.2 (fun c hc => hsorted.1 c hc) (by omega) (by omega)
          refine ⟨(p, .event e) :: pre, s', processed, d', by simpa using h, by simp [hrest],
            by simp [handleAll, hgo, hs'], hd', by omega, List.forall_mem_cons.2 ⟨hlow', hpre⟩,
            by simpa [handleAll, hgo] using hdone⟩
      | onError =>
        refine ⟨[(p, .onError)], _, _, _, rfl, rfl, rfl, ?_, hp, ?_, by simp [handleAll]⟩
        · simp; omega
        · simp

theorem handleAll_readingStopped (s : QuicReceiveControlStream) (cs : List (Nat × Callback)) :
    (handleAll session s cs).1.readingStopped = s.readingStopped := by
  induction cs generalizing s with
  | nil => rfl
  | cons c cs ih =>
    obtain ⟨p, c⟩ := c
    cases c with
    | event e =>
      simp only [handleAll]
      split_ifs
      · rw [ih, visit_readingStopped]
      · exact visit_readingStopped session s e
    | onError => rfl

/-- The coordinator is `handleAll` of the callbacks of `cbs` delivered so far, and the decoder
waits at `sequencer_offset_` with the others, all beyond it while the connection is open. -/
structure TraceState (s₀ : QuicReceiveControlStream) (cbs : List (Nat × Callback))
    (s : QuicReceiveControlStream) (offset : Nat) (d : TraceDecoder) : Prop where
  offset_eq : offset = d.position
  delivered : ∃ pre, cbs = pre ++ d.pending ∧ s = (handleAll session s₀ pre).1 ∧ ∀ c ∈ pre, c.1 ≤ offset
  inOrder : InOrder d.pending
  ahead : s.connected = true → ∀ c ∈ d.pending, offset < c.1
  error : d.error = true → s.connected = false
  readingStopped : s.readingStopped = false
  start_le : s₀.numBytesConsumed ≤ offset

theorem inOrder_ahead {limit : Nat} {c : Nat × Callback} {rest : List (Nat × Callback)}
    (h : InOrder (c :: rest)) (hc : limit < c.1) : ∀ c' ∈ c :: rest, limit < c'.1 := by
  intro c' hc'
  rcases List.mem_cons.1 hc' with rfl | hc'
  · exact hc
  · exact Nat.lt_of_lt_of_le hc (List.rel_of_pairwise_cons h hc')

variable {session} {s₀ : QuicReceiveControlStream} {cbs : List (Nat × Callback)}

/-- One turn of the loop keeps the run's invariant. -/
theorem TraceState.drive {s : QuicReceiveControlStream} {offset : Nat} {d : TraceDecoder}
    (hJ : TraceState session s₀ cbs s offset d) (hconnected : s.connected = true)
    (herror : d.error = false) (length : Nat) :
    TraceState session s₀ cbs (drive session s (traceDecoder.processInput d length)).1
      (offset + (drive session s (traceDecoder.processInput d length)).2.1)
      (drive session s (traceDecoder.processInput d length)).2.2 := by
  obtain ⟨hoffset, ⟨pre, hcbs, hs, hpre⟩, hsorted, hahead, -, hreading, hstart⟩ := hJ
  obtain ⟨pre', s', processed, d', h, hrest, hs', hd', hlow, hpre', hdone⟩ :=
    drive_deliver session s d (d.position + length) d.position d.pending hsorted
      (fun c hc => Nat.le_of_lt (hoffset ▸ hahead hconnected c hc)) (by omega) le_rfl
  have hgo := handleAll_go session s₀ pre (hs ▸ hconnected)
  simp only [traceDecoder, TraceDecoder.processInput, h]
  have hsorted' : InOrder d'.pending := (List.pairwise_append.1 (hrest ▸ hsorted)).2.1
  -- a run of callbacks that did not stop leaves the decoder's error as it was, and the decoder at
  -- the end of the region, before every callback still to come
  have hcont (hgo' : (handleAll session s pre').2 = true) :
      d'.error = d.error ∧ ∀ c ∈ d'.pending, d'.position < c.1 := by
    obtain ⟨hpos, herr, hhead⟩ := hdone hgo'
    refine ⟨herr, ?_⟩
    cases hp : d'.pending with
    | nil => simp
    | cons c rest =>
      rw [hp] at hsorted' hhead
      exact hpos ▸ inOrder_ahead hsorted' (hhead c rfl)
  refine ⟨by omega, ⟨pre ++ pre', by rw [hcbs, hrest, List.append_assoc], ?_, ?_⟩, hsorted', ?_, ?_,
    ?_, ?_⟩
  · rw [hs', hs, handleAll_append, if_pos hgo]
  · intro c hc
    rcases List.mem_append.1 hc with hc | hc
    · exact Nat.le_trans (hpre c hc) (by omega)
    · exact Nat.le_trans (hpre' c hc) (by omega)
  · intro hconnected' c hc
    have := (hcont (handleAll_go session s pre' (hs' ▸ hconnected'))).2 c hc
    omega
  · intro herror'
    by_cases hgo' : (handleAll session s pre').2 = true
    · simp [(hcont hgo').1, herror] at herror'
    · exact hs' ▸ handleAll_stopped session s pre' (by simpa using hgo')
  · rw [hs', handleAll_readingStopped, hreading]
  · omega

/-- The loop keeps the run's invariant, and leaves an open connection only at the end of the
received bytes. -/
theorem TraceState.loop (sequencer : QuicStreamSequencer) (fuel : Nat)
    {s : QuicReceiveControlStream} {offset : Nat} {d : TraceDecoder}
    (hJ : TraceState session s₀ cbs s offset d) {r : QuicReceiveControlStream × Nat × TraceDecoder}
    (h : onDataAvailableLoop session traceDecoder sequencer fuel s offset d = some r) :
    TraceState session s₀ cbs r.1 r.2.1 r.2.2 ∧ (r.1.connected = true → sequencer.received ≤ r.2.1) := by
  induction fuel generalizing s offset d with
  | zero => simp [onDataAvailableLoop] at h
  | succ fuel ih =>
    unfold onDataAvailableLoop at h
    split_ifs at h with hguard
    · obtain ⟨hconnected, -, herror⟩ := hguard
      unfold QuicStreamSequencer.peekRegion at h
      split_ifs at h with hpeek
      · exact ih (hJ.drive hconnected herror _) h
      · cases h
        exact ⟨hJ, fun _ => Nat.le_of_not_lt hpeek⟩
    · cases h
      refine ⟨hJ, fun hconnected => absurd ⟨hconnected, hJ.readingStopped, ?_⟩ hguard⟩
      show d.error = false
      cases herror : d.error
      · rfl
      · simp [hJ.error herror] at hconnected

theorem TraceState.run (sequencers : List QuicStreamSequencer) {s : QuicReceiveControlStream}
    {offset : Nat} {d : TraceDecoder} (hJ : TraceState session s₀ cbs s offset d)
    {r : QuicReceiveControlStream × Nat × TraceDecoder}
    (h : onDataAvailableRun session traceDecoder sequencers s offset d = some r) :
    TraceState session s₀ cbs r.1 r.2.1 r.2.2 := by
  induction sequencers generalizing s offset d with
  | nil => cases h; exact hJ
  | cons sequencer sequencers ih =>
    simp only [onDataAvailableRun, Option.bind_eq_some] at h
    obtain ⟨r', h', hrun⟩ := h
    exact ih (hJ.loop sequencer _ h').1 hrun

theorem TraceState.start {report : Report} (hwf : report.WellFormed) (base : Nat) :
    TraceState session (init base) (report.callbacks base) (init base) base
      (TraceDecoder.start report base) where
  offset_eq := rfl
  delivered := ⟨[], rfl, rfl, by simp⟩
  inOrder := report.callbacks_inOrder hwf base
  ahead := fun _ c hc => (report.callbacks_bounds hwf base c hc).1
  error := by simp [TraceDecoder.start]
  readingStopped := rfl
  start_le := le_rfl

theorem onDataAvailableRun_isSome {D : Type} (decoder : HttpDecoder D)
    (hdecoder : decoder.KeepsContract) (sequencers : List QuicStreamSequencer)
    (s : QuicReceiveControlStream) (offset : Nat) (d : D) :
    ∃ r, onDataAvailableRun session decoder sequencers s offset d = some r := by
  induction sequencers generalizing s offset d with
  | nil => exact ⟨_, rfl⟩
  | cons sequencer sequencers ih =>
    obtain ⟨r, hr⟩ := onDataAvailableLoop_isSome session decoder sequencer hdecoder
      (sequencer.received + 1) s offset d (by omega)
    obtain ⟨r', hr'⟩ := ih r.1 r.2.1 r.2.2
    exact ⟨r', by simp only [onDataAvailableRun, onDataAvailable, hr, Option.some_bind, hr']⟩

theorem onDataAvailableRun_snoc {D : Type} (decoder : HttpDecoder D)
    (sequencers : List QuicStreamSequencer) (final : QuicStreamSequencer)
    (s : QuicReceiveControlStream) (offset : Nat) (d : D) :
    onDataAvailableRun session decoder (sequencers ++ [final]) s offset d =
      (onDataAvailableRun session decoder sequencers s offset d).bind fun r =>
        onDataAvailable session decoder final r.1 r.2.1 r.2.2 := by
  induction sequencers generalizing s offset d with
  | nil =>
    simp only [List.nil_append, onDataAvailableRun, Option.some_bind]
    cases onDataAvailable session decoder final s offset d <;> rfl
  | cons sequencer sequencers ih =>
    rw [List.cons_append]
    simp only [onDataAvailableRun, Option.bind_assoc]
    congr 1
    funext r
    exact ih _ _ _

/-- A run whose last call sees every byte makes, as `handleAll` does, the callbacks of a prefix
of the report, and all of them while the connection stays open. -/
theorem onDataAvailableRun_handleAll {report : Report} (hwf : report.WellFormed) (base : Nat)
    (sequencers : List QuicStreamSequencer) (final : QuicStreamSequencer)
    (hfinal : base + report.size ≤ final.received) :
    ∃ r, onDataAvailableRun session traceDecoder (sequencers ++ [final]) (init base) base
        (TraceDecoder.start report base) = some r ∧
      ∃ pre rest, report.callbacks base = pre ++ rest ∧ r.1 = (handleAll session (init base) pre).1 ∧
        (r.1.connected = true → rest = [] ∧ final.received ≤ r.2.1) := by
  obtain ⟨r₁, h₁⟩ := onDataAvailableRun_isSome traceDecoder traceDecoder_keepsContract sequencers
    (init base) base (TraceDecoder.start report base)
  obtain ⟨r, h⟩ := onDataAvailableLoop_isSome session traceDecoder final traceDecoder_keepsContract
    (final.received + 1) r₁.1 r₁.2.1 r₁.2.2 (by omega)
  obtain ⟨hJ, hend⟩ := ((TraceState.start hwf base).run sequencers h₁).loop final _ h
  obtain ⟨pre, hcbs, hs, -⟩ := hJ.delivered
  refine ⟨r, by simp only [onDataAvailableRun_snoc, h₁, Option.some_bind, onDataAvailable, h],
    pre, r.2.2.pending, hcbs, hs, fun hconnected => ⟨?_, hend hconnected⟩⟩
  refine List.eq_nil_iff_forall_not_mem.2 fun c hc => ?_
  have h1 := hJ.ahead hconnected c hc
  have h2 := (report.callbacks_bounds hwf base c (hcbs ▸ List.mem_append_right pre hc)).2
  have h3 := hend hconnected
  omega

/-- Up to the first close, the run shows the session what `handleAll` of the whole report does. -/
theorem onDataAvailableRun_upToClose {report : Report} (hwf : report.WellFormed) (base : Nat)
    (sequencers : List QuicStreamSequencer) (final : QuicStreamSequencer)
    (hfinal : base + report.size ≤ final.received) :
    ∃ r, onDataAvailableRun session traceDecoder (sequencers ++ [final]) (init base) base
        (TraceDecoder.start report base) = some r ∧
      upToClose r.1.effects =
        upToClose (handleAll session (init base) (report.callbacks base)).1.effects := by
  obtain ⟨r, h, pre, rest, hcbs, hs, hdone⟩ :=
    onDataAvailableRun_handleAll hwf base sequencers final hfinal
  refine ⟨r, h, ?_⟩
  cases hconnected : r.1.connected
  · have hclosed : connectedAfter r.1.effects = false := hconnected
    rw [hcbs, handleAll_append, ← hs]
    split
    · obtain ⟨es, hes⟩ := handleAll_effects session r.1 rest
      rw [hes, upToClose_append_of_closed hclosed]
    · rw [hs]
  · rw [hcbs, (hdone hconnected).1, List.append_nil, hs]

/-- A list of calls none of which closes the connection is kept whole. -/
theorem upToClose_of_connectedAfter {es : List SessionEffect} (h : connectedAfter es = true) :
    upToClose es = es := by
  simpa [upToClose] using upToClose_append_of_connected h []

section

variable (session : Session)
  (hrefuse : ∀ effects id, session.getOrCreateStream effects id ≠ .refused)
include hrefuse

/-- With a session that refuses no stream, a callback that goes on makes no call that closes the
connection, and one that stops makes a single call, which closes it. -/
theorem visit_effects_upToClose (s : QuicReceiveControlStream) (e : HttpEvent) :
    ∃ es, (visit session s e).1.effects = s.effects ++ es ∧ upToClose es = es ∧
      ((visit session s e).2 = true → connectedAfter es = true) := by
  cases e with
  | priorityFrame frame =>
    simp only [visit_priorityFrame]
    split_ifs
    · exact ⟨_, rfl, rfl, nofun⟩
    · have hr := hrefuse s.effects frame.prioritizedElementId
      simp only [onPriorityFrame_eq]
      refine ⟨_, rfl, ?_⟩
      cases hlookup : session.getOrCreateStream s.effects frame.prioritizedElementId <;>
        simp_all [upToClose, connectedAfter, SessionEffect.closes]
  | settingsFrame frame =>
    simp only [visit_settingsFrame, onSettingsFrame_eq]
    exact ⟨_, rfl, upToClose_of_connectedAfter (connectedAfter_settings _),
      fun _ => connectedAfter_settings _⟩
  | priorityFrameStart _ | settingsFrameStart _ =>
    simp only [visit_priorityFrameStart, visit_settingsFrameStart]
    split_ifs
    · exact ⟨_, rfl, rfl, nofun⟩
    · exact ⟨[], by simp, rfl, fun _ => rfl⟩
  | _ => exact ⟨_, rfl, rfl, nofun⟩

/-- With a session that refuses no stream, callbacks make no call after the first that closes the
connection. -/
theorem handleAll_effects_upToClose (s : QuicReceiveControlStream) (cs : List (Nat × Callback)) :
    ∃ es, (handleAll session s cs).1.effects = s.effects ++ es ∧ upToClose es = es := by
  induction cs generalizing s with
  | nil => exact ⟨[], by simp [handleAll], rfl⟩
  | cons c cs ih =>
    obtain ⟨p, c⟩ := c
    cases c with
    | event e =>
      obtain ⟨es, hes, hup, hgo⟩ := visit_effects_upToClose session hrefuse s e
      simp only [handleAll]
      split_ifs with h
      · obtain ⟨es', hes', hup'⟩ := ih (visit session s e).1
        exact ⟨es ++ es', by rw [hes', hes, List.append_assoc],
          by rw [upToClose_append_of_connected (hgo h), hup']⟩
      · exact ⟨es, hes, hup⟩
    | onError => exact ⟨_, rfl, rfl⟩

end

/-- With a session that refuses no stream, no run makes a call on the session after the first that
closes the connection. -/
theorem onDataAvailableRun_nothing_after_close (session : Session)
    (hrefuse : ∀ effects id, session.getOrCreateStream effects id ≠ .refused) {report : Report}
    (hwf : report.WellFormed) (base : Nat) (sequencers : List QuicStreamSequencer) :
    ∃ r, onDataAvailableRun session traceDecoder sequencers (init base) base
        (TraceDecoder.start report base) = some r ∧
      upToClose r.1.effects = r.1.effects := by
  obtain ⟨r, h⟩ := onDataAvailableRun_isSome traceDecoder traceDecoder_keepsContract sequencers
    (init base) base (TraceDecoder.start report base)
  obtain ⟨pre, -, hs, -⟩ := ((TraceState.start hwf base).run sequencers h).delivered
  obtain ⟨es, hes, hup⟩ := handleAll_effects_upToClose session hrefuse (init base) pre
  refine ⟨r, h, ?_⟩
  rw [hs, hes]
  simpa [init] using hup

theorem onDataAvailableRun_nothing_after_close_settings_twice :
    ∃ r, onDataAvailableRun ⟨.isServer, fun _ _ => .found⟩ traceDecoder
        [⟨8, fun o => o + 8, fun _ => Nat.lt_add_of_pos_right (by decide)⟩] (init 0) 0
        (TraceDecoder.start ⟨[.settings ⟨2, 2⟩ ⟨[(6, 5)], by decide⟩,
          .settings ⟨2, 2⟩ ⟨[(6, 7)], by decide⟩], none⟩ 0) = some r ∧
      upToClose r.1.effects = r.1.effects :=
  onDataAvailableRun_nothing_after_close _ (fun _ _ => by simp)
    (by simp [Report.WellFormed, StreamFrame.WellFormed]) 0 _

/-- On `02 03 30 01 10 04 02 06 05`, the session refuses stream 1 and closes the connection, yet
`OnPriorityFrame` returns true, so the SETTINGS frame is applied and consumed after the close. -/
theorem onDataAvailable_after_refused_priority :
    Report.WellFormed ⟨[.priority ⟨2, 3⟩ ⟨1, 16⟩, .settings ⟨2, 2⟩ ⟨[(6, 5)], by decide⟩], none⟩ ∧
      connectedAfter [.getOrCreateStream 1 .refused] = false ∧
      (onDataAvailable ⟨.isServer, fun _ _ => .refused⟩ traceDecoder
          ⟨9, fun o => o + 9, fun _ => Nat.lt_add_of_pos_right (by decide)⟩ (init 0) 0
          (TraceDecoder.start
            ⟨[.priority ⟨2, 3⟩ ⟨1, 16⟩, .settings ⟨2, 2⟩ ⟨[(6, 5)], by decide⟩], none⟩ 0)).map
        (fun r => (r.1.effects, r.1.numBytesConsumed, r.2.1)) =
        some ([.getOrCreateStream 1 .refused, .setMaxOutboundHeaderListSize 5], 9, 9) :=
  ⟨by simp [Report.WellFormed, StreamFrame.WellFormed], rfl, by decide⟩

end QuicHttp3
