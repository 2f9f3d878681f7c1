import QuicHttp3.Http.ReceiveControlStream

/-!
# Termination of `OnDataAvailable`

Each turn of the loop of `OnDataAvailable` either moves `sequencer_offset_` forward or leaves the
connection closed (`drive_advances_or_closes`), for every decoder that keeps its contract: the
count `ProcessInput` returns is positive unless a callback returned false, and every callback that
returns false has closed the connection (`HttpDecoderVisitor.visit_false`), or unless the decoder
raised an error, which `OnError` answers by closing the connection. The received bytes not yet
processed are the measure: fuel beyond them is enough (`onDataAvailableLoop_isSome`), so
`OnDataAvailable` always returns (`onDataAvailable_terminates`). More fuel never changes a result
the loop has reached (`onDataAvailableLoop_add`), so the bound of `onDataAvailable` cuts no run of
such a decoder short (`onDataAvailable_eq_loop`).
-/

namespace QuicHttp3

open QuicReceiveControlStream

variable {D : Type} (session : Session) (decoder : HttpDecoder D) (sequencer : QuicStreamSequencer)

/-- One `ProcessInput` call that keeps the contract returns a positive count or leaves the
connection closed. -/
theorem drive_advances_or_closes (s : QuicReceiveControlStream) {it : Interaction D}
    (h : Progress it) : 0 < (drive session s it).2.1 ∨ (drive session s it).1.connected = false := by
  induction it generalizing s with
  | call _ event next ih =>
    simp only [drive]
    cases hgo : (HttpDecoderVisitor.visit session s event).2
    · exact .inr (drive_connected_false session _ (HttpDecoderVisitor.visit_false session s event hgo))
    · exact ih true _ h
  | onError _ next =>
    exact .inr (drive_connected_false session next (by simp [HttpDecoderVisitor.onError]))
  | done processed => exact .inl h

theorem onDataAvailableLoop_of_closed {s : QuicReceiveControlStream} (h : s.connected = false)
    (fuel offset : Nat) (d : D) :
    onDataAvailableLoop session decoder sequencer (fuel + 1) s offset d = some (s, offset, d) := by
  simp [onDataAvailableLoop, h]

theorem onDataAvailableLoop_isSome (hdecoder : decoder.KeepsContract) (fuel : Nat)
    (s : QuicReceiveControlStream) (offset : Nat) (d : D) (hfuel : sequencer.received - offset < fuel) :
    ∃ r, onDataAvailableLoop session decoder sequencer fuel s offset d = some r := by
  induction fuel generalizing s offset d with
  | zero => omega
  | succ fuel ih =>
    unfold onDataAvailableLoop
    split_ifs with hguard
    · obtain ⟨hconnected, -, herror⟩ := hguard
      unfold QuicStreamSequencer.peekRegion
      split_ifs with hpeek
      · have hlength : 0 < min (sequencer.blockEnd offset) sequencer.received - offset := by
          have := sequencer.blockEnd_gt offset
          omega
        rcases drive_advances_or_closes session s
            (hdecoder d _ herror hlength) with hadvance | hclosed
        · exact ih _ _ _ (by omega)
        · obtain ⟨fuel, rfl⟩ : ∃ k, fuel = k + 1 := ⟨fuel - 1, by omega⟩
          exact ⟨_, onDataAvailableLoop_of_closed session decoder sequencer hclosed _ _ _⟩
      · exact ⟨_, rfl⟩
    · exact ⟨_, rfl⟩

/-- More fuel never changes a result the loop has reached. -/
theorem onDataAvailableLoop_add {fuel : Nat} {s : QuicReceiveControlStream} {offset : Nat} {d : D}
    {r : QuicReceiveControlStream × Nat × D}
    (h : onDataAvailableLoop session decoder sequencer fuel s offset d = some r) (k : Nat) :
    onDataAvailableLoop session decoder sequencer (fuel + k) s offset d = some r := by
  induction fuel generalizing s offset d with
  | zero => simp [onDataAvailableLoop] at h
  | succ fuel ih =>
    rw [Nat.succ_add]
    unfold onDataAvailableLoop at h ⊢
    split_ifs at h ⊢
    · cases hpeek : sequencer.peekRegion offset <;> simp only [hpeek] at h ⊢
      exacts [h, ih h]
    · exact h

/-- For a decoder that keeps its contract, the loop with any fuel from that of `onDataAvailable` on
returns what `onDataAvailable` returns. -/
theorem onDataAvailable_eq_loop (hdecoder : decoder.KeepsContract) (s : QuicReceiveControlStream)
    (offset : Nat) (d : D) {fuel : Nat} (hfuel : sequencer.received + 1 ≤ fuel) :
    onDataAvailableLoop session decoder sequencer fuel s offset d =
      onDataAvailable session decoder sequencer s offset d := by
  obtain ⟨r, h⟩ := onDataAvailableLoop_isSome session decoder sequencer hdecoder _ s offset d
    (by omega : sequencer.received - offset < sequencer.received + 1)
  obtain ⟨k, rfl⟩ := Nat.exists_eq_add_of_le hfuel
  rw [onDataAvailable, h, onDataAvailableLoop_add session decoder sequencer h k]

/-- Every `OnDataAvailable` call returns, for every decoder that keeps its contract, every session,
every sequencer and every state. -/
theorem onDataAvailable_terminates (hdecoder : decoder.KeepsContract) (s : QuicReceiveControlStream)
    (offset : Nat) (d : D) : ∃ r, onDataAvailable session decoder sequencer s offset d = some r :=
  onDataAvailableLoop_isSome session decoder sequencer hdecoder _ s offset d (by omega)

theorem onDataAvailable_terminates_settings :
    ∃ r, onDataAvailable ⟨.isServer, fun _ _ => .found⟩ traceDecoder
      ⟨4, fun o => o + 1, fun o => Nat.lt_succ_self o⟩ (init 0) 0
      (TraceDecoder.start ⟨[.settings ⟨2, 2⟩ ⟨[(6, 5)], by decide⟩], none⟩ 0) = some r :=
  onDataAvailable_terminates _ _ _ traceDecoder_keepsContract _ _ _

end QuicHttp3
