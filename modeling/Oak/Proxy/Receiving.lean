import Oak.Proxy.Channel

namespace Oak.Proxy.ProxyTask

open Oak.Data Oak.Crypto

/-! A proxy as the receiver of a channel: what every step of the loop keeps. -/

variable {σ τ : Type} {sends : ProxySession σ} {receives : ProxySession τ}

/-- What was written is what sealed records carry.  As long as the proxy runs,
the session has accepted the messages that were received before the half-close
and has no plaintext left. -/
structure Receives (channel : Channel sends receives) (log : List SealedRecord)
    (proxy : ProxyTask τ) : Prop where
  arrived : proxy.written <+: carried log
  closed : proxy.shutDown = true → proxy.peerDone = true
  receiving : proxy.returned = none →
    ∃ accepted, channel.Receiving proxy.session accepted proxy.written log ∧
      channel.Idle proxy.session ∧ proxy.received = accepted ++ halfClose proxy.peerDone

variable {channel : Channel sends receives} {log : List SealedRecord} {proxy next : ProxyTask τ}

theorem Receives.of_receiving {accepted : List Bytes}
    (receiving : channel.Receiving proxy.session accepted proxy.written log)
    (idle : channel.Idle proxy.session) (closed : proxy.shutDown = true → proxy.peerDone = true)
    (received : proxy.received = accepted ++ halfClose proxy.peerDone) :
    Receives channel log proxy :=
  ⟨channel.written_prefix receiving, closed, fun _ => ⟨accepted, receiving, idle, received⟩⟩

theorem Receives.failed (arrived : proxy.written <+: carried log)
    (closed : proxy.shutDown = true → proxy.peerDone = true) (fault : Fault AnyError) :
    Keeps (Receives channel log) (proxy.fail fault) :=
  ⟨arrived, closed, fun running => by simp at running⟩

theorem Receives.mono {later : List SealedRecord} (holds : Receives channel log proxy)
    (grown : log <+: later) : Receives channel later proxy where
  arrived := by
    obtain ⟨new, rfl⟩ := grown
    rw [carried, List.flatMap_append]
    exact holds.arrived.trans (List.prefix_append _ _)
  closed := holds.closed
  receiving := by
    intro running
    obtain ⟨accepted, receiving, idle, received⟩ := holds.receiving running
    exact ⟨accepted, channel.receiving_mono receiving grown, idle, received⟩

theorem Receives.unmoved (holds : Receives channel log proxy) (running : proxy.returned = none)
    (same : Unmoved proxy next) : Receives channel log next := by
  obtain ⟨accepted, receiving, idle, received⟩ := holds.receiving running
  apply Receives.of_receiving
  · rw [same.session, same.written]
    exact receiving
  · rw [same.session]
    exact idle
  · rw [same.shutDown, same.peerDone]
    exact holds.closed
  · rw [same.received, same.peerDone]
    exact received

theorem Receives.writePlaintexts {accepted : List Bytes}
    (receiving : channel.Receiving proxy.session accepted proxy.written log)
    (closed : proxy.shutDown = true → proxy.peerDone = true)
    (received : proxy.received = accepted ++ halfClose proxy.peerDone)
    (running : proxy.returned = none) (io : Io) {rounds : Nat}
    (enough : receives.plaintextsLeft proxy.session < rounds) :
    Keeps (Receives channel log) (proxy.writePlaintexts receives io rounds) := by
  induction rounds generalizing proxy with
  | zero => exact absurd enough (Nat.not_lt_zero _)
  | succ rounds ih =>
    have took (plaintext : Bytes)
        (some : (receives.getPlaintext proxy.session).1 = .ok (some plaintext)) :
        channel.Receiving (receives.getPlaintext proxy.session).2 accepted
          (proxy.written ++ plaintext) log :=
      channel.getPlaintext_receiving receiving some
    have emptied := channel.getPlaintext_idle receiving
    unfold ProxyTask.writePlaintexts
    cases found : receives.getPlaintext proxy.session with
    | mk result session =>
      rw [found] at took emptied
      cases result with
      | error fault =>
        apply Receives.failed
        · exact channel.written_prefix receiving
        · exact closed
      | ok plaintext =>
        cases plaintext with
        | none =>
          obtain ⟨stillReceiving, idle⟩ := emptied rfl
          exact ⟨Receives.of_receiving stillReceiving idle closed received, running⟩
        | some plaintext =>
          have receivingOn := took plaintext rfl
          simp only [ProxyTask.writeAll]
          cases answer : io.writeAll plaintext with
          | error failure =>
            apply Receives.failed
            · exact ((List.prefix_append_right_inj proxy.written).mpr
                (List.take_prefix failure.2 plaintext)).trans
                (channel.written_prefix receivingOn)
            · exact closed
          | ok _ =>
            apply ih
            · exact receivingOn
            · exact closed
            · exact received
            · exact running
            · exact Nat.lt_of_lt_of_le (receives.getPlaintext_fewer found)
                (Nat.le_of_lt_succ enough)

section

variable (holds : Receives channel log proxy)

include holds

theorem Receives.handleBinary (logged : channel.Logged log)
    (running : proxy.returned = none) (io : Io) {data : Bytes}
    (unforged : data ≠ [] → proxy.peerDone = false → channel.Unforged proxy.session log data) :
    Keeps (Receives channel log) (proxy.handleBinary receives io data) := by
  obtain ⟨accepted, receiving, idle, received⟩ := holds.receiving running
  unfold ProxyTask.handleBinary
  simp only
  split
  · apply Receives.failed
    · exact holds.arrived
    · exact holds.closed
  · rename_i peerOpen
    have undone : proxy.peerDone = false := by simpa using peerOpen
    simp only [undone, halfClose, Bool.false_eq_true, ↓reduceIte, List.append_nil] at received
    split
    · rename_i empty
      have closing : proxy.received ++ [data] = accepted ++ halfClose true := by
        rw [received, List.isEmpty_iff.mp empty]
        rfl
      unfold ProxyTask.shutdown
      cases io.shutdown with
      | ok _ => exact ⟨Receives.of_receiving receiving idle (fun _ => rfl) closing, running⟩
      | error reason =>
        apply Receives.failed
        · exact holds.arrived
        · intro _
          rfl
    · rename_i nonempty
      have some : data ≠ [] := by simpa using nonempty
      have put := channel.putIncoming_receiving receiving idle logged (unforged some undone)
      unfold ProxyTask.receiveData
      cases answer : receives.putIncoming proxy.session data with
      | mk result session =>
        simp only [answer] at put ⊢
        cases result with
        | error fault =>
          apply Receives.failed
          · exact holds.arrived
          · exact holds.closed
        | ok _ =>
          apply Receives.writePlaintexts
          · exact put rfl
          · exact holds.closed
          · simp [received, undone, halfClose]
          · exact running
          · exact Nat.lt_succ_self _

omit holds in
theorem Receives.keptBySending : KeptBySending receives (Receives channel log) where
  getOutgoing holds running := by
    obtain ⟨accepted, receiving, idle, received⟩ := holds.receiving running
    obtain ⟨stillReceiving, stillIdle⟩ := channel.getOutgoing_receiving receiving idle
    exact Receives.of_receiving stillReceiving stillIdle holds.closed received
  putPlaintext chunk holds running := by
    obtain ⟨accepted, receiving, idle, received⟩ := holds.receiving running
    obtain ⟨stillReceiving, stillIdle⟩ := channel.putPlaintext_receiving chunk receiving idle
    exact Receives.of_receiving stillReceiving stillIdle holds.closed received
  sent _ _ holds running := ⟨holds.arrived, holds.closed, fun _ => holds.receiving running⟩

theorem Receives.step (logged : channel.Logged log) (role : PeerRole) (io : Io) {event : Event}
    (unforged : ∀ data, event = .message (.ok (.binary data)) → data ≠ [] →
      proxy.returned = none → proxy.peerDone = false → channel.Unforged proxy.session log data) :
    Receives channel log (proxy.step receives role io event) := by
  apply step_keeps _ holds
  · intro before next holds running same
    exact holds.unmoved running same
  · intro data read running
    exact holds.handleBinary logged running io fun some undone =>
      unforged data read some running undone
  · intro bytes _ running
    refine Receives.keptBySending.handleChunk holds (fun _ => ?_) (fun _ => ?_) running
    all_goals exact ⟨holds.arrived, holds.closed, holds.receiving⟩

end

end Oak.Proxy.ProxyTask
