import Oak.Proxy.Channel

namespace Oak.Proxy.ProxyTask

open Oak.Data Oak.Crypto

/-! A proxy as the sender of a channel: what every step of the loop keeps. -/

variable {σ τ : Type} {sends : ProxySession σ} {receives : ProxySession τ}

/-- The records that the session has sealed extend the earlier ones.  As long
as the proxy runs, and once it has sent its half-close, the messages it has
sent are the frames of the session, followed by the half-close. -/
structure Sends (channel : Channel sends receives) (inFlight : List Bytes)
    (earlier : List SealedRecord) (proxy : ProxyTask σ) : Prop where
  sealing : channel.Sealing proxy.session proxy.chunks
  grown : earlier <+: channel.log proxy.session proxy.chunks
  marked : [] ∈ posted inFlight proxy → proxy.applicationDone = true
  flowing : proxy.returned = none ∨ proxy.applicationDone = true →
    ∃ frames, channel.Flowing proxy.session proxy.chunks frames ∧
      channel.Drained proxy.session ∧
      posted inFlight proxy = frames ++ halfClose proxy.applicationDone

variable {channel : Channel sends receives} {inFlight : List Bytes} {earlier : List SealedRecord}
  {proxy next : ProxyTask σ}

variable {frames : List Bytes}

theorem marked_of_flowing {session : σ} {chunks sent : List Bytes} {done : Bool}
    (flowing : channel.Flowing session chunks frames) (same : sent = frames ++ halfClose done)
    (empty : [] ∈ sent) : done = true := by
  rw [same, List.mem_append] at empty
  cases empty with
  | inl inFrames => exact absurd rfl (channel.frame_ne_nil flowing [] inFrames)
  | inr closing =>
    cases done with
    | true => rfl
    | false => exact absurd closing List.not_mem_nil

theorem Sends.of_flowing (grown : earlier <+: channel.log proxy.session proxy.chunks)
    (flowing : channel.Flowing proxy.session proxy.chunks frames)
    (drained : channel.Drained proxy.session)
    (sent : posted inFlight proxy = frames ++ halfClose proxy.applicationDone) :
    Sends channel inFlight earlier proxy :=
  ⟨channel.sealing_of_flowing flowing, grown, marked_of_flowing flowing sent,
    fun _ => ⟨frames, flowing, drained, sent⟩⟩

section

variable (holds : Sends channel inFlight earlier proxy) (running : proxy.returned = none)

include holds running

theorem Sends.unchanged
    (session : next.session = proxy.session) (chunks : next.chunks = proxy.chunks)
    (done : next.applicationDone = proxy.applicationDone)
    (sent : binaries next.sent = binaries proxy.sent) : Sends channel inFlight earlier next := by
  obtain ⟨frames, flowing, drained, sentBefore⟩ := holds.flowing (.inl running)
  apply Sends.of_flowing
  · rw [session, chunks]
    exact holds.grown
  · rw [session, chunks]
    exact flowing
  · rw [session]
    exact drained
  · rw [posted, sent, done]
    exact sentBefore

end

theorem Sends.keptByReading : KeptByReading sends (Sends channel inFlight earlier) where
  getPlaintext holds running := by
    obtain ⟨frames, flowing, drained, sent⟩ := holds.flowing (.inl running)
    obtain ⟨stillFlowing, grown⟩ := channel.getPlaintext_flowing flowing
    exact Sends.of_flowing (holds.grown.trans grown) stillFlowing
      (channel.getPlaintext_drained drained) sent
  putIncoming data holds running := by
    obtain ⟨frames, flowing, drained, sent⟩ := holds.flowing (.inl running)
    obtain ⟨stillFlowing, grown⟩ := channel.putIncoming_flowing data flowing
    exact Sends.of_flowing (holds.grown.trans grown) stillFlowing
      (channel.putIncoming_drained data drained) sent
  wrote _ _ holds running := holds.unchanged running rfl rfl rfl rfl

theorem Sends.failed (sealing : channel.Sealing proxy.session proxy.chunks)
    (grown : earlier <+: channel.log proxy.session proxy.chunks)
    (undone : proxy.applicationDone = false) (data : [] ∉ posted inFlight proxy)
    (fault : Fault AnyError) : Keeps (Sends channel inFlight earlier) (proxy.fail fault) :=
  ⟨sealing, grown, fun empty => absurd empty data, fun flows => by simp [undone] at flows⟩

theorem Sends.sendOutgoing (grown : earlier <+: channel.log proxy.session proxy.chunks)
    (flowing : channel.Flowing proxy.session proxy.chunks frames)
    (running : proxy.returned = none) (undone : proxy.applicationDone = false)
    (sent : posted inFlight proxy = frames) (io : Io) {rounds : Nat}
    (enough : sends.outgoingLeft proxy.session < rounds) :
    Keeps (Sends channel inFlight earlier) (proxy.sendOutgoing sends io rounds) := by
  induction rounds generalizing proxy frames with
  | zero => exact absurd enough (Nat.not_lt_zero _)
  | succ rounds ih =>
    obtain ⟨sealing, longer⟩ := channel.getOutgoing_sealing flowing
    have data : [] ∉ posted inFlight proxy := fun empty =>
      channel.frame_ne_nil flowing [] (sent ▸ empty) rfl
    have took (frame : Bytes) (some : (sends.getOutgoing proxy.session).1 = .ok (some frame)) :
        channel.Flowing (sends.getOutgoing proxy.session).2 proxy.chunks (frames ++ [frame]) :=
      channel.getOutgoing_flowing flowing some
    have emptied := channel.getOutgoing_drained flowing
    unfold ProxyTask.sendOutgoing
    cases found : sends.getOutgoing proxy.session with
    | mk result session =>
      rw [found] at sealing longer took emptied
      have grownNow := grown.trans longer
      cases result with
      | error fault =>
        apply Sends.failed
        · exact sealing
        · exact grownNow
        · exact undone
        · exact data
      | ok frame =>
        cases frame with
        | none =>
          obtain ⟨stillFlowing, drained⟩ := emptied rfl
          refine ⟨Sends.of_flowing grownNow stillFlowing drained ?_, running⟩
          simp only [undone, halfClose, Bool.false_eq_true, ↓reduceIte, List.append_nil]
          exact sent
        | some frame =>
          have flowingOn := took frame rfl
          have sentFrame :
              inFlight ++ binaries (proxy.sent ++ [.binary frame]) = frames ++ [frame] := by
            rw [← sent, posted, binaries, List.filterMap_append, List.append_assoc]
            rfl
          simp only [ProxyTask.send]
          cases answer : io.send (.binary frame) with
          | error reason =>
            apply Sends.failed
            · exact sealing
            · exact grownNow
            · exact undone
            · intro empty
              rw [posted, sentFrame] at empty
              exact channel.frame_ne_nil flowingOn [] empty rfl
          | ok _ =>
            apply ih
            · exact grownNow
            · exact flowingOn
            · exact running
            · exact undone
            · exact sentFrame
            · exact Nat.lt_of_lt_of_le (sends.getOutgoing_fewer found)
                (Nat.le_of_lt_succ enough)

theorem Sends.handleChunk (holds : Sends channel inFlight earlier proxy)
    (running : proxy.returned = none) (io : Io) (chunk : Chunk) :
    Keeps (Sends channel inFlight earlier) (proxy.handleChunk sends io chunk.val) := by
  obtain ⟨frames, flowing, drained, sent⟩ := holds.flowing (.inl running)
  unfold ProxyTask.handleChunk
  split
  · exact ⟨holds, running⟩
  · rename_i notDone
    have undone : proxy.applicationDone = false := by simpa using notDone
    rw [undone] at sent
    have allFrames : posted inFlight proxy = frames := by simpa [halfClose] using sent
    split
    · have closing : inFlight ++ binaries (proxy.sent ++ [.binary []]) = frames ++ [[]] := by
        rw [← allFrames, posted, binaries, List.filterMap_append, List.append_assoc]
        rfl
      unfold ProxyTask.send
      cases io.send (.binary []) with
      | ok _ => exact ⟨Sends.of_flowing holds.grown flowing drained closing, running⟩
      | error reason => exact Sends.of_flowing holds.grown flowing drained closing
    · rename_i nonempty
      have some : chunk.val ≠ [] := by simpa using nonempty
      obtain ⟨sealing, grown⟩ := channel.putPlaintext_sealing flowing some chunk.property
      have flowingOn := channel.putPlaintext_flowing flowing some chunk.property
      unfold ProxyTask.sealChunk
      cases put : sends.putPlaintext proxy.session chunk.val with
      | mk result session =>
        simp only [put] at sealing grown flowingOn ⊢
        cases result with
        | error fault =>
          apply Sends.failed
          · exact sealing
          · exact holds.grown.trans grown
          · exact undone
          · intro empty
            exact channel.frame_ne_nil flowing [] (allFrames ▸ empty) rfl
        | ok _ =>
          apply Sends.sendOutgoing
          · exact holds.grown.trans grown
          · exact flowingOn rfl
          · exact running
          · exact undone
          · exact allFrames
          · exact Nat.lt_succ_self _

theorem Sends.step (holds : Sends channel inFlight earlier proxy) (role : PeerRole) (io : Io)
    (event : Event) : Sends channel inFlight earlier (proxy.step sends role io event) := by
  apply step_keeps _ holds
  · intro before next holds running same
    exact holds.unchanged running same.session same.chunks same.applicationDone same.sent
  · intro data _ running
    exact Sends.keptByReading.handleBinary (holds.unchanged running rfl rfl rfl rfl)
      (fun _ _ => holds.unchanged running rfl rfl rfl rfl) running
  · intro bytes _ running
    exact holds.handleChunk running io bytes

end Oak.Proxy.ProxyTask
