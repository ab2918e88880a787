import Oak.Proxy.Steps

namespace Oak.Proxy

open Oak.Data Oak.Crypto

/-! One direction of a secure channel between two proxies.

The sender's session seals the chunks it is given into records, and a record
carries a part of the plaintext.  The receiver's session opens records, and the
network can make it open only what the sender has sealed.  `Channel` says what
the two sessions must do for that, in terms of the calls of `ProxySession`. -/

structure SealedRecord where
  record : Bytes
  plaintext : Bytes
deriving DecidableEq, Repr

def carried (log : List SealedRecord) : Bytes := log.flatMap SealedRecord.plaintext

structure Channel {σ τ : Type} (sends : ProxySession σ) (receives : ProxySession τ) where
  /-- The records that a sender has sealed, which was given these chunks. -/
  log : σ → List Bytes → List SealedRecord
  /-- The logs that a sender can have. -/
  Logged : List SealedRecord → Prop
  /-- The sender has sealed a part of the chunks, in order. -/
  Sealing : σ → List Bytes → Prop
  /-- The sender has sealed all chunks, and has handed out these frames. -/
  Flowing : σ → List Bytes → List Bytes → Prop
  /-- The sender has no frame to hand out. -/
  Drained : σ → Prop
  /-- The sender holds back no bytes of sealed records. -/
  Flushed : σ → Prop
  /-- The receiver has accepted these frames and has handed out this plaintext. -/
  Receiving : τ → List Bytes → Bytes → List SealedRecord → Prop
  /-- The receiver has no plaintext to hand out. -/
  Idle : τ → Prop
  /-- The records that the receiver can open in these bytes are sealed ones. -/
  Unforged : τ → List SealedRecord → Bytes → Prop
  sealing_of_flowing : ∀ {session chunks frames}, Flowing session chunks frames →
    Sealing session chunks
  logged : ∀ {session chunks}, Sealing session chunks → Logged (log session chunks)
  carried_prefix : ∀ {session chunks}, Sealing session chunks →
    carried (log session chunks) <+: chunks.flatten
  frame_ne_nil : ∀ {session chunks frames}, Flowing session chunks frames →
    ∀ frame ∈ frames, frame ≠ []
  putPlaintext_sealing : ∀ {session chunks frames chunk}, Flowing session chunks frames →
    chunk ≠ [] → chunk.length ≤ plaintextBufferSize →
    Sealing (sends.putPlaintext session chunk).2 (chunks ++ [chunk]) ∧
      log session chunks <+: log (sends.putPlaintext session chunk).2 (chunks ++ [chunk])
  putPlaintext_flowing : ∀ {session chunks frames chunk}, Flowing session chunks frames →
    chunk ≠ [] → chunk.length ≤ plaintextBufferSize →
    (sends.putPlaintext session chunk).1 = .ok () →
    Flowing (sends.putPlaintext session chunk).2 (chunks ++ [chunk]) frames
  getOutgoing_sealing : ∀ {session chunks frames}, Flowing session chunks frames →
    Sealing (sends.getOutgoing session).2 chunks ∧
      log session chunks <+: log (sends.getOutgoing session).2 chunks
  getOutgoing_flowing : ∀ {session chunks frames frame}, Flowing session chunks frames →
    (sends.getOutgoing session).1 = .ok (some frame) →
    Flowing (sends.getOutgoing session).2 chunks (frames ++ [frame])
  getOutgoing_drained : ∀ {session chunks frames}, Flowing session chunks frames →
    (sends.getOutgoing session).1 = .ok none →
    Flowing (sends.getOutgoing session).2 chunks frames ∧ Drained (sends.getOutgoing session).2
  putIncoming_flowing : ∀ {session chunks frames} data, Flowing session chunks frames →
    Flowing (sends.putIncoming session data).2 chunks frames ∧
      log session chunks <+: log (sends.putIncoming session data).2 chunks
  putIncoming_drained : ∀ {session} data, Drained session →
    Drained (sends.putIncoming session data).2
  getPlaintext_flowing : ∀ {session chunks frames}, Flowing session chunks frames →
    Flowing (sends.getPlaintext session).2 chunks frames ∧
      log session chunks <+: log (sends.getPlaintext session).2 chunks
  getPlaintext_drained : ∀ {session}, Drained session → Drained (sends.getPlaintext session).2
  receiving_mono : ∀ {session accepted written log later},
    Receiving session accepted written log → log <+: later →
    Receiving session accepted written later
  written_prefix : ∀ {session accepted written log}, Receiving session accepted written log →
    written <+: carried log
  putIncoming_receiving : ∀ {session accepted written log data},
    Receiving session accepted written log → Idle session → Logged log →
    Unforged session log data → (receives.putIncoming session data).1 = .ok () →
    Receiving (receives.putIncoming session data).2 (accepted ++ [data]) written log
  getPlaintext_receiving : ∀ {session accepted written log plaintext},
    Receiving session accepted written log →
    (receives.getPlaintext session).1 = .ok (some plaintext) →
    Receiving (receives.getPlaintext session).2 accepted (written ++ plaintext) log
  getPlaintext_idle : ∀ {session accepted written log},
    Receiving session accepted written log → (receives.getPlaintext session).1 = .ok none →
    Receiving (receives.getPlaintext session).2 accepted written log ∧
      Idle (receives.getPlaintext session).2
  putPlaintext_receiving : ∀ {session accepted written log} chunk,
    Receiving session accepted written log → Idle session →
    Receiving (receives.putPlaintext session chunk).2 accepted written log ∧
      Idle (receives.putPlaintext session chunk).2
  getOutgoing_receiving : ∀ {session accepted written log},
    Receiving session accepted written log → Idle session →
    Receiving (receives.getOutgoing session).2 accepted written log ∧
      Idle (receives.getOutgoing session).2
  complete : ∀ {sender chunks frames receiver written}, Flowing sender chunks frames →
    Drained sender → Flushed sender →
    Receiving receiver frames written (log sender chunks) → Idle receiver →
    written = chunks.flatten

namespace ProxyTask

def halfClose (done : Bool) : List Bytes := if done then [[]] else []

/-- The binary messages that were sent to the peer, with those that were on
their way before. -/
def posted {σ : Type} (inFlight : List Bytes) (proxy : ProxyTask σ) : List Bytes :=
  inFlight ++ binaries proxy.sent

end ProxyTask

end Oak.Proxy
