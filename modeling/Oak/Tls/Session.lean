import Oak.Tls.Connection

namespace Oak.Tls

open Oak.Data

/-! `OakSessionTlsInitializer` and `OakSessionTls`. -/

inductive InitializationError where
  | handshakeNotFinished
  | tls (error : TlsError)
  | io (error : IoError)
  | unexpectedEof
deriving DecidableEq, Repr

inductive HandshakeError (ε : Type) where
  | initialization (error : InitializationError)
  | io (error : ε)
deriving DecidableEq, Repr

inductive SessionError where
  | tls (error : TlsError)
  | io (error : IoError)
  | tlsBufferFull
  | unexpectedEof
deriving DecidableEq, Repr

def SessionError.display : SessionError → String
  | tls error => s!"TLS error: {error}"
  | io error => s!"I/O error: {error.display}"
  | tlsBufferFull => "could not write any more data into the TLS buffer"
  | unexpectedEof => "unexpected EOF trying to write data into TLS buffer"

structure OakSessionTlsInitializer (κ ω : Type) where
  connection : Connection κ ω
deriving DecidableEq, Repr

structure OakSessionTls (κ ω : Type) where
  connection : Connection κ ω
deriving DecidableEq, Repr

namespace OakSessionTls

variable {κ ω : Type} (rustls : Rustls κ ω)

def drainPlaintext (session : OakSessionTls κ ω) (result : Bytes) :
    Except IoError Bytes × OakSessionTls κ ω :=
  match rustls.readToEnd session.connection with
  | (bytes, .ok (), connection) => (.ok (result ++ bytes), ⟨connection⟩)
  | (bytes, .error .wouldBlock, connection) => (.ok (result ++ bytes), ⟨connection⟩)
  | (_, .error error, connection) => (.error error, ⟨connection⟩)

/-- One round of the loop of `decrypt`: the frames left and the plaintext so
far. -/
def decryptRound (session : OakSessionTls κ ω) (frames plaintext : Bytes) :
    Except SessionError (Bytes × Bytes) × OakSessionTls κ ω :=
  match rustls.readTls session.connection frames with
  | (.error error, connection) => (.error (.io error), ⟨connection⟩)
  | (.ok 0, connection) => (.error .unexpectedEof, ⟨connection⟩)
  | (.ok size, connection) =>
    match rustls.processNewPackets connection with
    | (.error error, connection) => (.error (.tls error), ⟨connection⟩)
    | (.ok (), connection) =>
      match drainPlaintext rustls ⟨connection⟩ plaintext with
      | (.error error, session) => (.error (.io error), session)
      | (.ok plaintext, session) => (.ok (frames.drop size, plaintext), session)

/-- Every round takes at least one byte, so the loop ends within as many rounds
as there are bytes. -/
def decryptRounds : Nat → OakSessionTls κ ω → Bytes → Bytes →
    Except SessionError Bytes × OakSessionTls κ ω
  | 0, session, _, plaintext => (.ok plaintext, session)
  | rounds + 1, session, frames, plaintext =>
    if frames.isEmpty then (.ok plaintext, session)
    else
      match session.decryptRound rustls frames plaintext with
      | (.error error, session) => (.error error, session)
      | (.ok (frames, plaintext), session) => decryptRounds rounds session frames plaintext

def decrypt (session : OakSessionTls κ ω) (frames : Bytes) :
    Except SessionError Bytes × OakSessionTls κ ω :=
  decryptRounds rustls frames.length session frames []

set_option linter.unusedVariables false in
/-- The loop of `encrypt`.  A round that seals nothing goes on only after it
has written bytes of the queue. -/
def encryptRounds (session : OakSessionTls κ ω) (plaintext result : Bytes) :
    Except SessionError Bytes × OakSessionTls κ ω :=
  if empty : plaintext.isEmpty then
    match rustls.writeTls session.connection with
    | (.error error, connection) => (.error (.io error), ⟨connection⟩)
    | (.ok bytes, connection) => (.ok (result ++ bytes), ⟨connection⟩)
  else
    match written : rustls.write session.connection plaintext with
    | (.error error, connection) => (.error (.io error), ⟨connection⟩)
    | (.ok size, connection) =>
      match flushed : rustls.writeTls connection with
      | (.error error, connection) => (.error (.io error), ⟨connection⟩)
      | (.ok bytes, connection) =>
        if stuck : size = 0 then
          match drained : rustls.writeTls connection with
          | (.error error, connection) => (.error (.io error), ⟨connection⟩)
          | (.ok more, connection) =>
            if full : more.isEmpty then (.error .tlsBufferFull, ⟨connection⟩)
            else encryptRounds ⟨connection⟩ plaintext (result ++ bytes ++ more)
        else encryptRounds ⟨connection⟩ (plaintext.drop size) (result ++ bytes)
termination_by (plaintext.length, session.connection.sendable.length)
decreasing_by
  · subst stuck
    apply Prod.Lex.right
    have same := Rustls.eq_of_write_zero (by simpa using empty) written
    have first := Rustls.sendable_of_writeTls flushed
    have second := Rustls.sendable_of_writeTls drained
    have shorter : 0 < more.length := List.length_pos_iff.mpr (by simpa using full)
    rw [← same, first, second]
    simp only [List.length_append]
    omega
  · apply Prod.Lex.left
    have bytes : 0 < plaintext.length := List.length_pos_iff.mpr (by simpa using empty)
    rw [List.length_drop]
    omega

def encrypt (session : OakSessionTls κ ω) (plaintext : Bytes) :
    Except SessionError Bytes × OakSessionTls κ ω :=
  encryptRounds rustls session plaintext []

section Rounds

variable {rustls} {session : OakSessionTls κ ω} {middle next : Connection κ ω}
  {plaintext bytes : Bytes} {size : Nat}

theorem encryptRounds_nil (flushed : rustls.writeTls session.connection = (.ok bytes, next))
    (result : Bytes) :
    encryptRounds rustls session [] result = (.ok (result ++ bytes), ⟨next⟩) := by
  rw [encryptRounds, dif_pos List.isEmpty_nil, flushed]

theorem encryptRounds_progress (nonempty : plaintext ≠ [])
    (written : rustls.write session.connection plaintext = (.ok size, middle))
    (flushed : rustls.writeTls middle = (.ok bytes, next)) (progress : size ≠ 0) (result : Bytes) :
    encryptRounds rustls session plaintext result =
      encryptRounds rustls ⟨next⟩ (plaintext.drop size) (result ++ bytes) := by
  rw [encryptRounds, dif_neg (by simpa using nonempty)]
  split
  · rename_i failed
    rw [written] at failed
    cases failed
  · rename_i answer
    rw [written] at answer
    cases answer
    split
    · rename_i failed
      rw [flushed] at failed
      cases failed
    · rename_i answer
      rw [flushed] at answer
      cases answer
      rw [dif_neg progress]

end Rounds

end OakSessionTls

namespace OakSessionTlsInitializer

variable {κ ω ε : Type} (rustls : Rustls κ ω)

def putTlsFrame (initializer : OakSessionTlsInitializer κ ω) (frame : Bytes) :
    Except InitializationError Bytes × OakSessionTlsInitializer κ ω :=
  match rustls.readTls initializer.connection frame with
  | (.error error, connection) => (.error (.io error), ⟨connection⟩)
  | (.ok 0, connection) => (.error .unexpectedEof, ⟨connection⟩)
  | (.ok _, connection) =>
    match rustls.processNewPackets connection with
    | (.error error, connection) => (.error (.tls error), ⟨connection⟩)
    | (.ok (), connection) =>
      let (result, _, connection) := rustls.readToEnd connection
      (.ok result, ⟨connection⟩)

def getTlsFrame (initializer : OakSessionTlsInitializer κ ω) :
    Except InitializationError Bytes × OakSessionTlsInitializer κ ω :=
  match rustls.writeTls initializer.connection with
  | (.error error, connection) => (.error (.io error), ⟨connection⟩)
  | (.ok buffer, connection) => (.ok buffer, ⟨connection⟩)

def isReady (initializer : OakSessionTlsInitializer κ ω) : Bool :=
  !rustls.isHandshaking initializer.connection.inbound &&
    !Rustls.wantsWrite initializer.connection

def getOpenSession (initializer : OakSessionTlsInitializer κ ω) :
    Except InitializationError (OakSessionTls κ ω × Bytes) :=
  if initializer.isReady rustls then
    match OakSessionTls.drainPlaintext rustls ⟨initializer.connection⟩ [] with
    | (.error error, _) => .error (.io error)
    | (.ok initialData, session) => .ok (session, initialData)
  else .error .handshakeNotFinished

/-- What the handshake sends before it waits for a frame. -/
def flush (sender : Bytes → Except ε Unit) (initializer : OakSessionTlsInitializer κ ω) :
    Except (HandshakeError ε) (OakSessionTlsInitializer κ ω) :=
  match initializer.getTlsFrame rustls with
  | (.error error, _) => .error (.initialization error)
  | (.ok frame, initializer) =>
    if frame.isEmpty then .ok initializer
    else
      match sender frame with
      | .error error => .error (.io error)
      | .ok () => .ok initializer

/-- The open session, its initial data and the frames not yet received. -/
def finish (initializer : OakSessionTlsInitializer κ ω) (frames : List Bytes) :
    Except (HandshakeError ε) (OakSessionTls κ ω × Bytes × List Bytes) :=
  match initializer.getOpenSession rustls with
  | .error error => .error (.initialization error)
  | .ok (session, initialData) => .ok (session, initialData, frames)

/-- The receiver returns the frames one after the other; `ending` is what it
returns after them, `Ok(None)` or an error. -/
def handshake (sender : Bytes → Except ε Unit) (ending : Except ε Unit)
    (initializer : OakSessionTlsInitializer κ ω) (frames : List Bytes) :
    Except (HandshakeError ε) (OakSessionTls κ ω × Bytes × List Bytes) :=
  if initializer.isReady rustls then initializer.finish rustls frames
  else
    match initializer.flush rustls sender with
    | .error error => .error error
    | .ok initializer =>
      if initializer.isReady rustls then initializer.finish rustls frames
      else
        match frames with
        | [] =>
          match ending with
          | .error error => .error (.io error)
          | .ok () => initializer.finish rustls []
        | frame :: rest =>
          match initializer.putTlsFrame rustls frame with
          | (.error error, _) => .error (.initialization error)
          | (.ok _, initializer) => handshake sender ending initializer rest

end OakSessionTlsInitializer

/-- `newSession` is the initializer that the client's or the server's context
creates. -/
def newInitializedSession {κ ω ε : Type} (rustls : Rustls κ ω)
    (newSession : Except InitializationError (OakSessionTlsInitializer κ ω))
    (sender : Bytes → Except ε Unit) (ending : Except ε Unit) (frames : List Bytes) :
    Except (HandshakeError ε) (OakSessionTls κ ω × Bytes × List Bytes) :=
  match newSession with
  | .error error => .error (.initialization error)
  | .ok initializer => initializer.handshake rustls sender ending frames

end Oak.Tls
