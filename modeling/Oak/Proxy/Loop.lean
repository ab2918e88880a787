import Oak.Proxy.ProxySession

namespace Oak.Proxy

open Oak.Data Oak.Crypto

/-! The proxy loop.

A step of the loop handles one event: a message from the remote peer, bytes
from the local application or a tick of the keep-alive timer.  The two streams
may fail at every operation. -/

inductive PeerRole where
  | client
  | server
deriving DecidableEq, Repr

def PeerRole.display : PeerRole → String
  | client => "Client"
  | server => "Server"

inductive Message where
  | text (text : String)
  | binary (data : Bytes)
  | ping (data : Bytes)
  | pong (data : Bytes)
  | close
  | frame (data : Bytes)
deriving DecidableEq, Repr

def hexEncode (data : Bytes) : String :=
  String.ofList (data.flatMap fun byte =>
    [Nat.digitChar (byte.toNat / 16), Nat.digitChar (byte.toNat % 16)])

/-- How the streams answer while one event is handled.  A write that fails may
have written some of its bytes. -/
structure Io where
  send : Message → Except AnyError Unit
  writeAll : Bytes → Except (AnyError × Nat) Unit
  shutdown : Except AnyError Unit

def plaintextBufferSize : Nat := 1024

abbrev Chunk := { bytes : Bytes // bytes.length ≤ plaintextBufferSize }

/-- A branch of the `select!`.  An empty chunk is the end of the application's
stream, and the payload of a tick is what was drawn for its ping. -/
inductive Event where
  | message (result : Except AnyError Message)
  | chunk (bytes : Chunk)
  | tick (payload : Block 8)

/-- The variables of the loop, what the proxy has returned, and what it has
read, received, sent and written so far. -/
structure ProxyTask (σ : Type) where
  session : σ
  pingQueue : List Bytes
  applicationDone : Bool
  peerDone : Bool
  returned : Option (Outcome AnyError Unit)
  chunks : List Bytes
  received : List Bytes
  sent : List Message
  written : Bytes
  shutDown : Bool

namespace ProxyTask

variable {σ : Type}

def start (session : σ) : ProxyTask σ where
  session := session
  pingQueue := []
  applicationDone := false
  peerDone := false
  returned := none
  chunks := []
  received := []
  sent := []
  written := []
  shutDown := false

abbrev Handled (σ : Type) := Except (ProxyTask σ) (ProxyTask σ)

def andThen (handled : Handled σ) (rest : ProxyTask σ → Handled σ) : Handled σ :=
  match handled with
  | .ok proxy => rest proxy
  | .error ended => .error ended

def fail (proxy : ProxyTask σ) (fault : Fault AnyError) : Handled σ :=
  .error { proxy with returned := some (.error fault) }

def bail (proxy : ProxyTask σ) (reason : AnyError) : Handled σ := proxy.fail (.error reason)

def send (io : Io) (message : Message) (proxy : ProxyTask σ) : Handled σ :=
  let proxy := { proxy with sent := proxy.sent ++ [message] }
  match io.send message with
  | .ok () => .ok proxy
  | .error reason => proxy.bail reason

def writeAll (io : Io) (plaintext : Bytes) (proxy : ProxyTask σ) : Handled σ :=
  match io.writeAll plaintext with
  | .ok () => .ok { proxy with written := proxy.written ++ plaintext }
  | .error (reason, count) =>
    bail { proxy with written := proxy.written ++ plaintext.take count } reason

def shutdown (io : Io) (proxy : ProxyTask σ) : Handled σ :=
  let proxy := { proxy with shutDown := true }
  match io.shutdown with
  | .ok () => .ok proxy
  | .error reason => proxy.bail reason

variable (ops : ProxySession σ)

/-- `while let Some(plaintext) = session.get_plaintext()?`, for at most so many
rounds. -/
def writePlaintexts (io : Io) : Nat → ProxyTask σ → Handled σ
  | 0, proxy => .ok proxy
  | rounds + 1, proxy =>
    match ops.getPlaintext proxy.session with
    | (.error fault, session) => fail { proxy with session } fault
    | (.ok none, session) => .ok { proxy with session }
    | (.ok (some plaintext), session) =>
      andThen (writeAll io plaintext { proxy with session }) (writePlaintexts io rounds)

/-- `while let Some(encrypted) = session.get_outgoing()?`, for at most so many
rounds. -/
def sendOutgoing (io : Io) : Nat → ProxyTask σ → Handled σ
  | 0, proxy => .ok proxy
  | rounds + 1, proxy =>
    match ops.getOutgoing proxy.session with
    | (.error fault, session) => fail { proxy with session } fault
    | (.ok none, session) => .ok { proxy with session }
    | (.ok (some encrypted), session) =>
      andThen (send io (.binary encrypted) { proxy with session }) (sendOutgoing io rounds)

/-- What the peer sent for the application.  A round of the loop that finds no
plaintext is its last. -/
def receiveData (io : Io) (data : Bytes) (proxy : ProxyTask σ) : Handled σ :=
  match ops.putIncoming proxy.session data with
  | (.error fault, session) => fail { proxy with session } fault
  | (.ok (), session) =>
    writePlaintexts ops io (ops.plaintextsLeft session + 1) { proxy with session }

def sealChunk (io : Io) (chunk : Bytes) (proxy : ProxyTask σ) : Handled σ :=
  match ops.putPlaintext proxy.session chunk with
  | (.error fault, session) => fail { proxy with session } fault
  | (.ok (), session) =>
    sendOutgoing ops io (ops.outgoingLeft session + 1) { proxy with session }

def handleBinary (io : Io) (data : Bytes) (proxy : ProxyTask σ) : Handled σ :=
  let proxy := { proxy with received := proxy.received ++ [data] }
  if proxy.peerDone then proxy.bail "Peer was only mostly half-closed"
  else if data.isEmpty then shutdown io { proxy with peerDone := true }
  else proxy.receiveData ops io data

def handlePong (role : PeerRole) (data : Bytes) (proxy : ProxyTask σ) : Handled σ :=
  let unexpected := s!"[{role.display}] Peer sent unexpected pong: {hexEncode data}"
  match proxy.pingQueue.getLast? with
  | some pingData =>
    if pingData = data then .ok { proxy with pingQueue := proxy.pingQueue.dropLast }
    else bail { proxy with pingQueue := proxy.pingQueue.dropLast } unexpected
  | none => proxy.bail unexpected

def handleMessage (role : PeerRole) (io : Io) (proxy : ProxyTask σ) : Message → Handled σ
  | .binary data => proxy.handleBinary ops io data
  | .ping data => proxy.send io (.pong data)
  | .pong data => proxy.handlePong role data
  | _ => proxy.bail "Peer sent unsupported message type"

def handleChunk (io : Io) (chunk : Bytes) (proxy : ProxyTask σ) : Handled σ :=
  if proxy.applicationDone then .ok proxy
  else if chunk.isEmpty then send io (.binary []) { proxy with applicationDone := true }
  else sealChunk ops io chunk { proxy with chunks := proxy.chunks ++ [chunk] }

def handleTick (role : PeerRole) (io : Io) (payload : Bytes) (proxy : ProxyTask σ) : Handled σ :=
  if proxy.pingQueue.isEmpty then
    send io (.ping payload) { proxy with pingQueue := payload :: proxy.pingQueue }
  else
    proxy.bail s!"[{role.display}] The peer did not sent a pong for previous ping on time"

def handle (role : PeerRole) (io : Io) (proxy : ProxyTask σ) : Event → Handled σ
  | .message (.error reason) => proxy.bail reason
  | .message (.ok message) => proxy.handleMessage ops role io message
  | .chunk bytes => proxy.handleChunk ops io bytes.val
  | .tick payload => proxy.handleTick role io payload.toList

def closeIfDone (io : Io) (proxy : ProxyTask σ) : Handled σ :=
  if proxy.applicationDone && proxy.peerDone then
    andThen (proxy.send io .close) fun proxy => .error { proxy with returned := some (.ok ()) }
  else .ok proxy

def step (role : PeerRole) (io : Io) (event : Event) (proxy : ProxyTask σ) : ProxyTask σ :=
  if proxy.returned.isSome then proxy
  else
    match andThen (proxy.handle ops role io event) (closeIfDone io) with
    | .ok next => next
    | .error ended => ended

end ProxyTask

end Oak.Proxy
