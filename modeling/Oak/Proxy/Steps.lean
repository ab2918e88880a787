import Oak.Proxy.Loop

namespace Oak.Proxy

open Oak.Data Oak.Crypto

/-! What one step of the loop can do.

Only data of the peer and bytes of the application reach the session; every
other event leaves all but the pings and the control messages as they were. -/

def Event.quiet : Event → Bool
  | .message (.ok (.binary _)) => false
  | .chunk _ => false
  | _ => true

namespace ProxyTask

variable {σ : Type}

/-- What a handler leaves behind, whether the proxy goes on or has returned. -/
def Keeps (holds : ProxyTask σ → Prop) : Handled σ → Prop
  | .ok next => holds next ∧ next.returned = none
  | .error ended => holds ended

variable {holds : ProxyTask σ → Prop}

theorem Keeps.andThen {handled : Handled σ} {rest : ProxyTask σ → Handled σ}
    (first : Keeps holds handled)
    (second : ∀ next, holds next → next.returned = none → Keeps holds (rest next)) :
    Keeps holds (ProxyTask.andThen handled rest) := by
  cases handled with
  | ok next => exact second next first.1 first.2
  | error ended => exact first

theorem Keeps.mono {weaker : ProxyTask σ → Prop} {handled : Handled σ}
    (kept : Keeps holds handled) (implies : ∀ next, holds next → weaker next) :
    Keeps weaker handled := by
  cases handled with
  | ok next => exact ⟨implies next kept.1, kept.2⟩
  | error ended => exact implies ended kept

def binaries (messages : List Message) : List Bytes :=
  messages.filterMap fun message =>
    match message with
    | .binary data => some data
    | _ => none

@[simp] theorem binaries_append (first second : List Message) :
    binaries (first ++ second) = binaries first ++ binaries second :=
  List.filterMap_append

/-- The proxy has at most sent control messages, counted pings or returned. -/
structure Unmoved (proxy next : ProxyTask σ) : Prop where
  session : next.session = proxy.session
  applicationDone : next.applicationDone = proxy.applicationDone
  peerDone : next.peerDone = proxy.peerDone
  chunks : next.chunks = proxy.chunks
  received : next.received = proxy.received
  sent : binaries next.sent = binaries proxy.sent
  written : next.written = proxy.written
  shutDown : next.shutDown = proxy.shutDown

theorem Unmoved.refl (proxy : ProxyTask σ) : Unmoved proxy proxy :=
  ⟨rfl, rfl, rfl, rfl, rfl, rfl, rfl, rfl⟩

theorem Unmoved.send {proxy next : ProxyTask σ} (unmoved : Unmoved proxy next)
    (running : next.returned = none) (io : Io) {message : Message}
    (control : binaries [message] = []) : Keeps (Unmoved proxy) (next.send io message) := by
  have same : binaries (next.sent ++ [message]) = binaries proxy.sent := by
    rw [binaries_append, control, List.append_nil]
    exact unmoved.sent
  unfold ProxyTask.send
  cases io.send message with
  | ok _ => exact ⟨{ unmoved with sent := same }, running⟩
  | error reason => exact { unmoved with sent := same }

variable {ops : ProxySession σ} {proxy : ProxyTask σ} {role : PeerRole} {io : Io} {event : Event}

theorem handle_quiet (running : proxy.returned = none) (quiet : event.quiet = true) :
    Keeps (Unmoved proxy) (proxy.handle ops role io event) := by
  have same := Unmoved.refl proxy
  cases event with
  | chunk bytes => simp [Event.quiet] at quiet
  | tick payload =>
    unfold handle handleTick
    simp only
    split
    · apply Unmoved.send
      · exact { same with }
      · exact running
      · rfl
    · exact { same with }
  | message result =>
    cases result with
    | error reason => exact { same with }
    | ok message =>
      cases message with
      | binary data => simp [Event.quiet] at quiet
      | ping data => exact same.send running io rfl
      | pong data =>
        unfold handle handleMessage handlePong
        simp only
        split
        · split
          · exact ⟨{ same with }, running⟩
          · exact { same with }
        · exact { same with }
      | text | close | frame => exact { same with }

theorem closeIfDone_unmoved (running : proxy.returned = none) (io : Io) :
    Keeps (Unmoved proxy) (proxy.closeIfDone io) := by
  unfold closeIfDone
  split
  · exact ((Unmoved.refl proxy).send running io rfl).andThen fun next unmoved _ =>
      { unmoved with }
  · exact ⟨Unmoved.refl proxy, running⟩

/-- What the handlers of data and of bytes keep, and what quiet changes keep, a
whole step keeps. -/
theorem step_keeps (holds : ProxyTask σ → Prop) (initial : holds proxy)
    (unmoved : ∀ {earlier next}, holds earlier → earlier.returned = none →
      Unmoved earlier next → holds next)
    (binary : ∀ data, event = .message (.ok (.binary data)) → proxy.returned = none →
      Keeps holds (proxy.handleBinary ops io data))
    (chunk : ∀ bytes, event = .chunk bytes → proxy.returned = none →
      Keeps holds (proxy.handleChunk ops io bytes.val)) : holds (proxy.step ops role io event) := by
  unfold step
  split
  · exact initial
  · rename_i notReturned
    have running : proxy.returned = none := by simpa using notReturned
    have handled : Keeps holds (proxy.handle ops role io event) := by
      cases quiet : event.quiet with
      | true =>
        exact (handle_quiet running quiet).mono fun next same => unmoved initial running same
      | false =>
        cases event with
        | tick payload => simp [Event.quiet] at quiet
        | chunk bytes => exact chunk bytes rfl running
        | message result =>
          cases result with
          | error reason => simp [Event.quiet] at quiet
          | ok message =>
            cases message with
            | binary data => exact binary data rfl running
            | text | ping | pong | close | frame => simp [Event.quiet] at quiet
    have kept := handled.andThen fun next holds running =>
      (closeIfDone_unmoved running io).mono fun ended same => unmoved holds running same
    split
    · rename_i continued
      rw [continued] at kept
      exact kept.1
    · rename_i ended
      rw [ended] at kept
      exact kept

/-- The calls of the session for the peer's data keep this, and so does what is written of it. -/
structure KeptByReading (ops : ProxySession σ) (holds : ProxyTask σ → Prop) : Prop where
  getPlaintext : ∀ {proxy}, holds proxy → proxy.returned = none →
    holds { proxy with session := (ops.getPlaintext proxy.session).2 }
  putIncoming : ∀ {proxy} data, holds proxy → proxy.returned = none →
    holds { proxy with session := (ops.putIncoming proxy.session data).2 }
  wrote : ∀ {proxy} written returned, holds proxy → proxy.returned = none →
    holds { proxy with written, returned }

/-- The calls of the session for the application's bytes keep this, and so does what is sent. -/
structure KeptBySending (ops : ProxySession σ) (holds : ProxyTask σ → Prop) : Prop where
  getOutgoing : ∀ {proxy}, holds proxy → proxy.returned = none →
    holds { proxy with session := (ops.getOutgoing proxy.session).2 }
  putPlaintext : ∀ {proxy} chunk, holds proxy → proxy.returned = none →
    holds { proxy with session := (ops.putPlaintext proxy.session chunk).2 }
  sent : ∀ {proxy} sent returned, holds proxy → proxy.returned = none →
    holds { proxy with sent, returned }

theorem KeptByReading.writePlaintexts (kept : KeptByReading ops holds) (initial : holds proxy)
    (running : proxy.returned = none) (rounds : Nat) :
    Keeps holds (proxy.writePlaintexts ops io rounds) := by
  induction rounds generalizing proxy with
  | zero => exact ⟨initial, running⟩
  | succ rounds ih =>
    have asked := kept.getPlaintext initial running
    unfold ProxyTask.writePlaintexts
    cases found : ops.getPlaintext proxy.session with
    | mk result session =>
      rw [found] at asked
      cases result with
      | error fault => exact kept.wrote proxy.written _ asked running
      | ok plaintext =>
        cases plaintext with
        | none => exact ⟨asked, running⟩
        | some plaintext =>
          simp only [writeAll]
          cases io.writeAll plaintext with
          | ok _ => exact ih (kept.wrote _ proxy.returned asked running) running
          | error failure =>
            have failed := kept.wrote (proxy.written ++ plaintext.take failure.2)
              (some (.error (.error failure.1))) asked running
            exact failed

theorem KeptBySending.sendOutgoing (kept : KeptBySending ops holds) (initial : holds proxy)
    (running : proxy.returned = none) (rounds : Nat) :
    Keeps holds (proxy.sendOutgoing ops io rounds) := by
  induction rounds generalizing proxy with
  | zero => exact ⟨initial, running⟩
  | succ rounds ih =>
    have asked := kept.getOutgoing initial running
    unfold ProxyTask.sendOutgoing
    cases found : ops.getOutgoing proxy.session with
    | mk result session =>
      rw [found] at asked
      cases result with
      | error fault => exact kept.sent proxy.sent _ asked running
      | ok frame =>
        cases frame with
        | none => exact ⟨asked, running⟩
        | some frame =>
          simp only [send]
          cases io.send (.binary frame) with
          | ok _ => exact ih (kept.sent _ proxy.returned asked running) running
          | error failure =>
            have failed := kept.sent (proxy.sent ++ [.binary frame])
              (some (.error (.error failure))) asked running
            exact failed

theorem KeptByReading.handleBinary {data : Bytes} (kept : KeptByReading ops holds)
    (noted : holds { proxy with received := proxy.received ++ [data] })
    (closed : data = [] → proxy.peerDone = false →
      holds { proxy with received := proxy.received ++ [data], peerDone := true, shutDown := true })
    (running : proxy.returned = none) : Keeps holds (proxy.handleBinary ops io data) := by
  unfold ProxyTask.handleBinary
  simp only
  split
  · exact kept.wrote proxy.written _ noted running
  · rename_i peerOpen
    split
    · rename_i empty
      have closing := closed (List.isEmpty_iff.mp empty) (by simpa using peerOpen)
      unfold shutdown
      cases io.shutdown with
      | ok _ => exact ⟨closing, running⟩
      | error reason => exact kept.wrote proxy.written _ closing running
    · have put := kept.putIncoming data noted running
      unfold receiveData
      cases answer : ops.putIncoming proxy.session data with
      | mk result session =>
        rw [answer] at put
        cases result with
        | error fault => exact kept.wrote proxy.written _ put running
        | ok _ => exact kept.writePlaintexts put running _

theorem KeptBySending.handleChunk {chunk : Bytes} (kept : KeptBySending ops holds)
    (initial : holds proxy)
    (closed : proxy.applicationDone = false → holds { proxy with applicationDone := true })
    (noted : proxy.applicationDone = false → holds { proxy with chunks := proxy.chunks ++ [chunk] })
    (running : proxy.returned = none) : Keeps holds (proxy.handleChunk ops io chunk) := by
  unfold ProxyTask.handleChunk
  split
  · exact ⟨initial, running⟩
  · rename_i notDone
    have undone : proxy.applicationDone = false := by simpa using notDone
    split
    · unfold send
      cases io.send (.binary []) with
      | ok _ =>
        have sent := kept.sent (proxy.sent ++ [.binary []]) proxy.returned (closed undone) running
        exact ⟨sent, running⟩
      | error reason =>
        have failed := kept.sent (proxy.sent ++ [.binary []]) (some (.error (.error reason)))
          (closed undone) running
        exact failed
    · have put := kept.putPlaintext chunk (noted undone) running
      unfold sealChunk
      cases answer : ops.putPlaintext proxy.session chunk with
      | mk result session =>
        rw [answer] at put
        cases result with
        | error fault => exact kept.sent proxy.sent _ put running
        | ok _ => exact kept.sendOutgoing put running _

/-- What the session and the streams have no part in is kept by all their calls. -/
theorem keptByReading (stable : ∀ {proxy : ProxyTask σ} session written returned, holds proxy →
    holds { proxy with session, written, returned }) : KeptByReading ops holds :=
  ⟨fun {proxy} kept _ => stable _ proxy.written proxy.returned kept,
    fun {proxy} _ kept _ => stable _ proxy.written proxy.returned kept,
    fun {proxy} written returned kept _ => stable proxy.session written returned kept⟩

theorem keptBySending (stable : ∀ {proxy : ProxyTask σ} session sent returned, holds proxy →
    holds { proxy with session, sent, returned }) : KeptBySending ops holds :=
  ⟨fun {proxy} kept _ => stable _ proxy.sent proxy.returned kept,
    fun {proxy} _ kept _ => stable _ proxy.sent proxy.returned kept,
    fun {proxy} sent returned kept _ => stable proxy.session sent returned kept⟩

theorem step_input (done : proxy.applicationDone = true) :
    (proxy.step ops role io event).applicationDone = true ∧
      (proxy.step ops role io event).chunks = proxy.chunks := by
  have initial : proxy.applicationDone = true ∧ proxy.chunks = proxy.chunks := ⟨done, rfl⟩
  apply step_keeps (fun next => next.applicationDone = true ∧ next.chunks = proxy.chunks) initial
  · intro earlier next holds _ same
    rw [same.applicationDone, same.chunks]
    exact holds
  · intro data _ running
    exact (keptByReading fun _ _ _ holds => holds).handleBinary initial (fun _ _ => initial) running
  · intro bytes _ running
    apply (keptBySending fun _ _ _ holds => holds).handleChunk initial
    · intro undone
      simp [done] at undone
    · intro undone
      simp [done] at undone
    · exact running

theorem step_shutDown (notYet : proxy.shutDown = false)
    (shutDown : (proxy.step ops role io event).shutDown = true) :
    event = .message (.ok (.binary [])) ∧ proxy.returned = none ∧ proxy.peerDone = false := by
  by_contra other
  have kept : (proxy.step ops role io event).shutDown = false := by
    apply step_keeps (fun next => next.shutDown = false) notYet
    · intro earlier next holds _ same
      rw [same.shutDown]
      exact holds
    · intro data read running
      apply (keptByReading fun _ _ _ holds => holds).handleBinary notYet
      · rintro rfl peerOpen
        exact absurd ⟨read, running, peerOpen⟩ other
      · exact running
    · intro bytes _ running
      exact (keptBySending fun _ _ _ holds => holds).handleChunk notYet (fun _ => notYet)
        (fun _ => notYet) running
  simp [kept] at shutDown

theorem step_written
    (ended : ∀ data, event = .message (.ok (.binary data)) → data = [] ∨ proxy.peerDone = true) :
    (proxy.step ops role io event).written = proxy.written := by
  apply step_keeps (fun next => next.written = proxy.written) rfl
  · intro earlier next holds _ same
    rw [same.written]
    exact holds
  · intro data read running
    unfold handleBinary
    cases done : proxy.peerDone with
    | true => exact rfl
    | false =>
      obtain rfl : data = [] := by simpa [done] using ended data read
      simp only [shutdown]
      cases io.shutdown with
      | ok _ => exact ⟨rfl, running⟩
      | error reason => exact rfl
  · intro bytes _ running
    exact (keptBySending fun _ _ _ holds => holds).handleChunk rfl (fun _ => rfl) (fun _ => rfl)
      running

end ProxyTask

end Oak.Proxy
