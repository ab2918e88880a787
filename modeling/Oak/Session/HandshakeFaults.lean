import Oak.Crypto.HandshakeAgreement
import Oak.Session.Handshake

namespace Oak.Crypto

open Oak.Data HandshakeAgreement Oak.Data.Outcome

/-! Which messages of a peer make a side of the handshake panic. -/

/-- A handle of which no method panics. -/
structure IdentityKeyHandle.Quiet (handle : IdentityKeyHandle) : Prop where
  getPublicKey : ¬ handle.getPublicKey.IsPanic
  deriveDhSecret : ∀ peer, ¬ (handle.deriveDhSecret peer).IsPanic

variable {crypto : Primitives}

theorem deriveDhSecret_quiet (key : IdentityKey) (peer : Bytes) :
    ¬ (key.deriveDhSecret crypto peer).IsPanic := by
  rw [IdentityKey.deriveDhSecret]
  split
  · exact id
  · split <;> exact id

theorem KeyPair.quiet (pair : KeyPair crypto) : pair.identity.Quiet where
  getPublicKey := by
    rw [identity_publicKey]
    exact id
  deriveDhSecret := deriveDhSecret_quiet _

namespace HandshakeInitiator

def stateFor (crypto : Primitives) (initiator : HandshakeInitiator) (response : NoiseMessage) :
    Outcome NoiseError Noise :=
  match Block.ofBytes? 65 response.ephemeralPublicKey with
  | none => .err .decryptFailed
  | some peerEphemeral =>
    match crypto.p256ScalarMult initiator.ephemeralPrivKey peerEphemeral with
    | .error _ => .err .invalidHandshake
    | .ok ee => initiator.mixSe crypto response.ephemeralPublicKey
        (((initiator.noise.mixHash crypto response.ephemeralPublicKey).mixKey crypto
          response.ephemeralPublicKey).mixKey crypto ee.toList)

/-- The response was sealed with the key of the handshake, around a payload that is not empty. -/
def SealsPayload (crypto : Primitives) (initiator : HandshakeInitiator) (response : NoiseMessage) :
    Prop :=
  ∃ noise payload, initiator.stateFor crypto response = .ok noise ∧
    (noise.decryptAndHash crypto response.ciphertext).1 = .ok payload ∧ payload ≠ []

theorem mixSe_quiet {initiator : HandshakeInitiator}
    (quiet : ∀ key ∈ initiator.selfIdentityPrivKey, key.Quiet) (peer : Bytes) (noise : Noise) :
    ¬ (initiator.mixSe crypto peer noise).IsPanic := by
  rw [mixSe]
  cases held : initiator.selfIdentityPrivKey with
  | none => exact id
  | some key =>
    have fine := (quiet key held).deriveDhSecret peer
    dsimp only
    rcases derived : key.deriveDhSecret peer with (reason | message) | shared
    · exact id
    · rw [derived] at fine
      exact absurd trivial fine
    · exact id

theorem processResponse_not_isPanic_iff {initiator : HandshakeInitiator}
    (quiet : ∀ key ∈ initiator.selfIdentityPrivKey, key.Quiet) (response : NoiseMessage) :
    ¬ (initiator.processResponse crypto response).1.IsPanic ↔
      ¬ initiator.SealsPayload crypto response := by
  rw [processResponse, SealsPayload, stateFor]
  cases Block.ofBytes? 65 response.ephemeralPublicKey with
  | none => exact iff_of_true id (by rintro ⟨_, _, ⟨⟩, _⟩)
  | some peerEphemeral =>
    dsimp only
    cases crypto.p256ScalarMult initiator.ephemeralPrivKey peerEphemeral with
    | error reason => exact iff_of_true id (by rintro ⟨_, _, ⟨⟩, _⟩)
    | ok ee =>
      dsimp only
      generalize (((initiator.noise.mixHash crypto response.ephemeralPublicKey).mixKey crypto
        response.ephemeralPublicKey).mixKey crypto ee.toList) = received
      have fine := @mixSe_quiet crypto _ quiet response.ephemeralPublicKey received
      rcases mixed : initiator.mixSe crypto response.ephemeralPublicKey received with
        (reason | message) | noise
      · exact iff_of_true id (by rintro ⟨_, _, ⟨⟩, _⟩)
      · rw [mixed] at fine
        exact absurd trivial fine
      · dsimp only
        rcases opened : noise.decryptAndHash crypto response.ciphertext with ⟨reason | payload, next⟩
        · refine iff_of_true id ?_
          rintro ⟨_, payload, ⟨⟩, found, -⟩
          rw [opened] at found
          cases found
        · dsimp only
          split
          · next empty =>
            refine iff_of_true id ?_
            rintro ⟨_, other, ⟨⟩, found, nonempty⟩
            rw [opened] at found
            cases found
            exact nonempty (List.length_eq_zero_iff.mp empty)
          · next nonempty =>
            refine iff_of_false (fun fine => fine trivial) (not_not.mpr ?_)
            exact ⟨noise, payload, rfl, by rw [opened], fun empty => nonempty (by rw [empty]; rfl)⟩

end HandshakeInitiator

/-- The random bytes make a private key that has a public key. -/
def ValidRandom (crypto : Primitives) (random : Block 32) : Prop :=
  ∃ scalar publicKey, P256Scalar.generate random = .ok scalar ∧
    crypto.computePublicKey scalar = .ok publicKey

/-- The state in which a responder opens the ciphertext of an initial message, and the key of the
initiator for `se`. -/
def receive (crypto : Primitives) (pattern : NoisePattern) (identity : IdentityKeyHandle)
    (initiatorPublic : Bytes) (inMessage : NoiseMessage) :
    Outcome NoiseError (Noise × Option PublicKey) :=
  match pattern with
  | .nn => .ok (receiveInitial crypto .nn none inMessage, none)
  | .nk => do
    let publicKey ← identity.getPublicKey.mapErr fun _ => NoiseError.invalidPrivateKey
    let es ← (identity.deriveDhSecret inMessage.ephemeralPublicKey).mapErr
      fun _ => NoiseError.invalidHandshake
    .ok ((receiveInitial crypto .nk (some publicKey) inMessage).mixKey crypto es, none)
  | .kk => do
    let publicKey ← identity.getPublicKey.mapErr fun _ => NoiseError.invalidPrivateKey
    let es ← (identity.deriveDhSecret inMessage.ephemeralPublicKey).mapErr
      fun _ => NoiseError.invalidHandshake
    let initiatorStatic ← match Block.ofBytes? 65 initiatorPublic with
      | none => .err .invalidPublicKey
      | some point => .ok point
    let ss ← (identity.deriveDhSecret initiatorStatic.toList).mapErr
      fun _ => NoiseError.invalidHandshake
    .ok (((receiveInitial crypto .kk (some publicKey) inMessage).mixKey crypto es).mixKey crypto ss,
      some initiatorStatic)

theorem respond_eq (pattern : NoisePattern) (identity : IdentityKeyHandle) (initiatorPublic : Bytes)
    (inMessage : NoiseMessage) (random : Block 32) :
    respond crypto pattern identity initiatorPublic inMessage random =
      receive crypto pattern identity initiatorPublic inMessage >>= fun received =>
        finishResponse crypto received.1 inMessage received.2 random := by
  cases pattern with
  | nn => rfl
  | nk => simp [respond, respondNk, receive]
  | kk =>
    cases point : Block.ofBytes? 65 initiatorPublic <;>
      simp only [respond, respondKk, receive, point, bind_assoc, ok_bind]

theorem receive_quiet {identity : IdentityKeyHandle} (quiet : identity.Quiet) (pattern : NoisePattern)
    (initiatorPublic : Bytes) (inMessage : NoiseMessage) :
    ¬ (receive crypto pattern identity initiatorPublic inMessage).IsPanic := by
  have publicKey := not_isPanic_mapErr (fun _ => NoiseError.invalidPrivateKey)
    quiet.getPublicKey
  have secret (peer : Bytes) := not_isPanic_mapErr (fun _ => NoiseError.invalidHandshake)
    (quiet.deriveDhSecret peer)
  cases pattern with
  | nn => exact id
  | nk => exact not_isPanic_bind publicKey fun _ => not_isPanic_bind (secret _) fun _ => id
  | kk =>
    refine not_isPanic_bind publicKey fun _ => not_isPanic_bind (secret _) fun _ => ?_
    cases point : Block.ofBytes? 65 initiatorPublic with
    | none => exact id
    | some point =>
      dsimp only
      rw [ok_bind]
      exact not_isPanic_bind (secret _) fun _ => id

theorem responderMixSe_quiet (initiatorStatic : Option PublicKey) (ephemeralPriv : P256Scalar)
    (noise : Noise) : ¬ (responderMixSe crypto initiatorStatic ephemeralPriv noise).IsPanic := by
  cases initiatorStatic with
  | none => exact id
  | some point =>
    simp only [responderMixSe, IdentityKey.fromBytes, P256Scalar.fromBytes_bytes, Except.map,
      widen_ok, ok_bind]
    exact not_isPanic_bind (not_isPanic_mapErr _ (deriveDhSecret_quiet _ _)) fun _ => id

theorem finishResponse_not_isPanic_iff (noise : Noise) (inMessage : NoiseMessage)
    (initiatorStatic : Option PublicKey) (random : Block 32) :
    ¬ (finishResponse crypto noise inMessage initiatorStatic random).IsPanic ↔
      ((noise.decryptAndHash crypto inMessage.ciphertext).1 = .ok [] → ValidRandom crypto random) := by
  rw [finishResponse]
  rcases opened : noise.decryptAndHash crypto inMessage.ciphertext with ⟨reason | plaintext, next⟩
  · exact iff_of_true id (by simp)
  · dsimp only
    split
    · next nonempty =>
      exact iff_of_true id fun empty => absurd (Except.ok.inj empty) nonempty
    · next empty =>
      have empty := not_not.mp empty
      subst empty
      rcases generated : P256Scalar.generate random with (impossible | message) | scalar
      · cases impossible
      · refine iff_of_false (fun fine => fine trivial) fun valid => ?_
        obtain ⟨_, _, same, -⟩ := valid rfl
        cases generated.symm.trans same
      · rcases computed : crypto.computePublicKey scalar with (impossible | message) | publicKey
        · cases impossible
        · refine iff_of_false (fun fine => fine ?_) fun valid => ?_
          · rw [widen_ok, ok_bind, computed]
            trivial
          · obtain ⟨_, _, same, found⟩ := valid rfl
            cases generated.symm.trans same
            cases computed.symm.trans found
        · refine iff_of_true ?_ fun _ => ⟨scalar, publicKey, generated, computed⟩
          rw [widen_ok, ok_bind, computed, widen_ok]
          cases Block.ofBytes? 65 inMessage.ephemeralPublicKey with
          | none => exact id
          | some point =>
            simp only [ok_bind]
            cases crypto.p256ScalarMult scalar point with
            | error reason => exact id
            | ok ee => exact not_isPanic_bind (responderMixSe_quiet _ _ _) fun _ => id

/-- The responder takes the initial message as one of the initiator. -/
def Accepts (crypto : Primitives) (pattern : NoisePattern) (identity : IdentityKeyHandle)
    (initiatorPublic : Bytes) (inMessage : NoiseMessage) : Prop :=
  ∃ received, receive crypto pattern identity initiatorPublic inMessage = .ok received ∧
    (received.1.decryptAndHash crypto inMessage.ciphertext).1 = .ok []

theorem respond_not_isPanic_iff {identity : IdentityKeyHandle} (quiet : identity.Quiet)
    (pattern : NoisePattern) (initiatorPublic : Bytes) (inMessage : NoiseMessage) (random : Block 32) :
    ¬ (respond crypto pattern identity initiatorPublic inMessage random).IsPanic ↔
      (Accepts crypto pattern identity initiatorPublic inMessage → ValidRandom crypto random) := by
  rw [respond_eq, Accepts]
  have fine := @receive_quiet crypto _ quiet pattern initiatorPublic inMessage
  rcases received : receive crypto pattern identity initiatorPublic inMessage with
    (reason | message) | state
  · exact iff_of_true id (by rintro ⟨_, ⟨⟩, _⟩)
  · rw [received] at fine
    exact absurd trivial fine
  · rw [ok_bind, finishResponse_not_isPanic_iff]
    simp

end Oak.Crypto

namespace Oak.Session

open Oak.Data Oak.Crypto HandshakeAgreement

theorem client_keeps_no_keys {crypto : Primitives} {handler : ClientHandshakeHandler}
    (waiting : handler.handshakeResult = none) (message : HandshakeResponse)
    (refused : (handler.putIncomingMessage crypto message).1.IsErr) :
    (handler.putIncomingMessage crypto message).2.handshakeResult = none := by
  revert refused
  rw [ClientHandshakeHandler.putIncomingMessage, if_neg (by simp [waiting])]
  split
  · exact fun _ => waiting
  · split
    · exact fun _ => waiting
    · dsimp only
      split
      · split
        · exact fun _ => waiting
        · exact False.elim
      · exact False.elim

theorem server_keeps_no_keys {crypto : Primitives} {handler : ServerHandshakeHandler}
    (message : HandshakeRequest) (random : Block 32)
    (refused : (handler.putIncomingMessage crypto message random).1.IsErr) :
    (handler.putIncomingMessage crypto message random).2 = handler := by
  revert refused
  rw [ServerHandshakeHandler.putIncomingMessage]
  split
  · exact False.elim
  · split
    · exact False.elim
    · split
      · exact fun _ => rfl
      · split
        · exact fun _ => rfl
        · split
          · exact fun _ => rfl
          · split <;> exact False.elim

structure PeerHarmless (crypto : Primitives) (initiator : HandshakeInitiator)
    (handshakeResponse : NoiseMessage) (pattern : NoisePattern) (identity : IdentityKeyHandle)
    (initiatorPublic : Bytes) (inMessage : NoiseMessage) (random : Block 32) : Prop where
  initiatorReturns : ¬ (initiator.processResponse crypto handshakeResponse).1.IsPanic
  responderReturns : ¬ (respond crypto pattern identity initiatorPublic inMessage random).IsPanic
  clientKeyless : ∀ (handler : ClientHandshakeHandler) message, handler.handshakeResult = none →
    (handler.putIncomingMessage crypto message).1.IsErr →
    (handler.putIncomingMessage crypto message).2.handshakeResult = none
  serverKeyless : ∀ (handler : ServerHandshakeHandler) message,
    (handler.putIncomingMessage crypto message random).1.IsErr →
    (handler.putIncomingMessage crypto message random).2 = handler

/-- A peer crashes the initiator exactly with a payload sealed by the key of the handshake, and a
responder crashes exactly if it accepts a message and draws random bytes that are no key. -/
theorem peerHarmless_iff {crypto : Primitives} {initiator : HandshakeInitiator}
    (initiatorQuiet : ∀ key ∈ initiator.selfIdentityPrivKey, key.Quiet)
    {identity : IdentityKeyHandle} (responderQuiet : identity.Quiet)
    (handshakeResponse : NoiseMessage) (pattern : NoisePattern) (initiatorPublic : Bytes)
    (inMessage : NoiseMessage) (random : Block 32) :
    PeerHarmless crypto initiator handshakeResponse pattern identity initiatorPublic inMessage
        random ↔ ¬ initiator.SealsPayload crypto handshakeResponse ∧
      (Accepts crypto pattern identity initiatorPublic inMessage → ValidRandom crypto random) := by
  rw [← HandshakeInitiator.processResponse_not_isPanic_iff initiatorQuiet,
    ← respond_not_isPanic_iff responderQuiet]
  refine ⟨fun harmless => ⟨harmless.initiatorReturns, harmless.responderReturns⟩, fun fine => ?_⟩
  exact ⟨fine.1, fine.2, fun handler message waiting => client_keeps_no_keys waiting message,
    fun handler message => server_keeps_no_keys message random⟩

/-- An initiator of the pattern without static keys that has sent its message. -/
def waitingInitiator : HandshakeInitiator :=
  (HandshakeInitiator.buildInitialMessage Primitives.transparent
    { noise := Noise.new .nn
      peerIdentityPubKey := none
      selfIdentityPrivKey := none
      ephemeralPrivKey := ⟨⟨5, five_lt_p256Order⟩⟩ }).2

/-- A response with the given payload, by a responder that follows the protocol otherwise. -/
def responseWith (payload : Bytes) : NoiseMessage :=
  let ephemeralPublicKey := (Transparent.encodePoint ⟨7, by decide⟩).toList
  match waitingInitiator.stateFor Primitives.transparent ⟨ephemeralPublicKey, []⟩ with
  | .ok noise =>
    ⟨ephemeralPublicKey, (noise.encryptAndHash Primitives.transparent payload).1⟩
  | .error _ => ⟨ephemeralPublicKey, []⟩

theorem empty_response_harmless :
    PeerHarmless Primitives.transparent waitingInitiator (responseWith []) .nn
      (transparentPair ⟨⟨3, by decide⟩⟩).identity [] (responseWith [])
      (transparentPair ⟨⟨7, by decide⟩⟩).random := by
  have quiet : ∀ key ∈ waitingInitiator.selfIdentityPrivKey, key.Quiet := nofun
  refine (peerHarmless_iff quiet (KeyPair.quiet _) _ _ _ _ _).mpr ⟨?_, fun _ => ?_⟩
  · rw [← HandshakeInitiator.processResponse_not_isPanic_iff quiet]
    decide +kernel
  · exact ⟨_, _, (transparentPair ⟨⟨7, by decide⟩⟩).generated, (transparentPair ⟨⟨7, by decide⟩⟩).matching⟩

theorem payload_crashes_initiator :
    (waitingInitiator.processResponse Primitives.transparent (responseWith [1])).1.IsPanic := by
  decide +kernel

end Oak.Session
