import Oak.Crypto.Crypter

namespace Oak.Crypto

open Oak.Data

/-! The two sides of the Noise handshake.

The initiator is `client.rs` and the responder is `respond_nk`, `respond_nn`
and `respond_kk` of `mod.rs`.  The random bytes behind each ephemeral key are
an argument. -/

structure NoiseMessage where
  ephemeralPublicKey : Bytes
  ciphertext : Bytes
deriving Repr, DecidableEq

structure HandshakeInitiator where
  noise : Noise
  peerIdentityPubKey : Option PublicKey
  selfIdentityPrivKey : Option IdentityKeyHandle
  ephemeralPrivKey : P256Scalar

/-- A handshake's outcome on one side: the hash of the transcript and the
crypter for the traffic. -/
structure HandshakeKeys where
  handshakeHash : Key
  crypter : OrderedCrypter
deriving DecidableEq

namespace HandshakeInitiator

def newNk (peerPublicKey : PublicKey) (random : Block 32) : Outcome Empty HandshakeInitiator := do
  let ephemeralPrivKey ← P256Scalar.generate random
  return {
    noise := Noise.new .nk
    peerIdentityPubKey := some peerPublicKey
    selfIdentityPrivKey := none
    ephemeralPrivKey }

def newNn (random : Block 32) : Outcome Empty HandshakeInitiator := do
  let ephemeralPrivKey ← P256Scalar.generate random
  return {
    noise := Noise.new .nn
    peerIdentityPubKey := none
    selfIdentityPrivKey := none
    ephemeralPrivKey }

def newKk (peerPublicKey : PublicKey) (selfPrivKey : IdentityKeyHandle) (random : Block 32) :
    Outcome Empty HandshakeInitiator := do
  let ephemeralPrivKey ← P256Scalar.generate random
  return {
    noise := Noise.new .kk
    peerIdentityPubKey := some peerPublicKey
    selfIdentityPrivKey := some selfPrivKey
    ephemeralPrivKey }

variable (crypto : Primitives)

/-- `es`: the initiator's ephemeral key with the responder's static key. -/
def mixEs (initiator : HandshakeInitiator) (noise : Noise) : Outcome NoiseError Noise :=
  match initiator.peerIdentityPubKey with
  | none => .ok noise
  | some peer =>
    match crypto.p256ScalarMult initiator.ephemeralPrivKey peer with
    | .error _ => .err .invalidHandshake
    | .ok shared => .ok (noise.mixKey crypto shared.toList)

/-- `ss`: the two static keys. -/
def mixSs (initiator : HandshakeInitiator) (noise : Noise) : Outcome NoiseError Noise :=
  match initiator.selfIdentityPrivKey with
  | none => .ok noise
  | some selfPrivKey =>
    match initiator.peerIdentityPubKey with
    | none => .err .missingPeerPublicKey
    | some peer =>
      ((selfPrivKey.deriveDhSecret peer.toList).mapErr fun _ => .invalidHandshake).map
        (noise.mixKey crypto)

/-- `se`: the initiator's static key with the responder's ephemeral key. -/
def mixSe (initiator : HandshakeInitiator) (responderEphemeral : Bytes) (noise : Noise) :
    Outcome NoiseError Noise :=
  match initiator.selfIdentityPrivKey with
  | none => .ok noise
  | some selfPrivKey =>
    ((selfPrivKey.deriveDhSecret responderEphemeral).mapErr fun _ => .invalidHandshake).map
      (noise.mixKey crypto)

def buildInitialMessage (initiator : HandshakeInitiator) :
    Outcome NoiseError NoiseMessage × HandshakeInitiator :=
  let prologue := initiator.noise.mixHash crypto [0]
  let known := match initiator.peerIdentityPubKey with
    | some peer => prologue.mixHashPoint crypto peer.toList
    | none => prologue
  match crypto.computePublicKey initiator.ephemeralPrivKey with
  | .error fault => (.error (fault.map Empty.elim), { initiator with noise := known })
  | .ok ephemeralPubKey =>
    let sent := (known.mixHash crypto ephemeralPubKey.toList).mixKey crypto ephemeralPubKey.toList
    match initiator.mixEs crypto sent with
    | .error fault => (.error fault, { initiator with noise := sent })
    | .ok afterEs =>
      match initiator.mixSs crypto afterEs with
      | .error fault => (.error fault, { initiator with noise := afterEs })
      | .ok afterSs =>
        let (ciphertext, noise) := afterSs.encryptAndHash crypto []
        (.ok { ciphertext, ephemeralPublicKey := ephemeralPubKey.toList },
          { initiator with noise })

def processResponse (initiator : HandshakeInitiator) (handshakeResponse : NoiseMessage) :
    Outcome NoiseError HandshakeKeys × HandshakeInitiator :=
  match Block.ofBytes? 65 handshakeResponse.ephemeralPublicKey with
  | none => (.err .decryptFailed, initiator)
  | some peerEphemeral =>
    match crypto.p256ScalarMult initiator.ephemeralPrivKey peerEphemeral with
    | .error _ => (.err .invalidHandshake, initiator)
    | .ok ee =>
      let received := ((initiator.noise.mixHash crypto
        handshakeResponse.ephemeralPublicKey).mixKey crypto
        handshakeResponse.ephemeralPublicKey).mixKey crypto ee.toList
      match initiator.mixSe crypto handshakeResponse.ephemeralPublicKey received with
      | .error fault => (.error fault, { initiator with noise := received })
      | .ok afterSe =>
        match afterSe.decryptAndHash crypto handshakeResponse.ciphertext with
        | (.error _, noise) => (.err .decryptFailed, { initiator with noise })
        | (.ok plaintext, noise) =>
          if plaintext.length = 0 then
            let (writeKey, readKey) := noise.trafficKeys crypto
            (.ok { handshakeHash := noise.handshakeHash
                   crypter := OrderedCrypter.new readKey writeKey },
              { initiator with noise })
          else
            (.panic "assertion failed: plaintext.len() == 0", { initiator with noise })

end HandshakeInitiator

structure Response where
  crypter : OrderedCrypter
  handshakeHash : Key
  response : NoiseMessage
deriving DecidableEq

section Responder

variable (crypto : Primitives)

/-- `se` as the responder computes it, from its ephemeral private key. -/
def responderMixSe (initiatorStaticPub : Option PublicKey) (ephemeralPriv : P256Scalar)
    (noise : Noise) : Outcome NoiseError Noise :=
  match initiatorStaticPub with
  | none => .ok noise
  | some initiatorStatic => do
    let ephemeralIdentity ← (IdentityKey.fromBytes ephemeralPriv.bytes).widen
    let shared ← (ephemeralIdentity.deriveDhSecret crypto initiatorStatic.toList).mapErr
      fun _ => NoiseError.invalidHandshake
    return noise.mixKey crypto shared

def finishResponse (noise : Noise) (inMessage : NoiseMessage)
    (initiatorStaticPub : Option PublicKey) (random : Block 32) : Outcome NoiseError Response :=
  match noise.decryptAndHash crypto inMessage.ciphertext with
  | (.error reason, _) => .err reason
  | (.ok plaintext, opened) =>
    if plaintext ≠ [] then .err .invalidHandshake
    else do
      let ephemeralPriv ← (P256Scalar.generate random).widen
      let ephemeralPubKey ← (crypto.computePublicKey ephemeralPriv).widen
      let sent := (opened.mixHash crypto ephemeralPubKey.toList).mixKey crypto
        ephemeralPubKey.toList
      let peerEphemeral ← match Block.ofBytes? 65 inMessage.ephemeralPublicKey with
        | none => .err .invalidPublicKey
        | some point => .ok point
      let ee ← match crypto.p256ScalarMult ephemeralPriv peerEphemeral with
        | .error _ => .err .invalidHandshake
        | .ok shared => .ok shared
      let afterSe ← responderMixSe crypto initiatorStaticPub ephemeralPriv
        (sent.mixKey crypto ee.toList)
      let (responseCiphertext, finished) := afterSe.encryptAndHash crypto []
      let keys := finished.trafficKeys crypto
      return {
        crypter := OrderedCrypter.new keys.1 keys.2
        handshakeHash := finished.handshakeHash
        response := {
          ciphertext := responseCiphertext
          ephemeralPublicKey := ephemeralPubKey.toList } }

/-- The prologue and the initiator's ephemeral key, with the responder's static
key in between when the pattern has one. -/
def receiveInitial (pattern : NoisePattern) (staticPub : Option Bytes) (inMessage : NoiseMessage) :
    Noise :=
  let prologue := (Noise.new pattern).mixHash crypto [0]
  let known := match staticPub with
    | some point => prologue.mixHashPoint crypto point
    | none => prologue
  (known.mixHash crypto inMessage.ephemeralPublicKey).mixKey crypto inMessage.ephemeralPublicKey

def respondNk (identityKey : IdentityKeyHandle) (inMessage : NoiseMessage) (random : Block 32) :
    Outcome NoiseError Response := do
  let publicKey ← identityKey.getPublicKey.mapErr fun _ => NoiseError.invalidPrivateKey
  let received := receiveInitial crypto .nk (some publicKey) inMessage
  let es ← (identityKey.deriveDhSecret inMessage.ephemeralPublicKey).mapErr
    fun _ => NoiseError.invalidHandshake
  finishResponse crypto (received.mixKey crypto es) inMessage none random

def respondNn (inMessage : NoiseMessage) (random : Block 32) : Outcome NoiseError Response :=
  finishResponse crypto (receiveInitial crypto .nn none inMessage) inMessage none random

def respondKk (identityPriv : IdentityKeyHandle) (initiatorStaticPub : Bytes)
    (inMessage : NoiseMessage) (random : Block 32) : Outcome NoiseError Response := do
  let publicKey ← identityPriv.getPublicKey.mapErr fun _ => NoiseError.invalidPrivateKey
  let received := receiveInitial crypto .kk (some publicKey) inMessage
  let es ← (identityPriv.deriveDhSecret inMessage.ephemeralPublicKey).mapErr
    fun _ => NoiseError.invalidHandshake
  let afterEs := received.mixKey crypto es
  let initiatorStatic ← match Block.ofBytes? 65 initiatorStaticPub with
    | none => .err .invalidPublicKey
    | some point => .ok point
  let ss ← (identityPriv.deriveDhSecret initiatorStatic.toList).mapErr
    fun _ => NoiseError.invalidHandshake
  finishResponse crypto (afterEs.mixKey crypto ss) inMessage (some initiatorStatic) random

end Responder

end Oak.Crypto
