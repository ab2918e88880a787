import Oak.Dice.Cert

namespace Oak.Dice

open Oak.Data Oak.Tr

/-! The attester that extends a DICE chain (`oak_attestation/src/dice.rs`). -/

structure RootLayerEvidence where
  platform : Int32
  remoteAttestationReport : Bytes
  ecaPublicKey : Bytes
deriving DecidableEq

structure LayerEvidence where
  ecaCertificate : Bytes
deriving DecidableEq

structure ApplicationKeys where
  encryptionPublicKeyCertificate : Bytes
  signingPublicKeyCertificate : Bytes
deriving DecidableEq

structure EventLog where
  encodedEvents : List Bytes
deriving DecidableEq

structure Evidence where
  rootLayer : Option RootLayerEvidence
  layers : List LayerEvidence
  applicationKeys : Option ApplicationKeys
  eventLog : Option EventLog
  transparentEventLog : Option EventLog
deriving DecidableEq

structure DiceData where
  evidence : Option Evidence
  certificateAuthority : Option Bytes
deriving DecidableEq

/-- Code outside the repository: the encoding of the message by the `prost` crate. -/
structure DiceDataCodec where
  encode : DiceData → Bytes
  decode : Bytes → Except String DiceData

structure DiceAttester (crates : DiceCrates) where
  evidence : Evidence
  signingKey : crates.SigningKey

def EventLog.push (log : Option EventLog) (event : Bytes) : Option EventLog :=
  some ⟨(log.getD ⟨[]⟩).encodedEvents ++ [event]⟩

namespace DiceAttester

variable {crates : DiceCrates}

def digestClaim (crates : DiceCrates) (id : Int) (event : Bytes) : ClaimName × Value :=
  (.privateUse id, .map [(.integer sha2256Id, .bytes (crates.sha2.sha256 event).toList)])

def getIssuerId (attester : DiceAttester crates) : Anyhow.Result Text :=
  match attester.evidence.layers.getLast? with
  | some last => do
    let claims ← Anyhow.mapText id (getClaimsSetFromCertificateBytes crates last.ecaCertificate)
    Anyhow.present "no subject in certificate" claims.subject
  | none => do
    let rootLayer ← Anyhow.present "no root layer evidence" attester.evidence.rootLayer
    let coseKey ← Anyhow.mapText id (crates.coseKeyFromSlice rootLayer.ecaPublicKey)
    let verifyingKey ← Anyhow.mapText id (coseKeyToVerifyingKey crates coseKey)
    return Hex.encode (deriveVerifyingKeyId crates verifyingKey).toList

def nextLayer (attester : DiceAttester crates) (fresh : crates.SigningKey)
    (claims : List (ClaimName × Value)) : Anyhow.Result LayerEvidence := do
  let issuerId ← attester.getIssuerId
  let ecaCertificate ← Anyhow.context "couldn't generate ECA certificate for the next layer"
    (Anyhow.mapText id (generateSigningCertificate crates attester.signingKey issuerId
      (crates.verifyingKey fresh) claims))
  let bytes ← Anyhow.mapText id (crates.sign1ToVec ecaCertificate)
  return ⟨bytes⟩

/-- The fresh key is an argument: `generate_ecdsa_key_pair` draws it. -/
def extend (attester : DiceAttester crates) (fresh : crates.SigningKey) (encodedEvent : Bytes) :
    Anyhow.Result (DiceAttester crates) := do
  let layer ← attester.nextLayer fresh [digestClaim crates eventId encodedEvent]
  return { evidence := { attester.evidence with
             layers := attester.evidence.layers ++ [layer]
             eventLog := EventLog.push attester.evidence.eventLog encodedEvent }
           signingKey := fresh }

def extendTransparent (attester : DiceAttester crates) (fresh : crates.SigningKey)
    (originalEncodedEvent transparentEncodedEvent : Bytes) : Anyhow.Result (DiceAttester crates) := do
  let layer ← attester.nextLayer fresh [digestClaim crates eventId originalEncodedEvent,
    digestClaim crates transparentEventId transparentEncodedEvent]
  return { evidence := { attester.evidence with
             layers := attester.evidence.layers ++ [layer]
             eventLog := EventLog.push attester.evidence.eventLog originalEncodedEvent
             transparentEventLog :=
               EventLog.push attester.evidence.transparentEventLog transparentEncodedEvent }
           signingKey := fresh }

def quote (attester : DiceAttester crates) : Evidence := attester.evidence

/-- The encoding must fit a vector, which has at most `isize::MAX` bytes. -/
def encodeLengthDelimitedProto (codec : DiceDataCodec) (message : DiceData) : Outcome Anyhow Bytes :=
  let body := codec.encode message
  if body.length + 8 < 2 ^ 63 then .ok (littleEndian 8 body.length ++ body)
  else .panic "capacity overflow"

def tryDecodeLengthDelimitedProto (codec : DiceDataCodec) (buffer : Bytes) :
    Outcome Anyhow DiceData :=
  if buffer.length < 8 then .panic "mid > len"
  else
    let length := ofLittleEndian (buffer.take 8)
    let rest := buffer.drop 8
    if rest.length < length then .err ["invalid buffer length"]
    else Outcome.returned (Anyhow.context "couldn't parse proto message"
      (Anyhow.mapText id (codec.decode (rest.take length))))

def serialize (codec : DiceDataCodec) (attester : DiceAttester crates) : Outcome Anyhow Bytes :=
  encodeLengthDelimitedProto codec
    { evidence := some attester.evidence
      certificateAuthority := some (crates.signingKeyToBytes attester.signingKey) }

/-- `TryFrom<DiceData>`. -/
def ofDiceData (diceData : DiceData) : Anyhow.Result (DiceAttester crates) := do
  let evidence ← Anyhow.present "no evidence" diceData.evidence
  let ecaPrivateKey ← Anyhow.present "no certificate authority" diceData.certificateAuthority
  let signingKey ← Anyhow.mapText id (crates.signingKeyFromSlice ecaPrivateKey)
  return { evidence, signingKey }

def deserialize (codec : DiceDataCodec) (bytes : Bytes) : Outcome Anyhow (DiceAttester crates) := do
  let diceData ← (tryDecodeLengthDelimitedProto codec bytes).mapErr
    ("couldn't parse DICE data: \x7b:?\x7d" :: ·)
  Outcome.returned (ofDiceData diceData)

end DiceAttester

end Oak.Dice
