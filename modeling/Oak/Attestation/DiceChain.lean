import Oak.Dice.Attester

namespace Oak.Attestation

open Oak.Data Oak.Tr Oak.Dice Oak.Data.Anyhow

/-! Verification of a DICE chain and of the event log that it captures
(`oak_attestation_verification/src/verifier.rs`). -/

inductive EventLogType where
  | originalEventLog
  | transparentEventLog
deriving Repr, DecidableEq

/-- `EventIdType`: the claim that holds the digests for a log. -/
def EventLogType.label : EventLogType → Int
  | .originalEventLog => eventId
  | .transparentEventLog => transparentEventId

structure EventData where
  event : Option RawDigest

section Claims

variable (crates : DiceCrates)

def claimsSetFromSerializedCert (slice : Bytes) : Anyhow.Result ClaimsSet := do
  let cert ← mapText (fun _ => "could not parse certificate") (crates.sign1FromSlice slice)
  let payload ← present "no signing cert payload" cert.payload
  mapText (fun _ => "could not parse claims set") (crates.claimsFromSlice payload)

def extractValueFromClaimsSet (claims : ClaimsSet) (labelId : Int) : Anyhow.Result Value :=
  present ("couldn't find value " ++ toString labelId)
    (claims.rest.findSome? fun claim => if claim.1 = .privateUse labelId then some claim.2 else none)

/-- A later entry of the map overwrites an earlier one. -/
def addDigest (result : RawDigest) (entry : Value × Value) : Anyhow.Result RawDigest :=
  match entry.2.asBytes with
  | none => bail "digest is not a byte array"
  | some bytes =>
    if entry.1.isInteger sha2256Id then .ok (Function.update result .sha2_256 bytes)
    else bail "digest is not a byte array"

def valueToRawDigest : Value → Anyhow.Result RawDigest
  | .map entries => entries.foldlM addDigest fun _ => []
  | _ => bail "value is not a map of digests"

def extractEventData (claims : ClaimsSet) (type : EventLogType) : Anyhow.Result EventData := do
  let values ← context "extracting event data from claims"
    (extractValueFromClaimsSet claims type.label)
  let event ← valueToRawDigest values
  return ⟨some event⟩

/-- `Sha256::try_from`. -/
def sha256TryFrom (bytes : Bytes) : Anyhow.Result (Block 32) :=
  present ("invalid digest length: expected 32, got " ++ toString bytes.length)
    (Block.ofBytes? 32 bytes)

def checkEventHash (encodedEvent : Bytes) (digest : RawDigest) (mismatch : String) :
    Anyhow.Result Unit := do
  let expected ← sha256TryFrom (digest .sha2_256)
  ensure (crates.sha2.sha256 encodedEvent = expected) mismatch

def validateEventInLayer (type : EventLogType) (layer : LayerEvidence) (encodedEvent : Bytes) :
    Anyhow.Result Unit := do
  let claims ← rewrap (fun _ => "could not parse claims set")
    (claimsSetFromSerializedCert crates layer.ecaCertificate)
  let data ← context "extracting event data" (extractEventData claims type)
  let digest ← present "missing event" data.event
  checkEventHash crates encodedEvent digest "event log hash mismatch"

def validateThatEventLogIsCapturedInDiceLayers (eventLog : EventLog) (layers : List LayerEvidence)
    (type : EventLogType) : Anyhow.Result Unit := do
  ensure (layers.length = eventLog.encodedEvents.length)
    ("event log has " ++ toString eventLog.encodedEvents.length ++
      " events but the DICE chain has " ++ toString layers.length ++ " layers")
  (layers.zip eventLog.encodedEvents).forM fun entry =>
    validateEventInLayer crates type entry.1 entry.2

/-- The event of the application, which the Restricted Kernel has no layer for. -/
def validateApplicationEvent (applicationKeys : Option ApplicationKeys) (type : EventLogType)
    (encodedEvent : Bytes) : Anyhow.Result Unit := do
  let applKeys ← present "no application keys for RK event validation" applicationKeys
  let claims ← rewrap (fun _ => "could not parse application key certificate claims")
    (claimsSetFromSerializedCert crates applKeys.encryptionPublicKeyCertificate)
  let data ← context "extracting event data from application key certificate"
    (extractEventData claims type)
  let digest ← present "missing event digest in application key certificate" data.event
  checkEventHash crates encodedEvent digest
    "application event hash mismatch between event log and application key certificate"

def validateEventsAndLayers (eventLog : EventLog) (layers : List LayerEvidence)
    (applicationKeys : Option ApplicationKeys) (type : EventLogType) : Anyhow.Result Unit :=
  match layers, eventLog.encodedEvents with
  | [_], [first, second] => do
    validateApplicationEvent crates applicationKeys type second
    validateThatEventLogIsCapturedInDiceLayers crates ⟨[first]⟩ layers type
  | _, _ => validateThatEventLogIsCapturedInDiceLayers crates eventLog layers type

end Claims

section Chain

variable (crates : DiceCrates)

def rootLayerVerifyingKey (evidence : Evidence) : Anyhow.Result crates.VerifyingKey := do
  let rootLayer ← present "no root layer evidence" evidence.rootLayer
  let coseKey ← mapText (fun _ => "couldn't deserialize root layer public key")
    (crates.coseKeyFromSlice rootLayer.ecaPublicKey)
  mapText id (coseKeyToVerifyingKey crates coseKey)

def certifiedKey (claims : ClaimsSet) : Anyhow.Result crates.VerifyingKey := do
  let coseKey ← context "getting public key from claims"
    (mapText id (getPublicKeyFromClaimsSet crates claims))
  context "converting COSE key" (mapText id (coseKeyToVerifyingKey crates coseKey))

/-- One layer of the chain.  The callers write the failure to parse in different words. -/
def verifyLayer (couldNot : String) (previous : crates.VerifyingKey) (layer : LayerEvidence) :
    Anyhow.Result crates.VerifyingKey := do
  let cert ← mapText (fun _ => couldNot ++ " parse certificate")
    (crates.sign1FromSlice layer.ecaCertificate)
  mapText id (cert.verifySignature crates previous)
  let payload ← present "no cert payload" cert.payload
  let claims ← mapText (fun _ => couldNot ++ " parse claims set")
    (crates.claimsFromSlice payload)
  certifiedKey crates claims

def EventLogType.logOf (type : EventLogType) (evidence : Evidence) : Anyhow.Result EventLog :=
  match type with
  | .originalEventLog =>
    present "event log is not present in the evidence" evidence.eventLog
  | .transparentEventLog =>
    present "transparent event log is not present in the evidence"
      evidence.transparentEventLog

def verifyDiceChain (evidence : Evidence) (type : EventLogType) :
    Anyhow.Result crates.VerifyingKey := do
  let root ← rootLayerVerifyingKey crates evidence
  let last ← context "verifying DICE chain"
    (evidence.layers.foldlM (verifyLayer crates "couldn't") root)
  let eventLog ← type.logOf evidence
  context "validating that event log is captured in DICE layers"
    (validateEventsAndLayers crates eventLog evidence.layers evidence.applicationKeys type)
  return last

end Chain

section Meaning

variable {crates : DiceCrates}

variable {type : EventLogType}

theorem verifyDiceChain_eq_ok {evidence : Evidence} {key : crates.VerifyingKey} :
    verifyDiceChain crates evidence type = .ok key ↔
      (∃ root, rootLayerVerifyingKey crates evidence = .ok root ∧
        evidence.layers.foldlM (verifyLayer crates "couldn't") root = .ok key) ∧
      ∃ eventLog, type.logOf evidence = .ok eventLog ∧
        validateEventsAndLayers crates eventLog evidence.layers evidence.applicationKeys type =
          .ok () := by
  simp only [verifyDiceChain, bind_eq_ok, context_eq_ok, pure_eq_ok]
  constructor
  · intro holds
    obtain ⟨root, isRoot, last, chain, eventLog, found, _, captured, same⟩ := holds
    subst same
    exact ⟨⟨root, isRoot, chain⟩, eventLog, found, captured⟩
  · intro holds
    obtain ⟨⟨root, isRoot, chain⟩, eventLog, found, captured⟩ := holds
    exact ⟨root, isRoot, key, chain, eventLog, found, (), captured, rfl⟩

theorem validateThatEventLogIsCapturedInDiceLayers_eq_ok {eventLog : EventLog}
    {layers : List LayerEvidence} :
    validateThatEventLogIsCapturedInDiceLayers crates eventLog layers type = .ok () ↔
      List.Forall₂ (fun layer event => validateEventInLayer crates type layer event = .ok ())
        layers eventLog.encodedEvents := by
  rw [validateThatEventLogIsCapturedInDiceLayers, unit_bind_eq_ok, ensure_eq_ok,
    forM_eq_ok_iff, List.forall₂_iff_zip]
  apply and_congr_right
  intro _
  constructor
  · intro all layer event member
    exact all (layer, event) member
  · intro all entry member
    exact all member

theorem validateEventsAndLayers_none {eventLog : EventLog} {layers : List LayerEvidence} :
    validateEventsAndLayers crates eventLog layers none type = .ok () ↔
      List.Forall₂ (fun layer event => validateEventInLayer crates type layer event = .ok ())
        layers eventLog.encodedEvents := by
  unfold validateEventsAndLayers
  split
  · next layer first second events =>
      constructor
      · intro accepted
        cases accepted
      · intro all
        rw [events] at all
        cases all with
        | cons _ rest => cases rest
  · exact validateThatEventLogIsCapturedInDiceLayers_eq_ok

end Meaning

end Oak.Attestation
