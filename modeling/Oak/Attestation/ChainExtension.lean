import Oak.Attestation.DiceChain

namespace Oak.Attestation

open Oak.Data Oak.Tr Oak.Dice Oak.Data.Anyhow

/-! What an attester adds to a DICE chain, and what the verifier finds in it. -/

def eventClaims (digests : List (Int × Bytes)) : List (ClaimName × Value) :=
  digests.map fun entry => (.privateUse entry.1, .map [(.integer sha2256Id, .bytes entry.2)])

/-- What is signed verifies, and what is encoded is decoded again. -/
structure CorrectCrates (crates : DiceCrates) : Prop where
  signature : ∀ key contents, ∃ signature,
    crates.signatureFromSlice (crates.sign key contents) = .ok signature ∧
      crates.verify (crates.verifyingKey key) contents signature = .ok ()
  point : ∀ key, crates.fromCoordinates (crates.coordinates key).1 (crates.coordinates key).2 = some key
  signingKey : ∀ key, crates.signingKeyFromSlice (crates.signingKeyToBytes key) = .ok key
  coseKey : ∀ key, ∃ bytes, crates.coseKeyToVec (verifyingKeyToCoseKey crates key) = .ok bytes ∧
    crates.coseKeyFromSlice bytes = .ok (verifyingKeyToCoseKey crates key)
  claims : ∀ issuerId publicKeyId publicKey digests,
    (subjectPublicKeyId :: keyUsageId :: digests.map Prod.fst).Nodup →
      ∃ bytes, crates.claimsToVec (certificateClaims issuerId publicKeyId publicKey
          (eventClaims digests)) = .ok bytes ∧
        crates.claimsFromSlice bytes =
          .ok (certificateClaims issuerId publicKeyId publicKey (eventClaims digests))
  certificate : ∀ key payload, ∃ bytes,
    crates.sign1ToVec (signCertificate crates key payload) = .ok bytes ∧
      crates.sign1FromSlice bytes = .ok (signCertificate crates key payload)

def CorrectCodec (codec : DiceDataCodec) : Prop :=
  ∀ data, codec.decode (codec.encode data) = .ok data

variable {claims : ClaimsSet}

section Layer

variable {crates : DiceCrates}

theorem coseKeyToVerifyingKey_verifyingKeyToCoseKey (correct : CorrectCrates crates)
    (key : crates.VerifyingKey) :
    coseKeyToVerifyingKey crates (verifyingKeyToCoseKey crates key) = .ok key := by
  have checked : checkCoseKey (verifyingKeyToCoseKey crates key) .ec2 .es256 .verify 1 = .ok () := rfl
  have x : findCoordinate (verifyingKeyToCoseKey crates key).params (-2) "x" =
      .ok (crates.coordinates key).1 := by
    have found : findBytes (verifyingKeyToCoseKey crates key).params (-2) =
        some (crates.coordinates key).1.toList := rfl
    rw [findCoordinate, found]
    simp
  have y : findCoordinate (verifyingKeyToCoseKey crates key).params (-3) "y" =
      .ok (crates.coordinates key).2 := by
    have found : findBytes (verifyingKeyToCoseKey crates key).params (-3) =
        some (crates.coordinates key).2.toList := rfl
    rw [findCoordinate, found]
    simp
  refine except_bind_eq_ok.mpr ⟨(), checked, except_bind_eq_ok.mpr ⟨_, x, except_bind_eq_ok.mpr
    ⟨_, y, ?_⟩⟩⟩
  simp only [correct.point]

/-- The certificate that the key of one layer signs for the key of the next. -/
def layerClaims (crates : DiceCrates) (issuerId : Text) (fresh : crates.SigningKey) (key : Bytes)
    (digests : List (Int × Bytes)) : ClaimsSet :=
  certificateClaims issuerId
    (Hex.encode (deriveVerifyingKeyId crates (crates.verifyingKey fresh)).toList) key
    (eventClaims digests)

variable {issuerId : Text}

/-- A new layer can be made, its certificate verifies with the key before it, and what it holds can be
read back. -/
theorem nextLayer_verifies (correct : CorrectCrates crates) {attester : DiceAttester crates}
    (issuer : attester.getIssuerId = .ok issuerId) (fresh : crates.SigningKey)
    (digests : List (Int × Bytes))
    (distinct : (subjectPublicKeyId :: keyUsageId :: digests.map Prod.fst).Nodup) :
    ∃ layer key, attester.nextLayer fresh (eventClaims digests) = .ok layer ∧
      verifyLayer crates "couldn't" (crates.verifyingKey attester.signingKey) layer =
        .ok (crates.verifyingKey fresh) ∧ claimsSetFromSerializedCert crates layer.ecaCertificate =
        .ok (layerClaims crates issuerId fresh key digests) := by
  obtain ⟨key, encodedKey, decodedKey⟩ := correct.coseKey (crates.verifyingKey fresh)
  obtain ⟨payload, encodedClaims, decodedClaims⟩ := correct.claims issuerId
    (Hex.encode (deriveVerifyingKeyId crates (crates.verifyingKey fresh)).toList) key digests distinct
  obtain ⟨bytes, encoded, decoded⟩ := correct.certificate attester.signingKey payload
  obtain ⟨signature, parsed, verified⟩ := correct.signature attester.signingKey
    (crates.toBeSigned crates.es256Header emptyAdditionalData payload)
  refine ⟨⟨bytes⟩, key, ?_, ?_, ?_⟩
  · simp only [DiceAttester.nextLayer, bind_eq_ok, context_eq_ok, mapText_eq_ok]
    refine ⟨issuerId, issuer, signCertificate crates attester.signingKey payload, ?_, bytes, encoded,
      rfl⟩
    exact except_bind_eq_ok.mpr ⟨key, encodedKey, except_bind_eq_ok.mpr ⟨payload, encodedClaims, rfl⟩⟩
  · simp only [verifyLayer, bind_eq_ok, mapText_eq_ok]
    refine ⟨_, decoded, (), ?_, payload, rfl, _, decodedClaims, ?_⟩
    · exact except_bind_eq_ok.mpr ⟨signature, parsed, verified⟩
    · simp only [certifiedKey, bind_eq_ok, context_eq_ok, mapText_eq_ok]
      refine ⟨_, ?_, coseKeyToVerifyingKey_verifyingKeyToCoseKey correct _⟩
      rw [getPublicKeyFromClaimsSet]
      have found : (certificateClaims issuerId (Hex.encode (deriveVerifyingKeyId crates
          (crates.verifyingKey fresh)).toList) key (eventClaims digests)).rest.findSome? (fun claim =>
            if claim.1 = .privateUse subjectPublicKeyId then claim.2.asBytes else none) = some key := rfl
      rw [found]
      simp only [decodedKey]
  · simp only [claimsSetFromSerializedCert, bind_eq_ok, mapText_eq_ok]
    exact ⟨_, decoded, payload, rfl, decodedClaims⟩

/-- What a layer says about the events: for each log, which event it is the layer of. -/
structure Captures (crates : DiceCrates) (layer : LayerEvidence) (event : Bytes × Option Bytes) :
    Prop where
  subject : ∃ claims subject, claimsSetFromSerializedCert crates layer.ecaCertificate = .ok claims ∧
    claims.subject = some subject
  original : ∀ candidate,
    validateEventInLayer crates .originalEventLog layer candidate = .ok () ↔
      crates.sha2.sha256 candidate = crates.sha2.sha256 event.1
  transparent : ∀ candidate,
    validateEventInLayer crates .transparentEventLog layer candidate = .ok () ↔
      ∃ measured ∈ event.2, crates.sha2.sha256 candidate = crates.sha2.sha256 measured

theorem valueToRawDigest_digest (digest : Bytes) :
    valueToRawDigest (.map [(.integer sha2256Id, .bytes digest)]) =
      .ok (Function.update (fun _ => []) .sha2_256 digest) := rfl

variable {layer : LayerEvidence}

theorem validateEventInLayer_eq_ok {type : EventLogType} {candidate : Bytes}
    (parsed : claimsSetFromSerializedCert crates layer.ecaCertificate = .ok claims) :
    validateEventInLayer crates type layer candidate = .ok () ↔
      ∃ value digest, extractValueFromClaimsSet claims type.label = .ok value ∧
        valueToRawDigest value = .ok digest ∧
          (crates.sha2.sha256 candidate).toList = digest .sha2_256 := by
  simp only [validateEventInLayer, parsed, bind_eq_ok, context_eq_ok, extractEventData, pure_eq_ok,
    present_eq_ok, checkEventHash, sha256TryFrom, ensure_eq_ok]
  constructor
  · intro holds
    obtain ⟨_, same, data, ⟨value, found, digest, isDigest, isData⟩, event, present, block, sized,
      equal⟩ := holds
    cases same
    subst isData
    cases present
    exact ⟨value, digest, found, isDigest, by rw [equal, Block.toList_of_ofBytes? sized]⟩
  · intro holds
    obtain ⟨value, digest, found, isDigest, equal⟩ := holds
    refine ⟨claims, rfl, ⟨some digest⟩, ⟨value, found, digest, isDigest, rfl⟩, digest, rfl, _, ?_, rfl⟩
    rw [← equal, Block.ofBytes?_toList]

theorem validateEventInLayer_digest {type : EventLogType} {candidate event : Bytes}
    (parsed : claimsSetFromSerializedCert crates layer.ecaCertificate = .ok claims)
    (found : extractValueFromClaimsSet claims type.label =
      .ok (.map [(.integer sha2256Id, .bytes (crates.sha2.sha256 event).toList)])) :
    validateEventInLayer crates type layer candidate = .ok () ↔
      crates.sha2.sha256 candidate = crates.sha2.sha256 event := by
  rw [validateEventInLayer_eq_ok parsed]
  constructor
  · intro ⟨value, digest, again, isDigest, equal⟩
    cases found.symm.trans again
    cases (valueToRawDigest_digest _).symm.trans isDigest
    exact List.Vector.toList_injective equal
  · intro same
    refine ⟨_, _, found, valueToRawDigest_digest _, ?_⟩
    rw [Function.update_self, same]

theorem captures_extend {fresh : crates.SigningKey} {key event : Bytes}
    (parsed : claimsSetFromSerializedCert crates layer.ecaCertificate =
      .ok (layerClaims crates issuerId fresh key [(eventId, (crates.sha2.sha256 event).toList)])) :
    Captures crates layer (event, none) := by
  refine ⟨⟨_, _, parsed, rfl⟩, fun candidate => validateEventInLayer_digest parsed rfl,
    fun candidate => ?_⟩
  rw [validateEventInLayer_eq_ok parsed]
  constructor
  · intro ⟨value, _, found, _⟩
    cases found
  · intro ⟨_, member, _⟩
    cases member

theorem captures_extendTransparent {fresh : crates.SigningKey} {key original transparent : Bytes}
    (parsed : claimsSetFromSerializedCert crates layer.ecaCertificate =
      .ok (layerClaims crates issuerId fresh key [(eventId, (crates.sha2.sha256 original).toList),
        (transparentEventId, (crates.sha2.sha256 transparent).toList)])) :
    Captures crates layer (original, some transparent) := by
  refine ⟨⟨_, _, parsed, rfl⟩, fun candidate => validateEventInLayer_digest parsed rfl,
    fun candidate => ?_⟩
  have digest : validateEventInLayer crates .transparentEventLog layer candidate = .ok () ↔
      crates.sha2.sha256 candidate = crates.sha2.sha256 transparent :=
    validateEventInLayer_digest parsed rfl
  rw [digest]
  constructor
  · intro same
    exact ⟨transparent, rfl, same⟩
  · intro ⟨_, member, same⟩
    cases member
    exact same

end Layer

section Run

variable {crates : DiceCrates}

/-- What is done with an attester.  The fresh keys are those that the calls draw. -/
inductive Step (crates : DiceCrates) where
  | extend (fresh : crates.SigningKey) (event : Bytes)
  | extendTransparent (fresh : crates.SigningKey) (original transparent : Bytes)
  /-- Serialized, and deserialized by the next component. -/
  | handOn

def Step.measured : Step crates → Option (Bytes × Option Bytes)
  | .extend _ event => some (event, none)
  | .extendTransparent _ original transparent => some (original, some transparent)
  | .handOn => none

def Step.apply (codec : DiceDataCodec) (attester : DiceAttester crates) :
    Step crates → Outcome Anyhow (DiceAttester crates)
  | .extend fresh event => Outcome.returned (attester.extend fresh event)
  | .extendTransparent fresh original transparent =>
    Outcome.returned (attester.extendTransparent fresh original transparent)
  | .handOn => do
    let bytes ← attester.serialize codec
    DiceAttester.deserialize codec bytes

def run (codec : DiceDataCodec) (attester : DiceAttester crates) (steps : List (Step crates)) :
    Outcome Anyhow (DiceAttester crates) :=
  steps.foldlM (Step.apply codec) attester

/-- The attester has measured these events, on top of a root layer with this key. -/
structure Represents (root : crates.VerifyingKey) (attester : DiceAttester crates)
    (events : List (Bytes × Option Bytes)) : Prop where
  rootLayer : rootLayerVerifyingKey crates attester.evidence = .ok root
  applicationKeys : attester.evidence.applicationKeys = none
  chain : attester.evidence.layers.foldlM (verifyLayer crates "couldn't") root =
    .ok (crates.verifyingKey attester.signingKey)
  layers : List.Forall₂ (Captures crates) attester.evidence.layers events
  eventLog : attester.evidence.eventLog.getD ⟨[]⟩ = ⟨events.map Prod.fst⟩
  transparentEventLog : attester.evidence.transparentEventLog.getD ⟨[]⟩ = ⟨events.filterMap Prod.snd⟩

variable {root : crates.VerifyingKey} {attester : DiceAttester crates}
  {events : List (Bytes × Option Bytes)}

theorem getClaimsSetFromCertificateBytes_of_parsed {bytes : Bytes}
    (parsed : claimsSetFromSerializedCert crates bytes = .ok claims) :
    getClaimsSetFromCertificateBytes crates bytes = .ok claims := by
  simp only [claimsSetFromSerializedCert, bind_eq_ok, mapText_eq_ok,
    present_eq_ok] at parsed
  obtain ⟨cert, decoded, payload, found, claims⟩ := parsed
  refine except_bind_eq_ok.mpr ⟨cert, decoded, ?_⟩
  rw [found]
  exact claims

theorem exists_captured {layers : List LayerEvidence} {layer : LayerEvidence}
    (all : List.Forall₂ (Captures crates) layers events) (member : layer ∈ layers) :
    ∃ event, Captures crates layer event := by
  induction all with
  | nil => cases member
  | cons captures _ ih =>
    rcases List.mem_cons.mp member with first | later
    · subst first
      exact ⟨_, captures⟩
    · exact ih later

theorem Represents.issuer (represents : Represents root attester events) :
    ∃ issuerId, attester.getIssuerId = .ok issuerId := by
  rw [DiceAttester.getIssuerId]
  cases last : attester.evidence.layers.getLast? with
  | none =>
    obtain ⟨rootLayer, found, rest⟩ := bind_eq_ok.mp represents.rootLayer
    obtain ⟨coseKey, decoded, converted⟩ := bind_eq_ok.mp rest
    refine ⟨_, bind_eq_ok.mpr ⟨rootLayer, present_eq_ok.mpr
      (present_eq_ok.mp found), bind_eq_ok.mpr ⟨coseKey, mapText_eq_ok.mpr
        (mapText_eq_ok.mp decoded), bind_eq_ok.mpr ⟨root, converted, rfl⟩⟩⟩⟩
  | some layer =>
    obtain ⟨event, captures⟩ := exists_captured represents.layers (List.mem_of_getLast? last)
    obtain ⟨claims, subject, parsed, found⟩ := captures.subject
    refine ⟨subject, bind_eq_ok.mpr ⟨claims, ?_, present_eq_ok.mpr found⟩⟩
    exact mapText_eq_ok.mpr (getClaimsSetFromCertificateBytes_of_parsed parsed)

theorem Represents.append {next : DiceAttester crates} {layer : LayerEvidence}
    {event : Bytes × Option Bytes} (represents : Represents root attester events)
    (sameRoot : next.evidence.rootLayer = attester.evidence.rootLayer)
    (sameKeys : next.evidence.applicationKeys = attester.evidence.applicationKeys)
    (layers : next.evidence.layers = attester.evidence.layers ++ [layer])
    (verified : verifyLayer crates "couldn't" (crates.verifyingKey attester.signingKey) layer =
      .ok (crates.verifyingKey next.signingKey)) (captures : Captures crates layer event)
    (eventLog : next.evidence.eventLog.getD ⟨[]⟩ = ⟨(events ++ [event]).map Prod.fst⟩)
    (transparentEventLog :
      next.evidence.transparentEventLog.getD ⟨[]⟩ = ⟨(events ++ [event]).filterMap Prod.snd⟩) :
    Represents root next (events ++ [event]) := by
  refine ⟨?_, sameKeys.trans represents.applicationKeys, ?_, ?_, eventLog, transparentEventLog⟩
  · have rootLayer := represents.rootLayer
    rw [rootLayerVerifyingKey] at rootLayer ⊢
    rw [sameRoot]
    exact rootLayer
  · rw [layers, List.foldlM_append]
    refine bind_eq_ok.mpr ⟨_, represents.chain, ?_⟩
    exact bind_eq_ok.mpr ⟨_, verified, rfl⟩
  · rw [layers]
    exact List.rel_append represents.layers (List.Forall₂.cons captures List.Forall₂.nil)

theorem distinct_event : [subjectPublicKeyId, keyUsageId, eventId].Nodup := by decide

theorem distinct_transparentEvent :
    [subjectPublicKeyId, keyUsageId, eventId, transparentEventId].Nodup := by decide

theorem Represents.extend (correct : CorrectCrates crates)
    (represents : Represents root attester events) (fresh : crates.SigningKey) (event : Bytes) :
    ∃ next, attester.extend fresh event = .ok next ∧
      Represents root next (events ++ [(event, none)]) := by
  obtain ⟨issuerId, issuer⟩ := represents.issuer
  obtain ⟨layer, key, made, verified, parsed⟩ := nextLayer_verifies correct issuer fresh
    [(eventId, (crates.sha2.sha256 event).toList)] distinct_event
  refine ⟨_, bind_eq_ok.mpr ⟨layer, made, rfl⟩, ?_⟩
  refine represents.append rfl rfl rfl verified (captures_extend parsed) ?_ ?_
  · simp [EventLog.push, represents.eventLog]
  · simp [represents.transparentEventLog]

theorem Represents.extendTransparent (correct : CorrectCrates crates)
    (represents : Represents root attester events) (fresh : crates.SigningKey)
    (original transparent : Bytes) :
    ∃ next, attester.extendTransparent fresh original transparent = .ok next ∧
      Represents root next (events ++ [(original, some transparent)]) := by
  obtain ⟨issuerId, issuer⟩ := represents.issuer
  obtain ⟨layer, key, made, verified, parsed⟩ := nextLayer_verifies correct issuer fresh
    [(eventId, (crates.sha2.sha256 original).toList),
      (transparentEventId, (crates.sha2.sha256 transparent).toList)] distinct_transparentEvent
  refine ⟨_, bind_eq_ok.mpr ⟨layer, made, rfl⟩, ?_⟩
  refine represents.append rfl rfl rfl verified (captures_extendTransparent parsed) ?_ ?_
  · simp [EventLog.push, represents.eventLog]
  · simp [EventLog.push, represents.transparentEventLog]

variable {codec : DiceDataCodec}

theorem tryDecode_encode (exact : CorrectCodec codec) {data : DiceData}
    (fits : (codec.encode data).length + 8 < 2 ^ 63) :
    DiceAttester.tryDecodeLengthDelimitedProto codec
      (littleEndian 8 (codec.encode data).length ++ codec.encode data) = .ok data := by
  have taken : (littleEndian 8 (codec.encode data).length ++ codec.encode data).take 8 =
      littleEndian 8 (codec.encode data).length :=
    List.take_left' (littleEndian_length 8 _)
  have dropped : (littleEndian 8 (codec.encode data).length ++ codec.encode data).drop 8 =
      codec.encode data :=
    List.drop_left' (littleEndian_length 8 _)
  have length : ofLittleEndian (littleEndian 8 (codec.encode data).length) =
      (codec.encode data).length := by
    apply ofLittleEndian_littleEndian
    omega
  rw [DiceAttester.tryDecodeLengthDelimitedProto, if_neg (by simp)]
  simp only [taken, dropped, length, lt_irrefl, if_false, List.take_length]
  rw [Outcome.returned_eq_ok, context_eq_ok, mapText_eq_ok]
  exact exact data

section

variable (correct : CorrectCrates crates) (exact : CorrectCodec codec)

include correct exact

theorem handOn_cases
    (attester : DiceAttester crates) : Step.apply codec attester .handOn = .ok attester ∨
      Step.apply codec attester .handOn = .panic "capacity overflow" := by
  simp only [Step.apply, DiceAttester.serialize, DiceAttester.encodeLengthDelimitedProto]
  split
  · next fits =>
      left
      rw [Outcome.ok_bind]
      refine Outcome.bind_eq_ok.mpr ⟨_, Outcome.mapErr_eq_ok.mpr (tryDecode_encode exact fits), ?_⟩
      rw [Outcome.returned_eq_ok]
      simp only [DiceAttester.ofDiceData, bind_eq_ok, mapText_eq_ok]
      exact ⟨_, rfl, _, rfl, _, correct.signingKey _, rfl⟩
  · right
    rfl

theorem Represents.apply (represents : Represents root attester events) (step : Step crates) :
    (∃ next, step.apply codec attester = .ok next ∧
        Represents root next (events ++ step.measured.toList)) ∨
      step.apply codec attester = .panic "capacity overflow" := by
  cases step with
  | extend fresh event =>
    obtain ⟨next, extended, holds⟩ := represents.extend correct fresh event
    exact .inl ⟨next, Outcome.returned_eq_ok.mpr extended, holds⟩
  | extendTransparent fresh original transparent =>
    obtain ⟨next, extended, holds⟩ := represents.extendTransparent correct fresh original transparent
    exact .inl ⟨next, Outcome.returned_eq_ok.mpr extended, holds⟩
  | handOn =>
    rcases handOn_cases correct exact attester with same | full
    · refine .inl ⟨attester, same, ?_⟩
      rw [show (Step.handOn : Step crates).measured.toList = [] from rfl, List.append_nil]
      exact represents
    · exact .inr full

theorem Represents.run (represents : Represents root attester events) {steps : List (Step crates)}
    (fits : Attestation.run codec attester steps ≠ .panic "capacity overflow") :
    ∃ next, Attestation.run codec attester steps = .ok next ∧
      Represents root next (events ++ steps.filterMap Step.measured) := by
  induction steps generalizing attester events with
  | nil => exact ⟨attester, rfl, by rw [List.filterMap_nil, List.append_nil]; exact represents⟩
  | cons step rest ih =>
    rw [Attestation.run, List.foldlM_cons] at fits ⊢
    rcases represents.apply correct exact step with ⟨next, applied, holds⟩ | full
    · rw [applied] at fits ⊢
      obtain ⟨last, finished, final⟩ := ih holds fits
      refine ⟨last, finished, ?_⟩
      have measured : (step :: rest).filterMap Step.measured =
          step.measured.toList ++ rest.filterMap Step.measured := by
        rw [List.filterMap_cons]
        cases step.measured with
        | none | some => rfl
      rw [measured, ← List.append_assoc]
      exact final
    · rw [full] at fits
      exact absurd rfl fits

end

end Run

end Oak.Attestation
