import Oak.Attestation.ChainExtension
import Mathlib.Data.Countable.Basic
import Mathlib.Logic.Equiv.List

namespace Oak.Attestation

open Oak.Data Oak.Tr Oak.Dice

/-! DICE chains that an attester extends are verified. -/

section Run

variable {crates : DiceCrates} {root : crates.VerifyingKey} {attester : DiceAttester crates}
  {events : List (Bytes × Option Bytes)}

/-- No event of one list has the hash of a different one in the other. -/
def NoCollision (crates : DiceCrates) (first second : List Bytes) : Prop :=
  ∀ event ∈ first, ∀ candidate ∈ second,
    crates.sha2.sha256 candidate = crates.sha2.sha256 event → candidate = event

theorem eq_of_sameHashes {first second : List Bytes} (distinct : NoCollision crates first second)
    (same : List.Forall₂ (fun event candidate =>
      crates.sha2.sha256 candidate = crates.sha2.sha256 event) first second) :
    second = first := by
  induction same with
  | nil => rfl
  | cons equal _ ih =>
    have head := distinct _ List.mem_cons_self _ List.mem_cons_self equal
    have tail := ih fun event member candidate found =>
      distinct event (List.mem_cons_of_mem _ member) candidate (List.mem_cons_of_mem _ found)
    rw [head, tail]

/-- What a log of this kind says about an event. -/
def measuredIn : EventLogType → Bytes × Option Bytes → Option Bytes
  | .originalEventLog, event => some event.1
  | .transparentEventLog, event => event.2

theorem Captures.validate_iff {layer : LayerEvidence} {event : Bytes × Option Bytes}
    (captures : Captures crates layer event) (type : EventLogType) (candidate : Bytes) :
    validateEventInLayer crates type layer candidate = .ok () ↔ ∃ measured ∈ measuredIn type event,
      crates.sha2.sha256 candidate = crates.sha2.sha256 measured := by
  cases type with
  | originalEventLog => simpa [measuredIn] using captures.original candidate
  | transparentEventLog => exact captures.transparent candidate

variable {type : EventLogType}

theorem captured_iff {layers : List LayerEvidence} {log : List Bytes}
    (captured : List.Forall₂ (Captures crates) layers events) :
    List.Forall₂ (fun layer candidate => validateEventInLayer crates type layer candidate = .ok ())
      layers log ↔ (∀ event ∈ events, (measuredIn type event).isSome) ∧
      List.Forall₂ (fun event candidate => crates.sha2.sha256 candidate = crates.sha2.sha256 event)
        (events.filterMap (measuredIn type)) log := by
  induction captured generalizing log with
  | nil => simp
  | @cons layer event _ _ captures _ ih =>
    rw [List.forall_mem_cons, List.filterMap_cons]
    cases log with
    | nil => cases measuredIn type event <;> simp
    | cons candidate rest =>
      rw [List.forall₂_cons, captures.validate_iff, ih]
      cases measuredIn type event with
      | none => simp
      | some measured => simp [and_left_comm]

theorem measured_nonempty (nonempty : events ≠ [])
    (all : ∀ event ∈ events, (measuredIn type event).isSome) :
    events.filterMap (measuredIn type) ≠ [] := by
  obtain ⟨first, rest, rfl⟩ := List.exists_cons_of_ne_nil nonempty
  obtain ⟨measured, isMeasured⟩ := Option.isSome_iff_exists.mp (all first List.mem_cons_self)
  simp [isMeasured]

theorem measured_original (events : List (Bytes × Option Bytes)) :
    events.filterMap (measuredIn .originalEventLog) = events.map Prod.fst :=
  congrFun List.filterMap_eq_map events

theorem logOf_original {evidence : Evidence} {log : EventLog} :
    EventLogType.originalEventLog.logOf evidence = .ok log ↔ evidence.eventLog = some log :=
  Anyhow.present_eq_ok

theorem logOf_transparent {evidence : Evidence} {log : EventLog} :
    EventLogType.transparentEventLog.logOf evidence = .ok log ↔
      evidence.transparentEventLog = some log :=
  Anyhow.present_eq_ok

theorem eq_some_of_getD {log : Option EventLog} {contents : List Bytes}
    (same : log.getD ⟨[]⟩ = ⟨contents⟩) (nonempty : contents ≠ []) : log = some ⟨contents⟩ := by
  cases log with
  | none =>
    cases same
    exact absurd rfl nonempty
  | some found => exact congrArg some same

section

variable (represents : Represents root attester events)

include represents

theorem Represents.accepted
    (found : type.logOf attester.evidence = .ok ⟨events.filterMap (measuredIn type)⟩)
    (all : ∀ event ∈ events, (measuredIn type event).isSome) :
    verifyDiceChain crates attester.quote type = .ok (crates.verifyingKey attester.signingKey) := by
  refine verifyDiceChain_eq_ok.mpr ⟨⟨root, represents.rootLayer, represents.chain⟩, _, found, ?_⟩
  rw [DiceAttester.quote, represents.applicationKeys, validateEventsAndLayers_none,
    captured_iff represents.layers]
  exact ⟨all, List.forall₂_same.mpr fun _ _ => rfl⟩

/-- A log that is accepted in place of the attester's own has an entry for every event, with the
same hash. -/
theorem Represents.log_unique {evidence : Evidence} {key : crates.VerifyingKey}
    (accepted : verifyDiceChain crates evidence type = .ok key)
    (layers : evidence.layers = attester.evidence.layers)
    (applicationKeys : evidence.applicationKeys = attester.evidence.applicationKeys) :
    ∃ log, type.logOf evidence = .ok log ∧
      (∀ event ∈ events, (measuredIn type event).isSome) ∧
      (NoCollision crates (events.filterMap (measuredIn type)) log.encodedEvents →
        log = ⟨events.filterMap (measuredIn type)⟩) := by
  obtain ⟨-, log, present, captured⟩ := verifyDiceChain_eq_ok.mp accepted
  rw [layers, applicationKeys, represents.applicationKeys, validateEventsAndLayers_none,
    captured_iff represents.layers] at captured
  exact ⟨log, present, captured.1, fun distinct =>
    congrArg EventLog.mk (eq_of_sameHashes distinct captured.2)⟩

end

/-- Nothing is measured yet, and the key in the root layer is that of the attester. -/
structure Fresh (attester : DiceAttester crates) : Prop where
  rootLayer : rootLayerVerifyingKey crates attester.evidence =
    .ok (crates.verifyingKey attester.signingKey)
  layers : attester.evidence.layers = []
  applicationKeys : attester.evidence.applicationKeys = none
  eventLog : attester.evidence.eventLog.getD ⟨[]⟩ = ⟨[]⟩
  transparentEventLog : attester.evidence.transparentEventLog.getD ⟨[]⟩ = ⟨[]⟩

theorem Fresh.represents (fresh : Fresh attester) :
    Represents (crates.verifyingKey attester.signingKey) attester [] := by
  refine ⟨fresh.rootLayer, fresh.applicationKeys, ?_, ?_, fresh.eventLog, fresh.transparentEventLog⟩
  · rw [fresh.layers]
    rfl
  · rw [fresh.layers]
    exact List.Forall₂.nil

/-- The evidence that an attester starts from: `generate_initial_dice_data`, with a report on the
hash of the root key. -/
def initialEvidence (platform : Int32) (report ecaPublicKey : Bytes) : Evidence :=
  { rootLayer := some ⟨platform, report, ecaPublicKey⟩, layers := [], applicationKeys := none
    eventLog := some ⟨[]⟩, transparentEventLog := none }

theorem fresh_initial (correct : CorrectCrates crates) (key : crates.SigningKey) (platform : Int32)
    (report : Bytes) {ecaPublicKey : Bytes}
    (encoded : crates.coseKeyToVec (verifyingKeyToCoseKey crates (crates.verifyingKey key)) =
      .ok ecaPublicKey) :
    Fresh (⟨initialEvidence platform report ecaPublicKey, key⟩ : DiceAttester crates) := by
  obtain ⟨bytes, again, decoded⟩ := correct.coseKey (crates.verifyingKey key)
  cases encoded.symm.trans again
  refine ⟨?_, rfl, rfl, rfl, rfl⟩
  refine Anyhow.bind_eq_ok.mpr ⟨_, rfl, Anyhow.bind_eq_ok.mpr ⟨_, Anyhow.mapText_eq_ok.mpr decoded, ?_⟩⟩
  exact Anyhow.mapText_eq_ok.mpr (coseKeyToVerifyingKey_verifyingKeyToCoseKey correct _)

def measuredEvents (steps : List (Step crates)) : List (Bytes × Option Bytes) :=
  steps.filterMap Step.measured

/-- Every run from a fresh attester that measures something ends with evidence that is accepted for
the events it has measured and for no others, and the key that is returned is the current one. -/
theorem honest_chain_verifies (crates : DiceCrates) (codec : DiceDataCodec)
    (correct : CorrectCrates crates) (exact : CorrectCodec codec) (start : DiceAttester crates)
    (fresh : Fresh start) (steps : List (Step crates)) (extended : measuredEvents steps ≠ [])
    (fits : run codec start steps ≠ .panic "capacity overflow") :
    ∃ attester, run codec start steps = .ok attester ∧
      attester.evidence.eventLog = some ⟨(measuredEvents steps).map Prod.fst⟩ ∧
      verifyDiceChain crates attester.quote .originalEventLog =
        .ok (crates.verifyingKey attester.signingKey) ∧
      ((∀ event ∈ measuredEvents steps, event.2.isSome) →
        attester.evidence.transparentEventLog =
            some ⟨(measuredEvents steps).filterMap Prod.snd⟩ ∧
          verifyDiceChain crates attester.quote .transparentEventLog =
            .ok (crates.verifyingKey attester.signingKey)) ∧
      (∀ log key, NoCollision crates ((measuredEvents steps).map Prod.fst)
            (log.getD ⟨[]⟩).encodedEvents → log ≠ attester.evidence.eventLog →
          verifyDiceChain crates { attester.quote with eventLog := log } .originalEventLog ≠
            .ok key) ∧
        ∀ log key, NoCollision crates ((measuredEvents steps).filterMap Prod.snd)
            (log.getD ⟨[]⟩).encodedEvents → log ≠ attester.evidence.transparentEventLog →
          verifyDiceChain crates { attester.quote with transparentEventLog := log }
            .transparentEventLog ≠ .ok key := by
  obtain ⟨attester, finished, represents⟩ := fresh.represents.run correct exact fits
  have eventLog := eq_some_of_getD represents.eventLog (mt List.map_eq_nil_iff.mp extended)
  refine ⟨attester, finished, eventLog, represents.accepted ?_ fun _ _ => rfl, ?_, ?_, ?_⟩
  · rw [logOf_original, measured_original]
    exact eventLog
  · intro all
    have log := eq_some_of_getD represents.transparentEventLog
      (@measured_nonempty _ .transparentEventLog extended all)
    exact ⟨log, represents.accepted (logOf_transparent.mpr log) all⟩
  · intro log key distinct changed accepted
    obtain ⟨found, present, -, same⟩ := represents.log_unique accepted rfl rfl
    obtain rfl : log = some found := logOf_original.mp present
    rw [measured_original] at same
    rw [eventLog, same distinct] at changed
    exact changed rfl
  · intro log key distinct changed accepted
    obtain ⟨found, present, all, same⟩ := represents.log_unique accepted rfl rfl
    obtain rfl : log = some found := logOf_transparent.mp present
    rw [eq_some_of_getD represents.transparentEventLog (measured_nonempty extended all),
      same distinct] at changed
    exact changed rfl

end Run

namespace ToyChain

theorem exists_codec {α β : Type} [Countable α] (value : α → β) :
    ∃ (encode : β → Bytes) (decode : Bytes → Except String β),
      ∀ index, decode (encode (value index)) = .ok (value index) := by
  classical
  obtain ⟨number, injective⟩ := exists_injective_nat α
  refine ⟨fun found => if known : ∃ index, value index = found then
      List.replicate (number known.choose) 0 else [],
    fun bytes => ((Function.partialInv number bytes.length).map value).elim (.error "") .ok, ?_⟩
  intro index
  have known : ∃ other, value other = value index := ⟨index, rfl⟩
  simp [Function.partialInv_left injective, known.choose_spec]

instance countableChar : Countable Char := by
  apply Function.Injective.countable (f := Char.toNat)
  intro first second same
  exact Char.ext (UInt32.toNat_inj.mp same)

instance countableUInt8 : Countable UInt8 := by
  apply Function.Injective.countable (f := UInt8.toNat)
  intro first second same
  exact UInt8.toNat_inj.mp same

instance countableInt32 : Countable Int32 := by
  apply Function.Injective.countable (f := Int32.toInt)
  intro first second same
  exact Int32.toInt_inj.mp same

def keyOf (fields : Bytes × Bytes) : CoseKey :=
  { kty := .ec2, keyId := (Block.zero 20).toList, alg := some .es256, keyOps := [.verify]
    params := [(.int (-1), .integer 1), (.int (-2), .bytes fields.1), (.int (-3), .bytes fields.2)] }

def claimsOf (fields : Text × Text × Bytes × List (Int × Bytes)) : ClaimsSet :=
  certificateClaims fields.1 fields.2.1 fields.2.2.1 (eventClaims fields.2.2.2)

def certificateOf (fields : Bytes × Bytes) : CoseSign1 :=
  { protectedHeader := [], keyId := unprotectedKeyId, payload := some fields.1, signature := fields.2 }

abbrev DataFields := Option (Option (Int32 × Bytes × Bytes) × List Bytes × Option (Bytes × Bytes) ×
  Option (List Bytes) × Option (List Bytes)) × Option Bytes

def dataOf (fields : DataFields) : DiceData :=
  { evidence := fields.1.map fun evidence =>
      { rootLayer := evidence.1.map fun layer => ⟨layer.1, layer.2.1, layer.2.2⟩
        layers := evidence.2.1.map LayerEvidence.mk
        applicationKeys := evidence.2.2.1.map fun keys => ⟨keys.1, keys.2⟩
        eventLog := evidence.2.2.2.1.map EventLog.mk
        transparentEventLog := evidence.2.2.2.2.map EventLog.mk }
    certificateAuthority := fields.2 }

theorem dataOf_surjective (data : DiceData) : ∃ fields, dataOf fields = data := by
  refine ⟨(data.evidence.map fun evidence => (evidence.rootLayer.map fun layer =>
      (layer.platform, layer.remoteAttestationReport, layer.ecaPublicKey),
    evidence.layers.map LayerEvidence.ecaCertificate, evidence.applicationKeys.map fun keys =>
      (keys.encryptionPublicKeyCertificate, keys.signingPublicKeyCertificate),
    evidence.eventLog.map EventLog.encodedEvents,
    evidence.transparentEventLog.map EventLog.encodedEvents), data.certificateAuthority), ?_⟩
  simp [dataOf, Function.comp_def]

theorem length_padded (contents : Bytes) :
    ((contents ++ List.replicate 32 0).take 32).length = 32 := by
  simp

def shortHash (contents : Bytes) : Block 32 :=
  ⟨(contents ++ List.replicate 32 0).take 32, length_padded contents⟩

def coordinate (key : Bool) : Block 32 := shortHash [if key then 1 else 0]

theorem fromCoordinates_coordinate (key : Bool) :
    some (decide (coordinate key = coordinate true)) = some key := by
  cases key with
  | false | true => decide

def signature (key : Bool) (contents : Bytes) : Bytes := (if key then 1 else 0) :: contents

noncomputable def crates : DiceCrates :=
  { SigningKey := Bool, VerifyingKey := Bool, verifyingKey := id
    sign := signature
    signatureFromSlice := .ok
    verify := fun key contents found =>
      if found = signature key contents then .ok () else .error "signature error"
    signingKeyToBytes := fun key => [if key then 1 else 0]
    signingKeyFromSlice := fun bytes => .ok (bytes = [1])
    coordinates := fun key => (coordinate key, Block.zero 32)
    fromCoordinates := fun x _ => some (x = coordinate true)
    hkdf := fun _ _ _ => Block.zero 20
    sha2 := { sha256 := shortHash, sha384 := fun _ => Block.zero 48, sha512 := fun _ => Block.zero 64 }
    coseKeyToVec := fun key => .ok ((exists_codec keyOf).choose key)
    coseKeyFromSlice := (exists_codec keyOf).choose_spec.choose
    claimsToVec := fun claims => .ok ((exists_codec claimsOf).choose claims)
    claimsFromSlice := (exists_codec claimsOf).choose_spec.choose
    sign1ToVec := fun certificate => .ok ((exists_codec certificateOf).choose certificate)
    sign1FromSlice := (exists_codec certificateOf).choose_spec.choose
    es256Header := [], toBeSigned := fun _ _ payload => payload }

noncomputable def codec : DiceDataCodec :=
  { encode := (exists_codec dataOf).choose, decode := (exists_codec dataOf).choose_spec.choose }

theorem correctCrates : CorrectCrates crates := by
  refine ⟨fun key contents => ⟨_, rfl, if_pos rfl⟩, ?_, ?_, fun key => ⟨_, rfl, ?_⟩,
    fun issuerId publicKeyId publicKey digests _ => ⟨_, rfl, ?_⟩, fun key payload => ⟨_, rfl, ?_⟩⟩
  · exact fromCoordinates_coordinate
  · intro key
    cases key <;> rfl
  · exact (exists_codec keyOf).choose_spec.choose_spec
      ((coordinate key).toList, (Block.zero 32).toList)
  · exact (exists_codec claimsOf).choose_spec.choose_spec (issuerId, publicKeyId, publicKey, digests)
  · exact (exists_codec certificateOf).choose_spec.choose_spec
      (payload, signature key payload)

theorem correctCodec : CorrectCodec codec := by
  intro data
  obtain ⟨fields, rfl⟩ := dataOf_surjective data
  exact (exists_codec dataOf).choose_spec.choose_spec fields

/-- An attester on a root layer with the first key. -/
noncomputable def start : DiceAttester crates :=
  ⟨initialEvidence 0 [] ((exists_codec keyOf).choose
    (verifyingKeyToCoseKey crates false)), false⟩

theorem fresh_start : Fresh start := fresh_initial correctCrates false 0 [] rfl

def steps : List (Step crates) := [.extendTransparent true [1] [2]]

theorem fits : run codec start steps ≠ .panic "capacity overflow" := by
  rw [run, steps, List.foldlM_cons]
  simp only [Step.apply]
  cases start.extendTransparent true [1] [2] with
  | error | ok =>
    intro panicked
    cases panicked

end ToyChain

/-- One event on top of a root layer: its log is accepted, and one with another event is not. -/
theorem single_event_verifies : ∃ attester,
    run ToyChain.codec ToyChain.start ToyChain.steps = .ok attester ∧
    verifyDiceChain ToyChain.crates attester.quote .originalEventLog =
        .ok (ToyChain.crates.verifyingKey attester.signingKey) ∧
      ∀ key, verifyDiceChain ToyChain.crates { attester.quote with eventLog := some ⟨[[3]]⟩ }
        .originalEventLog ≠ .ok key := by
  obtain ⟨attester, finished, log, accepted, -, unique, -⟩ := honest_chain_verifies ToyChain.crates
    ToyChain.codec ToyChain.correctCrates ToyChain.correctCodec ToyChain.start ToyChain.fresh_start
    ToyChain.steps (by decide) ToyChain.fits
  refine ⟨attester, finished, accepted, fun key => unique _ key ?_ ?_⟩
  · intro event isEvent candidate isCandidate same
    cases List.mem_singleton.mp isEvent
    cases List.mem_singleton.mp isCandidate
    exact absurd same (by decide)
  · rw [log]
    decide

end Oak.Attestation
