import Oak.C2sp.Checkpoint
import Oak.Tr.Keys

namespace Oak.Tr

open Oak.Data Oak.Data.Anyhow

/-! Confirmations of the public endorsement service and their verification (`tr/pes`). -/

namespace Pes

/-- The JSON object: a material may name a certificate, a key, both or neither. -/
structure MaterialJson where
  x509Certificate : Option Bytes
  ecdsaP256Sha256 : Option Bytes
deriving DecidableEq

structure SignatureJson where
  signature : Bytes
  verificationMaterial : Option MaterialJson
deriving DecidableEq

structure PublicEndorsementJson where
  name : Option Text
  /-- `statement.serialized` -/
  statement : Option Bytes
  statementSignature : Option SignatureJson
  endorsementSignatures : Option (List SignatureJson)
  /-- `tlogReceipt.entryId` -/
  tlogReceipt : Option (Option Text)
deriving DecidableEq

/-- The `oneof` of the proto message. -/
inductive Material where
  | x509Certificate (derBytes : Bytes)
  | ecdsaP256Sha256 (derBytes : Bytes)
deriving DecidableEq

structure Signature where
  signature : Bytes
  verificationMaterial : Option (Option Material)
deriving DecidableEq

structure PublicEndorsement where
  statement : Option Bytes
  statementSignature : Option Signature
  endorsementSignatures : List Signature
  tlogReceipt : Option Text
deriving DecidableEq

/-- Code outside the repository.  `fromSlice` is `serde_json`, which is given the decoder of the byte
fields; `certificateFromDer` and `spkiToDer` are the `x509_cert` crate. -/
structure Crates (Certificate : Type) where
  fromSlice : (Text → Option Bytes) → Bytes → Except String PublicEndorsementJson
  certificateFromDer : Bytes → Except String Certificate
  spkiToDer : Certificate → Except String Bytes
  keys : KeyCrates
  sha2 : Sha2

/-- `base64_serde::deserialize`. -/
def decodeField (text : Text) : Option Bytes := Base64.decode (Text.trim text)

def MaterialJson.toProto (json : MaterialJson) : Option Material :=
  match json.x509Certificate with
  | some derBytes => some (.x509Certificate derBytes)
  | none => json.ecdsaP256Sha256.map .ecdsaP256Sha256

def SignatureJson.toProto (json : SignatureJson) : Signature :=
  { signature := json.signature
    verificationMaterial := json.verificationMaterial.map MaterialJson.toProto }

def PublicEndorsementJson.toProto (json : PublicEndorsementJson) : PublicEndorsement :=
  { statement := json.statement
    statementSignature := json.statementSignature.map SignatureJson.toProto
    endorsementSignatures := (json.endorsementSignatures.getD []).map SignatureJson.toProto
    tlogReceipt := json.tlogReceipt.map fun entryId => entryId.getD [] }

variable {Certificate : Type} (crates : Crates Certificate)

def parsePesConfirmation (confirmation : Bytes) : Anyhow.Result PublicEndorsement := do
  let json ← context "failed to parse PES confirmation JSON"
    (mapText id (crates.fromSlice decodeField confirmation))
  ensure (¬ (json.statement.isNone ∧ json.name.isNone))
    "JSON does not look like a PES confirmation"
  return json.toProto

/-- `SP LEN(obj) SP obj`. -/
def encodePart (part : Bytes) : Bytes :=
  0x20 :: (C2sp.utf8 (Text.decimal part.length) ++ 0x20 :: part)

/-- `pae::calculate`: the text that the service signs. -/
def calculate (endorsement endorserKeyDer endorserSignature : Bytes) (entryId : Text) : Bytes :=
  C2sp.utf8 "PES".toList ++ encodePart endorsement ++ encodePart endorserKeyDer
    ++ encodePart endorserSignature ++ encodePart (C2sp.utf8 entryId)

def extractRawVmBytes (material : Option Material) : Anyhow.Result Bytes :=
  match material with
  | none => bail "missing verification_material oneof"
  | some (.x509Certificate derBytes) => .ok derBytes
  | some (.ecdsaP256Sha256 derBytes) => .ok derBytes

def extractPublicKeyDer (material : Option Material) : Anyhow.Result Bytes :=
  match material with
  | none => bail "missing verification_material oneof"
  | some (.x509Certificate derBytes) => do
    let certificate ← mapText ("failed to parse PES X.509 cert: " ++ ·)
      (crates.certificateFromDer derBytes)
    mapText ("failed to serialize SPKI: " ++ ·) (crates.spkiToDer certificate)
  | some (.ecdsaP256Sha256 derBytes) => .ok derBytes

/-- The signature of the service, under a key of the set that equals the one it comes with. -/
def verifyPesSignature (keySet : VerifyingKeySet) (publicKeyDer signature pae : Bytes) :
    Anyhow.Result Unit := do
  -- the text of the source also prints the lengths of the keys
  let trustedKey ← present "PES public key not found in trusted key set."
    (keySet.keys.find? fun key => key.raw = publicKeyDer)
  match trustedKey.keyType with
  | .undefined => bail "Undefined key type"
  | .ecdsaP256Sha256 =>
    context "failed to verify ECDSA signature"
      (verifySignatureEcdsa crates.keys signature pae publicKeyDer)
  | .rsaSha2256 =>
    context "failed to verify RSA signature"
      (verifySignatureRsa crates.keys crates.sha2 signature pae publicKeyDer)

def verifyPesConfirmation (confirmation : Bytes) (pesKeySet : VerifyingKeySet)
    (expectedEndorsement : Bytes) (trustedEndorserKey : VerifyingKey) : Anyhow.Result Unit := do
  let publicEndorsement ← parsePesConfirmation crates confirmation
  let endorsement ← present "missing endorsement in PublicEndorsement"
    publicEndorsement.statement
  let endorserSignature ← present "missing endorser_signature in PublicEndorsement"
    publicEndorsement.statementSignature
  let entryId ← present "missing tlog_receipt in PublicEndorsement"
    publicEndorsement.tlogReceipt
  let endorserVm ← present "missing verification_material"
    endorserSignature.verificationMaterial
  let endorserRawVmBytes ← extractRawVmBytes endorserVm
  let endorserPublicKeyDer ← context "extracting endorser public key DER"
    (extractPublicKeyDer crates endorserVm)
  let equal ← context "comparing endorser keys"
    (equalKeys crates.keys endorserPublicKeyDer trustedEndorserKey.raw)
  ensure (equal = true)
    "endorser public key in PES confirmation does not match trusted endorser key"
  let pesSignature ← present "no endorsement signatures found"
    publicEndorsement.endorsementSignatures.head?
  let pesVm ← present "missing PES verification_material" pesSignature.verificationMaterial
  let pesPublicKeyDer ← extractPublicKeyDer crates pesVm
  verifyPesSignature crates pesKeySet pesPublicKeyDer pesSignature.signature
    (calculate endorsement endorserRawVmBytes endorserSignature.signature entryId)
  -- the text of the source also prints both digests
  ensure (crates.sha2.sha256 endorsement = crates.sha2.sha256 expectedEndorsement)
    "endorsement digest mismatch"

structure Parts where
  endorsement : Bytes
  endorserSignature : Bytes
  entryId : Text
  endorserMaterial : Option Material
  pesSignature : Bytes
  pesMaterial : Option Material

structure HasParts (publicEndorsement : PublicEndorsement) (parts : Parts) : Prop where
  statement : publicEndorsement.statement = some parts.endorsement
  statementSignature : publicEndorsement.statementSignature
    = some ⟨parts.endorserSignature, some parts.endorserMaterial⟩
  tlogReceipt : publicEndorsement.tlogReceipt = some parts.entryId
  endorsementSignature : publicEndorsement.endorsementSignatures.head?
    = some ⟨parts.pesSignature, some parts.pesMaterial⟩

/-- The confirmation is about the endorsement and its endorser, and the service has signed it under
a key of the set. -/
structure Confirmed (confirmation : Bytes) (keySet : VerifyingKeySet) (endorsement : Bytes)
    (endorser : VerifyingKey) : Prop where
  parts : ∃ publicEndorsement parts rawMaterial endorserKey pesKey,
    parsePesConfirmation crates confirmation = .ok publicEndorsement ∧
      HasParts publicEndorsement parts ∧
      extractRawVmBytes parts.endorserMaterial = .ok rawMaterial ∧
      extractPublicKeyDer crates parts.endorserMaterial = .ok endorserKey ∧
      SameKey crates.keys endorserKey endorser.raw ∧
      extractPublicKeyDer crates parts.pesMaterial = .ok pesKey ∧
      verifyPesSignature crates keySet pesKey parts.pesSignature
        (calculate parts.endorsement rawMaterial parts.endorserSignature parts.entryId) = .ok () ∧
      crates.sha2.sha256 parts.endorsement = crates.sha2.sha256 endorsement

theorem verifyPesConfirmation_eq_ok {confirmation : Bytes} {keySet : VerifyingKeySet}
    {endorsement : Bytes} {endorser : VerifyingKey} :
    verifyPesConfirmation crates confirmation keySet endorsement endorser = .ok () ↔
      Confirmed crates confirmation keySet endorsement endorser := by
  simp only [verifyPesConfirmation, bind_eq_ok, present_eq_ok, context_eq_ok,
    Unique.exists_iff, PUnit.default_eq_unit, ensure_eq_ok]
  constructor
  · rintro ⟨publicEndorsement, parsed, statement, hasStatement, ⟨signature, material⟩, hasSignature,
      entryId, hasReceipt, endorserMaterial, hasMaterial, rawMaterial, raw, endorserKey, extracted,
      equal, compared, rfl, ⟨pesSignature, pesMaterial'⟩, hasPes, pesMaterial, hasPesMaterial, pesKey,
      extractedPes, verified, digest⟩
    cases hasMaterial
    cases hasPesMaterial
    exact ⟨publicEndorsement, ⟨statement, signature, entryId, endorserMaterial, pesSignature,
      pesMaterial⟩, rawMaterial, endorserKey, pesKey, parsed,
      ⟨hasStatement, hasSignature, hasReceipt, hasPes⟩, raw, extracted,
      equalKeys_eq_ok_true.mp compared, extractedPes, verified, digest⟩
  · rintro ⟨publicEndorsement, parts, rawMaterial, endorserKey, pesKey, parsed, has, raw, extracted,
      same, extractedPes, verified, digest⟩
    exact ⟨publicEndorsement, parsed, _, has.statement, _, has.statementSignature, _,
      has.tlogReceipt, _, rfl, rawMaterial, raw, endorserKey, extracted, true,
      equalKeys_eq_ok_true.mpr same, rfl, _, has.endorsementSignature, _, rfl, pesKey, extractedPes,
      verified, digest⟩

end Pes

end Oak.Tr
