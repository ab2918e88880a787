import Oak.Tr.Digest
import Oak.Tr.Time

namespace Oak.Tr

open Oak.Data Oak.Data.Anyhow

/-! Verifying keys, and signatures under them (`tr/key_util`). -/

/-- Code outside the repository: the `p256`, `ecdsa`, `rsa` and `pkcs8` crates.  Failures come with
the text of their error. -/
structure KeyCrates where
  /-- `Document::from_pem`: the label and the contents. -/
  documentFromPem : Text → Except String (Text × Bytes)
  /-- `Document::from_der`, read as bytes again. -/
  documentFromDer : Bytes → Except String Bytes
  /-- `VerifyingKey::from_public_key_der`: a point of the curve, as its SEC 1 encoding. -/
  p256FromPublicKeyDer : Bytes → Except String Bytes
  ecdsaSignatureFromDer : Bytes → Except String Bytes
  /-- `verify` of a key, the signed contents and a signature. -/
  p256Verify : Bytes → Bytes → Bytes → Except String Unit
  rsaFromPublicKeyDer : Bytes → Except String Bytes
  /-- `verify` of a key, the hash of the contents and a signature. -/
  rsaVerify : Bytes → Block 32 → Bytes → Except String Unit

inductive KeyType where
  | undefined
  | ecdsaP256Sha256
  | rsaSha2256
deriving Repr, DecidableEq

structure VerifyingKey where
  /-- The number of the enumeration on the wire. -/
  type : Int32
  keyId : UInt32
  raw : Bytes
deriving DecidableEq

/-- `r#type()`: a number without a name counts as undefined. -/
def VerifyingKey.keyType (key : VerifyingKey) : KeyType :=
  if key.type = 1 then .ecdsaP256Sha256 else if key.type = 2 then .rsaSha2256 else .undefined

structure TimestampReferenceValue where
  notBeforeAbsolute : Option ProtoTime
  notBeforeRelative : Option ProtoTime
deriving DecidableEq

structure VerifyingKeySet where
  keys : List VerifyingKey
  signedTimestamp : Option TimestampReferenceValue
deriving DecidableEq

structure Signature where
  keyId : UInt32
  raw : Bytes
deriving DecidableEq

section Verification

variable (crates : KeyCrates) (sha2 : Sha2)

def publicKeyPemLabel : Text := "PUBLIC KEY".toList

def convertPemToRaw (publicKeyPem : Text) : Anyhow.Result Bytes := do
  let (label, document) ← mapText ("Couldn't interpret PEM: " ++ ·)
    (crates.documentFromPem publicKeyPem)
  ensure (label = publicKeyPemLabel)
    ("PEM label " ++ String.ofList label ++ " is not PUBLIC KEY")
  return document

def convertRawToVerifyingKey (publicKey : Bytes) : Anyhow.Result Bytes := do
  let document ← mapText ("Could not interpret bytes as ASN.1 DER: " ++ ·)
    (crates.documentFromDer publicKey)
  mapText ("couldn't convert der to verifying key: " ++ ·)
    (crates.p256FromPublicKeyDer document)

def equalKeys (publicKeyA publicKeyB : Bytes) : Anyhow.Result Bool := do
  let keyA ← convertRawToVerifyingKey crates publicKeyA
  let keyB ← convertRawToVerifyingKey crates publicKeyB
  return decide (keyA = keyB)

def verifySignatureEcdsa (signatureDer contents publicKeyDer : Bytes) : Anyhow.Result Unit := do
  let signature ← mapText ("invalid ASN.1 signature: " ++ ·)
    (crates.ecdsaSignatureFromDer signatureDer)
  let key ← rewrap ("couldn't convert public key: " ++ ·)
    (convertRawToVerifyingKey crates publicKeyDer)
  mapText ("couldn't verify signature: " ++ ·) (crates.p256Verify key contents signature)

def verifySignatureRsa (signatureRaw contents publicKeyDer : Bytes) : Anyhow.Result Unit := do
  let publicKey ← mapText ("couldn't parse RSA public key: " ++ ·)
    (crates.rsaFromPublicKeyDer publicKeyDer)
  mapText ("couldn't verify RSA signature: " ++ ·)
    (crates.rsaVerify publicKey (sha2.sha256 contents) signatureRaw)

/-- The part of `verify_signature` after the key has been found. -/
def verifyWithKey (key : VerifyingKey) (signature contents : Bytes) : Anyhow.Result Unit :=
  match key.keyType with
  | .undefined => bail "Undefined key type"
  | .ecdsaP256Sha256 => verifySignatureEcdsa crates signature contents key.raw
  | .rsaSha2256 => verifySignatureRsa crates sha2 signature contents key.raw

def verifySignature (signature : Signature) (contents : Bytes) (keySet : VerifyingKeySet) :
    Anyhow.Result Unit := do
  let key ← present "could not find key id in key set"
    (keySet.keys.find? fun key => key.keyId = signature.keyId)
  verifyWithKey crates sha2 key signature.raw contents

theorem equalKeys_eq_ok {publicKeyA publicKeyB : Bytes} {equal : Bool} :
    equalKeys crates publicKeyA publicKeyB = .ok equal ↔
      ∃ keyA keyB, convertRawToVerifyingKey crates publicKeyA = .ok keyA ∧
        convertRawToVerifyingKey crates publicKeyB = .ok keyB ∧ decide (keyA = keyB) = equal := by
  simp only [equalKeys, bind_eq_ok]
  exact exists_congr fun keyA => by simp

end Verification

def SameKey (crates : KeyCrates) (publicKeyA publicKeyB : Bytes) : Prop :=
  ∃ key, convertRawToVerifyingKey crates publicKeyA = .ok key ∧
    convertRawToVerifyingKey crates publicKeyB = .ok key

theorem equalKeys_eq_ok_true {crates : KeyCrates} {publicKeyA publicKeyB : Bytes} :
    equalKeys crates publicKeyA publicKeyB = .ok true ↔ SameKey crates publicKeyA publicKeyB := by
  rw [equalKeys_eq_ok]
  constructor
  · rintro ⟨keyA, keyB, first, second, equal⟩
    rw [decide_eq_true_eq] at equal
    exact ⟨keyA, first, equal ▸ second⟩
  · rintro ⟨key, first, second⟩
    exact ⟨key, key, first, second, decide_eq_true rfl⟩

end Oak.Tr
