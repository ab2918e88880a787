import Oak.Tr.Digest

namespace Oak.Dice

open Oak.Data Oak.Tr

/-! DICE certificates (`oak_dice/src/cert.rs`): CWTs over COSE keys. -/

inductive Value where
  | integer (value : Int)
  | bytes (value : Bytes)
  | float (bits : UInt64)
  | text (value : Text)
  | bool (value : Bool)
  | null
  | tag (number : UInt64) (value : Value)
  | array (items : List Value)
  | map (entries : List (Value × Value))

/-- `== Value::Integer(number)`. -/
def Value.isInteger (number : Int) : Value → Bool
  | .integer value => value = number
  | _ => false

def Value.asBytes : Value → Option Bytes
  | .bytes value => some value
  | _ => none

inductive Label where
  | int (number : Int)
  | text (name : Text)
deriving DecidableEq

inductive KeyType where
  | ec2
  | okp
  | other (label : Label)
deriving DecidableEq

inductive Algorithm where
  | es256
  | ecdhEsA256kw
  | other (label : Label)
deriving DecidableEq

inductive KeyOperation where
  | verify
  | wrapKey
  | other (label : Label)
deriving DecidableEq

structure CoseKey where
  kty : KeyType
  keyId : Bytes
  alg : Option Algorithm
  keyOps : List KeyOperation
  params : List (Label × Value)

inductive ClaimName where
  | assigned (number : Int)
  | privateUse (id : Int)
  | text (name : Text)
deriving DecidableEq

structure ClaimsSet where
  issuer : Option Text
  subject : Option Text
  rest : List (ClaimName × Value)

structure CoseSign1 where
  /-- The protected header as it is encoded. -/
  protectedHeader : Bytes
  /-- The key identifier of the other header. -/
  keyId : Bytes
  payload : Option Bytes
  signature : Bytes

/-- Code outside the repository: the `p256`, `hkdf`, `sha2` and `coset` crates. -/
structure DiceCrates where
  SigningKey : Type
  VerifyingKey : Type
  /-- `VerifyingKey::from`. -/
  verifyingKey : SigningKey → VerifyingKey
  sign : SigningKey → Bytes → Bytes
  signatureFromSlice : Bytes → Except String Bytes
  /-- `verify` of the signed contents and a signature. -/
  verify : VerifyingKey → Bytes → Bytes → Except String Unit
  signingKeyToBytes : SigningKey → Bytes
  signingKeyFromSlice : Bytes → Except String SigningKey
  /-- The coordinates in an uncompressed point. -/
  coordinates : VerifyingKey → Block 32 × Block 32
  fromCoordinates : Block 32 → Block 32 → Option VerifyingKey
  hkdf : (salt ikm info : Bytes) → Block 20
  sha2 : Sha2
  coseKeyToVec : CoseKey → Except String Bytes
  coseKeyFromSlice : Bytes → Except String CoseKey
  claimsToVec : ClaimsSet → Except String Bytes
  claimsFromSlice : Bytes → Except String ClaimsSet
  sign1ToVec : CoseSign1 → Except String Bytes
  sign1FromSlice : Bytes → Except String CoseSign1
  /-- The encoding of the protected header that names ES256. -/
  es256Header : Bytes
  /-- What is signed, of a protected header, additional data and a payload. -/
  toBeSigned : Bytes → Bytes → Bytes → Bytes

def subjectPublicKeyId : Int := -4670552
def keyUsageId : Int := -4670553
def sha2256Id : Int := -4670572
/-- The number is also that of the kernel's command line. -/
def eventId : Int := -4670573
def applicationKeyId : Int := -4670574
def transparentEventId : Int := -4670575

def idSalt : Bytes := "DICE_ID_SALT".toUTF8.data.toList
def infoStr : Bytes := "ID".toUTF8.data.toList
def emptyAdditionalData : Bytes := []

/-- `KeyUsage::KEY_CERT_SIGN` in two bytes. -/
def keyCertSign : Bytes := [32, 0]

section Keys

variable (crates : DiceCrates)

def deriveVerifyingKeyId (publicKey : crates.VerifyingKey) : Block 20 :=
  let point := crates.coordinates publicKey
  crates.hkdf idSalt (4 :: point.1.toList ++ point.2.toList) infoStr

/-- The first parameter of this number that is a byte string. -/
def findBytes (params : List (Label × Value)) (number : Int) : Option Bytes :=
  params.findSome? fun param => if param.1 = .int number then param.2.asBytes else none

def hasCurve (params : List (Label × Value)) (curve : Int) : Bool :=
  params.any fun param => param.1 = .int (-1) && param.2.isInteger curve

/-- The checks that the two kinds of keys share; the numbers of the curves are 1 for P-256 and 4 for
X25519. -/
def checkCoseKey (coseKey : CoseKey) (kty : KeyType) (alg : Algorithm) (operation : KeyOperation)
    (curve : Int) : Except String Unit :=
  if coseKey.kty ≠ kty then .error "invalid key type"
  else if coseKey.alg ≠ some alg then .error "invalid algorithm"
  else if operation ∉ coseKey.keyOps then .error "invalid key operations"
  else if !hasCurve coseKey.params curve then .error "invalid elliptic curve"
  else .ok ()

def findCoordinate (params : List (Label × Value)) (number : Int) (name : String) :
    Except String (Block 32) :=
  match findBytes params number with
  | none => .error (name ++ " component of public key not found")
  | some bytes =>
    match Block.ofBytes? 32 bytes with
    | none => .error (name ++ " component of public key has an invalid length")
    | some coordinate => .ok coordinate

def coseKeyToVerifyingKey (coseKey : CoseKey) : Except String crates.VerifyingKey := do
  checkCoseKey coseKey .ec2 .es256 .verify 1
  let x ← findCoordinate coseKey.params (-2) "x"
  let y ← findCoordinate coseKey.params (-3) "y"
  match crates.fromCoordinates x y with
  | some key => .ok key
  | none => .error "invalid public key coordinates"

def verifyingKeyToCoseKey (publicKey : crates.VerifyingKey) : CoseKey :=
  let point := crates.coordinates publicKey
  { kty := .ec2, keyId := (deriveVerifyingKeyId crates publicKey).toList, alg := some .es256
    keyOps := [.verify]
    params := [(.int (-1), .integer 1), (.int (-2), .bytes point.1.toList),
      (.int (-3), .bytes point.2.toList)] }

end Keys

section Certificates

variable (crates : DiceCrates)

def certificateClaims (issuerId publicKeyId : Text) (publicKey : Bytes)
    (additionalClaims : List (ClaimName × Value)) : ClaimsSet :=
  { issuer := some issuerId, subject := some publicKeyId
    rest := [(.privateUse subjectPublicKeyId, .bytes publicKey),
      (.privateUse keyUsageId, .bytes keyCertSign)] ++ additionalClaims }

def unprotectedKeyId : Bytes := "AsymmetricECDSA256".toUTF8.data.toList

def signCertificate (issuerEcaKey : crates.SigningKey) (payload : Bytes) : CoseSign1 :=
  { protectedHeader := crates.es256Header, keyId := unprotectedKeyId, payload := some payload
    signature := crates.sign issuerEcaKey
      (crates.toBeSigned crates.es256Header emptyAdditionalData payload) }

def generateCertificate (issuerEcaKey : crates.SigningKey) (issuerId : Text) (publicKey : CoseKey)
    (publicKeyId : Text) (additionalClaims : List (ClaimName × Value)) : Except String CoseSign1 := do
  let key ← crates.coseKeyToVec publicKey
  let payload ← crates.claimsToVec (certificateClaims issuerId publicKeyId key additionalClaims)
  return signCertificate crates issuerEcaKey payload

def generateSigningCertificate (issuerEcaKey : crates.SigningKey) (issuerId : Text)
    (verifyingKey : crates.VerifyingKey) (additionalClaims : List (ClaimName × Value)) :
    Except String CoseSign1 :=
  generateCertificate crates issuerEcaKey issuerId (verifyingKeyToCoseKey crates verifyingKey)
    (Hex.encode (deriveVerifyingKeyId crates verifyingKey).toList) additionalClaims

def getClaimsSetFromCertificateBytes (bytes : Bytes) : Except String ClaimsSet := do
  let cwt ← crates.sign1FromSlice bytes
  crates.claimsFromSlice (cwt.payload.getD [])

/-- The first claim about the key that is a byte string. -/
def getPublicKeyFromClaimsSet (claims : ClaimsSet) : Except String CoseKey :=
  match claims.rest.findSome? fun claim =>
      if claim.1 = .privateUse subjectPublicKeyId then claim.2.asBytes else none with
  | none => .error "public key not found"
  | some bytes =>
    match crates.coseKeyFromSlice bytes with
    | .ok key => .ok key
    | .error _ => .error "couldn't deserialize public key"

/-- `CoseSign1::verify_signature`, with the check of an ECDSA signature. -/
def CoseSign1.verifySignature (cert : CoseSign1) (key : crates.VerifyingKey) : Except String Unit := do
  let signature ← crates.signatureFromSlice cert.signature
  crates.verify key
    (crates.toBeSigned cert.protectedHeader emptyAdditionalData (cert.payload.getD [])) signature

end Certificates

end Oak.Dice
