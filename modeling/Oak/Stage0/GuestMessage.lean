import Oak.Crypto.Primitives

namespace Oak.Stage0

open Oak.Data Oak.Crypto

/-! Guest messages to the secure processor (`oak_sev_guest/src/guest.rs` and `crypto.rs`) and the
request for a derived key in `stage0_sev/src/platform/dice_attestation.rs`. -/

def maxPayloadSize : Nat := 4000

def currentHeaderVersion : UInt8 := 1

inductive AeadAlgorithm where
  | invalid
  | aes256Gcm
deriving Repr, DecidableEq

def AeadAlgorithm.fromRepr : UInt8 → Option AeadAlgorithm
  | 0 => some invalid
  | 1 => some aes256Gcm
  | _ => none

inductive MessageType where
  | invalid
  | cpuidRequest
  | cpuidResponse
  | keyRequest
  | keyResponse
  | reportRequest
  | reportResponse
  | exportRequest
  | exportResponse
  | importRequest
  | importResponse
  | absorbRequest
  | absorbResponse
  | vmrkRequest
  | vmrkResponse
  | absorbNomaRequest
  | absorbNomaResponse
  | tscInfoRequest
  | tccInfoReqsponse
deriving Repr, DecidableEq

namespace MessageType

def all : List MessageType :=
  [invalid, cpuidRequest, cpuidResponse, keyRequest, keyResponse, reportRequest, reportResponse,
    exportRequest, exportResponse, importRequest, importResponse, absorbRequest, absorbResponse,
    vmrkRequest, vmrkResponse, absorbNomaRequest, absorbNomaResponse, tscInfoRequest,
    tccInfoReqsponse]

def repr (messageType : MessageType) : UInt8 := UInt8.ofNat messageType.ctorIdx

def fromRepr (byte : UInt8) : Option MessageType := all.find? (·.repr == byte)

end MessageType

structure AuthenticatedHeader where
  algorithm : UInt8
  headerVersion : UInt8
  headerSize : UInt16
  messageType : UInt8
  messageVersion : UInt8
  messageSize : UInt16
  reserved1 : UInt32
  messageVmpck : UInt8
  reserved2 : Block 35
deriving DecidableEq

def AuthenticatedHeader.asBytes (header : AuthenticatedHeader) : Bytes :=
  [header.algorithm, header.headerVersion] ++ littleEndian 2 header.headerSize.toNat ++
    [header.messageType, header.messageVersion] ++ littleEndian 2 header.messageSize.toNat ++
    littleEndian 4 header.reserved1.toNat ++ [header.messageVmpck] ++ header.reserved2.toList

structure GuestMessageHeader where
  authTag : Block 32
  sequenceNumber : UInt64
  authHeader : AuthenticatedHeader
deriving DecidableEq

namespace GuestMessageHeader

def size : UInt16 := 96

def new : GuestMessageHeader where
  authTag := .zero 32
  sequenceNumber := 0
  authHeader := {
    algorithm := 1
    headerVersion := currentHeaderVersion
    headerSize := size
    messageType := MessageType.invalid.repr
    messageVersion := 0
    messageSize := 0
    reserved1 := 0
    messageVmpck := 0
    reserved2 := .zero 35 }

def getAlgorithm (header : GuestMessageHeader) : Option AeadAlgorithm :=
  AeadAlgorithm.fromRepr header.authHeader.algorithm

def getMessageType (header : GuestMessageHeader) : Option MessageType :=
  MessageType.fromRepr header.authHeader.messageType

def validate (header : GuestMessageHeader) : Except String Unit :=
  if header.getAlgorithm = none ∨ header.authHeader.algorithm = 0 then
    .error "invalid AEAD algorithm"
  else if header.getMessageType = none ∨
      header.authHeader.messageType = MessageType.invalid.repr then
    .error "invalid message type"
  else if header.authHeader.headerVersion ≠ currentHeaderVersion then
    .error "invalid header version"
  else if header.authHeader.messageVmpck ≠ 0 then .error "invalid message VMPCK"
  else if header.authHeader.headerSize ≠ size then .error "invalid header size"
  else if header.authHeader.messageSize.toNat > maxPayloadSize then .error "invalid message size"
  else .ok ()

end GuestMessageHeader

structure GuestMessage where
  header : GuestMessageHeader
  payload : Block maxPayloadSize
deriving DecidableEq

namespace GuestMessage

def new : GuestMessage := ⟨.new, .zero maxPayloadSize⟩

def validate (message : GuestMessage) : Except String Unit := message.header.validate

end GuestMessage

/-- `copy_from_slice` to the front of an array. -/
def copyToFront {size : Nat} (source : Bytes) (target : Block size) : Block size :=
  ⟨(source ++ target.toList.drop source.length).take size, by
    rw [List.length_take, List.length_append, List.length_drop, target.toList_length]
    omega⟩

/-- The `Message` trait, with the layout that `zerocopy` derives. -/
class Message (μ : Type) where
  messageType : MessageType
  messageVersion : UInt8
  size : Nat
  asBytes : μ → Block size
  fromBytes : Block size → μ

structure GuestMessageEncryptor where
  cipher : Key
  sequenceNumber : UInt64
deriving DecidableEq

namespace GuestMessageEncryptor

variable {μ : Type} [Message μ]

/-- The sequence number in the first bytes of the initialization vector. -/
def ivBytes (sequenceNumber : UInt64) : NonceBytes :=
  copyToFront (littleEndian 8 sequenceNumber.toNat) (.zero 12)

def tagSize : Nat := 16

def encryptMessage (crypto : Primitives) (encryptor : GuestMessageEncryptor) (message : μ)
    (destination : GuestMessage) : GuestMessage × GuestMessageEncryptor :=
  let sequenceNumber := encryptor.sequenceNumber + 1
  let authHeader := { destination.header.authHeader with
    messageType := (Message.messageType μ).repr
    messageVersion := Message.messageVersion μ
    messageSize := UInt16.ofNat (Message.size μ) }
  let encrypted := crypto.encryptInPlace encryptor.cipher (ivBytes sequenceNumber)
    authHeader.asBytes (Message.asBytes message).toList
  ({ header := {
        authTag := copyToFront (encrypted.drop (Message.size μ)) destination.header.authTag
        sequenceNumber
        authHeader }
     payload := copyToFront (encrypted.take (Message.size μ)) destination.payload },
    { encryptor with sequenceNumber })

def decryptMessage (μ : Type) [Message μ] (crypto : Primitives)
    (encryptor : GuestMessageEncryptor) (source : GuestMessage) :
    Except String (μ × GuestMessageEncryptor) := do
  source.validate
  if (Message.messageType μ).repr ≠ source.header.authHeader.messageType then
    .error "invalid message type"
  if Message.messageVersion μ ≠ source.header.authHeader.messageVersion then
    .error "invalid message version"
  let sequenceNumber := source.header.sequenceNumber
  if sequenceNumber ≠ encryptor.sequenceNumber + 1 then
    .error "unexpected sequence number"
  if Message.size μ ≠ source.header.authHeader.messageSize.toNat then
    .error "invalid message length"
  let encrypted := source.payload.toList.take (Message.size μ) ++
    source.header.authTag.toList.take tagSize
  match crypto.decryptInPlace encryptor.cipher (ivBytes sequenceNumber)
      source.header.authHeader.asBytes encrypted with
  | none => .error "couldn't decrypt message"
  | some buffer =>
    -- the buffer is decrypted in place, so it keeps its size
    .ok (Message.fromBytes (copyToFront buffer (.zero (Message.size μ))),
      { encryptor with sequenceNumber := encryptor.sequenceNumber + 1 })

end GuestMessageEncryptor

inductive KeyStatus where
  | success
  | invalidParams
  | invalidKeySelection
deriving Repr, DecidableEq

def KeyStatus.fromRepr (status : UInt32) : Option KeyStatus :=
  if status = 0 then some success
  else if status = 0x16 then some invalidParams
  else if status = 0x27 then some invalidKeySelection
  else none

structure KeyRequest where
  keySelect : UInt32
  guestFieldSelect : UInt64
  vmpl : UInt32
  guestSvn : UInt32
  tcbVersion : UInt64

def KeyRequest.new : KeyRequest := ⟨0, 0, 0, 0, 0⟩

instance : Message KeyRequest where
  messageType := .keyRequest
  messageVersion := 1
  size := 32
  asBytes := fun request =>
    ⟨littleEndian 4 request.keySelect.toNat ++ littleEndian 4 0 ++
      littleEndian 8 request.guestFieldSelect.toNat ++ littleEndian 4 request.vmpl.toNat ++
      littleEndian 4 request.guestSvn.toNat ++ littleEndian 8 request.tcbVersion.toNat, by
      simp only [List.length_append, littleEndian_length]⟩
  fromBytes := fun block => {
    keySelect := UInt32.ofNat (ofLittleEndian (block.toList.take 4))
    guestFieldSelect := UInt64.ofNat (ofLittleEndian ((block.toList.drop 8).take 8))
    vmpl := UInt32.ofNat (ofLittleEndian ((block.toList.drop 16).take 4))
    guestSvn := UInt32.ofNat (ofLittleEndian ((block.toList.drop 20).take 4))
    tcbVersion := UInt64.ofNat (ofLittleEndian ((block.toList.drop 24).take 8)) }

abbrev DerivedKey := Block 32

structure KeyResponse where
  status : UInt32
  reserved : Block 28
  derivedKey : DerivedKey
deriving DecidableEq

namespace KeyResponse

def getStatus (response : KeyResponse) : Option KeyStatus := KeyStatus.fromRepr response.status

def validate (response : KeyResponse) : Except String Unit :=
  if response.reserved.toList.any (· ≠ 0) then .error "nonzero value in _reserved"
  else if response.getStatus = none then .error "invalid status"
  else .ok ()

end KeyResponse

instance : Message KeyResponse where
  messageType := .keyResponse
  messageVersion := 1
  size := 64
  asBytes := fun response =>
    ⟨littleEndian 4 response.status.toNat ++ response.reserved.toList ++
      response.derivedKey.toList, by
      simp only [List.length_append, littleEndian_length, List.Vector.toList_length]⟩
  fromBytes := fun block => {
    status := UInt32.ofNat (ofLittleEndian (block.toList.take 4))
    reserved := ⟨(block.toList.drop 4).take 28, by simp⟩
    derivedKey := ⟨(block.toList.drop 32).take 32, by simp⟩ }

/-- What the requests of a guest depend on.  The host carries the encrypted request to the secure
processor and fills in the response; it may refuse, or answer anything. -/
structure SevGuest where
  snpActive : Bool
  encryptor : Option GuestMessageEncryptor
  ghcb : Option (GuestMessage → Except String GuestMessage)

namespace SevGuest

def sendGuestMessageRequest {μ : Type} [Message μ] (ν : Type) [Message ν] (crypto : Primitives)
    (guest : SevGuest) (request : μ) : Except String ν :=
  match guest.encryptor with
  | none => .error "guest message encryptor is not initialized"
  | some encryptor =>
    let (requestMessage, encryptor) := encryptor.encryptMessage crypto request .new
    match guest.ghcb with
    | none => .error "GHCB not initialized"
    | some doGuestMessageRequest => do
      let responseMessage ← doGuestMessageRequest requestMessage
      responseMessage.validate
      let (response, _) ← encryptor.decryptMessage ν crypto responseMessage
      return response

/-- `GuestFieldFlags::MEASUREMENT | GuestFieldFlags::GUEST_POLICY`. -/
def selectedFields : UInt64 := (1 : UInt64) <<< 3 ||| (1 : UInt64) <<< 0

def keyResponse (crypto : Primitives) (guest : SevGuest) : Except String KeyResponse :=
  guest.sendGuestMessageRequest KeyResponse crypto
    { KeyRequest.new with guestFieldSelect := selectedFields }

/-- Without SNP the key is the fixed one of `mock_derived_key`. -/
def getDerivedKey (crypto : Primitives) (guest : SevGuest) : Except String DerivedKey :=
  if guest.snpActive then (guest.keyResponse crypto).map KeyResponse.derivedKey
  else .ok (.zero 32)

end SevGuest

end Oak.Stage0
