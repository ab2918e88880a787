import Oak.Tr.Endorsement

namespace Oak.Attestation

open Oak.Data Oak.Tr

/-! Messages that the verifiers and the policies share. -/

/-- `google.protobuf.Any`. -/
structure AnyMessage where
  typeUrl : Text
  value : Bytes
deriving DecidableEq

structure Event where
  event : Option AnyMessage
deriving DecidableEq

structure Variant where
  id : Bytes
  value : Bytes
deriving DecidableEq

inductive BinaryReferenceType where
  | skip
  | endorsement (value : EndorsementReferenceValue)
  | digests (digests : List RawDigest)

structure BinaryReferenceValue where
  type : Option BinaryReferenceType

structure EventAttestationResults where
  artifacts : BTreeMap Text Bytes

def sessionBindingPublicKeyId : Text := "oak-session-binding-public-key:ecdsa-p256".toList

def setSessionBindingPublicKey (results : EventAttestationResults) (key : Bytes) :
    EventAttestationResults :=
  { results with artifacts := results.artifacts.insert sessionBindingPublicKeyId key }

section Decoding

-- `Message::decode` of the `prost` crate, with the text of its error
variable {M : Type} (decodeEvent : Bytes → Except String Event) (decode : Bytes → Except String M)

/-- The text of the source also prints the error of the `prost` crate. -/
def decodeProtobufAny (expectedTypeUrl : Text) (message : AnyMessage) : Anyhow.Result M :=
  if message.typeUrl ≠ expectedTypeUrl then
    Anyhow.bail ("expected message with type url: " ++ String.ofList expectedTypeUrl ++
      ", found: " ++ String.ofList message.typeUrl)
  else
    Anyhow.mapText (fun reason => "couldn't decode Any message into " ++
      String.ofList expectedTypeUrl ++ ": " ++ reason) (decode message.value)

def decodeEventProto (expectedTypeUrl : Text) (encodedEvent : Bytes) : Anyhow.Result M := do
  let eventProto ← Anyhow.mapText ("failed to decode event: " ++ ·) (decodeEvent encodedEvent)
  let event ← Anyhow.present "no event found in the event field" eventProto.event
  decodeProtobufAny decode expectedTypeUrl event

/-- `try_into_message`, for the message of one identifier. -/
def tryIntoMessage (id : Bytes) (variant : Variant) : Except String M :=
  if variant.id ≠ id then .error "unexpected variant ID"
  else (decode variant.value).mapError fun _ => "couldn't decode variant"

end Decoding

end Oak.Attestation
