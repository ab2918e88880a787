import Oak.Crypto.Transparent
import Oak.Data.Protobuf
import Oak.Stage0.GuestMessage

namespace Oak.Stage0

open Oak.Data Oak.Crypto

/-! The sealing keys: the compound device identifier of layer 1 (`stage0_dice/src/lib.rs`, called
from `rust64_start`) and the key of an application (`oak_restricted_kernel_dice/src/lib.rs`). -/

/-- The measurements that the identifier depends on.  `rust64_start` fills them with SHA-256 digests
and the command line as it was read. -/
structure Stage0Measurements where
  kernelMeasurement : Block 32
  kernelCmdline : String
  setupDataDigest : Block 32
  ramDiskDigest : Block 32
deriving DecidableEq

/-- `str::is_char_boundary`: the start, the end, or a byte that does not continue a character. -/
def isCharBoundary (text : Bytes) (index : Nat) : Bool :=
  index == 0 ||
    match text[index]? with
    | none => index == text.length
    | some byte => byte < 0x80 || 0xC0 ≤ byte

def maxLength : Nat := 256

/-- The result as bytes.  Slicing a `&str` inside a character panics. -/
def shortenCmdline (cmdline : String) : Outcome Empty Bytes :=
  let text := Protobuf.utf8 cmdline
  if text.length > maxLength then
    if isCharBoundary text maxLength then .ok (text.take maxLength)
    else .panic "byte index 256 is not a char boundary"
  else .ok text

def cdiSeal : Bytes := Protobuf.utf8 "CDI_Seal"

def saltAround (measurements : Stage0Measurements) (cmdline : Bytes) : Bytes :=
  measurements.kernelMeasurement.toList ++ cmdline ++ measurements.setupDataDigest.toList ++
    measurements.ramDiskDigest.toList

def deriveSealingCdi (crypto : Primitives) (uds : DerivedKey) (measurements : Stage0Measurements) :
    Outcome Empty DerivedKey := do
  let cmdline ← shortenCmdline measurements.kernelCmdline
  return crypto.hkdfExpand (saltAround measurements cmdline) uds.toList cdiSeal 32

/-- `layer1Cdi` is `stage0_dice_data.layer_1_cdi.cdi`. -/
def generateDerivedKey (crypto : Primitives) (layer1Cdi : DerivedKey) (appDigest : Block 32) :
    DerivedKey :=
  crypto.hkdfExpand appDigest.toList layer1Cdi.toList cdiSeal 32

structure SevBoot where
  guest : SevGuest
  snpActive : guest.snpActive
  measurements : Stage0Measurements

/-- The part of `rust64_start` that derives the identifier. -/
def SevBoot.sealingCdi (crypto : Primitives) (boot : SevBoot) : Outcome Empty DerivedKey :=
  match boot.guest.getDerivedKey crypto with
  | .error reason => .panic s!"couldn't get derived key: {reason}"
  | .ok uds => deriveSealingCdi crypto uds boot.measurements

namespace SealingCdi

def calls (crypto : Primitives) (uds : DerivedKey) (measurements : Stage0Measurements)
    (appDigest : Block 32) : List (Bytes × Bytes) :=
  match shortenCmdline measurements.kernelCmdline with
  | .error _ => []
  | .ok cmdline =>
    let salt := saltAround measurements cmdline
    [(salt, uds.toList), (appDigest.toList, (crypto.hkdfExpand salt uds.toList cdiSeal 32).toList)]

/-- HKDF has no collision among these calls. -/
def CollisionFree (crypto : Primitives) (calls : List (Bytes × Bytes)) : Prop :=
  ∀ first ∈ calls, ∀ second ∈ calls,
    crypto.hkdfExpand first.1 first.2 cdiSeal 32 = crypto.hkdfExpand second.1 second.2 cdiSeal 32 →
    first = second

/-- What is promised of two boots and an application on each. -/
structure Separated (crypto : Primitives) (uds : DerivedKey) (first second : SevBoot)
    (firstApp secondApp : Block 32) : Prop where
  returns : ∀ boot ∈ [first, second], ¬ (deriveSealingCdi crypto uds boot.measurements).IsPanic
  cdis : ∀ cdi, deriveSealingCdi crypto uds first.measurements = .ok cdi →
    deriveSealingCdi crypto uds second.measurements = .ok cdi →
    first.measurements = second.measurements
  keys : ∀ firstCdi secondCdi, deriveSealingCdi crypto uds first.measurements = .ok firstCdi →
    deriveSealingCdi crypto uds second.measurements = .ok secondCdi →
    generateDerivedKey crypto firstCdi firstApp = generateDerivedKey crypto secondCdi secondApp →
    first.measurements = second.measurements ∧ firstApp = secondApp
  successful : ∀ boot ∈ [first, second], ∀ response cdi,
    boot.guest.keyResponse crypto = .ok response → boot.sealingCdi crypto = .ok cdi →
    response.getStatus = some .success

/-- A command line that is cut, if at all, between two characters. -/
def Cuttable (cmdline : String) : Prop :=
  (Protobuf.utf8 cmdline).length ≤ maxLength ∨ isCharBoundary (Protobuf.utf8 cmdline) maxLength

/-- Measurements that only differ behind the first 256 bytes of the command line. -/
def SameUpToCut (first second : Stage0Measurements) : Prop :=
  first = { second with kernelCmdline := first.kernelCmdline } ∧
    (Protobuf.utf8 first.kernelCmdline).take maxLength =
      (Protobuf.utf8 second.kernelCmdline).take maxLength

structure Separable (crypto : Primitives) (first second : SevBoot) : Prop where
  cuttable : ∀ boot ∈ [first, second], Cuttable boot.measurements.kernelCmdline
  distinct : SameUpToCut first.measurements second.measurements →
    first.measurements.kernelCmdline = second.measurements.kernelCmdline
  successful : ∀ boot ∈ [first, second], ∀ response,
    boot.guest.keyResponse crypto = .ok response → response.status = 0

def cutSalt (measurements : Stage0Measurements) : Bytes :=
  saltAround measurements ((Protobuf.utf8 measurements.kernelCmdline).take maxLength)

theorem shortenCmdline_of_cuttable {cmdline : String} (cuttable : Cuttable cmdline) :
    shortenCmdline cmdline = .ok ((Protobuf.utf8 cmdline).take maxLength) := by
  unfold shortenCmdline
  by_cases long : (Protobuf.utf8 cmdline).length > maxLength
  · have boundary : isCharBoundary (Protobuf.utf8 cmdline) maxLength :=
      cuttable.resolve_left (Nat.not_le.mpr long)
    rw [if_pos long, if_pos boundary]
  · rw [if_neg long, List.take_of_length_le (Nat.le_of_not_lt long)]

theorem shortenCmdline_panics {cmdline : String} (uncuttable : ¬ Cuttable cmdline) :
    (shortenCmdline cmdline).IsPanic := by
  obtain ⟨long, inside⟩ := not_or.mp uncuttable
  unfold shortenCmdline
  rw [if_pos (Nat.lt_of_not_le long), if_neg inside]
  trivial

variable {crypto : Primitives} {uds : DerivedKey}

variable {measurements first second : Stage0Measurements}

theorem deriveSealingCdi_of_cuttable (crypto : Primitives) (uds : DerivedKey)
    (cuttable : Cuttable measurements.kernelCmdline) : deriveSealingCdi crypto uds measurements =
      .ok (crypto.hkdfExpand (cutSalt measurements) uds.toList cdiSeal 32) := by
  rw [deriveSealingCdi, shortenCmdline_of_cuttable cuttable]
  rfl

theorem deriveSealingCdi_isPanic_iff :
    (deriveSealingCdi crypto uds measurements).IsPanic ↔ ¬ Cuttable measurements.kernelCmdline := by
  by_cases cuttable : Cuttable measurements.kernelCmdline
  · rw [deriveSealingCdi_of_cuttable crypto uds cuttable]
    exact iff_of_false id (not_not_intro cuttable)
  · refine iff_of_true ?_ cuttable
    have panics := shortenCmdline_panics cuttable
    rw [deriveSealingCdi]
    cases shortened : shortenCmdline measurements.kernelCmdline with
    | ok cmdline =>
      rw [shortened] at panics
      exact panics.elim
    | error fault =>
      rcases fault with reason | message
      · cases reason
      · trivial

theorem saltAround_injective {firstLine secondLine : Bytes}
    (same : saltAround first firstLine = saltAround second secondLine) :
    first.kernelMeasurement = second.kernelMeasurement ∧ firstLine = secondLine ∧
      first.setupDataDigest = second.setupDataDigest ∧
      first.ramDiskDigest = second.ramDiskDigest := by
  simp only [saltAround, List.append_assoc] at same
  obtain ⟨kernel, rest⟩ := List.append_inj same (by simp)
  have lengths := congrArg List.length rest
  simp only [List.length_append, List.Vector.toList_length] at lengths
  obtain ⟨lines, digests⟩ := List.append_inj rest (by omega)
  obtain ⟨setup, ramDisk⟩ := List.append_inj digests (by simp)
  exact ⟨List.Vector.eq _ _ kernel, lines, List.Vector.eq _ _ setup, List.Vector.eq _ _ ramDisk⟩

theorem cutSalt_eq_iff : cutSalt first = cutSalt second ↔ SameUpToCut first second := by
  constructor
  · intro same
    obtain ⟨kernel, lines, setup, ramDisk⟩ := saltAround_injective same
    refine ⟨?_, lines⟩
    rw [← kernel, ← setup, ← ramDisk]
  · rintro ⟨others, lines⟩
    rw [cutSalt, lines, others]
    rfl

theorem SameUpToCut.eq_of_cmdline (same : SameUpToCut first second)
    (lines : first.kernelCmdline = second.kernelCmdline) : first = second := by
  rw [same.1, lines]

theorem calls_of_cuttable {appDigest : Block 32} (cuttable : Cuttable measurements.kernelCmdline) :
    calls crypto uds measurements appDigest = [(cutSalt measurements, uds.toList),
        (appDigest.toList,
          (crypto.hkdfExpand (cutSalt measurements) uds.toList cdiSeal 32).toList)] := by
  rw [calls, shortenCmdline_of_cuttable cuttable]
  rfl

section Boots

variable {first second : SevBoot} {firstApp secondApp : Block 32} {response : KeyResponse}

section

variable
    (collisionFree : CollisionFree crypto (calls crypto uds first.measurements firstApp ++ calls crypto uds second.measurements secondApp))
    (separable : Separable crypto first second)

include collisionFree separable

theorem measurements_eq_of_cdi
    (same : crypto.hkdfExpand (cutSalt first.measurements) uds.toList cdiSeal 32 =
      crypto.hkdfExpand (cutSalt second.measurements) uds.toList cdiSeal 32) :
    first.measurements = second.measurements := by
  rw [calls_of_cuttable (separable.cuttable first (by simp)),
    calls_of_cuttable (separable.cuttable second (by simp))] at collisionFree
  have inputs := collisionFree _ (.head _) _ (.tail _ (.tail _ (.head _))) same
  have upToCut := cutSalt_eq_iff.mp (congrArg Prod.fst inputs)
  exact upToCut.eq_of_cmdline (separable.distinct upToCut)

theorem separated_of_separable : Separated crypto uds first second firstApp secondApp := by
  have firstCuttable := separable.cuttable first (by simp)
  have secondCuttable := separable.cuttable second (by simp)
  constructor
  case returns =>
    intro boot member panics
    exact deriveSealingCdi_isPanic_iff.mp panics (separable.cuttable boot member)
  case cdis =>
    intro cdi firstDerived secondDerived
    rw [deriveSealingCdi_of_cuttable crypto uds firstCuttable] at firstDerived
    rw [deriveSealingCdi_of_cuttable crypto uds secondCuttable] at secondDerived
    exact measurements_eq_of_cdi collisionFree separable
      ((Except.ok.inj firstDerived).trans (Except.ok.inj secondDerived).symm)
  case keys =>
    intro firstCdi secondCdi firstDerived secondDerived same
    rw [deriveSealingCdi_of_cuttable crypto uds firstCuttable] at firstDerived
    rw [deriveSealingCdi_of_cuttable crypto uds secondCuttable] at secondDerived
    obtain rfl := Except.ok.inj firstDerived
    obtain rfl := Except.ok.inj secondDerived
    have free := collisionFree
    rw [calls_of_cuttable firstCuttable, calls_of_cuttable secondCuttable] at free
    have inputs := free _ (.tail _ (.head _)) _ (.tail _ (.tail _ (.tail _ (.head _)))) same
    obtain ⟨apps, cdis⟩ := Prod.mk.inj inputs
    exact ⟨measurements_eq_of_cdi collisionFree separable (List.Vector.eq _ _ cdis),
      List.Vector.eq _ _ apps⟩
  case successful =>
    intro boot member response cdi responded _
    rw [KeyResponse.getStatus, separable.successful boot member response responded]
    rfl

end

theorem sealingCdi_of_response {boot : SevBoot}
    (cuttable : Cuttable boot.measurements.kernelCmdline)
    (responded : boot.guest.keyResponse crypto = .ok response) :
    ∃ cdi, boot.sealingCdi crypto = .ok cdi := by
  have key : boot.guest.getDerivedKey crypto = .ok response.derivedKey := by
    rw [SevGuest.getDerivedKey, if_pos boot.snpActive, responded]
    rfl
  rw [SevBoot.sealingCdi, key]
  exact ⟨_, deriveSealingCdi_of_cuttable crypto _ cuttable⟩

theorem status_of_success (successful : response.getStatus = some .success) : response.status = 0 := by
  unfold KeyResponse.getStatus KeyStatus.fromRepr at successful
  by_contra other
  rw [if_neg other] at successful
  split at successful
  · cases successful
  · split at successful
    · cases successful
    · cases successful

theorem separable_of_separated (separated : Separated crypto uds first second firstApp secondApp) :
    Separable crypto first second := by
  have cuttable : ∀ boot ∈ [first, second], Cuttable boot.measurements.kernelCmdline := by
    intro boot member
    by_contra uncuttable
    exact separated.returns boot member (deriveSealingCdi_isPanic_iff.mpr uncuttable)
  refine ⟨cuttable, ?_, ?_⟩
  · intro upToCut
    have firstDerived := deriveSealingCdi_of_cuttable crypto uds (cuttable first (by simp))
    have secondDerived := deriveSealingCdi_of_cuttable crypto uds (cuttable second (by simp))
    rw [cutSalt_eq_iff.mpr upToCut] at firstDerived
    rw [separated.cdis _ firstDerived secondDerived]
  · intro boot member response responded
    obtain ⟨cdi, derived⟩ := sealingCdi_of_response (cuttable boot member) responded
    exact status_of_success (separated.successful boot member response cdi responded derived)

end Boots

theorem separated_iff_separable (crypto : Primitives) (uds : DerivedKey) (first second : SevBoot)
    (firstApp secondApp : Block 32)
    (collisionFree : CollisionFree crypto (calls crypto uds first.measurements firstApp ++
      calls crypto uds second.measurements secondApp)) :
    Separated crypto uds first second firstApp secondApp ↔ Separable crypto first second :=
  ⟨separable_of_separated, separated_of_separable collisionFree⟩

section Plain

def plain : Primitives := { Primitives.transparent with
  encryptInPlace := fun _ _ _ plaintext => plaintext ++ (Block.zero 16).toList
  decryptInPlace := fun _ _ _ ciphertext => some (ciphertext.take (ciphertext.length - 16)) }

def keyOf (byte : UInt8) : Block 32 := .replicate 32 byte

def answering (status : UInt32) : SevGuest where
  snpActive := true
  encryptor := some ⟨keyOf 0, 0⟩
  ghcb := some fun _ => .ok {
    header := { GuestMessageHeader.new with
      sequenceNumber := 2
      authHeader := { GuestMessageHeader.new.authHeader with
        messageType := MessageType.keyResponse.repr
        messageVersion := 1
        messageSize := 64 } }
    payload := copyToFront
      (Message.asBytes (KeyResponse.mk status (.zero 28) (keyOf 7))).toList (.zero maxPayloadSize) }

def bootOf (status : UInt32) (kernel : UInt8) (cmdline : String) : SevBoot where
  guest := answering status
  snpActive := rfl
  measurements := ⟨keyOf kernel, cmdline, keyOf 0, keyOf 0⟩

theorem answering_response (status : UInt32) (zero : status = 0) :
    (answering status).keyResponse plain = .ok ⟨0, .zero 28, keyOf 7⟩ := by
  subst zero
  decide +kernel

/-- Two kernels, and two applications on them. -/
theorem kernels_separated :
    Separated plain (keyOf 7) (bootOf 0 1 "quiet") (bootOf 0 2 "quiet") (keyOf 3) (keyOf 4) := by
  refine (separated_iff_separable plain (keyOf 7) (bootOf 0 1 "quiet") (bootOf 0 2 "quiet")
    (keyOf 3) (keyOf 4) ?_).mpr ⟨?_, ?_, ?_⟩
  · unfold CollisionFree
    decide +kernel
  · intro boot member
    left
    simp only [List.mem_cons, List.not_mem_nil, or_false] at member
    rcases member with rfl | rfl
    · decide +kernel
    · decide +kernel
  · exact fun _ => rfl
  · intro boot member response responded
    simp only [List.mem_cons, List.not_mem_nil, or_false] at member
    rcases member with rfl | rfl
    · cases (answering_response 0 rfl).symm.trans responded
      rfl
    · cases (answering_response 0 rfl).symm.trans responded
      rfl

def longCmdline (last : Char) : String := String.ofList (List.replicate 256 'a' ++ [last])

/-- Command lines that differ in byte 257 only, one that is cut inside a character, and a response
that reports invalid parameters. -/
theorem sealing_not_separated :
    ¬ Separated plain (keyOf 7) (bootOf 0 1 (longCmdline 'x')) (bootOf 0 1 (longCmdline 'y'))
      (keyOf 3) (keyOf 3) ∧ (deriveSealingCdi plain (keyOf 7) ⟨keyOf 1,
      String.ofList (List.replicate 255 'a' ++ ['\u00e9']), keyOf 0, keyOf 0⟩).IsPanic ∧
    ((answering 0x16).keyResponse plain).map KeyResponse.getStatus = .ok (some .invalidParams) ∧
    ∃ cdi, (bootOf 0x16 1 "quiet").sealingCdi plain = .ok cdi := by
  refine ⟨?_, by decide +kernel, by decide +kernel, ⟨_, rfl⟩⟩
  intro separated
  have same := separated.cdis (keyOf 1) (by decide +kernel) (by decide +kernel)
  revert same
  decide +kernel

end Plain

end SealingCdi

end Oak.Stage0
