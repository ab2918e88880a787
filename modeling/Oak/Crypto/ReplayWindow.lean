import Mathlib.Order.Interval.Finset.Nat
import Oak.Crypto.Transparent
import Oak.Data.Runs

namespace Oak.Crypto

open Oak.Data

/-! The receive window of the unordered crypter.

The window is read against a specification that knows every nonce recorded so
far: a nonce is acceptable when it is positive, was not recorded, and lies less
than the width behind every recorded one.  The crypter keeps only the furthest
nonce and the recorded ones inside its window; `Tracks` says that this is
enough. -/

namespace UnorderedCrypter

/-- The lower end of a window, without the bound of the machine integers. -/
def lowestFor (furthest width : UInt32) : Nat :=
  if width.toNat < furthest.toNat then furthest.toNat - width.toNat + 1 else 1

def lowest (crypter : UnorderedCrypter) : Nat :=
  lowestFor crypter.furthestReadNonce crypter.windowSize

variable {crypter : UnorderedCrypter}

theorem getLowestAcceptableReadNonce_cases (crypter : UnorderedCrypter) :
    if crypter.lowest < 2 ^ 32 then
      ∃ low, crypter.getLowestAcceptableReadNonce = .ok low ∧ low.toNat = crypter.lowest
    else ∃ message, crypter.getLowestAcceptableReadNonce = .panic message := by
  simp only [lowest, lowestFor]
  simp only [getLowestAcceptableReadNonce, checkedIncrement, UInt32.lt_iff_toNat_lt]
  by_cases ahead : crypter.windowSize.toNat < crypter.furthestReadNonce.toNat
  · have difference := UInt32.toNat_sub_of_le _ _ (UInt32.le_iff_toNat_le.mpr ahead.le)
    simp only [if_pos ahead, difference]
    split
    · next fits =>
      refine ⟨_, rfl, ?_⟩
      rw [UInt32.toNat_add, difference, UInt32.toNat_one, Nat.mod_eq_of_lt fits]
    · exact ⟨_, rfl⟩
  · simp only [if_neg ahead]
    exact ⟨1, rfl, rfl⟩

theorem getLowestAcceptableReadNonce_of_fits (fits : crypter.lowest < 2 ^ 32) :
    ∃ low, crypter.getLowestAcceptableReadNonce = .ok low ∧ low.toNat = crypter.lowest := by
  simpa only [if_pos fits] using crypter.getLowestAcceptableReadNonce_cases

theorem getLowestAcceptableReadNonce_overflows (overflows : ¬ crypter.lowest < 2 ^ 32) :
    ∃ message, crypter.getLowestAcceptableReadNonce = .panic message := by
  simpa only [if_neg overflows] using crypter.getLowestAcceptableReadNonce_cases

def recordNonce (crypter : UnorderedCrypter) (nonceValue : UInt32) : UnorderedCrypter :=
  if nonceValue ≤ crypter.furthestReadNonce then
    { crypter with bufferedReadNonces := insert nonceValue crypter.bufferedReadNonces }
  else
    { crypter with
      furthestReadNonce := nonceValue
      bufferedReadNonces := insert nonceValue
        (crypter.bufferedReadNonces.filter (lowestFor nonceValue crypter.windowSize ≤ ·.toNat)) }

variable {value windowSize : UInt32}

theorem recordNonce_mem {recorded : UInt32} :
    value ∈ (crypter.recordNonce recorded).bufferedReadNonces ↔
      value = recorded ∨ value ∈ crypter.bufferedReadNonces ∧
        (recorded ≤ crypter.furthestReadNonce ∨
          lowestFor recorded crypter.windowSize ≤ value.toNat) := by
  unfold recordNonce
  split
  · rename_i inside
    simp [inside]
  · rename_i outside
    simp [outside]

theorem recordNonce_furthest (crypter : UnorderedCrypter) (recorded : UInt32) :
    (crypter.recordNonce recorded).furthestReadNonce.toNat =
      max crypter.furthestReadNonce.toNat recorded.toNat := by
  unfold recordNonce
  split
  · rename_i inside
    exact (max_eq_left inside).symm
  · rename_i outside
    exact (max_eq_right (Nat.le_of_not_le outside)).symm

@[simp] theorem recordNonce_windowSize (crypter : UnorderedCrypter) (recorded : UInt32) :
    (crypter.recordNonce recorded).windowSize = crypter.windowSize := by
  unfold recordNonce
  split <;> rfl

@[simp] theorem recordNonce_readKey (crypter : UnorderedCrypter) (recorded : UInt32) :
    (crypter.recordNonce recorded).readKey = crypter.readKey := by
  unfold recordNonce
  split <;> rfl

/-- Nothing in the buffer is ahead of the furthest nonce. -/
def Bounded (crypter : UnorderedCrypter) : Prop :=
  ∀ value ∈ crypter.bufferedReadNonces, value ≤ crypter.furthestReadNonce

/-- A nonce that the window admits: not behind it and not in the buffer. -/
def Admits (crypter : UnorderedCrypter) (nonceValue : UInt32) : Prop :=
  crypter.lowest ≤ nonceValue.toNat ∧ nonceValue ∉ crypter.bufferedReadNonces

/-- A panic may leave the furthest nonce ahead of the buffer. -/
structure Advanced (crypter next : UnorderedCrypter) : Prop where
  readKey : next.readKey = crypter.readKey
  windowSize : next.windowSize = crypter.windowSize
  buffered : next.bufferedReadNonces = crypter.bufferedReadNonces
  furthest : crypter.furthestReadNonce.toNat ≤ next.furthestReadNonce.toNat

/-- What the window part of `decrypt` does with a nonce. -/
inductive WindowStep (crypter : UnorderedCrypter) (nonceValue : UInt32) :
    Outcome NoiseError Unit × UnorderedCrypter → Prop where
  | accepted (admitted : crypter.Admits nonceValue)
      (fits : lowestFor nonceValue crypter.windowSize < 2 ^ 32) :
      WindowStep crypter nonceValue (.ok (), crypter.recordNonce nonceValue)
  | refused (reason : NoiseError) (windowed : reason ≠ .decryptFailed)
      (refused : ¬ crypter.Admits nonceValue) :
      WindowStep crypter nonceValue (.err reason, crypter)
  | overflowed (message : String) (unbounded : crypter.windowSize = 0)
      (excess : crypter.Admits nonceValue → ¬ lowestFor nonceValue crypter.windowSize < 2 ^ 32)
      (next : UnorderedCrypter) (kept : crypter.Advanced next) :
      WindowStep crypter nonceValue (.panic message, next)

theorem lowestFor_overflows {furthest width : UInt32} (overflows : ¬ lowestFor furthest width < 2 ^ 32) :
    width = 0 := by
  have bound := furthest.toNat_lt
  simp only [lowestFor] at overflows
  split at overflows
  · apply UInt32.toNat_inj.mp
    rw [UInt32.toNat_zero]
    omega
  · omega

theorem lowestFor_mono {first second : UInt32} (width : UInt32) (le : first ≤ second) :
    lowestFor first width ≤ lowestFor second width := by
  rw [UInt32.le_iff_toNat_le] at le
  simp only [lowestFor]
  split <;> split <;> omega

theorem lowestFor_le_self {furthest width : UInt32} (room : 1 ≤ width) (positive : 1 ≤ furthest.toNat) :
    lowestFor furthest width ≤ furthest.toNat := by
  rw [UInt32.le_iff_toNat_le, UInt32.toNat_one] at room
  simp only [lowestFor]
  split <;> omega

theorem recordNonce_lowest (crypter : UnorderedCrypter) (recorded : UInt32) :
    (crypter.recordNonce recorded).lowest =
      max crypter.lowest (lowestFor recorded crypter.windowSize) := by
  simp only [lowest, lowestFor, recordNonce_furthest, recordNonce_windowSize]
  split <;> split <;> split <;> omega

theorem acceptNonce_step (bounded : crypter.Bounded) (nonceValue : UInt32) :
    WindowStep crypter nonceValue (crypter.acceptNonce nonceValue) := by
  by_cases fits : crypter.lowest < 2 ^ 32
  · obtain ⟨low, computed, lowValue⟩ := getLowestAcceptableReadNonce_of_fits fits
    simp only [acceptNonce, computed, UInt32.lt_iff_toNat_lt]
    split
    · exact .refused _ (by decide) fun admitted => absurd admitted.1 (by omega)
    · split
      · rename_i inside
        split
        · rename_i replayed
          exact .refused _ (by decide) fun admitted => admitted.2 replayed
        · rename_i fresh
          have recorded : crypter.recordNonce nonceValue = { crypter with
              bufferedReadNonces := insert nonceValue crypter.bufferedReadNonces } := by
            rw [recordNonce, if_pos inside]
          rw [← recorded]
          exact .accepted ⟨by omega, fresh⟩
            (lt_of_le_of_lt (lowestFor_mono crypter.windowSize inside) fits)
      · rename_i ahead
        have fresh : nonceValue ∉ crypter.bufferedReadNonces :=
          fun buffered => ahead (bounded _ buffered)
        let advanced := { crypter with furthestReadNonce := nonceValue }
        by_cases advances : advanced.lowest < 2 ^ 32
        · obtain ⟨newLow, newComputed, newValue⟩ := getLowestAcceptableReadNonce_of_fits advances
          have recorded : crypter.recordNonce nonceValue = { advanced with
              bufferedReadNonces := insert nonceValue
                (crypter.bufferedReadNonces.filter (newLow ≤ ·)) } := by
            have lower : newLow.toNat = lowestFor nonceValue crypter.windowSize := newValue
            rw [recordNonce, if_neg ahead]
            simp only [UInt32.le_iff_toNat_le, lower, advanced]
          simp only [advanced] at newComputed
          simp only [newComputed]
          have step : WindowStep crypter nonceValue (.ok (), crypter.recordNonce nonceValue) :=
            .accepted ⟨by omega, fresh⟩ advances
          rwa [recorded] at step
        · obtain ⟨message, panicked⟩ := getLowestAcceptableReadNonce_overflows advances
          simp only [advanced] at panicked
          simp only [panicked]
          have later : crypter.furthestReadNonce.toNat ≤ nonceValue.toNat := by
            rw [UInt32.le_iff_toNat_le] at ahead
            omega
          have unbounded : crypter.windowSize = 0 := lowestFor_overflows advances
          have excess : ¬ lowestFor nonceValue crypter.windowSize < 2 ^ 32 := advances
          have kept : crypter.Advanced advanced := ⟨rfl, rfl, rfl, later⟩
          exact .overflowed message unbounded (fun _ => excess) advanced kept
  · obtain ⟨message, panicked⟩ := getLowestAcceptableReadNonce_overflows fits
    simp only [acceptNonce, panicked]
    have bound := nonceValue.toNat_lt
    exact .overflowed message (lowestFor_overflows fits) (fun admitted => absurd admitted.1 (by omega))
      _ ⟨rfl, rfl, rfl, le_rfl⟩

/-- The specification of the window, over all nonces recorded so far. -/
def Acceptable (width : Nat) (recorded : Finset UInt32) (value : UInt32) : Prop :=
  1 ≤ value.toNat ∧ value ∉ recorded ∧ ∀ earlier ∈ recorded, earlier.toNat < value.toNat + width

/-- The crypter remembers enough of the recorded nonces. -/
structure Tracks (crypter : UnorderedCrypter) (recorded : Finset UInt32) : Prop where
  furthest : ∀ value ∈ recorded, value.toNat ≤ crypter.furthestReadNonce.toNat
  attained : crypter.furthestReadNonce = 0 ∨ crypter.furthestReadNonce ∈ recorded
  buffered : ∀ value, value ∈ crypter.bufferedReadNonces ↔
    value ∈ recorded ∧ crypter.lowest ≤ value.toNat

namespace Tracks

variable {crypter : UnorderedCrypter} {recorded : Finset UInt32} {value : UInt32}

theorem initial (readKey writeKey : Key) (windowSize : UInt32) :
    Tracks (new readKey writeKey windowSize) ∅ where
  furthest := by simp
  attained := .inl rfl
  buffered := by simp [new]

section

variable (tracks : crypter.Tracks recorded)

include tracks

theorem bounded : crypter.Bounded := by
  intro value buffered
  exact tracks.furthest value ((tracks.buffered value).mp buffered).1

theorem lowest_le_iff :
    crypter.lowest ≤ value.toNat ↔ 1 ≤ value.toNat ∧
      ∀ earlier ∈ recorded, earlier.toNat < value.toNat + crypter.windowSize.toNat := by
  simp only [lowest, lowestFor]
  constructor
  · intro reached
    have ahead : 1 ≤ value.toNat ∧
        crypter.furthestReadNonce.toNat < value.toNat + crypter.windowSize.toNat := by
      split at reached <;> omega
    exact ⟨ahead.1, fun earlier member => lt_of_le_of_lt (tracks.furthest earlier member) ahead.2⟩
  · rintro ⟨positive, near⟩
    rcases tracks.attained with start | member
    · simpa [start] using positive
    · have reach := near _ member
      split <;> omega

theorem admits_iff : crypter.Admits value ↔ Acceptable crypter.windowSize.toNat recorded value := by
  rw [Admits, Acceptable, tracks.buffered, tracks.lowest_le_iff]
  tauto

/-- Recording an admitted nonce keeps the crypter in step with the
specification.  A window without room loses the nonce at once, which is why
the width must be positive. -/
theorem record (room : 1 ≤ crypter.windowSize) (admitted : crypter.Admits value) :
    (crypter.recordNonce value).Tracks (insert value recorded) where
  furthest := by
    intro earlier member
    rw [recordNonce_furthest]
    rcases Finset.mem_insert.mp member with rfl | member
    · exact le_max_right _ _
    · exact (tracks.furthest earlier member).trans (le_max_left _ _)
  attained := by
    have positive := (tracks.lowest_le_iff.mp admitted.1).1
    have latest := recordNonce_furthest crypter value
    right
    rcases le_total value.toNat crypter.furthestReadNonce.toNat with inside | outside
    · rw [max_eq_left inside] at latest
      rw [UInt32.toNat_inj.mp latest]
      rcases tracks.attained with start | member
      · rw [start, UInt32.toNat_zero] at inside
        omega
      · exact Finset.mem_insert_of_mem member
    · rw [max_eq_right outside] at latest
      rw [UInt32.toNat_inj.mp latest]
      exact Finset.mem_insert_self _ _
  buffered := by
    intro earlier
    have own := lowestFor_le_self room (tracks.lowest_le_iff.mp admitted.1).1
    have reached := admitted.1
    rw [recordNonce_mem, recordNonce_lowest, tracks.buffered, Finset.mem_insert, max_le_iff]
    constructor
    · rintro (rfl | ⟨⟨member, kept⟩, inside | above⟩)
      · exact ⟨.inl rfl, reached, own⟩
      · exact ⟨.inr member, kept, (lowestFor_mono _ inside).trans kept⟩
      · exact ⟨.inr member, kept, above⟩
    · rintro ⟨rfl | member, kept, above⟩
      · exact .inl rfl
      · exact .inr ⟨⟨member, kept⟩, .inr above⟩

theorem card_le : crypter.bufferedReadNonces.card ≤ crypter.windowSize.toNat := by
  have inside : ∀ value ∈ crypter.bufferedReadNonces,
      value.toNat ∈ Finset.Icc crypter.lowest crypter.furthestReadNonce.toNat := by
    intro value buffered
    obtain ⟨member, kept⟩ := (tracks.buffered value).mp buffered
    exact Finset.mem_Icc.mpr ⟨kept, tracks.furthest value member⟩
  have counted := Finset.card_le_card_of_injOn UInt32.toNat inside
    (fun _ _ _ _ same => UInt32.toNat_inj.mp same)
  rw [Nat.card_Icc] at counted
  refine counted.trans ?_
  simp only [lowest, lowestFor]
  split <;> omega

end

end Tracks

variable {crypto : Primitives}

/-- What a call to `decrypt` does.  Only a nonce that the window admits and
records reaches the authentication of the ciphertext. -/
inductive DecryptStep (crypto : Primitives) (crypter : UnorderedCrypter) (nonce : NonceBytes)
    (ciphertext : Bytes) : Outcome NoiseError Bytes × UnorderedCrypter → Prop where
  | recorded (value : UInt32) (decoded : Nonce.getNonceValue nonce = .ok value)
      (admitted : crypter.Admits value) (fits : lowestFor value crypter.windowSize < 2 ^ 32) :
      DecryptStep crypto crypter nonce ciphertext
        (Outcome.returned (aesGcm256Decrypt crypto crypter.readKey nonce ciphertext),
          crypter.recordNonce value)
  | refused (reason : NoiseError) (windowed : reason ≠ .decryptFailed)
      (refused : ∀ value, Nonce.getNonceValue nonce = .ok value → ¬ crypter.Admits value) :
      DecryptStep crypto crypter nonce ciphertext (.err reason, crypter)
  | overflowed (message : String) (unbounded : crypter.windowSize = 0)
      (excess : ∀ value, Nonce.getNonceValue nonce = .ok value → crypter.Admits value →
        ¬ lowestFor value crypter.windowSize < 2 ^ 32)
      (next : UnorderedCrypter) (kept : crypter.Advanced next) :
      DecryptStep crypto crypter nonce ciphertext (.panic message, next)

theorem decrypt_step (crypto : Primitives) (bounded : crypter.Bounded) (nonce : NonceBytes)
    (ciphertext : Bytes) :
    DecryptStep crypto crypter nonce ciphertext (crypter.decrypt crypto nonce ciphertext) := by
  unfold decrypt
  cases decoded : Nonce.getNonceValue nonce with
  | error reason =>
    have malformed : reason ≠ .decryptFailed := by
      rw [Nonce.getNonceValue_error decoded]
      decide
    exact .refused reason malformed (by simp [decoded])
  | ok value =>
    have step := acceptNonce_step bounded value
    cases window : crypter.acceptNonce value with
    | mk result next =>
      rw [window] at step
      simp only [window]
      cases step with
      | accepted admitted fits =>
        simp only [recordNonce_readKey]
        exact .recorded value decoded admitted fits
      | refused reason windowed refused =>
        refine .refused reason windowed fun other same => ?_
        rw [decoded, Except.ok.injEq] at same
        exact same ▸ refused
      | overflowed message unbounded excess next kept =>
        refine .overflowed message unbounded (fun other same => ?_) next kept
        rw [decoded, Except.ok.injEq] at same
        exact same ▸ excess

def receive (crypto : Primitives) (crypter : UnorderedCrypter) (message : NonceBytes × Bytes) :
    Outcome NoiseError Bytes × UnorderedCrypter :=
  crypter.decrypt crypto message.1 message.2

abbrev History := List ((NonceBytes × Bytes) × Outcome NoiseError Bytes)

def acceptedNonces (history : History) : List NonceBytes :=
  history.filterMap fun call =>
    match call.2 with
    | .ok _ => some call.1.1
    | .error _ => none

structure ReplaySafe (crypto : Primitives) (readKey : Key) (history : History)
    (crypter : UnorderedCrypter) : Prop where
  acceptedOnce : (acceptedNonces history).Nodup
  insideWindow : ∀ value ∈ crypter.bufferedReadNonces,
    value ≤ crypter.furthestReadNonce ∧
      ∃ low, crypter.getLowestAcceptableReadNonce = .ok low ∧ low ≤ value
  capacity : crypter.bufferedReadNonces.card ≤ crypter.windowSize.toNat
  noPanic : ∀ call ∈ history, ¬ call.2.IsPanic
  freshAccepted : ∀ value low plaintext ciphertext,
    aesGcm256Encrypt crypto readKey (Nonce.encode value) plaintext = .ok ciphertext →
    (∀ call ∈ history, call.1.1 ≠ Nonce.encode value) →
    crypter.getLowestAcceptableReadNonce = .ok low → low ≤ value →
    (crypter.decrypt crypto (Nonce.encode value) ciphertext).1 = .ok plaintext

/-- The invariant behind `ReplaySafe`. -/
structure Following (readKey : Key) (windowSize : UInt32) (recorded : Finset UInt32)
    (history : History) (crypter : UnorderedCrypter) : Prop where
  key : crypter.readKey = readKey
  width : crypter.windowSize = windowSize
  tracks : crypter.Tracks recorded
  acceptedOnce : (acceptedNonces history).Nodup
  acceptedRecorded : ∀ nonce ∈ acceptedNonces history,
    ∃ value ∈ recorded, Nonce.getNonceValue nonce = .ok value
  presented : ∀ value ∈ recorded, ∃ call ∈ history, call.1.1 = Nonce.encode value
  noPanic : ∀ call ∈ history, ¬ call.2.IsPanic

theorem acceptedNonces_append (history : History) (message : NonceBytes × Bytes)
    (result : Outcome NoiseError Bytes) :
    acceptedNonces (history ++ [(message, result)]) =
      acceptedNonces history ++ (match result with | .ok _ => [message.1] | .error _ => []) := by
  unfold acceptedNonces
  rw [List.filterMap_append]
  cases result <;> rfl

theorem not_isPanic_returned {α : Type} (result : Except NoiseError α) :
    ¬ (Outcome.returned result).IsPanic := by
  cases result <;> exact id

namespace Following

variable {readKey : Key} {windowSize : UInt32} {recorded : Finset UInt32} {history : History}
  {crypter : UnorderedCrypter}

theorem refuse (following : Following readKey windowSize recorded history crypter)
    (message : NonceBytes × Bytes) (reason : NoiseError) :
    Following readKey windowSize recorded (history ++ [(message, .err reason)]) crypter := by
  have same : acceptedNonces (history ++ [(message, .err reason)]) = acceptedNonces history := by
    rw [acceptedNonces_append]
    exact List.append_nil _
  refine { following with
    acceptedOnce := same ▸ following.acceptedOnce
    acceptedRecorded := same ▸ following.acceptedRecorded
    presented := fun value member => ?_
    noPanic := List.forall_mem_append.mpr ⟨following.noPanic,
      List.forall_mem_singleton.mpr (Outcome.not_isPanic_err reason)⟩ }
  obtain ⟨call, earlier, same⟩ := following.presented value member
  exact ⟨call, List.mem_append_left _ earlier, same⟩

theorem record (following : Following readKey windowSize recorded history crypter) (room : 1 ≤ windowSize)
    {message : NonceBytes × Bytes} {value : UInt32}
    (decoded : Nonce.getNonceValue message.1 = .ok value) (admitted : crypter.Admits value)
    (opened : Except NoiseError Bytes) :
    Following readKey windowSize (insert value recorded)
      (history ++ [(message, Outcome.returned opened)]) (crypter.recordNonce value) where
  key := by rw [recordNonce_readKey, following.key]
  width := by rw [recordNonce_windowSize, following.width]
  tracks := following.tracks.record (following.width ▸ room) admitted
  acceptedOnce := by
    rw [acceptedNonces_append]
    have unseen : message.1 ∉ acceptedNonces history := by
      intro seen
      obtain ⟨other, member, same⟩ := following.acceptedRecorded _ seen
      rw [decoded, Except.ok.injEq] at same
      exact (following.tracks.admits_iff.mp admitted).2.1 (same ▸ member)
    cases opened with
    | error reason => simpa [Outcome.returned, Outcome.err] using following.acceptedOnce
    | ok plaintext =>
      refine List.nodup_append.mpr ⟨following.acceptedOnce, List.nodup_singleton _, ?_⟩
      rintro nonce earlier other last rfl
      exact unseen (List.mem_singleton.mp last ▸ earlier)
  acceptedRecorded := by
    intro nonce member
    rw [acceptedNonces_append] at member
    rcases List.mem_append.mp member with earlier | last
    · obtain ⟨other, present, same⟩ := following.acceptedRecorded nonce earlier
      exact ⟨other, Finset.mem_insert_of_mem present, same⟩
    · cases opened with
      | error reason => simp [Outcome.returned, Outcome.err] at last
      | ok plaintext =>
        rw [List.mem_singleton.mp last]
        exact ⟨value, Finset.mem_insert_self _ _, decoded⟩
  presented := by
    intro other member
    rcases Finset.mem_insert.mp member with rfl | earlier
    · exact ⟨_, List.mem_append_right _ (List.mem_singleton.mpr rfl),
        (Nonce.encode_getNonceValue decoded).symm⟩
    · obtain ⟨call, present, same⟩ := following.presented other earlier
      exact ⟨call, List.mem_append_left _ present, same⟩
  noPanic := List.forall_mem_append.mpr ⟨following.noPanic,
    List.forall_mem_singleton.mpr (not_isPanic_returned opened)⟩

end Following

theorem following_after (room : 1 ≤ windowSize) (readKey writeKey : Key)
    (messages : List (NonceBytes × Bytes)) : let start := new readKey writeKey windowSize
    ∃ recorded, Following readKey windowSize recorded (Runs.trace (receive crypto) start messages)
      (Runs.after (receive crypto) start messages) := by
  refine Runs.invariant_from_start
    (fun history crypter => ∃ recorded, Following readKey windowSize recorded history crypter)
    ?_ ?_ messages
  · rintro history crypter message ⟨recorded, following⟩
    have step := decrypt_step crypto following.tracks.bounded message.1 message.2
    cases result : receive crypto crypter message with
    | mk answer next =>
      rw [receive] at result
      rw [result] at step
      cases step with
      | recorded value decoded admitted fits =>
        exact ⟨_, following.record room decoded admitted _⟩
      | refused reason windowed refused => exact ⟨recorded, following.refuse message reason⟩
      | overflowed message unbounded excess next kept =>
        rw [following.width] at unbounded
        rw [unbounded] at room
        exact absurd room (by decide)
  · exact ⟨∅, rfl, rfl, Tracks.initial readKey writeKey windowSize, by simp [acceptedNonces],
      by simp [acceptedNonces], by simp, by simp⟩

theorem decrypt_authentic_iff (opens : crypto.OpensSealed) (bounded : crypter.Bounded)
    {plaintext ciphertext : Bytes}
    (authentic : aesGcm256Encrypt crypto crypter.readKey (Nonce.encode value) plaintext =
      .ok ciphertext) : (crypter.decrypt crypto (Nonce.encode value) ciphertext).1 = .ok plaintext ↔
      crypter.Admits value ∧ lowestFor value crypter.windowSize < 2 ^ 32 := by
  have decoded := Nonce.getNonceValue_encode value
  have step := decrypt_step crypto bounded (Nonce.encode value) ciphertext
  generalize crypter.decrypt crypto (Nonce.encode value) ciphertext = result at step
  cases step with
  | recorded other same admitted fits =>
    rw [decoded, Except.ok.injEq] at same
    subst same
    simp only [aesGcm256Decrypt_encrypt opens authentic, Outcome.returned, admitted, fits, and_self]
  | refused reason windowed refused => simp [Outcome.err, refused value decoded]
  | overflowed message unbounded excess next kept =>
    simp only [Outcome.panic, reduceCtorEq, false_iff, not_and]
    exact excess value decoded

theorem Following.replaySafe (opens : crypto.OpensSealed) {readKey : Key}
    {recorded : Finset UInt32} {history : History} (room : 1 ≤ windowSize)
    (following : Following readKey windowSize recorded history crypter) :
    ReplaySafe crypto readKey history crypter where
  acceptedOnce := following.acceptedOnce
  insideWindow := by
    intro value buffered
    obtain ⟨member, kept⟩ := (following.tracks.buffered value).mp buffered
    refine ⟨following.tracks.bounded value buffered, ?_⟩
    obtain ⟨low, computed, lowValue⟩ :=
      getLowestAcceptableReadNonce_of_fits (lt_of_le_of_lt kept value.toNat_lt)
    exact ⟨low, computed, by rwa [UInt32.le_iff_toNat_le, lowValue]⟩
  capacity := following.tracks.card_le
  noPanic := following.noPanic
  freshAccepted := by
    intro value low plaintext ciphertext authentic fresh computed reached
    have fits : ∀ furthest, lowestFor furthest crypter.windowSize < 2 ^ 32 := by
      intro furthest
      by_contra overflows
      rw [following.width] at overflows
      rw [lowestFor_overflows overflows] at room
      exact absurd room (by decide)
    obtain ⟨other, same, lowValue⟩ := getLowestAcceptableReadNonce_of_fits
      (fits crypter.furthestReadNonce)
    rw [computed, Except.ok.injEq] at same
    rw [← following.key] at authentic
    refine (decrypt_authentic_iff opens following.tracks.bounded authentic).mpr ⟨⟨?_, ?_⟩, fits value⟩
    · rwa [← lowValue, ← same]
    · intro buffered
      obtain ⟨call, member, presented⟩ :=
        following.presented value ((following.tracks.buffered value).mp buffered).1
      exact fresh call member presented

theorem empty_window_unsafe (crypto : Primitives) (readKey writeKey : Key) :
    ∃ messages, ¬ ReplaySafe crypto readKey
      (Runs.trace (receive crypto) (new readKey writeKey 0) messages)
      (Runs.after (receive crypto) (new readKey writeKey 0) messages) := by
  refine ⟨[(Nonce.encode 1, [])], fun safe => ?_⟩
  have capacity := safe.capacity
  have decoded := Nonce.getNonceValue_encode 1
  have bounded := (Tracks.initial readKey writeKey 0).bounded
  have admitted : (new readKey writeKey 0).Admits 1 := 
    ⟨by simp [lowest, lowestFor, new], by simp [new]⟩
  have step := decrypt_step crypto bounded (Nonce.encode 1) []
  simp only [Runs.after, receive] at capacity
  generalize (new readKey writeKey 0).decrypt crypto (Nonce.encode 1) [] = result at step capacity
  cases step with
  | recorded value same admitted fits =>
    have kept : value ∈ ((new readKey writeKey 0).recordNonce value).bufferedReadNonces :=
      recordNonce_mem.mpr (.inl rfl)
    have counted := Finset.card_pos.mpr ⟨value, kept⟩
    exact absurd (counted.trans_le capacity) (by simp [new])
  | refused reason windowed refused => exact refused 1 decoded admitted
  | overflowed message unbounded excess next kept =>
    exact excess 1 decoded admitted (by simp [new, lowestFor])

/-- Replay safety of the window over all call sequences: it holds exactly for
the windows that have room for a nonce. -/
theorem replaySafe_iff (opens : crypto.OpensSealed) (readKey writeKey : Key) (windowSize : UInt32) :
    (∀ messages, ReplaySafe crypto readKey
      (Runs.trace (receive crypto) (new readKey writeKey windowSize) messages)
      (Runs.after (receive crypto) (new readKey writeKey windowSize) messages)) ↔
      1 ≤ windowSize := by
  constructor
  · intro safe
    by_contra empty
    have zero : windowSize = 0 := by
      rw [UInt32.le_iff_toNat_le, UInt32.toNat_one] at empty
      exact UInt32.toNat_inj.mp (by rw [UInt32.toNat_zero]; omega)
    subst zero
    obtain ⟨messages, broken⟩ := empty_window_unsafe crypto readKey writeKey
    exact broken (safe messages)
  · intro room messages
    obtain ⟨recorded, following⟩ := following_after room readKey writeKey messages
    exact following.replaySafe opens room

theorem window_of_three_replaySafe :
    let start := new (Block.zero 32) (Block.zero 32) 3
    let messages := [(Nonce.encode 7, []), (Nonce.encode 5, []), (Nonce.encode 4, [])]
    ReplaySafe Primitives.transparent (Block.zero 32)
      (Runs.trace (receive Primitives.transparent) start messages)
      (Runs.after (receive Primitives.transparent) start messages) :=
  (replaySafe_iff Transparent.opensSealed _ _ 3).mpr (by decide) _

/-- One authentic message leaves an entry in the buffer of an empty window, and
the largest nonce makes its lower end overflow. -/
theorem empty_window_overfull :
    let start := new (Block.zero 32) (Block.zero 32) 0
    let authentic := Primitives.transparent.encryptInPlace (Block.zero 32) (Nonce.encode 1) []
      (padPlaintext [42])
    let received := receive Primitives.transparent start (Nonce.encode 1, authentic)
    received.1 = .ok [42] ∧ received.2.bufferedReadNonces = {1} ∧
      ¬ received.2.bufferedReadNonces.card ≤ received.2.windowSize.toNat ∧
      received.2.getLowestAcceptableReadNonce = .ok 2 ∧
      (receive Primitives.transparent start (Nonce.encode 0xFFFFFFFF, [])).1 =
        .panic "attempt to add with overflow" := by
  decide +kernel

/-- What every call preserves, whatever the window size. -/
structure Sound (readKey : Key) (windowSize : UInt32) (crypter : UnorderedCrypter) : Prop where
  key : crypter.readKey = readKey
  width : crypter.windowSize = windowSize
  bounded : crypter.Bounded

theorem bounded_recordNonce (bounded : crypter.Bounded) (recorded : UInt32) :
    (crypter.recordNonce recorded).Bounded := by
  intro value buffered
  rw [UInt32.le_iff_toNat_le, recordNonce_furthest]
  rcases recordNonce_mem.mp buffered with rfl | ⟨earlier, _⟩
  · exact le_max_right _ _
  · exact (UInt32.le_iff_toNat_le.mp (bounded value earlier)).trans (le_max_left _ _)

theorem Sound.receive {readKey : Key} (sound : Sound readKey windowSize crypter)
    (message : NonceBytes × Bytes) :
    Sound readKey windowSize (crypter.receive crypto message).2 := by
  have step := decrypt_step crypto sound.bounded message.1 message.2
  rw [UnorderedCrypter.receive]
  generalize crypter.decrypt crypto message.1 message.2 = result at step
  cases step with
  | recorded value decoded admitted fits =>
    exact ⟨by rw [recordNonce_readKey, sound.key], by rw [recordNonce_windowSize, sound.width],
      bounded_recordNonce sound.bounded value⟩
  | refused reason windowed refused => exact sound
  | overflowed message unbounded excess next kept =>
    refine ⟨kept.readKey.trans sound.key, kept.windowSize.trans sound.width, fun value buffered => ?_⟩
    rw [kept.buffered] at buffered
    exact (UInt32.le_iff_toNat_le.mp (sound.bounded value buffered)).trans kept.furthest

theorem sound_after (readKey writeKey : Key) (windowSize : UInt32)
    (messages : List (NonceBytes × Bytes)) : Sound readKey windowSize
      (Runs.after (UnorderedCrypter.receive crypto) (new readKey writeKey windowSize) messages) :=
  Runs.state_invariant (Sound readKey windowSize)
    (fun _ message sound => sound.receive message)
    ⟨rfl, rfl, (Tracks.initial readKey writeKey windowSize).bounded⟩ messages

theorem decrypt_forged (bounded : crypter.Bounded) {nonce : NonceBytes} {forged : Bytes}
    (decoded : Nonce.getNonceValue nonce = .ok value)
    (failed : (crypter.decrypt crypto nonce forged).1 = .err .decryptFailed) :
    (crypter.decrypt crypto nonce forged).2 = crypter.recordNonce value := by
  have step := decrypt_step crypto bounded nonce forged
  generalize crypter.decrypt crypto nonce forged = result at step failed
  cases step with
  | recorded other same admitted fits =>
    rw [decoded, Except.ok.injEq] at same
    rw [same]
  | refused reason windowed refused => simp [Outcome.err, windowed] at failed
  | overflowed message unbounded excess next kept => simp [Outcome.panic, Outcome.err] at failed

/-- A forged message moves the window as an authentic one would.  An authentic
message that was acceptable before stays acceptable exactly when its nonce is
another one and less than the window size behind the forged one. -/
theorem accepted_after_forgery_iff (opens : crypto.OpensSealed) (readKey writeKey : Key)
    (windowSize : UInt32) (messages : List (NonceBytes × Bytes)) (forgedNonce : NonceBytes)
    (forgedValue : UInt32) (forged : Bytes) (value : UInt32) (plaintext ciphertext : Bytes)
    (authentic : aesGcm256Encrypt crypto readKey (Nonce.encode value) plaintext = .ok ciphertext)
    (decoded : Nonce.getNonceValue forgedNonce = .ok forgedValue) :
    let crypter := Runs.after (receive crypto) (new readKey writeKey windowSize) messages
    let afterForgery := (crypter.decrypt crypto forgedNonce forged).2
    (crypter.decrypt crypto forgedNonce forged).1 = .err .decryptFailed →
    (crypter.decrypt crypto (Nonce.encode value) ciphertext).1 = .ok plaintext →
    ((afterForgery.decrypt crypto (Nonce.encode value) ciphertext).1 = .ok plaintext ↔
      value ≠ forgedValue ∧ forgedValue.toNat < value.toNat + windowSize.toNat) := by
  intro crypter afterForgery failed accepted
  have sound : Sound readKey windowSize crypter := sound_after readKey writeKey windowSize messages
  have recorded : afterForgery = crypter.recordNonce forgedValue :=
    decrypt_forged sound.bounded decoded failed
  rw [← sound.key] at authentic
  obtain ⟨⟨reached, fresh⟩, fits⟩ :=
    (decrypt_authentic_iff opens sound.bounded authentic).mp accepted
  have authenticAfter := authentic
  rw [← recordNonce_readKey crypter forgedValue] at authenticAfter
  rw [recorded, decrypt_authentic_iff opens (bounded_recordNonce sound.bounded forgedValue)
    authenticAfter, Admits, recordNonce_lowest, recordNonce_mem, recordNonce_windowSize, ← sound.width]
  have ahead : forgedValue.toNat < value.toNat + crypter.windowSize.toNat ↔
      lowestFor forgedValue crypter.windowSize ≤ value.toNat := by
    simp only [lowest, lowestFor] at reached ⊢
    split at reached <;> split <;> omega
  simp only [ahead, max_le_iff, reached, fresh, fits, true_and, false_and, or_false, and_true]
  exact and_comm

theorem window_of_four_after_forgery :
    let start := new (Block.zero 32) (Block.zero 32) 4
    let authentic := Primitives.transparent.encryptInPlace (Block.zero 32) (Nonce.encode 3) []
      (padPlaintext [42])
    let afterForgery := (start.decrypt Primitives.transparent (Nonce.encode 6) []).2
    (afterForgery.decrypt Primitives.transparent (Nonce.encode 3) authentic).1 = .ok [42] :=
  (accepted_after_forgery_iff Transparent.opensSealed (Block.zero 32) (Block.zero 32) 4 []
    (Nonce.encode 6) 6 [] 3 [42] _ (by decide +kernel) (by decide +kernel)
    (by decide +kernel) (by decide +kernel)).mpr (by decide)

/-- A forged message with nonce 1 makes the authentic one a replay, and one with
nonce 1000 puts it behind the window. -/
theorem forgery_blocks_authentic :
    let start := new (Block.zero 32) (Block.zero 32) 4
    let authentic := Primitives.transparent.encryptInPlace (Block.zero 32) (Nonce.encode 1) []
      (padPlaintext [42])
    let decrypted (crypter : UnorderedCrypter) :=
      (crypter.decrypt Primitives.transparent (Nonce.encode 1) authentic).1
    let forge (value : UInt32) := start.decrypt Primitives.transparent (Nonce.encode value) []
    decrypted start = .ok [42] ∧
      (forge 1).1 = .err .decryptFailed ∧ decrypted (forge 1).2 = .err .replayedNonce ∧
      (forge 1000).1 = .err .decryptFailed ∧ decrypted (forge 1000).2 = .err .invalidNonce := by
  decide +kernel

end UnorderedCrypter

end Oak.Crypto
