import Mathlib.Data.List.Pairwise
import Oak.Crypto.Transparent
import Oak.Data.Runs

namespace Oak.Crypto.OrderedCrypter

open Oak.Data

/-! The counters of the ordered crypter over whole histories of calls. -/

variable {crypto : Primitives}

variable {crypter : OrderedCrypter}

theorem encrypt_of_le (crypto : Primitives) (counting : crypter.writeNonce.nonce ≤ maxSequence)
    (plaintext : Bytes) :
    crypter.encrypt crypto plaintext =
      (aesGcm256Encrypt crypto crypter.writeKey (Nonce.encode crypter.writeNonce.nonce) plaintext,
        { crypter with writeNonce := ⟨crypter.writeNonce.nonce + 1⟩ }) := by
  rw [encrypt, Nonce.nextNonce, if_neg (UInt32.not_lt.mpr counting)]

theorem encrypt_exhausted (crypto : Primitives)
    (exhausted : maxSequence < crypter.writeNonce.nonce) (plaintext : Bytes) :
    crypter.encrypt crypto plaintext = (.error .decryptFailed, crypter) := by
  rw [encrypt, Nonce.nextNonce, if_pos exhausted]

theorem decrypt_of_le (crypto : Primitives) (counting : crypter.readNonce.nonce ≤ maxSequence)
    (ciphertext : Bytes) :
    crypter.decrypt crypto ciphertext =
      (aesGcm256Decrypt crypto crypter.readKey (Nonce.encode crypter.readNonce.nonce) ciphertext,
        { crypter with readNonce := ⟨crypter.readNonce.nonce + 1⟩ }) := by
  rw [decrypt, Nonce.nextNonce, if_neg (UInt32.not_lt.mpr counting)]

theorem decrypt_exhausted (crypto : Primitives)
    (exhausted : maxSequence < crypter.readNonce.nonce) (ciphertext : Bytes) :
    crypter.decrypt crypto ciphertext = (.error .decryptFailed, crypter) := by
  rw [decrypt, Nonce.nextNonce, if_pos exhausted]

theorem succ_toNat {counter : UInt32} (counting : counter ≤ maxSequence) :
    (counter + 1).toNat = counter.toNat + 1 := by
  have bound : counter.toNat ≤ 16777216 := UInt32.le_iff_toNat_le.mp counting
  rw [UInt32.toNat_add, UInt32.toNat_one]
  omega

def noncesUsed (crypto : Primitives) (crypter : OrderedCrypter) : List Bytes → List NonceBytes
  | [] => []
  | plaintext :: rest =>
    let (result, next) := crypter.encrypt crypto plaintext
    match result, crypter.writeNonce.nextNonce.1 with
    | .ok _, .ok nonce => nonce :: noncesUsed crypto next rest
    | _, _ => noncesUsed crypto next rest

theorem noncesUsed_later {plaintexts : List Bytes} {nonce : NonceBytes}
    (used : nonce ∈ noncesUsed crypto crypter plaintexts) :
    ∃ value, crypter.writeNonce.nonce.toNat ≤ value.toNat ∧ nonce = Nonce.encode value := by
  induction plaintexts generalizing crypter with
  | nil => simp [noncesUsed] at used
  | cons plaintext rest ih =>
    by_cases counting : crypter.writeNonce.nonce ≤ maxSequence
    · have next := succ_toNat counting
      simp only [noncesUsed, encrypt_of_le crypto counting, Nonce.nextNonce,
        if_neg (UInt32.not_lt.mpr counting)] at used
      split at used
      · rename_i encrypted sealedUnder
        rcases List.mem_cons.mp used with rfl | later
        · exact ⟨_, le_rfl, (Except.ok.inj sealedUnder).symm⟩
        · obtain ⟨value, reached, same⟩ := ih later
          exact ⟨value, by simp only at reached; omega, same⟩
      · obtain ⟨value, reached, same⟩ := ih used
        exact ⟨value, by simp only at reached; omega, same⟩
    · simp only [noncesUsed, encrypt_exhausted crypto (UInt32.not_le.mp counting)] at used
      exact ih used

theorem noncesUsed_nodup (crypter : OrderedCrypter) (plaintexts : List Bytes) :
    (noncesUsed crypto crypter plaintexts).Nodup := by
  induction plaintexts generalizing crypter with
  | nil => simp [noncesUsed]
  | cons plaintext rest ih =>
    by_cases counting : crypter.writeNonce.nonce ≤ maxSequence
    · have next := succ_toNat counting
      simp only [noncesUsed, encrypt_of_le crypto counting, Nonce.nextNonce,
        if_neg (UInt32.not_lt.mpr counting)]
      split
      · rename_i encrypted sealedUnder
        refine List.nodup_cons.mpr ⟨fun reused => ?_, ih _⟩
        obtain ⟨value, reached, same⟩ := noncesUsed_later reused
        rw [← Except.ok.inj sealedUnder] at same
        rw [Nonce.encode_injective same] at next
        simp only [Nonce.encode_injective same] at reached
        omega
      · exact ih _
    · simp only [noncesUsed, encrypt_exhausted crypto (UInt32.not_le.mp counting)]
      exact ih _

theorem writeNonce_after (inRange : crypter.writeNonce.nonce.toNat ≤ maxSequence.toNat + 1)
    (plaintexts : List Bytes) :
    (Runs.after (encrypt crypto) crypter plaintexts).writeNonce.nonce.toNat =
      min (crypter.writeNonce.nonce.toNat + plaintexts.length) (maxSequence.toNat + 1) := by
  induction plaintexts generalizing crypter with
  | nil => exact (min_eq_left inRange).symm
  | cons plaintext rest ih =>
    by_cases counting : crypter.writeNonce.nonce ≤ maxSequence
    · have next := succ_toNat counting
      rw [UInt32.le_iff_toNat_le] at counting
      rw [Runs.after, encrypt_of_le crypto (UInt32.le_iff_toNat_le.mpr counting), ih]
      · simp only [List.length_cons]
        omega
      · simp only
        omega
    · rw [UInt32.not_le] at counting
      rw [Runs.after, encrypt_exhausted crypto counting, ih inRange]
      rw [UInt32.lt_iff_toNat_lt] at counting
      omega

def produced (crypto : Primitives) (crypter : OrderedCrypter) (plaintexts : List Bytes) :
    List (Bytes × Bytes) :=
  (Runs.trace (encrypt crypto) crypter plaintexts).filterMap fun call =>
    match call.2 with
    | .ok ciphertext => some (call.1, ciphertext)
    | .error _ => none

/-- The peer decrypts every ciphertext, delivered in order, to its plaintext. -/
def InLockStep (crypto : Primitives) (crypter peer : OrderedCrypter) (plaintexts : List Bytes) :
    Prop :=
  (Runs.trace (decrypt crypto) peer ((produced crypto crypter plaintexts).map Prod.snd)).map
    Prod.snd = (produced crypto crypter plaintexts).map fun sent => .ok sent.1

def Oversize (plaintext : Bytes) : Prop := maxPlaintext < plaintext.length

variable {plaintext : Bytes}

theorem aesGcm256Encrypt_oversize (oversize : Oversize plaintext) (key : Key) (nonce : NonceBytes) :
    aesGcm256Encrypt crypto key nonce plaintext = .error (.dataTooLarge plaintext.length) :=
  if_pos oversize

theorem aesGcm256Encrypt_fitting (fitting : ¬ Oversize plaintext) (key : Key) (nonce : NonceBytes) :
    aesGcm256Encrypt crypto key nonce plaintext =
      .ok (crypto.encryptInPlace key nonce [] (padPlaintext plaintext)) :=
  if_neg fitting

theorem produced_oversize (counting : crypter.writeNonce.nonce ≤ maxSequence)
    (oversize : Oversize plaintext) (rest : List Bytes) :
    produced crypto crypter (plaintext :: rest) =
      produced crypto { crypter with writeNonce := ⟨crypter.writeNonce.nonce + 1⟩ } rest := by
  simp [produced, Runs.trace, encrypt_of_le crypto counting, aesGcm256Encrypt_oversize oversize]

theorem produced_fitting (counting : crypter.writeNonce.nonce ≤ maxSequence)
    (fitting : ¬ Oversize plaintext) (rest : List Bytes) :
    produced crypto crypter (plaintext :: rest) =
      (plaintext, crypto.encryptInPlace crypter.writeKey (Nonce.encode crypter.writeNonce.nonce) []
        (padPlaintext plaintext)) ::
      produced crypto { crypter with writeNonce := ⟨crypter.writeNonce.nonce + 1⟩ } rest := by
  simp [produced, Runs.trace, encrypt_of_le crypto counting, aesGcm256Encrypt_fitting fitting]

theorem produced_exhausted (exhausted : maxSequence < crypter.writeNonce.nonce)
    (plaintext : Bytes) (rest : List Bytes) :
    produced crypto crypter (plaintext :: rest) = produced crypto crypter rest := by
  simp [produced, Runs.trace, encrypt_exhausted crypto exhausted]

def counted (crypter : OrderedCrypter) (plaintexts : List Bytes) : List Bytes :=
  plaintexts.take (maxSequence.toNat + 1 - crypter.writeNonce.nonce.toNat)

theorem counted_cons (counting : crypter.writeNonce.nonce ≤ maxSequence) (plaintext : Bytes)
    (rest : List Bytes) :
    counted crypter (plaintext :: rest) =
      plaintext :: counted { crypter with writeNonce := ⟨crypter.writeNonce.nonce + 1⟩ } rest := by
  have next := succ_toNat counting
  rw [UInt32.le_iff_toNat_le] at counting
  have left : maxSequence.toNat + 1 - crypter.writeNonce.nonce.toNat =
      maxSequence.toNat + 1 - (crypter.writeNonce.nonce + 1).toNat + 1 := by omega
  rw [counted, left, List.take_succ_cons, counted]

theorem counted_exhausted (exhausted : maxSequence < crypter.writeNonce.nonce)
    (plaintexts : List Bytes) : counted crypter plaintexts = [] := by
  rw [UInt32.lt_iff_toNat_lt] at exhausted
  have none : maxSequence.toNat + 1 - crypter.writeNonce.nonce.toNat = 0 := by omega
  rw [counted, none, List.take_zero]

theorem inLockStep_behind (bound : crypto.NonceBound) {peer : OrderedCrypter}
    (crossed : peer.readKey = crypter.writeKey)
    (behind : peer.readNonce.nonce < crypter.writeNonce.nonce) (plaintexts : List Bytes) :
    InLockStep crypto crypter peer plaintexts ↔
      ∀ plaintext ∈ counted crypter plaintexts, Oversize plaintext := by
  induction plaintexts generalizing crypter with
  | nil => simp [InLockStep, produced, Runs.trace, counted]
  | cons plaintext rest ih =>
    by_cases counting : crypter.writeNonce.nonce ≤ maxSequence
    · have later : peer.readNonce.nonce < crypter.writeNonce.nonce + 1 := by
        rw [UInt32.lt_iff_toNat_lt] at behind ⊢
        rw [succ_toNat counting]
        omega
      rw [counted_cons counting, List.forall_mem_cons]
      by_cases oversize : Oversize plaintext
      · simp only [InLockStep, produced_oversize counting oversize, oversize, true_and]
        exact ih crossed later
      · have reading := UInt32.le_trans (UInt32.le_of_lt behind) counting
        simp only [oversize, false_and, iff_false]
        intro inStep
        simp only [InLockStep, produced_fitting counting oversize, List.map_cons, Runs.trace,
          List.cons.injEq, decrypt_of_le crypto reading, crossed, aesGcm256Decrypt] at inStep
        have opened := inStep.1
        split at opened
        · contradiction
        · rename_i padded unsealed
          have same := Nonce.encode_injective (bound _ _ _ _ _ _ unsealed)
          rw [same] at behind
          exact UInt32.lt_irrefl _ behind
    · rw [UInt32.not_le] at counting
      have same := ih crossed behind
      rw [counted_exhausted counting] at same ⊢
      simpa only [InLockStep, produced_exhausted counting] using same

/-- From equal counters the peer follows exactly when no oversized plaintext is
followed by one that fits. -/
theorem inLockStep_even (opens : crypto.OpensSealed) (bound : crypto.NonceBound)
    {peer : OrderedCrypter} (crossed : peer.readKey = crypter.writeKey)
    (even : peer.readNonce.nonce = crypter.writeNonce.nonce) (plaintexts : List Bytes) :
    InLockStep crypto crypter peer plaintexts ↔
      (counted crypter plaintexts).Pairwise fun earlier later =>
        Oversize earlier → Oversize later := by
  induction plaintexts generalizing crypter peer with
  | nil => simp [InLockStep, produced, Runs.trace, counted]
  | cons plaintext rest ih =>
    by_cases counting : crypter.writeNonce.nonce ≤ maxSequence
    · rw [counted_cons counting, List.pairwise_cons]
      by_cases oversize : Oversize plaintext
      · have behind : peer.readNonce.nonce < crypter.writeNonce.nonce + 1 := by
          rw [UInt32.lt_iff_toNat_lt, succ_toNat counting, even]
          omega
        let ahead := { crypter with writeNonce := ⟨crypter.writeNonce.nonce + 1⟩ }
        have sameKey : peer.readKey = ahead.writeKey := crossed
        have stuck := inLockStep_behind bound sameKey behind rest
        simp only [InLockStep, produced_oversize counting oversize, oversize, true_imp_iff]
        refine stuck.trans ⟨fun all => ⟨all, ?_⟩, And.left⟩
        exact List.pairwise_of_forall_mem_list fun _ _ later member _ => all later member
      · simp only [InLockStep, produced_fitting counting oversize, List.map_cons, Runs.trace,
          decrypt_of_le crypto (even ▸ counting), crossed, even, aesGcm256Decrypt, opens _ _,
          unpadPlaintext_padPlaintext, List.cons.injEq, true_and, oversize, false_imp_iff,
          implies_true]
        let next := { crypter with writeNonce := ⟨crypter.writeNonce.nonce + 1⟩ }
        let nextPeer := { peer with readNonce := ⟨crypter.writeNonce.nonce + 1⟩ }
        have followed : InLockStep crypto next nextPeer rest ↔ _ := ih crossed rfl
        rw [InLockStep] at followed
        simpa only [nextPeer, crossed] using followed
    · rw [UInt32.not_le] at counting
      have same := ih crossed even
      rw [counted_exhausted counting] at same ⊢
      simpa only [InLockStep, produced_exhausted counting] using same

/-- Histories of `encrypt` calls.  No nonce is used twice, and the counter stops
with an error.  The peer stays in lock step exactly when no call with an
oversized plaintext, which consumes a nonce and fails, comes before one with a
plaintext that fits. -/
theorem encrypt_history (opens : crypto.OpensSealed) (bound : crypto.NonceBound)
    (readKey writeKey : Key) (plaintexts : List Bytes) :
    let crypter := new readKey writeKey
    let peer := new writeKey readKey
    let last := Runs.after (encrypt crypto) crypter plaintexts
    (noncesUsed crypto crypter plaintexts).Nodup ∧
      (maxSequence.toNat < plaintexts.length →
        ∀ plaintext, last.encrypt crypto plaintext = (.error .decryptFailed, last)) ∧
      (InLockStep crypto crypter peer plaintexts ↔
        (plaintexts.take (maxSequence.toNat + 1)).Pairwise fun earlier later =>
          Oversize earlier → Oversize later) := by
  refine ⟨noncesUsed_nodup _ _, fun many plaintext => ?_, inLockStep_even opens bound rfl rfl _⟩
  apply encrypt_exhausted
  rw [UInt32.lt_iff_toNat_lt, writeNonce_after (Nat.zero_le _)]
  omega

theorem two_messages_in_lock_step :
    InLockStep Primitives.transparent (new (Block.zero 32) (Block.zero 32))
      (new (Block.zero 32) (Block.zero 32)) [[1], [2, 3]] :=
  (encrypt_history Transparent.opensSealed Transparent.nonceBound _ _ _).2.2.mpr
    (by simp [Oversize, maxSequence, maxPlaintext])

/-- A plaintext one byte over the limit is refused, and the message after it no
longer decrypts. -/
theorem oversize_desynchronises :
    ∃ oversize ciphertext : Bytes,
      let crypter := new (Block.zero 32) (Block.zero 32)
      let refused := crypter.encrypt Primitives.transparent oversize
      oversize.length = 2 ^ 28 + 1 ∧ refused.1 = .error (.dataTooLarge (2 ^ 28 + 1)) ∧
        (refused.2.encrypt Primitives.transparent [42]).1 = .ok ciphertext ∧
        (crypter.decrypt Primitives.transparent ciphertext).1 = .error .decryptFailed := by
  obtain ⟨oversize, size⟩ : ∃ oversize : Bytes, oversize.length = 2 ^ 28 + 1 :=
    ⟨List.replicate (2 ^ 28 + 1) 0, List.length_replicate⟩
  refine ⟨oversize, Primitives.transparent.encryptInPlace (Block.zero 32) (Nonce.encode 1) []
    (padPlaintext [42]), size, ?_, ?_, by decide +kernel⟩
  · rw [encrypt_of_le _ (by decide), aesGcm256Encrypt_oversize, size]
    rw [Oversize, size]
    decide
  · rw [encrypt_of_le _ (by decide) oversize]
    dsimp only
    decide +kernel

end Oak.Crypto.OrderedCrypter
