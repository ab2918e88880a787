import Mathlib.Data.List.Range
import Oak.Crypto.OrderedStream
import Oak.Session.Session

namespace Oak.Session.ApplicationData

open Oak.Data Oak.Crypto

/-! One direction of the application data is a pipe: the sender's queue, the
messages in flight and the receiver's queue.  `Carries` says what is in the
pipe in terms of the plaintexts written and read. -/

variable {crypto : Primitives}

structure Sender where
  key : Key
  counter : UInt32
  outgoing : List SessionMessage

structure Receiver where
  key : Key
  counter : UInt32
  incoming : List SessionMessage

def sealedMessage (crypto : Primitives) (key : Key) (written : List Bytes) (index : Nat) :
    SessionMessage :=
  ⟨some (.encrypted {
    ciphertext := crypto.encryptInPlace key (Nonce.encode (UInt32.ofNat index)) []
      (padPlaintext (written.getD index []))
    associatedData := none
    nonce := none })⟩

/-- The receiver has read what it found so far, or it has met a gap and fails
on everything that follows. -/
inductive Progress (receiver : Receiver) (written readBack : List Bytes) (indices : List Nat) :
    Prop where
  | following (counter : receiver.counter.toNat = readBack.length)
      (ahead : ∀ index ∈ indices, readBack.length ≤ index)
  | failing (counter : receiver.counter.toNat < written.length)
      (ahead : ∀ index ∈ indices, receiver.counter.toNat < index)

/-- The state of one direction.  `indices` are the positions, among the
plaintexts written, of the messages in the pipe. -/
structure Carries (crypto : Primitives) (sender : Sender) (inFlight : List SessionMessage)
    (receiver : Receiver) (written readBack : List Bytes) (indices : List Nat) : Prop where
  sameKey : receiver.key = sender.key
  counter : sender.counter.toNat = written.length
  limit : written.length ≤ maxSequence.toNat + 1
  increasing : indices.Pairwise (· < ·)
  bounded : ∀ index ∈ indices, index < written.length
  inPipe : receiver.incoming ++ inFlight ++ sender.outgoing =
    indices.map (sealedMessage crypto sender.key written)
  inOrder : readBack <+: written
  progress : Progress receiver written readBack indices
  outgoingLimit : sender.outgoing.length ≤ defaultMaxMessageQueueLen
  incomingLimit : receiver.incoming.length ≤ defaultMaxMessageQueueLen

/-- Nothing has been lost: the receiver is at the first plaintext not read, and
all of those are in the pipe. -/
structure Lossless (receiver : Receiver) (written readBack : List Bytes) (indices : List Nat) :
    Prop where
  counter : receiver.counter.toNat = readBack.length
  complete : indices = List.range' readBack.length (written.length - readBack.length)

theorem sealedMessage_append (key : Key) {written : List Bytes} {index : Nat}
    (bound : index < written.length) (plaintext : Bytes) :
    sealedMessage crypto key (written ++ [plaintext]) index =
      sealedMessage crypto key written index := by
  have same : (written ++ [plaintext]).getD index [] = written.getD index [] := by
    simp [List.getElem?_append_left bound]
  rw [sealedMessage, same, sealedMessage]

namespace Carries

variable {sender : Sender} {inFlight : List SessionMessage} {receiver : Receiver}
  {written readBack : List Bytes} {indices : List Nat}

section

variable (carries : Carries crypto sender inFlight receiver written readBack indices)

include carries

theorem readBack_length_le : readBack.length ≤ written.length :=
  carries.inOrder.length_le

theorem write
    (room : sender.outgoing.length < defaultMaxMessageQueueLen)
    (counting : sender.counter ≤ maxSequence) (plaintext : Bytes) :
    Carries crypto
      { sender with
        counter := sender.counter + 1
        outgoing := sender.outgoing ++
          [sealedMessage crypto sender.key (written ++ [plaintext]) written.length] }
      inFlight receiver (written ++ [plaintext]) readBack (indices ++ [written.length]) := by
  have next := OrderedCrypter.succ_toNat counting
  have below : written.length ≤ maxSequence.toNat := by
    rw [← carries.counter]
    exact UInt32.le_iff_toNat_le.mp counting
  constructor
  · exact carries.sameKey
  · simp [next, carries.counter]
  · simpa using below
  · apply List.pairwise_append.mpr
    refine ⟨carries.increasing, List.pairwise_singleton _ _, ?_⟩
    intro index member last same
    rw [List.mem_singleton.mp same]
    exact carries.bounded index member
  · rw [List.length_append, List.forall_mem_append, List.forall_mem_singleton]
    exact ⟨fun index member => Nat.lt_succ_of_lt (carries.bounded index member),
      Nat.lt_succ_self _⟩
  · have kept : indices.map (sealedMessage crypto sender.key (written ++ [plaintext])) =
        indices.map (sealedMessage crypto sender.key written) := by
      apply List.map_congr_left
      intro index member
      exact sealedMessage_append sender.key (carries.bounded index member) plaintext
    rw [List.map_append, kept, ← carries.inPipe]
    simp
  · exact carries.inOrder.trans (List.prefix_append _ _)
  · cases carries.progress with
    | following counter ahead =>
      apply Progress.following counter
      rw [List.forall_mem_append, List.forall_mem_singleton]
      exact ⟨ahead, carries.readBack_length_le⟩
    | failing counter ahead =>
      apply Progress.failing
      · rw [List.length_append]
        exact Nat.lt_succ_of_lt counter
      · rw [List.forall_mem_append, List.forall_mem_singleton]
        exact ⟨ahead, counter⟩
  · rw [List.length_append]
    exact room
  · exact carries.incomingLimit

theorem move {outgoing flying incoming : List SessionMessage}
    (same : incoming ++ flying ++ outgoing = receiver.incoming ++ inFlight ++ sender.outgoing)
    (outgoingLimit : outgoing.length ≤ defaultMaxMessageQueueLen)
    (incomingLimit : incoming.length ≤ defaultMaxMessageQueueLen) :
    Carries crypto { sender with outgoing } flying { receiver with incoming } written readBack
      indices := by
  refine { carries with
    inPipe := same.trans carries.inPipe, progress := ?_, outgoingLimit, incomingLimit }
  cases carries.progress with
  | following counter ahead => exact .following counter ahead
  | failing counter ahead => exact .failing counter ahead

end

variable {message : SessionMessage}

theorem drop {flying : List SessionMessage}
    (carries : Carries crypto sender (message :: flying) receiver written readBack indices) :
    ∃ remaining, Carries crypto sender flying receiver written readBack remaining := by
  have inPipe := carries.inPipe
  rw [List.append_assoc, List.cons_append, eq_comm, List.map_eq_append_iff] at inPipe
  obtain ⟨before, after, rfl, received, rest⟩ := inPipe
  obtain ⟨index, later, rfl, dropped, following⟩ := List.map_eq_cons_iff.mp rest
  have fewer : (before ++ later).Sublist (before ++ index :: later) :=
    (List.sublist_cons_self index later).append_left before
  refine ⟨before ++ later, { carries with
    increasing := carries.increasing.sublist fewer
    bounded := fun other member => carries.bounded other (fewer.subset member)
    inPipe := by rw [List.map_append, received, following, List.append_assoc]
    progress := ?_ }⟩
  cases carries.progress with
  | following counter ahead =>
    exact .following counter fun other member => ahead other (fewer.subset member)
  | failing counter ahead =>
    exact .failing counter fun other member => ahead other (fewer.subset member)

variable {rest : List SessionMessage}

theorem head (carries : Carries crypto sender inFlight receiver written readBack indices)
    (arrived : receiver.incoming = message :: rest) :
    ∃ index remaining, indices = index :: remaining ∧
      message = sealedMessage crypto sender.key written index ∧
      receiver.counter.toNat ≤ index ∧ index < written.length := by
  have inPipe := carries.inPipe
  rw [arrived, eq_comm] at inPipe
  obtain ⟨index, remaining, rfl, same, _⟩ := List.map_eq_cons_iff.mp inPipe
  refine ⟨index, remaining, rfl, same.symm, ?_, carries.bounded index List.mem_cons_self⟩
  cases carries.progress with
  | following counter ahead => exact counter ▸ ahead index List.mem_cons_self
  | failing counter ahead => exact (ahead index List.mem_cons_self).le

variable {index : Nat} {others : List Nat}

section

variable (carries : Carries crypto sender inFlight receiver written readBack (index :: others))
    (arrived : receiver.incoming = message :: rest)

include carries arrived

/-- What a read does to the pipe: the message is removed and the receiver's
counter moves on, whether or not the message decrypts. -/
theorem read {newlyRead : List Bytes} (inOrder : newlyRead <+: written)
    (progress : Progress { receiver with counter := receiver.counter + 1, incoming := rest }
      written newlyRead others) :
    Carries crypto sender inFlight
      { receiver with counter := receiver.counter + 1, incoming := rest } written newlyRead
      others := by
  refine { carries with
    increasing := (List.pairwise_cons.mp carries.increasing).2
    bounded := fun other member => carries.bounded other (List.mem_cons_of_mem _ member)
    inPipe := ?_, inOrder, progress, incomingLimit := ?_ }
  · have inPipe := carries.inPipe
    rw [arrived, List.append_assoc] at inPipe
    rw [List.append_assoc]
    exact (List.cons.inj inPipe).2
  · have limit := carries.incomingLimit
    rw [arrived] at limit
    exact Nat.le_of_succ_le limit

theorem read_expected (expected : receiver.counter.toNat = index)
    (counting : receiver.counter ≤ maxSequence) :
    Carries crypto sender inFlight
      { receiver with counter := receiver.counter + 1, incoming := rest } written
      (readBack ++ [written.getD index []]) others := by
  have next := OrderedCrypter.succ_toNat counting
  have bound := carries.bounded index List.mem_cons_self
  have later := (List.pairwise_cons.mp carries.increasing).1
  cases carries.progress with
  | failing counter ahead =>
    have passed := ahead index List.mem_cons_self
    omega
  | following counter ahead =>
    have here : readBack.length = index := counter.symm.trans expected
    have readSoFar : readBack = written.take index := by
      rw [← here]
      exact List.prefix_iff_eq_take.mp carries.inOrder
    have extended : readBack ++ [written.getD index []] = written.take (index + 1) := by
      rw [readSoFar]
      simp [bound]
    refine carries.read arrived ?_ (.following ?_ ?_)
    · rw [extended]
      exact List.take_prefix _ _
    · rw [next, List.length_append, List.length_singleton, counter]
    · intro other member
      rw [List.length_append, here]
      exact later other member

theorem read_unexpected (early : receiver.counter.toNat < index)
    (counting : receiver.counter ≤ maxSequence) :
    Carries crypto sender inFlight
      { receiver with counter := receiver.counter + 1, incoming := rest } written readBack
      others := by
  have next := OrderedCrypter.succ_toNat counting
  have bound := carries.bounded index List.mem_cons_self
  have later := (List.pairwise_cons.mp carries.increasing).1
  refine carries.read arrived carries.inOrder (.failing ?_ ?_)
  · rw [next]
    omega
  · intro other member
    have greater := later other member
    rw [next]
    omega

end

end Carries

theorem Carries.start (key : Key) : Carries crypto ⟨key, 0, []⟩ [] ⟨key, 0, []⟩ [] [] [] where
  sameKey := rfl
  counter := rfl
  limit := Nat.zero_le _
  increasing := List.Pairwise.nil
  bounded := by simp
  inPipe := rfl
  inOrder := List.prefix_rfl
  progress := .following rfl (by simp)
  outgoingLimit := Nat.zero_le _
  incomingLimit := Nat.zero_le _

namespace Lossless

variable {receiver : Receiver} {written readBack : List Bytes} {indices : List Nat}

theorem write (lossless : Lossless receiver written readBack indices)
    (shorter : readBack.length ≤ written.length) (plaintext : Bytes) :
    Lossless receiver (written ++ [plaintext]) readBack (indices ++ [written.length]) where
  counter := lossless.counter
  complete := by
    have count : (written ++ [plaintext]).length - readBack.length =
        written.length - readBack.length + 1 := by
      rw [List.length_append, List.length_singleton]
      omega
    have last : readBack.length + (written.length - readBack.length) = written.length := by
      omega
    rw [count, List.range'_1_concat, last, lossless.complete]

theorem expected {index : Nat} {others : List Nat}
    (lossless : Lossless receiver written readBack (index :: others)) :
    receiver.counter.toNat = index := by
  rw [lossless.counter]
  have complete := lossless.complete
  cases count : written.length - readBack.length with
  | zero => simp [count] at complete
  | succ rest =>
    rw [count] at complete
    exact (List.cons.inj complete).1.symm

theorem read {index : Nat} {others : List Nat}
    (lossless : Lossless receiver written readBack (index :: others))
    (counting : receiver.counter ≤ maxSequence) (rest : List SessionMessage)
    (plaintext : Bytes) :
    Lossless { receiver with counter := receiver.counter + 1, incoming := rest } written
      (readBack ++ [plaintext]) others where
  counter := by
    rw [OrderedCrypter.succ_toNat counting, lossless.counter, List.length_append,
      List.length_singleton]
  complete := by
    have complete := lossless.complete
    cases count : written.length - readBack.length with
    | zero => simp [count] at complete
    | succ rest =>
      have fewer : written.length - (readBack ++ [plaintext]).length = rest := by
        rw [List.length_append, List.length_singleton]
        omega
      rw [count] at complete
      rw [fewer, List.length_append]
      exact (List.cons.inj complete).2

end Lossless

end Oak.Session.ApplicationData
