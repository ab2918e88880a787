import Oak.Data.Bytes
import Oak.Data.Runs

namespace Oak.Kernel

open Oak.Data

/-! The descriptor through which user space reads and replaces the DICE data
(`oak_restricted_kernel/src/syscall/dice_data.rs`).

The kernel starts with the record of stage 0.  User space reads it, each byte
once, and writes the record of the next layer in its place. -/

inductive Errno where
  | eio
  | ebadf
  | enomem
  | efault
  | einval
  | enosys
deriving Repr, DecidableEq

/-- `Stage0DiceData` and `RestrictedKernelDiceData`. -/
inductive DiceLayer where
  | layer0
  | layer1
deriving Repr, DecidableEq

def DiceLayer.size : DiceLayer → Nat
  | .layer0 => 4096
  | .layer1 => 5520

structure DiceData where
  layer : DiceLayer
  bytes : Bytes
  sized : bytes.length = layer.size
deriving DecidableEq

structure ReadState where
  data : DiceData
  index : Nat
  bounded : index ≤ data.bytes.length
deriving DecidableEq

/-- A record of the next layer that is not complete. -/
structure WriteState where
  data : Bytes
  index : Nat
  sized : data.length = DiceLayer.layer1.size
  incomplete : index < data.length
deriving DecidableEq

inductive DiceDataDescriptor where
  | readable (state : ReadState)
  | writeable (state : WriteState)
deriving DecidableEq

/-- `copy_from_slice` into a part of a buffer. -/
def overwrite (buffer : Bytes) (index : Nat) (source : Bytes) : Bytes :=
  buffer.take index ++ source ++ buffer.drop (index + source.length)

theorem length_overwrite {buffer source : Bytes} {index : Nat}
    (fits : index + source.length ≤ buffer.length) :
    (overwrite buffer index source).length = buffer.length := by
  simp only [overwrite, List.length_append, List.length_take, List.length_drop]
  omega

namespace DiceDataDescriptor

def new (data : DiceData) : DiceDataDescriptor := .readable ⟨data, 0, Nat.zero_le _⟩

/-- The bytes that a read of `size` bytes copies. -/
def readBytes (state : ReadState) (size : Nat) : Bytes :=
  (state.data.bytes.drop state.index).take size

theorem length_readBytes (state : ReadState) (size : Nat) :
    state.index + (readBytes state size).length ≤ state.data.bytes.length := by
  have := state.bounded
  simp only [readBytes, List.length_take, List.length_drop]
  omega

def afterRead (state : ReadState) (size : Nat) : ReadState :=
  let length := (readBytes state size).length
  { data :=
      { layer := state.data.layer
        bytes := overwrite state.data.bytes state.index (List.replicate length 0)
        sized := by
          rw [length_overwrite (by simpa using length_readBytes state size), state.data.sized] }
    index := state.index + length
    bounded := by
      rw [length_overwrite (by simpa using length_readBytes state size)]
      exact length_readBytes state size }

/-- `read` into a buffer of `size` bytes; the result is what it put there. -/
def read (descriptor : DiceDataDescriptor) (size : Nat) :
    Except Errno Bytes × DiceDataDescriptor :=
  match descriptor with
  | .writeable _ => (.error .einval, descriptor)
  | .readable state => (.ok (readBytes state size), .readable (afterRead state size))

def blank : WriteState :=
  { data := List.replicate DiceLayer.layer1.size 0
    index := 0
    sized := List.length_replicate
    incomplete := by
      rw [List.length_replicate]
      decide }

/-- `write` to a record that is not complete.  The last byte makes it readable. -/
def writeRecord (state : WriteState) (buf : Bytes) : Except Errno Nat × DiceDataDescriptor :=
  if long : buf.length > (state.data.drop state.index).length then
    (.error .einval, .writeable state)
  else
    have fits : state.index + buf.length ≤ state.data.length := by
      have := state.incomplete
      rw [List.length_drop] at long
      omega
    let data := overwrite state.data state.index buf
    have sized : data.length = DiceLayer.layer1.size := (length_overwrite fits).trans state.sized
    if complete : state.index + buf.length = data.length then
      (.ok buf.length, .readable ⟨⟨.layer1, data, sized⟩, 0, Nat.zero_le _⟩)
    else
      (.ok buf.length, .writeable
        { data, index := state.index + buf.length, sized
          incomplete := by
            have : data.length = state.data.length := length_overwrite fits
            omega })

/-- `write`.  The record of stage 0 is destroyed before the buffer is looked at. -/
def write (descriptor : DiceDataDescriptor) (buf : Bytes) :
    Except Errno Nat × DiceDataDescriptor :=
  match descriptor with
  | .readable ⟨⟨.layer0, _, _⟩, _, _⟩ => writeRecord blank buf
  | .readable ⟨⟨.layer1, _, _⟩, _, _⟩ => (.error .einval, descriptor)
  | .writeable state => writeRecord state buf

/-- A complete record of which reads have returned the first bytes; those are zero by now. -/
def Reads (layer : DiceLayer) (record returned : Bytes) (descriptor : DiceDataDescriptor) : Prop :=
  ∃ state, descriptor = .readable state ∧ state.data.layer = layer ∧
    returned <+: record ∧ state.index = returned.length ∧
    state.data.bytes = List.replicate returned.length 0 ++ record.drop returned.length

/-- A record of the next layer of which writes have supplied the first bytes. -/
def Collects (written : Bytes) (descriptor : DiceDataDescriptor) : Prop :=
  ∃ state, descriptor = .writeable state ∧ state.index = written.length ∧
    state.data = written ++ List.replicate (DiceLayer.layer1.size - written.length) 0

def Replaced (written returned : Bytes) (descriptor : DiceDataDescriptor) : Prop :=
  (written.length < DiceLayer.layer1.size ∧ returned = [] ∧ Collects written descriptor) ∨
    (written.length = DiceLayer.layer1.size ∧ Reads .layer1 written returned descriptor)

theorem reads_new (data : DiceData) : Reads data.layer data.bytes [] (new data) :=
  ⟨_, rfl, rfl, List.nil_prefix, rfl, by simp⟩

theorem collects_blank : Collects [] (.writeable blank) :=
  ⟨_, rfl, rfl, by simp [blank]⟩

theorem overwrite_zeros (record returned bytes : Bytes)
    (found : bytes <+: record.drop returned.length) :
    overwrite (List.replicate returned.length 0 ++ record.drop returned.length) returned.length
        (List.replicate bytes.length 0) =
      List.replicate (returned ++ bytes).length 0 ++ record.drop (returned ++ bytes).length := by
  obtain ⟨rest, split⟩ := found
  have zeros : (List.replicate returned.length (0 : UInt8)).length = returned.length :=
    List.length_replicate
  have dropped : record.drop (returned.length + bytes.length) = rest := by
    rw [← List.drop_drop, ← split, List.drop_left]
  simp only [overwrite, List.length_append, List.length_replicate, dropped,
    List.replicate_append_replicate.symm]
  rw [List.take_left' zeros, ← List.drop_drop, List.drop_left' zeros, ← split, List.drop_left]

variable {record returned : Bytes} {descriptor : DiceDataDescriptor}

theorem Reads.read {layer : DiceLayer} (holds : Reads layer record returned descriptor)
    (size : Nat) : (descriptor.read size).1 = .ok ((record.drop returned.length).take size) ∧
      Reads layer record (returned ++ (record.drop returned.length).take size)
        (descriptor.read size).2 := by
  obtain ⟨state, rfl, sameLayer, before, atIndex, contents⟩ := holds
  have copied : readBytes state size = (record.drop returned.length).take size := by
    rw [readBytes, contents, atIndex, List.drop_left' List.length_replicate]
  have part : (record.drop returned.length).take size <+: record.drop returned.length :=
    List.take_prefix _ _
  refine ⟨by rw [DiceDataDescriptor.read, copied], _, rfl, sameLayer, ?_, ?_, ?_⟩
  · obtain ⟨rest, rfl⟩ := before
    rw [List.drop_left]
    exact (List.prefix_append_right_inj returned).mpr (List.take_prefix size rest)
  · simp [afterRead, copied, atIndex]
  · simp only [afterRead, copied, atIndex, contents]
    exact overwrite_zeros record returned _ part

theorem Reads.write_layer1 (holds : Reads .layer1 record returned descriptor) (buf : Bytes) :
    descriptor.write buf = (.error .einval, descriptor) := by
  obtain ⟨⟨⟨layer, bytes, sized⟩, index, bounded⟩, rfl, sameLayer, -⟩ := holds
  cases sameLayer
  rfl

theorem Reads.write_layer0 (holds : Reads .layer0 record returned descriptor) (buf : Bytes) :
    descriptor.write buf = (DiceDataDescriptor.writeable blank).write buf := by
  obtain ⟨⟨⟨layer, bytes, sized⟩, index, bounded⟩, rfl, sameLayer, -⟩ := holds
  cases sameLayer
  rfl

theorem Collects.read {written : Bytes} (holds : Collects written descriptor) (size : Nat) :
    descriptor.read size = (.error .einval, descriptor) := by
  obtain ⟨state, rfl, -⟩ := holds
  rfl

theorem overwrite_written (written buf : Bytes) (total : Nat) :
    overwrite (written ++ List.replicate (total - written.length) 0) written.length buf =
      (written ++ buf) ++ List.replicate (total - (written ++ buf).length) 0 := by
  have rest : total - written.length - buf.length = total - (written ++ buf).length := by
    rw [List.length_append]
    omega
  rw [overwrite, List.take_left, ← List.drop_drop, List.drop_left, List.drop_replicate, rest]

theorem writeRecord_long {state : WriteState} {buf : Bytes}
    (long : buf.length > (state.data.drop state.index).length) :
    writeRecord state buf = (.error .einval, .writeable state) :=
  dif_pos long

theorem Collects.write {written : Bytes} (holds : Collects written descriptor) (buf : Bytes) :
    descriptor.write buf = (.error .einval, descriptor) ∨
      ((descriptor.write buf).1 = .ok buf.length ∧
        Replaced (written ++ buf) [] (descriptor.write buf).2) := by
  obtain ⟨state, rfl, atIndex, contents⟩ := holds
  by_cases long : buf.length > (state.data.drop state.index).length
  · exact Or.inl (writeRecord_long long)
  · right
    simp only [DiceDataDescriptor.write, writeRecord, dif_neg long]
    have room := state.incomplete
    have sized := state.sized
    have fits : written.length + buf.length ≤ DiceLayer.layer1.size := by
      rw [List.length_drop] at long
      omega
    have result : overwrite state.data state.index buf = (written ++ buf) ++
        List.replicate (DiceLayer.layer1.size - (written ++ buf).length) 0 := by
      rw [contents, atIndex, overwrite_written written buf]
    have resultLength : (overwrite state.data state.index buf).length = DiceLayer.layer1.size := by
      rw [length_overwrite (by rw [atIndex, sized]; exact fits), sized]
    split
    · next complete =>
      have full : (written ++ buf).length = DiceLayer.layer1.size := by
        rw [List.length_append, ← atIndex, complete, resultLength]
      refine ⟨rfl, Or.inr ⟨full, _, rfl, rfl, List.nil_prefix, rfl, ?_⟩⟩
      simpa [full] using result
    · next more =>
      have notFull : (written ++ buf).length < DiceLayer.layer1.size := by
        rw [List.length_append]
        omega
      refine ⟨rfl, Or.inl ⟨notFull, rfl, _, rfl, ?_, result⟩⟩
      exact (congrArg (· + buf.length) atIndex).trans List.length_append.symm

end DiceDataDescriptor

inductive DescriptorCall where
  | read (size : Nat)
  | write (buf : Bytes)
deriving DecidableEq

inductive DescriptorReply where
  | read (result : Except Errno Bytes)
  | write (result : Except Errno Nat)

def descriptorStep (descriptor : DiceDataDescriptor) :
    DescriptorCall → DescriptorReply × DiceDataDescriptor
  | .read size => (.read (descriptor.read size).1, (descriptor.read size).2)
  | .write buf => (.write (descriptor.write buf).1, (descriptor.write buf).2)

def returnedBytes (history : List (DescriptorCall × DescriptorReply)) : Bytes :=
  history.flatMap fun
    | (_, .read (.ok bytes)) => bytes
    | _ => []

def acceptedBytes (history : List (DescriptorCall × DescriptorReply)) : Bytes :=
  history.flatMap fun
    | (.write buf, .write (.ok _)) => buf
    | _ => []

@[simp] theorem returnedBytes_append (first second : List (DescriptorCall × DescriptorReply)) :
    returnedBytes (first ++ second) = returnedBytes first ++ returnedBytes second :=
  List.flatMap_append

@[simp] theorem acceptedBytes_append (first second : List (DescriptorCall × DescriptorReply)) :
    acceptedBytes (first ++ second) = acceptedBytes first ++ acceptedBytes second :=
  List.flatMap_append

namespace DiceDataDescriptor

variable {record returned written : Bytes} {descriptor : DiceDataDescriptor}

theorem Reads.run {layer : DiceLayer} (holds : Reads layer record returned descriptor)
    (sizes : List Nat) : Reads layer record
      (returned ++ returnedBytes (Runs.trace descriptorStep descriptor (sizes.map .read)))
      (Runs.after descriptorStep descriptor (sizes.map .read)) := by
  induction sizes generalizing returned descriptor with
  | nil => simpa [Runs.trace, Runs.after, returnedBytes] using holds
  | cons size sizes ih =>
    obtain ⟨answer, next⟩ := holds.read size
    have rest := ih next
    simpa [Runs.trace, Runs.after, descriptorStep, returnedBytes, answer] using rest

theorem Replaced.step (holds : Replaced written returned descriptor) (call : DescriptorCall) :
    Replaced (written ++ acceptedBytes [(call, (descriptorStep descriptor call).1)])
      (returned ++ returnedBytes [(call, (descriptorStep descriptor call).1)])
      (descriptorStep descriptor call).2 := by
  have kept := holds
  rcases holds with ⟨short, rfl, collects⟩ | ⟨full, reads⟩
  · cases call with
    | read size =>
      have refused := collects.read size
      simpa [descriptorStep, refused, acceptedBytes, returnedBytes] using kept
    | write buf =>
      rcases collects.write buf with refused | ⟨answer, next⟩
      · simpa [descriptorStep, refused, acceptedBytes, returnedBytes] using kept
      · simpa [descriptorStep, answer, acceptedBytes, returnedBytes] using next
  · cases call with
    | read size =>
      obtain ⟨answer, reads⟩ := reads.read size
      have next : Replaced written _ _ := Or.inr ⟨full, reads⟩
      simpa [descriptorStep, answer, acceptedBytes, returnedBytes] using next
    | write buf =>
      have refused := reads.write_layer1 buf
      simpa [descriptorStep, refused, acceptedBytes, returnedBytes] using kept

theorem Replaced.run (holds : Replaced written returned descriptor) (calls : List DescriptorCall) :
    Replaced (written ++ acceptedBytes (Runs.trace descriptorStep descriptor calls))
      (returned ++ returnedBytes (Runs.trace descriptorStep descriptor calls))
      (Runs.after descriptorStep descriptor calls) := by
  induction calls generalizing written returned descriptor with
  | nil => simpa [Runs.trace, Runs.after, acceptedBytes, returnedBytes] using holds
  | cons call calls ih =>
    have rest := ih (holds.step call)
    rw [List.append_assoc, List.append_assoc, ← acceptedBytes_append,
      ← returnedBytes_append] at rest
    exact rest

theorem Reads.first_write (holds : Reads .layer0 record returned descriptor) (buf : Bytes) :
    Replaced (acceptedBytes [(.write buf, (descriptorStep descriptor (.write buf)).1)]) []
      (descriptorStep descriptor (.write buf)).2 := by
  have start : Replaced [] [] (.writeable blank) :=
    Or.inl ⟨by decide, rfl, collects_blank⟩
  have next := start.step (.write buf)
  simp only [descriptorStep, holds.write_layer0 buf]
  simpa [descriptorStep, returnedBytes] using next

theorem Replaced.write_error (holds : Replaced written returned descriptor) {buf : Bytes}
    {code : Errno} (failed : (descriptor.write buf).1 = .error code) :
    (descriptor.write buf).2 = descriptor := by
  rcases holds with ⟨-, -, collects⟩ | ⟨-, reads⟩
  · rcases collects.write buf with refused | ⟨answer, -⟩
    · rw [refused]
    · rw [answer] at failed
      cases failed
  · rw [reads.write_layer1 buf]

theorem Replaced.read_short (holds : Replaced written returned descriptor)
    (short : written.length < DiceLayer.layer1.size) (size : Nat) :
    descriptor.read size = (.error .einval, descriptor) := by
  rcases holds with ⟨-, -, collects⟩ | ⟨full, -⟩
  · exact collects.read size
  · omega

theorem Replaced.reads (holds : Replaced written returned descriptor)
    (full : written.length = DiceLayer.layer1.size) :
    Reads .layer1 written returned descriptor := by
  rcases holds with ⟨short, -⟩ | ⟨-, reads⟩
  · omega
  · exact reads

theorem Reads.failed_first_write (holds : Reads .layer0 record returned descriptor) {buf : Bytes}
    {code : Errno} (failed : (descriptor.write buf).1 = .error code) :
    (descriptor.write buf).2 = .writeable blank := by
  rw [holds.write_layer0 buf] at failed ⊢
  exact Replaced.write_error (Or.inl ⟨by decide, rfl, collects_blank⟩) failed

/-- Every run is some reads of stage 0's record, and after the first attempt to
write calls that see nothing of it. -/
theorem run_keeps_secrets (stage0 : Block DiceLayer.layer0.size) (sizes : List Nat)
    (buf : Bytes) (calls : List DescriptorCall) :
    let start := new ⟨.layer0, stage0.toList, stage0.toList_length⟩
    let stored := Runs.after descriptorStep start (sizes.map .read)
    let final := Runs.after descriptorStep stored (.write buf :: calls)
    let history := Runs.trace descriptorStep stored (.write buf :: calls)
    let written := acceptedBytes history
    let returned := returnedBytes history
    Reads .layer0 stage0.toList
        (returnedBytes (Runs.trace descriptorStep start (sizes.map .read))) stored ∧
      Replaced written returned final ∧
      (written.length < DiceLayer.layer1.size →
        ∀ size, final.read size = (.error .einval, final)) ∧
      (written.length = DiceLayer.layer1.size →
        (∀ size, (final.read size).1 = .ok ((written.drop returned.length).take size)) ∧
        ∀ more, final.write more = (.error .einval, final)) ∧
      (∀ more code, (final.write more).1 = .error code → (final.write more).2 = final) ∧
      ∀ code, (stored.write buf).1 = .error code → (stored.write buf).2 = .writeable blank := by
  intro start stored final history written returned
  have reads : Reads .layer0 stage0.toList
      (returnedBytes (Runs.trace descriptorStep start (sizes.map .read))) stored :=
    (reads_new ⟨.layer0, stage0.toList, stage0.toList_length⟩).run sizes
  have replaced : Replaced written returned final := by
    have run := (reads.first_write buf).run calls
    rw [← acceptedBytes_append] at run
    exact run
  refine ⟨reads, replaced, fun short size => replaced.read_short short size,
    fun full => ⟨fun size => ?_, fun more => ?_⟩,
    fun more code failed => replaced.write_error failed,
    fun code failed => reads.failed_first_write failed⟩
  · exact ((replaced.reads full).read size).1
  · exact (replaced.reads full).write_layer1 more

/-- A first write that is too long is refused, but the record it found is gone. -/
theorem refused_first_write_replaces :
    let descriptor := new ⟨.layer0, List.replicate DiceLayer.layer0.size 7, List.length_replicate⟩
    let outcome := descriptor.write (List.replicate 5521 0)
    outcome.1 = .error .einval ∧ outcome.2 ≠ descriptor ∧ outcome.2 = .writeable blank := by
  intro descriptor outcome
  have long : (List.replicate 5521 (0 : UInt8)).length > (blank.data.drop blank.index).length := by
    simp only [blank, List.drop_zero, List.length_replicate]
    decide
  have refused : outcome = (.error .einval, .writeable blank) :=
    ((reads_new _).write_layer0 _).trans (writeRecord_long long)
  refine ⟨congrArg Prod.fst refused, fun same => ?_, congrArg Prod.snd refused⟩
  have impossible : DiceDataDescriptor.writeable blank = .readable _ :=
    (congrArg Prod.snd refused).symm.trans same
  cases impossible

end DiceDataDescriptor

end Oak.Kernel
