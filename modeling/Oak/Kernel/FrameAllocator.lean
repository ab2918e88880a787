import Mathlib.Algebra.Group.Nat.Defs
import Mathlib.Data.List.FinRange
import Mathlib.Data.List.MinMax
import Oak.Data.Bits
import Oak.Data.Outcome

namespace Oak.Kernel

open Oak.Data

/-! The physical memory allocator of the restricted kernel
(`oak_restricted_kernel/src/mm/bitmap_frame_allocator.rs`, `frame_allocator.rs`).

A bitmap allocator hands out frames of one size.  The kernel has one for frames
of 2 MiB and carves one of its frames into frames of 4 KiB when it needs the
first of these.  A call gives its outcome and the allocator that it leaves
behind, also if it panics. -/

inductive PageSize where
  | size4KiB
  | size2MiB
deriving Repr, DecidableEq

def PageSize.bytes : PageSize → Nat
  | .size4KiB => 4096
  | .size2MiB => 2097152

theorem PageSize.bytes_pos (size : PageSize) : 0 < size.bytes := by
  cases size <;> decide

/-- A frame of physical memory, by its number.  Physical addresses have 52 bits. -/
structure PhysFrame (size : PageSize) where
  number : Nat
  representable : number * size.bytes < 2 ^ 52
deriving Repr, DecidableEq

namespace PhysFrame

variable {size : PageSize}

def startAddress (frame : PhysFrame size) : Nat := frame.number * size.bytes

@[ext] theorem ext {frame other : PhysFrame size} (same : frame.number = other.number) :
    frame = other := by
  cases frame
  cases other
  cases same
  rfl

/-- `PhysFrame + u64`. -/
def add (frame : PhysFrame size) (count : Nat) : Outcome Empty (PhysFrame size) :=
  if representable : (frame.number + count) * size.bytes < 2 ^ 52 then
    .ok ⟨frame.number + count, representable⟩
  else .panic "the physical address is not valid"

end PhysFrame

/-- `PhysFrameRange`, without its end. -/
structure PhysFrameRange (size : PageSize) where
  start : PhysFrame size
  finish : PhysFrame size
deriving Repr, DecidableEq

namespace PhysFrameRange

variable {size : PageSize}

theorem representable (range : PhysFrameRange size)
    (index : Fin (range.finish.number - range.start.number)) :
    (range.start.number + index) * size.bytes < 2 ^ 52 := by
  have bounded : range.start.number + index ≤ range.finish.number := by
    omega
  exact (Nat.mul_le_mul_right size.bytes bounded).trans_lt range.finish.representable

def frames (range : PhysFrameRange size) : List (PhysFrame size) :=
  (List.finRange (range.finish.number - range.start.number)).map
    fun index : Fin (range.finish.number - range.start.number) =>
      ⟨range.start.number + index, range.representable index⟩

theorem mem_frames {range : PhysFrameRange size} {frame : PhysFrame size} : frame ∈ range.frames ↔
      range.start.number ≤ frame.number ∧ frame.number < range.finish.number := by
  simp only [frames, List.mem_map, List.mem_finRange, true_and]
  constructor
  · rintro ⟨index, rfl⟩
    exact ⟨Nat.le_add_right _ _, show range.start.number + index < _ by omega⟩
  · rintro ⟨lower, upper⟩
    exact ⟨⟨frame.number - range.start.number, by omega⟩, PhysFrame.ext (by simp; omega)⟩

theorem exists_frame (range : PhysFrameRange size) {number : Nat}
    (lower : range.start.number ≤ number) (upper : number < range.finish.number) :
    ∃ frame ∈ range.frames, frame.number = number := by
  have representable : number * size.bytes < 2 ^ 52 :=
    (Nat.mul_le_mul_right size.bytes upper.le).trans_lt range.finish.representable
  exact ⟨⟨number, representable⟩, mem_frames.mpr ⟨lower, upper⟩, rfl⟩

theorem nodup_frames (range : PhysFrameRange size) : range.frames.Nodup := by
  refine List.Nodup.map (fun first second same => ?_) (List.nodup_finRange _)
  have numbers := congrArg PhysFrame.number same
  exact Fin.ext (Nat.add_left_cancel numbers)

end PhysFrameRange

/-- `BitmapAllocator<S, N>`. -/
structure BitmapAllocator (size : PageSize) (words : Nat) where
  allocated : Bits
  valid : Bits
  range : PhysFrameRange size
  allocatedSize : allocated.length = words * 64
  validSize : valid.length = words * 64
deriving Repr, DecidableEq

namespace BitmapAllocator

variable {size : PageSize} {words : Nat}

def numFrames (range : PhysFrameRange size) : Nat :=
  (range.finish.startAddress + 2 ^ 64 - range.start.startAddress) % 2 ^ 64 / size.bytes

def new (range : PhysFrameRange size) : Outcome Empty (BitmapAllocator size words) :=
  if (numFrames range + 63) / 64 ≠ words then
    .panic "BitmapAllocator bitmap size does not match FrameRange size"
  else .ok
    { allocated := .zeros (words * 64)
      valid := .zeros (words * 64)
      range
      allocatedSize := Bits.length_zeros _
      validSize := Bits.length_zeros _ }

def frameIdx (allocator : BitmapAllocator size words) (frame : PhysFrame size) : Option Nat :=
  if frame.number < allocator.range.start.number ∨ frame.number > allocator.range.finish.number then
    none
  else
    some ((frame.startAddress - allocator.range.start.startAddress) / size.bytes)

def frame (allocator : BitmapAllocator size words) (index : Nat) :
    Outcome Empty (Option (PhysFrame size)) :=
  if allocator.valid.length ≤ index then .ok none
  else do
    let frame ← allocator.range.start.add index
    .ok (some frame)

def markValid (allocator : BitmapAllocator size words) (range : PhysFrameRange size)
    (valid : Bool) : Outcome Empty (BitmapAllocator size words) :=
  match allocator.frameIdx range.start, allocator.frameIdx range.finish with
  | some start, some finish =>
    if finish < start ∨ allocator.valid.length < finish then
      .panic "called `Option::unwrap()` on a `None` value"
    else .ok
      { allocator with
        valid := allocator.valid.fill start finish valid
        validSize := (Bits.length_fill valid).trans allocator.validSize }
  | _, _ => .panic "Can't mark validity for frame range that's outside our range"

def available (allocator : BitmapAllocator size words) : Bits :=
  .andNot allocator.valid allocator.allocated

def withAllocated (allocator : BitmapAllocator size words) (allocated : Bits)
    (same : allocated.length = allocator.allocated.length) : BitmapAllocator size words :=
  { allocator with allocated, allocatedSize := same.trans allocator.allocatedSize }

def allocate (allocator : BitmapAllocator size words) (range : PhysFrameRange size) :
    Outcome Empty (Option (PhysFrameRange size)) × BitmapAllocator size words :=
  match allocator.frameIdx range.start, allocator.frameIdx range.finish with
  | some start, some finish =>
    -- the slice
    if finish < start ∨ allocator.available.length < finish then
      (.panic "range out of bounds", allocator)
    else if allocator.available.allSet start finish then
      (.ok (some range),
        allocator.withAllocated (allocator.allocated.fill start finish true) (Bits.length_fill true))
    else (.ok none, allocator)
  | _, _ =>
    (.panic "Can't allocate frame range that's outside our range", allocator)

def unwrap {α : Type} : Outcome Empty (Option α) → Outcome Empty α
  | .ok (some value) => .ok value
  | .ok none => .panic "called `Option::unwrap()` on a `None` value"
  | .error fault => .error fault

/-- The streak of available frames that ends at this index, by the one before. -/
def streak : Option (Nat × Nat) → Nat → Nat × Nat
  | none, idx => (idx, idx)
  | some (startIdx, endIdx), idx => if idx = endIdx + 1 then (startIdx, idx) else (idx, idx)

def streaks : Option (Nat × Nat) → List Nat → List (Nat × Nat)
  | _, [] => []
  | state, idx :: rest => streak state idx :: streaks (some (streak state idx)) rest

/-- `max_by_key` takes the last one of the longest. -/
def largestAvailable (allocator : BitmapAllocator size words) :
    Outcome Empty (Option (PhysFrameRange size)) :=
  match (streaks none allocator.available.iterOnes).reverse.argmax fun ends => ends.2 - ends.1 with
  | none => .ok none
  | some (startIdx, endIdx) => do
    let start ← unwrap (allocator.frame startIdx)
    let last ← unwrap (allocator.frame endIdx)
    let finish ← last.add 1
    .ok (some ⟨start, finish⟩)

def allocateContiguous (allocator : BitmapAllocator size words) (num : Nat) :
    Outcome Empty (Option (PhysFrameRange size)) × BitmapAllocator size words :=
  if num = 0 then (.panic "window width cannot be 0", allocator)
  else match allocator.available.firstWindow num with
    | none => (.ok none, allocator)
    | some start =>
      match unwrap (allocator.frame start), unwrap (allocator.frame (start + num)) with
      | .ok start, .ok finish => allocator.allocate ⟨start, finish⟩
      | .error fault, _ => (.error fault, allocator)
      | _, .error fault => (.error fault, allocator)

def allocateFrame (allocator : BitmapAllocator size words) :
    Outcome Empty (Option (PhysFrame size)) × BitmapAllocator size words :=
  match allocator.available.firstOne with
  | none => (.ok none, allocator)
  | some index =>
    let next := allocator.withAllocated (allocator.allocated.set index true) List.length_set
    (next.frame index, next)

def deallocateFrame (allocator : BitmapAllocator size words) (frame : PhysFrame size) :
    Outcome Empty Unit × BitmapAllocator size words :=
  match allocator.frameIdx frame with
  | some index =>
    match allocator.valid[index]?, allocator.allocated[index]? with
    | some true, some true =>
      (.ok (), allocator.withAllocated (allocator.allocated.set index false) List.length_set)
    | some true, some false => (.panic "frame was not allocated in this allocator", allocator)
    | some false, _ => (.panic "frame is not valid in this allocator", allocator)
    | _, _ => (.panic "index out of bounds", allocator)
  | none => (.panic "can't deallocate frame that's outside our range", allocator)

end BitmapAllocator

/-- `PhysicalMemoryAllocator<N>`. -/
structure PhysicalMemoryAllocator (words : Nat) where
  largeFrames : BitmapAllocator .size2MiB words
  smallFrames : Option (BitmapAllocator .size4KiB 8)
deriving Repr, DecidableEq

namespace PhysicalMemoryAllocator

variable {words : Nat}

def newRange (range : PhysFrameRange .size2MiB) : Outcome Empty (PhysicalMemoryAllocator words) := do
  let largeFrames ← BitmapAllocator.new range
  .ok { largeFrames, smallFrames := none }

def markValid (allocator : PhysicalMemoryAllocator words) (range : PhysFrameRange .size2MiB)
    (valid : Bool) : Outcome Empty (PhysicalMemoryAllocator words) := do
  let largeFrames ← allocator.largeFrames.markValid range valid
  .ok { allocator with largeFrames }

def onLarge {α : Type} (allocator : PhysicalMemoryAllocator words)
    (call : BitmapAllocator .size2MiB words → Outcome Empty α × BitmapAllocator .size2MiB words) :
    Outcome Empty α × PhysicalMemoryAllocator words :=
  let (outcome, largeFrames) := call allocator.largeFrames
  (outcome, { allocator with largeFrames })

def allocate (allocator : PhysicalMemoryAllocator words) (range : PhysFrameRange .size2MiB) :
    Outcome Empty (Option (PhysFrameRange .size2MiB)) × PhysicalMemoryAllocator words :=
  allocator.onLarge (·.allocate range)

def allocateContiguous (allocator : PhysicalMemoryAllocator words) (num : Nat) :
    Outcome Empty (Option (PhysFrameRange .size2MiB)) × PhysicalMemoryAllocator words :=
  allocator.onLarge (·.allocateContiguous num)

def allocateLargeFrame (allocator : PhysicalMemoryAllocator words) :
    Outcome Empty (Option (PhysFrame .size2MiB)) × PhysicalMemoryAllocator words :=
  allocator.onLarge (·.allocateFrame)

def deallocateLargeFrame (allocator : PhysicalMemoryAllocator words)
    (frame : PhysFrame .size2MiB) : Outcome Empty Unit × PhysicalMemoryAllocator words :=
  allocator.onLarge (·.deallocateFrame frame)

/-- The first frame of 4 KiB in a frame of 2 MiB. -/
def firstSmall (frame : PhysFrame .size2MiB) : PhysFrame .size4KiB :=
  ⟨frame.number * 512, by
    rw [Nat.mul_assoc]
    exact frame.representable⟩

def carve (frame : PhysFrame .size2MiB) : Outcome Empty (BitmapAllocator .size4KiB 8) := do
  let finish ← (firstSmall frame).add 512
  let range := ⟨firstSmall frame, finish⟩
  let allocator ← BitmapAllocator.new range
  allocator.markValid range true

def allocateSmallFrame (allocator : PhysicalMemoryAllocator words) :
    Outcome Empty (Option (PhysFrame .size4KiB)) × PhysicalMemoryAllocator words :=
  match allocator.smallFrames with
  | some smallFrames =>
    let (outcome, smallFrames) := smallFrames.allocateFrame
    (outcome, { allocator with smallFrames := some smallFrames })
  | none =>
    let (outcome, allocator) := allocator.allocateLargeFrame
    match BitmapAllocator.unwrap outcome >>= carve with
    | .ok smallFrames =>
      let (outcome, smallFrames) := smallFrames.allocateFrame
      (outcome, { allocator with smallFrames := some smallFrames })
    | .error fault => (.error fault, allocator)

def deallocateSmallFrame (allocator : PhysicalMemoryAllocator words)
    (frame : PhysFrame .size4KiB) : Outcome Empty Unit × PhysicalMemoryAllocator words :=
  match allocator.smallFrames with
  | some smallFrames =>
    let (outcome, smallFrames) := smallFrames.deallocateFrame frame
    (outcome, { allocator with smallFrames := some smallFrames })
  | none => (.panic "called `Option::unwrap()` on a `None` value", allocator)

end PhysicalMemoryAllocator

end Oak.Kernel
