import Oak.Data.Anyhow
import Oak.Data.Bytes
import Oak.Data.Chunks

namespace Oak.Channel

open Oak.Data Oak.Data.Anyhow

/-! The frame layer of the channel between the host and the restricted kernel
(`oak_channel/src/frame.rs`).

A channel is reliable: what is read from it is what is left of the bytes that
were written, and a read fails only if the channel ends. -/

/-- `Read::read_exact`. -/
def readExact (length : Nat) (stream : Bytes) : Anyhow.Result (Bytes × Bytes) :=
  if length ≤ stream.length then .ok (stream.take length, stream.drop length)
  else bail "failed to fill whole buffer"

theorem readExact_append {length : Nat} {bytes : Bytes} (exact : bytes.length = length)
    (later : Bytes) : readExact length (bytes ++ later) = .ok (bytes, later) := by
  subst exact
  rw [readExact, if_pos (by simp), List.take_left, List.drop_left]

theorem readExact_eq_ok {length : Nat} {stream bytes later : Bytes} :
    readExact length stream = .ok (bytes, later) ↔
      stream = bytes ++ later ∧ bytes.length = length := by
  constructor
  · intro read
    rw [readExact] at read
    split at read
    · next enough =>
      obtain ⟨rfl, rfl⟩ := Prod.mk.inj (Except.ok.inj read)
      exact ⟨(List.take_append_drop length stream).symm, List.length_take_of_le enough⟩
    · exact absurd read (bail_ne_ok _ _)
  · rintro ⟨rfl, exact⟩
    exact readExact_append exact later

namespace Frame

def paddingSize : Nat := 4
def lengthSize : Nat := 2
def flagsSize : Nat := 2
def bodyOffset : Nat := 8
def maxSize : Nat := 4000
def maxBodySize : Nat := maxSize - bodyOffset

end Frame

structure Flags where
  isStart : Bool
  isEnd : Bool
deriving Repr, DecidableEq

namespace Flags

def default : Flags := ⟨false, false⟩

def bits (flags : Flags) : Nat := (if flags.isStart then 1 else 0) + if flags.isEnd then 2 else 0

/-- The other bits of a received number are ignored. -/
def fromBitsTruncate (bits : Nat) : Flags := ⟨bits.testBit 0, bits.testBit 1⟩

theorem bits_lt (flags : Flags) : flags.bits < 256 ^ Frame.flagsSize := by
  rcases flags with ⟨_ | _, _ | _⟩ <;> decide

@[simp] theorem fromBitsTruncate_bits (flags : Flags) : fromBitsTruncate flags.bits = flags := by
  rcases flags with ⟨_ | _, _ | _⟩ <;> decide

end Flags

structure Frame where
  flags : Flags
  body : Bytes
deriving Repr, DecidableEq

namespace Frame

def length (frame : Frame) : Nat := bodyOffset + frame.body.length

def encode (frame : Frame) : Bytes :=
  List.replicate paddingSize 0 ++ littleEndian lengthSize frame.length ++
    littleEndian flagsSize frame.flags.bits ++ frame.body

/-- `Frame::write`, with the bytes it puts on the channel. -/
def write (frame : Frame) : Anyhow.Result Bytes :=
  if frame.length < 2 ^ 16 then .ok frame.encode
  else bail "could convert the frame length usize to \"u16\""

/-- `Framed::read_frame`, with what it leaves on the channel.  The body is what it
appends to the buffer of the message. -/
def readFrame (stream : Bytes) : Anyhow.Result (Frame × Bytes) := do
  let (_, stream) ← readExact paddingSize stream
  let (lengthBytes, stream) ← readExact lengthSize stream
  let length := ofLittleEndian lengthBytes
  if length ≤ bodyOffset then bail "frame is too small"
  else if length > maxSize then bail "frame exceeds the maximum frame size"
  else
    let (flagsBytes, stream) ← readExact flagsSize stream
    let flags := Flags.fromBitsTruncate (ofLittleEndian flagsBytes)
    let (body, stream) ← readExact (length - bodyOffset) stream
    return (⟨flags, body⟩, stream)

def Sized (frame : Frame) : Prop := bodyOffset < frame.length ∧ frame.length ≤ maxSize

instance (frame : Frame) : Decidable frame.Sized := inferInstanceAs (Decidable (_ ∧ _))

variable {frame : Frame}

theorem readFrame_eq_ok {stream later : Bytes} : readFrame stream = .ok (frame, later) ↔
      frame.Sized ∧ ∃ padding lengthBytes flagsBytes : Bytes,
        padding.length = paddingSize ∧ lengthBytes.length = lengthSize ∧
        flagsBytes.length = flagsSize ∧ ofLittleEndian lengthBytes = frame.length ∧
        Flags.fromBitsTruncate (ofLittleEndian flagsBytes) = frame.flags ∧
        stream = padding ++ (lengthBytes ++ (flagsBytes ++ (frame.body ++ later))) := by
  constructor
  · intro read
    simp only [readFrame, bind_eq_ok, Prod.exists, readExact_eq_ok] at read
    obtain ⟨padding, _, ⟨rfl, four⟩, lengthBytes, _, ⟨rfl, two⟩, read⟩ := read
    split at read
    · exact absurd read (bail_ne_ok _ _)
    next large =>
    split at read
    · exact absurd read (bail_ne_ok _ _)
    next small =>
    simp only [bind_eq_ok, Prod.exists, readExact_eq_ok, pure_eq_ok] at read
    obtain ⟨flagsBytes, _, ⟨rfl, twoFlags⟩, body, _, ⟨rfl, exact⟩, same⟩ := read
    obtain ⟨rfl, rfl⟩ := Prod.mk.inj same
    have stated : ofLittleEndian lengthBytes = bodyOffset + body.length := by omega
    refine ⟨?_, padding, lengthBytes, flagsBytes, four, two, twoFlags, stated, rfl, rfl⟩
    exact ⟨by simp only [length]; omega, by simp only [length]; omega⟩
  · rintro ⟨⟨large, small⟩, padding, lengthBytes, flagsBytes, four, two, twoFlags, stated, flags,
      rfl⟩
    have exact : frame.body.length = frame.length - bodyOffset := by
      rw [length, Nat.add_sub_cancel_left]
    simp only [readFrame, bind_eq_ok, Prod.exists, readExact_eq_ok]
    refine ⟨padding, _, ⟨rfl, four⟩, lengthBytes, _, ⟨rfl, two⟩, ?_⟩
    rw [stated, if_neg (by omega), if_neg (by omega)]
    simp only [bind_eq_ok, Prod.exists, readExact_eq_ok, pure_eq_ok]
    exact ⟨flagsBytes, _, ⟨rfl, twoFlags⟩, frame.body, later, ⟨rfl, exact⟩, by rw [flags]⟩

theorem readFrame_encode (sized : frame.Sized) (later : Bytes) :
    readFrame (frame.encode ++ later) = .ok (frame, later) := by
  have small : frame.length < 256 ^ lengthSize := sized.2.trans_lt (by decide)
  refine readFrame_eq_ok.mpr ⟨sized, List.replicate paddingSize 0,
    littleEndian lengthSize frame.length, littleEndian flagsSize frame.flags.bits,
    List.length_replicate, littleEndian_length _ _, littleEndian_length _ _,
    ofLittleEndian_littleEndian small, ?_, ?_⟩
  · rw [ofLittleEndian_littleEndian (Flags.bits_lt frame.flags), Flags.fromBitsTruncate_bits]
  · simp [encode]

theorem readFrame_shorter {stream later : Bytes} (read : readFrame stream = .ok (frame, later)) :
    later.length < stream.length := by
  obtain ⟨-, padding, lengthBytes, flagsBytes, four, -, -, -, -, rfl⟩ := readFrame_eq_ok.mp read
  simp only [List.length_append, four, paddingSize]
  omega

theorem write_sized (sized : frame.Sized) : frame.write = .ok frame.encode :=
  if_pos (sized.2.trans_lt (by decide))

end Frame

/-- `flags.set` on the first frame. -/
def markStart : List Frame → List Frame
  | [] => []
  | frame :: rest => { frame with flags := { frame.flags with isStart := true } } :: rest

/-- `flags.set` on the last frame. -/
def markEnd : List Frame → List Frame
  | [] => []
  | [frame] => [{ frame with flags := { frame.flags with isEnd := true } }]
  | frame :: next :: rest => frame :: markEnd (next :: rest)

def bytesIntoFrames (data : Bytes) : Anyhow.Result (List Frame) :=
  if data = [] then bail "cannot convert empty payloads into frames"
  else .ok (markEnd (markStart ((chunks Frame.maxBodySize data).map (Frame.mk .default))))

/-- The last frame and no other has END; START is on the first frame if `start`, and on no other. -/
inductive Framed : Bool → List Frame → Prop
  | last {start : Bool} {frame : Frame} (started : frame.flags.isStart = start)
      (ended : frame.flags.isEnd = true) : Framed start [frame]
  | more {start : Bool} {frame : Frame} {rest : List Frame} (started : frame.flags.isStart = start)
      (unended : frame.flags.isEnd = false) (framed : Framed false rest) :
      Framed start (frame :: rest)

/-- START is the flag of the first frame only, END of the last frame only. -/
def OneMessage (frames : List Frame) : Prop :=
  frames ≠ [] ∧ ∀ index (inside : index < frames.length),
    (frames[index].flags.isStart = true ↔ index = 0) ∧
    (frames[index].flags.isEnd = true ↔ index + 1 = frames.length)

variable {start : Bool} {frames : List Frame}

theorem Framed.ne_nil (framed : Framed start frames) : frames ≠ [] := by
  cases framed <;> simp

theorem framed_iff : Framed start frames ↔ frames ≠ [] ∧ ∀ index (inside : index < frames.length),
      (frames[index].flags.isStart = true ↔ start = true ∧ index = 0) ∧
      (frames[index].flags.isEnd = true ↔ index + 1 = frames.length) := by
  constructor
  · intro framed
    refine ⟨framed.ne_nil, ?_⟩
    induction framed with
    | last started ended =>
      intro index inside
      obtain rfl : index = 0 := by simpa using inside
      simp [started, ended]
    | more started unended framed ih =>
      intro index inside
      cases index with
      | zero => simp [started, unended, framed.ne_nil]
      | succ index => simpa using ih index (by simpa using inside)
  · rintro ⟨some, flags⟩
    induction frames generalizing start with
    | nil => exact absurd rfl some
    | cons frame rest ih =>
      have first := flags 0 (by simp)
      have started : frame.flags.isStart = start :=
        Bool.eq_iff_iff.mpr (first.1.trans (and_iff_left rfl))
      cases rest with
      | nil => exact .last started (first.2.mpr rfl)
      | cons next rest =>
        refine .more started (Bool.eq_false_iff.mpr fun ended => ?_)
          (ih (by simp) fun index inside => ?_)
        · have alone := first.2.mp ended
          simp at alone
        · obtain ⟨starts, ends⟩ := flags (index + 1) (Nat.succ_lt_succ inside)
          exact ⟨starts.trans (by simp), ends.trans (by simp)⟩

theorem framed_true_iff : Framed true frames ↔ OneMessage frames := by
  simp [framed_iff, OneMessage]

theorem framed_markEnd {first : Frame} {rest : List Frame}
    (started : first.flags = ⟨start, false⟩) (plain : ∀ frame ∈ rest, frame.flags = .default) :
    Framed start (markEnd (first :: rest)) := by
  induction rest generalizing start first with
  | nil => exact .last (by rw [started]) rfl
  | cons next rest ih =>
    have inner := ih (plain next List.mem_cons_self)
      fun frame found => plain frame (List.mem_cons_of_mem _ found)
    exact .more (by rw [started]) (by rw [started]) inner

@[simp] theorem map_body_markStart (frames : List Frame) :
    (markStart frames).map Frame.body = frames.map Frame.body := by
  cases frames <;> rfl

@[simp] theorem map_body_markEnd (frames : List Frame) :
    (markEnd frames).map Frame.body = frames.map Frame.body := by
  fun_induction markEnd frames with
  | case1 | case2 => rfl
  | case3 frame next rest ih => simp [ih]

theorem bytesIntoFrames_eq_ok {data : Bytes} (some : data ≠ []) :
    ∃ frames, bytesIntoFrames data = .ok frames ∧ Framed true frames ∧
      frames.map Frame.body = chunks Frame.maxBodySize data ∧ ∀ frame ∈ frames, frame.Sized := by
  refine ⟨_, if_neg some, ?_, by simp [Function.comp_def], fun frame found => ?_⟩
  · rw [chunks_of_ne_nil (by decide) some]
    refine framed_markEnd rfl fun frame found => ?_
    obtain ⟨body, -, rfl⟩ := List.mem_map.mp found
    rfl
  · have body : frame.body ∈ chunks Frame.maxBodySize data := by
      have mapped := List.mem_map_of_mem (f := Frame.body) found
      simpa [Function.comp_def] using mapped
    obtain ⟨lower, upper⟩ := chunk_bounds (by decide) body
    have limit : Frame.maxBodySize + Frame.bodyOffset = Frame.maxSize := rfl
    constructor <;> simp only [Frame.length] <;> omega

end Oak.Channel
