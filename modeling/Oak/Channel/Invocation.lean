import Oak.Channel.Frame

namespace Oak.Channel

open Oak.Data Oak.Data.Anyhow

/-! Messages over frames (`oak_channel/src/message.rs` and `InvocationChannel` in
`oak_channel/src/lib.rs`).

Requests and responses have one encoding.  The length in a message's header is
what the reader reserves; nothing compares it with the bytes that arrive. -/

inductive MessageKind where
  | request
  | response
deriving Repr, DecidableEq

structure Message (kind : MessageKind) where
  invocationId : UInt32
  body : Bytes
deriving Repr, DecidableEq

abbrev RequestMessage := Message .request
abbrev ResponseMessage := Message .response

namespace Message

def lengthSize : Nat := 4
def invocationIdSize : Nat := 4
def invocationIdOffset : Nat := 4
def bodyOffset : Nat := 8

variable {kind : MessageKind}

def len (message : Message kind) : Nat := lengthSize + invocationIdSize + message.body.length

def encode {ε : Type} (message : Message kind) : Outcome ε Bytes :=
  if message.len < 2 ^ 32 then
    .ok (littleEndian lengthSize message.len ++
      littleEndian invocationIdSize message.invocationId.toNat ++ message.body)
  else .panic "couldn't convert the message length usize to u32: TryFromIntError(())"

/-- The slices of `decode` are out of range if the header is not complete. -/
def decode {ε : Type} (encoded : Bytes) : Outcome ε (Message kind) :=
  if encoded.length < bodyOffset then
    .panic s!"range end index 8 out of range for slice of length {encoded.length}"
  else
    .ok { invocationId := UInt32.ofNat
            (ofLittleEndian ((encoded.drop invocationIdOffset).take invocationIdSize))
          body := encoded.drop bodyOffset }

theorem decode_encoded {ε : Type} (message : Message kind) :
    decode (littleEndian lengthSize message.len ++
      littleEndian invocationIdSize message.invocationId.toNat ++ message.body) =
        (.ok message : Outcome ε (Message kind)) := by
  have number : ofLittleEndian (littleEndian invocationIdSize message.invocationId.toNat) =
      message.invocationId.toNat :=
    ofLittleEndian_littleEndian message.invocationId.toNat_lt
  have header : (littleEndian lengthSize message.len ++
      littleEndian invocationIdSize message.invocationId.toNat).length = bodyOffset := by
    simp [lengthSize, invocationIdSize, bodyOffset]
  have offset : (littleEndian lengthSize message.len).length = invocationIdOffset :=
    littleEndian_length _ _
  rw [decode, if_neg (by rw [List.length_append]; omega), List.drop_left' header, List.append_assoc,
    List.drop_left' offset, List.take_left' (littleEndian_length _ _), number, UInt32.ofNat_toNat]

end Message

variable {kind : MessageKind}

def writeFrames : List Frame → Anyhow.Result Bytes
  | [] => .ok []
  | frame :: rest => do
    let first ← context "couldn't write frame" frame.write
    let later ← writeFrames rest
    return first ++ later

/-- `write_message`, with the bytes it puts on the channel. -/
def writeMessage (message : Message kind) : Outcome Anyhow Bytes := do
  let encoded ← message.encode
  let frames ← Outcome.returned (bytesIntoFrames encoded)
  Outcome.returned (writeFrames frames)

/-- The loop of `read_message`, over the frames after the first. -/
def readRest (stream buffer : Bytes) : Anyhow.Result (Bytes × Bytes) :=
  match _found : Frame.readFrame stream with
  | .error reason => .error ("couldn't read frame" :: reason)
  | .ok (frame, later) =>
    if frame.flags.isStart then bail "received two frames with the START flag set"
    else if frame.flags.isEnd then .ok (buffer ++ frame.body, later)
    else readRest later (buffer ++ frame.body)
termination_by stream.length
decreasing_by exact Frame.readFrame_shorter _found

/-- The length that the body of the first frame declares. -/
def declaredLength (body : Bytes) : Nat := ofLittleEndian (body.take Message.lengthSize)

/-- `read_message` up to the decoding: the bytes of the message. -/
def readBuffer (stream : Bytes) : Anyhow.Result (Bytes × Bytes) := do
  let (first, stream) ← context "couldn't read frame" (Frame.readFrame stream)
  if ¬ first.flags.isStart then bail "expected a frame with the START flag set"
  else if first.flags.isEnd then
    if first.body.length < Message.bodyOffset then
      bail "message is smaller than the message header"
    else return (first.body, stream)
  else if first.body.length < Message.lengthSize then
    bail "first frame too short for message length"
  else if declaredLength first.body < Frame.maxBodySize then
    bail "message length is smaller than the first frame"
  else readRest stream first.body

def readMessage (kind : MessageKind) (stream : Bytes) : Outcome Anyhow (Message kind × Bytes) := do
  let (buffer, stream) ← Outcome.returned (readBuffer stream)
  let message ← Message.decode buffer
  return (message, stream)

/-- The frames that are read from a channel, one after the other, and what is left. -/
def FramesFrom : Bytes → List Frame → Bytes → Prop
  | stream, [], later => stream = later
  | stream, frame :: rest, later =>
    ∃ next, Frame.readFrame stream = .ok (frame, next) ∧ FramesFrom next rest later

def bodies (frames : List Frame) : Bytes := frames.flatMap Frame.body

/-- The first frame says enough for the reader to go on. -/
def HeaderComplete : List Frame → Prop
  | [] => False
  | [frame] => Message.bodyOffset ≤ frame.body.length
  | frame :: _ :: _ => Message.lengthSize ≤ frame.body.length ∧
      Frame.maxBodySize ≤ declaredLength frame.body

variable {stream buffer later whole : Bytes}

theorem readRest_of_frame {frame : Frame} (found : Frame.readFrame stream = .ok (frame, later)) :
    readRest stream buffer =
      if frame.flags.isStart then bail "received two frames with the START flag set"
      else if frame.flags.isEnd then .ok (buffer ++ frame.body, later)
      else readRest later (buffer ++ frame.body) := by
  rw [readRest]
  split
  · next reason failed =>
    rw [found] at failed
    cases failed
  · next other next_ same =>
    rw [found] at same
    obtain ⟨rfl, rfl⟩ := Prod.mk.inj (Except.ok.inj same)
    rfl

variable {frames : List Frame}

theorem readRest_of_frames (run : FramesFrom stream frames later) (framed : Framed false frames) :
    readRest stream buffer = .ok (buffer ++ bodies frames, later) := by
  generalize plain : false = start at framed
  induction framed generalizing stream buffer with
  | last started ended =>
    obtain ⟨next, found, rfl⟩ := run
    subst plain
    rw [readRest_of_frame found, started, ended]
    simp [bodies]
  | @more _ frame rest started unended framed ih =>
    obtain ⟨next, found, run⟩ := run
    subst plain
    have continued : readRest next (buffer ++ frame.body) =
        .ok (buffer ++ frame.body ++ bodies rest, later) := ih run rfl
    rw [readRest_of_frame found, started, unended]
    simpa [bodies] using continued

theorem readRest_eq_ok : readRest stream buffer = .ok (whole, later) ↔
      ∃ frames, FramesFrom stream frames later ∧ Framed false frames ∧
        whole = buffer ++ bodies frames := by
  constructor
  · intro read
    fun_induction readRest stream buffer with
    | case1 stream buffer reason failed => cases read
    | case2 stream buffer frame next found started => exact absurd read (bail_ne_ok _ _)
    | case3 stream buffer frame next found started ended =>
      obtain ⟨rfl, rfl⟩ := Prod.mk.inj (Except.ok.inj read)
      exact ⟨[frame], ⟨_, found, rfl⟩, .last (by simpa using started) ended,
        by simp [bodies]⟩
    | case4 stream buffer frame next found started ended ih =>
      obtain ⟨frames, run, framed, rfl⟩ := ih read
      exact ⟨frame :: frames, ⟨next, found, run⟩,
        .more (by simpa using started) (by simpa using ended) framed, by simp [bodies]⟩
  · rintro ⟨frames, run, framed, rfl⟩
    exact readRest_of_frames run framed

/-- The bytes that `read_message` decodes are the bodies of the frames of one message. -/
theorem readBuffer_eq_ok : readBuffer stream = .ok (whole, later) ↔
      ∃ frames, FramesFrom stream frames later ∧ Framed true frames ∧ HeaderComplete frames ∧
        whole = bodies frames := by
  simp only [readBuffer, bind_eq_ok, Prod.exists, context_eq_ok]
  constructor
  · rintro ⟨first, next, found, read⟩
    split at read
    · exact absurd read (bail_ne_ok _ _)
    next started =>
    have started : first.flags.isStart = true := by simpa using started
    split at read
    · next ended =>
      split at read
      · exact absurd read (bail_ne_ok _ _)
      next long =>
      obtain ⟨rfl, rfl⟩ := Prod.mk.inj (pure_eq_ok.mp read)
      exact ⟨[first], ⟨next, found, rfl⟩, .last started ended, Nat.le_of_not_lt long,
        by simp [bodies]⟩
    · next unended =>
      split at read
      · exact absurd read (bail_ne_ok _ _)
      next long =>
      split at read
      · exact absurd read (bail_ne_ok _ _)
      next large =>
      obtain ⟨rest, run, framed, rfl⟩ := readRest_eq_ok.mp read
      refine ⟨first :: rest, ⟨next, found, run⟩, .more started (by simpa using unended) framed,
        ?_, by simp [bodies]⟩
      obtain ⟨second, others, rfl⟩ := List.exists_cons_of_ne_nil framed.ne_nil
      exact ⟨Nat.le_of_not_lt long, Nat.le_of_not_lt large⟩
  · rintro ⟨frames, run, framed, complete, rfl⟩
    cases framed with
    | @last _ frame started ended =>
      obtain ⟨next, found, rfl⟩ := run
      refine ⟨frame, next, found, ?_⟩
      have long : ¬ frame.body.length < Message.bodyOffset := Nat.not_lt.mpr complete
      simp [started, ended, long, bodies]
    | @more _ frame rest started unended framed =>
      obtain ⟨next, found, run⟩ := run
      refine ⟨frame, next, found, ?_⟩
      obtain ⟨second, others, rfl⟩ := List.exists_cons_of_ne_nil framed.ne_nil
      have long : ¬ frame.body.length < Message.lengthSize := Nat.not_lt.mpr complete.1
      have large : ¬ declaredLength frame.body < Frame.maxBodySize := Nat.not_lt.mpr complete.2
      simpa [started, unended, long, large, bodies] using readRest_of_frames run framed

theorem FramesFrom.sized (run : FramesFrom stream frames later) :
    ∀ frame ∈ frames, frame.Sized := by
  induction frames generalizing stream with
  | nil => simp
  | cons frame rest ih =>
    obtain ⟨next, found, run⟩ := run
    rw [List.forall_mem_cons]
    exact ⟨(Frame.readFrame_eq_ok.mp found).1, ih run⟩

theorem Framed.unique {start other : Bool} {later' : Bytes} {frames' : List Frame}
    (framed : Framed start frames) (framed' : Framed other frames')
    (run : FramesFrom stream frames later) (run' : FramesFrom stream frames' later') :
    frames = frames' := by
  induction framed generalizing other stream frames' with
  | last started ended =>
    obtain ⟨next, found, -⟩ := run
    cases framed' with
    | last _ _ =>
      obtain ⟨next', found', -⟩ := run'
      cases found.symm.trans found'
      rfl
    | more _ unended _ =>
      obtain ⟨next', found', -⟩ := run'
      cases found.symm.trans found'
      rw [ended] at unended
      cases unended
  | more started unended framed ih =>
    obtain ⟨next, found, run⟩ := run
    cases framed' with
    | last _ ended =>
      obtain ⟨next', found', -⟩ := run'
      cases found.symm.trans found'
      rw [ended] at unended
      cases unended
    | more _ _ framed' =>
      obtain ⟨next', found', run'⟩ := run'
      cases found.symm.trans found'
      rw [ih framed' run run']

theorem framesFrom_encode (sized : ∀ frame ∈ frames, frame.Sized) (later : Bytes) :
    FramesFrom (frames.flatMap Frame.encode ++ later) frames later := by
  induction frames with
  | nil => rfl
  | cons frame rest ih =>
    rw [List.forall_mem_cons] at sized
    refine ⟨rest.flatMap Frame.encode ++ later, ?_, ih sized.2⟩
    rw [List.flatMap_cons, List.append_assoc]
    exact Frame.readFrame_encode sized.1 _

/-- The length that the first frame of a message declares. -/
def declared : List Frame → Nat
  | [] => 0
  | first :: _ => declaredLength first.body

theorem readMessage_of_readBuffer (read : readBuffer stream = .ok (whole, later)) :
    readMessage kind stream = Message.decode whole >>= fun message => .ok (message, later) := by
  rw [readMessage, read]
  rfl

theorem readMessage_of_error {reason : Anyhow} (failed : readBuffer stream = .error reason) :
    readMessage kind stream = .err reason := by
  rw [readMessage, failed]
  rfl

theorem Message.decode_long {ε : Type} {encoded : Bytes} (long : bodyOffset ≤ encoded.length) :
    ∃ message : Message kind, (decode encoded : Outcome ε (Message kind)) = .ok message :=
  ⟨_, if_neg (Nat.not_lt.mpr long)⟩

theorem Message.decode_short {ε : Type} {encoded : Bytes} (short : encoded.length < bodyOffset) :
    ∃ text, (decode encoded : Outcome ε (Message kind)) = .panic text :=
  ⟨_, if_pos short⟩

theorem HeaderComplete.long (complete : HeaderComplete frames)
    (exact : (bodies frames).length = declared frames) :
    Message.bodyOffset ≤ (bodies frames).length := by
  match frames, complete with
  | [frame], complete => simpa [bodies, HeaderComplete] using complete
  | frame :: second :: rest, complete =>
    have large : Frame.maxBodySize ≤ (bodies (frame :: second :: rest)).length :=
      exact ▸ complete.2
    exact (by decide : Message.bodyOffset ≤ Frame.maxBodySize).trans large

/-- The reader meets the specification on the channels whose first message, if it is complete,
has as many bytes as its first frame declares. -/
theorem readMessage_respects_length_iff (kind : MessageKind) (stream : Bytes) :
    (¬ (readMessage kind stream).IsPanic ∧
      ∀ message later, readMessage kind stream = .ok (message, later) →
        ∃ frames, FramesFrom stream frames later ∧ OneMessage frames ∧
          (∀ frame ∈ frames, frame.Sized) ∧
          (Message.decode (bodies frames) : Outcome Anyhow (Message kind)) = .ok message ∧
          (bodies frames).length = declared frames) ↔
    ∀ frames later, FramesFrom stream frames later → OneMessage frames → HeaderComplete frames →
      (bodies frames).length = declared frames := by
  constructor
  · rintro ⟨noPanic, meets⟩ frames later run one complete
    have framed := framed_true_iff.mpr one
    have read : readMessage kind stream = _ :=
      readMessage_of_readBuffer (readBuffer_eq_ok.mpr ⟨frames, run, framed, complete, rfl⟩)
    by_cases short : (bodies frames).length < Message.bodyOffset
    · obtain ⟨text, panicked⟩ := Message.decode_short short
      rw [read, panicked] at noPanic
      exact absurd trivial noPanic
    · obtain ⟨message, decoded⟩ := Message.decode_long (Nat.le_of_not_lt short)
      rw [decoded] at read
      obtain ⟨frames', run', one', -, -, exact⟩ := meets message later read
      rw [framed.unique (framed_true_iff.mpr one') run run']
      exact exact
  · intro exact
    cases buffer : readBuffer stream with
    | error reason =>
      rw [readMessage_of_error buffer]
      exact ⟨Outcome.not_isPanic_err reason, nofun⟩
    | ok pair =>
      obtain ⟨frames, run, framed, complete, same⟩ := readBuffer_eq_ok.mp buffer
      have one := framed_true_iff.mp framed
      have total := exact frames _ run one complete
      obtain ⟨message, decoded⟩ := Message.decode_long (complete.long total)
      rw [readMessage_of_readBuffer buffer, same, decoded]
      refine ⟨Outcome.not_isPanic_ok _, fun message' later returned => ?_⟩
      obtain ⟨rfl, rfl⟩ := Prod.mk.inj (Except.ok.inj returned)
      exact ⟨frames, run, one, run.sized, decoded, total⟩

/-- Five bytes in two frames, of which the first declares 3992: the header is not complete. -/
theorem short_message_panics :
    (readMessage .request ([⟨⟨true, false⟩, [0x98, 0x0f, 0, 0]⟩, ⟨⟨false, true⟩, [0]⟩].flatMap
      Frame.encode)).IsPanic := by
  have sized : ∀ frame ∈ [⟨⟨true, false⟩, [0x98, 0x0f, 0, 0]⟩, ⟨⟨false, true⟩, [0]⟩],
      Frame.Sized frame := by decide
  have run := framesFrom_encode sized []
  rw [List.append_nil] at run
  have read := readBuffer_eq_ok.mpr
    ⟨_, run, .more rfl rfl (.last rfl rfl), ⟨by decide, by decide⟩, rfl⟩
  rw [readMessage_of_readBuffer read]
  exact trivial

theorem writeFrames_sized (sized : ∀ frame ∈ frames, frame.Sized) :
    writeFrames frames = .ok (frames.flatMap Frame.encode) := by
  induction frames with
  | nil => rfl
  | cons frame rest ih =>
    rw [List.forall_mem_cons] at sized
    rw [writeFrames, Frame.write_sized sized.1, ih sized.2]
    rfl

theorem headerComplete_of_chunks {data : Bytes}
    (cut : frames.map Frame.body = chunks Frame.maxBodySize data)
    (long : Message.bodyOffset ≤ data.length) (exact : declaredLength data = data.length) :
    HeaderComplete frames := by
  have some : data ≠ [] := List.length_pos_iff.mp (Nat.lt_of_lt_of_le (by decide) long)
  rw [chunks_of_ne_nil (by decide) some] at cut
  match frames, cut with
  | [frame], cut =>
    have body : frame.body = data.take Frame.maxBodySize := (List.cons.inj cut).1
    have room : Message.bodyOffset ≤ Frame.maxBodySize := by decide
    simp only [HeaderComplete, body, List.length_take]
    omega
  | frame :: second :: rest, cut =>
    obtain ⟨body, others⟩ : frame.body = data.take Frame.maxBodySize ∧ _ := List.cons.inj cut
    have more : data.drop Frame.maxBodySize ≠ [] := by
      intro none
      rw [none, chunks_nil] at others
      cases others
    have longer : Frame.maxBodySize < data.length := by
      rw [← Nat.sub_pos_iff_lt, ← List.length_drop]
      exact List.length_pos_iff.mpr more
    have same : declaredLength frame.body = data.length := by
      rw [body, declaredLength, List.take_take]
      exact exact
    refine ⟨?_, same ▸ longer.le⟩
    rw [body, List.length_take_of_le longer.le]
    decide

theorem writeMessage_frames {message : Message kind} (fits : message.len < 2 ^ 32) :
    ∃ frames, writeMessage message = .ok (frames.flatMap Frame.encode) ∧ OneMessage frames ∧
      (∀ frame ∈ frames, frame.Sized) ∧ HeaderComplete frames ∧
      (Message.decode (bodies frames) : Outcome Anyhow (Message kind)) = .ok message := by
  let encoded := littleEndian Message.lengthSize message.len ++
    littleEndian Message.invocationIdSize message.invocationId.toNat ++ message.body
  have length : encoded.length = message.len := by
    simp [encoded, Message.len, Nat.add_assoc]
  have long : Message.bodyOffset ≤ encoded.length := by
    rw [length]
    exact Nat.le_add_right _ _
  have exact : declaredLength encoded = encoded.length := by
    have first : encoded.take Message.lengthSize = littleEndian Message.lengthSize message.len := by
      exact List.take_left' (littleEndian_length _ _)
    rw [declaredLength, first, length]
    exact ofLittleEndian_littleEndian fits
  have some : encoded ≠ [] := List.length_pos_iff.mp (Nat.lt_of_lt_of_le (by decide) long)
  obtain ⟨frames, cutInto, framed, cut, sized⟩ := bytesIntoFrames_eq_ok some
  have whole : bodies frames = encoded := by
    rw [bodies, List.flatMap_def, cut, flatten_chunks]
  refine ⟨frames, ?_, framed_true_iff.mp framed, sized, headerComplete_of_chunks cut long exact, ?_⟩
  · have encodes : (message.encode : Outcome Anyhow Bytes) = .ok encoded := if_pos fits
    rw [writeMessage, encodes, Outcome.ok_bind, cutInto]
    exact congrArg Outcome.returned (writeFrames_sized sized)
  · rw [whole]
    exact Message.decode_encoded message

/-- `write_message`, for one message after the other. -/
def writeMessages : List (Σ kind, Message kind) → Outcome Anyhow Bytes
  | [] => .ok []
  | ⟨_, message⟩ :: rest => do
    let first ← writeMessage message
    let later ← writeMessages rest
    return first ++ later

/-- `read_message`, for messages of these kinds. -/
def readMessages : List MessageKind → Bytes → Outcome Anyhow (List (Σ kind, Message kind) × Bytes)
  | [], stream => .ok ([], stream)
  | kind :: rest, stream => do
    let (message, stream) ← readMessage kind stream
    let (messages, stream) ← readMessages rest stream
    return (⟨kind, message⟩ :: messages, stream)

/-- What was written is read again, whatever follows on the channel. -/
theorem readMessages_writeMessages (messages : List (Σ kind, Message kind))
    (fits : ∀ message ∈ messages, message.2.len < 2 ^ 32) (later : Bytes) :
    ∃ framings : List (List Frame),
      writeMessages messages = .ok (framings.flatten.flatMap Frame.encode) ∧
      List.Forall₂ (fun message frames =>
        (Message.decode (bodies frames) : Outcome Anyhow (Message message.1)) = .ok message.2)
        messages framings ∧
      (∀ frames ∈ framings, OneMessage frames ∧ ∀ frame ∈ frames, frame.Sized) ∧
      readMessages (messages.map Sigma.fst) (framings.flatten.flatMap Frame.encode ++ later) =
        .ok (messages, later) := by
  induction messages with
  | nil => exact ⟨[], rfl, .nil, nofun, rfl⟩
  | cons message rest ih =>
    rw [List.forall_mem_cons] at fits
    obtain ⟨framings, written, carried, wellFormed, read⟩ := ih fits.2
    obtain ⟨frames, writtenFirst, one, sized, complete, decoded⟩ := writeMessage_frames fits.1
    refine ⟨frames :: framings, ?_, .cons decoded carried, ?_, ?_⟩
    · rw [writeMessages, writtenFirst, written, List.flatten_cons, List.flatMap_append]
      rfl
    · rw [List.forall_mem_cons]
      exact ⟨⟨one, sized⟩, wellFormed⟩
    · have run := framesFrom_encode sized (framings.flatten.flatMap Frame.encode ++ later)
      have first : readMessage message.1 _ = _ := readMessage_of_readBuffer
        (readBuffer_eq_ok.mpr ⟨frames, run, framed_true_iff.mpr one, complete, rfl⟩)
      rw [decoded] at first
      rw [List.map_cons, List.flatten_cons, List.flatMap_append, List.append_assoc, readMessages,
        first]
      simp only [Outcome.ok_bind, read]
      rfl

/-- The shortest message, and one that ends one byte into its second frame. -/
theorem two_messages_read_again : ∃ framings : List (List Frame),
      writeMessages [⟨.request, 1, []⟩, ⟨.response, 1, List.replicate 3985 7⟩] =
        .ok (framings.flatten.flatMap Frame.encode) ∧
      readMessages [.request, .response] (framings.flatten.flatMap Frame.encode ++ [5]) =
        .ok ([⟨.request, 1, []⟩, ⟨.response, 1, List.replicate 3985 7⟩], [5]) := by
  obtain ⟨framings, written, -, -, read⟩ :=
    readMessages_writeMessages [⟨.request, 1, []⟩, ⟨.response, 1, List.replicate 3985 7⟩]
      (by simp only [List.forall_mem_cons, Message.len, List.length_replicate]; decide) [5]
  exact ⟨framings, written, read⟩

end Oak.Channel
