import LinSight.Protocol.FrameWriter

set_option autoImplicit false

/-! The writer of frames with its two reused buffers, over a sink that may stop in
the middle of a write. postcard and the allocator are parameters. -/

namespace LinSight

variable {M ε : Type}

/-- `Vec<u8>`. -/
structure ByteVec where
  bytes : List UInt8
  capacity : Nat
  fits : bytes.length ≤ capacity

/-- What `Vec::reserve` makes of the capacity. -/
structure Allocator where
  grow : (capacity len additional : Nat) → Nat
  enough : ∀ capacity len additional, len + additional ≤ grow capacity len additional

namespace ByteVec

def withCapacity (capacity : Nat) : ByteVec := ⟨[], capacity, Nat.zero_le _⟩

/-- `resize(capacity, 0)`; the bytes that are there stay. -/
def resizeToCapacity (vec : ByteVec) : ByteVec where
  bytes := vec.bytes ++ List.replicate (vec.capacity - vec.bytes.length) 0
  capacity := vec.capacity
  fits := by
    have := vec.fits
    rw [List.length_append, List.length_replicate]
    omega

def reserve (alloc : Allocator) (additional : Nat) (vec : ByteVec) : ByteVec where
  bytes := vec.bytes
  capacity := alloc.grow vec.capacity vec.bytes.length additional
  fits := by
    have := alloc.enough vec.capacity vec.bytes.length additional
    omega

/-- Write through a slice of the whole vector, which keeps its length. -/
def overwrite (vec : ByteVec) (out : { out : List UInt8 // out.length = vec.bytes.length }) :
    ByteVec where
  bytes := out.1
  capacity := vec.capacity
  fits := by rw [out.2]; exact vec.fits

@[simp] theorem length_resizeToCapacity (vec : ByteVec) :
    vec.resizeToCapacity.bytes.length = vec.capacity := by
  have := vec.fits
  simp only [resizeToCapacity, List.length_append, List.length_replicate]
  omega

@[simp] theorem capacity_resizeToCapacity (vec : ByteVec) :
    vec.resizeToCapacity.capacity = vec.capacity := rfl

end ByteVec

inductive ToSliceError (ε : Type) where
  | serializeBufferFull
  | other (error : ε)

/-- postcard for one type of messages. `toSlice` gives the length of the encoding and
the buffer as it leaves it, also when it fails. -/
structure Format (M ε : Type) where
  encode : M → List UInt8
  toSlice : M → (buf : List UInt8) →
    Except (ToSliceError ε) Nat × { out : List UInt8 // out.length = buf.length }
  fromBytes : List UInt8 → Except ε M

/-- `to_slice` fills a buffer with room for the encoding, and needs the room. -/
structure Format.Fills (format : Format M ε) (msg : M) : Prop where
  slice : ∀ buf, (format.encode msg).length ≤ buf.length →
    (format.toSlice msg buf).1 = .ok (format.encode msg).length ∧
      (format.toSlice msg buf).2.1.take (format.encode msg).length = format.encode msg
  full : ∀ buf, buf.length < (format.encode msg).length →
    (format.toSlice msg buf).1 = .error .serializeBufferFull

/-- What the frames rely on for a message. -/
structure Format.Faithful (format : Format M ε) (msg : M) : Prop extends format.Fills msg where
  nonempty : format.encode msg ≠ []
  decodes : format.fromBytes (format.encode msg) = .ok msg

/-- How `Write::write_all` ends: it fails after some bytes, but not after all of them. -/
inductive WriteAll where
  | ok
  | failed (accepted : Nat)
deriving DecidableEq

/-- The bytes of the buffer that the sink has accepted. -/
def WriteAll.accepted (buf : List UInt8) : WriteAll → List UInt8
  | .ok => buf
  | .failed n => buf.take (min n (buf.length - 1))

/-- A body behind its length. -/
def frame (body : List UInt8) : List UInt8 := FrameWriter.u32ToLe body.length ++ body

/-- `inner` is what the sink has accepted so far. -/
structure BufferedWriter where
  inner : List UInt8
  bodyBuf : ByteVec
  frameBuf : List UInt8

namespace BufferedWriter

def new : BufferedWriter where
  inner := []
  bodyBuf := .withCapacity 256
  frameBuf := []

variable (format : Format M ε) (alloc : Allocator)

/-- The loop of `serialize_body`; `none` after more than `fuel` turns. -/
def serializeBody (msg : M) :
    Nat → BufferedWriter → Option (Except (FrameError ε) Nat × BufferedWriter)
  | 0, _ => none
  | fuel + 1, writer =>
      let cap := writer.bodyBuf.capacity
      let body := writer.bodyBuf.resizeToCapacity
      let (result, out) := format.toSlice msg body.bytes
      let written := { writer with bodyBuf := body.overwrite out }
      match result with
      | .ok len => some (.ok len, written)
      | .error .serializeBufferFull =>
          serializeBody msg fuel
            { written with bodyBuf := written.bodyBuf.reserve alloc (max cap 256) }
      | .error (.other error) => some (.error (.decode error), written)

def writeFrame (fuel : Nat) (outcome : WriteAll) (msg : M) (writer : BufferedWriter) :
    Option (Except (FrameError ε) PUnit.{1} × BufferedWriter) :=
  (serializeBody format alloc msg fuel writer).map fun
    | (.error error, writer) => (.error error, writer)
    | (.ok bodyLen, writer) =>
        if maxFrameBytes < bodyLen then (.error (.oversized bodyLen), writer)
        else
          let frameBuf := FrameWriter.u32ToLe bodyLen ++ writer.bodyBuf.bytes.take bodyLen
          let writer := { writer with frameBuf, inner := writer.inner ++ outcome.accepted frameBuf }
          match outcome with
          | .ok => (.ok ⟨⟩, writer)
          | .failed _ => (.error .io, writer)

/-- One write after another, on a sink that accepts them. -/
def writeEach (fuel : Nat) (msgs : List M) (writer : BufferedWriter) : Option BufferedWriter :=
  msgs.foldlM (fun writer msg => (writeFrame format alloc fuel .ok msg writer).map (·.2)) writer

variable {format} {msg : M} {writer : BufferedWriter}

/-- A buffer with room for the encoding ends the loop in its next turn. -/
theorem serializeBody_fits (fills : format.Fills msg)
    (fits : (format.encode msg).length ≤ writer.bodyBuf.capacity) (fuel : Nat) :
    ∃ next, serializeBody format alloc msg (fuel + 1) writer =
        some (.ok (format.encode msg).length, next) ∧ next.inner = writer.inner ∧
      next.bodyBuf.bytes.take (format.encode msg).length = format.encode msg := by
  have room : (format.encode msg).length ≤ writer.bodyBuf.resizeToCapacity.bytes.length := by
    rw [ByteVec.length_resizeToCapacity]
    exact fits
  obtain ⟨slice, front⟩ := fills.slice _ room
  simp only [serializeBody, slice]
  exact ⟨_, rfl, rfl, front⟩

/-- The loop ends: a turn that finds the buffer full leaves it 256 bytes larger. -/
theorem serializeBody_ends (fills : format.Fills msg) (fuel : Nat)
    (enough : (format.encode msg).length ≤ writer.bodyBuf.capacity + 256 * fuel) :
    ∃ next, serializeBody format alloc msg (fuel + 1) writer =
        some (.ok (format.encode msg).length, next) ∧ next.inner = writer.inner ∧
      next.bodyBuf.bytes.take (format.encode msg).length = format.encode msg := by
  induction fuel generalizing writer with
  | zero => exact serializeBody_fits alloc fills (by omega) 0
  | succ fuel ih =>
      by_cases fits : (format.encode msg).length ≤ writer.bodyBuf.capacity
      · exact serializeBody_fits alloc fills fits (fuel + 1)
      · have short : writer.bodyBuf.resizeToCapacity.bytes.length < (format.encode msg).length := by
          rw [ByteVec.length_resizeToCapacity]
          omega
        have full := fills.full _ short
        rw [serializeBody]
        simp only [full]
        generalize grown : ({ writer with bodyBuf := _ } : BufferedWriter) = larger
        have same : larger.inner = writer.inner := by rw [← grown]
        rw [← same]
        apply ih
        have reserved := alloc.enough writer.bodyBuf.capacity writer.bodyBuf.capacity
          (max writer.bodyBuf.capacity 256)
        have capacity : larger.bodyBuf.capacity = alloc.grow writer.bodyBuf.capacity
            writer.bodyBuf.capacity (max writer.bodyBuf.capacity 256) := by
          rw [← grown]
          have length := (format.toSlice msg writer.bodyBuf.resizeToCapacity.bytes).2.2.trans
            (ByteVec.length_resizeToCapacity _)
          simp only [ByteVec.reserve, ByteVec.overwrite, ByteVec.capacity_resizeToCapacity, length]
        omega

/-- What a write of a frame puts on the sink, whatever earlier messages have left in
the buffers. -/
theorem writeFrame_spec (fills : format.Fills msg) {fuel : Nat}
    (enough : (format.encode msg).length ≤ 256 * fuel) (outcome : WriteAll)
    (writer : BufferedWriter) :
    ∃ next, writeFrame format alloc (fuel + 1) outcome msg writer = some next ∧
      if maxFrameBytes < (format.encode msg).length then
        next.1 = .error (.oversized (format.encode msg).length) ∧ next.2.inner = writer.inner
      else
        next.1 = (if outcome = .ok then .ok ⟨⟩ else .error .io) ∧
          next.2.inner = writer.inner ++ outcome.accepted (frame (format.encode msg)) := by
  have room : (format.encode msg).length ≤ writer.bodyBuf.capacity + 256 * fuel := by omega
  obtain ⟨serialized, ended, kept, front⟩ := serializeBody_ends alloc fills fuel room
  simp only [writeFrame, ended, Option.map_some]
  by_cases oversized : maxFrameBytes < (format.encode msg).length
  · simp only [oversized, ↓reduceIte]
    exact ⟨_, rfl, rfl, kept⟩
  · simp only [oversized, ↓reduceIte, front, kept]
    cases outcome with
    | ok => exact ⟨_, rfl, rfl, rfl⟩
    | failed accepted => exact ⟨_, rfl, rfl, rfl⟩

end BufferedWriter

/-- The messages that fit into a frame. -/
def Format.accepted (format : Format M ε) (msgs : List M) : List M :=
  msgs.filter fun msg => (format.encode msg).length ≤ maxFrameBytes

/-- The frames of the messages that fit. -/
def Format.frames (format : Format M ε) (msgs : List M) : List UInt8 :=
  (format.accepted msgs).flatMap fun msg => frame (format.encode msg)

namespace BufferedWriter

variable {format : Format M ε} (alloc : Allocator)

/-- What a run of writes puts on the sink. -/
theorem writeEach_spec {msgs : List M} (fills : ∀ msg ∈ msgs, format.Fills msg) {fuel : Nat}
    (enough : ∀ msg ∈ msgs, (format.encode msg).length ≤ 256 * fuel) (writer : BufferedWriter) :
    ∃ next, writeEach format alloc (fuel + 1) msgs writer = some next ∧
      next.inner = writer.inner ++ format.frames msgs := by
  induction msgs generalizing writer with
  | nil => exact ⟨writer, rfl, (List.append_nil _).symm⟩
  | cons msg rest ih =>
      obtain ⟨written, taken, spec⟩ := writeFrame_spec alloc
        (fills msg List.mem_cons_self) (enough msg List.mem_cons_self) .ok writer
      obtain ⟨next, remaining, appended⟩ := ih
        (fun other member => fills other (List.mem_cons_of_mem _ member))
        (fun other member => enough other (List.mem_cons_of_mem _ member)) written.2
      refine ⟨next, ?_, ?_⟩
      · simp only [writeEach, List.foldlM_cons, taken, Option.map_some]
        exact remaining
      · rw [appended]
        by_cases oversized : maxFrameBytes < (format.encode msg).length
        · rw [if_pos oversized] at spec
          have dropped : format.frames (msg :: rest) = format.frames rest := by
            simp only [Format.frames, Format.accepted, List.filter_cons,
              Nat.not_le.mpr oversized, decide_false, Bool.false_eq_true, ↓reduceIte]
          rw [spec.2, dropped]
        · rw [if_neg oversized] at spec
          have kept : format.frames (msg :: rest) =
              frame (format.encode msg) ++ format.frames rest := by
            simp only [Format.frames, Format.accepted, List.filter_cons,
              Nat.le_of_not_lt oversized, decide_true, ↓reduceIte, List.flatMap_cons]
          rw [spec.2, kept, List.append_assoc]
          rfl

/-- The writer with its buffers does what the writer does that only has a capacity. -/
theorem writeFrame_refines {format : Format ServerMsg String} {msg : ServerMsg}
    (fills : format.Fills msg) {fuel : Nat}
    (enough : (format.encode msg).length ≤ 256 * fuel) (writer : BufferedWriter)
    (plain : FrameWriter) :
    ∃ next, writeFrame format alloc (fuel + 1) .ok msg writer = some next ∧
      next.1 = (plain.writeFrame format.encode msg).1.map (fun _ => ⟨⟩) ∧
      next.2.inner = writer.inner ++ (plain.writeFrame format.encode msg).1.toOption.getD [] := by
  obtain ⟨next, written, spec⟩ := writeFrame_spec alloc fills enough .ok writer
  refine ⟨next, written, ?_⟩
  rw [FrameWriter.writeFrame_fst]
  by_cases oversized : maxFrameBytes < (format.encode msg).length
  · simp only [oversized, ↓reduceIte] at spec ⊢
    exact ⟨spec.1, spec.2.trans (List.append_nil _).symm⟩
  · simp only [oversized, ↓reduceIte] at spec ⊢
    exact spec

end BufferedWriter

section Reading

theorem length_u32ToLe (n : Nat) : (FrameWriter.u32ToLe n).length = 4 := rfl

theorem u32FromLe_toLe {n : Nat} (small : n < 2 ^ 32) :
    u32FromLe (FrameWriter.u32ToLe n) = n := by
  have digits : (FrameWriter.u32ToLe n).map UInt8.toNat =
      [n % 256, n / 256 % 256, n / 65536 % 256, n / 16777216 % 256] := by
    simp [FrameWriter.u32ToLe, List.range_succ]
  rw [u32FromLe, digits]
  simp only [Nat.ofDigits_cons, Nat.ofDigits_nil]
  omega

theorem readExact_append (front rest : List UInt8) :
    readExact front.length (front ++ rest) = (some front, rest) := by
  unfold readExact
  rw [if_pos (by rw [List.length_append]; omega), List.take_left, List.drop_left]

namespace FrameReader

/-- The header of a frame at the front of the stream. -/
theorem readFrameHeader_frame {first : UInt8} {tail rest : List UInt8}
    (fits : (first :: tail).length ≤ maxFrameBytes) (reader : FrameReader)
    (front : reader.inner = frame (first :: tail) ++ rest) :
    @readFrameHeader ε reader =
      (.ok (tail.length + 1, first), ⟨tail ++ rest, reader.inner :: reader.looked⟩) := by
  have small : (first :: tail).length < 2 ^ 32 := by
    unfold maxFrameBytes at fits
    omega
  have prefixed : readExact 4 reader.inner =
      (some (FrameWriter.u32ToLe (first :: tail).length), first :: tail ++ rest) := by
    rw [front, frame, List.append_assoc, ← length_u32ToLe (first :: tail).length,
      readExact_append]
  have one : readExact 1 (first :: tail ++ rest) = (some [first], tail ++ rest) :=
    readExact_append [first] (tail ++ rest)
  rw [List.length_cons] at small fits prefixed
  simp only [readFrameHeader, prefixed, u32FromLe_toLe small, Nat.not_lt.mpr fits, ↓reduceIte,
    one, List.headD_cons]

theorem readBody_frame (first : UInt8) (tail rest : List UInt8) (looked : List (List UInt8)) :
    @readBody ε (tail.length + 1) first ⟨tail ++ rest, looked⟩ =
      (.returned (.ok (first :: tail)), ⟨rest, looked⟩) := by
  simp only [readBody, List.replicate_succ, List.length_replicate, readExact_append]
  cases tail with
  | nil => rfl
  | cons second others => rw [if_pos (by rw [List.length_cons]; omega)]

/-- The frame at the front of the stream is decoded as a whole, and nothing behind it. -/
theorem readMsg_frame (fromBytes : List UInt8 → Except ε M) {body rest : List UInt8}
    (nonempty : body ≠ []) (fits : body.length ≤ maxFrameBytes) (reader : FrameReader)
    (front : reader.inner = frame body ++ rest) :
    ∃ next, reader.readMsg fromBytes = (.returned ((fromBytes body).mapError .decode), next) ∧
      next.inner = rest := by
  obtain ⟨first, tail, rfl⟩ := List.exists_cons_of_ne_nil nonempty
  have read : @readFrame ε reader =
      (.returned (.ok (first :: tail)), ⟨rest, reader.inner :: reader.looked⟩) := by
    simp only [readFrame, readFrameHeader_frame fits reader front, readBody_frame]
  simp only [readMsg, read]
  exact ⟨_, rfl, rfl⟩

theorem readMsg_nil (fromBytes : List UInt8 → Except ε M) (reader : FrameReader)
    (ended : reader.inner = []) :
    (reader.readMsg fromBytes).1 = .returned (.error .closed) := by
  have short : readExact 4 reader.inner = (none, []) := by rw [ended]; rfl
  simp only [readMsg, readFrame, readFrameHeader, short]

/-- The reads give the messages one after another, and then the end of the stream. -/
def Delivers (read : FrameReader → Ended (Except (FrameError ε) M) × FrameReader) :
    FrameReader → List M → Prop
  | reader, [] => (read reader).1 = .returned (.error .closed)
  | reader, msg :: rest =>
      (read reader).1 = .returned (.ok msg) ∧ Delivers read (read reader).2 rest

theorem frames_delivered {format : Format M ε} {msgs : List M}
    (faithful : ∀ msg ∈ msgs, format.Faithful msg) (reader : FrameReader)
    (stream : reader.inner = format.frames msgs) :
    Delivers (readMsg format.fromBytes) reader (format.accepted msgs) := by
  unfold Format.frames at stream
  have each : ∀ msg ∈ format.accepted msgs, format.Faithful msg ∧
      (format.encode msg).length ≤ maxFrameBytes := by
    intro msg member
    obtain ⟨inside, fits⟩ := List.mem_filter.mp member
    exact ⟨faithful msg inside, of_decide_eq_true fits⟩
  generalize format.accepted msgs = accepted at stream each
  induction accepted generalizing reader with
  | nil => exact readMsg_nil format.fromBytes reader stream
  | cons msg rest ih =>
      obtain ⟨⟨_, nonempty, decodes⟩, fits⟩ := each msg List.mem_cons_self
      obtain ⟨next, read, left⟩ :=
        readMsg_frame format.fromBytes nonempty fits reader stream
      rw [decodes] at read
      refine ⟨by rw [read]; rfl, ?_⟩
      rw [read]
      exact ih next left fun other member => each other (List.mem_cons_of_mem _ member)

end FrameReader

end Reading

section Wire

/-- postcard for the two directions of a connection. -/
structure Wire (ε : Type) where
  clientMsg : Format ClientMsg ε
  serverMsg : Format ServerMsg ε

def Wire.postcard (wire : Wire ε) : Postcard ε := ⟨wire.clientMsg.fromBytes, wire.serverMsg.fromBytes⟩

namespace BufferedWriter

variable (wire : Wire ε) (alloc : Allocator) (fuel : Nat)

def writeClient (msg : ClientMsg) (writer : BufferedWriter) :
    Option (Except (FrameError ε) PUnit.{1} × BufferedWriter) :=
  writeFrame wire.clientMsg alloc fuel .ok msg writer

def writeServer (msg : ServerMsg) (writer : BufferedWriter) :
    Option (Except (FrameError ε) PUnit.{1} × BufferedWriter) :=
  writeFrame wire.serverMsg alloc fuel .ok msg writer

end BufferedWriter

/-- One direction of a connection: each write ends, says whether the message was too long
and appends its frame or nothing, from any state of the writer; and a reader gets the
messages that were not too long. `write` and `read` are the two ends. -/
structure RoundTrips (format : Format M ε)
    (write : Nat → M → BufferedWriter →
      Option (Except (FrameError ε) PUnit.{1} × BufferedWriter))
    (read : FrameReader → Ended (Except (FrameError ε) M) × FrameReader) (msgs : List M) :
    Prop where
  each : ∀ msg ∈ msgs, ∀ writer : BufferedWriter, ∃ turns, ∀ fuel, turns ≤ fuel →
    ∃ result next, write fuel msg writer = some (result, next) ∧
      (result = .error (.oversized (format.encode msg).length) ↔
        maxFrameBytes < (format.encode msg).length) ∧
      (result = .ok ⟨⟩ ↔ (format.encode msg).length ≤ maxFrameBytes) ∧
      next.inner = writer.inner ++
        if maxFrameBytes < (format.encode msg).length then [] else frame (format.encode msg)
  stream : ∃ turns, ∀ fuel, turns ≤ fuel → ∃ writer,
    msgs.foldlM (fun writer msg => (write fuel msg writer).map (·.2)) BufferedWriter.new =
        some writer ∧
      writer.inner = format.frames msgs ∧
      FrameReader.Delivers read (FrameReader.new writer.inner) (format.accepted msgs)

theorem roundTrips (format : Format M ε) (alloc : Allocator) {msgs : List M}
    (faithful : ∀ msg ∈ msgs, format.Faithful msg) :
    RoundTrips format (fun fuel => BufferedWriter.writeFrame format alloc fuel .ok)
      (FrameReader.readMsg format.fromBytes) msgs where
  each := by
    intro msg member writer
    refine ⟨(format.encode msg).length + 1, fun fuel turns => ?_⟩
    obtain ⟨fuel, rfl⟩ : ∃ less, fuel = less + 1 := ⟨fuel - 1, by omega⟩
    have enough : (format.encode msg).length ≤ 256 * fuel := by omega
    obtain ⟨⟨result, next⟩, written, spec⟩ :=
      BufferedWriter.writeFrame_spec alloc (faithful msg member).toFills enough .ok writer
    refine ⟨result, next, written, ?_⟩
    by_cases oversized : maxFrameBytes < (format.encode msg).length
    · rw [if_pos oversized] at spec
      obtain ⟨rfl, kept⟩ := spec
      refine ⟨iff_of_true rfl oversized, iff_of_false (fun same => nomatch same) ?_, ?_⟩
      · exact Nat.not_le.mpr oversized
      · rw [if_pos oversized, List.append_nil]
        exact kept
    · rw [if_neg oversized] at spec
      obtain ⟨rfl, appended⟩ := spec
      refine ⟨iff_of_false (fun same => nomatch same) oversized, iff_of_true rfl ?_, ?_⟩
      · exact Nat.le_of_not_lt oversized
      · rw [if_neg oversized]
        exact appended
  stream := by
    refine ⟨((msgs.map fun msg => (format.encode msg).length).sum) + 1, fun fuel turns => ?_⟩
    obtain ⟨fuel, rfl⟩ : ∃ less, fuel = less + 1 := ⟨fuel - 1, by omega⟩
    have enough : ∀ msg ∈ msgs, (format.encode msg).length ≤ 256 * fuel := by
      intro msg member
      have summand := List.single_le_sum (fun _ _ => Nat.zero_le _) _
        (List.mem_map_of_mem (f := fun msg => (format.encode msg).length) member)
      omega
    obtain ⟨writer, ran, inner⟩ :=
      BufferedWriter.writeEach_spec alloc (fun msg member => (faithful msg member).toFills) enough
        .new
    exact ⟨writer, ran, inner, FrameReader.frames_delivered faithful _ inner⟩

/-- What one writer sends in either direction, messages that are too long among them, a
reader gets back: the messages that fit, in their order, and then the end of the stream. -/
theorem frames_round_trip (wire : Wire ε) (alloc : Allocator) :
    (∀ msgs : List ClientMsg, (∀ msg ∈ msgs, wire.clientMsg.Faithful msg) →
      RoundTrips wire.clientMsg (BufferedWriter.writeClient wire alloc)
        (FrameReader.readClient wire.postcard) msgs) ∧
    (∀ msgs : List ServerMsg, (∀ msg ∈ msgs, wire.serverMsg.Faithful msg) →
      RoundTrips wire.serverMsg (BufferedWriter.writeServer wire alloc)
        (FrameReader.readServer wire.postcard) msgs) :=
  ⟨fun _ faithful => roundTrips wire.clientMsg alloc faithful,
    fun _ faithful => roundTrips wire.serverMsg alloc faithful⟩

/-- A format that fills what there is of the buffer. -/
def Format.filling (encode : M → List UInt8) (fromBytes : List UInt8 → Except ε M) :
    Format M ε where
  encode := encode
  fromBytes := fromBytes
  toSlice msg buf :=
    if fits : (encode msg).length ≤ buf.length then
      (.ok (encode msg).length, ⟨encode msg ++ buf.drop (encode msg).length, by
        rw [List.length_append, List.length_drop]
        omega⟩)
    else
      (.error .serializeBufferFull, ⟨(encode msg).take buf.length, by
        rw [List.length_take]
        omega⟩)

theorem Format.filling_fills (encode : M → List UInt8) (fromBytes : List UInt8 → Except ε M)
    (msg : M) : (Format.filling encode fromBytes).Fills msg where
  slice buf fits := by
    simp only [filling] at fits ⊢
    rw [dif_pos fits]
    exact ⟨rfl, List.take_left⟩
  full buf short := by
    simp only [filling] at short ⊢
    rw [dif_neg (Nat.not_le.mpr short)]

theorem Format.filling_faithful {encode : M → List UInt8} {fromBytes : List UInt8 → Except ε M}
    {msg : M} (nonempty : encode msg ≠ []) (decodes : fromBytes (encode msg) = .ok msg) :
    (Format.filling encode fromBytes).Faithful msg where
  toFills := Format.filling_fills encode fromBytes msg
  nonempty := nonempty
  decodes := decodes

/-- A `Bye` whose reason is that many letters. -/
def byeOf (letters : Nat) : ServerMsg := .bye (String.ofList (List.replicate letters 'x'))

/-- The messages without fields, and `Bye` with a reason in ASCII. -/
def farewells : Wire String where
  clientMsg := .filling
    (fun
      | .listSensors => [1]
      | .goodbye => [4]
      | _ => [0])
    (fun
      | [1] => .ok .listSensors
      | [4] => .ok .goodbye
      | _ => .error "unexpected variant")
  serverMsg := .filling
    (fun
      | .bye reason =>
          4 :: (Varint.encode reason.toList.length ++
            reason.toList.map fun c => UInt8.ofNat c.toNat)
      | _ => [0])
    (fun
      | 4 :: rest =>
          .ok (.bye (String.ofList (((rest.dropWhile (128 ≤ ·)).drop 1).map fun b =>
            Char.ofNat b.toNat)))
      | _ => .error "unexpected variant")

theorem farewells_faithful {letters : Nat}
    (length : ∃ last, last < 128 ∧ ∃ more, (∀ b ∈ more, 128 ≤ b) ∧
      Varint.encode letters = more ++ [last]) :
    farewells.serverMsg.Faithful (byeOf letters) := by
  refine Format.filling_faithful (by exact List.cons_ne_nil _ _) ?_
  obtain ⟨last, small, more, large, encoded⟩ := length
  have skipped : (more ++ [last] ++ List.replicate letters (UInt8.ofNat 'x'.toNat)).dropWhile
      (128 ≤ ·) = last :: List.replicate letters (UInt8.ofNat 'x'.toNat) := by
    rw [List.append_assoc,
      List.dropWhile_append_of_pos fun b member => by simpa using large b member]
    exact List.dropWhile_cons_of_neg (by simpa using small)
  simp only [byeOf, String.toList_ofList, List.length_replicate, List.map_replicate, encoded,
    skipped, List.drop_succ_cons, List.drop_zero]
  rfl

/-- A message of a frame's size and more between others. -/
theorem frames_round_trip_long :
    RoundTrips farewells.clientMsg
      (BufferedWriter.writeClient farewells ⟨fun _ len more => len + more, fun _ _ _ => le_rfl⟩)
      (FrameReader.readClient farewells.postcard) [.listSensors, .goodbye] ∧
    RoundTrips farewells.serverMsg
      (BufferedWriter.writeServer farewells ⟨fun _ len more => len + more, fun _ _ _ => le_rfl⟩)
      (FrameReader.readServer farewells.postcard) [byeOf 1000, byeOf 1048576, byeOf 3] := by
  refine ⟨(frames_round_trip farewells _).1 _ ?_, (frames_round_trip farewells _).2 _ ?_⟩
  · intro msg member
    rcases List.mem_pair.mp member with rfl | rfl
    · exact Format.filling_faithful (List.cons_ne_nil _ _) rfl
    · exact Format.filling_faithful (List.cons_ne_nil _ _) rfl
  · intro msg member
    simp only [List.mem_cons, List.not_mem_nil, or_false] at member
    rcases member with rfl | rfl | rfl
    · exact farewells_faithful ⟨7, by decide, [232], by simp, by decide +kernel⟩
    · exact farewells_faithful ⟨64, by decide, [128, 128], by simp, by decide +kernel⟩
    · exact farewells_faithful ⟨3, by decide, [], by simp, by decide +kernel⟩

end Wire

end LinSight
