import LinSight.Library.Run
import LinSight.Protocol.Messages

set_option autoImplicit false

/-! Length-prefixed frames read from a byte stream. The decoder of a frame's body
is a parameter, with an error type of its own. -/

namespace LinSight

variable {ε α : Type}

def maxFrameBytes : Nat := 2 ^ 20

inductive FrameError (ε : Type) where
  /-- The stream ended inside a body. -/
  | io
  | decode (error : ε)
  | oversized (bytes : Nat)
  | closed

inductive ResponseReadError (ε : Type) where
  | frame (error : FrameError ε)
  | server (error : ProtoError)
  | bye (reason : String)

/-- How a call ends: it unwinds the thread, or it returns. -/
inductive Ended (α : Type) where
  | panicked
  | returned (result : α)

/-- `u32::from_le_bytes` of four bytes. -/
def u32FromLe (bytes : List UInt8) : Nat := Nat.ofDigits 256 (bytes.map UInt8.toNat)

/-- `Read::read_exact` on a stream that holds `inner`; too short a stream is used up. -/
def readExact (count : Nat) (inner : List UInt8) : Option (List UInt8) × List UInt8 :=
  if count ≤ inner.length then (some (inner.take count), inner.drop count) else (none, [])

theorem readExact_rest (count : Nat) (inner : List UInt8) :
    (readExact count inner).2 = inner.drop count := by
  unfold readExact
  split
  · rfl
  · rename_i short
    exact (List.drop_eq_nil_of_le (by omega)).symm

/-- A reader over what is left of its stream. `looked` records, newest first, what
was left each time a length prefix was looked for; no function reads it. -/
structure FrameReader where
  inner : List UInt8
  looked : List (List UInt8)
deriving DecidableEq

/-- The decoders of the two directions. -/
structure Postcard (ε : Type) where
  clientMsg : List UInt8 → Except ε ClientMsg
  serverMsg : List UInt8 → Except ε ServerMsg

namespace FrameReader

def new (stream : List UInt8) : FrameReader := ⟨stream, []⟩

/-- The length prefix and the first body byte. -/
def readFrameHeader (reader : FrameReader) : Except (FrameError ε) (Nat × UInt8) × FrameReader :=
  let looked := reader.inner :: reader.looked
  match readExact 4 reader.inner with
  | (none, rest) => (.error .closed, ⟨rest, looked⟩)
  | (some lenBuf, rest) =>
      let len := u32FromLe lenBuf
      if maxFrameBytes < len then
        (.error (.oversized len), ⟨rest, looked⟩)
      else
        match readExact 1 rest with
        | (none, rest) => (.error .closed, ⟨rest, looked⟩)
        | (some first, rest) => (.ok (len, first.headD 0), ⟨rest, looked⟩)

/-- A buffer of `len` bytes whose first is set and whose others are read. -/
def readBody (len : Nat) (first : UInt8) (reader : FrameReader) :
    Ended (Except (FrameError ε) (List UInt8)) × FrameReader :=
  match List.replicate len (0 : UInt8) with
  | [] => (.panicked, reader) -- `body[0] = first` indexes an empty vector
  | _ :: tail =>
      if 1 < len then
        match readExact tail.length reader.inner with
        | (none, rest) => (.returned (.error .io), { reader with inner := rest })
        | (some bytes, rest) => (.returned (.ok (first :: bytes)), { reader with inner := rest })
      else
        (.returned (.ok (first :: tail)), reader)

def readFrame (reader : FrameReader) :
    Ended (Except (FrameError ε) (List UInt8)) × FrameReader :=
  match reader.readFrameHeader with
  | (.error error, next) => (.returned (.error error), next)
  | (.ok (len, first), next) => next.readBody len first

/-- A whole frame through a decoder. -/
def readMsg (fromBytes : List UInt8 → Except ε α) (reader : FrameReader) :
    Ended (Except (FrameError ε) α) × FrameReader :=
  match reader.readFrame with
  | (.panicked, next) => (.panicked, next)
  | (.returned (.error error), next) => (.returned (.error error), next)
  | (.returned (.ok bytes), next) => (.returned ((fromBytes bytes).mapError .decode), next)

def readClient (postcard : Postcard ε) (reader : FrameReader) :
    Ended (Except (FrameError ε) ClientMsg) × FrameReader :=
  reader.readMsg postcard.clientMsg

def readServer (postcard : Postcard ε) (reader : FrameReader) :
    Ended (Except (FrameError ε) ServerMsg) × FrameReader :=
  reader.readMsg postcard.serverMsg

/-- The size of the buffer that skipped bytes are read into. -/
def discardBytes : Nat := 1024

def skipFrameBody (remaining : Nat) (reader : FrameReader) :
    Except (FrameError ε) PUnit.{1} × FrameReader :=
  if remaining = 0 then
    (.ok ⟨⟩, reader)
  else
    let count := min remaining discardBytes
    match readExact count reader.inner with
    | (none, rest) => (.error .io, { reader with inner := rest })
    | (some _, rest) => skipFrameBody (remaining - count) { reader with inner := rest }
termination_by remaining
decreasing_by
  have positive : 0 < min remaining discardBytes := by
    unfold discardBytes
    omega
  omega

/-- How a turn of the response loop ends. -/
inductive Turn (ε : Type) where
  | again
  | finished (result : Except (ResponseReadError ε) ResponsePayload)

def byeVariant : UInt8 := 4
def responseVariant : UInt8 := 5

def answerTo (reqId : Nat) : ServerMsg → Turn ε
  | .response rid (.ok payload) => if rid = reqId then .finished (.ok payload) else .again
  | .response rid (.error error) =>
      if rid = reqId then .finished (.error (.server error)) else .again
  | _ => .again

def farewell : ServerMsg → Turn ε
  | .bye reason => .finished (.error (.bye reason))
  | _ => .again

/-- Read the rest of a frame that is decoded and let `interpret` see the message. -/
def decodedTurn (postcard : Postcard ε) (interpret : ServerMsg → Turn ε) (len : Nat)
    (first : UInt8) (reader : FrameReader) : Ended (Turn ε) × FrameReader :=
  match reader.readBody len first with
  | (.panicked, next) => (.panicked, next)
  | (.returned (.error error), next) => (.returned (.finished (.error (.frame error))), next)
  | (.returned (.ok body), next) =>
      match postcard.serverMsg body with
      | .error error => (.returned (.finished (.error (.frame (.decode error)))), next)
      | .ok msg => (.returned (interpret msg), next)

/-- Skip the rest of a frame that is not decoded. -/
def skippedTurn (len : Nat) (reader : FrameReader) : Ended (Turn ε) × FrameReader :=
  if 1 < len then
    match reader.skipFrameBody (len - 1) with
    | (.error error, next) => (.returned (.finished (.error (.frame error))), next)
    | (.ok _, next) => (.returned .again, next)
  else
    (.returned .again, reader)

/-- One turn of the loop of `readServerResponse`. -/
def responseTurn (postcard : Postcard ε) (reqId : Nat) (reader : FrameReader) :
    Ended (Turn ε) × FrameReader :=
  match reader.readFrameHeader with
  | (.error error, next) => (.returned (.finished (.error (.frame error))), next)
  | (.ok (len, first), next) =>
      if first = responseVariant then next.decodedTurn postcard (answerTo reqId) len first
      else if first = byeVariant then next.decodedTurn postcard farewell len first
      else next.skippedTurn len

/-- What a length prefix at the start of `start` announces. -/
def announced (start : List UInt8) : Option Nat :=
  if 4 ≤ start.length then some (u32FromLe (start.take 4)) else none

/-- Where the next length prefix is looked for. -/
def nextStart (start : List UInt8) : List UInt8 :=
  match announced start with
  | none => []
  | some len => if len ≤ maxFrameBytes then start.drop (4 + len) else start.drop 4

/-- A frame without a body, and a byte behind it. -/
def EmptyFrame (start : List UInt8) : Prop := announced start = some 0 ∧ 4 < start.length

instance (start : List UInt8) : Decidable (EmptyFrame start) :=
  inferInstanceAs (Decidable (_ ∧ _))

/-- The frame at the front is over and the next prefix has not been looked for. -/
def advanced (reader : FrameReader) : FrameReader :=
  ⟨nextStart reader.inner, reader.inner :: reader.looked⟩

/-- The prefix and the first body byte are read. -/
def opened (reader : FrameReader) : FrameReader :=
  ⟨reader.inner.drop 5, reader.inner :: reader.looked⟩

variable {reader : FrameReader}

/-- A header is read in front of a body that may be long enough, or the whole frame is over. -/
theorem readFrameHeader_cases (reader : FrameReader) :
    (∃ len first, @readFrameHeader ε reader = (.ok (len, first), reader.opened) ∧
      announced reader.inner = some len ∧ len ≤ maxFrameBytes ∧ 4 < reader.inner.length) ∨
    (∃ error, @readFrameHeader ε reader = (.error error, reader.advanced) ∧
      ¬ EmptyFrame reader.inner) := by
  by_cases prefixed : 4 ≤ reader.inner.length
  · have announces : announced reader.inner = some (u32FromLe (reader.inner.take 4)) :=
      if_pos prefixed
    have read : readExact 4 reader.inner =
        (some (reader.inner.take 4), reader.inner.drop 4) := if_pos prefixed
    by_cases oversized : maxFrameBytes < u32FromLe (reader.inner.take 4)
    · refine Or.inr ⟨.oversized (u32FromLe (reader.inner.take 4)), ?_, ?_⟩
      · simp only [readFrameHeader, read, oversized, ↓reduceIte, advanced, nextStart, announces,
          Nat.not_le.mpr oversized]
      · rintro ⟨empty, _⟩
        rw [announces] at empty
        have zero := Option.some.inj empty
        omega
    · have fits : u32FromLe (reader.inner.take 4) ≤ maxFrameBytes := Nat.le_of_not_lt oversized
      by_cases long : 4 < reader.inner.length
      · left
        have one : readExact 1 (reader.inner.drop 4) =
            (some ((reader.inner.drop 4).take 1), (reader.inner.drop 4).drop 1) := by
          apply if_pos
          rw [List.length_drop]
          omega
        refine ⟨_, ((reader.inner.drop 4).take 1).headD 0, ?_, announces, fits, long⟩
        simp only [readFrameHeader, read, oversized, ↓reduceIte, one, List.drop_drop, opened]
      · right
        have one : readExact 1 (reader.inner.drop 4) = (none, []) := by
          apply if_neg
          rw [List.length_drop]
          omega
        have ended : reader.inner.drop (4 + u32FromLe (reader.inner.take 4)) = [] :=
          List.drop_eq_nil_of_le (by omega)
        refine ⟨.closed, ?_, fun empty => long empty.2⟩
        simp only [readFrameHeader, read, oversized, ↓reduceIte, one, advanced, nextStart,
          announces, fits, ↓reduceIte, ended]
  · right
    have read : readExact 4 reader.inner = (none, []) := if_neg prefixed
    have silent : announced reader.inner = none := if_neg prefixed
    refine ⟨.closed, ?_, fun empty => ?_⟩
    · simp only [readFrameHeader, read, advanced, nextStart, silent]
    · rw [EmptyFrame, silent] at empty
      cases empty.1

/-- Reading the rest of the body ends where the frame ends. -/
theorem readBody_of_pos {len : Nat} (positive : 0 < len) (first : UInt8) (reader : FrameReader) :
    ∃ result, @readBody ε len first reader =
      (.returned result, { reader with inner := reader.inner.drop (len - 1) }) := by
  obtain ⟨rest, rfl⟩ : ∃ rest, len = rest + 1 := ⟨len - 1, by omega⟩
  simp only [readBody, List.replicate_succ, List.length_replicate, Nat.add_sub_cancel]
  split
  · rw [← readExact_rest rest reader.inner]
    cases readExact rest reader.inner with
    | mk bytes left => cases bytes <;> exact ⟨_, rfl⟩
  · have none_left : rest = 0 := by omega
    subst none_left
    exact ⟨_, rfl⟩

theorem readBody_length (len : Nat) (first : UInt8) (reader : FrameReader) :
    (@readBody ε len first reader).2.inner.length ≤ reader.inner.length := by
  rcases Nat.eq_zero_or_pos len with empty | positive
  · subst empty
    exact Nat.le_refl _
  · obtain ⟨result, body⟩ := @readBody_of_pos ε len positive first reader
    simp only [body, List.length_drop]
    omega

theorem skipFrameBody_rest (remaining : Nat) (reader : FrameReader) :
    (@skipFrameBody ε remaining reader).2 =
      { reader with inner := reader.inner.drop remaining } := by
  fun_induction skipFrameBody remaining reader with
  | case1 reader => rfl
  | case2 remaining reader more count rest failed =>
      have short : reader.inner.length < count := by
        by_contra long
        rw [readExact, if_pos (Nat.le_of_not_lt long)] at failed
        cases failed
      have used : rest = [] := by
        rw [readExact, if_neg (Nat.not_le.mpr short)] at failed
        exact (congrArg Prod.snd failed).symm
      have within : count ≤ remaining := Nat.min_le_left _ _
      rw [used, List.drop_eq_nil_of_le (by omega : reader.inner.length ≤ remaining)]
  | case3 remaining reader more count bytes rest read ih =>
      have within : count ≤ remaining := Nat.min_le_left _ _
      have left : rest = reader.inner.drop count := by
        rw [← readExact_rest, read]
      rw [ih, left, List.drop_drop, Nat.add_sub_cancel' within]

/-- An opened frame whose other bytes are read is over. -/
theorem opened_rest {len : Nat} (announces : announced reader.inner = some len)
    (fits : len ≤ maxFrameBytes) (positive : 0 < len) :
    { reader.opened with inner := reader.opened.inner.drop (len - 1) } = reader.advanced := by
  have sum : 5 + (len - 1) = 4 + len := by omega
  simp only [opened, advanced, nextStart, announces, fits, ↓reduceIte, List.drop_drop, sum]

/-- Without an empty frame in front, a header of a frame with a body is read, or the
frame is over. -/
theorem readFrameHeader_filled (filled : ¬ EmptyFrame reader.inner) :
    (∃ len first, @readFrameHeader ε reader = (.ok (len, first), reader.opened) ∧ 0 < len ∧
      { reader.opened with inner := reader.opened.inner.drop (len - 1) } = reader.advanced) ∨
    (∃ error, @readFrameHeader ε reader = (.error error, reader.advanced)) := by
  rcases @readFrameHeader_cases ε reader with
    ⟨len, first, header, announces, fits, long⟩ | ⟨error, header, _⟩
  · left
    have positive : 0 < len := by
      apply Nat.pos_of_ne_zero
      rintro rfl
      exact filled ⟨announces, long⟩
    exact ⟨len, first, header, positive, opened_rest announces fits positive⟩
  · exact Or.inr ⟨error, header⟩

/-- Without an empty frame in front, a read of a message ends where the frame ends. -/
theorem readMsg_filled (fromBytes : List UInt8 → Except ε α)
    (filled : ¬ EmptyFrame reader.inner) :
    ∃ result, reader.readMsg fromBytes = (.returned result, reader.advanced) := by
  rcases @readFrameHeader_filled ε reader filled with
    ⟨len, first, header, positive, whole⟩ | ⟨error, header⟩
  · obtain ⟨result, body⟩ := @readBody_of_pos ε len positive first reader.opened
    rw [whole] at body
    cases result with
    | error error => exact ⟨.error error, by simp only [readMsg, readFrame, header, body]⟩
    | ok bytes => exact ⟨_, by simp only [readMsg, readFrame, header, body]; rfl⟩
  · exact ⟨.error error, by simp only [readMsg, readFrame, header]⟩

/-- An empty frame in front makes a read of a message panic. -/
theorem readMsg_empty (fromBytes : List UInt8 → Except ε α) (empty : EmptyFrame reader.inner) :
    (reader.readMsg fromBytes).1 = .panicked := by
  rcases @readFrameHeader_cases ε reader with
    ⟨len, first, header, announces, _, _⟩ | ⟨error, _, filled⟩
  · rw [empty.1] at announces
    cases announces
    simp only [readMsg, readFrame, header, readBody, List.replicate_zero]
  · exact absurd empty filled

theorem skippedTurn_rest {len : Nat} (positive : 0 < len) (reader : FrameReader) :
    ∃ turn, @skippedTurn ε len reader =
      (.returned turn, { reader with inner := reader.inner.drop (len - 1) }) := by
  have rest := @skipFrameBody_rest ε (len - 1) reader
  unfold skippedTurn
  split
  · cases skips : @skipFrameBody ε (len - 1) reader with
    | mk result next =>
        rw [skips] at rest
        subst rest
        cases result <;> exact ⟨_, rfl⟩
  · have single : len - 1 = 0 := by omega
    exact ⟨.again, by rw [single, List.drop_zero]⟩

theorem skippedTurn_length (len : Nat) (reader : FrameReader) :
    (@skippedTurn ε len reader).2.inner.length ≤ reader.inner.length := by
  rcases Nat.eq_zero_or_pos len with empty | positive
  · subst empty
    exact Nat.le_refl _
  · obtain ⟨turn, skips⟩ := @skippedTurn_rest ε len positive reader
    simp only [skips, List.length_drop]
    omega

theorem decodedTurn_reader (postcard : Postcard ε) (interpret : ServerMsg → Turn ε) (len : Nat)
    (first : UInt8) (reader : FrameReader) :
    (reader.decodedTurn postcard interpret len first).2 = (@readBody ε len first reader).2 := by
  unfold decodedTurn
  cases readBody len first reader with
  | mk ended next =>
      cases ended with
      | panicked => rfl
      | returned result =>
          cases result with
          | error error => rfl
          | ok body => cases read : postcard.serverMsg body <;> simp only [read]

/-- Without an empty frame in front, a turn of the response loop ends where the frame ends. -/
theorem responseTurn_filled (postcard : Postcard ε) (reqId : Nat)
    (filled : ¬ EmptyFrame reader.inner) :
    ∃ turn, reader.responseTurn postcard reqId = (.returned turn, reader.advanced) := by
  rcases @readFrameHeader_filled ε reader filled with
    ⟨len, first, header, positive, whole⟩ | ⟨error, header⟩
  · have decoded : ∀ interpret, ∃ turn,
        reader.opened.decodedTurn postcard interpret len first =
          (.returned turn, reader.advanced) := by
      intro interpret
      obtain ⟨result, body⟩ := @readBody_of_pos ε len positive first reader.opened
      rw [whole] at body
      cases result with
      | error error => exact ⟨_, by simp only [decodedTurn, body]; rfl⟩
      | ok bytes =>
          cases read : postcard.serverMsg bytes with
          | error error => exact ⟨_, by simp only [decodedTurn, body, read]; rfl⟩
          | ok msg => exact ⟨_, by simp only [decodedTurn, body, read]; rfl⟩
    have skipped : ∃ turn, @skippedTurn ε len reader.opened =
        (.returned turn, reader.advanced) := by
      obtain ⟨turn, skips⟩ := skippedTurn_rest positive reader.opened
      exact ⟨turn, whole ▸ skips⟩
    simp only [responseTurn, header]
    split
    · exact decoded _
    · split
      · exact decoded _
      · exact skipped
  · exact ⟨_, by simp only [responseTurn, header]; rfl⟩

/-- A turn that goes on has read a header, and no turn gives bytes back. -/
theorem responseTurn_shrinks {postcard : Postcard ε} {reqId : Nat} {next : FrameReader}
    (taken : reader.responseTurn postcard reqId = (.returned .again, next)) :
    next.inner.length < reader.inner.length := by
  rcases @readFrameHeader_cases ε reader with
    ⟨len, first, header, _, _, long⟩ | ⟨error, header, _⟩
  · have shorter : reader.opened.inner.length < reader.inner.length := by
      simp only [opened, List.length_drop]
      omega
    have decoded : ∀ interpret,
        (reader.opened.decodedTurn postcard interpret len first).2.inner.length ≤
          reader.opened.inner.length := by
      intro interpret
      rw [decodedTurn_reader]
      exact readBody_length len first reader.opened
    have skipped := @skippedTurn_length ε len reader.opened
    have left : (reader.responseTurn postcard reqId).2.inner.length ≤
        reader.opened.inner.length := by
      simp only [responseTurn, header]
      split
      · exact decoded _
      · split
        · exact decoded _
        · exact skipped
    rw [taken] at left
    exact Nat.lt_of_le_of_lt left shorter
  · simp only [responseTurn, header] at taken
    cases taken

/-- Turns until one of them finishes. -/
def readServerResponse (postcard : Postcard ε) (reqId : Nat) (reader : FrameReader) :
    Ended (Except (ResponseReadError ε) ResponsePayload) × FrameReader :=
  match taken : reader.responseTurn postcard reqId with
  | (.panicked, next) => (.panicked, next)
  | (.returned (.finished result), next) => (.returned result, next)
  | (.returned .again, next) =>
      have _shorter := responseTurn_shrinks taken
      readServerResponse postcard reqId next
termination_by reader.inner.length

theorem readServerResponse_again {postcard : Postcard ε} {reqId : Nat} {next : FrameReader}
    (taken : reader.responseTurn postcard reqId = (.returned .again, next)) :
    reader.readServerResponse postcard reqId = next.readServerResponse postcard reqId := by
  rw [readServerResponse]
  split <;> simp_all

theorem readServerResponse_finished {postcard : Postcard ε} {reqId : Nat} {next : FrameReader}
    {result : Except (ResponseReadError ε) ResponsePayload}
    (taken : reader.responseTurn postcard reqId = (.returned (.finished result), next)) :
    reader.readServerResponse postcard reqId = (.returned result, next) := by
  rw [readServerResponse]
  split <;> simp_all

/-- Where no frame in front is empty and the end of a frame keeps `inv`, the
response loop returns. -/
theorem readServerResponse_invariant (postcard : Postcard ε) (reqId : Nat)
    (inv : FrameReader → Prop) (filled : ∀ reader, inv reader → ¬ EmptyFrame reader.inner)
    (kept : ∀ reader, inv reader → inv reader.advanced) (reader : FrameReader)
    (initial : inv reader) :
    ∃ result next, reader.readServerResponse postcard reqId = (.returned result, next) ∧
      inv next := by
  induction left : reader.inner.length using Nat.strongRecOn generalizing reader with
  | ind length ih =>
      obtain ⟨turn, taken⟩ := responseTurn_filled postcard reqId (filled reader initial)
      have advances := kept reader initial
      cases turn with
      | finished result =>
          exact ⟨result, reader.advanced, readServerResponse_finished taken, advances⟩
      | again =>
          rw [readServerResponse_again taken]
          have shorter := responseTurn_shrinks taken
          exact ih _ (left ▸ shorter) reader.advanced advances rfl

/-- A call on the reader, of one of its three read functions. -/
inductive Call where
  | readClient
  | readServer
  | readServerResponse (reqId : Nat)
deriving DecidableEq

/-- The reader after a call that returns; `none` when the call panics. -/
def afterCall (ended : Ended α × FrameReader) : Option FrameReader :=
  match ended with
  | (.panicked, _) => none
  | (.returned _, next) => some next

def step (postcard : Postcard ε) (reader : FrameReader) : Call → Option FrameReader
  | .readClient => afterCall (reader.readClient postcard)
  | .readServer => afterCall (reader.readServer postcard)
  | .readServerResponse reqId => afterCall (reader.readServerResponse postcard reqId)

/-- Where the `count`-th frame of the stream starts. -/
def frameStart (stream : List UInt8) (count : Nat) : List UInt8 := nextStart^[count] stream

/-- From one look for a length prefix to the next, a frame that is not too long is
consumed with its prefix and nothing else. -/
def ConsumesFrame (next start : List UInt8) : Prop :=
  ∀ len, announced start = some len → len ≤ maxFrameBytes → next = start.drop (4 + len)

/-- Every frame so far was consumed, from look to look and up to where the reader is. -/
def Aligned (reader : FrameReader) : Prop :=
  (reader.inner :: reader.looked).IsChain ConsumesFrame

/-- The reader is at the start of a frame of the stream. -/
structure AtFrame (stream : List UInt8) (reader : FrameReader) : Prop where
  start : ∃ count, reader.inner = frameStart stream count
  aligned : reader.Aligned

theorem consumesFrame_nextStart (start : List UInt8) : ConsumesFrame (nextStart start) start := by
  intro len announces fits
  simp only [nextStart, announces, fits, ↓reduceIte]

variable {stream : List UInt8} {postcard : Postcard ε}

theorem AtFrame.new (stream : List UInt8) : AtFrame stream (new stream) :=
  ⟨⟨0, rfl⟩, List.IsChain.singleton _⟩

theorem AtFrame.advanced (at_frame : AtFrame stream reader) : AtFrame stream reader.advanced := by
  obtain ⟨count, here⟩ := at_frame.start
  refine ⟨⟨count + 1, ?_⟩, ?_⟩
  · rw [frameStart, Function.iterate_succ_apply', ← frameStart, ← here]
    rfl
  · exact List.IsChain.cons_cons (consumesFrame_nextStart reader.inner) at_frame.aligned

theorem AtFrame.filled (at_frame : AtFrame stream reader)
    (all_filled : ∀ count, ¬ EmptyFrame (frameStart stream count)) :
    ¬ EmptyFrame reader.inner := by
  obtain ⟨count, here⟩ := at_frame.start
  exact here ▸ all_filled count

/-- A call on a stream without empty frames returns at the start of a frame. -/
theorem AtFrame.step (at_frame : AtFrame stream reader)
    (all_filled : ∀ count, ¬ EmptyFrame (frameStart stream count)) (postcard : Postcard ε)
    (call : Call) : ∃ next, reader.step postcard call = some next ∧ AtFrame stream next := by
  have filled := at_frame.filled all_filled
  cases call with
  | readClient =>
      obtain ⟨result, read⟩ := readMsg_filled postcard.clientMsg filled
      exact ⟨reader.advanced, by simp only [FrameReader.step, readClient, read, afterCall],
        at_frame.advanced⟩
  | readServer =>
      obtain ⟨result, read⟩ := readMsg_filled postcard.serverMsg filled
      exact ⟨reader.advanced, by simp only [FrameReader.step, readServer, read, afterCall],
        at_frame.advanced⟩
  | readServerResponse reqId =>
      obtain ⟨result, next, read, arrived⟩ :=
        readServerResponse_invariant postcard reqId (AtFrame stream)
          (fun _ there => there.filled all_filled) (fun _ there => there.advanced) reader at_frame
      exact ⟨next, by simp only [FrameReader.step, read, afterCall], arrived⟩

/-- Every sequence of calls on a stream without empty frames returns. -/
theorem exec_returns (all_filled : ∀ count, ¬ EmptyFrame (frameStart stream count))
    (postcard : Postcard ε) (calls : List Call) :
    ∃ reader, Run.exec (FrameReader.step postcard) (new stream) calls = some reader ∧
      AtFrame stream reader := by
  have from_frame : ∀ reader, AtFrame stream reader → ∃ final,
      Run.exec (FrameReader.step postcard) reader calls = some final ∧ AtFrame stream final := by
    induction calls with
    | nil => exact fun reader at_frame => ⟨reader, rfl, at_frame⟩
    | cons call rest ih =>
        intro reader at_frame
        obtain ⟨next, taken, arrived⟩ := at_frame.step all_filled postcard call
        obtain ⟨final, remaining, reached⟩ := ih next arrived
        exact ⟨final, Run.exec_cons.mpr ⟨next, taken, remaining⟩, reached⟩
  exact from_frame (new stream) (AtFrame.new stream)

theorem step_readClient_empty (postcard : Postcard ε) (empty : EmptyFrame reader.inner) :
    reader.step postcard .readClient = none := by
  have panics := readMsg_empty postcard.clientMsg empty
  unfold FrameReader.step readClient
  cases read : reader.readMsg postcard.clientMsg with
  | mk ended next =>
      rw [read] at panics
      cases panics
      rfl

/-- Reads of client messages get to an empty frame, and the read of it panics. -/
theorem exec_panics (postcard : Postcard ε) (reader : FrameReader) {count : Nat}
    (empty : EmptyFrame (frameStart reader.inner count)) :
    ∃ calls, Run.exec (FrameReader.step postcard) reader calls = none := by
  induction count generalizing reader with
  | zero =>
      refine ⟨[.readClient], ?_⟩
      rw [Run.exec, step_readClient_empty postcard empty]
      rfl
  | succ count ih =>
      by_cases here : EmptyFrame reader.inner
      · refine ⟨[.readClient], ?_⟩
        rw [Run.exec, step_readClient_empty postcard here]
        rfl
      · obtain ⟨result, read⟩ := readMsg_filled postcard.clientMsg here
        have taken : reader.step postcard .readClient = some reader.advanced := by
          simp only [FrameReader.step, readClient, read, afterCall]
        have later : EmptyFrame (frameStart reader.advanced.inner count) := by
          rw [frameStart, Function.iterate_succ_apply] at empty
          exact empty
        obtain ⟨calls, panics⟩ := ih reader.advanced later
        refine ⟨.readClient :: calls, ?_⟩
        rw [Run.exec, taken]
        exact panics

/-- All calls return, and every frame that is not too long is consumed as a whole,
exactly when no frame of the stream is empty and has a byte behind it. -/
theorem frames_consumed_whole (postcard : Postcard ε) (stream : List UInt8) :
    (∀ calls, ∃ reader, Run.exec (FrameReader.step postcard) (new stream) calls = some reader ∧
      reader.Aligned) ↔ ∀ count, ¬ EmptyFrame (frameStart stream count) := by
  constructor
  · intro returns count empty
    obtain ⟨calls, panics⟩ := exec_panics postcard (new stream) empty
    obtain ⟨reader, ran, _⟩ := returns calls
    rw [panics] at ran
    cases ran
  · intro all_filled calls
    obtain ⟨reader, ran, at_frame⟩ := exec_returns all_filled postcard calls
    exact ⟨reader, ran, at_frame.aligned⟩

/-- Decoders that find every body too short. -/
def rejecting : Postcard String :=
  ⟨fun _ => .error "Hit the end of buffer, expected more data",
    fun _ => .error "Hit the end of buffer, expected more data"⟩

/-- A length prefix of zero and one byte: reading a message panics, and waiting for
a response takes the byte for the frame's body. -/
theorem empty_frame_breaks_reader :
    Run.exec (FrameReader.step rejecting) (new [0, 0, 0, 0, 7]) [.readClient] = none ∧
    Run.exec (FrameReader.step rejecting) (new [0, 0, 0, 0, 7]) [.readServer] = none ∧
    ∃ reader, Run.exec (FrameReader.step rejecting) (new [0, 0, 0, 0, 7])
        [.readServerResponse 1] = some reader ∧
      reader.looked = [[], [0, 0, 0, 0, 7]] ∧ ¬ reader.Aligned := by
  refine ⟨by decide, by decide, ⟨[], [[], [0, 0, 0, 0, 7]]⟩, ?_, rfl, ?_⟩
  · have skips : (new [0, 0, 0, 0, 7]).responseTurn rejecting 1 =
        (.returned .again, ⟨[], [[0, 0, 0, 0, 7]]⟩) := rfl
    have ends : (FrameReader.mk [] [[0, 0, 0, 0, 7]]).responseTurn rejecting 1 =
        (.returned (.finished (.error (.frame .closed))), ⟨[], [[], [0, 0, 0, 0, 7]]⟩) := rfl
    rw [Run.exec, FrameReader.step, readServerResponse_again skips,
      readServerResponse_finished ends]
    rfl
  · intro aligned
    have consumed : ConsumesFrame [] [0, 0, 0, 0, 7] :=
      (List.isChain_cons_cons.mp (List.isChain_cons_cons.mp aligned).2).1
    have impossible := consumed 0 (by decide) (by decide)
    cases impossible

end FrameReader
end LinSight
