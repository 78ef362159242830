import LinSight.Protocol.FrameStream

set_option autoImplicit false

/-! The response reader of the command line, which skips what it does not wait for,
against a loop that reads every message. -/

namespace LinSight

variable {ε : Type}

/-- The place of the variant in the declaration. -/
def ServerMsg.variant : ServerMsg → UInt8
  | .welcome _ _ _ => 0
  | .sensorList _ => 1
  | .sample _ => 2
  | .sensorDegraded _ _ => 3
  | .bye _ => 4
  | .response _ _ => 5
  | .sensorListBroadcast _ => 6

/-- What the readers rely on: an enum's encoding starts with the index of its
variant, as a varint of one byte, and can be decoded. -/
structure Tagged (format : Format ServerMsg ε) (msg : ServerMsg) : Prop
    extends format.Faithful msg where
  tag : (format.encode msg).head? = some msg.variant

namespace FrameReader

/-- What a message means to the one who waits for the response. -/
def awaited (reqId : Nat) : ServerMsg → Turn ε
  | .response rid (.ok payload) => if rid = reqId then .finished (.ok payload) else .again
  | .response rid (.error error) =>
      if rid = reqId then .finished (.error (.server error)) else .again
  | .bye reason => .finished (.error (.bye reason))
  | _ => .again

section Awaited

variable {msg : ServerMsg} (reqId : Nat)

theorem awaited_response (tag : msg.variant = responseVariant) :
    @awaited ε reqId msg = answerTo reqId msg := by
  cases msg with
  | response rid result => cases result <;> rfl
  | _ => simp [ServerMsg.variant, responseVariant] at tag

theorem awaited_bye (tag : msg.variant = byeVariant) : @awaited ε reqId msg = farewell msg := by
  cases msg with
  | bye reason => rfl
  | _ => simp [ServerMsg.variant, byeVariant] at tag

/-- Neither of the two variants is awaited by anyone else. -/
theorem awaited_skipped (response : msg.variant ≠ responseVariant)
    (bye : msg.variant ≠ byeVariant) : @awaited ε reqId msg = .again := by
  cases msg with
  | response rid result => exact absurd rfl response
  | bye reason => exact absurd rfl bye
  | _ => rfl

end Awaited

/-- A turn that reads the next message as a whole. -/
def plainTurn (postcard : Postcard ε) (reqId : Nat) (reader : FrameReader) :
    Ended (Turn ε) × FrameReader :=
  match reader.readServer postcard with
  | (.panicked, next) => (.panicked, next)
  | (.returned (.error error), next) => (.returned (.finished (.error (.frame error))), next)
  | (.returned (.ok msg), next) => (.returned (awaited reqId msg), next)

theorem readFrame_length {reader next : FrameReader} {bytes : List UInt8}
    (read : @readFrame ε reader = (.returned (.ok bytes), next)) :
    next.inner.length < reader.inner.length := by
  rcases @readFrameHeader_cases ε reader with
    ⟨len, first, header, _, _, long⟩ | ⟨error, header, _⟩
  · simp only [readFrame, header] at read
    have body := @readBody_length ε len first reader.opened
    rw [read] at body
    simp only [opened, List.length_drop] at body
    omega
  · simp only [readFrame, header] at read
    cases read

theorem readMsg_length {α : Type} {fromBytes : List UInt8 → Except ε α} {reader next : FrameReader}
    {msg : α} (read : reader.readMsg fromBytes = (.returned (.ok msg), next)) :
    next.inner.length < reader.inner.length := by
  unfold readMsg at read
  split at read
  · cases read
  · cases read
  · rename_i bytes after frame
    have same : after = next := congrArg Prod.snd read
    rw [← same]
    exact readFrame_length frame

theorem plainTurn_shrinks {postcard : Postcard ε} {reqId : Nat} {reader next : FrameReader}
    (taken : reader.plainTurn postcard reqId = (.returned .again, next)) :
    next.inner.length < reader.inner.length := by
  unfold plainTurn at taken
  split at taken
  · cases taken
  · cases taken
  · rename_i msg after read
    have same : after = next := congrArg Prod.snd taken
    rw [← same]
    exact readMsg_length read

/-- Messages, one after another, until one of them is awaited. -/
def readUntilResponse (postcard : Postcard ε) (reqId : Nat) (reader : FrameReader) :
    Ended (Except (ResponseReadError ε) ResponsePayload) × FrameReader :=
  match taken : reader.plainTurn postcard reqId with
  | (.panicked, next) => (.panicked, next)
  | (.returned (.finished result), next) => (.returned result, next)
  | (.returned .again, next) =>
      have _shorter := plainTurn_shrinks taken
      readUntilResponse postcard reqId next
termination_by reader.inner.length

theorem readUntilResponse_again {postcard : Postcard ε} {reqId : Nat} {reader next : FrameReader}
    (taken : reader.plainTurn postcard reqId = (.returned .again, next)) :
    reader.readUntilResponse postcard reqId = next.readUntilResponse postcard reqId := by
  rw [readUntilResponse]
  split <;> simp_all

theorem readUntilResponse_finished {postcard : Postcard ε} {reqId : Nat}
    {reader next : FrameReader} {result : Except (ResponseReadError ε) ResponsePayload}
    (taken : reader.plainTurn postcard reqId = (.returned (.finished result), next)) :
    reader.readUntilResponse postcard reqId = (.returned result, next) := by
  rw [readUntilResponse]
  split <;> simp_all

/-- Skipping within the stream succeeds. -/
theorem skipFrameBody_enough {remaining : Nat} {reader : FrameReader}
    (enough : remaining ≤ reader.inner.length) :
    @skipFrameBody ε remaining reader =
      (.ok ⟨⟩, { reader with inner := reader.inner.drop remaining }) := by
  rw [← @skipFrameBody_rest ε]
  refine Prod.ext ?_ rfl
  fun_induction skipFrameBody remaining reader with
  | case1 reader => rfl
  | case2 remaining reader more count rest failed =>
      have within : count ≤ remaining := Nat.min_le_left _ _
      rw [readExact, if_pos (by omega)] at failed
      cases failed
  | case3 remaining reader more count bytes rest read ih =>
      have within : count ≤ remaining := Nat.min_le_left _ _
      have left : rest = reader.inner.drop count := by rw [← readExact_rest, read]
      apply ih
      rw [left, List.length_drop]
      omega

section Turns

variable {format : Format ServerMsg ε} {client : Format ClientMsg ε} {msg : ServerMsg}
  {reader : FrameReader} {rest : List UInt8}

/-- The reader behind the first frame. -/
def behind (reader : FrameReader) (rest : List UInt8) : FrameReader :=
  ⟨rest, reader.inner :: reader.looked⟩

theorem plainTurn_frame (tagged : Tagged format msg)
    (fits : (format.encode msg).length ≤ maxFrameBytes) (reqId : Nat)
    (front : reader.inner = frame (format.encode msg) ++ rest) :
    reader.plainTurn ⟨client.fromBytes, format.fromBytes⟩ reqId =
      (.returned (awaited reqId msg), reader.behind rest) := by
  obtain ⟨first, tail, body⟩ := List.exists_cons_of_ne_nil tagged.nonempty
  rw [body] at fits front
  have read : @readFrame ε reader = (.returned (.ok (first :: tail)), reader.behind rest) := by
    simp only [readFrame, readFrameHeader_frame fits reader front, readBody_frame, behind]
  have decodes := tagged.decodes
  rw [body] at decodes
  simp only [plainTurn, readServer, readMsg, read, decodes, Except.mapError]

/-- What is decoded is interpreted as the plain loop does it, what is skipped would not
have been awaited. -/
theorem responseTurn_frame (tagged : Tagged format msg)
    (fits : (format.encode msg).length ≤ maxFrameBytes) (reqId : Nat)
    (front : reader.inner = frame (format.encode msg) ++ rest) :
    reader.responseTurn ⟨client.fromBytes, format.fromBytes⟩ reqId =
      (.returned (awaited reqId msg), reader.behind rest) := by
  have tag := tagged.tag
  have decodes := tagged.decodes
  obtain ⟨first, tail, body⟩ := List.exists_cons_of_ne_nil tagged.nonempty
  rw [body] at fits front tag decodes
  have variant : first = msg.variant := Option.some.inj tag
  have decoded (interpret : ServerMsg → Turn ε) :
      decodedTurn ⟨client.fromBytes, format.fromBytes⟩ interpret (tail.length + 1) first
        ⟨tail ++ rest, reader.inner :: reader.looked⟩ =
      (.returned (interpret msg), reader.behind rest) := by
    simp only [decodedTurn, readBody_frame, decodes, behind]
  have skipped : @skippedTurn ε (tail.length + 1)
      ⟨tail ++ rest, reader.inner :: reader.looked⟩ = (.returned .again, reader.behind rest) := by
    unfold skippedTurn
    split
    · have enough : tail.length + 1 - 1 ≤ (tail ++ rest).length := by
        rw [List.length_append]
        omega
      rw [skipFrameBody_enough enough]
      simp only [Nat.add_sub_cancel, List.drop_left, behind]
    · have single : tail = [] := List.eq_nil_of_length_eq_zero (by omega)
      rw [single]
      rfl
  simp only [responseTurn, readFrameHeader_frame fits reader front]
  split
  · rename_i same
    rw [decoded, awaited_response reqId (variant ▸ same)]
  · rename_i other
    split
    · rename_i same
      rw [decoded, awaited_bye reqId (variant ▸ same)]
    · rename_i neither
      rw [skipped, awaited_skipped reqId (variant ▸ other) (variant ▸ neither)]

theorem readFrameHeader_nil (ended : reader.inner = []) :
    @readFrameHeader ε reader = (.error .closed, reader.behind []) := by
  have short : readExact 4 reader.inner = (none, []) := by rw [ended]; rfl
  simp only [readFrameHeader, short, behind]

theorem plainTurn_nil (postcard : Postcard ε) (reqId : Nat) (ended : reader.inner = []) :
    reader.plainTurn postcard reqId =
      (.returned (.finished (.error (.frame .closed))), reader.behind []) := by
  simp only [plainTurn, readServer, readMsg, readFrame, readFrameHeader_nil ended]

theorem responseTurn_nil (postcard : Postcard ε) (reqId : Nat) (ended : reader.inner = []) :
    reader.responseTurn postcard reqId =
      (.returned (.finished (.error (.frame .closed))), reader.behind []) := by
  simp only [responseTurn, readFrameHeader_nil ended]

end Turns

/-- What waiting for a response comes to on a list of messages, and the messages left. -/
def awaitedIn (reqId : Nat) :
    List ServerMsg → Except (ResponseReadError ε) ResponsePayload × List ServerMsg
  | [] => (.error (.frame .closed), [])
  | msg :: rest =>
      match awaited reqId msg with
      | .finished result => (result, rest)
      | .again => awaitedIn reqId rest

/-- One call after another, each with what is left of the stream behind it. -/
def callEach (read : Nat → FrameReader →
      Ended (Except (ResponseReadError ε) ResponsePayload) × FrameReader) :
    FrameReader → List Nat →
      List (Ended (Except (ResponseReadError ε) ResponsePayload) × List UInt8)
  | _, [] => []
  | reader, reqId :: reqIds =>
      let (result, next) := read reqId reader
      (result, next.inner) :: callEach read next reqIds

/-- What the calls come to on the messages. -/
def awaitedEach (format : Format ServerMsg ε) : List ServerMsg → List Nat →
    List (Ended (Except (ResponseReadError ε) ResponsePayload) × List UInt8)
  | _, [] => []
  | msgs, reqId :: reqIds =>
      let (result, left) := awaitedIn reqId msgs
      (.returned result, left.flatMap fun msg => frame (format.encode msg)) ::
        awaitedEach format left reqIds

section Calls

variable {format : Format ServerMsg ε}

theorem awaitedIn_suffix (reqId : Nat) (msgs : List ServerMsg) :
    (@awaitedIn ε reqId msgs).2 <:+ msgs := by
  induction msgs with
  | nil => exact List.suffix_refl []
  | cons msg rest ih =>
      rw [awaitedIn]
      cases awaited reqId msg with
      | finished result => exact List.suffix_cons msg rest
      | again => exact ih.trans (List.suffix_cons msg rest)

/-- A reader that waits for responses on the frames of such messages. -/
def Awaits (format : Format ServerMsg ε)
    (read : Nat → FrameReader →
      Ended (Except (ResponseReadError ε) ResponsePayload) × FrameReader) : Prop :=
  ∀ msgs : List ServerMsg,
    (∀ msg ∈ msgs, Tagged format msg ∧ (format.encode msg).length ≤ maxFrameBytes) →
    ∀ reqId (reader : FrameReader),
      reader.inner = msgs.flatMap (fun msg => frame (format.encode msg)) →
      (read reqId reader).1 = .returned (awaitedIn reqId msgs).1 ∧
        (read reqId reader).2.inner =
          (@awaitedIn ε reqId msgs).2.flatMap fun msg => frame (format.encode msg)

/-- A loop awaits the response where its turns see one message after another. -/
theorem awaits_of_turns (turn : Nat → FrameReader → Ended (Turn ε) × FrameReader)
    {loop : Nat → FrameReader →
      Ended (Except (ResponseReadError ε) ResponsePayload) × FrameReader}
    (again : ∀ {reqId reader next}, turn reqId reader = (.returned .again, next) →
      loop reqId reader = loop reqId next)
    (finished : ∀ {reqId reader next result},
      turn reqId reader = (.returned (.finished result), next) →
      loop reqId reader = (.returned result, next))
    (at_frame : ∀ {msg} {reader : FrameReader} {rest}, Tagged format msg →
      (format.encode msg).length ≤ maxFrameBytes →
      reader.inner = frame (format.encode msg) ++ rest →
      ∀ reqId, turn reqId reader = (.returned (awaited reqId msg), reader.behind rest))
    (at_end : ∀ {reqId} {reader : FrameReader}, reader.inner = [] →
      turn reqId reader = (.returned (.finished (.error (.frame .closed))), reader.behind [])) :
    Awaits format loop := by
  intro msgs tagged reqId reader stream
  induction msgs generalizing reader with
  | nil =>
      rw [finished (at_end stream)]
      exact ⟨rfl, rfl⟩
  | cons msg rest ih =>
      obtain ⟨here, fits⟩ := tagged msg List.mem_cons_self
      have taken := at_frame here fits stream reqId
      rw [awaitedIn]
      cases turned : @awaited ε reqId msg with
      | finished result =>
          rw [turned] at taken
          rw [finished taken]
          exact ⟨rfl, rfl⟩
      | again =>
          rw [turned] at taken
          rw [again taken]
          exact ih (fun other member => tagged other (List.mem_cons_of_mem _ member))
            (reader.behind _) rfl

theorem readServerResponse_awaits (client : Format ClientMsg ε) :
    Awaits format fun reqId reader =>
      reader.readServerResponse ⟨client.fromBytes, format.fromBytes⟩ reqId :=
  awaits_of_turns
    (fun reqId reader =>
      reader.responseTurn ⟨client.fromBytes, format.fromBytes⟩ reqId)
    readServerResponse_again readServerResponse_finished
    (fun tagged fits front _ => responseTurn_frame tagged fits _ front)
    (fun ended => responseTurn_nil _ _ ended)

theorem readUntilResponse_awaits (client : Format ClientMsg ε) :
    Awaits format fun reqId reader =>
      reader.readUntilResponse ⟨client.fromBytes, format.fromBytes⟩ reqId :=
  awaits_of_turns
    (fun reqId reader => reader.plainTurn ⟨client.fromBytes, format.fromBytes⟩ reqId)
    readUntilResponse_again readUntilResponse_finished
    (fun tagged fits front _ => plainTurn_frame tagged fits _ front)
    (fun ended => plainTurn_nil _ _ ended)

theorem callEach_eq {read : Nat → FrameReader →
      Ended (Except (ResponseReadError ε) ResponsePayload) × FrameReader}
    (awaits : Awaits format read) {msgs : List ServerMsg}
    (tagged : ∀ msg ∈ msgs, Tagged format msg ∧ (format.encode msg).length ≤ maxFrameBytes)
    (reqIds : List Nat) (reader : FrameReader)
    (stream : reader.inner = msgs.flatMap fun msg => frame (format.encode msg)) :
    callEach read reader reqIds = awaitedEach format msgs reqIds := by
  induction reqIds generalizing msgs reader with
  | nil => rfl
  | cons reqId reqIds ih =>
      obtain ⟨result, left⟩ := awaits msgs tagged reqId reader stream
      have later := ih (fun msg member =>
        tagged msg ((@awaitedIn_suffix ε reqId msgs).subset member)) _ left
      simp only [callEach, awaitedEach, result, left, later]

end Calls

end FrameReader

/-- On what one writer has sent, whatever did not fit left out, every call of the response
reader ends like the loop that decodes each message, at the same byte, and both wait for the
response among the messages. -/
theorem readServerResponse_eq_plain (wire : Wire ε) (alloc : Allocator) {msgs : List ServerMsg}
    (tagged : ∀ msg ∈ msgs, Tagged wire.serverMsg msg) :
    ∃ turns, ∀ fuel, turns ≤ fuel → ∃ writer,
      msgs.foldlM (fun writer msg =>
          (BufferedWriter.writeServer wire alloc fuel msg writer).map (·.2)) BufferedWriter.new =
        some writer ∧
      ∀ reqIds : List Nat,
        FrameReader.callEach (fun reqId reader => reader.readServerResponse wire.postcard reqId)
            (.new writer.inner) reqIds =
          FrameReader.callEach (fun reqId reader => reader.readUntilResponse wire.postcard reqId)
            (.new writer.inner) reqIds ∧
        FrameReader.callEach (fun reqId reader => reader.readServerResponse wire.postcard reqId)
            (.new writer.inner) reqIds =
          FrameReader.awaitedEach wire.serverMsg (wire.serverMsg.accepted msgs) reqIds := by
  obtain ⟨turns, streams⟩ := (roundTrips wire.serverMsg alloc
    fun msg member => (tagged msg member).toFaithful).stream
  refine ⟨turns, fun fuel enough => ?_⟩
  obtain ⟨writer, written, inner, _⟩ := streams fuel enough
  refine ⟨writer, written, fun reqIds => ?_⟩
  have each : ∀ msg ∈ wire.serverMsg.accepted msgs, Tagged wire.serverMsg msg ∧
      (wire.serverMsg.encode msg).length ≤ maxFrameBytes := by
    intro msg member
    obtain ⟨inside, fits⟩ := List.mem_filter.mp member
    exact ⟨tagged msg inside, of_decide_eq_true fits⟩
  have fast := FrameReader.callEach_eq (FrameReader.readServerResponse_awaits wire.clientMsg) each
    reqIds (.new writer.inner) inner
  have plain := FrameReader.callEach_eq (FrameReader.readUntilResponse_awaits wire.clientMsg) each
    reqIds (.new writer.inner) inner
  exact ⟨fast.trans plain.symm, fast⟩

/-- Empty sensor lists, pump intervals below 128 and a `Bye` without a reason. -/
def pumpReplies : Wire String where
  clientMsg := farewells.clientMsg
  serverMsg := .filling
    (fun
      | .response reqId (.ok (.pumpIntervalSet ms)) =>
          [5, UInt8.ofNat reqId, 0, 2, UInt8.ofNat ms]
      | .welcome _ _ _ => [0]
      | .sample _ => [2]
      | .sensorDegraded _ _ => [3]
      | .bye _ => [4, 0]
      | .response _ _ => [5]
      | .sensorList _ => [1, 0]
      | .sensorListBroadcast _ => [6, 0])
    (fun
      | [1, 0] => .ok (.sensorList [])
      | [4, 0] => .ok (.bye "")
      | [5, reqId, 0, 2, ms] => .ok (.response reqId.toNat (.ok (.pumpIntervalSet ms.toNat)))
      | [6, 0] => .ok (.sensorListBroadcast [])
      | _ => .error "unexpected variant")

/-- A foreign response and a list before the response that is waited for. -/
def pumpStream : List ServerMsg :=
  [.response 6 (.ok (.pumpIntervalSet 40)), .sensorListBroadcast [],
    .response 7 (.ok (.pumpIntervalSet 50)), .bye ""]

theorem readServerResponse_eq_plain_pump : ∃ turns, ∀ fuel, turns ≤ fuel → ∃ writer,
    pumpStream.foldlM (fun writer msg => (BufferedWriter.writeServer pumpReplies
        ⟨fun _ len more => len + more, fun _ _ _ => le_rfl⟩ fuel msg writer).map (·.2))
      BufferedWriter.new = some writer ∧
    ∀ reqIds : List Nat,
      FrameReader.callEach
          (fun reqId reader => reader.readServerResponse pumpReplies.postcard reqId)
          (.new writer.inner) reqIds =
        FrameReader.callEach
          (fun reqId reader => reader.readUntilResponse pumpReplies.postcard reqId)
          (.new writer.inner) reqIds ∧
      FrameReader.callEach
          (fun reqId reader => reader.readServerResponse pumpReplies.postcard reqId)
          (.new writer.inner) reqIds =
        FrameReader.awaitedEach pumpReplies.serverMsg
          (pumpReplies.serverMsg.accepted pumpStream) reqIds := by
  apply readServerResponse_eq_plain pumpReplies
  intro msg member
  simp only [pumpStream, List.mem_cons, List.not_mem_nil, or_false] at member
  rcases member with rfl | rfl | rfl | rfl
  · exact ⟨Format.filling_faithful (List.cons_ne_nil _ _) rfl, rfl⟩
  · exact ⟨Format.filling_faithful (List.cons_ne_nil _ _) rfl, rfl⟩
  · exact ⟨Format.filling_faithful (List.cons_ne_nil _ _) rfl, rfl⟩
  · exact ⟨Format.filling_faithful (List.cons_ne_nil _ _) rfl, rfl⟩

end LinSight
