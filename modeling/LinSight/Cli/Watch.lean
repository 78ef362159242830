import LinSight.Gui.ClientCalls
import LinSight.Protocol.ResponseReader

set_option autoImplicit false

/-! The commands `watch` and `read` of the command line: the handshake, one request for each
sensor, and the loop that prints samples. -/

namespace LinSight.Cli

variable {ε : Type}

open LinSight.Gui (protocolVersion)

inductive CliError (ε : Type) where
  | sensorId (error : CoreError)
  | readingWelcome (error : FrameError ε)
  | protocolMismatch (daemon : Nat)
  | refused (reason : String)
  | unexpectedFirst (msg : ServerMsg)
  | rpc (error : ResponseReadError ε)
  | expectedSensorInfo (other : ResponsePayload)
  | degraded (sensor : SensorId) (reason : String)
  | reading (error : FrameError ε)

/-- A connection whose writes succeed; `nextReqId` is the thread's `NEXT_REQ_ID`. -/
structure Session where
  reader : FrameReader
  sent : List ClientMsg
  nextReqId : Nat

/-- What a command has done when it ends: its result, the lines it printed and the messages it
sent. -/
structure Outcome (ε : Type) where
  ended : Ended (Except (CliError ε) PUnit.{1})
  printed : List (Sample × LinSight.Unit)
  sent : List ClientMsg

def Session.send (session : Session) (msg : ClientMsg) : Session :=
  { session with sent := session.sent ++ [msg] }

/-- The first message of the daemon. -/
def greeting : ServerMsg → Except (CliError ε) PUnit.{1}
  | .welcome version _ _ =>
      if version = protocolVersion then .ok ⟨⟩ else .error (.protocolMismatch version)
  | .bye reason => .error (.refused reason)
  | other => .error (.unexpectedFirst other)

def connectAndHello (postcard : Postcard ε) (stream : List UInt8) :
    Ended (Except (CliError ε) PUnit.{1}) × Session :=
  let session := Session.send ⟨.new stream, [], 1⟩ (.hello protocolVersion "linsight-cli" none)
  match session.reader.readServer postcard with
  | (.panicked, reader) => (.panicked, { session with reader })
  | (.returned (.error error), reader) =>
      (.returned (.error (.readingWelcome error)), { session with reader })
  | (.returned (.ok msg), reader) => (.returned (greeting msg), { session with reader })

def requestRpc (postcard : Postcard ε) (op : RequestOp) (session : Session) :
    Ended (Except (CliError ε) ResponsePayload) × Session :=
  let reqId := session.nextReqId
  let session := Session.send { session with nextReqId := (reqId + 1) % 2 ^ 32 } (.request reqId op)
  match session.reader.readServerResponse postcard reqId with
  | (.panicked, reader) => (.panicked, { session with reader })
  | (.returned (.error error), reader) => (.returned (.error (.rpc error)), { session with reader })
  | (.returned (.ok payload), reader) => (.returned (.ok payload), { session with reader })

/-- The payload is the sensor's description. -/
def unitOf : ResponsePayload → Except (CliError ε) LinSight.Unit
  | .sensorInfo info => .ok info.unit
  | other => .error (.expectedSensorInfo other)

/-- The unit of each sensor, asked for one after another. -/
def fetchUnits (postcard : Postcard ε) :
    List SensorId → KeyMap SensorId LinSight.Unit → Session →
      Ended (Except (CliError ε) (KeyMap SensorId LinSight.Unit)) × Session
  | [], units, session => (.returned (.ok units), session)
  | id :: rest, units, session =>
      match requestRpc postcard (.getSensorInfo id.asStr) session with
      | (.panicked, session) => (.panicked, session)
      | (.returned (.error error), session) => (.returned (.error error), session)
      | (.returned (.ok payload), session) =>
          match unitOf payload with
          | .error error => (.returned (.error error), session)
          | .ok unit => fetchUnits postcard rest (units.insert id unit) session

/-- What the loop does with a message. -/
inductive Reaction where
  | print (sample : Sample) (unit : LinSight.Unit)
  | degraded (sensor : SensorId) (reason : String)
  | farewell
  | pass

def react (sensors : List SensorId) (units : KeyMap SensorId LinSight.Unit) : ServerMsg → Reaction
  | .sample sample =>
      if sample.sensor ∈ sensors then
        match units.lookup sample.sensor with
        | some unit => .print sample unit
        | none => .pass
      else .pass
  | .sensorDegraded sensor reason =>
      if sensor ∈ sensors then .degraded sensor reason else .pass
  | .bye _ => .farewell
  | _ => .pass

/-- `printed >= max`, where a maximum is given. -/
def enough (count : Option Nat) (printed : Nat) : Bool :=
  count.any fun max => decide (max ≤ printed)

section Loop

variable (postcard : Postcard ε) (sensors : List SensorId) (units : KeyMap SensorId LinSight.Unit)
  (count : Option Nat) (interrupted : Nat → Bool)

/-- The loop from its given turn on. `interrupted` tells in which turns the flag of Ctrl+C is
found set. -/
def watchLoop (turn : Nat) (printed : List (Sample × LinSight.Unit)) (reader : FrameReader) :
    Ended (Except (CliError ε) PUnit.{1}) × List (Sample × LinSight.Unit) :=
  if interrupted turn then (.returned (.ok ⟨⟩), printed)
  else match read : reader.readServer postcard with
    | (.panicked, _) => (.panicked, printed)
    | (.returned (.error error), _) => (.returned (.error (.reading error)), printed)
    | (.returned (.ok msg), next) =>
        have _shorter := FrameReader.readMsg_length read
        match react sensors units msg with
        | .print sample unit =>
            let printed := printed ++ [(sample, unit)]
            if enough count printed.length then (.returned (.ok ⟨⟩), printed)
            else watchLoop (turn + 1) printed next
        | .degraded sensor reason => (.returned (.error (.degraded sensor reason)), printed)
        | .farewell => (.returned (.ok ⟨⟩), printed)
        | .pass => watchLoop (turn + 1) printed next
termination_by reader.inner.length

end Loop

/-- `f64 as f32`. -/
def asF32 : Ieee.Value → Ieee.Value
  | .finite q => Ieee.binary32.round q
  | other => other

/-- `SensorId::try_new` on each name; the first failure ends it. -/
def sensorIds : List String → Except CoreError (List SensorId)
  | [] => .ok []
  | name :: rest =>
      match SensorId.tryNew name with
      | .error error => .error error
      | .ok id => (sensorIds rest).map (id :: ·)

/-- Both commands from the handshake on. The last two messages are only sent where the loop did
not end with an error. -/
def session (postcard : Postcard ε) (sensors : List SensorId) (rateHz : Option Ieee.Value)
    (count : Option Nat) (interrupted : Nat → Bool) (stream : List UInt8) : Outcome ε :=
  match connectAndHello postcard stream with
  | (.panicked, session) => ⟨.panicked, [], session.sent⟩
  | (.returned (.error error), session) => ⟨.returned (.error error), [], session.sent⟩
  | (.returned (.ok _), session) =>
      match fetchUnits postcard sensors ∅ session with
      | (.panicked, session) => ⟨.panicked, [], session.sent⟩
      | (.returned (.error error), session) => ⟨.returned (.error error), [], session.sent⟩
      | (.returned (.ok units), session) =>
          let session := session.send (.subscribe sensors rateHz)
          let (ended, printed) :=
            watchLoop postcard sensors units count interrupted 0 [] session.reader
          match ended with
          | .returned (.ok _) =>
              ⟨ended, printed, session.sent ++ [.unsubscribe sensors, .goodbye]⟩
          | _ => ⟨ended, printed, session.sent⟩

/-- `linsight-cli watch`, without the text of its lines. -/
def watch (postcard : Postcard ε) (sensors : List String) (rateHz : Option Ieee.Value)
    (count : Option Nat) (interrupted : Nat → Bool) (stream : List UInt8) : Outcome ε :=
  if count = some 0 then ⟨.returned (.ok ⟨⟩), [], []⟩
  else match sensorIds sensors with
    | .error error => ⟨.returned (.error (.sensorId error)), [], []⟩
    | .ok ids => session postcard ids (rateHz.map asF32) count interrupted stream

/-- `linsight-cli read`: one sensor at its own rate, and no handler for Ctrl+C. -/
def read (postcard : Postcard ε) (sensor : String) (count : Option Nat) (stream : List UInt8) :
    Outcome ε :=
  if count = some 0 then ⟨.returned (.ok ⟨⟩), [], []⟩
  else match SensorId.tryNew sensor with
    | .error error => ⟨.returned (.error (.sensorId error)), [], []⟩
    | .ok id => session postcard [id] none count (fun _ => false) stream

/-! The same on the messages of the stream instead of its bytes. -/

section Messages

variable (sensors : List SensorId) (units : KeyMap SensorId LinSight.Unit) (count : Option Nat)
  (interrupted : Nat → Bool)

def unitsIn : List SensorId → KeyMap SensorId LinSight.Unit → Nat → List ServerMsg →
    Except (CliError ε) (KeyMap SensorId LinSight.Unit) × List ServerMsg
  | [], units, _, msgs => (.ok units, msgs)
  | id :: rest, units, reqId, msgs =>
      match (FrameReader.awaitedIn reqId msgs : Except (ResponseReadError ε) _ × _) with
      | (.error error, left) => (.error (.rpc error), left)
      | (.ok payload, left) =>
          match unitOf payload with
          | .error error => (.error error, left)
          | .ok unit => unitsIn rest (units.insert id unit) ((reqId + 1) % 2 ^ 32) left

/-- How the loop ends where no count ends it. -/
def ending : Nat → List ServerMsg → Except (CliError ε) PUnit.{1}
  | turn, [] => if interrupted turn then .ok ⟨⟩ else .error (.reading .closed)
  | turn, msg :: rest =>
      if interrupted turn then .ok ⟨⟩
      else match react sensors units msg with
        | .degraded sensor reason => .error (.degraded sensor reason)
        | .farewell => .ok ⟨⟩
        | _ => ending (turn + 1) rest

/-- The messages read before the flag is found set. -/
def heard : Nat → List ServerMsg → List ServerMsg
  | _, [] => []
  | turn, msg :: rest => if interrupted turn then [] else msg :: heard (turn + 1) rest

/-- The message does not end the loop by itself. -/
def goesOn (msg : ServerMsg) : Bool :=
  match react sensors units msg with
  | .degraded _ _ | .farewell => false
  | _ => true

/-- What the message prints. -/
def line (msg : ServerMsg) : Option (Sample × LinSight.Unit) :=
  match react sensors units msg with
  | .print sample unit => some (sample, unit)
  | _ => none

/-- At most as many as asked for. -/
def limited {α : Type} (count : Option Nat) (items : List α) : List α :=
  match count with
  | none => items
  | some max => items.take max

/-- The lines of the messages that are read, up to one that ends the loop. -/
def lines (msgs : List ServerMsg) : List (Sample × LinSight.Unit) :=
  (msgs.takeWhile (goesOn sensors units)).filterMap (line sensors units)

end Messages

section Printed

variable {sensors : List SensorId} {units : KeyMap SensorId LinSight.Unit} {count : Option Nat}
  {interrupted : Nat → Bool}

theorem lines_cons (msg : ServerMsg) (rest : List ServerMsg) :
    lines sensors units (msg :: rest) =
      match react sensors units msg with
      | .print sample unit => (sample, unit) :: lines sensors units rest
      | .pass => lines sensors units rest
      | _ => [] := by
  unfold lines
  rw [List.takeWhile_cons]
  cases reaction : react sensors units msg <;>
    simp [goesOn, line, reaction]

theorem limited_self {printed : List (Sample × LinSight.Unit)}
    (missing : enough count printed.length = false) : limited count printed = printed := by
  cases count with
  | none => rfl
  | some max =>
      have short : printed.length < max := by simpa [enough] using missing
      exact List.take_of_length_le (by omega)

theorem enough_mono {fewer more : Nat} (reached : enough count fewer = true)
    (le : fewer ≤ more) : enough count more = true := by
  cases count with
  | none => cases reached
  | some max =>
      have full : max ≤ fewer := by simpa [enough] using reached
      exact decide_eq_true (full.trans le)

/-- The line that completes the count is the last one. -/
theorem limited_of_enough {printed more : List (Sample × LinSight.Unit)}
    {last : Sample × LinSight.Unit} (missing : enough count printed.length = false)
    (reached : enough count (printed ++ [last]).length = true) :
    limited count (printed ++ last :: more) = printed ++ [last] := by
  cases count with
  | none => cases reached
  | some max =>
      have short : printed.length < max := by simpa [enough] using missing
      have full : max ≤ printed.length + 1 := by simpa [enough] using reached
      have exactly : max = (printed ++ [last]).length := by
        rw [List.length_append, List.length_singleton]
        omega
      show (printed ++ last :: more).take max = _
      rw [exactly, List.append_cons printed last more, List.take_left]

variable (wire : Wire ε)

section Turns

variable {postcard : Postcard ε} {turn : Nat} {printed : List (Sample × LinSight.Unit)}
  {reader next : FrameReader}

theorem watchLoop_interrupted (stop : interrupted turn = true) :
    watchLoop postcard sensors units count interrupted turn printed reader =
      (.returned (.ok ⟨⟩), printed) := by
  rw [watchLoop, if_pos stop]

theorem watchLoop_error {error : FrameError ε} (go : interrupted turn = false)
    (failed : (reader.readServer postcard).1 = .returned (.error error)) :
    watchLoop postcard sensors units count interrupted turn printed reader =
      (.returned (.error (.reading error)), printed) := by
  rw [watchLoop, go, if_neg (by simp)]
  split <;> simp_all

theorem watchLoop_message {msg : ServerMsg} (go : interrupted turn = false)
    (read : reader.readServer postcard = (.returned (.ok msg), next)) :
    watchLoop postcard sensors units count interrupted turn printed reader =
      match react sensors units msg with
      | .print sample unit =>
          if enough count (printed ++ [(sample, unit)]).length then
            (.returned (.ok ⟨⟩), printed ++ [(sample, unit)])
          else watchLoop postcard sensors units count interrupted (turn + 1)
            (printed ++ [(sample, unit)]) next
      | .degraded sensor reason => (.returned (.error (.degraded sensor reason)), printed)
      | .farewell => (.returned (.ok ⟨⟩), printed)
      | .pass => watchLoop postcard sensors units count interrupted (turn + 1) printed next := by
  rw [watchLoop, go, if_neg (by simp)]
  split
  · simp_all
  · simp_all
  · rename_i other after again
    rw [read] at again
    cases again
    rfl

/-- Nothing more is read once the flag is found set. -/
theorem watchLoop_stopped (stop : interrupted turn = true)
    (missing : enough count printed.length = false) (msgs : List ServerMsg) :
    watchLoop postcard sensors units count interrupted turn printed reader =
      (.returned
        (if enough count (printed ++ lines sensors units (heard interrupted turn msgs)).length then
          .ok ⟨⟩ else ending sensors units interrupted turn msgs),
        limited count (printed ++ lines sensors units (heard interrupted turn msgs))) := by
  have silent : heard interrupted turn msgs = [] := by
    cases msgs with
    | nil => rfl
    | cons msg rest => rw [heard, if_pos stop]
  have ended : ending (ε := ε) sensors units interrupted turn msgs = .ok ⟨⟩ := by
    cases msgs <;> rw [ending, if_pos stop]
  have nothing : printed ++ lines sensors units [] = printed := List.append_nil printed
  rw [watchLoop_interrupted stop, silent, nothing, ended, limited_self missing, ite_self]

end Turns

variable (sensors units count interrupted) in
/-- The loop on the frames of messages prints the lines of those it reads, as many as asked for;
where they are fewer it ends like one without a count. -/
theorem watchLoop_spec {msgs : List ServerMsg}
    (each : ∀ msg ∈ msgs, wire.serverMsg.Faithful msg ∧
      (wire.serverMsg.encode msg).length ≤ maxFrameBytes)
    (reader : FrameReader)
    (stream : reader.inner = msgs.flatMap fun msg => frame (wire.serverMsg.encode msg))
    (turn : Nat) {printed : List (Sample × LinSight.Unit)}
    (missing : enough count printed.length = false) :
    watchLoop wire.postcard sensors units count interrupted turn printed reader =
      (.returned
        (if enough count (printed ++ lines sensors units (heard interrupted turn msgs)).length then
          .ok ⟨⟩ else ending sensors units interrupted turn msgs),
        limited count (printed ++ lines sensors units (heard interrupted turn msgs))) := by
  induction msgs generalizing reader turn printed with
  | nil =>
      cases stop : interrupted turn with
      | true => exact watchLoop_stopped stop missing _
      | false =>
          have closed : (reader.readServer wire.postcard).1 =
              .returned (.error .closed) :=
            FrameReader.readMsg_nil wire.serverMsg.fromBytes reader stream
          have nothing : printed ++ lines sensors units [] = printed := List.append_nil printed
          rw [watchLoop_error stop closed, heard, nothing, limited_self missing, missing, ending,
            stop]
          rfl
  | cons msg rest ih =>
      cases stop : interrupted turn with
      | true => exact watchLoop_stopped stop missing _
      | false =>
          obtain ⟨⟨_, nonempty, decodes⟩, fits⟩ := each msg List.mem_cons_self
          obtain ⟨next, read, left⟩ :=
            FrameReader.readMsg_frame wire.serverMsg.fromBytes nonempty fits reader stream
          rw [decodes] at read
          change reader.readServer wire.postcard = (.returned (.ok msg), next) at read
          have later := @ih (fun other member => each other (List.mem_cons_of_mem _ member)) next
            left (turn + 1)
          have told : heard interrupted turn (msg :: rest) =
              msg :: heard interrupted (turn + 1) rest := by rw [heard, stop]; rfl
          rw [watchLoop_message stop read, told, lines_cons, ending, stop]
          simp only [Bool.false_eq_true, ↓reduceIte]
          cases react sensors units msg with
          | print sample unit =>
              dsimp only
              cases reached : enough count (printed ++ [(sample, unit)]).length with
              | true =>
                  have still : enough count
                      (printed ++ (sample, unit) :: lines sensors units
                        (heard interrupted (turn + 1) rest)).length = true := by
                    apply enough_mono reached
                    simp only [List.length_append, List.length_cons, List.length_nil]
                    omega
                  rw [if_pos rfl, limited_of_enough missing reached, still, if_pos rfl]
              | false =>
                  rw [later reached, ← List.append_cons]
                  rfl
          | degraded sensor reason =>
              simp only [List.append_nil, missing, Bool.false_eq_true, ↓reduceIte,
                limited_self missing]
          | farewell => simp only [List.append_nil, ite_self, limited_self missing]
          | pass => exact later missing

end Printed

section Session

variable (wire : Wire ε)

/-- The requests for the units, with the ids they get. -/
def unitRequests : List SensorId → Nat → List ClientMsg
  | [], _ => []
  | id :: rest, reqId =>
      .request reqId (.getSensorInfo id.asStr) :: unitRequests rest ((reqId + 1) % 2 ^ 32)

/-- The readers' condition on what a writer has sent. -/
def Sent (msgs : List ServerMsg) : Prop :=
  ∀ msg ∈ msgs, Tagged wire.serverMsg msg ∧ (wire.serverMsg.encode msg).length ≤ maxFrameBytes

/-- The frames of the messages. -/
def framed (msgs : List ServerMsg) : List UInt8 :=
  msgs.flatMap fun msg => frame (wire.serverMsg.encode msg)

theorem requestRpc_spec {msgs : List ServerMsg} (sent : Sent wire msgs) (op : RequestOp)
    (session : Session) (stream : session.reader.inner = framed wire msgs)
    {payload : ResponsePayload} {left : List ServerMsg}
    (answered : FrameReader.awaitedIn (ε := ε) session.nextReqId msgs = (.ok payload, left)) :
    ∃ reader, requestRpc wire.postcard op session = (.returned (.ok payload),
        ⟨reader, session.sent ++ [.request session.nextReqId op],
          (session.nextReqId + 1) % 2 ^ 32⟩) ∧
      reader.inner = framed wire left := by
  have awaits := FrameReader.readServerResponse_awaits wire.clientMsg msgs sent session.nextReqId
    session.reader stream
  rw [answered] at awaits
  obtain ⟨result, inner⟩ := awaits
  generalize read : session.reader.readServerResponse wire.postcard session.nextReqId = outcome
  change (session.reader.readServerResponse wire.postcard session.nextReqId).1 = _ at result
  change (session.reader.readServerResponse wire.postcard session.nextReqId).2.inner = _ at inner
  rw [read] at result inner
  obtain ⟨ended, reader⟩ := outcome
  dsimp only at result
  subst result
  refine ⟨reader, ?_, inner⟩
  simp only [requestRpc, Session.send, read]

theorem fetchUnits_spec {msgs : List ServerMsg} (sent : Sent wire msgs) (sensors : List SensorId)
    (units : KeyMap SensorId LinSight.Unit) (session : Session)
    (stream : session.reader.inner = framed wire msgs)
    {known : KeyMap SensorId LinSight.Unit} {left : List ServerMsg}
    (answered : unitsIn (ε := ε) sensors units session.nextReqId msgs = (.ok known, left)) :
    ∃ next, fetchUnits wire.postcard sensors units session = (.returned (.ok known), next) ∧
      next.reader.inner = framed wire left ∧ left <:+ msgs ∧
      next.sent = session.sent ++ unitRequests sensors session.nextReqId := by
  induction sensors generalizing msgs units session with
  | nil =>
      cases answered
      exact ⟨session, rfl, stream, List.suffix_refl _, (List.append_nil _).symm⟩
  | cons id rest ih =>
      rw [unitsIn] at answered
      have suffix := @FrameReader.awaitedIn_suffix ε session.nextReqId msgs
      split at answered
      · cases answered
      · rename_i payload after awaited
        rw [awaited] at suffix
        obtain ⟨reader, taken, inner⟩ :=
          requestRpc_spec wire sent (.getSensorInfo id.asStr) session stream awaited
        split at answered
        · cases answered
        · rename_i unit known_unit
          have still : Sent wire after := fun msg member => sent msg (suffix.subset member)
          obtain ⟨next, fetched, rest_stream, rest_suffix, rest_sent⟩ :=
            ih still (units.insert id unit)
              ⟨reader, session.sent ++ [.request session.nextReqId (.getSensorInfo id.asStr)], _⟩
              inner answered
          refine ⟨next, ?_, rest_stream, rest_suffix.trans suffix, ?_⟩
          · rw [fetchUnits, taken]
            simp only [known_unit, fetched]
          · rw [rest_sent, unitRequests, List.append_assoc]
            rfl

/-- Every sensor has a unit after the requests. -/
theorem unitsIn_lookup {sensors : List SensorId} {units known : KeyMap SensorId LinSight.Unit}
    {reqId : Nat} {msgs left : List ServerMsg}
    (answered : unitsIn (ε := ε) sensors units reqId msgs = (.ok known, left)) (id : SensorId)
    (asked : id ∈ sensors ∨ id ∈ units) : id ∈ known := by
  induction sensors generalizing units reqId msgs with
  | nil =>
      cases answered
      exact asked.resolve_left (List.not_mem_nil)
  | cons first rest ih =>
      rw [unitsIn] at answered
      split at answered
      · cases answered
      · split at answered
        · cases answered
        · apply ih answered
          rcases asked with member | before
          · rcases List.mem_cons.mp member with rfl | later
            · exact .inr ((AList.mem_insert _).mpr (.inl rfl))
            · exact .inl later
          · exact .inr ((AList.mem_insert _).mpr (.inr before))

/-- The message carries a sample of one of the sensors. -/
def followed (sensors : List SensorId) : ServerMsg → Option Sample
  | .sample sample => if sample.sensor ∈ sensors then some sample else none
  | _ => none

/-- The message reports one of the sensors as degraded, or says goodbye. -/
def ends (sensors : List SensorId) : ServerMsg → Bool
  | .sensorDegraded sensor _ => decide (sensor ∈ sensors)
  | .bye _ => true
  | _ => false

/-- What the loop makes of a message, where each of the sensors has a unit. -/
theorem react_cases {sensors : List SensorId} {units : KeyMap SensorId LinSight.Unit}
    (known : ∀ id ∈ sensors, id ∈ units) (msg : ServerMsg) :
    (∃ sample unit, react sensors units msg = .print sample unit ∧
      followed sensors msg = some sample ∧ ends sensors msg = false) ∨
    (react sensors units msg = .pass ∧ followed sensors msg = none ∧ ends sensors msg = false) ∨
    (∃ sensor reason, msg = .sensorDegraded sensor reason ∧
      react sensors units msg = .degraded sensor reason ∧ ends sensors msg = true) ∨
    (∃ reason, msg = .bye reason ∧ react sensors units msg = .farewell ∧
      ends sensors msg = true) := by
  cases msg with
  | sample sample =>
      by_cases member : sample.sensor ∈ sensors
      · obtain ⟨unit, found⟩ := KeyMap.exists_lookup (known _ member)
        exact .inl ⟨sample, unit, by simp [react, member, found], by simp [followed, member], rfl⟩
      · exact .inr (.inl ⟨by simp [react, member], by simp [followed, member], rfl⟩)
  | sensorDegraded sensor reason =>
      by_cases member : sensor ∈ sensors
      · exact .inr (.inr (.inl ⟨sensor, reason, rfl, by simp [react, member],
          by simp [ends, member]⟩))
      · exact .inr (.inl ⟨by simp [react, member], rfl, by simp [ends, member]⟩)
  | bye reason => exact .inr (.inr (.inr ⟨reason, rfl, rfl, rfl⟩))
  | welcome version daemon plugins => exact .inr (.inl ⟨rfl, rfl, rfl⟩)
  | sensorList infos => exact .inr (.inl ⟨rfl, rfl, rfl⟩)
  | response reqId result => exact .inr (.inl ⟨rfl, rfl, rfl⟩)
  | sensorListBroadcast infos => exact .inr (.inl ⟨rfl, rfl, rfl⟩)

/-- The samples of the sensors up to a message that ends the loop. -/
def samplesUpToEnd (sensors : List SensorId) (msgs : List ServerMsg) : List Sample :=
  (msgs.takeWhile fun msg => !ends sensors msg).filterMap (followed sensors)

/-- How the messages that were read end the loop: the flag is looked at once more behind the last
of them, and nothing can be read behind the end of the stream. -/
def lastWord (sensors : List SensorId) (interrupted : Nat → Bool) (turn : Nat)
    (msgs : List ServerMsg) : Except (CliError ε) PUnit.{1} :=
  match (heard interrupted turn msgs).find? (ends sensors) with
  | some (.sensorDegraded sensor reason) => .error (.degraded sensor reason)
  | some _ => .ok ⟨⟩
  | none =>
      if interrupted (turn + (heard interrupted turn msgs).length) then .ok ⟨⟩
      else .error (.reading .closed)

theorem lines_samples {sensors : List SensorId} {units : KeyMap SensorId LinSight.Unit}
    (known : ∀ id ∈ sensors, id ∈ units) (msgs : List ServerMsg) :
    (lines sensors units msgs).map (·.1) = samplesUpToEnd sensors msgs := by
  induction msgs with
  | nil => rfl
  | cons msg rest ih =>
      rw [lines_cons, samplesUpToEnd, List.takeWhile_cons]
      rcases react_cases known msg with ⟨sample, unit, reaction, sampled, goes⟩ |
        ⟨reaction, sampled, goes⟩ | ⟨sensor, reason, _, reaction, stops⟩ |
        ⟨reason, _, reaction, stops⟩
      · rw [reaction, goes]
        simp only [List.map_cons, Bool.not_false, ↓reduceIte, List.filterMap_cons, sampled, ih]
        rfl
      · rw [reaction, goes]
        simp only [Bool.not_false, ↓reduceIte, List.filterMap_cons, sampled, ih]
        rfl
      · rw [reaction, stops]
        rfl
      · rw [reaction, stops]
        rfl

theorem ending_eq_lastWord {sensors : List SensorId} {units : KeyMap SensorId LinSight.Unit}
    (known : ∀ id ∈ sensors, id ∈ units) (interrupted : Nat → Bool) (turn : Nat)
    (msgs : List ServerMsg) :
    ending (ε := ε) sensors units interrupted turn msgs =
      lastWord sensors interrupted turn msgs := by
  induction msgs generalizing turn with
  | nil => rfl
  | cons msg rest ih =>
      rw [ending, lastWord, heard]
      cases stop : interrupted turn with
      | true => simp [stop]
      | false =>
          have further : turn + (heard interrupted (turn + 1) rest).length.succ =
              turn + 1 + (heard interrupted (turn + 1) rest).length := by omega
          simp only [Bool.false_eq_true, ↓reduceIte, List.find?_cons, List.length_cons, further]
          rcases react_cases known msg with ⟨sample, unit, reaction, _, goes⟩ |
            ⟨reaction, _, goes⟩ | ⟨sensor, reason, rfl, reaction, stops⟩ |
            ⟨reason, rfl, reaction, stops⟩
          · rw [reaction, goes]
            exact ih (turn + 1)
          · rw [reaction, goes]
            exact ih (turn + 1)
          · rw [reaction, stops]
          · rw [reaction, stops]

def Outcome.succeeded (outcome : Outcome ε) : Bool :=
  match outcome.ended with
  | .returned (.ok _) => true
  | _ => false

/-- What a command prints and sends once it is greeted and has its units: the samples of its
sensors as they come, up to the count, to Ctrl+C or to a message that ends it. -/
structure Streams (outcome : Outcome ε) (sensors : List SensorId)
    (units : KeyMap SensorId LinSight.Unit) (rateHz : Option Ieee.Value) (count : Option Nat)
    (interrupted : Nat → Bool) (live : List ServerMsg) : Prop where
  samples : outcome.printed.map (·.1) =
    limited count (samplesUpToEnd sensors (heard interrupted 0 live))
  units : ∀ line ∈ outcome.printed, units.lookup line.1.sensor = some line.2
  ended : outcome.ended = .returned
    (if enough count (samplesUpToEnd sensors (heard interrupted 0 live)).length then .ok ⟨⟩
      else lastWord sensors interrupted 0 live)
  sent : outcome.sent =
    .hello protocolVersion "linsight-cli" none :: unitRequests sensors 1 ++
      [.subscribe sensors rateHz] ++
      if outcome.succeeded then [.unsubscribe sensors, .goodbye] else []

theorem limited_map {α β : Type} (f : α → β) (count : Option Nat) (items : List α) :
    (limited count items).map f = limited count (items.map f) := by
  cases count with
  | none => rfl
  | some max => exact List.map_take

theorem limited_subset {α : Type} (count : Option Nat) (items : List α) :
    limited count items ⊆ items := by
  cases count with
  | none => exact List.Subset.refl items
  | some max => exact List.take_subset max items

theorem lines_unit {sensors : List SensorId} {units : KeyMap SensorId LinSight.Unit}
    {msgs : List ServerMsg} {line : Sample × LinSight.Unit}
    (member : line ∈ lines sensors units msgs) : units.lookup line.1.sensor = some line.2 := by
  obtain ⟨msg, _, printed⟩ := List.mem_filterMap.mp member
  unfold Cli.line at printed
  split at printed
  · rename_i sample unit reaction
    cases printed
    unfold react at reaction
    split at reaction
    · split at reaction
      · split at reaction
        · rename_i found
          cases reaction
          exact found
        · cases reaction
      · cases reaction
    · split at reaction <;> cases reaction
    · cases reaction
    · cases reaction
  · cases printed

theorem connectAndHello_spec {version : String} {plugins : List PluginInfo}
    {rest : List ServerMsg}
    (sent : Sent wire (.welcome protocolVersion version plugins :: rest)) :
    ∃ reader, connectAndHello wire.postcard
        (framed wire (.welcome protocolVersion version plugins :: rest)) =
      (.returned (.ok ⟨⟩), ⟨reader, [.hello protocolVersion "linsight-cli" none], 1⟩) ∧
      reader.inner = framed wire rest := by
  obtain ⟨⟨⟨_, nonempty, decodes⟩, _⟩, fits⟩ := sent _ List.mem_cons_self
  obtain ⟨reader, read, inner⟩ := FrameReader.readMsg_frame wire.serverMsg.fromBytes nonempty fits
    (.new (framed wire (.welcome protocolVersion version plugins :: rest))) rfl
  rw [decodes] at read
  change FrameReader.readServer wire.postcard _ =
    (.returned (.ok (.welcome protocolVersion version plugins)), reader) at read
  refine ⟨reader, ?_, inner⟩
  simp only [connectAndHello, Session.send, read]
  rfl

theorem session_streams {msgs live : List ServerMsg} (sent : Sent wire msgs)
    {version : String} {plugins : List PluginInfo} {rest : List ServerMsg}
    (greeted : msgs = .welcome protocolVersion version plugins :: rest)
    {sensors : List SensorId} {units : KeyMap SensorId LinSight.Unit}
    (answered : unitsIn (ε := ε) sensors ∅ 1 rest = (.ok units, live))
    (rateHz : Option Ieee.Value) {count : Option Nat} (asked : count ≠ some 0)
    (interrupted : Nat → Bool) :
    Streams (session wire.postcard sensors rateHz count interrupted (framed wire msgs)) sensors
      units rateHz count interrupted live := by
  subst greeted
  have rest_sent : Sent wire rest := fun msg member => sent msg (List.mem_cons_of_mem _ member)
  obtain ⟨reader, hello, inner⟩ := connectAndHello_spec wire sent
  obtain ⟨opened, fetched, stream, suffix, requested⟩ := fetchUnits_spec wire rest_sent sensors ∅
    ⟨reader, [.hello protocolVersion "linsight-cli" none], 1⟩ inner answered
  have known : ∀ id ∈ sensors, id ∈ units := fun id member =>
    unitsIn_lookup answered id (.inl member)
  have missing : enough count ([] : List (Sample × LinSight.Unit)).length = false := by
    cases count with
    | none => rfl
    | some max =>
        have positive : max ≠ 0 := fun zero => asked (congrArg some zero)
        simp [enough, positive]
  have live_sent : ∀ msg ∈ live, wire.serverMsg.Faithful msg ∧
      (wire.serverMsg.encode msg).length ≤ maxFrameBytes := by
    intro msg member
    have tagged := rest_sent msg (suffix.subset member)
    exact ⟨tagged.1.toFaithful, tagged.2⟩
  have loop := watchLoop_spec sensors units count interrupted wire live_sent opened.reader stream 0
    missing
  rw [List.nil_append, ending_eq_lastWord known, ← List.length_map (f := (·.1)),
    lines_samples known] at loop
  have outcome_eq : session wire.postcard sensors rateHz count interrupted
      (framed wire (.welcome protocolVersion version plugins :: rest)) =
      ⟨.returned (if enough count (samplesUpToEnd sensors (heard interrupted 0 live)).length
          then .ok ⟨⟩ else lastWord sensors interrupted 0 live),
        limited count (lines sensors units (heard interrupted 0 live)),
        opened.sent ++ [.subscribe sensors rateHz] ++
          if (if enough count (samplesUpToEnd sensors (heard interrupted 0 live)).length
            then (.ok ⟨⟩ : Except (CliError ε) PUnit.{1})
            else lastWord sensors interrupted 0 live).isOk
          then [.unsubscribe sensors, .goodbye] else []⟩ := by
    simp only [session, hello, fetched, Session.send, loop]
    generalize (if enough count (samplesUpToEnd sensors (heard interrupted 0 live)).length
      then (.ok ⟨⟩ : Except (CliError ε) PUnit.{1})
      else lastWord sensors interrupted 0 live) = final
    cases final with
    | ok _ => simp [Except.isOk, Except.toBool]
    | error error => simp [Except.isOk, Except.toBool]
  rw [outcome_eq]
  constructor
  · rw [limited_map, lines_samples known]
  · intro line member
    exact lines_unit (limited_subset count _ member)
  · rfl
  · rw [requested, Outcome.succeeded]
    generalize (if enough count (samplesUpToEnd sensors (heard interrupted 0 live)).length
      then (.ok ⟨⟩ : Except (CliError ε) PUnit.{1})
      else lastWord sensors interrupted 0 live) = final
    cases final with
    | ok _ => simp [Except.isOk, Except.toBool]
    | error error => simp [Except.isOk, Except.toBool]

/-- What a daemon writes to a `watch`, whatever does not fit a frame left out: after the greeting
and the answers for the units, the command prints the samples of its sensors in the order of the
stream and stops where its count, Ctrl+C or a message tells it to. -/
theorem watch_streams (alloc : Allocator) {msgs : List ServerMsg}
    (tagged : ∀ msg ∈ msgs, Tagged wire.serverMsg msg)
    {version : String} {plugins : List PluginInfo} {rest live : List ServerMsg}
    (greeted : wire.serverMsg.accepted msgs = .welcome protocolVersion version plugins :: rest)
    {sensors : List String} {ids : List SensorId} (named : sensorIds sensors = .ok ids)
    {units : KeyMap SensorId LinSight.Unit}
    (answered : unitsIn (ε := ε) ids ∅ 1 rest = (.ok units, live))
    (rateHz : Option Ieee.Value) {count : Option Nat} (asked : count ≠ some 0)
    (interrupted : Nat → Bool) :
    ∃ turns, ∀ fuel, turns ≤ fuel → ∃ writer,
      msgs.foldlM (fun writer msg =>
          (BufferedWriter.writeServer wire alloc fuel msg writer).map (·.2)) BufferedWriter.new =
        some writer ∧
      Streams (watch wire.postcard sensors rateHz count interrupted writer.inner) ids units
        (rateHz.map asF32) count interrupted live := by
  obtain ⟨turns, streams⟩ := (roundTrips wire.serverMsg alloc
    fun msg member => (tagged msg member).toFaithful).stream
  refine ⟨turns, fun fuel fueled => ?_⟩
  obtain ⟨writer, written, inner, _⟩ := streams fuel fueled
  refine ⟨writer, written, ?_⟩
  have sent : Sent wire (wire.serverMsg.accepted msgs) := by
    intro msg member
    obtain ⟨inside, fits⟩ := List.mem_filter.mp member
    exact ⟨tagged msg inside, of_decide_eq_true fits⟩
  have started : watch wire.postcard sensors rateHz count interrupted writer.inner =
      session wire.postcard ids (rateHz.map asF32) count interrupted
        (framed wire (wire.serverMsg.accepted msgs)) := by
    rw [watch, if_neg asked, named, inner]
    rfl
  rw [started]
  exact session_streams wire sent greeted answered _ asked interrupted

end Session

section Example

def memUsedInfo : SensorInfo where
  id := memUsedBytes.id
  displayName := memUsedBytes.displayName
  unit := memUsedBytes.unit
  kind := memUsedBytes.kind
  category := memUsedBytes.category
  nativeRateHz := memUsedBytes.nativeRateHz
  min := memUsedBytes.min
  max := memUsedBytes.max
  deviceId := memUsedBytes.deviceId
  pluginId := "mem"
  deviceKey := none
  deviceLabel := none
  tags := memUsedBytes.tags

def memUsedAt (tsMicros : Nat) : Sample := ⟨memUsedBytes.id, tsMicros, .counter 1⟩

/-- Greetings, answers for one sensor, its samples of the first 256 µs and farewells. -/
def memReplies : Wire String where
  clientMsg := farewells.clientMsg
  serverMsg := .filling
    (fun
      | .welcome _ _ _ => [0]
      | .sensorList _ => [1]
      | .sample sample => [2, UInt8.ofNat sample.tsMicros]
      | .sensorDegraded _ _ => [3]
      | .bye _ => [4]
      | .response reqId _ => [5, UInt8.ofNat reqId]
      | .sensorListBroadcast _ => [6])
    (fun
      | [0] => .ok (.welcome 3 "" [])
      | [2, ts] => .ok (.sample (memUsedAt ts.toNat))
      | [4] => .ok (.bye "")
      | [5, reqId] => .ok (.response reqId.toNat (.ok (.sensorInfo memUsedInfo)))
      | [6] => .ok (.sensorListBroadcast [])
      | _ => .error "unexpected variant")

/-- A catalogue broadcast among three samples; the third is one too many. -/
def memStream : List ServerMsg :=
  [.welcome 3 "" [], .response 1 (.ok (.sensorInfo memUsedInfo)), .sample (memUsedAt 1),
    .sensorListBroadcast [], .sample (memUsedAt 2), .sample (memUsedAt 3), .bye ""]

theorem watch_streams_mem : ∃ turns, ∀ fuel, turns ≤ fuel → ∃ writer,
    memStream.foldlM (fun writer msg => (BufferedWriter.writeServer memReplies
        ⟨fun _ len more => len + more, fun _ _ _ => le_rfl⟩ fuel msg writer).map (·.2))
      BufferedWriter.new = some writer ∧
    Streams (watch memReplies.postcard ["mem.used_bytes"] none (some 2) (fun _ => false)
        writer.inner) [memUsedBytes.id] (AList.insert memUsedBytes.id memUsedBytes.unit ∅) none
      (some 2) (fun _ => false) (memStream.drop 2) := by
  refine watch_streams memReplies _ ?_ rfl rfl rfl none (by decide) _
  intro msg member
  simp only [memStream, List.mem_cons, List.not_mem_nil, or_false] at member
  rcases member with rfl | rfl | rfl | rfl | rfl | rfl | rfl
  all_goals exact ⟨Format.filling_faithful (List.cons_ne_nil _ _) rfl, rfl⟩

end Example

end LinSight.Cli
