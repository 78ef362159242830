import LinSight.Daemon.Catalogues
import LinSight.Daemon.TransportSteps
import LinSight.Gui.ClientCalls

set_option autoImplicit false

/-! The opening of a connection: the client's two requests against the daemon's session for it,
while other sessions rename devices and the sampler fans out. -/

namespace LinSight.Gui

/-- Why an opening fails. `Debug` prints the message that was not expected. -/
inductive JoinError where
  | protocolMismatch (daemon : Nat)
  | daemonRefused (reason : String)
  | unexpectedHandshakeReply (msg : ServerMsg)
  | unexpectedReplyToListSensors (msg : ServerMsg)
  /-- The stream has ended, or nothing came in time. -/
  | read

/-- Where `finish_handshake` stands, or `run` of `linsight-cli list`. -/
inductive ClientPhase where
  | start
  | awaitWelcome
  | welcomed
  | awaitList
  | done (result : Except JoinError (List SensorInfo))

/-- Where `serve` stands for the new client. `ended` is an early return or a panic. -/
inductive ServerPhase where
  | accepted
  | greeting
  | welcomed
  | serving
  | answered (infos : List SensorInfo)
  | ended

/-- The world of the other sessions, and the two ends of the connection. -/
structure Joining (Text : Type) where
  world : Catalogues Text
  client : ClientPhase
  server : ServerPhase
  toServer : List ClientMsg
  toClient : List ServerMsg

namespace Joining

inductive Step where
  | sendHello
  | readWelcome
  | sendListSensors
  | readReply
  | readHello
  | writeWelcome (plugins : List PluginInfo)
  | register
  | answer
  | pump
  | elsewhere (label : Catalogues.Step)

/-- The two ends of the connection take these steps. -/
def Step.isOpening : Step → Bool
  | .pump | .elsewhere _ => false
  | _ => true

/-- The step of the daemon is one of the client's session. -/
def ofSession (client : Nat) : LinSight.Step → Bool
  | .connect other | .subscribe other _ _ | .unsubscribe other _ | .unsubscribed other
  | .disconnect other | .pump other | .pumpExit other | .deregister other | .drain other
  | .release other => other = client
  | _ => false

def authTokenOk (expected provided : Option String) : Bool :=
  match expected, provided with
  | some expected, some provided => provided = expected
  | some _, none => false
  | none, _ => true

/-- The reason of the `Bye`, if the `Hello` is refused. -/
def refusal (authToken : Option String) : ClientMsg → Option String
  | .hello version _ token =>
      if version ≠ protocolVersion then
        some s!"handshake failed: protocol version mismatch: client={version} daemon={protocolVersion}"
      else if authTokenOk authToken token then none
      else some "authentication failed"
  | _ => some "handshake failed: first message must be Hello"

section Model

variable {Text : Type} (codec : NicknameStore.Codec Text)
  (pluginIdFor : SensorId → Option String) (encode : ServerMsg → List UInt8)
  (authToken : Option String) (clientName : String) (id : Nat)

def fits (msg : ServerMsg) : Bool := (encode msg).length ≤ maxFrameBytes

def start (world : Catalogues Text) : Joining Text where
  world := world
  client := .start
  server := .accepted
  toServer := []
  toClient := []

/-- A message for the client, or the end of the session if it is too long for a frame. -/
def write (joining : Joining Text) (msg : ServerMsg) (next : ServerPhase) : Joining Text :=
  if fits encode msg then { joining with server := next, toClient := joining.toClient ++ [msg] }
  else { joining with server := .ended }

/-- The next message for the client, or the end of the stream behind the last one. -/
def read (joining : Joining Text)
    (take : Except JoinError ServerMsg → ClientPhase) : Option (Joining Text) :=
  match joining.toClient, joining.server with
  | msg :: rest, _ => some { joining with client := take (.ok msg), toClient := rest }
  | [], .ended => some { joining with client := take (.error .read) }
  | [], _ => none

def takeWelcome : Except JoinError ServerMsg → ClientPhase
  | .ok (.welcome version _ _) =>
      if version = protocolVersion then .welcomed else .done (.error (.protocolMismatch version))
  | .ok (.bye reason) => .done (.error (.daemonRefused reason))
  | .ok msg => .done (.error (.unexpectedHandshakeReply msg))
  | .error e => .done (.error e)

def takeReply : Except JoinError ServerMsg → ClientPhase
  | .ok (.sensorList infos) => .done (.ok infos)
  | .ok msg => .done (.error (.unexpectedReplyToListSensors msg))
  | .error e => .done (.error e)

/-- One message of the session's pump, which ends at one that is too long. -/
def pump (joining : Joining Text) : Option (Joining Text) :=
  (joining.world.daemon.sessions.lookup id).bind fun session =>
    match session.queue with
    | [] => none
    | msg :: _ =>
        (joining.world.step codec pluginIdFor (.daemon (.pump id))).bind fun world =>
          if fits encode msg.toServerMsg then
            some { joining with world, toClient := joining.toClient ++ [msg.toServerMsg] }
          else (world.step codec pluginIdFor (.daemon (.pumpExit id))).map fun world =>
            { joining with world }

def step (joining : Joining Text) : Step → Option (Joining Text)
  | .sendHello =>
      match joining.client with
      | .start => some { joining with
          client := .awaitWelcome
          toServer := joining.toServer ++ [.hello protocolVersion clientName none] }
      | _ => none
  | .readWelcome =>
      match joining.client with
      | .awaitWelcome => joining.read takeWelcome
      | _ => none
  | .sendListSensors =>
      match joining.client with
      | .welcomed => some { joining with
          client := .awaitList
          toServer := joining.toServer ++ [.listSensors] }
      | _ => none
  | .readReply =>
      match joining.client with
      | .awaitList => joining.read takeReply
      | _ => none
  | .readHello =>
      match joining.server, joining.toServer with
      | .accepted, msg :: rest =>
          let joining := { joining with toServer := rest }
          match refusal authToken msg with
          | some reason => some (joining.write encode (.bye reason) .ended)
          | none => some { joining with server := .greeting }
      | _, _ => none
  | .writeWelcome plugins =>
      match joining.server with
      | .greeting =>
          -- the scheduler mutex is taken for the plugins
          if joining.world.daemon.poisoned then some { joining with server := .ended }
          else some (joining.write encode (.welcome protocolVersion "1.20.5" plugins) .welcomed)
      | _ => none
  | .register =>
      match joining.server with
      | .welcomed => (joining.world.step codec pluginIdFor (.daemon (.connect id))).map fun world =>
          { joining with world, server := .serving }
      | _ => none
  | .answer =>
      match joining.server, joining.toServer with
      | .serving, .listSensors :: rest =>
          let joining := { joining with toServer := rest }
          if joining.world.daemon.poisoned then some { joining with server := .ended }
          else
            let infos := joining.world.catalogue pluginIdFor
            some (joining.write encode (.sensorList infos) (.answered infos))
      | _, _ => none
  | .pump => joining.pump codec pluginIdFor encode id
  | .elsewhere (.daemon label) =>
      if ofSession id label then none
      else (joining.world.step codec pluginIdFor (.daemon label)).map fun world =>
        { joining with world }
  | .elsewhere label => (joining.world.step codec pluginIdFor label).map fun world =>
      { joining with world }

end Model

/-- Messages that a `Welcome` is expected not to be. -/
def notWelcome : ServerMsg → Bool
  | .welcome _ _ _ => false
  | _ => true

def notList : ServerMsg → Bool
  | .sensorList _ => false
  | _ => true

/-- The session has written its `Welcome` and not yet its `SensorList`. -/
def Up (server : ServerPhase) : Prop := server = .welcomed ∨ server = .serving

/-- The openings that go well so far. -/
inductive Fine {Text : Type} (clientName : String) : Joining Text → Prop
  | start (world : Catalogues Text) : Fine clientName ⟨world, .start, .accepted, [], []⟩
  | helloSent (world : Catalogues Text) :
      Fine clientName ⟨world, .awaitWelcome, .accepted, [.hello protocolVersion clientName none], []⟩
  | greeting (world : Catalogues Text) : Fine clientName ⟨world, .awaitWelcome, .greeting, [], []⟩
  | greeted (world : Catalogues Text) (server : ServerPhase) (up : Up server)
      (plugins : List PluginInfo) : Fine clientName
        ⟨world, .awaitWelcome, server, [], [.welcome protocolVersion "1.20.5" plugins]⟩
  | welcomed (world : Catalogues Text) (server : ServerPhase) (up : Up server) :
      Fine clientName ⟨world, .welcomed, server, [], []⟩
  | asked (world : Catalogues Text) (server : ServerPhase) (up : Up server) :
      Fine clientName ⟨world, .awaitList, server, [.listSensors], []⟩
  | answered (world : Catalogues Text) (infos : List SensorInfo) (rest : List ServerMsg) :
      Fine clientName ⟨world, .awaitList, .answered infos, [], .sensorList infos :: rest⟩
  | joined (world : Catalogues Text) (infos : List SensorInfo) (rest : List ServerMsg) :
      Fine clientName ⟨world, .done (.ok infos), .answered infos, [], rest⟩

/-- The openings that have failed or will: what the client reads next is not what it expects. -/
inductive Doomed {Text : Type} : Joining Text → Prop
  | failed (world : Catalogues Text) (server : ServerPhase) (toServer : List ClientMsg)
      (toClient : List ServerMsg) (e : JoinError) :
      Doomed ⟨world, .done (.error e), server, toServer, toClient⟩
  | early (world : Catalogues Text) (server : ServerPhase) (toServer : List ClientMsg)
      (msg : ServerMsg) (rest : List ServerMsg) (other : notWelcome msg = true) :
      Doomed ⟨world, .start, server, toServer, msg :: rest⟩
  | unwelcome (world : Catalogues Text) (server : ServerPhase) (toServer : List ClientMsg)
      (msg : ServerMsg) (rest : List ServerMsg) (other : notWelcome msg = true) :
      Doomed ⟨world, .awaitWelcome, server, toServer, msg :: rest⟩
  | unanswered (world : Catalogues Text) (toServer : List ClientMsg) :
      Doomed ⟨world, .awaitWelcome, .ended, toServer, []⟩
  | behindWelcome (world : Catalogues Text) (server : ServerPhase) (toServer : List ClientMsg)
      (welcome msg : ServerMsg) (rest : List ServerMsg) (other : notList msg = true) :
      Doomed ⟨world, .awaitWelcome, server, toServer, welcome :: msg :: rest⟩
  | ahead (world : Catalogues Text) (server : ServerPhase) (toServer : List ClientMsg)
      (msg : ServerMsg) (rest : List ServerMsg) (other : notList msg = true) :
      Doomed ⟨world, .welcomed, server, toServer, msg :: rest⟩
  | unexpected (world : Catalogues Text) (server : ServerPhase) (toServer : List ClientMsg)
      (msg : ServerMsg) (rest : List ServerMsg) (other : notList msg = true) :
      Doomed ⟨world, .awaitList, server, toServer, msg :: rest⟩
  | unlisted (world : Catalogues Text) (toServer : List ClientMsg) :
      Doomed ⟨world, .awaitList, .ended, toServer, []⟩

section Openings

variable {Text : Type} {codec : NicknameStore.Codec Text}
  {pluginIdFor : SensorId → Option String} {encode : ServerMsg → List UInt8}
  {authToken : Option String} {clientName : String} {id : Nat} {joining next : Joining Text}

/-- No token is set, the session finds the scheduler's lock unpoisoned, its `Welcome` and its
`SensorList` fit into frames, and its pump writes no message before the `SensorList`. -/
def Undisturbed (pluginIdFor : SensorId → Option String) (encode : ServerMsg → List UInt8)
    (authToken : Option String) (id : Nat) (joining : Joining Text) : Step → Prop
  | .readHello => authToken = none
  | .writeWelcome plugins => joining.world.daemon.poisoned = false ∧
      fits encode (.welcome protocolVersion "1.20.5" plugins) = true
  | .answer => joining.world.daemon.poisoned = false ∧
      fits encode (.sensorList (joining.world.catalogue pluginIdFor)) = true
  | .pump => (∃ infos, joining.server = .answered infos) ∨ ∀ session msg rest,
      joining.world.daemon.sessions.lookup id = some session → session.queue = msg :: rest →
      fits encode msg.toServerMsg = false
  | _ => True

/-- What the pump can do. -/
theorem pump_cases (taken : joining.pump codec pluginIdFor encode id = some next) :
    ∃ world, (∃ msg : OutboundMsg, next =
        { joining with world, toClient := joining.toClient ++ [msg.toServerMsg] } ∧
      ∃ session rest, joining.world.daemon.sessions.lookup id = some session ∧
        session.queue = msg :: rest ∧ fits encode msg.toServerMsg = true) ∨
      next = { joining with world } ∧ ∀ session msg rest,
        joining.world.daemon.sessions.lookup id = some session → session.queue = msg :: rest →
        fits encode msg.toServerMsg = false := by
  obtain ⟨session, found, rest⟩ := Option.bind_eq_some_iff.mp taken
  split at rest
  · cases rest
  · rename_i msg waiting queue
    obtain ⟨world, pumped, rest⟩ := Option.bind_eq_some_iff.mp rest
    split at rest
    · rename_i fitting
      cases rest
      exact ⟨world, .inl ⟨msg, rfl, session, waiting, found, queue, fitting⟩⟩
    · rename_i unfit
      obtain ⟨after, exited, rfl⟩ := Option.map_eq_some_iff.mp rest
      refine ⟨after, .inr ⟨rfl, fun held other others here queued => ?_⟩⟩
      rw [found, Option.some.injEq] at here
      rw [← here, queue, List.cons.injEq] at queued
      rw [← queued.1]
      simpa using unfit

/-- Steps elsewhere only change the world. -/
theorem elsewhere_cases {label : Catalogues.Step}
    (taken : joining.step codec pluginIdFor encode authToken clientName id (.elsewhere label) =
      some next) :
    (∀ move, label = .daemon move → ofSession id move = false) ∧
      ∃ world, joining.world.step codec pluginIdFor label = some world ∧
        next = { joining with world } := by
  cases label with
  | names move =>
      obtain ⟨world, moved, rfl⟩ := Option.map_eq_some_iff.mp taken
      exact ⟨(fun _ same => nomatch same), world, moved, rfl⟩
  | daemon move =>
      simp only [step] at taken
      split at taken
      · cases taken
      · rename_i other
        obtain ⟨world, moved, rfl⟩ := Option.map_eq_some_iff.mp taken
        refine ⟨fun same equal => ?_, world, moved, rfl⟩
        cases equal
        simpa using other

/-- What a read can do. -/
theorem read_cases {take : Except JoinError ServerMsg → ClientPhase}
    (taken : joining.read take = some next) :
    ∃ client toClient, next = { joining with client, toClient } := by
  unfold read at taken
  split at taken
  · cases taken
    exact ⟨_, _, rfl⟩
  · rename_i empty _
    cases taken
    exact ⟨_, [], by rw [← empty]⟩
  · cases taken

theorem notWelcome_pumped (msg : OutboundMsg) : notWelcome msg.toServerMsg = true := by
  cases msg <;> rfl

theorem notList_pumped (msg : OutboundMsg) : notList msg.toServerMsg = true := by
  cases msg <;> rfl

/-- A message of the pump behind what a doomed opening has to read does not save it. -/
theorem Doomed.pumped {world : Catalogues Text} {client : ClientPhase} {server : ServerPhase}
    {toServer : List ClientMsg} {toClient : List ServerMsg}
    (doomed : Doomed ⟨joining.world, client, server, toServer, toClient⟩) (msg : OutboundMsg) :
    Doomed ⟨world, client, server, toServer, toClient ++ [msg.toServerMsg]⟩ := by
  cases doomed with
  | failed => exact .failed ..
  | early _ _ _ _ _ other => exact .early _ _ _ _ _ other
  | unwelcome _ _ _ _ _ other => exact .unwelcome _ _ _ _ _ other
  | unanswered => exact .unwelcome _ _ _ _ _ (notWelcome_pumped msg)
  | behindWelcome _ _ _ _ _ _ other => exact .behindWelcome _ _ _ _ _ _ other
  | ahead _ _ _ _ _ other => exact .ahead _ _ _ _ _ other
  | unexpected _ _ _ _ _ other => exact .unexpected _ _ _ _ _ other
  | unlisted => exact .unexpected _ _ _ _ _ (notList_pumped msg)

theorem Doomed.elsewhere (world : Catalogues Text) (doomed : Doomed joining) :
    Doomed { joining with world } := by
  cases doomed with
  | failed => exact .failed ..
  | early _ _ _ _ _ other => exact .early _ _ _ _ _ other
  | unwelcome _ _ _ _ _ other => exact .unwelcome _ _ _ _ _ other
  | unanswered => exact .unanswered ..
  | behindWelcome _ _ _ _ _ _ other => exact .behindWelcome _ _ _ _ _ _ other
  | ahead _ _ _ _ _ other => exact .ahead _ _ _ _ _ other
  | unexpected _ _ _ _ _ other => exact .unexpected _ _ _ _ _ other
  | unlisted => exact .unlisted ..

/-- What a session still writes comes behind what a doomed opening has to read. -/
theorem Doomed.served (doomed : Doomed joining) (open_ : joining.server ≠ .ended)
    (world : Catalogues Text) (server : ServerPhase) (toServer : List ClientMsg)
    (more : List ServerMsg) :
    Doomed ⟨world, joining.client, server, toServer, joining.toClient ++ more⟩ := by
  cases doomed with
  | failed => exact .failed ..
  | early _ _ _ _ _ other => exact .early _ _ _ _ _ other
  | unwelcome _ _ _ _ _ other => exact .unwelcome _ _ _ _ _ other
  | unanswered => exact absurd rfl open_
  | behindWelcome _ _ _ _ _ _ other => exact .behindWelcome _ _ _ _ _ _ other
  | ahead _ _ _ _ _ other => exact .ahead _ _ _ _ _ other
  | unexpected _ _ _ _ _ other => exact .unexpected _ _ _ _ _ other
  | unlisted => exact absurd rfl open_

/-- A write of the session appends at most one message. -/
theorem write_cases (encode : ServerMsg → List UInt8) (joining : Joining Text) (msg : ServerMsg)
    (server : ServerPhase) :
    (fits encode msg = true ∧ joining.write encode msg server =
        { joining with server, toClient := joining.toClient ++ [msg] }) ∨
      fits encode msg = false ∧ joining.write encode msg server =
        { joining with server := .ended } := by
  unfold write
  cases fitting : fits encode msg with
  | true => exact .inl ⟨rfl, rfl⟩
  | false => exact .inr ⟨rfl, rfl⟩

theorem Doomed.write (doomed : Doomed joining) (open_ : joining.server ≠ .ended)
    (toServer : List ClientMsg) (msg : ServerMsg) (server : ServerPhase) :
    Doomed (({ joining with toServer } : Joining Text).write encode msg server) := by
  rcases write_cases encode { joining with toServer } msg server with ⟨_, same⟩ | ⟨_, same⟩
  · rw [same]
    exact doomed.served open_ _ _ _ _
  · rw [same]
    have := doomed.served open_ joining.world .ended toServer []
    rwa [List.append_nil] at this

theorem Doomed.readWelcome (doomed : Doomed joining) (waiting : joining.client = .awaitWelcome)
    (taken : joining.read takeWelcome = some next) : Doomed next := by
  cases doomed with
  | unwelcome _ _ _ msg rest other =>
      cases taken
      cases msg with
      | welcome => cases other
      | _ => exact .failed ..
  | unanswered =>
      cases taken
      exact .failed ..
  | behindWelcome _ _ _ first msg rest other =>
      cases taken
      cases first with
      | welcome version _ _ =>
          simp only [takeWelcome]
          split
          · exact .ahead _ _ _ _ _ other
          · exact .failed ..
      | _ => exact .failed ..
  | _ => cases waiting

theorem Doomed.readReply (doomed : Doomed joining) (waiting : joining.client = .awaitList)
    (taken : joining.read takeReply = some next) : Doomed next := by
  cases doomed with
  | unexpected _ _ _ msg rest other =>
      cases taken
      cases msg with
      | sensorList => cases other
      | _ => exact .failed ..
  | unlisted =>
      cases taken
      exact .failed ..
  | _ => cases waiting

/-- No step saves a doomed opening. -/
theorem Doomed.step (doomed : Doomed joining) {label : Step}
    (taken : joining.step codec pluginIdFor encode authToken clientName id label = some next) :
    Doomed next := by
  cases label with
  | sendHello =>
      cases doomed with
      | early _ _ _ _ _ other =>
          cases taken
          exact .unwelcome _ _ _ _ _ other
      | _ => cases taken
  | readWelcome =>
      simp only [Joining.step] at taken
      split at taken
      · rename_i waiting
        exact doomed.readWelcome waiting taken
      · cases taken
  | sendListSensors =>
      cases doomed with
      | ahead _ _ _ _ _ other =>
          cases taken
          exact .unexpected _ _ _ _ _ other
      | _ => cases taken
  | readReply =>
      simp only [Joining.step] at taken
      split at taken
      · rename_i waiting
        exact doomed.readReply waiting taken
      · cases taken
  | readHello =>
      simp only [Joining.step] at taken
      split at taken
      · rename_i msg rest accepted _
        have open_ : joining.server ≠ .ended := by
          rw [accepted]
          exact nofun
        split at taken
        · cases taken
          exact doomed.write open_ _ _ _
        · cases taken
          have := doomed.served open_ joining.world .greeting rest []
          rwa [List.append_nil] at this
      · cases taken
  | writeWelcome plugins =>
      simp only [Joining.step] at taken
      split at taken
      · rename_i greeting
        have open_ : joining.server ≠ .ended := by
          rw [greeting]
          exact nofun
        split at taken
        · cases taken
          have := doomed.served open_ joining.world .ended joining.toServer []
          rwa [List.append_nil] at this
        · cases taken
          exact doomed.write open_ _ _ _
      · cases taken
  | register =>
      simp only [Joining.step] at taken
      split at taken
      · rename_i welcomed
        have open_ : joining.server ≠ .ended := by
          rw [welcomed]
          exact nofun
        obtain ⟨world, _, rfl⟩ := Option.map_eq_some_iff.mp taken
        have := doomed.served open_ world .serving joining.toServer []
        rwa [List.append_nil] at this
      · cases taken
  | answer =>
      simp only [Joining.step] at taken
      split at taken
      · rename_i rest serving _
        have open_ : joining.server ≠ .ended := by
          rw [serving]
          exact nofun
        split at taken
        · cases taken
          have := doomed.served open_ joining.world .ended rest []
          rwa [List.append_nil] at this
        · cases taken
          exact doomed.write open_ _ _ _
      · cases taken
  | pump =>
      obtain ⟨world, ⟨msg, rfl, _⟩ | ⟨rfl, _⟩⟩ := pump_cases taken
      · exact doomed.pumped msg
      · exact doomed.elsewhere world
  | elsewhere label =>
      obtain ⟨_, world, _, rfl⟩ := elsewhere_cases taken
      exact doomed.elsewhere world

theorem Fine.elsewhere (world : Catalogues Text) (fine : Fine clientName joining) :
    Fine clientName { joining with world } := by
  cases fine with
  | start => exact .start world
  | helloSent => exact .helloSent world
  | greeting => exact .greeting world
  | greeted _ _ up => exact .greeted world _ up _
  | welcomed _ _ up => exact .welcomed world _ up
  | asked _ _ up => exact .asked world _ up
  | answered => exact .answered world _ _
  | joined => exact .joined world _ _

/-- Behind the `SensorList` the pump may write. -/
theorem Fine.pumped (fine : Fine clientName joining) {infos : List SensorInfo}
    (answered : joining.server = .answered infos) (world : Catalogues Text) (msg : ServerMsg) :
    Fine clientName { joining with world, toClient := joining.toClient ++ [msg] } := by
  cases fine with
  | answered => exact .answered ..
  | joined => exact .joined ..
  | greeted _ _ up | welcomed _ _ up | asked _ _ up =>
      rcases up with same | same <;> rw [same] at answered <;> cases answered
  | _ => cases answered

/-- Before it the pump dooms the opening. -/
theorem Fine.doomed_of_pumped (fine : Fine clientName joining)
    (unanswered : ∀ infos, joining.server ≠ .answered infos) (world : Catalogues Text)
    (msg : OutboundMsg) :
    Doomed { joining with world, toClient := joining.toClient ++ [msg.toServerMsg] } := by
  cases fine with
  | start => exact .early _ _ _ _ _ (notWelcome_pumped msg)
  | helloSent | greeting => exact .unwelcome _ _ _ _ _ (notWelcome_pumped msg)
  | greeted => exact .behindWelcome _ _ _ _ _ _ (notList_pumped msg)
  | welcomed => exact .ahead _ _ _ _ _ (notList_pumped msg)
  | asked => exact .unexpected _ _ _ _ _ (notList_pumped msg)
  | answered | joined => exact absurd rfl (unanswered _)

/-- An undisturbed step keeps an opening fine. -/
theorem Fine.step (fine : Fine clientName joining) {label : Step}
    (taken : joining.step codec pluginIdFor encode authToken clientName id label = some next)
    (undisturbed : joining.Undisturbed pluginIdFor encode authToken id label) :
    Fine clientName next := by
  cases label with
  | sendHello =>
      cases fine with
      | start => cases taken; exact .helloSent _
      | _ => cases taken
  | readWelcome =>
      cases fine with
      | greeted _ _ up =>
          cases taken
          exact .welcomed _ _ up
      | _ => cases taken
  | sendListSensors =>
      cases fine with
      | welcomed _ _ up => cases taken; exact .asked _ _ up
      | _ => cases taken
  | readReply =>
      cases fine with
      | asked _ _ up => rcases up with rfl | rfl <;> cases taken
      | answered => cases taken; exact .joined ..
      | _ => cases taken
  | readHello =>
      cases undisturbed
      cases fine with
      | helloSent => cases taken; exact .greeting _
      | greeted _ _ up | welcomed _ _ up | asked _ _ up => rcases up with rfl | rfl <;> cases taken
      | _ => cases taken
  | writeWelcome plugins =>
      obtain ⟨unpoisoned, fitting⟩ := undisturbed
      cases fine with
      | greeting =>
          dsimp only at unpoisoned
          simp only [Joining.step, unpoisoned, Bool.false_eq_true, ↓reduceIte, write, fitting,
            Option.some.injEq] at taken
          rw [← taken]
          exact .greeted _ _ (.inl rfl) _
      | greeted _ _ up | welcomed _ _ up | asked _ _ up => rcases up with rfl | rfl <;> cases taken
      | _ => cases taken
  | register =>
      cases fine with
      | greeted _ _ up =>
          rcases up with rfl | rfl
          · obtain ⟨world, _, rfl⟩ := Option.map_eq_some_iff.mp taken
            exact .greeted _ _ (.inr rfl) _
          · cases taken
      | welcomed _ _ up =>
          rcases up with rfl | rfl
          · obtain ⟨world, _, rfl⟩ := Option.map_eq_some_iff.mp taken
            exact .welcomed _ _ (.inr rfl)
          · cases taken
      | asked _ _ up =>
          rcases up with rfl | rfl
          · obtain ⟨world, _, rfl⟩ := Option.map_eq_some_iff.mp taken
            exact .asked _ _ (.inr rfl)
          · cases taken
      | _ => cases taken
  | answer =>
      obtain ⟨unpoisoned, fitting⟩ := undisturbed
      cases fine with
      | asked _ _ up =>
          rcases up with rfl | rfl
          · cases taken
          · dsimp only at unpoisoned fitting
            simp only [Joining.step, unpoisoned, Bool.false_eq_true, ↓reduceIte, write, fitting,
              Option.some.injEq] at taken
            rw [← taken]
            exact .answered ..
      | greeted _ _ up | welcomed _ _ up => rcases up with rfl | rfl <;> cases taken
      | _ => cases taken
  | pump =>
      obtain ⟨world, ⟨msg, rfl, session, rest, found, queue, fitting⟩ | ⟨rfl, _⟩⟩ :=
        pump_cases taken
      · rcases undisturbed with ⟨infos, answered⟩ | unfit
        · exact fine.pumped answered world _
        · rw [unfit session msg rest found queue] at fitting
          cases fitting
      · exact fine.elsewhere world
  | elsewhere label =>
      obtain ⟨_, world, _, rfl⟩ := elsewhere_cases taken
      exact fine.elsewhere world

/-- A disturbed one dooms it. -/
theorem Fine.doom (fine : Fine clientName joining) {label : Step}
    (taken : joining.step codec pluginIdFor encode authToken clientName id label = some next)
    (disturbed : ¬ joining.Undisturbed pluginIdFor encode authToken id label) : Doomed next := by
  cases label with
  | readHello =>
      cases fine with
      | helloSent =>
          cases authToken with
          | none => exact absurd rfl disturbed
          | some token =>
              simp only [Joining.step, refusal, ne_eq, not_true_eq_false, ↓reduceIte, authTokenOk,
                Bool.false_eq_true, Option.some.injEq, write] at taken
              rw [← taken]
              split
              · exact .unwelcome _ _ _ _ _ rfl
              · exact .unanswered ..
      | greeted _ _ up | welcomed _ _ up | asked _ _ up => rcases up with rfl | rfl <;> cases taken
      | _ => cases taken
  | writeWelcome plugins =>
      cases fine with
      | greeting world =>
          simp only [Joining.step] at taken
          split at taken
          · cases taken
            exact .unanswered ..
          · rename_i unpoisoned
            simp only [Option.some.injEq] at taken
            rw [← taken, write, if_neg fun fitting => disturbed ⟨by simpa using unpoisoned, fitting⟩]
            exact .unanswered ..
      | greeted _ _ up | welcomed _ _ up | asked _ _ up => rcases up with rfl | rfl <;> cases taken
      | _ => cases taken
  | answer =>
      cases fine with
      | asked world _ up =>
          rcases up with rfl | rfl
          · cases taken
          · simp only [Joining.step] at taken
            split at taken
            · cases taken
              exact .unlisted ..
            · rename_i unpoisoned
              simp only [Option.some.injEq] at taken
              rw [← taken, write,
                if_neg fun fitting => disturbed ⟨by simpa using unpoisoned, fitting⟩]
              exact .unlisted ..
      | greeted _ _ up | welcomed _ _ up => rcases up with rfl | rfl <;> cases taken
      | _ => cases taken
  | pump =>
      obtain ⟨world, ⟨msg, rfl, _⟩ | ⟨rfl, unfit⟩⟩ := pump_cases taken
      · exact fine.doomed_of_pumped (fun infos same => disturbed (.inl ⟨infos, same⟩)) world msg
      · exact absurd (.inr unfit) disturbed
  | _ => exact absurd trivial disturbed

def clientRank : ClientPhase → Nat
  | .start => 4
  | .awaitWelcome => 3
  | .welcomed => 2
  | .awaitList => 1
  | .done _ => 0

def serverRank : ServerPhase → Nat
  | .accepted => 4
  | .greeting => 3
  | .welcomed => 2
  | .serving => 1
  | .answered _ | .ended => 0

/-- How many steps the two ends have left at most. -/
def rank (joining : Joining Text) : Nat := clientRank joining.client + serverRank joining.server

theorem clientRank_takeWelcome (result : Except JoinError ServerMsg) :
    clientRank (takeWelcome result) < 3 := by
  cases result with
  | error e => exact Nat.succ_pos 2
  | ok msg =>
      cases msg with
      | welcome version _ _ =>
          simp only [takeWelcome]
          split
          · exact Nat.lt_succ_self 2
          · exact Nat.succ_pos 2
      | _ => exact Nat.succ_pos 2

theorem clientRank_takeReply (result : Except JoinError ServerMsg) :
    clientRank (takeReply result) = 0 := by
  cases result with
  | error e => rfl
  | ok msg => cases msg <;> rfl

theorem rank_write (msg : ServerMsg) {server : ServerPhase} {below : Nat}
    (lower : ({ joining with server } : Joining Text).rank < below) :
    (joining.write encode msg server).rank < below := by
  rcases write_cases encode joining msg server with ⟨_, same⟩ | ⟨_, same⟩
  · rw [same]
    exact lower
  · rw [same]
    refine lt_of_le_of_lt ?_ lower
    simp only [rank, serverRank]
    omega

theorem rank_read {take : Except JoinError ServerMsg → ClientPhase} {below : Nat}
    (lower : ∀ result, ({ joining with client := take result } : Joining Text).rank < below)
    (taken : joining.read take = some next) : next.rank < below := by
  unfold read at taken
  split at taken
  · cases taken
    exact lower (.ok _)
  · cases taken
    exact lower (.error .read)
  · cases taken

/-- The steps of the two ends count down, and the others do not count. -/
theorem rank_step {label : Step}
    (taken : joining.step codec pluginIdFor encode authToken clientName id label = some next) :
    if label.isOpening then next.rank < joining.rank else next.rank = joining.rank := by
  cases label <;> simp only [step, Step.isOpening, Bool.false_eq_true, ↓reduceIte] at taken ⊢
  case sendHello =>
    split at taken
    · rename_i here
      cases taken
      simp only [rank, here, clientRank, serverRank]
      omega
    · cases taken
  case readWelcome =>
    split at taken
    · rename_i here
      refine rank_read (fun result => ?_) taken
      have lower := clientRank_takeWelcome result
      have waiting : clientRank joining.client = 3 := by rw [here]; rfl
      simp only [rank]
      omega
    · cases taken
  case sendListSensors =>
    split at taken
    · rename_i here
      cases taken
      simp only [rank, here, clientRank, serverRank]
      omega
    · cases taken
  case readReply =>
    split at taken
    · rename_i here
      refine rank_read (fun result => ?_) taken
      have lower := clientRank_takeReply result
      have waiting : clientRank joining.client = 1 := by rw [here]; rfl
      simp only [rank]
      omega
    · cases taken
  case readHello =>
    split at taken
    · rename_i here _
      split at taken
      · cases taken
        refine rank_write _ ?_
        simp only [rank, here, clientRank, serverRank]
        omega
      · cases taken
        simp only [rank, here, clientRank, serverRank]
        omega
    · cases taken
  case writeWelcome plugins =>
    split at taken
    · rename_i here
      split at taken
      · cases taken
        simp only [rank, here, clientRank, serverRank]
        omega
      · cases taken
        refine rank_write _ ?_
        simp only [rank, here, clientRank, serverRank]
        omega
    · cases taken
  case register =>
    split at taken
    · rename_i here
      obtain ⟨world, _, rfl⟩ := Option.map_eq_some_iff.mp taken
      simp only [rank, here, clientRank, serverRank]
      omega
    · cases taken
  case answer =>
    split at taken
    · rename_i here _
      split at taken
      · cases taken
        simp only [rank, here, clientRank, serverRank]
        omega
      · cases taken
        refine rank_write _ ?_
        simp only [rank, here, clientRank, serverRank]
        omega
    · cases taken
  case pump =>
    obtain ⟨world, ⟨msg, rfl, _⟩ | ⟨rfl, _⟩⟩ := pump_cases taken <;> rfl
  case elsewhere label =>
    obtain ⟨_, world, _, rfl⟩ := elsewhere_cases taken
    rfl

/-- The client's id is taken only when its session registers. -/
def Unregistered (id : Nat) (joining : Joining Text) : Prop :=
  joining.server = .accepted ∨ joining.server = .greeting ∨ joining.server = .welcomed →
    joining.world.daemon.sessions.lookup id = none

/-- The daemon in a step of the world. -/
theorem catalogues_daemon {world after : Catalogues Text} {label : Catalogues.Step}
    (taken : world.step codec pluginIdFor label = some after) :
    after.daemon = world.daemon ∨ ∃ move, world.daemon.step move = some after.daemon ∧
      ∀ client, move = .connect client → label = .daemon move := by
  unfold Catalogues.step at taken
  split at taken
  · obtain ⟨handler, _, rest⟩ := Option.bind_eq_some_iff.mp taken
    split at rest
    · obtain ⟨names, _, rest⟩ := Option.bind_eq_some_iff.mp rest
      obtain ⟨daemon, sent, rfl⟩ := Option.map_eq_some_iff.mp rest
      exact .inr ⟨_, sent, fun _ same => nomatch same⟩
    · cases rest
  · split at taken
    · cases taken
    · obtain ⟨names, _, rfl⟩ := Option.map_eq_some_iff.mp taken
      exact .inl rfl
  · obtain ⟨names, _, rfl⟩ := Option.map_eq_some_iff.mp taken
    exact .inl rfl
  · cases taken
  · obtain ⟨daemon, moved, rfl⟩ := Option.map_eq_some_iff.mp taken
    exact .inr ⟨_, moved, fun _ _ => rfl⟩
  · obtain ⟨daemon, moved, rfl⟩ := Option.map_eq_some_iff.mp taken
    exact .inr ⟨_, moved, fun _ _ => rfl⟩

/-- The other sessions do not take the client's id. -/
theorem unregistered_elsewhere {label : Catalogues.Step} {world : Catalogues Text}
    (absent : joining.world.daemon.sessions.lookup id = none)
    (others : ∀ move, label = .daemon move → ofSession id move = false)
    (moved : joining.world.step codec pluginIdFor label = some world) :
    world.daemon.sessions.lookup id = none := by
  rcases catalogues_daemon moved with same | ⟨move, taken, connects⟩
  · rw [same, absent]
  · cases present : world.daemon.sessions.lookup id with
    | none => rfl
    | some session =>
        obtain ⟨joins, _⟩ := (Daemon.step_evolves taken).2 id session absent present
        have other := others move (connects id joins)
        rw [joins] at other
        simp only [ofSession, decide_true] at other
        cases other

theorem unregistered_step (unregistered : joining.Unregistered id) {label : Step}
    (taken : joining.step codec pluginIdFor encode authToken clientName id label = some next) :
    next.Unregistered id := by
  cases label <;> simp only [step] at taken
  case sendHello | sendListSensors =>
    split at taken
    · cases taken
      exact unregistered
    · cases taken
  case readWelcome | readReply =>
    split at taken
    · rcases read_cases taken with ⟨client, toClient, rfl⟩
      exact unregistered
    · cases taken
  case readHello =>
    split at taken
    · rename_i here _
      have absent := unregistered (.inl here)
      split at taken
      · cases taken
        rcases write_cases encode _ _ _ with ⟨_, same⟩ | ⟨_, same⟩ <;> rw [same] <;>
          exact fun _ => absent
      · cases taken
        exact fun _ => absent
    · cases taken
  case writeWelcome plugins =>
    split at taken
    · rename_i here
      have absent := unregistered (.inr (.inl here))
      split at taken
      · cases taken
        exact fun _ => absent
      · cases taken
        rcases write_cases encode _ _ _ with ⟨_, same⟩ | ⟨_, same⟩ <;> rw [same] <;>
          exact fun _ => absent
    · cases taken
  case register =>
    split at taken
    · obtain ⟨world, _, rfl⟩ := Option.map_eq_some_iff.mp taken
      rintro (here | here | here) <;> cases here
    · cases taken
  case answer =>
    split at taken
    · split at taken
      · cases taken
        rintro (here | here | here) <;> cases here
      · cases taken
        rcases write_cases encode _ _ _ with ⟨_, same⟩ | ⟨_, same⟩ <;> rw [same] <;>
          rintro (here | here | here) <;> cases here
    · cases taken
  case pump =>
    obtain ⟨session, found, _⟩ := Option.bind_eq_some_iff.mp taken
    obtain ⟨world, ⟨msg, rfl, _⟩ | ⟨rfl, _⟩⟩ := pump_cases taken
    all_goals
      intro early
      rw [unregistered early] at found
      cases found
  case elsewhere label =>
    obtain ⟨others, world, moved, rfl⟩ := elsewhere_cases taken
    exact fun early => unregistered_elsewhere (unregistered early) others moved

/-- Until the opening is over, one of its two ends can take a step. -/
theorem exists_step (unregistered : joining.Unregistered id)
    (known : Fine clientName joining ∨ Doomed joining)
    (running : ∀ result, joining.client ≠ .done result) :
    ∃ label : Step, label.isOpening = true ∧
      joining.step codec pluginIdFor encode authToken clientName id label ≠ none := by
  rcases known with fine | doomed
  · cases fine with
    | start => exact ⟨.sendHello, rfl, Option.some_ne_none _⟩
    | helloSent =>
        refine ⟨.readHello, rfl, ?_⟩
        simp only [step]
        split <;> exact Option.some_ne_none _
    | greeting =>
        refine ⟨.writeWelcome [], rfl, ?_⟩
        simp only [step]
        split <;> exact Option.some_ne_none _
    | greeted => exact ⟨.readWelcome, rfl, Option.some_ne_none _⟩
    | welcomed => exact ⟨.sendListSensors, rfl, Option.some_ne_none _⟩
    | asked world server up =>
        rcases up with rfl | rfl
        · refine ⟨.register, rfl, ?_⟩
          have absent := unregistered (.inr (.inr rfl))
          dsimp only at absent
          simp only [step, Catalogues.step, Daemon.step, Run.enabled, absent, ↓reduceIte,
            Option.map_some]
          exact Option.some_ne_none _
        · refine ⟨.answer, rfl, ?_⟩
          simp only [step]
          split <;> exact Option.some_ne_none _
    | answered => exact ⟨.readReply, rfl, Option.some_ne_none _⟩
    | joined => exact absurd rfl (running _)
  · cases doomed with
    | failed => exact absurd rfl (running _)
    | early => exact ⟨.sendHello, rfl, Option.some_ne_none _⟩
    | unwelcome | unanswered | behindWelcome => exact ⟨.readWelcome, rfl, Option.some_ne_none _⟩
    | ahead => exact ⟨.sendListSensors, rfl, Option.some_ne_none _⟩
    | unexpected | unlisted => exact ⟨.readReply, rfl, Option.some_ne_none _⟩

/-- Each step of the two ends is one of the at most eight that they have left. -/
theorem isOpening_steps {labels : List Step}
    (ran : Run.exec (step codec pluginIdFor encode authToken clientName id) joining labels =
      some next) :
    labels.countP Step.isOpening + next.rank ≤ joining.rank := by
  induction labels generalizing joining with
  | nil =>
      cases ran
      simp only [List.countP_nil, zero_add, le_refl]
  | cons label rest ih =>
      obtain ⟨after, taken, remaining⟩ := Run.exec_cons.mp ran
      have counted := ih remaining
      have ranked := rank_step taken
      by_cases opening : label.isOpening = true
      · rw [if_pos opening] at ranked
        rw [List.countP_cons_of_pos opening]
        omega
      · rw [if_neg opening] at ranked
        rw [List.countP_cons_of_neg opening]
        omega

end Openings

end Joining

open Joining in
/-- Whatever the other sessions and the sampler do, one end of an opening can take its next step
until the client is done, and they take at most eight. The client is done with the list that the
daemon has answered with in exactly the runs in which nothing disturbs the opening. -/
theorem join_ok_iff {Text : Type} (codec : NicknameStore.Codec Text)
    (pluginIdFor : SensorId → Option String) (encode : ServerMsg → List UInt8)
    (authToken : Option String) (clientName : String) (id : Nat) (world : Catalogues Text)
    (new : world.daemon.sessions.lookup id = none) (labels : List Joining.Step) (joining : Joining Text)
    (ran : Run.exec (step codec pluginIdFor encode authToken clientName id) (start world) labels =
      some joining) :
    ((∀ result, joining.client ≠ .done result) → ∃ label : Joining.Step, label.isOpening = true ∧
      joining.step codec pluginIdFor encode authToken clientName id label ≠ none) ∧
    labels.countP Joining.Step.isOpening ≤ 8 ∧
    ∀ result, joining.client = .done result →
      ((∃ infos, result = .ok infos ∧ joining.server = .answered infos) ↔
        Run.Always (step codec pluginIdFor encode authToken clientName id)
          (Undisturbed pluginIdFor encode authToken id) (start world) labels) := by
  have course := Run.exec_fine_or_doomed
    (fun _ _ _ taken fine undisturbed => Fine.step fine taken undisturbed)
    (fun _ _ _ taken fine disturbed => Fine.doom fine taken disturbed)
    (fun _ _ _ taken doomed => Doomed.step doomed taken) ran (Fine.start world)
  have unregistered : joining.Unregistered id :=
    Run.exec_invariant (fun _ _ _ taken unregistered => unregistered_step unregistered taken) ran
      fun _ => new
  refine ⟨exists_step unregistered (course.imp And.right And.right), ?_, ?_⟩
  · exact (Nat.le_add_right _ _).trans (Joining.isOpening_steps ran)
  · intro result done
    rcases course with ⟨always, fine⟩ | ⟨disturbed, doomed⟩
    · refine iff_of_true ?_ always
      cases fine with
      | joined world infos rest =>
          cases done
          exact ⟨infos, rfl, rfl⟩
      | _ => cases done
    · refine iff_of_false ?_ disturbed
      rintro ⟨infos, rfl, _⟩
      cases doomed <;> cases done

namespace Joining

/-- The step is undisturbed where every message fits into a frame. -/
def undisturbed (joining : Joining NicknameStore) : Step → Bool
  | .writeWelcome _ | .answer => !joining.world.daemon.poisoned
  | .pump => (joining.server matches .answered _)
  | _ => true

theorem undisturbed_sound (joining : Joining NicknameStore) (label : Step)
    (passed : undisturbed joining label = true) :
    Undisturbed (fun _ => none) (fun _ => []) none 9 joining label := by
  cases label with
  | readHello => rfl
  | writeWelcome plugins => exact ⟨by simpa [undisturbed] using passed, rfl⟩
  | answer => exact ⟨by simpa [undisturbed] using passed, rfl⟩
  | pump =>
      simp only [undisturbed] at passed
      split at passed
      · rename_i infos answered
        exact .inl ⟨infos, answered⟩
      · cases passed
  | _ => trivial

/-- Up to the request for the catalogue, with the sink already in the client map. -/
def greeted : List Step :=
  [.sendHello, .readHello, .writeWelcome [], .register, .readWelcome, .sendListSensors]

/-- Another session names the processor. -/
def renamed : List Step :=
  (Catalogues.rename 0 "old" ++ [Catalogues.Step.names (.broadcast 0)]).map .elsewhere

end Joining

/-- The daemon answers before the pump writes the broadcast. -/
theorem join_ok_ahead_of_broadcast : ∃ joining,
    Run.exec (Joining.step Nicknames.plainCodec (fun _ => none) (fun _ => []) none "linsight-gui" 9)
      (Joining.start Catalogues.cpuStart)
      (Joining.greeted ++ Joining.renamed ++ [.answer, .pump, .readReply]) = some joining ∧
    ∃ infos, joining.client = .done (.ok infos) ∧ joining.server = .answered infos := by
  have ran : (Run.exec (Joining.step Nicknames.plainCodec (fun _ => none) (fun _ => []) none
      "linsight-gui" 9) (Joining.start Catalogues.cpuStart)
      (Joining.greeted ++ Joining.renamed ++ [.answer, .pump, .readReply])).map
        (fun joining => joining.client matches .done _) = some true := by
    decide +kernel
  obtain ⟨joining, run, finished⟩ := Option.map_eq_some_iff.mp ran
  refine ⟨joining, run, ?_⟩
  split at finished
  · rename_i result done
    obtain ⟨infos, rfl, answered⟩ :=
      ((join_ok_iff _ _ _ _ _ 9 Catalogues.cpuStart (by decide) _ joining run).2.2 result done).mpr
        (Run.Always.of_check Joining.undisturbed_sound (by decide +kernel))
    exact ⟨infos, done, answered⟩
  · cases finished

/-- The broadcast that the client took for the reply. -/
def ClientPhase.tookBroadcast : ClientPhase → Option (List SensorInfo)
  | done (.error (.unexpectedReplyToListSensors (.sensorListBroadcast infos))) => some infos
  | _ => none

def ServerPhase.sent : ServerPhase → Option (List SensorInfo)
  | answered infos => some infos
  | _ => none

theorem ClientPhase.of_tookBroadcast {phase : ClientPhase} {infos : List SensorInfo}
    (took : phase.tookBroadcast = some infos) :
    phase = .done (.error (.unexpectedReplyToListSensors (.sensorListBroadcast infos))) := by
  unfold tookBroadcast at took
  split at took
  · cases took
    rfl
  · cases took

theorem ServerPhase.of_sent {phase : ServerPhase} {infos : List SensorInfo}
    (answer : phase.sent = some infos) : phase = .answered infos := by
  unfold sent at answer
  split at answer
  · cases answer
    rfl
  · cases answer

/-- The pump writes the broadcast of the rename first, and the opening fails with it. -/
theorem join_fails_on_broadcast : ∃ joining infos,
    Run.exec (Joining.step Nicknames.plainCodec (fun _ => none) (fun _ => []) none "linsight-gui" 9)
      (Joining.start Catalogues.cpuStart)
      (Joining.greeted ++ Joining.renamed ++ [.pump, .answer, .readReply]) = some joining ∧
    joining.client = .done (.error (.unexpectedReplyToListSensors (.sensorListBroadcast infos))) ∧
    ∃ answer, joining.server = .answered answer := by
  have ran : (Run.exec (Joining.step Nicknames.plainCodec (fun _ => none) (fun _ => []) none
      "linsight-gui" 9) (Joining.start Catalogues.cpuStart)
      (Joining.greeted ++ Joining.renamed ++ [.pump, .answer, .readReply])).map
        (fun joining => (joining.client.tookBroadcast.isSome, joining.server.sent.isSome)) =
      some (true, true) := by
    decide +kernel
  obtain ⟨joining, run, shown⟩ := Option.map_eq_some_iff.mp ran
  obtain ⟨failed, answered⟩ := Prod.mk.inj shown
  obtain ⟨infos, took⟩ := Option.isSome_iff_exists.mp failed
  obtain ⟨answer, sent⟩ := Option.isSome_iff_exists.mp answered
  exact ⟨joining, infos, run, ClientPhase.of_tookBroadcast took, answer, ServerPhase.of_sent sent⟩

end LinSight.Gui
