import LinSight.Daemon.Streams
import LinSight.Daemon.TransportSteps
import LinSight.Cli.Watch

set_option autoImplicit false

/-! From the ticks of the daemon to the terminal of a `watch`: what the steps of the daemon and of
its sockets write on one connection, and what the command prints of it. -/

namespace LinSight

deriving instance DecidableEq for ServerMsg

/-- The samples that a step of the daemon commits. -/
def Daemon.committedBy (daemon : Daemon) : Step → List Sample
  | .tickCommit results =>
      match daemon.sampler with
      | .sampling now _ => (Scheduler.tickCommit now daemon.scheduler results).2
      | _ => []
  | _ => []

def ServerMsg.sample? : ServerMsg → Option Sample
  | .sample carried => some carried
  | _ => none

/-- The samples among messages. -/
def samplesIn (msgs : List ServerMsg) : List Sample := msgs.filterMap ServerMsg.sample?

namespace Transport

/-- The step begins a connection of the client. -/
def opens (client : Nat) : Step → Bool
  | .refuse other _ _ | .connect other _ _ => decide (other = client)
  | _ => false

/-- The messages that a step writes on the client's connection. -/
def writtenTo (client : Nat) (transport : Transport) : Step → List ServerMsg
  | .refuse other msg _ | .connect other msg _ | .reply other msg _ | .bye other msg _ =>
      if other = client then [msg] else []
  | .pumpWrite other _ =>
      match transport.daemon.sessions.lookup client with
      | some session =>
          if other = client then (session.queue.take 1).map OutboundMsg.toServerMsg else []
      | none => []
  | _ => []

def committedBy (transport : Transport) : Step → List Sample
  | .daemon label => transport.daemon.committedBy label
  | _ => []

/-- The socket takes what is written on the client's connection, and only the pump writes
samples. -/
def GoesThrough (client : Nat) : Step → Prop
  | .refuse other msg outcome | .connect other msg outcome | .reply other msg outcome
  | .bye other msg outcome => other = client → outcome = .ok ∧ msg.sample? = none
  | .pumpWrite other outcome => other = client → outcome = .ok
  | _ => True

end Transport

/-- The daemon with what it has written on the connection of one client, and the samples that its
ticks have committed; no step reads these. -/
structure Traffic where
  transport : Transport
  written : List ServerMsg
  committed : List Sample

namespace Traffic

def start (descriptors : List SensorDescriptor) : Traffic := ⟨.start descriptors, [], []⟩

def step {ε : Type} (format : Format ServerMsg ε) (alloc : Allocator) (client : Nat)
    (traffic : Traffic) (label : Transport.Step) : Option Traffic :=
  (traffic.transport.step format alloc label).map fun transport =>
    { transport
      written := (if Transport.opens client label then [] else traffic.written) ++
        traffic.transport.writtenTo client label
      committed := traffic.committed ++ traffic.transport.committedBy label }

end Traffic

theorem samplesIn_append (front back : List ServerMsg) :
    samplesIn (front ++ back) = samplesIn front ++ samplesIn back :=
  List.filterMap_append

theorem sample?_toServerMsg (msg : OutboundMsg) : msg.toServerMsg.sample? = msg.sample? := by
  cases msg <;> rfl

theorem samplesIn_toServerMsg (queue : List OutboundMsg) :
    samplesIn (queue.map OutboundMsg.toServerMsg) = samplesOf queue := by
  unfold samplesIn samplesOf
  rw [List.filterMap_map]
  exact List.filterMap_congr fun msg _ => sample?_toServerMsg msg

namespace Daemon

variable {daemon next : Daemon} (client : Nat)

theorem fanOutStreams_taken (daemon : Daemon) : (daemon.fanOutStreams client).taken = [] := by
  unfold fanOutStreams
  split
  · split
    · split <;> rfl
    · rfl
  · split
    · split
      · split <;> rfl
      · rfl
    · rfl
  · rfl

theorem streamsOf_committed (daemon : Daemon) (label : Step) :
    (daemon.streamsOf client label).committed = daemon.committedBy label := by
  cases label with
  | tickCommit results =>
      simp only [streamsOf, committedBy]
      cases daemon.sampler <;> rfl
  | pump other =>
      simp only [streamsOf, committedBy]
      split
      · split <;> rfl
      · rfl
  | fanOut => exact fanOutStreams_committed client daemon
  | _ => rfl

/-- Only the pump takes samples from the queue. -/
theorem streamsOf_taken {label : Step} (offWire : Transport.offWire label = true) :
    (daemon.streamsOf client label).taken = [] := by
  cases label with
  | pump other => cases offWire
  | tickCommit results =>
      simp only [streamsOf]
      split <;> rfl
  | fanOut => exact fanOutStreams_taken client daemon
  | _ => rfl

/-- What the daemon's steps do to a client's way and to its session. -/
structure Carried (client : Nat) (daemon next : Daemon) (moved : Streams) : Prop where
  passes : Passes client daemon next moved
  distinct : next.SinksDistinct
  stays : next.sessions.lookup client = none → daemon.sessions.lookup client = none

theorem Carried.refl (distinct : daemon.SinksDistinct) : Carried client daemon daemon .empty where
  passes := .unrelated rfl rfl
  distinct := distinct
  stays := id

variable {client} in
theorem Carried.append {last : Daemon} {first second : Streams}
    (here : Carried client daemon next first) (later : Carried client next last second) :
    Carried client daemon last (first.append second) where
  passes := here.passes.append later.passes
  distinct := later.distinct
  stays absent := here.stays (later.stays absent)

theorem Carried.of_step {label : Step} (distinct : daemon.SinksDistinct)
    (taken : daemon.step label = some next) :
    Carried client daemon next (daemon.streamsOf client label) where
  passes := (step_passes client distinct taken).2
  distinct := (step_passes client distinct taken).1
  stays := by
    intro absent
    cases found : daemon.sessions.lookup client with
    | none => rfl
    | some old =>
        obtain ⟨session, kept, _⟩ := (step_evolves taken).1 client old found
        rw [absent] at kept
        cases kept

end Daemon

namespace Transport

variable {ε : Type} {format : Format ServerMsg ε} {alloc : Allocator} {transport next : Transport}
  {label : Step} {client : Nat}

theorem samplesIn_written {other : Nat} {msg : ServerMsg} {outcome : WriteAll}
    (goes : other = client → outcome = .ok ∧ msg.sample? = none) :
    samplesIn (if other = client then [msg] else []) = [] := by
  split
  · rename_i here
    simp [samplesIn, (goes here).2]
  · rfl

/-- A step moves on the client's way what it writes on the client's connection. -/
theorem step_carried (distinct : transport.daemon.SinksDistinct) (goes : GoesThrough client label)
    (taken : transport.step format alloc label = some next) :
    ∃ moved, Daemon.Carried client transport.daemon next.daemon moved ∧
      moved.committed = transport.committedBy label ∧
      moved.taken = samplesIn (transport.writtenTo client label) := by
  have still := Daemon.Carried.refl client distinct
  have daemon_step {move : LinSight.Step} {after : Daemon}
      (moved : transport.daemon.step move = some after) :=
    Daemon.Carried.of_step client distinct moved
  cases label <;> simp only [step] at taken
  case refuse other bye outcome =>
    obtain ⟨_, rfl⟩ := Run.enabled_eq_some.mp taken
    exact ⟨.empty, still, rfl, (samplesIn_written goes).symm⟩
  case connect other welcome outcome =>
    split at taken
    · obtain ⟨daemon, joined, rfl⟩ := Option.map_eq_some_iff.mp taken
      exact ⟨_, daemon_step joined, rfl, (samplesIn_written goes).symm⟩
    · obtain ⟨_, rfl⟩ := Run.enabled_eq_some.mp taken
      exact ⟨.empty, still, rfl, (samplesIn_written goes).symm⟩
  case reply other msg outcome =>
    obtain ⟨session, found, rest⟩ := Option.bind_eq_some_iff.mp taken
    split at rest
    · dsimp only at rest
      split at rest
      · cases rest
        exact ⟨.empty, still, rfl, (samplesIn_written goes).symm⟩
      · obtain ⟨daemon, left, rfl⟩ := Option.map_eq_some_iff.mp rest
        exact ⟨_, daemon_step left, rfl, (samplesIn_written goes).symm⟩
    · cases rest
  case bye other msg outcome =>
    obtain ⟨daemon, left, rfl⟩ := Option.map_eq_some_iff.mp taken
    exact ⟨_, daemon_step left, rfl, (samplesIn_written goes).symm⟩
  case hangup other =>
    obtain ⟨daemon, left, rfl⟩ := Option.map_eq_some_iff.mp taken
    exact ⟨_, daemon_step left, rfl, rfl⟩
  case sendStop other =>
    obtain ⟨session, found, rest⟩ := Option.bind_eq_some_iff.mp taken
    obtain ⟨_, rfl⟩ := Run.enabled_eq_some.mp rest
    exact ⟨.empty, still, rfl, rfl⟩
  case tick other =>
    obtain ⟨session, found, rest⟩ := Option.bind_eq_some_iff.mp taken
    obtain ⟨_, rfl⟩ := Run.enabled_eq_some.mp rest
    exact ⟨.empty, still, rfl, rfl⟩
  case pumpWrite other outcome =>
    obtain ⟨session, msg, waiting, wrote⟩ := pumpWrite_cases taken
    obtain ⟨middle, pumped, _, ended⟩ := wrote.daemon
    have first := daemon_step pumped
    have moved : (transport.daemon.streamsOf client (.pump other)).taken =
        samplesIn (transport.writtenTo client (.pumpWrite other outcome)) := by
      simp only [Daemon.streamsOf, writtenTo]
      cases transport.daemon.sessions.lookup client with
      | none => rfl
      | some session =>
          dsimp only
          split
          · exact (samplesIn_toServerMsg _).symm
          · rfl
    have nothing := Daemon.streamsOf_committed client transport.daemon (.pump other)
    rcases ended with ⟨_, same⟩ | ⟨_, exited⟩
    · exact ⟨_, same ▸ first, nothing, moved⟩
    -- the pump that ends behind a failed write moves no sample
    · have second : Daemon.Carried client middle next.daemon .empty :=
        Daemon.Carried.of_step client first.distinct exited
      refine ⟨_, first.append second, ?_, ?_⟩
      · exact (List.append_nil _).trans nothing
      · exact (List.append_nil _).trans moved
  case pumpEmpty other =>
    obtain ⟨session, found, rest⟩ := Option.bind_eq_some_iff.mp taken
    obtain ⟨_, rfl⟩ := Run.enabled_eq_some.mp rest
    exact ⟨.empty, still, rfl, rfl⟩
  case pumpStop other =>
    split at taken
    · obtain ⟨daemon, exited, rfl⟩ := Option.map_eq_some_iff.mp taken
      exact ⟨_, daemon_step exited, rfl, rfl⟩
    · cases taken
  case daemon move =>
    split at taken
    · rename_i offWire
      obtain ⟨daemon, moved, rfl⟩ := Option.map_eq_some_iff.mp taken
      exact ⟨_, daemon_step moved, Daemon.streamsOf_committed client _ move,
        Daemon.streamsOf_taken client offWire⟩
    · cases taken

/-- Nothing is written to a client that is not there, but what begins a connection. -/
theorem samplesIn_writtenTo_absent (goes : GoesThrough client label)
    (absent : transport.daemon.sessions.lookup client = none) :
    samplesIn (transport.writtenTo client label) = [] := by
  cases label with
  | refuse other msg outcome => exact samplesIn_written goes
  | connect other msg outcome => exact samplesIn_written goes
  | reply other msg outcome => exact samplesIn_written goes
  | bye other msg outcome => exact samplesIn_written goes
  | pumpWrite other outcome =>
      simp only [writtenTo, absent]
      rfl
  | _ => rfl

theorem absent_of_opens (opening : opens client label = true)
    (taken : transport.step format alloc label = some next) :
    transport.daemon.sessions.lookup client = none := by
  cases label with
  | refuse other msg outcome =>
      obtain rfl : other = client := of_decide_eq_true opening
      exact (Run.enabled_eq_some.mp taken).1
  | connect other msg outcome =>
      obtain rfl : other = client := of_decide_eq_true opening
      exact (links_of_connect taken).1
  | _ => cases opening

section Written

variable {msgs : List ServerMsg}

/-- What a write on its own link adds to the frames of the client's connection. -/
theorem inner_of_write (fills : ∀ msg, format.Fills msg) {other : Nat} {msg : ServerMsg}
    {outcome : WriteAll} {link : Link}
    (inner : (transport.links client).writer.inner = format.frames msgs)
    (goes : other = client → outcome = .ok)
    (links : next.links = Function.update transport.links other link)
    (writer : link.writer = (transport.write format alloc other outcome msg).2.writer) :
    (next.links client).writer.inner =
      format.frames (msgs ++ if other = client then [msg] else []) := by
  by_cases here : other = client
  · subst here
    rw [links, Function.update_self, writer, (write_spec alloc transport fills other outcome msg).2,
      inner, goes rfl, if_pos rfl, Format.frames_concat]
  · rw [links, Function.update_of_ne (Ne.symm here), inner, if_neg here, List.append_nil]

/-- What begins a connection is its first frame. -/
theorem inner_of_open (fills : ∀ msg, format.Fills msg) {other : Nat} {msg : ServerMsg}
    {outcome : WriteAll} (inner : (transport.links client).writer.inner = format.frames msgs)
    (goes : other = client → outcome = .ok)
    (links : next.links = Function.update transport.links other
      { Link.new with writer := (Link.new.writer.send format alloc outcome msg).2 }) :
    (next.links client).writer.inner =
      format.frames ((if decide (other = client) = true then [] else msgs) ++
        if other = client then [msg] else []) := by
  by_cases here : other = client
  · subst here
    rw [links, Function.update_self]
    simp only [decide_true, if_true]
    rw [(BufferedWriter.send_spec format alloc (fills msg) outcome _).2, goes rfl,
      Format.frames_concat]
    rfl
  · rw [links, Function.update_of_ne (Ne.symm here), inner]
    simp [here]

/-- The client's connection has carried the frames of what was written on it. -/
theorem step_written (fills : ∀ msg, format.Fills msg) (goes : GoesThrough client label)
    (taken : transport.step format alloc label = some next)
    (inner : (transport.links client).writer.inner = format.frames msgs) :
    (next.links client).writer.inner =
      format.frames ((if opens client label then [] else msgs) ++
        transport.writtenTo client label) := by
  have kept : (transport.links client).writer.inner = format.frames (msgs ++ []) := by
    rw [List.append_nil, inner]
  have quiet {other : Nat} {link : Link}
      (links : next.links = Function.update transport.links other link)
      (writer : link.writer = (transport.links other).writer) :
      (next.links client).writer.inner = format.frames (msgs ++ []) := by
    rw [links, ← kept]
    by_cases here : client = other
    · rw [here, Function.update_self, writer]
    · rw [Function.update_of_ne here]
  cases label with
  | refuse other bye outcome =>
      obtain ⟨_, rfl⟩ := Run.enabled_eq_some.mp taken
      exact inner_of_open fills inner (fun here => (goes here).1) rfl
  | connect other welcome outcome =>
      exact inner_of_open fills inner (fun here => (goes here).1) (links_of_connect taken).2
  | reply other msg outcome =>
      obtain ⟨session, found, rest⟩ := Option.bind_eq_some_iff.mp taken
      split at rest
      · dsimp only at rest
        split at rest
        · cases rest
          exact inner_of_write fills inner (fun here => (goes here).1) rfl rfl
        · obtain ⟨daemon, left, rfl⟩ := Option.map_eq_some_iff.mp rest
          exact inner_of_write fills inner (fun here => (goes here).1) rfl rfl
      · cases rest
  | bye other msg outcome =>
      obtain ⟨daemon, left, rfl⟩ := Option.map_eq_some_iff.mp taken
      exact inner_of_write fills inner (fun here => (goes here).1) rfl rfl
  | pumpWrite other outcome =>
      obtain ⟨session, msg, waiting, wrote⟩ := pumpWrite_cases taken
      obtain ⟨drained, links⟩ := wrote.links
      have carried := inner_of_write fills inner goes links rfl
      have same : transport.writtenTo client (.pumpWrite other outcome) =
          if other = client then [msg.toServerMsg] else [] := by
        simp only [writtenTo]
        by_cases here : other = client
        · subst here
          simp only [wrote.found, wrote.queue, ↓reduceIte]
          rfl
        · simp only [here, ↓reduceIte]
          split <;> rfl
      rw [same]
      exact carried
  | sendStop other =>
      obtain ⟨session, found, rest⟩ := Option.bind_eq_some_iff.mp taken
      obtain ⟨_, rfl⟩ := Run.enabled_eq_some.mp rest
      exact quiet rfl rfl
  | tick other =>
      obtain ⟨session, found, rest⟩ := Option.bind_eq_some_iff.mp taken
      obtain ⟨_, rfl⟩ := Run.enabled_eq_some.mp rest
      exact quiet rfl rfl
  | pumpEmpty other =>
      obtain ⟨session, found, rest⟩ := Option.bind_eq_some_iff.mp taken
      obtain ⟨_, rfl⟩ := Run.enabled_eq_some.mp rest
      exact quiet rfl rfl
  | hangup other =>
      obtain ⟨daemon, left, rfl⟩ := Option.map_eq_some_iff.mp taken
      exact kept
  | pumpStop other =>
      simp only [step] at taken
      split at taken
      · obtain ⟨daemon, exited, rfl⟩ := Option.map_eq_some_iff.mp taken
        exact kept
      · cases taken
  | daemon move =>
      simp only [step] at taken
      split at taken
      · obtain ⟨daemon, moved, rfl⟩ := Option.map_eq_some_iff.mp taken
        exact kept
      · cases taken

end Written

end Transport

namespace Traffic

variable {ε : Type} {format : Format ServerMsg ε} {alloc : Allocator} {client : Nat}
  {descriptors : List SensorDescriptor}

/-- The connection has carried what was written on it, and the samples among that are those the
pump has taken. -/
structure Sound (format : Format ServerMsg ε) (descriptors : List SensorDescriptor) (client : Nat)
    (traffic : Traffic) : Prop where
  inner : (traffic.transport.links client).writer.inner = format.frames traffic.written
  distinct : traffic.transport.daemon.SinksDistinct
  moved : ∃ moved, Daemon.Passes client (.new descriptors) traffic.transport.daemon moved ∧
    moved.committed = traffic.committed ∧ moved.taken = samplesIn traffic.written
  silent : traffic.transport.daemon.sessions.lookup client = none → samplesIn traffic.written = []

theorem start_sound : (start descriptors).Sound format descriptors client where
  inner := rfl
  distinct := trivial
  moved := ⟨.empty, .unrelated rfl rfl, rfl, rfl⟩
  silent _ := rfl

theorem Sound.step (fills : ∀ msg, format.Fills msg) {traffic next : Traffic}
    {label : Transport.Step} (sound : traffic.Sound format descriptors client)
    (goes : Transport.GoesThrough client label)
    (taken : traffic.step format alloc client label = some next) :
    next.Sound format descriptors client := by
  obtain ⟨transport, went, rfl⟩ := Option.map_eq_some_iff.mp taken
  obtain ⟨moved, carried, committed, written⟩ :=
    Transport.step_carried sound.distinct goes went
  obtain ⟨before, passes, committed_before, written_before⟩ := sound.moved
  have kept : samplesIn (if Transport.opens client label then [] else traffic.written) =
      samplesIn traffic.written := by
    split
    -- a connection begins where the client has no session, and so before any sample of it
    · rename_i opening
      exact (sound.silent (Transport.absent_of_opens opening went)).symm
    · rfl
  constructor
  · exact Transport.step_written fills goes went sound.inner
  · exact carried.distinct
  · refine ⟨before.append moved, passes.append carried.passes, ?_, ?_⟩
    · show before.committed ++ moved.committed = _
      rw [committed_before, committed]
    · show before.taken ++ moved.taken = _
      rw [samplesIn_append, kept, written_before, written]
  · intro absent
    have earlier := carried.stays absent
    rw [samplesIn_append, kept, sound.silent earlier,
      Transport.samplesIn_writtenTo_absent goes earlier]
    rfl

theorem Sound.of_run (fills : ∀ msg, format.Fills msg) {labels : List Transport.Step}
    {traffic : Traffic}
    (run : Run.exec (Traffic.step format alloc client) (start descriptors) labels = some traffic)
    (goes : ∀ label ∈ labels, Transport.GoesThrough client label) :
    traffic.Sound format descriptors client := by
  have always : Run.Always (Traffic.step format alloc client)
      (fun _ label => Transport.GoesThrough client label) (start descriptors) labels :=
    Run.Always.of_forall (fun label member _ => goes label member) _
  exact Run.exec_invariant_of_always (Sound format descriptors client)
    (fun _ _ _ taken goes sound => sound.step fills goes taken) run always start_sound

/-- The samples on the connection are some of those that the ticks have committed, in their
order. -/
theorem Sound.sublist {traffic : Traffic} (sound : traffic.Sound format descriptors client) :
    (samplesIn traffic.written).Sublist traffic.committed := by
  obtain ⟨moved, passes, committed, written⟩ := sound.moved
  have order := (List.sublist_append_left _ _).trans passes.order
  have fresh := (List.sublist_append_left _ _).trans passes.fresh
  rw [← written, ← committed]
  exact List.Sublist.trans order fresh

end Traffic

namespace Cli

variable {ε : Type} (wire : Wire ε)

open LinSight.Gui (protocolVersion)

theorem heard_start (interrupted : Nat → Bool) (turn : Nat) (msgs : List ServerMsg) :
    heard interrupted turn msgs <+: msgs := by
  induction msgs generalizing turn with
  | nil => exact List.nil_prefix
  | cons msg rest ih =>
      rw [heard]
      split
      · exact List.nil_prefix
      · exact List.cons_prefix_cons.mpr ⟨rfl, ih (turn + 1)⟩

theorem followed_sample {sensors : List SensorId} (msgs : List ServerMsg) :
    (msgs.filterMap (followed sensors)).Sublist (samplesIn msgs) := by
  induction msgs with
  | nil => exact List.Sublist.refl _
  | cons msg rest ih =>
      cases msg with
      | sample carried =>
          rw [samplesIn, List.filterMap_cons, List.filterMap_cons]
          by_cases member : carried.sensor ∈ sensors
          · simp only [followed, member, ↓reduceIte, ServerMsg.sample?]
            exact ih.cons_cons carried
          · simp only [followed, member, ↓reduceIte, ServerMsg.sample?]
            exact ih.cons carried
      | _ => exact ih

theorem limited_sublist {α : Type} (count : Option Nat) (items : List α) :
    (limited count items).Sublist items := by
  cases count with
  | none => exact List.Sublist.refl items
  | some max => exact List.take_sublist max items

/-- What is printed of a stream are some of its samples, in their order. -/
theorem samplesUpToEnd_sublist (sensors : List SensorId) (interrupted : Nat → Bool)
    (count : Option Nat) (msgs : List ServerMsg) :
    (limited count (samplesUpToEnd sensors (heard interrupted 0 msgs))).Sublist
      (samplesIn msgs) := by
  have front := (List.takeWhile_prefix (fun msg => !ends sensors msg)
    (l := heard interrupted 0 msgs)).sublist.trans (heard_start interrupted 0 msgs).sublist
  exact (limited_sublist count _).trans
    ((followed_sample _).trans (front.filterMap ServerMsg.sample?))

theorem unitsIn_suffix {sensors : List SensorId} {units known : KeyMap SensorId LinSight.Unit}
    {reqId : Nat} {msgs left : List ServerMsg}
    (answered : unitsIn (ε := ε) sensors units reqId msgs = (.ok known, left)) :
    left <:+ msgs := by
  induction sensors generalizing units reqId msgs with
  | nil =>
      cases answered
      exact List.suffix_refl _
  | cons id rest ih =>
      rw [unitsIn] at answered
      have suffix := @FrameReader.awaitedIn_suffix ε reqId msgs
      split at answered
      · cases answered
      · rename_i payload after awaited
        rw [awaited] at suffix
        split at answered
        · cases answered
        · exact (ih answered).trans suffix

/-- As long as the socket takes what the daemon writes on the connection of a `watch`, the command
prints samples that the daemon's ticks have committed, in the order of the ticks and none of them
twice, in whatever order the threads of the daemon take their steps. -/
theorem watch_prints_committed (alloc : Allocator) (fills : ∀ msg, wire.serverMsg.Fills msg)
    {descriptors : List SensorDescriptor} {labels : List Transport.Step} {traffic : Traffic}
    {client : Nat}
    (run : Run.exec (Traffic.step wire.serverMsg alloc client) (.start descriptors) labels =
      some traffic)
    (goes : ∀ label ∈ labels, Transport.GoesThrough client label)
    (tagged : ∀ msg ∈ traffic.written, Tagged wire.serverMsg msg)
    {version : String} {plugins : List PluginInfo} {rest live : List ServerMsg}
    (greeted : wire.serverMsg.accepted traffic.written =
      .welcome protocolVersion version plugins :: rest)
    {sensors : List String} {ids : List SensorId} (named : sensorIds sensors = .ok ids)
    {units : KeyMap SensorId LinSight.Unit}
    (answered : unitsIn (ε := ε) ids ∅ 1 rest = (.ok units, live))
    (rateHz : Option Ieee.Value) {count : Option Nat} (asked : count ≠ some 0)
    (interrupted : Nat → Bool) :
    ((watch wire.postcard sensors rateHz count interrupted
        (traffic.transport.links client).writer.inner).printed.map (·.1)).Sublist
      traffic.committed := by
  have sound : traffic.Sound wire.serverMsg descriptors client := .of_run fills run goes
  have sent : Sent wire (wire.serverMsg.accepted traffic.written) := by
    intro msg member
    obtain ⟨inside, fits⟩ := List.mem_filter.mp member
    exact ⟨tagged msg inside, of_decide_eq_true fits⟩
  have started : watch wire.postcard sensors rateHz count interrupted
        (traffic.transport.links client).writer.inner =
      session wire.postcard ids (rateHz.map asF32) count interrupted
        (framed wire (wire.serverMsg.accepted traffic.written)) := by
    rw [watch, if_neg asked, named, sound.inner]
    rfl
  rw [started, (session_streams wire sent greeted answered _ asked interrupted).samples]
  have printed := samplesUpToEnd_sublist ids interrupted count live
  have suffix : live <:+ rest := unitsIn_suffix answered
  have received : (samplesIn live).Sublist (samplesIn traffic.written) := by
    have all : (wire.serverMsg.accepted traffic.written).Sublist traffic.written :=
      List.filter_sublist
    rw [greeted] at all
    exact (suffix.sublist.trans ((List.sublist_cons_self _ rest).trans all)).filterMap _
  exact printed.trans (received.trans sound.sublist)

/-- A `watch` on connection 0 and two ticks; the pump writes the catalogue broadcast and the sample
of the first tick. -/
def memTicks : List Transport.Step :=
  [.connect 0 (.welcome 3 "" []) .ok, .reply 0 (.response 1 (.ok (.sensorInfo memUsedInfo))) .ok,
    .daemon (.subscribe 0 [memUsedBytes.id] none), .daemon (.broadcast []),
    .daemon (.tickPlan 1), .daemon (.tickCommit [(⟨memUsedBytes.id⟩, .ok (memUsedAt 1))]),
    .daemon (.snapshotSinks [0]), .daemon .fanOut, .daemon .fanOut, .daemon .fanOut,
    .daemon .fanOut, .tick 0, .pumpWrite 0 .ok, .pumpWrite 0 .ok, .daemon (.tickPlan 2000000),
    .daemon (.tickCommit [(⟨memUsedBytes.id⟩, .ok (memUsedAt 2000000))]), .bye 0 (.bye "") .ok]

theorem watch_prints_committed_mem : ∃ traffic,
    Run.exec (Traffic.step memReplies.serverMsg Transport.tightAlloc 0) (.start [memUsedBytes])
        memTicks = some traffic ∧
      traffic.committed = [memUsedAt 1, memUsedAt 2000000] ∧
      ((watch memReplies.postcard ["mem.used_bytes"] none (some 2) (fun _ => false)
          (traffic.transport.links 0).writer.inner).printed.map (·.1)).Sublist
        traffic.committed := by
  have ran : (Run.exec (Traffic.step memReplies.serverMsg Transport.tightAlloc 0)
        (.start [memUsedBytes]) memTicks).map
          (fun traffic => (traffic.written, traffic.committed)) =
      some ([.welcome 3 "" [], .response 1 (.ok (.sensorInfo memUsedInfo)),
        .sensorListBroadcast [], .sample (memUsedAt 1), .bye ""],
        [memUsedAt 1, memUsedAt 2000000]) := by
    decide +kernel
  obtain ⟨traffic, run, made⟩ := Option.map_eq_some_iff.mp ran
  obtain ⟨written, committed⟩ := Prod.mk.inj made
  refine ⟨traffic, run, committed, ?_⟩
  have accepted : memReplies.serverMsg.accepted traffic.written = traffic.written := by
    rw [written]
    rfl
  have tagged : ∀ msg ∈ traffic.written, Tagged memReplies.serverMsg msg := by
    rw [written]
    intro msg member
    simp only [List.mem_cons, List.not_mem_nil, or_false] at member
    rcases member with rfl | rfl | rfl | rfl | rfl
    all_goals exact ⟨Format.filling_faithful (List.cons_ne_nil _ _) rfl, rfl⟩
  have goes : ∀ label ∈ memTicks, Transport.GoesThrough 0 label := by
    simp [memTicks, Transport.GoesThrough, ServerMsg.sample?]
  exact watch_prints_committed memReplies _ (Format.filling_fills _ _) run goes tagged
    (accepted.trans written) rfl rfl none (by decide) _

end Cli

end LinSight
