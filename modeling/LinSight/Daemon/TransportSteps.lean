import LinSight.Daemon.Balance
import LinSight.Daemon.Transport

set_option autoImplicit false

/-! What one step can do to the sessions and to the sockets behind them. -/

namespace LinSight

/-- The clients whose sinks the sampler has found closed. -/
def SamplerPhase.disconnected : SamplerPhase → List Nat
  | .delivering _ _ disconnected | .sending _ _ _ _ disconnected => disconnected
  | _ => []

/-- What a step can do to a client's session. -/
structure Session.Evolves (daemon : Daemon) (label : Step) (client : Nat) (old new : Session) :
    Prop where
  live : new.phase.live = true → old.phase.live = true
  pump : new.pumpAlive = old.pumpAlive ∨ label = .pumpExit client ∧ new.pumpAlive = false
  sink : new.registered = old.registered ∨
    new.registered = false ∧ (old.pumpAlive = false ∨ client ∈ daemon.sampler.disconnected)

theorem Session.Evolves.refl (daemon : Daemon) (label : Step) (client : Nat) (session : Session) :
    session.Evolves daemon label client session :=
  ⟨id, .inl rfl, .inl rfl⟩

namespace Daemon

/-- Sessions stay, and a new one is that of a connection. -/
def Evolves (daemon next : Daemon) (label : Step) : Prop :=
  (∀ client old, daemon.sessions.lookup client = some old →
    ∃ new, next.sessions.lookup client = some new ∧ old.Evolves daemon label client new) ∧
  ∀ client new, daemon.sessions.lookup client = none →
    next.sessions.lookup client = some new → label = .connect client ∧ new = .new

variable {daemon next : Daemon} {label : Step}

theorem Evolves.same (sessions : next.sessions = daemon.sessions) :
    daemon.Evolves next label := by
  unfold Evolves
  rw [sessions]
  refine ⟨fun client old found => ⟨old, found, .refl daemon label client old⟩, ?_⟩
  intro client new absent found
  rw [absent] at found
  cases found

theorem Evolves.of_insert {client : Nat} {old session : Session}
    (found : daemon.sessions.lookup client = some old)
    (sessions : next.sessions = daemon.sessions.insert client session)
    (here : old.Evolves daemon label client session) : daemon.Evolves next label := by
  unfold Evolves
  rw [sessions]
  constructor
  · intro other held present
    rw [KeyMap.lookup_insert_eq]
    by_cases same : other = client
    · subst same
      rw [found, Option.some.injEq] at present
      rw [if_pos rfl, ← present]
      exact ⟨session, rfl, here⟩
    · rw [if_neg same]
      exact ⟨held, present, .refl daemon label other held⟩
  · intro other new absent present
    rw [KeyMap.lookup_insert_eq] at present
    by_cases same : other = client
    · rw [same, found] at absent
      cases absent
    · rw [if_neg same, absent] at present
      cases present

theorem Evolves.of_map {f : Nat → Session → Session}
    (sessions : next.sessions = KeyMap.mapValues f daemon.sessions)
    (each : ∀ client (old : Session), old.Evolves daemon label client (f client old)) :
    daemon.Evolves next label := by
  unfold Evolves
  rw [sessions]
  constructor
  · intro client old found
    rw [KeyMap.lookup_mapValues, found]
    exact ⟨f client old, rfl, each client old⟩
  · intro client new absent found
    rw [KeyMap.lookup_mapValues, absent] at found
    cases found

theorem subscribeAll_kept (scheduler : Scheduler) (session : Session) (sensors : List SensorId)
    (rateHz : Option Ieee.Value) :
    (subscribeAll scheduler session sensors rateHz).session.registered = session.registered ∧
      (subscribeAll scheduler session sensors rateHz).session.pumpAlive = session.pumpAlive := by
  unfold subscribeAll
  generalize start : (⟨scheduler, session, [], false⟩ : Subscribing) = state
  have here : state.session = session := by rw [← start]
  rw [← here]
  clear here start
  induction sensors generalizing state with
  | nil => exact ⟨rfl, rfl⟩
  | cons id rest ih =>
      obtain ⟨registered, alive⟩ := ih (subscribeEach rateHz state id)
      have one : (subscribeEach rateHz state id).session.registered = state.session.registered ∧
          (subscribeEach rateHz state id).session.pumpAlive = state.session.pumpAlive := by
        unfold subscribeEach
        split
        · exact ⟨rfl, rfl⟩
        · split
          · exact ⟨rfl, rfl⟩
          · exact ⟨rfl, rfl⟩
          · split <;> exact ⟨rfl, rfl⟩
      exact ⟨registered.trans one.1, alive.trans one.2⟩

theorem trySend_evolves {session sent : Session} {msg : OutboundMsg}
    (accepted : session.trySend msg = .ok sent) (client : Nat) :
    session.Evolves daemon label client sent := by
  unfold Session.trySend at accepted
  split at accepted
  · cases accepted
  · split at accepted
    · cases accepted
    · cases accepted
      exact ⟨id, .inl rfl, .inl rfl⟩

theorem pumpAlive_of_disconnected {session : Session} {msg : OutboundMsg}
    (closed : session.trySend msg = .disconnected) : session.pumpAlive = false := by
  unfold Session.trySend at closed
  split at closed
  · simpa using ‹(!session.pumpAlive) = true›
  · split at closed <;> cases closed

theorem broadcast_evolves (infos : List SensorInfo) (client : Nat) (session : Session) :
    session.Evolves daemon label client (session.broadcast infos) := by
  unfold Session.broadcast
  split
  · split
    · rename_i sent accepted
      exact trySend_evolves accepted client
    · exact .refl daemon label client session
    · rename_i closed
      exact ⟨id, .inl rfl, .inr ⟨rfl, .inl (pumpAlive_of_disconnected closed)⟩⟩
  · exact .refl daemon label client session

theorem fanOut_evolves (taken : daemon.fanOut = some next) : daemon.Evolves next label := by
  unfold Daemon.fanOut at taken
  split at taken
  · rename_i samples disconnected delivering
    cases taken
    refine Evolves.of_map rfl fun client old => ?_
    unfold deregistered
    split
    · rename_i member
      refine ⟨id, .inl rfl, .inr ⟨rfl, .inr ?_⟩⟩
      rw [delivering]
      exact member
    · exact .refl daemon label client old
  · obtain ⟨session, _, passed⟩ := Option.bind_eq_some_iff.mp taken
    obtain ⟨_, rfl⟩ := Run.enabled_eq_some.mp passed
    exact .same rfl
  · cases taken
    exact .same rfl
  · obtain ⟨session, found, rfl⟩ := Option.map_eq_some_iff.mp taken
    split
    · rename_i sent accepted
      exact .of_insert found rfl (trySend_evolves accepted _)
    · exact .same rfl
    · exact .same rfl
  · cases taken

/-- What a step can do to the sessions. -/
theorem step_evolves (taken : daemon.step label = some next) : daemon.Evolves next label := by
  cases label <;>
    simp only [step, Option.bind_eq_some_iff, Run.enabled_eq_some, Option.some.injEq] at taken
  case connect client =>
    obtain ⟨absent, rfl⟩ := taken
    constructor
    · intro other old found
      have apart : other ≠ client := by
        rintro rfl
        rw [absent] at found
        cases found
      rw [lookup_withSession, if_neg apart]
      exact ⟨old, found, .refl daemon _ other old⟩
    · intro other new missing found
      rw [lookup_withSession] at found
      by_cases same : other = client
      · rw [if_pos same, Option.some.injEq] at found
        exact ⟨by rw [same], found.symm⟩
      · rw [if_neg same, missing] at found
        cases found
  case subscribe client sensors rateHz =>
    obtain ⟨session, found, ⟨serving, _⟩, rfl⟩ := taken
    obtain ⟨registered, alive⟩ := subscribeAll_kept daemon.scheduler session sensors rateHz
    refine .of_insert found rfl ⟨?_, ?_, ?_⟩
    · intro _
      rw [serving]
      rfl
    · left
      rw [← alive]
      split <;> rfl
    · left
      rw [← registered]
      split <;> rfl
  case unsubscribe client sensors =>
    obtain ⟨session, found, serving, rfl⟩ := taken
    exact .of_insert found rfl ⟨fun _ => by rw [serving]; rfl, .inl rfl, .inl rfl⟩
  case unsubscribed client =>
    obtain ⟨session, found, ⟨unsubscribing, _⟩, rfl⟩ := taken
    exact .of_insert found rfl ⟨fun _ => by rw [unsubscribing]; rfl, .inl rfl, .inl rfl⟩
  case disconnect client =>
    obtain ⟨session, found, _, rfl⟩ := taken
    exact .of_insert found rfl ⟨(fun live => by cases live), .inl rfl, .inl rfl⟩
  case pump client =>
    obtain ⟨session, found, _, rfl⟩ := taken
    exact .of_insert found rfl ⟨id, .inl rfl, .inl rfl⟩
  case pumpExit client =>
    obtain ⟨session, found, _, rfl⟩ := taken
    exact .of_insert found rfl ⟨id, .inr ⟨rfl, rfl⟩, .inl rfl⟩
  case deregister client =>
    obtain ⟨session, found, ⟨_, ended⟩, rfl⟩ := taken
    exact .of_insert found rfl
      ⟨(fun live => by cases live), .inl rfl, .inr ⟨rfl, .inl ended⟩⟩
  case drain client =>
    obtain ⟨session, found, _, rfl⟩ := taken
    refine .of_insert found rfl ⟨fun live => ?_, .inl rfl, .inl rfl⟩
    simp only [Session.drain] at live
    split at live <;> cases live
  case release client =>
    obtain ⟨session, found, _, rfl⟩ := taken
    exact .of_insert found rfl ⟨(fun live => by cases live), .inl rfl, .inl rfl⟩
  case broadcast infos =>
    cases taken
    exact .of_map rfl fun client old => broadcast_evolves infos client old
  case tickPlan now =>
    obtain ⟨_, rfl⟩ := taken
    exact .same rfl
  case tickCommit results =>
    split at taken
    · obtain ⟨_, rfl⟩ := Run.enabled_eq_some.mp taken
      exact .same rfl
    · cases taken
  case snapshotSinks sinks =>
    split at taken
    · obtain ⟨_, rfl⟩ := Run.enabled_eq_some.mp taken
      exact .same rfl
    · cases taken
  case fanOut => exact fanOut_evolves taken

end Daemon

namespace Transport

/-- A session of the second state was there in the first one, and nothing of it has come back to
life. -/
def Moves (daemon after : Daemon) (client : Nat) : Prop :=
  ∀ new, after.sessions.lookup client = some new →
    ∃ old, daemon.sessions.lookup client = some old ∧
      (new.phase.live = true → old.phase.live = true) ∧
      (new.pumpAlive = true → old.pumpAlive = true)

theorem Moves.refl (daemon : Daemon) (client : Nat) : Moves daemon daemon client :=
  fun new found => ⟨new, found, id, id⟩

theorem Moves.trans {first second third : Daemon} {client : Nat}
    (one : Moves first second client) (two : Moves second third client) :
    Moves first third client := by
  intro new found
  obtain ⟨middle, present, live, pump⟩ := two new found
  obtain ⟨old, here, lived, pumped⟩ := one middle present
  exact ⟨old, here, fun now => lived (live now), fun now => pumped (pump now)⟩

theorem Moves.of_step {daemon after : Daemon} {label : LinSight.Step} {client : Nat}
    (taken : daemon.step label = some after) (known : label ≠ .connect client) :
    Moves daemon after client := by
  intro new present
  obtain ⟨stay, fresh⟩ := Daemon.step_evolves taken
  cases found : daemon.sessions.lookup client with
  | none => exact absurd (fresh client new found present).1 known
  | some old =>
      obtain ⟨held, kept, evolves⟩ := stay client old found
      rw [present, Option.some.injEq] at kept
      subst kept
      refine ⟨old, rfl, evolves.live, fun runs => ?_⟩
      rcases evolves.pump with same | ⟨_, ended⟩
      · rw [← same, runs]
      · rw [ended] at runs
        cases runs

theorem Moves.of_exec {daemon after : Daemon} {labels : List LinSight.Step} {client : Nat}
    (run : Run.exec Daemon.step daemon labels = some after) (known : .connect client ∉ labels) :
    Moves daemon after client := by
  induction labels generalizing daemon with
  | nil =>
      cases run
      exact .refl _ client
  | cons label rest ih =>
      obtain ⟨next, taken, remaining⟩ := Run.exec_cons.mp run
      rw [List.mem_cons, not_or] at known
      exact (Moves.of_step taken (Ne.symm known.1)).trans (ih remaining known.2)

variable {ε : Type} {format : Format ServerMsg ε} {alloc : Allocator} {transport next : Transport}
  {label : Step}

/-- What a write of the pump does: the session loses its first message, and with a write that
fails its pump. -/
structure PumpWrote (format : Format ServerMsg ε) (alloc : Allocator) (transport : Transport)
    (client : Nat) (outcome : WriteAll) (next : Transport) (session : Session) (msg : OutboundMsg)
    (waiting : List OutboundMsg) : Prop where
  found : transport.daemon.sessions.lookup client = some session
  runs : session.pumpAlive = true
  queue : session.queue = msg :: waiting
  draining : ∃ drained, (transport.links client).drained = some drained
  links : ∃ drained, next.links = Function.update transport.links client
    { (transport.write format alloc client outcome msg.toServerMsg).2 with drained }
  daemon : ∃ middle, transport.daemon.step (.pump client) = some middle ∧
    middle.sessions.lookup client = some { session with queue := waiting } ∧
    ((transport.write format alloc client outcome msg.toServerMsg).1 = true ∧
        next.daemon = middle ∨
      (transport.write format alloc client outcome msg.toServerMsg).1 = false ∧
        middle.step (.pumpExit client) = some next.daemon)

theorem pumpWrite_cases {client : Nat} {outcome : WriteAll}
    (taken : transport.pumpWrite format alloc client outcome = some next) :
    ∃ session msg waiting,
      PumpWrote format alloc transport client outcome next session msg waiting := by
  obtain ⟨session, found, rest⟩ := Option.bind_eq_some_iff.mp taken
  split at rest
  · rename_i msg waiting drained queue draining
    obtain ⟨middle, pumped, rest⟩ := Option.bind_eq_some_iff.mp rest
    have moved := pumped
    simp only [Daemon.step, found, Option.bind_some, Run.enabled_eq_some] at moved
    have left : middle.sessions.lookup client = some { session with queue := waiting } := by
      rw [← moved.2, Daemon.lookup_withSession, if_pos rfl, queue]
      rfl
    refine ⟨session, msg, waiting, found, moved.1.1, queue, ⟨drained, draining⟩, ?_, ?_⟩
    all_goals
      dsimp only at rest
      split at rest
    · cases rest
      exact ⟨_, rfl⟩
    · obtain ⟨after, exited, rfl⟩ := Option.map_eq_some_iff.mp rest
      exact ⟨_, rfl⟩
    · rename_i sent
      cases rest
      exact ⟨middle, pumped, left, .inl ⟨sent, rfl⟩⟩
    · rename_i failed
      obtain ⟨after, exited, rfl⟩ := Option.map_eq_some_iff.mp rest
      exact ⟨middle, pumped, left, .inr ⟨Bool.eq_false_iff.mpr failed, exited⟩⟩
  · cases rest

theorem PumpWrote.unique {client : Nat} {outcome : WriteAll} {session held : Session}
    {msg first : OutboundMsg} {waiting others : List OutboundMsg}
    (wrote : PumpWrote format alloc transport client outcome next held first others)
    (found : transport.daemon.sessions.lookup client = some session)
    (queue : session.queue = msg :: waiting) : held = session ∧ first = msg ∧ others = waiting := by
  have same := wrote.found
  rw [found, Option.some.injEq] at same
  subst same
  have queued := wrote.queue
  rw [queue, List.cons.injEq] at queued
  exact ⟨rfl, queued.1.symm, queued.2.symm⟩

/-- The daemon under the sockets takes steps of its own. -/
theorem step_daemon (taken : transport.step format alloc label = some next) :
    ∃ labels, Run.exec Daemon.step transport.daemon labels = some next.daemon ∧
      ∀ client, .connect client ∈ labels →
        ∃ welcome outcome, label = .connect client welcome outcome := by
  have none_taken (daemon : Daemon) : ∃ labels, Run.exec Daemon.step daemon labels = some daemon ∧
      ∀ client, .connect client ∈ labels →
        ∃ welcome outcome, label = .connect client welcome outcome :=
    ⟨[], rfl, fun client member => absurd member List.not_mem_nil⟩
  have one {daemon after : Daemon} {move : LinSight.Step} (step : daemon.step move = some after)
      (known : ∀ client, move = .connect client →
        ∃ welcome outcome, label = .connect client welcome outcome) :
      ∃ labels, Run.exec Daemon.step daemon labels = some after ∧
        ∀ client, .connect client ∈ labels →
          ∃ welcome outcome, label = .connect client welcome outcome := by
    refine ⟨[move], Run.exec_cons.mpr ⟨after, step, rfl⟩, fun client member => ?_⟩
    exact known client (List.mem_singleton.mp member).symm
  cases label <;> simp only [step] at taken
  case refuse client bye outcome =>
    obtain ⟨_, rfl⟩ := Run.enabled_eq_some.mp taken
    exact none_taken _
  case connect client welcome outcome =>
    split at taken
    · obtain ⟨daemon, joined, rfl⟩ := Option.map_eq_some_iff.mp taken
      refine one joined fun other same => ?_
      cases same
      exact ⟨welcome, outcome, rfl⟩
    · obtain ⟨_, rfl⟩ := Run.enabled_eq_some.mp taken
      exact none_taken _
  case reply client msg outcome =>
    obtain ⟨session, found, rest⟩ := Option.bind_eq_some_iff.mp taken
    split at rest
    · dsimp only at rest
      split at rest
      · cases rest
        exact none_taken _
      · obtain ⟨daemon, left, rfl⟩ := Option.map_eq_some_iff.mp rest
        exact one left fun _ same => by cases same
    · cases rest
  case bye client msg outcome =>
    obtain ⟨daemon, left, rfl⟩ := Option.map_eq_some_iff.mp taken
    exact one left fun _ same => by cases same
  case hangup client =>
    obtain ⟨daemon, left, rfl⟩ := Option.map_eq_some_iff.mp taken
    exact one left fun _ same => by cases same
  case pumpWrite client outcome =>
    obtain ⟨session, msg, waiting, wrote⟩ := pumpWrite_cases taken
    obtain ⟨middle, pumped, _, ⟨_, same⟩ | ⟨_, exited⟩⟩ := wrote.daemon
    · rw [same]
      exact one pumped fun _ same => by cases same
    · refine ⟨[.pump client, .pumpExit client], ?_, fun other member => ?_⟩
      · exact Run.exec_cons.mpr ⟨middle, pumped, Run.exec_cons.mpr ⟨next.daemon, exited, rfl⟩⟩
      · rcases List.mem_pair.mp member with same | same <;> cases same
  case pumpStop client =>
    split at taken
    · obtain ⟨daemon, exited, rfl⟩ := Option.map_eq_some_iff.mp taken
      exact one exited fun _ same => by cases same
    · cases taken
  case daemon move =>
    split at taken
    · rename_i off
      obtain ⟨daemon, moved, rfl⟩ := Option.map_eq_some_iff.mp taken
      refine one moved fun client same => ?_
      rw [same] at off
      cases off
    · cases taken
  all_goals
    obtain ⟨session, found, rest⟩ := Option.bind_eq_some_iff.mp taken
    obtain ⟨_, rfl⟩ := Run.enabled_eq_some.mp rest
    exact none_taken _

theorem step_moves (taken : transport.step format alloc label = some next) {client : Nat}
    (known : ∀ welcome outcome, label ≠ .connect client welcome outcome) :
    Moves transport.daemon next.daemon client := by
  obtain ⟨labels, run, connects⟩ := step_daemon taken
  refine Moves.of_exec run fun member => ?_
  obtain ⟨welcome, outcome, same⟩ := connects client member
  exact known welcome outcome same

/-- The daemon of a reachable transport is reachable in the model without sockets. -/
theorem daemon_reachable {descriptors : List SensorDescriptor}
    (reached : Run.Reaches (step format alloc) (start descriptors) transport) :
    Daemon.Reachable descriptors transport.daemon := by
  have preserved (state : Transport) (label : Step) (next : Transport)
      (taken : step format alloc state label = some next)
      (before : Daemon.Reachable descriptors state.daemon) :
      Daemon.Reachable descriptors next.daemon := by
    obtain ⟨labels, run, _⟩ := step_daemon taken
    obtain ⟨earlier, start⟩ := before
    exact ⟨earlier ++ labels, Run.exec_append.mpr ⟨_, start, run⟩⟩
  have initial : Daemon.Reachable descriptors (start descriptors).daemon := ⟨[], rfl⟩
  exact reached.invariant preserved initial

theorem write_spec (alloc : Allocator) (transport : Transport)
    (fills : ∀ msg, format.Fills msg) (client : Nat) (outcome : WriteAll)
    (msg : ServerMsg) :
    (transport.write format alloc client outcome msg).1 = format.writes outcome msg ∧
      (transport.write format alloc client outcome msg).2.writer.inner =
        (transport.links client).writer.inner ++ format.puts outcome msg :=
  BufferedWriter.send_spec format alloc (fills msg) outcome _

theorem disconnect_enabled {daemon : Daemon} {client : Nat} {session : Session}
    (found : daemon.sessions.lookup client = some session) (serving : session.phase = .serving) :
    daemon.step (.disconnect client) =
      some (daemon.withSession client { session with phase := .stopped }) := by
  simp only [Daemon.step, found, Option.bind_some, Run.enabled_eq_some, serving, and_self]

theorem reply_enabled {client : Nat} {session : Session} {msg : ServerMsg} {outcome : WriteAll}
    (found : transport.daemon.sessions.lookup client = some session)
    (serving : session.phase = .serving) :
    transport.step format alloc (.reply client msg outcome) ≠ none := by
  simp only [step, reply, found, Option.bind_some, serving, ↓reduceIte,
    disconnect_enabled found serving, Option.map_some]
  split <;> exact Option.some_ne_none _

theorem bye_enabled {client : Nat} {session : Session} {msg : ServerMsg} {outcome : WriteAll}
    (found : transport.daemon.sessions.lookup client = some session)
    (serving : session.phase = .serving) :
    transport.step format alloc (.bye client msg outcome) ≠ none := by
  simp only [step, disconnect_enabled found serving, Option.map_some]
  exact Option.some_ne_none _

theorem pumpWrite_enabled {client : Nat} {session : Session} {outcome : WriteAll}
    {msg : OutboundMsg} {rest : List OutboundMsg} {drained : Nat}
    (found : transport.daemon.sessions.lookup client = some session)
    (runs : session.pumpAlive = true) (queue : session.queue = msg :: rest)
    (draining : (transport.links client).drained = some drained) :
    transport.step format alloc (.pumpWrite client outcome) ≠ none := by
  have pumped : transport.daemon.step (.pump client) =
      some (transport.daemon.withSession client { session with queue := rest }) := by
    simp only [Daemon.step, found, Option.bind_some, Run.enabled_eq_some, runs, queue]
    exact ⟨⟨trivial, List.cons_ne_nil _ _⟩, rfl⟩
  have exited : (transport.daemon.withSession client { session with queue := rest }).step
      (.pumpExit client) = some ((transport.daemon.withSession client
        { session with queue := rest }).withSession client
          { session with queue := rest, pumpAlive := false }) := by
    simp only [Daemon.step, Daemon.lookup_withSession, ↓reduceIte, Option.bind_some, runs,
      Run.enabled_eq_some, and_self]
  simp only [step, pumpWrite, found, Option.bind_some, queue, draining, pumped, exited,
    Option.map_some]
  split <;> exact Option.some_ne_none _

/-- A connection starts with a writer of its own. -/
theorem links_of_connect {client : Nat} {welcome : ServerMsg} {outcome : WriteAll}
    (taken : transport.step format alloc (.connect client welcome outcome) = some next) :
    transport.daemon.sessions.lookup client = none ∧
      next.links = Function.update transport.links client
        { Link.new with writer := (Link.new.writer.send format alloc outcome welcome).2 } := by
  simp only [step] at taken
  split at taken
  · obtain ⟨daemon, joined, rfl⟩ := Option.map_eq_some_iff.mp taken
    exact ⟨(Run.enabled_eq_some.mp joined).1, rfl⟩
  · obtain ⟨absent, rfl⟩ := Run.enabled_eq_some.mp taken
    exact ⟨absent, rfl⟩

/-- What a step can make of the link of a client. -/
inductive Touches (format : Format ServerMsg ε) (alloc : Allocator) (transport : Transport) :
    Step → Nat → Link → Prop
  | refused {client : Nat} {bye : ServerMsg} {outcome : WriteAll}
      (absent : transport.daemon.sessions.lookup client = none) :
      Touches format alloc transport (.refuse client bye outcome) client
        { Link.new with writer := (Link.new.writer.send format alloc outcome bye).2 }
  | joined {client : Nat} {welcome : ServerMsg} {outcome : WriteAll}
      (absent : transport.daemon.sessions.lookup client = none) :
      Touches format alloc transport (.connect client welcome outcome) client
        { Link.new with writer := (Link.new.writer.send format alloc outcome welcome).2 }
  | replied {client : Nat} {msg : ServerMsg} {outcome : WriteAll} {session : Session}
      (found : transport.daemon.sessions.lookup client = some session)
      (serving : session.phase = .serving) :
      Touches format alloc transport (.reply client msg outcome) client
        (transport.write format alloc client outcome msg).2
  | left {client : Nat} {msg : ServerMsg} {outcome : WriteAll} {session : Session}
      (found : transport.daemon.sessions.lookup client = some session)
      (serving : session.phase = .serving) :
      Touches format alloc transport (.bye client msg outcome) client
        (transport.write format alloc client outcome msg).2
  | pumped {client : Nat} {msg : OutboundMsg} {outcome : WriteAll} {session : Session}
      {rest : List OutboundMsg} {drained : Option Nat}
      (found : transport.daemon.sessions.lookup client = some session)
      (runs : session.pumpAlive = true) (queue : session.queue = msg :: rest) :
      Touches format alloc transport (.pumpWrite client outcome) client
        { (transport.write format alloc client outcome msg.toServerMsg).2 with drained }
  | told {client : Nat} {session : Session}
      (found : transport.daemon.sessions.lookup client = some session)
      (stopped : session.phase = .stopped) :
      Touches format alloc transport (.sendStop client) client
        { transport.links client with stopSent := true }
  | ticked {client : Nat} :
      Touches format alloc transport (.tick client) client
        { transport.links client with drained := some 0 }
  | emptied {client : Nat} :
      Touches format alloc transport (.pumpEmpty client) client
        { transport.links client with drained := none }

/-- A step touches one link at most. -/
theorem step_touches (taken : transport.step format alloc label = some next) :
    next.links = transport.links ∨ ∃ client link,
      Touches format alloc transport label client link ∧
        next.links = Function.update transport.links client link := by
  cases label <;> simp only [step] at taken
  case refuse client bye outcome =>
    obtain ⟨absent, rfl⟩ := Run.enabled_eq_some.mp taken
    exact .inr ⟨client, _, .refused absent, rfl⟩
  case connect client welcome outcome =>
    obtain ⟨absent, links⟩ := links_of_connect taken
    exact .inr ⟨client, _, .joined absent, links⟩
  case reply client msg outcome =>
    obtain ⟨session, found, rest⟩ := Option.bind_eq_some_iff.mp taken
    split at rest
    · rename_i serving
      dsimp only at rest
      split at rest
      · cases rest
        exact .inr ⟨client, _, .replied found serving, rfl⟩
      · obtain ⟨daemon, left, rfl⟩ := Option.map_eq_some_iff.mp rest
        exact .inr ⟨client, _, .replied found serving, rfl⟩
    · cases rest
  case bye client msg outcome =>
    obtain ⟨daemon, left, rfl⟩ := Option.map_eq_some_iff.mp taken
    obtain ⟨session, found, passed⟩ := Option.bind_eq_some_iff.mp left
    exact .inr ⟨client, _, .left found (Run.enabled_eq_some.mp passed).1, rfl⟩
  case hangup client =>
    obtain ⟨daemon, left, rfl⟩ := Option.map_eq_some_iff.mp taken
    exact .inl rfl
  case sendStop client =>
    obtain ⟨session, found, rest⟩ := Option.bind_eq_some_iff.mp taken
    obtain ⟨stopped, rfl⟩ := Run.enabled_eq_some.mp rest
    exact .inr ⟨client, _, .told found stopped, rfl⟩
  case tick client =>
    obtain ⟨session, found, rest⟩ := Option.bind_eq_some_iff.mp taken
    obtain ⟨_, rfl⟩ := Run.enabled_eq_some.mp rest
    exact .inr ⟨client, _, .ticked, rfl⟩
  case pumpWrite client outcome =>
    obtain ⟨session, msg, waiting, wrote⟩ := pumpWrite_cases taken
    obtain ⟨drained, links⟩ := wrote.links
    exact .inr ⟨client, _, .pumped wrote.found wrote.runs wrote.queue, links⟩
  case pumpEmpty client =>
    obtain ⟨session, found, rest⟩ := Option.bind_eq_some_iff.mp taken
    obtain ⟨_, rfl⟩ := Run.enabled_eq_some.mp rest
    exact .inr ⟨client, _, .emptied, rfl⟩
  case pumpStop client =>
    split at taken
    · obtain ⟨daemon, exited, rfl⟩ := Option.map_eq_some_iff.mp taken
      exact .inl rfl
    · cases taken
  case daemon move =>
    split at taken
    · obtain ⟨daemon, moved, rfl⟩ := Option.map_eq_some_iff.mp taken
      exact .inl rfl
    · cases taken

end Transport

end LinSight
