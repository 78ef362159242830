import LinSight.Daemon.TransportSteps

set_option autoImplicit false

/-! Sessions whose pump has ended while their read loop goes on. -/

namespace LinSight

namespace Daemon

variable {daemon next : Daemon} {label : Step}

/-- A sink that the sampler finds closed is that of an ended pump. -/
theorem step_disconnected (taken : daemon.step label = some next) {client : Nat}
    (member : client ∈ next.sampler.disconnected) :
    client ∈ daemon.sampler.disconnected ∨
      ∃ session, daemon.sessions.lookup client = some session ∧ session.pumpAlive = false := by
  cases label <;>
    simp only [step, Option.bind_eq_some_iff, Run.enabled_eq_some, Option.some.injEq] at taken
  case broadcast infos =>
    cases taken
    exact .inl member
  case connect other =>
    obtain ⟨_, rfl⟩ := taken
    exact .inl member
  case tickPlan now =>
    obtain ⟨_, rfl⟩ := taken
    cases member
  case tickCommit results =>
    split at taken
    · obtain ⟨_, rfl⟩ := Run.enabled_eq_some.mp taken
      dsimp only at member
      split at member <;> cases member
    · cases taken
  case snapshotSinks sinks =>
    split at taken
    · obtain ⟨_, rfl⟩ := Run.enabled_eq_some.mp taken
      cases member
    · cases taken
  case fanOut =>
    unfold Daemon.fanOut at taken
    split at taken
    · cases taken
      cases member
    · rename_i delivering
      obtain ⟨session, _, passed⟩ := Option.bind_eq_some_iff.mp taken
      obtain ⟨_, rfl⟩ := Run.enabled_eq_some.mp passed
      rw [delivering]
      exact .inl member
    · rename_i delivering
      cases taken
      rw [delivering]
      exact .inl member
    · rename_i delivering
      obtain ⟨session, found, rfl⟩ := Option.map_eq_some_iff.mp taken
      rw [delivering]
      split at member
      · exact .inl member
      · exact .inl member
      · rename_i closed
        rcases List.mem_cons.mp member with rfl | earlier
        · exact .inr ⟨session, found, pumpAlive_of_disconnected closed⟩
        · exact .inl earlier
    · cases taken
  all_goals
    obtain ⟨session, _, _, rfl⟩ := taken
    exact .inl member

/-- A sink is given up only behind the back of an ended pump. -/
structure SinksSound (daemon : Daemon) : Prop where
  closed : ∀ client ∈ daemon.sampler.disconnected,
    ∃ session, daemon.sessions.lookup client = some session ∧ session.pumpAlive = false
  removed : ∀ client session, daemon.sessions.lookup client = some session →
    session.registered = false → session.pumpAlive = false

/-- Where a read loop serves, the pump runs and the sink is in the client map. -/
def NoHalfDead (daemon : Daemon) : Prop :=
  ∀ client session, daemon.sessions.lookup client = some session →
    session.phase.live = true → session.pumpAlive = true ∧ session.registered = true

theorem SinksSound.step (sound : daemon.SinksSound) (taken : daemon.step label = some next) :
    next.SinksSound := by
  obtain ⟨stay, fresh⟩ := step_evolves taken
  constructor
  · intro client member
    obtain ⟨old, found, ended⟩ : ∃ session, daemon.sessions.lookup client = some session ∧
        session.pumpAlive = false := by
      rcases step_disconnected taken member with earlier | here
      · exact sound.closed client earlier
      · exact here
    obtain ⟨new, present, evolves⟩ := stay client old found
    refine ⟨new, present, ?_⟩
    rcases evolves.pump with same | ⟨_, exit⟩
    · rw [same, ended]
    · exact exit
  · intro client new present removed
    cases found : daemon.sessions.lookup client with
    | none =>
        obtain ⟨_, rfl⟩ := fresh client new found present
        cases removed
    | some old =>
        obtain ⟨held, kept, evolves⟩ := stay client old found
        rw [present, Option.some.injEq] at kept
        subst kept
        rcases evolves.pump with same | ⟨_, exit⟩
        · rw [same]
          rcases evolves.sink with sink | ⟨_, ended | member⟩
          · exact sound.removed client old found (sink ▸ removed)
          · exact ended
          · obtain ⟨session, here, ended⟩ := sound.closed client member
            rw [found, Option.some.injEq] at here
            rw [here, ended]
        · exact exit

/-- A step leaves no session half dead, unless a pump exits whose read loop serves. -/
theorem NoHalfDead.step (alive : daemon.NoHalfDead) (sound : daemon.SinksSound)
    (taken : daemon.step label = some next)
    (exits : ∀ client session, label = .pumpExit client →
      daemon.sessions.lookup client = some session → session.phase.live = false) :
    next.NoHalfDead := by
  intro client new present live
  obtain ⟨stay, fresh⟩ := step_evolves taken
  cases found : daemon.sessions.lookup client with
  | none =>
      obtain ⟨_, rfl⟩ := fresh client new found present
      exact ⟨rfl, rfl⟩
  | some old =>
      obtain ⟨held, kept, evolves⟩ := stay client old found
      rw [present, Option.some.injEq] at kept
      subst kept
      have was_live := evolves.live live
      obtain ⟨pump, sink⟩ := alive client old found was_live
      have runs : new.pumpAlive = true := by
        rcases evolves.pump with same | ⟨exit, _⟩
        · rw [same, pump]
        · rw [exits client old exit found] at was_live
          cases was_live
      refine ⟨runs, ?_⟩
      cases registered : new.registered with
      | true => rfl
      | false =>
          have next_sound := sound.step taken
          rw [next_sound.removed client new present registered] at runs
          cases runs

end Daemon

namespace Transport

variable {ε : Type} {format : Format ServerMsg ε} {alloc : Allocator} {transport next : Transport}

/-- Nobody has been told to stop whose read loop serves. -/
structure Sound (transport : Transport) : Prop where
  sinks : transport.daemon.SinksSound
  stops : ∀ client session, transport.daemon.sessions.lookup client = some session →
    (transport.links client).stopSent = true → session.phase.live = false

theorem stopSent_of_touches {label : Step} {client : Nat} {link : Link}
    (touched : Touches format alloc transport label client link) (sent : link.stopSent = true) :
    (transport.links client).stopSent = true ∨
      ∃ session, transport.daemon.sessions.lookup client = some session ∧
        session.phase = .stopped := by
  cases touched with
  | refused | joined => cases sent
  | told found stopped => exact .inr ⟨_, found, stopped⟩
  | replied | left | pumped | ticked | emptied => exact .inl sent

theorem step_sound (sound : transport.Sound) {label : Step}
    (taken : transport.step format alloc label = some next) : next.Sound where
  sinks := by
    obtain ⟨labels, run, _⟩ := step_daemon taken
    exact Run.exec_invariant (fun _ _ _ step before => before.step step) run sound.sinks
  stops := by
    intro client new present sent
    have known : ∀ welcome outcome, label ≠ .connect client welcome outcome := by
      rintro welcome outcome rfl
      rw [(links_of_connect taken).2, Function.update_self] at sent
      cases sent
    obtain ⟨old, found, lived, _⟩ := step_moves taken known new present
    have stopped : (transport.links client).stopSent = true ∨
        ∃ session, transport.daemon.sessions.lookup client = some session ∧
          session.phase = .stopped := by
      rcases step_touches taken with same | ⟨other, link, touched, links⟩
      · rw [same] at sent
        exact .inl sent
      · by_cases here : client = other
        · subst here
          rw [links, Function.update_self] at sent
          exact stopSent_of_touches touched sent
        · rw [links, Function.update_of_ne here] at sent
          exact .inl sent
    have dead : old.phase.live = false := by
      rcases stopped with earlier | ⟨session, here, ended⟩
      · exact sound.stops client old found earlier
      · rw [found, Option.some.injEq] at here
        rw [here, ended]
        rfl
    cases live : new.phase.live with
    | false => rfl
    | true =>
        rw [lived live] at dead
        cases dead

/-- A pump's write succeeds while the session's read loop serves: the message fits into a frame
and the socket takes all of it. -/
def PumpSurvives (format : Format ServerMsg ε) (transport : Transport) : Step → Prop
  | .pumpWrite client outcome => ∀ session msg rest drained,
      transport.daemon.sessions.lookup client = some session → session.pumpAlive = true →
      session.queue = msg :: rest → (transport.links client).drained = some drained →
      session.phase.live = true → format.writes outcome msg.toServerMsg = true
  | _ => True

/-- A pump's write keeps every session whole where it succeeds or the read loop has ended. -/
theorem pumpWrite_noHalfDead_iff (fills : ∀ msg, format.Fills msg) (sound : transport.Sound)
    (alive : transport.daemon.NoHalfDead) {client : Nat} {outcome : WriteAll}
    (taken : transport.pumpWrite format alloc client outcome = some next) :
    next.daemon.NoHalfDead ↔ PumpSurvives format transport (.pumpWrite client outcome) := by
  obtain ⟨session, msg, waiting, wrote⟩ := pumpWrite_cases taken
  obtain ⟨drained, draining⟩ := wrote.draining
  obtain ⟨middle, pumped, left, rest⟩ := wrote.daemon
  have whole : middle.NoHalfDead := by
    refine alive.step sound.sinks pumped fun _ _ same => ?_
    cases same
  rw [(write_spec alloc transport fills client outcome msg.toServerMsg).1] at rest
  rcases rest with ⟨survived, same⟩ | ⟨failed, exited⟩
  · rw [same]
    refine iff_of_true whole ?_
    intro held first waiting' drained' here _ queue' _ _
    rw [wrote.found, Option.some.injEq] at here
    rw [← here, wrote.queue] at queue'
    cases queue'
    exact survived
  · constructor
    · intro kept held first waiting' drained' here _ _ _ live
      rw [wrote.found, Option.some.injEq] at here
      subst here
      simp only [Daemon.step, left, Option.bind_some, Run.enabled_eq_some] at exited
      have ended : next.daemon.sessions.lookup client =
          some { session with queue := waiting, pumpAlive := false } := by
        rw [← exited.2, Daemon.lookup_withSession, if_pos rfl]
      cases (kept client _ ended live).1
    · intro survives
      refine whole.step (sound.sinks.step pumped) exited ?_
      intro other held same here
      cases same
      rw [left, Option.some.injEq] at here
      subst here
      cases live : session.phase.live with
      | false => rfl
      | true =>
          have sent := survives session msg waiting drained wrote.found wrote.runs wrote.queue
            draining live
          rw [failed] at sent
          cases sent

/-- Whether a step leaves a session half dead that was whole before. -/
theorem step_noHalfDead_iff (fills : ∀ msg, format.Fills msg) (sound : transport.Sound)
    (alive : transport.daemon.NoHalfDead) {label : Step}
    (taken : transport.step format alloc label = some next) :
    next.daemon.NoHalfDead ↔ PumpSurvives format transport label := by
  have still {daemon : Daemon} {label : LinSight.Step}
      (moved : transport.daemon.step label = some daemon)
      (known : ∀ client, label ≠ .pumpExit client) : daemon.NoHalfDead :=
    alive.step sound.sinks moved fun client _ exit => absurd exit (known client)
  cases label <;> simp only [step] at taken
  case refuse client bye outcome =>
    obtain ⟨_, rfl⟩ := Run.enabled_eq_some.mp taken
    exact iff_of_true alive trivial
  case connect client welcome outcome =>
    split at taken
    · obtain ⟨daemon, joined, rfl⟩ := Option.map_eq_some_iff.mp taken
      exact iff_of_true (still joined fun _ exit => by cases exit) trivial
    · obtain ⟨_, rfl⟩ := Run.enabled_eq_some.mp taken
      exact iff_of_true alive trivial
  case reply client msg outcome =>
    obtain ⟨session, found, rest⟩ := Option.bind_eq_some_iff.mp taken
    split at rest
    · dsimp only at rest
      split at rest
      · cases rest
        exact iff_of_true alive trivial
      · obtain ⟨daemon, left, rfl⟩ := Option.map_eq_some_iff.mp rest
        exact iff_of_true (still left fun _ exit => by cases exit) trivial
    · cases rest
  case bye client msg outcome =>
    obtain ⟨daemon, left, rfl⟩ := Option.map_eq_some_iff.mp taken
    exact iff_of_true (still left fun _ exit => by cases exit) trivial
  case hangup client =>
    obtain ⟨daemon, left, rfl⟩ := Option.map_eq_some_iff.mp taken
    exact iff_of_true (still left fun _ exit => by cases exit) trivial
  case pumpWrite client outcome => exact pumpWrite_noHalfDead_iff fills sound alive taken
  case pumpStop client =>
    split at taken
    · rename_i stopping
      obtain ⟨daemon, exited, rfl⟩ := Option.map_eq_some_iff.mp taken
      refine iff_of_true (alive.step sound.sinks exited ?_) trivial
      intro other session same found
      cases same
      exact sound.stops client session found stopping.2
    · cases taken
  case daemon label =>
    split at taken
    · rename_i off
      obtain ⟨daemon, moved, rfl⟩ := Option.map_eq_some_iff.mp taken
      refine iff_of_true (still moved ?_) trivial
      rintro client rfl
      cases off
    · cases taken
  all_goals
    obtain ⟨session, found, rest⟩ := Option.bind_eq_some_iff.mp taken
    obtain ⟨_, rfl⟩ := Run.enabled_eq_some.mp rest
    exact iff_of_true alive trivial

/-- Where no write is possible, none fails. -/
theorem pumpSurvives_of_none {label : Step}
    (stuck : transport.step format alloc label = none) : PumpSurvives format transport label := by
  cases label with
  | pumpWrite client outcome =>
      intro session msg rest drained found runs queue draining live
      exact absurd stuck (pumpWrite_enabled found runs queue draining)
  | _ => trivial

theorem start_sound (descriptors : List SensorDescriptor) : (start descriptors).Sound where
  sinks := by
    refine ⟨fun client member => absurd member List.not_mem_nil, ?_⟩
    intro client session found
    cases found
  stops := by
    intro client session found
    cases found

end Transport

/-- Where a read loop serves, the pump runs and the sink is in the client map, in exactly the
runs in which no pump's write fails under a read loop that serves. -/
theorem no_half_dead_iff {ε : Type} (format : Format ServerMsg ε) (alloc : Allocator)
    (fills : ∀ msg, format.Fills msg) (descriptors : List SensorDescriptor)
    (labels : List Transport.Step) :
    (∀ transport, Run.Visits (Transport.step format alloc) (Transport.start descriptors) labels
        transport →
      ∀ client session, transport.daemon.sessions.lookup client = some session →
        session.phase.live = true → session.pumpAlive = true ∧ session.registered = true) ↔
      Run.Always (Transport.step format alloc) (Transport.PumpSurvives format)
        (Transport.start descriptors) labels := by
  have preserved (transport : Transport) (label : Transport.Step) (next : Transport)
      (taken : transport.step format alloc label = some next) (sound : transport.Sound) :
      next.Sound := Transport.step_sound sound taken
  have initial : (Transport.start descriptors).daemon.NoHalfDead := by
    intro client session found
    cases found
  exact Run.visits_iff_always preserved (fun _ _ stuck => Transport.pumpSurvives_of_none stuck)
    (fun _ _ _ taken sound alive => Transport.step_noHalfDead_iff fills sound alive taken)
    (Transport.start_sound descriptors) initial

namespace Transport

theorem bareFormat_fills (msg : ServerMsg) : bareFormat.Fills msg :=
  Format.filling_fills _ _ msg

/-- The next write of the pump succeeds. -/
def pumpSurvives (transport : Transport) : Step → Bool
  | .pumpWrite client outcome => (transport.daemon.sessions.lookup client).all fun session =>
      session.queue.head?.all fun msg => bareFormat.writes outcome msg.toServerMsg
  | _ => true

theorem pumpSurvives_sound (transport : Transport) (label : Step)
    (passed : transport.pumpSurvives label = true) : PumpSurvives bareFormat transport label := by
  cases label with
  | pumpWrite client outcome =>
      intro session msg rest drained found _ queue _ _
      simp only [pumpSurvives, found, Option.all_some, queue, List.head?_cons] at passed
      exact passed
  | _ => trivial

/-- The read loop's write fails, and the pump still writes what is queued. -/
def failedReply : List Step :=
  [.connect 7 (.welcome 3 "1.20.5" []) .ok, .daemon (.broadcast []), .tick 7,
    .reply 7 (.sensorList []) (.failed 0), .pumpWrite 7 .ok, .pumpEmpty 7, .sendStop 7,
    .pumpStop 7, .daemon (.deregister 7)]

end Transport

theorem no_half_dead_after_failed_reply :
    (Run.exec (Transport.step Transport.bareFormat Transport.tightAlloc)
      (Transport.start [memUsedBytes]) Transport.failedReply).isSome = true ∧
    ∀ transport, Run.Visits (Transport.step Transport.bareFormat Transport.tightAlloc)
        (Transport.start [memUsedBytes]) Transport.failedReply transport →
      ∀ client session, transport.daemon.sessions.lookup client = some session →
        session.phase.live = true → session.pumpAlive = true ∧ session.registered = true :=
  ⟨by decide +kernel,
    (no_half_dead_iff Transport.bareFormat Transport.tightAlloc Transport.bareFormat_fills
      [memUsedBytes] _).mpr
        (Run.Always.of_check Transport.pumpSurvives_sound (by decide +kernel))⟩

/-- A write of the pump times out before its first byte. The next broadcast removes the sink, and
the read loop goes on to answer the client, who keeps a subscription. -/
theorem pump_exits_under_read_loop : ∃ transport session,
    Run.Reaches (Transport.step Transport.bareFormat Transport.tightAlloc)
      (Transport.start [memUsedBytes]) transport ∧
    transport.daemon.sessions.lookup 7 = some session ∧ session.phase.live = true ∧
    session.pumpAlive = false ∧ session.registered = false ∧
    session.subscriptions.wants memUsedBytes.id = true := by
  have ran : ((Run.exec (Transport.step Transport.bareFormat Transport.tightAlloc)
      (Transport.start [memUsedBytes])
      [.connect 7 (.welcome 3 "1.20.5" []) .ok, .daemon (.subscribe 7 [memUsedBytes.id] none),
        .daemon (.broadcast []), .tick 7, .pumpWrite 7 (.failed 0), .daemon (.broadcast []),
        .reply 7 (.sensorList []) .ok]).bind
        fun transport => (transport.daemon.sessions.lookup 7).map fun session =>
          (session.phase.live, session.pumpAlive, session.registered,
            session.subscriptions.wants memUsedBytes.id)) =
      some (true, false, false, true) := by decide +kernel
  obtain ⟨transport, run, rest⟩ := Option.bind_eq_some_iff.mp ran
  obtain ⟨session, found, shown⟩ := Option.map_eq_some_iff.mp rest
  simp only [Prod.mk.injEq] at shown
  exact ⟨transport, session, ⟨_, run⟩, found, shown⟩

end LinSight
