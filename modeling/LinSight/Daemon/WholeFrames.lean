import LinSight.Daemon.TransportSteps
import LinSight.Gui.ClientCalls

set_option autoImplicit false

/-! What the connections have carried where writes may be cut. -/

namespace LinSight

theorem Format.writes_of_cuts {M ε : Type} {format : Format M ε} {msg : M} {outcome : WriteAll}
    (cut : format.cuts msg outcome = true) : format.writes outcome msg = false := by
  cases outcome with
  | ok => cases cut
  | failed n => simp [Format.writes]

namespace Transport

variable {ε : Type} {format : Format ServerMsg ε} {alloc : Allocator} {transport next : Transport}
  {client : Nat}

/-- Neither thread of the client's session writes any more. -/
def Silent (daemon : Daemon) (client : Nat) : Prop :=
  ∀ session, daemon.sessions.lookup client = some session →
    session.phase.live = false ∧ session.pumpAlive = false

/-- A write is cut only where the other thread of the session has ended. -/
def CutAlone (format : Format ServerMsg ε) (transport : Transport) : Step → Prop
  | .reply client msg outcome | .bye client msg outcome => format.cuts msg outcome = true →
      ∀ session, transport.daemon.sessions.lookup client = some session →
        session.phase = .serving → session.pumpAlive = false
  | .pumpWrite client outcome => ∀ session msg rest drained,
      transport.daemon.sessions.lookup client = some session → session.pumpAlive = true →
      session.queue = msg :: rest → (transport.links client).drained = some drained →
      format.cuts msg.toServerMsg outcome = true → session.phase.live = false
  | _ => True

/-- The connection of a client has carried whole frames, the last of which may be cut only when
nobody writes any more. -/
structure Carries (format : Format ServerMsg ε) (transport : Transport) (client : Nat) : Prop where
  framed : format.Framed (transport.links client).writer.inner
  whole : format.Whole (transport.links client).writer.inner ∨ Silent transport.daemon client

theorem Silent.move {daemon after : Daemon} (silent : Silent daemon client)
    (moves : Moves daemon after client) : Silent after client := by
  intro new present
  obtain ⟨old, found, lived, pumped⟩ := moves new present
  obtain ⟨dead, ended⟩ := silent old found
  constructor
  · cases live : new.phase.live with
    | false => rfl
    | true => rw [lived live] at dead; cases dead
  · cases runs : new.pumpAlive with
    | false => rfl
    | true => rw [pumped runs] at ended; cases ended

theorem lookup_of_disconnect {daemon after : Daemon}
    (left : daemon.step (.disconnect client) = some after) :
    ∃ session, daemon.sessions.lookup client = some session ∧ session.phase = .serving ∧
      after.sessions.lookup client = some { session with phase := .stopped } := by
  simp only [Daemon.step, Option.bind_eq_some_iff, Run.enabled_eq_some] at left
  obtain ⟨session, found, serving, rfl⟩ := left
  exact ⟨session, found, serving, by rw [Daemon.lookup_withSession, if_pos rfl]⟩

/-- A failed write of the read loop ends the read loop. -/
theorem lookup_of_failed_reply (fills : ∀ msg, format.Fills msg) {msg : ServerMsg}
    {outcome : WriteAll}
    (taken : transport.step format alloc (.reply client msg outcome) = some next)
    (failed : format.writes outcome msg = false) :
    ∃ session, transport.daemon.sessions.lookup client = some session ∧
      session.phase = .serving ∧
      next.daemon.sessions.lookup client = some { session with phase := .stopped } := by
  obtain ⟨session, _, rest⟩ := Option.bind_eq_some_iff.mp taken
  split at rest
  · have written : (transport.write format alloc client outcome msg).1 = false :=
      (write_spec alloc transport fills client outcome msg).1.trans failed
    simp only [written, Bool.false_eq_true, ↓reduceIte] at rest
    obtain ⟨daemon, left, rfl⟩ := Option.map_eq_some_iff.mp rest
    exact lookup_of_disconnect left
  · cases rest

theorem lookup_of_bye {msg : ServerMsg} {outcome : WriteAll}
    (taken : transport.step format alloc (.bye client msg outcome) = some next) :
    ∃ session, transport.daemon.sessions.lookup client = some session ∧
      session.phase = .serving ∧
      next.daemon.sessions.lookup client = some { session with phase := .stopped } := by
  obtain ⟨daemon, left, rfl⟩ := Option.map_eq_some_iff.mp taken
  exact lookup_of_disconnect left

/-- A failed write of the pump ends the pump. -/
theorem lookup_of_failed_pump (fills : ∀ msg, format.Fills msg) {outcome : WriteAll}
    {session : Session} {msg : OutboundMsg} {waiting : List OutboundMsg}
    (taken : transport.step format alloc (.pumpWrite client outcome) = some next)
    (found : transport.daemon.sessions.lookup client = some session)
    (queue : session.queue = msg :: waiting)
    (failed : format.writes outcome msg.toServerMsg = false) :
    (∃ drained, (transport.links client).drained = some drained) ∧
      next.daemon.sessions.lookup client =
        some { session with queue := waiting, pumpAlive := false } := by
  obtain ⟨held, first, others, wrote⟩ := pumpWrite_cases taken
  obtain ⟨rfl, rfl, rfl⟩ := wrote.unique found queue
  obtain ⟨middle, _, left, ⟨sent, _⟩ | ⟨_, exited⟩⟩ := wrote.daemon
  · rw [(write_spec alloc transport fills client outcome _).1, failed] at sent
    cases sent
  · refine ⟨wrote.draining, ?_⟩
    simp only [Daemon.step, left, Option.bind_some, Run.enabled_eq_some] at exited
    rw [← exited.2, Daemon.lookup_withSession, if_pos rfl]

theorem silent_of_absent {daemon : Daemon} (absent : daemon.sessions.lookup client = none) :
    Silent daemon client := by
  intro session found
  rw [absent] at found
  cases found

/-- Behind a failed `Welcome` there is no session. -/
theorem silent_of_failed_welcome (fills : ∀ msg, format.Fills msg) {welcome : ServerMsg}
    {outcome : WriteAll}
    (taken : transport.step format alloc (.connect client welcome outcome) = some next)
    (failed : format.writes outcome welcome = false) : Silent next.daemon client := by
  have written : (Link.new.writer.send format alloc outcome welcome).1 = false :=
    (BufferedWriter.send_spec format alloc (fills welcome) outcome _).1.trans failed
  simp only [step, written, Bool.false_eq_true, ↓reduceIte, Run.enabled_eq_some] at taken
  obtain ⟨absent, rfl⟩ := taken
  exact silent_of_absent absent

/-- A write behind whole frames, after which nobody writes any more if it is cut. -/
theorem Carries.of_write {bytes : List UInt8} (whole : format.Whole bytes) {msg : ServerMsg}
    {outcome : WriteAll}
    (inner : (next.links client).writer.inner = bytes ++ format.puts outcome msg)
    (silent : format.cuts msg outcome = true → Silent next.daemon client) :
    next.Carries format client where
  framed := by
    rw [inner]
    exact whole.puts_framed outcome msg
  whole := by
    rw [inner]
    cases cut : format.cuts msg outcome with
    | false => exact .inl (whole.puts cut)
    | true => exact .inr (silent cut)

theorem Carries.kept (carries : transport.Carries format client)
    (inner : (next.links client).writer.inner = (transport.links client).writer.inner)
    (moves : Moves transport.daemon next.daemon client) : next.Carries format client where
  framed := by
    rw [inner]
    exact carries.framed
  whole := by
    rw [inner]
    exact carries.whole.imp_right fun silent => silent.move moves

/-- Who still writes finds whole frames. -/
theorem Carries.whole_of_writer (carries : transport.Carries format client) {session : Session}
    (found : transport.daemon.sessions.lookup client = some session)
    (writes : session.phase.live = true ∨ session.pumpAlive = true) :
    format.Whole (transport.links client).writer.inner := by
  rcases carries.whole with whole | silent
  · exact whole
  · obtain ⟨dead, ended⟩ := silent session found
    rcases writes with live | runs
    · rw [dead] at live
      cases live
    · rw [ended] at runs
      cases runs

/-- Where it is cut, the other thread has ended, and now the writer has as well. -/
theorem Carries.reply (fills : ∀ msg, format.Fills msg)
    (carries : transport.Carries format client) {session : Session} {msg : ServerMsg}
    {outcome : WriteAll} (found : transport.daemon.sessions.lookup client = some session)
    (serving : session.phase = .serving)
    (inner : (next.links client).writer.inner =
      (transport.write format alloc client outcome msg).2.writer.inner)
    (ended : format.cuts msg outcome = true → next.daemon.sessions.lookup client =
      some { session with phase := .stopped })
    (alone : format.cuts msg outcome = true → session.pumpAlive = false) :
    next.Carries format client := by
  have whole := carries.whole_of_writer found (.inl (by rw [serving]; rfl))
  rw [(write_spec alloc transport fills client outcome msg).2] at inner
  refine .of_write whole inner fun cut new present => ?_
  rw [ended cut, Option.some.injEq] at present
  rw [← present]
  exact ⟨rfl, alone cut⟩

/-- What a step makes of the link that it touches. -/
theorem Carries.touched (fills : ∀ msg, format.Fills msg) {label : Step} {link : Link}
    (carries : transport.Carries format client)
    (taken : transport.step format alloc label = some next)
    (alone : transport.CutAlone format label)
    (known : ∀ welcome outcome, label ≠ .connect client welcome outcome)
    (touched : Touches format alloc transport label client link)
    (links : next.links client = link) : next.Carries format client := by
  have moves : Moves transport.daemon next.daemon client := step_moves taken known
  cases touched with
  | refused absent =>
      rename_i bye outcome
      have inner : (next.links client).writer.inner = [] ++ format.puts outcome bye := by
        rw [links]
        exact (BufferedWriter.send_spec format alloc (fills bye) outcome _).2
      refine .of_write Format.Whole.nil inner fun _ new present => ?_
      obtain ⟨old, found, _⟩ := moves new present
      rw [absent] at found
      cases found
  | joined absent => exact absurd rfl (known _ _)
  | replied found serving =>
      refine carries.reply fills found serving (by rw [links]) (fun cut => ?_)
        fun cut => alone cut _ found serving
      obtain ⟨held, here, _, ended⟩ :=
        lookup_of_failed_reply fills taken (Format.writes_of_cuts cut)
      rw [found, Option.some.injEq] at here
      rw [ended, here]
  | left found serving =>
      refine carries.reply fills found serving (by rw [links]) (fun cut => ?_)
        fun cut => alone cut _ found serving
      obtain ⟨held, here, _, ended⟩ := lookup_of_bye taken
      rw [found, Option.some.injEq] at here
      rw [ended, here]
  | pumped found runs queue =>
      rename_i msg outcome session waiting drained
      have whole := carries.whole_of_writer found (.inr runs)
      have inner : (next.links client).writer.inner =
          (transport.links client).writer.inner ++ format.puts outcome msg.toServerMsg := by
        rw [links]
        exact (write_spec alloc transport fills client outcome msg.toServerMsg).2
      refine .of_write whole inner fun cut new present => ?_
      obtain ⟨⟨drained, draining⟩, ended⟩ :=
        lookup_of_failed_pump fills taken found queue (Format.writes_of_cuts cut)
      rw [ended, Option.some.injEq] at present
      rw [← present]
      exact ⟨alone session msg waiting drained found runs queue draining cut, rfl⟩
  | told | ticked | emptied => exact carries.kept (by rw [links]) moves

theorem step_carries (fills : ∀ msg, format.Fills msg) {label : Step}
    (taken : transport.step format alloc label = some next)
    (alone : transport.CutAlone format label) (carries : transport.Carries format client) :
    next.Carries format client := by
  by_cases joins : ∃ welcome outcome, label = .connect client welcome outcome
  · obtain ⟨welcome, outcome, rfl⟩ := joins
    have inner : (next.links client).writer.inner = [] ++ format.puts outcome welcome := by
      rw [(links_of_connect taken).2, Function.update_self]
      exact (BufferedWriter.send_spec format alloc (fills welcome) outcome _).2
    refine .of_write Format.Whole.nil inner fun cut => ?_
    exact silent_of_failed_welcome fills taken (Format.writes_of_cuts cut)
  · have known : ∀ welcome outcome, label ≠ .connect client welcome outcome :=
      fun welcome outcome same => joins ⟨welcome, outcome, same⟩
    rcases step_touches taken with same | ⟨other, link, touched, links⟩
    · exact carries.kept (by rw [same]) (step_moves taken known)
    · by_cases here : client = other
      · subst here
        exact carries.touched fills taken alone known touched
          (by rw [links, Function.update_self])
      · exact carries.kept (by rw [links, Function.update_of_ne here]) (step_moves taken known)

theorem writer_of_reply {msg : ServerMsg} {outcome : WriteAll}
    (taken : transport.step format alloc (.reply client msg outcome) = some next) :
    (next.links client).writer = (transport.write format alloc client outcome msg).2.writer := by
  obtain ⟨session, _, rest⟩ := Option.bind_eq_some_iff.mp taken
  split at rest
  · dsimp only at rest
    split at rest
    · cases rest
      simp only [withLink, Function.update_self]
    · obtain ⟨daemon, left, rfl⟩ := Option.map_eq_some_iff.mp rest
      simp only [withLink, Function.update_self]
  · cases rest

theorem writer_of_bye {msg : ServerMsg} {outcome : WriteAll}
    (taken : transport.step format alloc (.bye client msg outcome) = some next) :
    (next.links client).writer = (transport.write format alloc client outcome msg).2.writer := by
  obtain ⟨daemon, left, rfl⟩ := Option.map_eq_some_iff.mp taken
  simp only [withLink, Function.update_self]
  rfl

theorem writer_of_pump {outcome : WriteAll} {session : Session} {msg : OutboundMsg}
    {waiting : List OutboundMsg}
    (taken : transport.step format alloc (.pumpWrite client outcome) = some next)
    (found : transport.daemon.sessions.lookup client = some session)
    (queue : session.queue = msg :: waiting) :
    (next.links client).writer =
      (transport.write format alloc client outcome msg.toServerMsg).2.writer := by
  obtain ⟨held, first, others, wrote⟩ := pumpWrite_cases taken
  obtain ⟨rfl, rfl, rfl⟩ := wrote.unique found queue
  obtain ⟨drained, links⟩ := wrote.links
  rw [links, Function.update_self]

/-- Behind a cut write, whoever may still write would tear the frame. -/
theorem Carries.silent_of_cut (fills : ∀ msg, format.Fills msg)
    (carries : transport.Carries format client) (after : next.Carries format client)
    {session : Session} (found : transport.daemon.sessions.lookup client = some session)
    (writes : session.phase.live = true ∨ session.pumpAlive = true) {msg : ServerMsg}
    {outcome : WriteAll} (cut : format.cuts msg outcome = true)
    (writer : (next.links client).writer =
      (transport.write format alloc client outcome msg).2.writer) :
    Silent next.daemon client := by
  have whole := carries.whole_of_writer found writes
  have inner : (next.links client).writer.inner =
      (transport.links client).writer.inner ++ format.puts outcome msg := by
    rw [writer]
    exact (write_spec alloc transport fills client outcome msg).2
  rcases after.whole with kept | silent
  · rw [inner] at kept
    exact absurd kept (whole.not_of_cut cut)
  · exact silent

/-- A step leaves every connection with whole frames or silent where it cuts alone. -/
theorem step_carries_iff (fills : ∀ msg, format.Fills msg) {label : Step}
    (taken : transport.step format alloc label = some next)
    (carries : ∀ client, transport.Carries format client) :
    (∀ client, next.Carries format client) ↔ transport.CutAlone format label := by
  constructor
  · intro after
    cases label with
    | reply client msg outcome =>
        intro cut session found serving
        have silent := (carries client).silent_of_cut fills (after client) found
          (.inl (by rw [serving]; rfl)) cut (writer_of_reply taken)
        obtain ⟨held, here, _, ended⟩ :=
          lookup_of_failed_reply fills taken (Format.writes_of_cuts cut)
        rw [found, Option.some.injEq] at here
        rw [here]
        exact (silent _ ended).2
    | bye client msg outcome =>
        intro cut session found serving
        have silent := (carries client).silent_of_cut fills (after client) found
          (.inl (by rw [serving]; rfl)) cut (writer_of_bye taken)
        obtain ⟨held, here, _, ended⟩ := lookup_of_bye taken
        rw [found, Option.some.injEq] at here
        rw [here]
        exact (silent _ ended).2
    | pumpWrite client outcome =>
        intro session msg waiting drained found runs queue draining cut
        have silent := (carries client).silent_of_cut fills (after client) found (.inr runs) cut
          (writer_of_pump taken found queue)
        have ended := (lookup_of_failed_pump fills taken found queue
          (Format.writes_of_cuts cut)).2
        exact (silent _ ended).1
    | _ => trivial
  · intro alone client
    exact step_carries fills taken alone (carries client)

/-- Where no write is possible, none is cut. -/
theorem cutAlone_of_none {label : Step} (stuck : transport.step format alloc label = none) :
    transport.CutAlone format label := by
  cases label with
  | reply client msg outcome =>
      intro _ session found serving
      exact absurd stuck (reply_enabled found serving)
  | bye client msg outcome =>
      intro _ session found serving
      exact absurd stuck (bye_enabled found serving)
  | pumpWrite client outcome =>
      intro session msg rest drained found runs queue draining _
      exact absurd stuck (pumpWrite_enabled found runs queue draining)
  | _ => trivial

end Transport

/-- A connection has carried whole frames, and no thread writes behind a frame that was cut, in
exactly the runs in which a write is cut only where nobody else writes on the connection any
more. -/
theorem connections_carry_whole_frames_iff {ε : Type} (clientFormat : Format ClientMsg ε)
    (serverFormat : Format ServerMsg ε) (alloc : Allocator)
    (clientFills : ∀ msg, clientFormat.Fills msg) (serverFills : ∀ msg, serverFormat.Fills msg) :
    (∀ descriptors labels,
      (∀ transport, Run.Visits (Transport.step serverFormat alloc) (Transport.start descriptors)
          labels transport →
        ∀ client, serverFormat.Framed (transport.links client).writer.inner ∧
          (serverFormat.Whole (transport.links client).writer.inner ∨
            Transport.Silent transport.daemon client)) ↔
        Run.Always (Transport.step serverFormat alloc) (Transport.CutAlone serverFormat)
          (Transport.start descriptors) labels) ∧
    ∀ labels,
      (∀ c, Run.Visits (Gui.ClientWriter.step clientFormat alloc) Gui.ClientWriter.start labels c →
        clientFormat.Framed c.writer.inner ∧
          (clientFormat.Whole c.writer.inner ∨ c.handshake = none)) ↔
        Run.Always (Gui.ClientWriter.step clientFormat alloc) (Gui.ClientWriter.Uncut clientFormat)
          Gui.ClientWriter.start labels := by
  constructor
  · intro descriptors labels
    have carried (transport : Transport) :
        (∀ client, transport.Carries serverFormat client) ↔
          ∀ client, serverFormat.Framed (transport.links client).writer.inner ∧
            (serverFormat.Whole (transport.links client).writer.inner ∨
              Transport.Silent transport.daemon client) :=
      forall_congr' fun client => ⟨fun h => ⟨h.framed, h.whole⟩, fun h => ⟨h.1, h.2⟩⟩
    have initial (client : Nat) : (Transport.start descriptors).Carries serverFormat client :=
      ⟨Format.Whole.nil.framed, .inl Format.Whole.nil⟩
    simp only [← carried]
    exact Run.visits_iff_always (fun _ _ _ _ _ => trivial)
      (fun _ _ stuck => Transport.cutAlone_of_none stuck)
      (fun _ _ _ taken _ carries => Transport.step_carries_iff serverFills taken carries)
      trivial initial
  · intro labels
    exact Gui.ClientWriter.visits_iff_uncut clientFills labels

/-- Bytes that go on as no header of a short frame does. -/
theorem Format.not_framed {M ε : Type} {format : Format M ε}
    (short : ∀ msg, (format.encode msg).length < 65536) (front : List M) {bytes : List UInt8}
    {third : UInt8} (torn : bytes[2]? = some third) (high : third ≠ 0) :
    ¬ format.Framed ((front.flatMap fun msg => frame (format.encode msg)) ++ bytes) := by
  rintro ⟨msgs, back, same⟩
  have small (msgs : List M) : ∀ msg ∈ msgs, (format.encode msg).length < 2 ^ 32 := by
    intro msg _
    have := short msg
    omega
  rw [List.append_assoc] at same
  obtain ⟨rest, _, parted⟩ := flatMap_frame_cancel (small front) (small _) same
  have inside : (bytes ++ back)[2]? = some third := by
    obtain ⟨bound, _⟩ := List.getElem?_eq_some_iff.mp torn
    rw [List.getElem?_append_left bound, torn]
  rw [parted] at inside
  cases rest with
  | nil => cases inside
  | cons msg rest =>
      have header : (frame (format.encode msg) ++ rest.flatMap fun msg =>
          frame (format.encode msg))[2]? = some 0 := by
        have zero : (format.encode msg).length / 65536 = 0 := Nat.div_eq_of_lt (short msg)
        simp [frame, FrameWriter.u32ToLe, List.range_succ, zero]
      rw [List.flatMap_cons, header, Option.some.injEq] at inside
      exact high inside.symm

namespace Gui

/-- The encodings of the opening messages and of a keepalive. -/
def bareClientFormat : LinSight.Format ClientMsg String :=
  .filling
    (fun
      | .hello _ _ _ => [0, 3, 12, 108, 105, 110, 115, 105, 103, 104, 116, 45, 103, 117, 105, 0]
      | .listSensors => [1]
      | _ => [2, 0, 0])
    fun _ => .error "unexpected variant"

end Gui

/-- The pump's next write is not cut under a read loop, and no reply is cut at all. -/
def Transport.cutAlone (transport : Transport) : Transport.Step → Bool
  | .reply _ msg outcome | .bye _ msg outcome => !bareFormat.cuts msg outcome
  | .pumpWrite client outcome => (transport.daemon.sessions.lookup client).all fun session =>
      session.queue.head?.all fun msg =>
        !(bareFormat.cuts msg.toServerMsg outcome && session.phase.live)
  | _ => true

theorem Transport.cutAlone_sound (transport : Transport) (label : Step)
    (passed : transport.cutAlone label = true) : transport.CutAlone bareFormat label := by
  cases label with
  | reply client msg outcome | bye client msg outcome =>
      intro cut
      simp only [cutAlone, cut] at passed
      cases passed
  | pumpWrite client outcome =>
      intro session msg rest drained found _ queue _ cut
      simpa only [cutAlone, found, Option.all_some, queue, List.head?_cons, cut, Bool.true_and,
        Bool.not_eq_true'] using passed
  | _ => trivial

/-- The read loop has failed when the pump's write is cut; no call is. -/
theorem connections_carry_whole_frames_cut_last :
    (∀ transport, Run.Visits (Transport.step Transport.bareFormat Transport.tightAlloc)
        (Transport.start [memUsedBytes])
        [.connect 7 (.welcome 3 "1.20.5" []) .ok, .daemon (.broadcast []), .tick 7,
          .reply 7 (.sensorList []) (.failed 0), .pumpWrite 7 (.failed 2)] transport →
      ∀ client, Transport.bareFormat.Framed (transport.links client).writer.inner ∧
        (Transport.bareFormat.Whole (transport.links client).writer.inner ∨
          Transport.Silent transport.daemon client)) ∧
    ∀ c, Run.Visits (Gui.ClientWriter.step Gui.bareClientFormat Transport.tightAlloc)
        Gui.ClientWriter.start
        [.handshake .ok, .handshake .ok, .call .keepalive (.failed 0), .call .keepalive .ok] c →
      Gui.bareClientFormat.Framed c.writer.inner ∧
        (Gui.bareClientFormat.Whole c.writer.inner ∨ c.handshake = none) := by
  have law := connections_carry_whole_frames_iff Gui.bareClientFormat Transport.bareFormat
    Transport.tightAlloc (Format.filling_fills _ _) (Format.filling_fills _ _)
  refine ⟨(law.1 [memUsedBytes] _).mpr ?_, (law.2 _).mpr ?_⟩
  · exact Run.Always.of_check Transport.cutAlone_sound (by decide +kernel)
  · exact ⟨trivial, fun _ _ => ⟨trivial, fun _ _ => ⟨fun _ => rfl, fun _ _ =>
      ⟨fun _ => rfl, fun _ _ => trivial⟩⟩⟩⟩

/-- A write of the pump stops inside a frame and the read loop answers behind it; a keepalive
stops inside a frame and the next one is sent behind it. -/
theorem frame_torn_by_other_writer :
    (∃ transport, Run.Reaches (Transport.step Transport.bareFormat Transport.tightAlloc)
        (Transport.start [memUsedBytes]) transport ∧
      ¬ Transport.bareFormat.Framed (transport.links 7).writer.inner) ∧
    ∃ c, Run.Reaches (Gui.ClientWriter.step Gui.bareClientFormat Transport.tightAlloc)
        Gui.ClientWriter.start c ∧
      ¬ Gui.bareClientFormat.Framed c.writer.inner := by
  constructor
  · have ran : (Run.exec (Transport.step Transport.bareFormat Transport.tightAlloc)
        (Transport.start [memUsedBytes])
        [.connect 7 (.welcome 3 "1.20.5" []) .ok, .daemon (.broadcast []), .tick 7,
          .pumpWrite 7 (.failed 2), .reply 7 (.sensorList []) .ok]).map
          (fun transport => (transport.links 7).writer.inner) =
        some (([.welcome 3 "1.20.5" []].flatMap fun msg =>
          frame (Transport.bareFormat.encode msg)) ++ [2, 0, 2, 0, 0, 0, 1, 0]) := by
      decide +kernel
    obtain ⟨transport, run, inner⟩ := Option.map_eq_some_iff.mp ran
    refine ⟨transport, ⟨_, run⟩, ?_⟩
    have short (msg : ServerMsg) : (Transport.bareFormat.encode msg).length < 65536 := by
      simp only [Transport.bareFormat, Format.filling]
      split <;> simp
    rw [inner]
    have torn : ([2, 0, 2, 0, 0, 0, 1, 0] : List UInt8)[2]? = some 2 := rfl
    exact Format.not_framed short _ torn (by decide)
  · have ran : (Run.exec (Gui.ClientWriter.step Gui.bareClientFormat Transport.tightAlloc)
        Gui.ClientWriter.start
        [.handshake .ok, .handshake .ok, .call .keepalive (.failed 2), .call .keepalive .ok]).map
          (fun c => c.writer.inner) =
        some (([.hello 3 "linsight-gui" none, .listSensors].flatMap fun msg =>
          frame (Gui.bareClientFormat.encode msg)) ++ [3, 0, 3, 0, 0, 0, 2, 0, 0]) := by
      decide +kernel
    obtain ⟨c, run, inner⟩ := Option.map_eq_some_iff.mp ran
    refine ⟨c, ⟨_, run⟩, ?_⟩
    have short (msg : ClientMsg) : (Gui.bareClientFormat.encode msg).length < 65536 := by
      simp only [Gui.bareClientFormat, Format.filling]
      split <;> simp
    rw [inner]
    have torn : ([3, 0, 3, 0, 0, 0, 2, 0, 0] : List UInt8)[2]? = some 3 := rfl
    exact Format.not_framed short _ torn (by decide)

end LinSight
