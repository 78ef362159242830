import LinSight.Tunnel.Relay

set_option autoImplicit false

/-! Each direction of the tunnel is a channel of its own, in every run of the relay. -/

namespace LinSight.Tunnel

open Journal

/-- No chunk of the side is being written. -/
def Phase.Idle (phase : Phase) (side : Side) : Prop :=
  ∀ size rest, phase ≠ .writing side size rest

/-- The function has not failed. -/
def Phase.Sound (phase : Phase) : Prop := ∀ error, phase ≠ .returned (.error error)

/-- Bytes that were read from the side and are not written. -/
def Phase.pending (side : Side) : Phase → List UInt8
  | .writing source _ rest => if source = side then rest else []
  | _ => []

/-- Bytes that were read from the side and are not counted. -/
def Phase.held (side : Side) : Phase → Nat
  | .writing source size _ => if source = side then size else 0
  | _ => 0

/-- The log of a direction is a run of its channel, which lacks only what is pending. -/
structure Follows (relay : Relay) (side : Side) (state : Channel.State UInt8) : Prop where
  trace : Run.exec Channel.step Channel.start (entriesOf relay.log side) = some state
  ended : state.ended = relay.done side
  closed : state.closed = relay.done side
  intact : relay.phase.Sound → state.received = state.delivered ++ relay.phase.pending side
  counted : relay.phase.Sound → ∃ base,
    state.received.length = base + relay.phase.held side ∧ relay.copied side = base % u64Bound
  unfinished : ¬ relay.phase.Idle side → relay.done side = false

section Follows

variable {relay next : Relay} {side source : Side} {state moved : Channel.State UInt8}
  {label : Label} {phase : Phase}

theorem Phase.Idle.pending (idle : phase.Idle side) : phase.pending side = [] := by
  cases phase with
  | writing source size rest =>
      apply if_neg
      rintro rfl
      exact idle size rest rfl
  | selecting => rfl
  | shutting source => rfl
  | returned result => rfl

theorem Phase.Idle.held (idle : phase.Idle side) : phase.held side = 0 := by
  cases phase with
  | writing source size rest =>
      apply if_neg
      rintro rfl
      exact idle size rest rfl
  | selecting => rfl
  | shutting source => rfl
  | returned result => rfl

theorem loopHead_idle : relay.loopHead.phase.Idle side := by
  intro size rest
  rcases loopHead_phase relay with selecting | ⟨_, _, returned⟩
  · rw [selecting]
    exact Phase.noConfusion
  · rw [returned]
    exact Phase.noConfusion

/-- Between two chunks everything is written and counted. -/
theorem Follows.settled (follows : Follows relay side state) (sound : relay.phase.Sound)
    (idle : relay.phase.Idle side) : state.received = state.delivered ∧
      relay.copied side = state.received.length % u64Bound := by
  refine ⟨?_, ?_⟩
  · rw [follows.intact sound, idle.pending, List.append_nil]
  · obtain ⟨base, length, copied⟩ := follows.counted sound
    rw [copied, length, idle.held, Nat.add_zero]

theorem Follows.settled_of_selecting (follows : Follows relay side state)
    (selecting : relay.phase = .selecting) : state.received = state.delivered ∧
      relay.copied side = state.received.length % u64Bound := by
  apply follows.settled
  · rw [selecting]
    exact fun _ => Phase.noConfusion
  · rw [selecting]
    exact fun _ _ => Phase.noConfusion

theorem Follows.of_settled
    (trace : Run.exec Channel.step Channel.start (entriesOf relay.log side) = some state)
    (ended : state.ended = relay.done side) (closed : state.closed = relay.done side)
    (idle : relay.phase.Idle side)
    (settled : state.received = state.delivered ∧
      relay.copied side = state.received.length % u64Bound) : Follows relay side state where
  trace := trace
  ended := ended
  closed := closed
  intact := by
    intro _
    rw [idle.pending, List.append_nil, settled.1]
  counted := by
    intro _
    exact ⟨state.received.length, by rw [idle.held, Nat.add_zero], settled.2⟩
  unfinished := fun busy => absurd idle busy

/-- The loop goes on at its head when the phase before has left nothing over. -/
theorem Follows.of_loopHead
    (trace : Run.exec Channel.step Channel.start (entriesOf relay.log side) = some state)
    (ended : state.ended = relay.done side) (closed : state.closed = relay.done side)
    (settled : state.received = state.delivered ∧
      relay.copied side = state.received.length % u64Bound) :
    Follows relay.loopHead side state := by
  refine .of_settled ?_ ?_ ?_ loopHead_idle ?_
  · rw [loopHead_log]
    exact trace
  · rw [loopHead_done]
    exact ended
  · rw [loopHead_done]
    exact closed
  · rw [loopHead_copied]
    exact settled

theorem trace_emit
    (trace : Run.exec Channel.step Channel.start (entriesOf relay.log side) = some state)
    {events : List (Channel.Event UInt8)} (run : Run.exec Channel.step state events = some moved) :
    Run.exec Channel.step Channel.start (entriesOf (relay.emit side events).log side) =
      some moved := by
  rw [entriesOf_emit_self]
  exact Run.exec_append.mpr ⟨state, trace, run⟩

theorem Follows.fail (follows : Follows relay side state) (error : CopyError) :
    Follows (relay.fail error) side state where
  trace := follows.trace
  ended := follows.ended
  closed := follows.closed
  intact := fun sound => absurd rfl (sound error)
  counted := fun sound => absurd rfl (sound error)
  unfinished := fun busy => absurd (fun _ _ => Phase.noConfusion) busy

/-- A read in another direction leaves this one as it is. -/
theorem Follows.beginWrite_other (follows : Follows relay side state)
    (selecting : relay.phase = .selecting) (differs : source ≠ side) (bytes : List UInt8) :
    Follows (relay.beginWrite source bytes) side state := by
  have settled := follows.settled_of_selecting selecting
  refine .of_settled ?_ follows.ended follows.closed ?_ settled
  · exact (congrArg _ (entriesOf_emit_other differs)).trans follows.trace
  · intro size rest same
    cases same
    exact differs rfl

/-- A read takes a chunk that is then pending. -/
theorem Follows.beginWrite_self (follows : Follows relay side state)
    (selecting : relay.phase = .selecting) (unfinished : relay.done side = false)
    (bytes : List UInt8) : ∃ moved, Follows (relay.beginWrite side bytes) side moved := by
  have settled := follows.settled_of_selecting selecting
  have still_open : state.ended = false := follows.ended.trans unfinished
  refine ⟨{ state with received := state.received ++ bytes }, ?_⟩
  refine ⟨?_, follows.ended, follows.closed, ?_, ?_, fun _ => unfinished⟩
  · apply trace_emit follows.trace
    exact Run.exec_cons.mpr ⟨_, Run.enabled_eq_some.mpr ⟨still_open, rfl⟩, rfl⟩
  · intro _
    simp only [settled.1, Relay.beginWrite, Phase.pending, ↓reduceIte]
  · intro _
    refine ⟨state.received.length, ?_, settled.2⟩
    simp only [List.length_append, Relay.beginWrite, Phase.held, ↓reduceIte]

theorem Follows.beginShutdown_other (follows : Follows relay side state)
    (selecting : relay.phase = .selecting) (differs : source ≠ side) :
    Follows (relay.beginShutdown source) side state := by
  have settled := follows.settled_of_selecting selecting
  have same : (relay.beginShutdown source).done side = relay.done side :=
    Function.update_of_ne differs.symm _ _
  refine .of_settled ?_ ?_ ?_ (fun _ _ => Phase.noConfusion) settled
  · exact (congrArg _ (entriesOf_emit_other differs)).trans follows.trace
  · rw [same, follows.ended]
  · rw [same, follows.closed]

theorem Follows.beginShutdown_self (follows : Follows relay side state)
    (selecting : relay.phase = .selecting) (unfinished : relay.done side = false) :
    ∃ moved, Follows (relay.beginShutdown side) side moved := by
  have settled := follows.settled_of_selecting selecting
  have done : (relay.beginShutdown side).done side = true := Function.update_self _ _ _
  refine ⟨{ state with ended := true, closed := true }, ?_⟩
  refine .of_settled ?_ done.symm done.symm (fun _ _ => Phase.noConfusion) settled
  apply trace_emit follows.trace
  refine Run.exec_cons.mpr ⟨{ state with ended := true }, ?_, ?_⟩
  · exact Run.enabled_eq_some.mpr ⟨follows.ended.trans unfinished, rfl⟩
  · refine Run.exec_cons.mpr ⟨_, ?_, rfl⟩
    exact Run.enabled_eq_some.mpr ⟨⟨rfl, follows.closed.trans unfinished⟩, rfl⟩

/-- A piece of another direction's chunk leaves this one as it is. -/
theorem Follows.accepted_other (follows : Follows relay side state) {size count : Nat}
    {rest : List UInt8} (writing : relay.phase = .writing source size rest)
    (differs : source ≠ side) : Follows (relay.accepted source size rest count) side state := by
  have idle : relay.phase.Idle side := by
    intro size rest same
    rw [writing] at same
    cases same
    exact differs rfl
  have settled := follows.settled (by rw [writing]; exact fun _ => Phase.noConfusion) idle
  have trace := (congrArg (Run.exec Channel.step Channel.start)
    (@entriesOf_emit_other relay side source [.deliver (rest.take count)] differs)).trans
      follows.trace
  unfold Relay.accepted
  split
  · refine .of_loopHead trace follows.ended follows.closed ?_
    simp only [Function.update_of_ne differs.symm]
    exact settled
  · refine .of_settled trace follows.ended follows.closed ?_ settled
    intro size rest same
    cases same
    exact differs rfl

/-- A piece of the chunk goes out; with the last one the chunk is counted. -/
theorem Follows.accepted_self (follows : Follows relay side state) {size count : Nat}
    {rest : List UInt8} (writing : relay.phase = .writing side size rest) :
    ∃ moved, Follows (relay.accepted side size rest count) side moved := by
  have sound : relay.phase.Sound := by
    rw [writing]
    exact fun _ => Phase.noConfusion
  have unfinished := follows.unfinished fun idle => idle size rest writing
  have intact := follows.intact sound
  obtain ⟨base, length, copied⟩ := follows.counted sound
  simp only [writing, Phase.pending, ↓reduceIte] at intact
  simp only [writing, Phase.held, ↓reduceIte] at length
  have whole : state.delivered ++ rest.take count ++ rest.drop count = state.received := by
    rw [List.append_assoc, List.take_append_drop, intact]
  have delivers : Channel.step state (.deliver (rest.take count)) =
      some { state with delivered := state.delivered ++ rest.take count } := by
    refine Run.enabled_eq_some.mpr ⟨⟨follows.closed.trans unfinished, ?_⟩, rfl⟩
    rw [← whole]
    exact List.prefix_append _ _
  have run : Run.exec Channel.step state [.deliver (rest.take count)] =
      some { state with delivered := state.delivered ++ rest.take count } :=
    Run.exec_cons.mpr ⟨_, delivers, rfl⟩
  have trace := trace_emit follows.trace run
  refine ⟨{ state with delivered := state.delivered ++ rest.take count }, ?_⟩
  unfold Relay.accepted
  split
  · rename_i last
    refine .of_loopHead trace follows.ended follows.closed ⟨?_, ?_⟩
    · rw [← whole, last, List.append_nil]
    · simp only [Function.update_self, wrappingAdd, copied, length, Nat.mod_add_mod]
  · refine ⟨trace, follows.ended, follows.closed, ?_, ?_, fun _ => unfinished⟩
    · intro _
      simp only [Phase.pending, ↓reduceIte, whole]
    · intro _
      refine ⟨base, ?_, copied⟩
      simp only [Phase.held, ↓reduceIte, length]

theorem Follows.loopHead (follows : Follows relay side state)
    (shutting : relay.phase = .shutting source) : Follows relay.loopHead side state := by
  apply Follows.of_loopHead follows.trace follows.ended follows.closed
  apply follows.settled
  · rw [shutting]
    exact fun _ => Phase.noConfusion
  · rw [shutting]
    exact fun _ _ => Phase.noConfusion

theorem Follows.step (follows : Follows relay side state) (steps : Steps relay label next) :
    ∃ moved, Follows next side moved := by
  cases steps with
  | @readChunk source bytes selecting unfinished nonempty =>
      by_cases same : source = side
      · subst same
        exact follows.beginWrite_self selecting unfinished bytes
      · exact ⟨state, follows.beginWrite_other selecting same bytes⟩
  | @readEof source selecting unfinished =>
      by_cases same : source = side
      · subst same
        exact follows.beginShutdown_self selecting unfinished
      · exact ⟨state, follows.beginShutdown_other selecting same⟩
  | readError selecting => exact ⟨state, follows.fail _⟩
  | idleExpires selecting unfinished => exact ⟨state, follows.fail _⟩
  | @accept source size count rest writing positive within =>
      by_cases same : source = side
      · subst same
        exact follows.accepted_self writing
      · exact ⟨state, follows.accepted_other writing same⟩
  | writeError writing => exact ⟨state, follows.fail _⟩
  | writeExpires writing => exact ⟨state, follows.fail _⟩
  | shutdownEnds shutting => exact ⟨state, follows.loopHead shutting⟩

theorem follows_start (side : Side) : Follows Relay.start side Channel.start :=
  .of_settled rfl rfl rfl (fun _ _ => Phase.noConfusion) ⟨rfl, rfl⟩

theorem exists_follows {labels : List Label}
    (run : Run.exec Relay.step Relay.start labels = some relay) (side : Side) :
    ∃ state, Follows relay side state := by
  have preserved : ∀ before label after, Relay.step before label = some after →
      (∃ state, Follows before side state) → ∃ state, Follows after side state := by
    rintro before label after taken ⟨state, follows⟩
    exact follows.step (Steps.of_step taken)
  exact Run.exec_invariant preserved run ⟨Channel.start, follows_start side⟩

end Follows

/-- An `Ok` comes with both ends of file, and carries the counters. -/
def Relay.Completes (relay : Relay) : Prop :=
  ∀ counts, relay.phase = .returned (.ok counts) →
    (∀ side, relay.done side = true) ∧ counts = (relay.copied .a, relay.copied .b)

section Completes

variable {relay next : Relay} {label : Label}

theorem loopHead_completes (relay : Relay) : relay.loopHead.Completes := by
  intro counts returned
  rcases loopHead_phase relay with selecting | ⟨done_a, done_b, both⟩
  · rw [selecting] at returned
    cases returned
  · rw [both] at returned
    cases returned
    rw [loopHead_done, loopHead_copied]
    refine ⟨fun side => ?_, rfl⟩
    cases side with
    | a => exact done_a
    | b => exact done_b

theorem Relay.completes_of_unreturned (unreturned : ∀ counts, relay.phase ≠ .returned (.ok counts)) :
    relay.Completes := fun counts returned => absurd returned (unreturned counts)

theorem Steps.completes (steps : Steps relay label next) : next.Completes := by
  cases steps with
  | readChunk | readEof | readError | idleExpires | writeError | writeExpires =>
      apply Relay.completes_of_unreturned
      intro counts returned
      cases returned
  | @accept source size count rest writing positive within =>
      unfold Relay.accepted
      split
      · exact loopHead_completes _
      · apply Relay.completes_of_unreturned
        intro counts returned
        cases returned
  | shutdownEnds => exact loopHead_completes _

theorem completes_of_run {labels : List Label}
    (run : Run.exec Relay.step Relay.start labels = some relay) : relay.Completes := by
  have preserved : ∀ before label after, Relay.step before label = some after →
      before.Completes → after.Completes := fun _ _ _ taken _ => (Steps.of_step taken).completes
  apply Run.exec_invariant preserved run
  apply Relay.completes_of_unreturned
  intro counts returned
  cases returned

end Completes

/-- The bytes read from an endpoint. -/
def readFrom (log : List (Side × Channel.Event UInt8)) (side : Side) : List UInt8 :=
  Channel.received (entriesOf log side)

/-- The bytes written to an endpoint: those that the direction from the other one delivered. -/
def writtenTo (log : List (Side × Channel.Event UInt8)) (side : Side) : List UInt8 :=
  Channel.delivered (entriesOf log side.other)

/-- The end of file of an endpoint. -/
def eofOf (side : Side) : Side × Channel.Event UInt8 := (side, .finish)

/-- The shutdown of an endpoint. -/
def shutdownOf (side : Side) : Side × Channel.Event UInt8 := (side.other, .close)

/-- A write to an endpoint. -/
def writeTo (side : Side) (bytes : List UInt8) : Side × Channel.Event UInt8 :=
  (side.other, .deliver bytes)

section Faithful

variable {relay : Relay} {labels : List Label}

theorem mem_entriesOf {log : List (Side × Channel.Event UInt8)} {side : Side}
    {event : Channel.Event UInt8} : event ∈ entriesOf log side ↔ (side, event) ∈ log := by
  unfold entriesOf
  rw [List.mem_filterMap]
  constructor
  · rintro ⟨⟨actor, entry⟩, member, kept⟩
    simp only [Option.ite_none_right_eq_some, Option.some.injEq] at kept
    obtain ⟨rfl, rfl⟩ := kept
    exact member
  · intro member
    exact ⟨(side, event), member, if_pos rfl⟩

theorem Follows.received {side : Side} {state : Channel.State UInt8}
    (follows : Follows relay side state) : readFrom relay.log side = state.received := by
  have received := Channel.received_of_exec follows.trace
  rw [received]
  rfl

theorem Follows.delivered {side : Side} {state : Channel.State UInt8}
    (follows : Follows relay side state) : writtenTo relay.log side.other = state.delivered := by
  have delivered := Channel.delivered_of_exec follows.trace
  rw [delivered, writtenTo, Side.other_other]
  rfl

theorem written_prefix (run : Run.exec Relay.step Relay.start labels = some relay) (side : Side) :
    writtenTo relay.log side.other <+: readFrom relay.log side := by
  obtain ⟨state, follows⟩ := exists_follows run side
  rw [writtenTo, Side.other_other]
  exact Channel.delivered_prefix follows.trace

/-- Around a shutdown: the end of file of the other endpoint before it, and neither a
write nor another shutdown behind it. -/
theorem around_shutdown (run : Run.exec Relay.step Relay.start labels = some relay) {side : Side}
    {front back : List (Side × Channel.Event UInt8)}
    (split : relay.log = front ++ shutdownOf side :: back) :
    eofOf side.other ∈ front ∧ shutdownOf side ∉ back ∧ ∀ bytes, writeTo side bytes ∉ back := by
  obtain ⟨state, follows⟩ := exists_follows run side.other
  have trace := follows.trace
  have single : entriesOf [shutdownOf side] side.other = [.close] := by
    cases side <;> rfl
  rw [split, ← List.singleton_append, entriesOf_append, entriesOf_append, single] at trace
  obtain ⟨finished, no_close, no_deliver⟩ := Channel.around_close trace
  refine ⟨mem_entriesOf.mp finished, ?_, fun bytes => ?_⟩
  · exact fun member => no_close (mem_entriesOf.mpr member)
  · exact fun member => no_deliver bytes (mem_entriesOf.mpr member)

theorem whole_of_ok (run : Run.exec Relay.step Relay.start labels = some relay) {m n : Nat}
    (returned : relay.phase = .returned (.ok (m, n))) (side : Side) :
    eofOf side ∈ relay.log ∧ writtenTo relay.log side.other = readFrom relay.log side ∧
      relay.copied side = (readFrom relay.log side).length % u64Bound := by
  obtain ⟨state, follows⟩ := exists_follows run side
  have settled := follows.settled (by rw [returned]; exact fun _ same => by cases same)
    (by rw [returned]; exact fun _ _ => Phase.noConfusion)
  have done := (completes_of_run run (m, n) returned).1 side
  refine ⟨?_, ?_, ?_⟩
  · have finished := (Channel.ended_of_exec follows.trace).mp (follows.ended.trans done)
    exact mem_entriesOf.mp (finished.resolve_left Bool.false_ne_true)
  · rw [follows.delivered, follows.received, settled.1]
  · rw [settled.2, follows.received]

/-- Whatever chunks are read, in whatever pieces they are written and wherever it
ends, the tunnel relays what it reads. -/
theorem relays_faithfully (run : Run.exec Relay.step Relay.start labels = some relay) :
    (∀ side : Side, writtenTo relay.log side.other <+: readFrom relay.log side) ∧
    (∀ side front back, relay.log = front ++ shutdownOf side :: back →
      eofOf side.other ∈ front ∧ shutdownOf side ∉ back ∧
        ∀ bytes, writeTo side bytes ∉ back) ∧
    ∀ m n, relay.phase = .returned (.ok (m, n)) →
      (eofOf .a ∈ relay.log ∧ writtenTo relay.log .b = readFrom relay.log .a ∧
        m = (readFrom relay.log .a).length % u64Bound) ∧
      (eofOf .b ∈ relay.log ∧ writtenTo relay.log .a = readFrom relay.log .b ∧
        n = (readFrom relay.log .b).length % u64Bound) := by
  refine ⟨ written_prefix run, fun side front back split => around_shutdown run split, ?_⟩
  intro m n returned
  obtain ⟨_, counts⟩ := completes_of_run run (m, n) returned
  obtain ⟨rfl, rfl⟩ := Prod.mk.inj counts
  exact ⟨whole_of_ok run returned .a, whole_of_ok run returned .b⟩

/-- Two bytes go out in two pieces, after the other endpoint has ended. -/
def halfClosed : List Label :=
  [.readEof .b, .shutdownEnds, .readChunk .a [1, 2], .accept 1, .accept 1, .readEof .a,
    .shutdownEnds]

theorem relays_faithfully_halfClosed :
    ∃ relay, Run.exec Relay.step Relay.start halfClosed = some relay ∧
      relay.phase = .returned (.ok (2, 0)) ∧ readFrom relay.log .a = [1, 2] ∧
      writtenTo relay.log .b = readFrom relay.log .a := by
  obtain ⟨relay, run, returned, read⟩ : ∃ relay,
      Run.exec Relay.step Relay.start halfClosed = some relay ∧
        relay.phase = .returned (.ok (2, 0)) ∧ readFrom relay.log .a = [1, 2] :=
    ⟨_, rfl, rfl, rfl⟩
  obtain ⟨_, _, whole⟩ := relays_faithfully run
  exact ⟨relay, run, returned, read, (whole 2 0 returned).1.2.1⟩

end Faithful

end LinSight.Tunnel
