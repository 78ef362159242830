import LinSight.Tunnel.Faithful

set_option autoImplicit false

/-! The tunnel with a clock. Bytes and ends of file come in, and room is made, on a
schedule; the tunnel itself takes no time. -/

namespace LinSight.Tunnel

open Journal

def Relay.readCount (relay : Relay) (side : Side) : Nat := (readFrom relay.log side).length

def Relay.writtenCount (relay : Relay) (side : Side) : Nat := (writtenTo relay.log side).length

/-- What each endpoint has let the tunnel read and write by a time, in bytes from the
start. -/
structure Schedule where
  avail : Side → Nat → Nat
  room : Side → Nat → Nat
  ended : Side → Nat → Bool
  avail_mono : ∀ side, Monotone (avail side)
  room_mono : ∀ side, Monotone (room side)
  ended_mono : ∀ side, Monotone (ended side)
  settled : ∀ side t u, t ≤ u → ended side t = true → avail side u = avail side t

/-- The `idle` argument and `COPY_IO_TIMEOUT`. -/
structure Limits where
  idle : Nat
  copyIo : Nat

/-- The relay, the time, and when the timers of its phase were started. -/
structure Timed where
  relay : Relay
  now : Nat
  since : Nat

inductive TimedLabel where
  | tick
  | act (label : Label)
deriving DecidableEq

namespace Schedule

variable (schedule : Schedule)

/-- The endpoint has bytes that are not read. -/
def Unread (relay : Relay) (side : Side) (t : Nat) : Prop :=
  relay.readCount side < schedule.avail side t

/-- The endpoint takes another byte. -/
def Accepts (relay : Relay) (side : Side) (t : Nat) : Prop :=
  relay.writtenCount side < schedule.room side t

/-- A read of the endpoint ends. -/
def Ready (relay : Relay) (side : Side) (t : Nat) : Prop :=
  schedule.Unread relay side t ∨ schedule.ended side t = true

/-- A byte can be moved in one of the directions. -/
def Movable (relay : Relay) (t : Nat) : Prop :=
  ∃ side : Side, schedule.Unread relay side t ∧ schedule.Accepts relay side.other t

instance (relay : Relay) (side : Side) (t : Nat) : Decidable (schedule.Unread relay side t) :=
  inferInstanceAs (Decidable (_ < _))

instance (relay : Relay) (side : Side) (t : Nat) : Decidable (schedule.Accepts relay side t) :=
  inferInstanceAs (Decidable (_ < _))

instance (relay : Relay) (side : Side) (t : Nat) : Decidable (schedule.Ready relay side t) :=
  inferInstanceAs (Decidable (_ ∨ _))

end Schedule

namespace Timed

variable (schedule : Schedule) (limits : Limits)

def start : Timed := ⟨Relay.start, 0, 0⟩

/-- The schedule and the timers let the step happen now. A timer is looked at only
where what it bounds is not ready. -/
def allows (state : Timed) : Label → Bool
  | .readChunk side bytes =>
      decide (state.relay.readCount side + bytes.length ≤ schedule.avail side state.now)
  | .readEof side =>
      schedule.ended side state.now && !decide (schedule.Unread state.relay side state.now)
  | .idleExpires side =>
      decide (state.now = state.since + limits.idle) &&
        !decide (schedule.Ready state.relay side state.now)
  | .accept count =>
      match state.relay.phase with
      | .writing source _ _ =>
          decide (state.relay.writtenCount source.other + count ≤
            schedule.room source.other state.now)
      | _ => false
  | .writeExpires =>
      match state.relay.phase with
      | .writing source _ _ =>
          decide (state.now = state.since + limits.copyIo) &&
            !decide (schedule.Accepts state.relay source.other state.now)
      | _ => false
  | .readError _ _ | .writeError _ | .shutdownEnds => true

/-- Time passes only where the function waits and no timer of it has run out. -/
def waits (state : Timed) : Bool :=
  match state.relay.phase with
  | .selecting =>
      decide (state.now < state.since + limits.idle) &&
        decide (∀ side, state.relay.done side = false →
          ¬ schedule.Ready state.relay side state.now)
  | .writing source _ _ =>
      decide (state.now < state.since + limits.copyIo) &&
        !decide (schedule.Accepts state.relay source.other state.now)
  | .shutting _ => decide (state.now < state.since + limits.copyIo)
  | .returned _ => false

/-- Timers start anew, except inside one write. -/
def after (state : Timed) (relay : Relay) : Timed where
  relay := relay
  now := state.now
  since :=
    match state.relay.phase, relay.phase with
    | .writing _ _ _, .writing _ _ _ => state.since
    | _, _ => state.now

def step (state : Timed) : TimedLabel → Option Timed
  | .tick => Run.enabled (state.waits schedule limits = true) { state with now := state.now + 1 }
  | .act label =>
      if state.allows schedule limits label then (state.relay.step label).map state.after else none

end Timed

section Counts

variable {relay next : Relay} {label : Label}

/-- Bytes that the step reads from an endpoint. -/
def Label.reads (side : Side) : Label → Nat
  | .readChunk source bytes => if source = side then bytes.length else 0
  | _ => 0

/-- Bytes that the step writes to an endpoint. -/
def Relay.writes (relay : Relay) (side : Side) : Label → Nat
  | .accept count =>
      match relay.phase with
      | .writing source _ _ => if source.other = side then count else 0
      | _ => 0
  | _ => 0

theorem readCount_emit (source side : Side) (events : List (Channel.Event UInt8)) :
    (relay.emit source events).readCount side = relay.readCount side +
      if source = side then (Channel.received events).length else 0 := by
  unfold Relay.readCount readFrom
  by_cases same : source = side
  · rw [same, entriesOf_emit_self, Channel.received_append, List.length_append, if_pos rfl]
  · rw [entriesOf_emit_other same, if_neg same, Nat.add_zero]

theorem writtenCount_emit (source side : Side) (events : List (Channel.Event UInt8)) :
    (relay.emit source events).writtenCount side = relay.writtenCount side +
      if source.other = side then (Channel.delivered events).length else 0 := by
  unfold Relay.writtenCount writtenTo
  by_cases same : source.other = side
  · rw [← same, Side.other_other, entriesOf_emit_self, Channel.delivered_append,
      List.length_append, if_pos rfl]
  · have differs : source ≠ side.other := by
      rintro rfl
      exact same (Side.other_other side)
    rw [entriesOf_emit_other differs, if_neg same, Nat.add_zero]

theorem readCount_loopHead (side : Side) : relay.loopHead.readCount side = relay.readCount side := by
  rw [Relay.readCount, loopHead_log]
  rfl

theorem writtenCount_loopHead (side : Side) :
    relay.loopHead.writtenCount side = relay.writtenCount side := by
  rw [Relay.writtenCount, loopHead_log]
  rfl

/-- A piece of a chunk counts as written and as nothing else. -/
theorem accepted_counts {source : Side} {size count : Nat} {rest : List UInt8} (side : Side) :
    (relay.accepted source size rest count).readCount side =
        (relay.emit source [.deliver (rest.take count)]).readCount side ∧
      (relay.accepted source size rest count).writtenCount side =
        (relay.emit source [.deliver (rest.take count)]).writtenCount side ∧
      (relay.accepted source size rest count).done side = relay.done side := by
  unfold Relay.accepted
  split
  · rw [readCount_loopHead, writtenCount_loopHead, loopHead_done]
    exact ⟨rfl, rfl, rfl⟩
  · exact ⟨rfl, rfl, rfl⟩

theorem Steps.readCount (steps : Steps relay label next) (side : Side) :
    next.readCount side = relay.readCount side + label.reads side := by
  cases steps with
  | readChunk selecting unfinished nonempty =>
      refine (readCount_emit _ side _).trans ?_
      simp [Label.reads, Channel.received, Channel.Event.incoming]
  | readEof selecting unfinished =>
      refine (readCount_emit _ side _).trans ?_
      simp [Label.reads, Channel.received, Channel.Event.incoming]
  | readError selecting => rfl
  | idleExpires selecting unfinished => rfl
  | accept writing positive within =>
      rw [(accepted_counts side).1, readCount_emit]
      simp [Label.reads, Channel.received, Channel.Event.incoming]
  | writeError writing => rfl
  | writeExpires writing => rfl
  | shutdownEnds shutting => exact readCount_loopHead side

theorem Steps.writtenCount (steps : Steps relay label next) (side : Side) :
    next.writtenCount side = relay.writtenCount side + relay.writes side label := by
  cases steps with
  | readChunk selecting unfinished nonempty =>
      refine (writtenCount_emit _ side _).trans ?_
      simp [Relay.writes, Channel.delivered, Channel.Event.outgoing]
  | readEof selecting unfinished =>
      refine (writtenCount_emit _ side _).trans ?_
      simp [Relay.writes, Channel.delivered, Channel.Event.outgoing]
  | readError selecting => rfl
  | idleExpires selecting unfinished => rfl
  | accept writing positive within =>
      rw [(accepted_counts side).2.1, writtenCount_emit]
      simp [Relay.writes, writing, Channel.delivered, Channel.Event.outgoing, within]
  | writeError writing => rfl
  | writeExpires writing => rfl
  | shutdownEnds shutting => exact writtenCount_loopHead side

theorem Steps.done (steps : Steps relay label next) {side : Side} (done : next.done side = true) :
    relay.done side = true ∨ label = .readEof side := by
  cases steps with
  | @readEof source selecting unfinished =>
      by_cases same : source = side
      · exact .inr (congrArg Label.readEof same)
      · change Function.update relay.done source true side = true at done
        rw [Function.update_of_ne (Ne.symm same)] at done
        exact .inl done
  | accept writing positive within =>
      rw [(accepted_counts side).2.2] at done
      exact .inl done
  | shutdownEnds shutting =>
      rw [loopHead_done] at done
      exact .inl done
  | readChunk | readError | idleExpires | writeError | writeExpires => exact .inl done

/-- A write goes on only with a piece of its own chunk. -/
theorem Steps.writing (steps : Steps relay label next) {source target : Side} {size left : Nat}
    {rest later : List UInt8} (before : relay.phase = .writing source size rest)
    (after : next.phase = .writing target left later) :
    target = source ∧ ∃ count, label = .accept count := by
  cases steps with
  | readChunk selecting | readEof selecting | readError selecting | idleExpires selecting =>
      rw [before] at selecting
      cases selecting
  | @accept own chunk count pending writing positive within =>
      rw [before] at writing
      cases writing
      unfold Relay.accepted at after
      split at after
      · exact absurd after (loopHead_idle left later)
      · cases after
        exact ⟨rfl, count, rfl⟩
  | writeError | writeExpires => cases after
  | shutdownEnds shutting =>
      rw [before] at shutting
      cases shutting

end Counts

end LinSight.Tunnel
