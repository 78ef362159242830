import LinSight.Core.Types
import LinSight.Library.Channel
import LinSight.Library.Journal

set_option autoImplicit false

/-! `copy_bidirectional_idle` over two duplex endpoints. A branch of the `select` that
loses is cancelled: its read consumes nothing and its timer is dropped. -/

namespace LinSight.Tunnel

open Journal

inductive Side where
  | a
  | b
deriving DecidableEq

def Side.other : Side → Side
  | .a => .b
  | .b => .a

@[simp] theorem Side.other_other (side : Side) : side.other.other = side := by
  cases side <;> rfl

theorem Side.eq_or_eq_other (side source : Side) : side = source ∨ side = source.other := by
  cases side <;> cases source <;> decide

instance {P : Side → Prop} [Decidable (P .a)] [Decidable (P .b)] : Decidable (∀ side, P side) :=
  decidable_of_iff (P .a ∧ P .b)
    ⟨fun both side => match side with | .a => both.1 | .b => both.2, fun all => ⟨all .a, all .b⟩⟩

/-- Length of `buf_a` and of `buf_b`. -/
def bufferSize : Nat := 16 * 1024

/-- The errors that the copy ends with; the endpoints have texts of their own. -/
inductive CopyError where
  | idleTimeout
  | writeTimeout
  | io (message : String)
deriving DecidableEq

/-- `ErrorKind::TimedOut`. -/
def CopyError.TimedOut : CopyError → Prop
  | .idleTimeout | .writeTimeout => True
  | .io _ => False

inductive Phase where
  /-- In the `select` at the top of the loop. -/
  | selecting
  /-- In `write_all_timeout` with a chunk of `size` bytes, of which `rest` is not
  accepted yet. -/
  | writing (source : Side) (size : Nat) (rest : List UInt8)
  /-- In `shutdown_timeout` behind the end of file of `source`. -/
  | shutting (source : Side)
  | returned (result : Except CopyError (Nat × Nat))
deriving DecidableEq

/-- The locals of the function, those of one direction under the side it reads. No
step reads `log`: it is what each direction did at the endpoints. -/
structure Relay where
  phase : Phase
  done : Side → Bool
  copied : Side → Nat
  log : List (Side × Channel.Event UInt8)

inductive Label where
  | readChunk (side : Side) (bytes : List UInt8)
  | readEof (side : Side)
  | readError (side : Side) (message : String)
  | idleExpires (side : Side)
  | accept (count : Nat)
  | writeError (message : String)
  | writeExpires
  /-- The shutdown has ended, failed or expired: `shutdown_timeout` drops the result. -/
  | shutdownEnds
deriving DecidableEq

namespace Relay

def start : Relay := ⟨.selecting, fun _ => false, fun _ => 0, []⟩

def emit (relay : Relay) (side : Side) (events : List (Channel.Event UInt8)) : Relay :=
  { relay with log := relay.log ++ events.map fun event => (side, event) }

/-- The condition of the loop. -/
def loopHead (relay : Relay) : Relay :=
  if relay.done .a && relay.done .b then
    { relay with phase := .returned (.ok (relay.copied .a, relay.copied .b)) }
  else { relay with phase := .selecting }

def fail (relay : Relay) (error : CopyError) : Relay :=
  { relay with phase := .returned (.error error) }

def beginWrite (relay : Relay) (side : Side) (bytes : List UInt8) : Relay :=
  { relay.emit side [.receive bytes] with phase := .writing side bytes.length bytes }

def beginShutdown (relay : Relay) (side : Side) : Relay :=
  { relay.emit side [.finish, .close] with
    done := Function.update relay.done side true
    phase := .shutting side }

/-- The write has taken some more bytes; behind the last one the chunk is counted. -/
def accepted (relay : Relay) (source : Side) (size : Nat) (rest : List UInt8) (count : Nat) :
    Relay :=
  let written := relay.emit source [.deliver (rest.take count)]
  if rest.drop count = [] then
    loopHead { written with
      copied := Function.update relay.copied source (wrappingAdd (relay.copied source) size) }
  else { written with phase := .writing source size (rest.drop count) }

def step (relay : Relay) (label : Label) : Option Relay :=
  match relay.phase, label with
  | .selecting, .readChunk side bytes =>
      Run.enabled (relay.done side = false ∧ bytes ≠ [] ∧ bytes.length ≤ bufferSize)
        (relay.beginWrite side bytes)
  | .selecting, .readEof side => Run.enabled (relay.done side = false) (relay.beginShutdown side)
  | .selecting, .readError side message =>
      Run.enabled (relay.done side = false) (relay.fail (.io message))
  | .selecting, .idleExpires side =>
      Run.enabled (relay.done side = false) (relay.fail .idleTimeout)
  | .writing source size rest, .accept count =>
      Run.enabled (0 < count ∧ count ≤ rest.length) (relay.accepted source size rest count)
  | .writing _ _ _, .writeError message => some (relay.fail (.io message))
  | .writing _ _ _, .writeExpires => some (relay.fail .writeTimeout)
  | .shutting _, .shutdownEnds => some relay.loopHead
  | _, _ => none

end Relay

/-- The steps of a relay, one for each way that a `select`, a write or a shutdown ends. -/
inductive Steps (relay : Relay) : Label → Relay → Prop where
  | readChunk {side : Side} {bytes : List UInt8} (selecting : relay.phase = .selecting)
      (unfinished : relay.done side = false) (nonempty : bytes ≠ []) :
      Steps relay (.readChunk side bytes) (relay.beginWrite side bytes)
  | readEof {side : Side} (selecting : relay.phase = .selecting)
      (unfinished : relay.done side = false) :
      Steps relay (.readEof side) (relay.beginShutdown side)
  | readError {side : Side} {message : String} (selecting : relay.phase = .selecting) :
      Steps relay (.readError side message) (relay.fail (.io message))
  | idleExpires {side : Side} (selecting : relay.phase = .selecting)
      (unfinished : relay.done side = false) :
      Steps relay (.idleExpires side) (relay.fail .idleTimeout)
  | accept {source : Side} {size count : Nat} {rest : List UInt8}
      (writing : relay.phase = .writing source size rest) (positive : 0 < count)
      (within : count ≤ rest.length) :
      Steps relay (.accept count) (relay.accepted source size rest count)
  | writeError {source : Side} {size : Nat} {rest : List UInt8} {message : String}
      (writing : relay.phase = .writing source size rest) :
      Steps relay (.writeError message) (relay.fail (.io message))
  | writeExpires {source : Side} {size : Nat} {rest : List UInt8}
      (writing : relay.phase = .writing source size rest) :
      Steps relay .writeExpires (relay.fail .writeTimeout)
  | shutdownEnds {source : Side} (shutting : relay.phase = .shutting source) :
      Steps relay .shutdownEnds relay.loopHead

theorem Steps.of_step {relay next : Relay} {label : Label}
    (taken : relay.step label = some next) : Steps relay label next := by
  unfold Relay.step at taken
  split at taken
  · rename_i side bytes selecting
    obtain ⟨⟨unfinished, nonempty, _⟩, rfl⟩ := Run.enabled_eq_some.mp taken
    exact .readChunk selecting unfinished nonempty
  · rename_i side selecting
    obtain ⟨unfinished, rfl⟩ := Run.enabled_eq_some.mp taken
    exact .readEof selecting unfinished
  · rename_i side message selecting
    obtain ⟨_, rfl⟩ := Run.enabled_eq_some.mp taken
    exact .readError selecting
  · rename_i side selecting
    obtain ⟨unfinished, rfl⟩ := Run.enabled_eq_some.mp taken
    exact .idleExpires selecting unfinished
  · rename_i source size rest count writing
    obtain ⟨⟨positive, within⟩, rfl⟩ := Run.enabled_eq_some.mp taken
    exact .accept writing positive within
  · rename_i writing
    cases taken
    exact .writeError writing
  · rename_i writing
    cases taken
    exact .writeExpires writing
  · rename_i shutting
    cases taken
    exact .shutdownEnds shutting
  · cases taken

section Frame

variable {relay : Relay} {side other : Side} {events : List (Channel.Event UInt8)}

@[simp] theorem entriesOf_emit_self :
    entriesOf (relay.emit side events).log side = entriesOf relay.log side ++ events := by
  rw [Relay.emit, entriesOf_append, entriesOf_own]

theorem entriesOf_emit_other (differs : other ≠ side) :
    entriesOf (relay.emit other events).log side = entriesOf relay.log side := by
  rw [Relay.emit, entriesOf_append, entriesOf_other differs, List.append_nil]

@[simp] theorem loopHead_log : relay.loopHead.log = relay.log := by
  unfold Relay.loopHead
  split <;> rfl

@[simp] theorem loopHead_done : relay.loopHead.done = relay.done := by
  unfold Relay.loopHead
  split <;> rfl

@[simp] theorem loopHead_copied : relay.loopHead.copied = relay.copied := by
  unfold Relay.loopHead
  split <;> rfl

theorem loopHead_phase (relay : Relay) : relay.loopHead.phase = .selecting ∨
    relay.done .a = true ∧ relay.done .b = true ∧
      relay.loopHead.phase = .returned (.ok (relay.copied .a, relay.copied .b)) := by
  unfold Relay.loopHead
  split
  · rename_i both
    rw [Bool.and_eq_true] at both
    exact .inr ⟨both.1, both.2, rfl⟩
  · exact .inl rfl

end Frame

end LinSight.Tunnel
