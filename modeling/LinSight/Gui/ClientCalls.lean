import LinSight.Library.Run
import LinSight.Protocol.CutWrites

set_option autoImplicit false

/-! The writer of the desktop client. Its calls share it, and a call that fails tells its
caller and nobody else. -/

namespace LinSight.Gui

def protocolVersion : Nat := 3

inductive ClientCall where
  | subscribe (sensors : List SensorId)
  | unsubscribe (sensors : List SensorId)
  | keepalive
  | requestRpc (reqId : Nat) (op : RequestOp)

def ClientCall.toClientMsg : ClientCall → ClientMsg
  | .subscribe sensors => .subscribe sensors none
  | .unsubscribe sensors => .unsubscribe sensors
  | .keepalive => .subscribe [] none
  | .requestRpc reqId op => .request reqId op

/-- `handshake` is what `finish_handshake` has still to send, and `none` after it failed. -/
structure ClientWriter where
  writer : BufferedWriter
  handshake : Option (List ClientMsg)

namespace ClientWriter

def start : ClientWriter where
  writer := .new
  handshake := some [.hello protocolVersion "linsight-gui" none, .listSensors]

inductive Step where
  | handshake (outcome : WriteAll)
  | call (call : ClientCall) (outcome : WriteAll)

section Model

variable {ε : Type} (format : LinSight.Format ClientMsg ε) (alloc : Allocator)

/-- The calls come in any order, each as a whole. -/
def step (c : ClientWriter) : Step → Option ClientWriter
  | .handshake outcome =>
      match c.handshake with
      | some (msg :: rest) =>
          let (sent, writer) := c.writer.send format alloc outcome msg
          some { writer, handshake := if sent then some rest else none }
      | _ => none
  | .call call outcome =>
      match c.handshake with
      | some [] =>
          let (_, writer) := c.writer.send format alloc outcome call.toClientMsg
          some { c with writer }
      | _ => none

end Model

variable {ε : Type} {format : LinSight.Format ClientMsg ε} {alloc : Allocator}

/-- A call's write is not cut. -/
def Uncut (format : LinSight.Format ClientMsg ε) (c : ClientWriter) : Step → Prop
  | .handshake _ => True
  | .call call outcome => c.handshake = some [] → format.cuts call.toClientMsg outcome = false

/-- The connection has carried whole frames, the last of which may be cut only where there is no
client any more. -/
structure Carries (format : LinSight.Format ClientMsg ε) (c : ClientWriter) : Prop where
  framed : format.Framed c.writer.inner
  whole : format.Whole c.writer.inner ∨ c.handshake = none

theorem Carries.handshake (fills : ∀ msg, format.Fills msg) {c next : ClientWriter}
    {outcome : WriteAll} (taken : c.step format alloc (.handshake outcome) = some next)
    (carries : c.Carries format) : next.Carries format := by
  simp only [step] at taken
  split at taken
  · rename_i msg rest sending
    cases taken
    have whole : format.Whole c.writer.inner := by
      rcases carries.whole with whole | ended
      · exact whole
      · rw [sending] at ended
        cases ended
    obtain ⟨sent, inner⟩ := BufferedWriter.send_spec format alloc (fills msg) outcome c.writer
    constructor
    · rw [inner]
      exact whole.puts_framed outcome msg
    · rw [inner, sent]
      cases outcome with
      | ok => exact .inl (whole.puts rfl)
      | failed n =>
          right
          simp [LinSight.Format.writes]
  · cases taken

theorem step_carries_iff (fills : ∀ msg, format.Fills msg) {c next : ClientWriter} {label : Step}
    (taken : c.step format alloc label = some next) (carries : c.Carries format) :
    next.Carries format ↔ c.Uncut format label := by
  cases label with
  | handshake outcome => exact iff_of_true (carries.handshake fills taken) trivial
  | call call outcome =>
      simp only [step] at taken
      split at taken
      · rename_i ready
        cases taken
        have whole : format.Whole c.writer.inner := by
          rcases carries.whole with whole | ended
          · exact whole
          · rw [ready] at ended
            cases ended
        have inner := (BufferedWriter.send_spec format alloc (fills call.toClientMsg) outcome
          c.writer).2
        cases cut : format.cuts call.toClientMsg outcome with
        | false =>
            have kept := whole.puts cut
            rw [← inner] at kept
            exact iff_of_true ⟨kept.framed, .inl kept⟩ fun _ => cut
        | true =>
            refine iff_of_false (fun after => ?_) fun uncut => ?_
            · rcases after.whole with kept | ended
              · rw [inner] at kept
                exact whole.not_of_cut cut kept
              · rw [ready] at ended
                cases ended
            · rw [uncut ready] at cut
              cases cut
      · cases taken

/-- The client's half of the law, run by run. -/
theorem visits_iff_uncut (fills : ∀ msg, format.Fills msg) (labels : List Step) :
    (∀ c, Run.Visits (step format alloc) start labels c →
        format.Framed c.writer.inner ∧ (format.Whole c.writer.inner ∨ c.handshake = none)) ↔
      Run.Always (step format alloc) (Uncut format) start labels := by
  have carried (c : ClientWriter) : c.Carries format ↔
      format.Framed c.writer.inner ∧ (format.Whole c.writer.inner ∨ c.handshake = none) :=
    ⟨fun h => ⟨h.framed, h.whole⟩, fun h => ⟨h.1, h.2⟩⟩
  have idle (c : ClientWriter) (label : Step) (stuck : c.step format alloc label = none) :
      c.Uncut format label := by
    cases label with
    | handshake outcome => trivial
    | call call outcome =>
        intro ready
        simp only [step, ready] at stuck
        cases stuck
  have empty : format.Whole start.writer.inner := LinSight.Format.Whole.nil
  have initial : start.Carries format := ⟨empty.framed, .inl empty⟩
  simp only [← carried]
  exact Run.visits_iff_always (fun _ _ _ _ _ => trivial) idle
    (fun _ _ _ taken _ carries => step_carries_iff fills taken carries) trivial initial

end ClientWriter

end LinSight.Gui
