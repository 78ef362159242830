import LinSight.Library.Run
import LinSight.Protocol.Messages

set_option autoImplicit false

/-! The requests of the desktop client: callers that share one connection, its reader
thread, and the table that brings the two together. -/

namespace LinSight.Gui

open DebugText (Message)

/-- How an RPC fails; an unexpected payload stands for its debug text. -/
inductive RpcError where
  | server (message : Message)
  | unexpectedPayload (payload : ResponsePayload)
  | timeout
  | send (message : String)

/-- Whether the caller's `extract` reads this payload. -/
def extracts : RequestOp → ResponsePayload → Bool
  | .getHardware, .hardware _ _ => true
  | .setNickname _ _, .nicknameSet _ _ => true
  | .setPumpIntervalMs _, .pumpIntervalSet _ => true
  | .getHistory _ _ _ _, .history _ _ => true
  | .listAlerts, .alertList _ => true
  | .upsertAlert _ _ _ _ _ _, .alertUpserted _ => true
  | .deleteAlert _, .alertDeleted _ => true
  | .testAlertExpr _, .alertTestResult _ _ => true
  | .listAlertEvents _, .alertEventList _ => true
  | .getDaemonSettings, .daemonSettings _ _ _ _ => true
  | .setDaemonSettings _ _ _ _, .daemonSettingsSet _ _ _ => true
  | _, _ => false

/-- What `request_rpc` returns for a result; a payload stands for what is read of it. -/
def rpcResult (op : RequestOp) :
    Except ProtoError ResponsePayload → Except RpcError ResponsePayload
  | .ok payload =>
      if extracts op payload then .ok payload else .error (.unexpectedPayload payload)
  | .error e => .error (.server e.message)

/-- A `Response` frame; the tickets count the frames that the reader thread took up. -/
structure Response where
  ticket : Nat
  reqId : Nat
  result : Except ProtoError ResponsePayload

/-- How far `request_rpc` is: after `fetch_add`, after `insert`, in `recv_timeout`, after a
failed write, after the time is up, and at its end with the response that it got. -/
inductive CallPhase where
  | minted
  | registered
  | waiting
  | unsent (e : String)
  | expired
  | returned (outcome : Except RpcError ResponsePayload) (response : Option Response)

structure Call where
  op : RequestOp
  reqId : Nat
  phase : CallPhase
  /-- What is queued for its receiver. -/
  channel : List Response

def Call.register : Call → Option Call
  | ⟨op, reqId, .minted, channel⟩ => some ⟨op, reqId, .registered, channel⟩
  | _ => none

/-- `write_client`, with the error where it fails. -/
def Call.write (failure : Option String) : Call → Option Call
  | ⟨op, reqId, .registered, channel⟩ =>
      some ⟨op, reqId, (match failure with | none => .waiting | some e => .unsent e), channel⟩
  | _ => none

def Call.receive : Call → Option Call
  | ⟨op, reqId, .waiting, response :: _⟩ =>
      some ⟨op, reqId, .returned (rpcResult op response.result) (some response), []⟩
  | _ => none

/-- `recv_timeout` finds nothing in time, or no sender is left. -/
def Call.expire : Call → Option Call
  | ⟨op, reqId, .waiting, []⟩ => some ⟨op, reqId, .expired, []⟩
  | _ => none

/-- The clean-up after a failed write and after the timeout. -/
def Call.remove : Call → Option Call
  | ⟨op, reqId, .unsent e, _⟩ => some ⟨op, reqId, .returned (.error (.send e)) none, []⟩
  | ⟨op, reqId, .expired, _⟩ => some ⟨op, reqId, .returned (.error .timeout) none, []⟩
  | _ => none

/-- `tx.send`; the receiver is gone where the call has returned. -/
def Call.accept (response : Response) : Call → Call
  | ⟨op, reqId, .returned outcome got, channel⟩ => ⟨op, reqId, .returned outcome got, channel⟩
  | ⟨op, reqId, phase, channel⟩ => ⟨op, reqId, phase, channel ++ [response]⟩

/-- The reader thread; between `remove` and `send` it holds the waiter's sender. -/
inductive Reader where
  | reading
  | holding (response : Response) (waiter : Nat)
  | stopped

def u32Bound : Nat := 4294967296

structure Client where
  nextReqId : Nat
  calls : List Call
  /-- The call whose sender is registered. -/
  inflight : KeyMap Nat Nat
  reader : Reader
  read : Nat

namespace Client

def start : Client := ⟨1, [], ∅, .reading, 0⟩

/-- One caller moves on. -/
def advance (c : Client) (i : Nat) (move : Call → Option Call) : Option (Call × Client) :=
  (c.calls[i]?).bind fun call => (move call).map fun moved =>
    (moved, { c with calls := c.calls.set i moved })

/-- `dispatch` takes up a frame. -/
def dispatch (c : Client) : ServerMsg → Client
  | .response reqId result =>
      match c.inflight.lookup reqId with
      | some waiter => { c with
          inflight := c.inflight.erase reqId
          reader := .holding ⟨c.read, reqId, result⟩ waiter
          read := c.read + 1 }
      | none => { c with read := c.read + 1 }
  | .bye _ => { c with reader := .stopped }
  | _ => c

inductive Event where
  | call (op : RequestOp)
  | register (i : Nat)
  | write (i : Nat) (failure : Option String)
  | receive (i : Nat)
  | expire (i : Nat)
  | remove (i : Nat)
  | read (msg : ServerMsg)
  | deliver
  | hangUp

def step (c : Client) : Event → Option Client
  | .call op => some { c with
      nextReqId := (c.nextReqId + 1) % u32Bound
      calls := c.calls ++ [⟨op, c.nextReqId, .minted, []⟩] }
  | .register i => (c.advance i Call.register).map fun moved =>
      { moved.2 with inflight := c.inflight.insert moved.1.reqId i }
  | .write i failure => (c.advance i (Call.write failure)).map Prod.snd
  | .receive i => (c.advance i Call.receive).map Prod.snd
  | .expire i => (c.advance i Call.expire).map Prod.snd
  | .remove i => (c.advance i Call.remove).map fun moved =>
      { moved.2 with inflight := c.inflight.erase moved.1.reqId }
  | .read msg =>
      match c.reader with
      | .reading => some (c.dispatch msg)
      | _ => none
  | .deliver =>
      match c.reader with
      | .holding response waiter =>
          (c.advance waiter fun call => some (call.accept response)).map fun moved =>
            { moved.2 with reader := .reading }
      | _ => none
  | .hangUp =>
      match c.reader with
      | .reading => some { c with reader := .stopped }
      | _ => none

end Client

section Moves

/-- The responses that a call has been handed. -/
def Call.responses (call : Call) : List Response :=
  call.channel ++ match call.phase with
    | .returned _ (some response) => [response]
    | _ => []

def CallPhase.isReturned : CallPhase → Bool
  | .returned _ _ => true
  | _ => false

/-- Between `insert` and the end. -/
def CallPhase.isOpen : CallPhase → Bool
  | .minted => false
  | .returned _ _ => false
  | _ => true

/-- What a move of a caller leaves as it was. -/
structure Call.Moved (before after : Call) : Prop where
  op : after.op = before.op
  reqId : after.reqId = before.reqId
  responses : ∀ response ∈ after.responses, response ∈ before.responses

/-- The outcome is what the response says. -/
def Call.Truthful (call : Call) : Prop :=
  ∀ outcome got, call.phase = .returned outcome got →
    match got with
    | some response => outcome = rpcResult call.op response.result
    | none => outcome = .error .timeout ∨ ∃ e, outcome = .error (.send e)

theorem CallPhase.isReturned_of_isOpen {phase : CallPhase} (running : phase.isOpen = true) :
    phase.isReturned = false := by
  cases phase <;> first | rfl | cases running

theorem CallPhase.ne_minted_of_isOpen {phase : CallPhase} (running : phase.isOpen = true) :
    phase ≠ .minted := by
  intro minted
  rw [minted] at running
  cases running

theorem CallPhase.ne_minted_of_isReturned {phase : CallPhase}
    (returned : phase.isReturned = true) : phase ≠ .minted := by
  intro minted
  rw [minted] at returned
  cases returned

theorem Call.Moved.responses_nil {call moved : Call} (same : call.Moved moved)
    (empty : call.responses = []) : moved.responses = [] := by
  rw [List.eq_nil_iff_forall_not_mem]
  intro response member
  have old := same.responses response member
  rw [empty] at old
  exact absurd old List.not_mem_nil

theorem Call.Truthful.of_running {call : Call} (running : call.phase.isReturned = false) :
    call.Truthful := by
  intro outcome got same
  rw [same] at running
  cases running

theorem Call.register_spec {call moved : Call} (taken : call.register = some moved) :
    call.Moved moved ∧ call.phase = .minted ∧ moved.phase = .registered := by
  obtain ⟨op, reqId, phase, channel⟩ := call
  cases phase <;> simp only [register, Option.some.injEq, reduceCtorEq] at taken
  subst taken
  exact ⟨⟨rfl, rfl, fun _ member => member⟩, rfl, rfl⟩

theorem Call.write_spec {call moved : Call} {failure : Option String}
    (taken : call.write failure = some moved) :
    call.Moved moved ∧ call.phase.isOpen = true ∧ moved.phase.isOpen = true := by
  obtain ⟨op, reqId, phase, channel⟩ := call
  cases phase <;> simp only [write, Option.some.injEq, reduceCtorEq] at taken
  subst taken
  cases failure <;> exact ⟨⟨rfl, rfl, fun _ member => member⟩, rfl, rfl⟩

theorem Call.receive_spec {call moved : Call} (taken : call.receive = some moved) :
    call.Moved moved ∧ call.responses ≠ [] ∧ call.phase = .waiting ∧ moved.phase.isReturned = true ∧
      moved.Truthful := by
  obtain ⟨op, reqId, phase, channel⟩ := call
  cases phase <;> cases channel <;> simp only [receive, Option.some.injEq, reduceCtorEq] at taken
  subst taken
  refine ⟨⟨rfl, rfl, ?_⟩, by simp [responses], rfl, rfl, ?_⟩
  · intro response member
    simp only [responses, List.nil_append, List.mem_singleton] at member
    simp [responses, member]
  · intro outcome got same
    injection same with outcome_eq got_eq
    subst got_eq
    exact outcome_eq.symm

theorem Call.expire_spec {call moved : Call} (taken : call.expire = some moved) :
    call.Moved moved ∧ call.phase.isOpen = true ∧ moved.phase.isOpen = true := by
  obtain ⟨op, reqId, phase, channel⟩ := call
  cases phase <;> cases channel <;> simp only [expire, Option.some.injEq, reduceCtorEq] at taken
  subst taken
  exact ⟨⟨rfl, rfl, fun _ member => member⟩, rfl, rfl⟩

theorem Call.remove_spec {call moved : Call} (taken : call.remove = some moved) :
    call.Moved moved ∧ moved.phase.isReturned = true ∧ moved.Truthful := by
  obtain ⟨op, reqId, phase, channel⟩ := call
  cases phase <;> simp only [remove, Option.some.injEq, reduceCtorEq] at taken
  case unsent e =>
    subst taken
    refine ⟨⟨rfl, rfl, fun _ member => absurd member (List.not_mem_nil)⟩, rfl, ?_⟩
    intro outcome got same
    injection same with outcome_eq got_eq
    subst got_eq
    exact .inr ⟨e, outcome_eq.symm⟩
  case expired =>
    subst taken
    refine ⟨⟨rfl, rfl, fun _ member => absurd member (List.not_mem_nil)⟩, rfl, ?_⟩
    intro outcome got same
    injection same with outcome_eq got_eq
    subst got_eq
    exact .inl outcome_eq.symm

theorem Call.accept_spec (call : Call) (response : Response) :
    (call.accept response).op = call.op ∧ (call.accept response).reqId = call.reqId ∧
      (call.accept response).phase = call.phase ∧
      ∀ other ∈ (call.accept response).responses, other ∈ call.responses ∨ other = response := by
  obtain ⟨op, reqId, phase, channel⟩ := call
  cases phase
  case returned outcome got =>
    exact ⟨rfl, rfl, rfl, fun other member => .inl member⟩
  all_goals
    refine ⟨rfl, rfl, rfl, ?_⟩
    intro other member
    simpa [accept, responses] using member

end Moves

namespace Client

section Steps

theorem advance_eq_some {c : Client} {i : Nat} {move : Call → Option Call} {moved : Call × Client}
    (taken : c.advance i move = some moved) :
    ∃ call, c.calls[i]? = some call ∧ move call = some moved.1 ∧
      moved.2 = { c with calls := c.calls.set i moved.1 } := by
  obtain ⟨call, present, rest⟩ := Option.bind_eq_some_iff.mp taken
  obtain ⟨after, went, same⟩ := Option.map_eq_some_iff.mp rest
  subst same
  exact ⟨call, present, went, rfl⟩

theorem calls_set {calls : List Call} {i j : Nat} {moved other : Call}
    (present : (calls.set i moved)[j]? = some other) :
    (j = i ∧ other = moved) ∨ (j ≠ i ∧ calls[j]? = some other) := by
  rw [List.getElem?_set] at present
  by_cases same : i = j
  · rw [if_pos same] at present
    split at present
    · exact .inl ⟨same.symm, (Option.some.inj present).symm⟩
    · cases present
  · rw [if_neg same] at present
    exact .inr ⟨fun equal => same equal.symm, present⟩

theorem calls_append {calls : List Call} {j : Nat} {call other : Call}
    (present : (calls ++ [call])[j]? = some other) :
    (j = calls.length ∧ other = call) ∨ calls[j]? = some other := by
  by_cases old : j < calls.length
  · rw [List.getElem?_append_left old] at present
    exact .inr present
  · have last : j = calls.length := by
      have bound := (List.getElem?_eq_some_iff.mp present).1
      simp only [List.length_append, List.length_singleton] at bound
      omega
    rw [last, List.getElem?_concat_length] at present
    exact .inl ⟨last, (Option.some.inj present).symm⟩

/-- What a step can do: a call begins, a caller moves on and may register or clean up, or
the reader thread does something. -/
inductive Steps (c : Client) : Client → Prop where
  | begins (op : RequestOp) :
      Steps c { c with
        nextReqId := (c.nextReqId + 1) % u32Bound
        calls := c.calls ++ [⟨op, c.nextReqId, .minted, []⟩] }
  | registers {i : Nat} {call moved : Call} (present : c.calls[i]? = some call)
      (went : call.register = some moved) :
      Steps c { c with
        calls := c.calls.set i moved
        inflight := c.inflight.insert moved.reqId i }
  | stays {i : Nat} {call moved : Call} (present : c.calls[i]? = some call)
      (same : call.Moved moved) (before : call.phase.isOpen = true)
      (after : moved.phase.isOpen = true) :
      Steps c { c with calls := c.calls.set i moved }
  | receives {i : Nat} {call moved : Call} (present : c.calls[i]? = some call)
      (went : call.receive = some moved) :
      Steps c { c with calls := c.calls.set i moved }
  | removes {i : Nat} {call moved : Call} (present : c.calls[i]? = some call)
      (went : call.remove = some moved) :
      Steps c { c with
        calls := c.calls.set i moved
        inflight := c.inflight.erase moved.reqId }
  | takes {reqId waiter : Nat} (result : Except ProtoError ResponsePayload)
      (reading : c.reader = .reading) (registered : c.inflight.lookup reqId = some waiter) :
      Steps c { c with
        inflight := c.inflight.erase reqId
        reader := .holding ⟨c.read, reqId, result⟩ waiter
        read := c.read + 1 }
  | idles (reader : Reader) (more : Nat)
      (idle : ∀ response waiter, reader ≠ .holding response waiter) :
      Steps c { c with reader := reader, read := c.read + more }
  | delivers {response : Response} {waiter : Nat} {call : Call}
      (holding : c.reader = .holding response waiter) (present : c.calls[waiter]? = some call) :
      Steps c { c with reader := .reading, calls := c.calls.set waiter (call.accept response) }

theorem step_cases {c next : Client} {event : Event} (taken : c.step event = some next) :
    c.Steps next := by
  cases event with
  | call op =>
      cases taken
      exact .begins op
  | register i =>
      obtain ⟨moved, advanced, same⟩ := Option.map_eq_some_iff.mp taken
      obtain ⟨call, present, went, after⟩ := advance_eq_some advanced
      subst same
      rw [after]
      exact .registers present went
  | write i failure =>
      obtain ⟨moved, advanced, same⟩ := Option.map_eq_some_iff.mp taken
      obtain ⟨call, present, went, after⟩ := advance_eq_some advanced
      subst same
      rw [after]
      have spec := Call.write_spec went
      exact .stays present spec.1 spec.2.1 spec.2.2
  | receive i =>
      obtain ⟨moved, advanced, same⟩ := Option.map_eq_some_iff.mp taken
      obtain ⟨call, present, went, after⟩ := advance_eq_some advanced
      subst same
      rw [after]
      exact .receives present went
  | expire i =>
      obtain ⟨moved, advanced, same⟩ := Option.map_eq_some_iff.mp taken
      obtain ⟨call, present, went, after⟩ := advance_eq_some advanced
      subst same
      rw [after]
      have spec := Call.expire_spec went
      exact .stays present spec.1 spec.2.1 spec.2.2
  | remove i =>
      obtain ⟨moved, advanced, same⟩ := Option.map_eq_some_iff.mp taken
      obtain ⟨call, present, went, after⟩ := advance_eq_some advanced
      subst same
      rw [after]
      exact .removes present went
  | read msg =>
      cases reading : c.reader with
      | reading =>
          simp only [step, reading, Option.some.injEq] at taken
          subst taken
          cases msg with
          | response reqId result =>
              simp only [dispatch]
              split
              · rename_i waiter registered
                exact .takes result reading registered
              · have idle := Steps.idles (c := c) .reading 1 (fun _ _ => Reader.noConfusion)
                rw [← reading] at idle
                exact idle
          | bye reason => exact .idles .stopped 0 (fun _ _ => Reader.noConfusion)
          | _ =>
              have idle := Steps.idles (c := c) .reading 0 (fun _ _ => Reader.noConfusion)
              rw [← reading] at idle
              exact idle
      | holding response waiter =>
          simp only [step, reading, reduceCtorEq] at taken
      | stopped =>
          simp only [step, reading, reduceCtorEq] at taken
  | deliver =>
      cases holding : c.reader with
      | holding response waiter =>
          simp only [step, holding] at taken
          obtain ⟨moved, advanced, same⟩ := Option.map_eq_some_iff.mp taken
          obtain ⟨call, present, went, after⟩ := advance_eq_some advanced
          subst same
          rw [after, ← Option.some.inj went]
          exact .delivers holding present
      | reading => simp only [step, holding, reduceCtorEq] at taken
      | stopped => simp only [step, holding, reduceCtorEq] at taken
  | hangUp =>
      cases reading : c.reader with
      | reading =>
          simp only [step, reading, Option.some.injEq] at taken
          subst taken
          exact .idles .stopped 0 (fun _ _ => Reader.noConfusion)
      | holding response waiter => simp only [step, reading, reduceCtorEq] at taken
      | stopped => simp only [step, reading, reduceCtorEq] at taken

end Steps

section Invariants

/-- The ids count the calls, modulo the wrap of the counter. -/
structure Numbered (c : Client) : Prop where
  next : c.nextReqId = (1 + c.calls.length) % u32Bound
  reqIds : ∀ (i : Nat) (call : Call), c.calls[i]? = some call → call.reqId = (1 + i) % u32Bound

/-- Nothing has come in for the call or is on its way. -/
def Unanswered (c : Client) (i : Nat) (call : Call) : Prop :=
  call.responses = [] ∧ ∀ response, c.reader ≠ .holding response i

/-- An entry of the table belongs to an open call that waits for its first response. -/
structure Owned (c : Client) : Prop where
  owners : ∀ (reqId i : Nat), c.inflight.lookup reqId = some i →
    ∃ call, c.calls[i]? = some call ∧ call.reqId = reqId ∧ call.phase.isOpen = true ∧
      c.Unanswered i call
  fresh : ∀ (i : Nat) (call : Call), c.calls[i]? = some call → call.phase = .minted →
    c.Unanswered i call

/-- The response has been handed to the call. -/
def Handed (c : Client) (i : Nat) (response : Response) : Prop :=
  ∃ call, c.calls[i]? = some call ∧ response ∈ call.responses

structure Correlated (c : Client) : Prop where
  own : ∀ (i : Nat) (call : Call), c.calls[i]? = some call → ∀ response ∈ call.responses,
    response.ticket < c.read ∧ response.reqId = call.reqId
  apart : ∀ (i j : Nat) (first second : Response), c.Handed i first → c.Handed j second →
    first.ticket = second.ticket → i = j
  held : ∀ (response : Response) (waiter : Nat), c.reader = .holding response waiter →
    response.ticket < c.read ∧
      (∃ call, c.calls[waiter]? = some call ∧ response.reqId = call.reqId) ∧
      ∀ (i : Nat) (other : Response), c.Handed i other → other.ticket ≠ response.ticket

def Truthful (c : Client) : Prop :=
  ∀ (i : Nat) (call : Call), c.calls[i]? = some call → call.Truthful

theorem Numbered.set {c : Client} (numbered : c.Numbered) {i : Nat} {call moved : Call}
    (present : c.calls[i]? = some call) (same : moved.reqId = call.reqId)
    (inflight : KeyMap Nat Nat)
    (reader : Reader) (read : Nat) :
    Numbered ⟨c.nextReqId, c.calls.set i moved, inflight, reader, read⟩ where
  next := by
    rw [List.length_set]
    exact numbered.next
  reqIds := by
    intro j other inside
    rcases calls_set inside with here | elsewhere
    · rw [here.1, here.2, same]
      exact numbered.reqIds i call present
    · exact numbered.reqIds j other elsewhere.2

theorem Numbered.step {c next : Client} (steps : c.Steps next) (numbered : c.Numbered) :
    next.Numbered := by
  cases steps with
  | begins op =>
      constructor
      · show (c.nextReqId + 1) % u32Bound = _
        rw [numbered.next, List.length_append, List.length_singleton, u32Bound]
        omega
      · intro j other inside
        rcases calls_append inside with last | old
        · rw [last.1, last.2]
          exact numbered.next
        · exact numbered.reqIds j other old
  | registers present went =>
      exact numbered.set present (Call.register_spec went).1.reqId _ _ _
  | stays present same before after => exact numbered.set present same.reqId _ _ _
  | receives present went => exact numbered.set present (Call.receive_spec went).1.reqId _ _ _
  | removes present went => exact numbered.set present (Call.remove_spec went).1.reqId _ _ _
  | takes result reading registered => exact ⟨numbered.next, numbered.reqIds⟩
  | idles reader more idle => exact ⟨numbered.next, numbered.reqIds⟩
  | delivers holding present => exact numbered.set present (Call.accept_spec _ _).2.1 _ _ _

theorem Truthful.step {c next : Client} (steps : c.Steps next) (truthful : c.Truthful) :
    next.Truthful := by
  have set {i : Nat} {moved : Call} (fine : moved.Truthful) (inflight : KeyMap Nat Nat)
      (reader : Reader) :
      Truthful ⟨c.nextReqId, c.calls.set i moved, inflight, reader, c.read⟩ := by
    intro j other inside
    rcases calls_set inside with here | elsewhere
    · rw [here.2]
      exact fine
    · exact truthful j other elsewhere.2
  cases steps with
  | begins op =>
      intro j other inside
      rcases calls_append inside with last | old
      · rw [last.2]
        exact Call.Truthful.of_running rfl
      · exact truthful j other old
  | registers present went =>
      refine set (Call.Truthful.of_running ?_) _ _
      rw [(Call.register_spec went).2.2]
      rfl
  | stays present same before after =>
      exact set (Call.Truthful.of_running (CallPhase.isReturned_of_isOpen after)) _ _
  | receives present went => exact set (Call.receive_spec went).2.2.2.2 _ _
  | removes present went => exact set (Call.remove_spec went).2.2 _ _
  | takes result reading registered => exact truthful
  | idles reader more idle => exact truthful
  | @delivers response waiter call holding present =>
      have spec := Call.accept_spec call response
      refine set ?_ _ _
      intro outcome got same
      rw [spec.2.2.1] at same
      rw [spec.1]
      exact truthful waiter call present outcome got same

/-- Replacing one call keeps the table where its own entry stays right. -/
theorem Owned.set {c : Client} (owned : c.Owned) {i : Nat} {moved : Call}
    {inflight : KeyMap Nat Nat} {reader : Reader} {read : Nat} (inside : i < c.calls.length)
    (others : ∀ reqId j, j ≠ i → inflight.lookup reqId = some j →
      c.inflight.lookup reqId = some j)
    (own : ∀ reqId, inflight.lookup reqId = some i → moved.reqId = reqId ∧
      moved.phase.isOpen = true ∧ moved.responses = [] ∧
      ∀ response, c.reader ≠ .holding response i)
    (settled : moved.phase ≠ .minted)
    (held : ∀ j response, reader = .holding response j → c.reader = .holding response j) :
    Owned ⟨c.nextReqId, c.calls.set i moved, inflight, reader, read⟩ := by
  constructor
  · intro reqId j entry
    by_cases same : j = i
    · subst same
      obtain ⟨named, running, empty, unheld⟩ := own reqId entry
      refine ⟨moved, List.getElem?_set_self inside, named, running, empty, ?_⟩
      exact fun response holding => unheld response (held j response holding)
    · obtain ⟨call, present, named, running, empty, unheld⟩ :=
        owned.owners reqId j (others reqId j same entry)
      have differs : i ≠ j := fun equal => same equal.symm
      refine ⟨call, (List.getElem?_set_ne differs).trans present, named, running, empty, ?_⟩
      exact fun response holding => unheld response (held j response holding)
  · intro j call present minted
    rcases calls_set present with here | elsewhere
    · rw [here.2] at minted
      exact absurd minted settled
    · have unanswered := owned.fresh j call elsewhere.2 minted
      exact ⟨unanswered.1, fun response holding => unanswered.2 response (held j response holding)⟩

/-- The call that an entry names. -/
theorem Owned.owner {c : Client} (owned : c.Owned) {i reqId : Nat} {call : Call}
    (present : c.calls[i]? = some call) (entry : c.inflight.lookup reqId = some i) :
    call.reqId = reqId ∧ call.phase.isOpen = true ∧ call.responses = [] ∧
      ∀ response, c.reader ≠ .holding response i := by
  obtain ⟨other, there, rest⟩ := owned.owners reqId i entry
  rw [present] at there
  rw [Option.some.inj there]
  exact rest

theorem Owned.step {c next : Client} (steps : c.Steps next) (correlated : c.Correlated)
    (owned : c.Owned) : next.Owned := by
  cases steps with
  | begins op =>
      constructor
      · intro reqId i entry
        obtain ⟨call, present, rest⟩ := owned.owners reqId i entry
        have inside := (List.getElem?_eq_some_iff.mp present).1
        exact ⟨call, (List.getElem?_append_left inside).trans present, rest⟩
      · intro i call present minted
        rcases calls_append present with last | old
        · rw [last.2]
          refine ⟨rfl, ?_⟩
          intro response holding
          obtain ⟨waiting, waits, named⟩ := (correlated.held response i holding).2.1
          have inside := (List.getElem?_eq_some_iff.mp waits).1
          omega
        · exact owned.fresh i call old minted
  | @registers i call moved present went =>
      obtain ⟨same, minted, registered⟩ := Call.register_spec went
      have unanswered := owned.fresh i call present minted
      have inside := (List.getElem?_eq_some_iff.mp present).1
      refine owned.set inside ?_ ?_ (by rw [registered]; exact CallPhase.noConfusion)
        (fun _ _ holding => holding)
      · intro reqId j differs entry
        rw [KeyMap.lookup_insert_eq] at entry
        split at entry
        · exact absurd (Option.some.inj entry).symm differs
        · exact entry
      · intro reqId entry
        rw [KeyMap.lookup_insert_eq] at entry
        split at entry
        · rename_i named
          refine ⟨named.symm, ?_, same.responses_nil unanswered.1, unanswered.2⟩
          rw [registered]
          rfl
        · have running := (owned.owner present entry).2.1
          rw [minted] at running
          cases running
  | @stays i call moved present same before after =>
      have inside := (List.getElem?_eq_some_iff.mp present).1
      refine owned.set inside (fun _ _ _ entry => entry) ?_ (CallPhase.ne_minted_of_isOpen after)
        (fun _ _ holding => holding)
      intro reqId entry
      obtain ⟨named, running, empty, unheld⟩ := owned.owner present entry
      exact ⟨same.reqId.trans named, after, same.responses_nil empty, unheld⟩
  | @receives i call moved present went =>
      obtain ⟨same, answered, waiting, returned, truthful⟩ := Call.receive_spec went
      have inside := (List.getElem?_eq_some_iff.mp present).1
      refine owned.set inside (fun _ _ _ entry => entry) ?_
        (CallPhase.ne_minted_of_isReturned returned) (fun _ _ holding => holding)
      intro reqId entry
      obtain ⟨named, running, empty, unheld⟩ := owned.owner present entry
      exact absurd empty answered
  | @removes i call moved present went =>
      obtain ⟨same, returned, truthful⟩ := Call.remove_spec went
      have inside := (List.getElem?_eq_some_iff.mp present).1
      have kept : ∀ reqId j, (c.inflight.erase moved.reqId).lookup reqId = some j →
          reqId ≠ moved.reqId ∧ c.inflight.lookup reqId = some j := by
        intro reqId j entry
        rw [KeyMap.lookup_erase_eq] at entry
        split at entry
        · cases entry
        · rename_i differs
          exact ⟨differs, entry⟩
      refine owned.set inside (fun reqId j _ entry => (kept reqId j entry).2) ?_
        (CallPhase.ne_minted_of_isReturned returned) (fun _ _ holding => holding)
      intro reqId entry
      obtain ⟨differs, old⟩ := kept reqId i entry
      have named := (owned.owner present old).1
      rw [← same.reqId] at named
      exact absurd named.symm differs
  | @takes reqId waiter result reading registered =>
      obtain ⟨waiting, waits, named, running, rest⟩ := owned.owners reqId waiter registered
      constructor
      · intro other j entry
        rw [KeyMap.lookup_erase_eq] at entry
        split at entry
        · cases entry
        · rename_i differs
          obtain ⟨call, present, name, going, empty, unheld⟩ := owned.owners other j entry
          refine ⟨call, present, name, going, empty, ?_⟩
          intro response holding
          injection holding with taken same
          rw [← same, waits] at present
          rw [← Option.some.inj present] at name
          exact differs (name.symm.trans named)
      · intro j call present minted
        refine ⟨(owned.fresh j call present minted).1, ?_⟩
        intro response holding
        injection holding with taken same
        rw [← same, waits] at present
        rw [← Option.some.inj present] at minted
        exact CallPhase.ne_minted_of_isOpen running minted
  | idles reader more idle =>
      constructor
      · intro reqId i entry
        obtain ⟨call, present, named, running, empty, unheld⟩ := owned.owners reqId i entry
        exact ⟨call, present, named, running, empty, fun response => idle response i⟩
      · intro i call present minted
        exact ⟨(owned.fresh i call present minted).1, fun response => idle response i⟩
  | @delivers response waiter call holding present =>
      have spec := Call.accept_spec call response
      have inside := (List.getElem?_eq_some_iff.mp present).1
      refine owned.set inside (fun _ _ _ entry => entry) ?_ ?_
        (fun _ _ other => Reader.noConfusion other)
      · intro reqId entry
        exact absurd holding ((owned.owner present entry).2.2.2 response)
      · intro minted
        rw [spec.2.2.1] at minted
        exact (owned.fresh waiter call present minted).2 response holding

/-- Replacing one call keeps the correlation where it has nothing new. -/
theorem Correlated.set {c : Client} (correlated : c.Correlated) {i : Nat} {call moved : Call}
    (present : c.calls[i]? = some call) (same : call.Moved moved) (inflight : KeyMap Nat Nat) :
    Correlated ⟨c.nextReqId, c.calls.set i moved, inflight, c.reader, c.read⟩ := by
  have handed : ∀ j response,
      Handed ⟨c.nextReqId, c.calls.set i moved, inflight, c.reader, c.read⟩ j response →
        c.Handed j response := by
    intro j response got
    obtain ⟨other, there, member⟩ := got
    rcases calls_set there with here | elsewhere
    · rw [here.2] at member
      rw [here.1]
      exact ⟨call, present, same.responses response member⟩
    · exact ⟨other, elsewhere.2, member⟩
  have inside := (List.getElem?_eq_some_iff.mp present).1
  constructor
  · intro j other there response member
    rcases calls_set there with here | elsewhere
    · rw [here.2] at member ⊢
      rw [same.reqId]
      exact correlated.own i call present response (same.responses response member)
    · exact correlated.own j other elsewhere.2 response member
  · intro j k first second one two
    exact correlated.apart j k first second (handed j first one) (handed k second two)
  · intro response waiter holding
    obtain ⟨old, ⟨waiting, waits, named⟩, new⟩ := correlated.held response waiter holding
    refine ⟨old, ?_, fun j other got => new j other (handed j other got)⟩
    by_cases here : waiter = i
    · subst here
      rw [present] at waits
      rw [← Option.some.inj waits, ← same.reqId] at named
      exact ⟨moved, List.getElem?_set_self inside, named⟩
    · have differs : i ≠ waiter := fun equal => here equal.symm
      exact ⟨waiting, (List.getElem?_set_ne differs).trans waits, named⟩

/-- The response that is handed over is a new one, and is its owner's. -/
theorem Correlated.delivered {c : Client} (correlated : c.Correlated) {response : Response}
    {waiter : Nat} {call : Call} (holding : c.reader = .holding response waiter)
    (present : c.calls[waiter]? = some call) :
    Correlated { c with
      reader := .reading, calls := c.calls.set waiter (call.accept response) } := by
  have spec := Call.accept_spec call response
  obtain ⟨old, ⟨waiting, waits, named⟩, new⟩ := correlated.held response waiter holding
  rw [present] at waits
  rw [← Option.some.inj waits] at named
  have handed : ∀ j other, Handed { c with
      reader := .reading, calls := c.calls.set waiter (call.accept response) } j other →
      c.Handed j other ∨ (j = waiter ∧ other = response) := by
    intro j other got
    obtain ⟨owner, there, member⟩ := got
    rcases calls_set there with here | elsewhere
    · rw [here.2] at member
      rcases spec.2.2.2 other member with before | arrived
      · exact .inl ⟨call, here.1 ▸ present, before⟩
      · exact .inr ⟨here.1, arrived⟩
    · exact .inl ⟨owner, elsewhere.2, member⟩
  constructor
  · intro j other there answer member
    rcases calls_set there with here | elsewhere
    · rw [here.2] at member ⊢
      rw [spec.2.1]
      rcases spec.2.2.2 answer member with before | arrived
      · exact correlated.own waiter call present answer before
      · rw [arrived]
        exact ⟨old, named⟩
    · exact correlated.own j other elsewhere.2 answer member
  · intro j k first second one two same
    rcases handed j first one with before | arrived
    · rcases handed k second two with before' | arrived'
      · exact correlated.apart j k first second before before' same
      · rw [arrived'.2] at same
        exact absurd same (new j first before)
    · rcases handed k second two with before' | arrived'
      · rw [arrived.2] at same
        exact absurd same.symm (new k second before')
      · exact arrived.1.trans arrived'.1.symm
  · intro other waiter' holding'
    cases holding'

theorem Correlated.step {c next : Client} (steps : c.Steps next) (owned : c.Owned)
    (correlated : c.Correlated) : next.Correlated := by
  cases steps with
  | begins op =>
      have handed : ∀ j response, Handed { c with
          nextReqId := (c.nextReqId + 1) % u32Bound
          calls := c.calls ++ [⟨op, c.nextReqId, .minted, []⟩] } j response →
          c.Handed j response := by
        intro j response got
        obtain ⟨other, there, member⟩ := got
        rcases calls_append there with last | old
        · rw [last.2] at member
          exact absurd member List.not_mem_nil
        · exact ⟨other, old, member⟩
      constructor
      · intro j other there response member
        rcases calls_append there with last | old
        · rw [last.2] at member
          exact absurd member List.not_mem_nil
        · exact correlated.own j other old response member
      · intro j k first second one two
        exact correlated.apart j k first second (handed j first one) (handed k second two)
      · intro response waiter holding
        obtain ⟨old, ⟨waiting, waits, named⟩, new⟩ := correlated.held response waiter holding
        have inside := (List.getElem?_eq_some_iff.mp waits).1
        exact ⟨old, ⟨waiting, (List.getElem?_append_left inside).trans waits, named⟩,
          fun j other got => new j other (handed j other got)⟩
  | registers present went => exact correlated.set present (Call.register_spec went).1 _
  | stays present same before after => exact correlated.set present same _
  | receives present went => exact correlated.set present (Call.receive_spec went).1 _
  | removes present went => exact correlated.set present (Call.remove_spec went).1 _
  | @takes reqId waiter result reading registered =>
      obtain ⟨waiting, waits, named, rest⟩ := owned.owners reqId waiter registered
      constructor
      · intro j other there response member
        have old := correlated.own j other there response member
        exact ⟨Nat.lt_succ_of_lt old.1, old.2⟩
      · exact correlated.apart
      · intro response other holding
        injection holding with taken same
        subst taken same
        refine ⟨Nat.lt_succ_self _, ⟨waiting, waits, named.symm⟩, ?_⟩
        intro j earlier got
        obtain ⟨owner, there, member⟩ := got
        have old := (correlated.own j owner there earlier member).1
        show earlier.ticket ≠ c.read
        omega
  | idles reader more idle =>
      constructor
      · intro j other there response member
        have old := correlated.own j other there response member
        exact ⟨Nat.lt_of_lt_of_le old.1 (Nat.le_add_right _ _), old.2⟩
      · exact correlated.apart
      · intro response waiter holding
        exact absurd holding (idle response waiter)
  | delivers holding present => exact correlated.delivered holding present

end Invariants

section Runs

/-- What holds of the client at every moment. -/
structure Sound (c : Client) : Prop where
  numbered : c.Numbered
  owned : c.Owned
  correlated : c.Correlated
  truthful : c.Truthful

theorem start_sound : start.Sound where
  numbered := ⟨rfl, fun i call present => by cases present⟩
  owned := by
    constructor
    · intro reqId i entry
      rw [start, AList.lookup_empty] at entry
      cases entry
    · intro i call present
      cases present
  correlated := by
    constructor
    · intro i call present
      cases present
    · intro i j first second got
      obtain ⟨call, present, rest⟩ := got
      cases present
    · intro response waiter holding
      cases holding
  truthful := fun i call present => by cases present

theorem Sound.step {c next : Client} {event : Event} (taken : c.step event = some next)
    (sound : c.Sound) : next.Sound where
  numbered := sound.numbered.step (step_cases taken)
  owned := sound.owned.step (step_cases taken) sound.correlated
  correlated := sound.correlated.step (step_cases taken) sound.owned
  truthful := sound.truthful.step (step_cases taken)

theorem sound_of_run {events : List Event} {c : Client}
    (ran : Run.exec step start events = some c) : c.Sound :=
  Run.exec_invariant (fun _ _ _ taken sound => sound.step taken) ran start_sound

/-- Two calls with one id are a whole turn of the counter apart. -/
theorem Numbered.apart {c : Client} (numbered : c.Numbered) {i j : Nat} {first second : Call}
    (one : c.calls[i]? = some first) (two : c.calls[j]? = some second)
    (same : first.reqId = second.reqId) (differ : i ≠ j) :
    i + u32Bound ≤ j ∨ j + u32Bound ≤ i := by
  rw [numbered.reqIds i first one, numbered.reqIds j second two] at same
  simp only [u32Bound] at same ⊢
  omega

/-- Over every run of callers and reader thread: a call returns only a response with its own
id, no response goes to two calls, and what is registered under the id of a call that has
returned belongs to a call in progress that drew the id a whole turn of the counter apart;
where all calls have returned, nothing is registered. -/
theorem rpc_correlated {events : List Event} {c : Client}
    (ran : Run.exec step start events = some c) :
    (∀ (i : Nat) (call : Call) (outcome : Except RpcError ResponsePayload) (response : Response),
      c.calls[i]? = some call → call.phase = .returned outcome (some response) →
        response.reqId = call.reqId ∧ outcome = rpcResult call.op response.result) ∧
    (∀ (i : Nat) (call : Call) (outcome : Except RpcError ResponsePayload),
      c.calls[i]? = some call → call.phase = .returned outcome none →
        outcome = .error .timeout ∨ ∃ e, outcome = .error (.send e)) ∧
    (∀ (i j : Nat) (first second : Response), c.Handed i first → c.Handed j second →
      first.ticket = second.ticket → i = j) ∧
    (∀ (i owner : Nat) (call : Call), c.calls[i]? = some call → call.phase.isReturned = true →
      c.inflight.lookup call.reqId = some owner →
        (∃ other, c.calls[owner]? = some other ∧ other.phase.isReturned = false) ∧
          (i + u32Bound ≤ owner ∨ owner + u32Bound ≤ i)) ∧
    ((∀ call ∈ c.calls, call.phase.isReturned = true) → c.inflight = ∅) := by
  have sound := sound_of_run ran
  refine ⟨?answers, ?errors, sound.correlated.apart, ?entries, ?quiet⟩
  case answers =>
    intro i call outcome response present returned
    have member : response ∈ call.responses := by
      simp [Call.responses, returned]
    exact ⟨(sound.correlated.own i call present response member).2,
      sound.truthful i call present outcome (some response) returned⟩
  case errors =>
    intro i call outcome present returned
    exact sound.truthful i call present outcome none returned
  case entries =>
    intro i owner call present returned entry
    obtain ⟨other, there, named, running, rest⟩ := sound.owned.owners call.reqId owner entry
    refine ⟨⟨other, there, CallPhase.isReturned_of_isOpen running⟩, ?_⟩
    apply sound.numbered.apart present there named.symm
    intro same
    rw [← same, present] at there
    rw [← Option.some.inj there] at running
    rw [CallPhase.isReturned_of_isOpen running] at returned
    cases returned
  case quiet =>
    intro all
    apply AList.ext
    show c.inflight.entries = []
    rw [List.eq_nil_iff_forall_not_mem]
    intro entry member
    have registered := (KeyMap.mem_entries_iff c.inflight entry.1 entry.2).mp member
    obtain ⟨other, there, named, running, rest⟩ := sound.owned.owners entry.1 entry.2 registered
    have returned := all other (List.mem_of_getElem? there)
    rw [CallPhase.isReturned_of_isOpen running] at returned
    cases returned

/-- The first caller gives up while its answer arrives, and the answer comes twice. -/
def lateAnswer : List Event :=
  [.call .listAlerts, .register 0, .write 0 none, .call .getHardware, .register 1,
    .write 1 none, .expire 0, .read (.response 1 (.ok (.alertList []))), .deliver, .remove 0,
    .read (.response 1 (.ok (.alertList []))), .read (.response 2 (.ok (.hardware [] ∅))),
    .deliver, .receive 1]

theorem rpc_correlated_late : ∃ c, Run.exec step start lateAnswer = some c ∧
    c.calls.all (fun call => call.phase.isReturned) = true ∧ c.inflight = ∅ := by
  have ran : (Run.exec step start lateAnswer).isSome = true := by decide +kernel
  have all : (Run.exec step start lateAnswer).map
      (fun c => c.calls.all fun call => call.phase.isReturned) = some true := by decide +kernel
  obtain ⟨c, reached⟩ := Option.isSome_iff_exists.mp ran
  rw [reached] at all
  have returned := Option.some.inj all
  exact ⟨c, reached, returned,
    (rpc_correlated reached).2.2.2.2 (List.all_eq_true.mp returned)⟩

end Runs

end Client

end LinSight.Gui
