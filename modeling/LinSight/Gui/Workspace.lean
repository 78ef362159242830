import LinSight.Library.Run
import LinSight.Core.Types

set_option autoImplicit false

/-! The workspace of the desktop client: the subscriptions that it keeps, the client that it
talks to, and the reconnects that replace this client. -/

namespace LinSight.Gui

/-- Push every sensor that is not in the list yet. -/
def pushNew (list sensors : List SensorId) : List SensorId :=
  sensors.foldl (fun list s => if s ∈ list then list else list ++ [s]) list

/-- A `Subscribe` frame where `wanted`, else an `Unsubscribe` frame. -/
structure Frame where
  wanted : Bool
  sensors : List SensorId

/-- The daemon's side of a client: the sensors it offers and those subscribed. -/
structure Connection where
  offers : List SensorId
  held : List SensorId

/-- The daemon rejects what it does not offer. -/
def Connection.receive (connection : Connection) (frame : Frame) : Connection :=
  { connection with
    held :=
      if frame.wanted then
        pushNew connection.held (frame.sensors.filter fun s => decide (s ∈ connection.offers))
      else connection.held.filter fun s => decide (s ∉ frame.sensors) }

/-- Where a call on the workspace stands: before `self.client()`, before the send on the
client it got, or before the second update of the list; `next` is that second update. -/
inductive Stage where
  | owing (frame : Frame) (next : Option (List SensorId))
  | sending (client : Nat) (frame : Frame) (next : Option (List SensorId))
  | storing (sensors : List SensorId)

/-- A reconnect between its snapshot of the list and the swap. -/
structure Reconnect where
  client : Nat
  snapshot : List SensorId
  replayed : Bool

structure Workspace where
  subscriptions : List SensorId
  /-- By client, the first `connected` of which have been made. -/
  connections : Nat → Connection
  connected : Nat
  client : Nat
  connectionGeneration : Nat
  /-- By thread. -/
  calls : Nat → Option Stage
  reconnecting : Option Reconnect

namespace Workspace

def start (offers : List SensorId) : Workspace where
  subscriptions := []
  connections := fun _ => ⟨offers, []⟩
  connected := 1
  client := 0
  connectionGeneration := 1
  calls := fun _ => none
  reconnecting := none

def goOn (w : Workspace) (thread : Nat) (stage : Option Stage) : Workspace :=
  { w with calls := Function.update w.calls thread stage }

def transmit (w : Workspace) (client : Nat) (frame : Frame) : Workspace :=
  { w with
    connections := Function.update w.connections client ((w.connections client).receive frame) }

/-- Up to the end of the locked update of the list. -/
def subscribe (w : Workspace) (thread : Nat) (sensors : List SensorId) : Workspace :=
  if sensors.isEmpty then w
  else { w with subscriptions := pushNew w.subscriptions sensors }.goOn thread
    (some (.owing ⟨true, sensors⟩ none))

def unsubscribe (w : Workspace) (thread : Nat) (sensors : List SensorId) : Workspace :=
  if sensors.isEmpty then w
  else { w with
    subscriptions := w.subscriptions.filter fun s => decide (s ∉ sensors) }.goOn thread
      (some (.owing ⟨false, sensors⟩ none))

/-- Up to the end of the first of its two locked updates. -/
def replaceSubscriptions (w : Workspace) (thread : Nat) (sensors : List SensorId) : Workspace :=
  let old := w.subscriptions
  let next := if sensors.isEmpty then none else some sensors
  { w with subscriptions := [] }.goOn thread
    (if old.isEmpty then next.map .storing else some (.owing ⟨false, old⟩ next))

inductive Event where
  | subscribe (thread : Nat) (sensors : List SensorId)
  | unsubscribe (thread : Nat) (sensors : List SensorId)
  | replaceSubscriptions (thread : Nat) (sensors : List SensorId)
  | fetch (thread : Nat)
  | send (thread : Nat)
  | store (thread : Nat)
  | snapshot (offers : List SensorId)
  | replay
  | swap
  | abort

/-- A reconnect takes its snapshot with a client that is connected by then, and gives up
where the new daemon does not accept the pump interval. -/
def step (w : Workspace) : Event → Option Workspace
  | .subscribe thread sensors =>
      Run.enabled ((w.calls thread).isNone = true) (w.subscribe thread sensors)
  | .unsubscribe thread sensors =>
      Run.enabled ((w.calls thread).isNone = true) (w.unsubscribe thread sensors)
  | .replaceSubscriptions thread sensors =>
      Run.enabled ((w.calls thread).isNone = true) (w.replaceSubscriptions thread sensors)
  | .fetch thread =>
      match w.calls thread with
      | some (.owing frame next) => some (w.goOn thread (some (.sending w.client frame next)))
      | _ => none
  | .send thread =>
      match w.calls thread with
      | some (.sending client frame next) =>
          some ((w.transmit client frame).goOn thread (next.map .storing))
      | _ => none
  | .store thread =>
      match w.calls thread with
      | some (.storing sensors) =>
          some ({ w with subscriptions := sensors }.goOn thread
            (some (.owing ⟨true, sensors⟩ none)))
      | _ => none
  | .snapshot offers =>
      match w.reconnecting with
      | none => some { w with
          connections := Function.update w.connections w.connected ⟨offers, []⟩
          connected := w.connected + 1
          reconnecting := some ⟨w.connected, w.subscriptions, false⟩ }
      | some _ => none
  | .replay =>
      match w.reconnecting with
      | some ⟨client, snapshot, false⟩ =>
          some { (if snapshot.isEmpty then w else w.transmit client ⟨true, snapshot⟩) with
            reconnecting := some ⟨client, snapshot, true⟩ }
      | _ => none
  | .swap =>
      match w.reconnecting with
      | some ⟨client, _, true⟩ => some { w with
          client := client
          connectionGeneration := w.connectionGeneration + 1
          reconnecting := none }
      | _ => none
  | .abort =>
      match w.reconnecting with
      | some _ => some { w with reconnecting := none }
      | none => none

/-- The connection of the current client. -/
def connection (w : Workspace) : Connection := w.connections w.client

end Workspace

section Lists

theorem mem_pushNew {list sensors : List SensorId} {s : SensorId} :
    s ∈ pushNew list sensors ↔ s ∈ list ∨ s ∈ sensors := by
  induction sensors generalizing list with
  | nil => simp [pushNew]
  | cons first rest ih =>
      have unfolded : pushNew list (first :: rest) =
          pushNew (if first ∈ list then list else list ++ [first]) rest := rfl
      rw [unfolded, ih]
      split
      · rename_i known
        simp only [List.mem_cons]
        constructor
        · intro member
          exact member.imp_right .inr
        · intro member
          rcases member with old | rfl | later
          · exact .inl old
          · exact .inl known
          · exact .inr later
      · simp only [List.mem_append, List.mem_cons, or_assoc, List.not_mem_nil, or_false]

theorem nodup_pushNew {list : List SensorId} (sensors : List SensorId) (distinct : list.Nodup) :
    (pushNew list sensors).Nodup := by
  induction sensors generalizing list with
  | nil => exact distinct
  | cons first rest ih =>
      apply ih
      show (if first ∈ list then list else list ++ [first]).Nodup
      split
      · exact distinct
      · rename_i fresh
        rw [List.nodup_append]
        refine ⟨distinct, List.nodup_singleton first, ?_⟩
        intro old member new single same
        rw [List.mem_singleton] at single
        exact fresh (single ▸ same ▸ member)

theorem Connection.mem_receive {connection : Connection} {frame : Frame} {s : SensorId} :
    s ∈ (connection.receive frame).held ↔
      if frame.wanted then s ∈ connection.held ∨ (s ∈ frame.sensors ∧ s ∈ connection.offers)
      else s ∈ connection.held ∧ s ∉ frame.sensors := by
  unfold receive
  split
  · simp only [mem_pushNew, List.mem_filter, decide_eq_true_eq]
  · simp only [List.mem_filter, decide_eq_true_eq]

end Lists

namespace Workspace

/-- What each step finds and what it leaves. -/
inductive Stepped (w : Workspace) : Event → Workspace → Prop where
  | subscribe (thread : Nat) (sensors : List SensorId) (idle : (w.calls thread).isNone = true) :
      Stepped w (.subscribe thread sensors) (w.subscribe thread sensors)
  | unsubscribe (thread : Nat) (sensors : List SensorId) (idle : (w.calls thread).isNone = true) :
      Stepped w (.unsubscribe thread sensors) (w.unsubscribe thread sensors)
  | replaceSubscriptions (thread : Nat) (sensors : List SensorId)
      (idle : (w.calls thread).isNone = true) :
      Stepped w (.replaceSubscriptions thread sensors) (w.replaceSubscriptions thread sensors)
  | fetch (thread : Nat) (frame : Frame) (later : Option (List SensorId))
      (stands : w.calls thread = some (.owing frame later)) :
      Stepped w (.fetch thread) (w.goOn thread (some (.sending w.client frame later)))
  | send (thread client : Nat) (frame : Frame) (later : Option (List SensorId))
      (stands : w.calls thread = some (.sending client frame later)) :
      Stepped w (.send thread) ((w.transmit client frame).goOn thread (later.map .storing))
  | store (thread : Nat) (sensors : List SensorId)
      (stands : w.calls thread = some (.storing sensors)) :
      Stepped w (.store thread) ({ w with subscriptions := sensors }.goOn thread
        (some (.owing ⟨true, sensors⟩ none)))
  | snapshot (offers : List SensorId) (free : w.reconnecting = none) :
      Stepped w (.snapshot offers) { w with
        connections := Function.update w.connections w.connected ⟨offers, []⟩
        connected := w.connected + 1
        reconnecting := some ⟨w.connected, w.subscriptions, false⟩ }
  | replay (client : Nat) (snapshot : List SensorId)
      (going : w.reconnecting = some ⟨client, snapshot, false⟩) :
      Stepped w .replay { (if snapshot.isEmpty then w else w.transmit client ⟨true, snapshot⟩) with
        reconnecting := some ⟨client, snapshot, true⟩ }
  | swap (client : Nat) (snapshot : List SensorId)
      (going : w.reconnecting = some ⟨client, snapshot, true⟩) :
      Stepped w .swap { w with
        client := client
        connectionGeneration := w.connectionGeneration + 1
        reconnecting := none }
  | abort (reconnect : Reconnect) (going : w.reconnecting = some reconnect) :
      Stepped w .abort { w with reconnecting := none }

theorem stepped {w next : Workspace} {event : Event} (taken : w.step event = some next) :
    w.Stepped event next := by
  cases event with
  | subscribe thread sensors =>
      obtain ⟨idle, same⟩ := Run.enabled_eq_some.mp taken
      exact same ▸ .subscribe thread sensors idle
  | unsubscribe thread sensors =>
      obtain ⟨idle, same⟩ := Run.enabled_eq_some.mp taken
      exact same ▸ .unsubscribe thread sensors idle
  | replaceSubscriptions thread sensors =>
      obtain ⟨idle, same⟩ := Run.enabled_eq_some.mp taken
      exact same ▸ .replaceSubscriptions thread sensors idle
  | fetch | send | store | snapshot | replay | swap | abort =>
      simp only [step] at taken
      split at taken
      · rename_i found
        cases taken
        constructor
        exact found
      · cases taken

section Conditions

/-- The call of the thread has not fetched its client and will send the frame. -/
def Unfetched (w : Workspace) (thread : Nat) (frame : Frame) : Prop :=
  ∃ next, w.calls thread = some (.owing frame next)

/-- The frame of the thread's call will still go to the current client. -/
def Live (w : Workspace) (thread : Nat) (frame : Frame) : Prop :=
  w.Unfetched thread frame ∨ ∃ next, w.calls thread = some (.sending w.client frame next)

/-- The frame says of the sensor what the list says. -/
def Tells (w : Workspace) (frame : Frame) (s : SensorId) : Prop :=
  s ∈ frame.sensors ∧ (frame.wanted = true ↔ s ∈ w.subscriptions)

/-- The step leaves no sensor for which neither the current daemon has what the list says
nor a call is about to tell it so: what a frame tells the current daemon of a sensor, what a
replay has told the new one, and what a replaced list leaves out must agree with the list,
or another call still sends that. -/
def Undisturbed (w : Workspace) : Event → Prop
  | .send thread => ∀ frame next, w.calls thread = some (.sending w.client frame next) →
      ∀ s ∈ frame.sensors,
        ((frame.wanted = true ∧ s ∈ w.connection.offers) ↔ s ∈ w.subscriptions) ∨
          ∃ other later, other ≠ thread ∧ w.Live other later ∧ w.Tells later s
  | .store thread => ∀ sensors, w.calls thread = some (.storing sensors) →
      sensors.Nodup ∧ ∀ s ∈ w.subscriptions, s ∉ sensors → s ∉ w.connection.held ∨
        ∃ other later, w.Live other later ∧ s ∈ later.sensors ∧ later.wanted = false
  | .swap => ∀ reconnect, w.reconnecting = some reconnect → ∀ s,
      ((s ∈ reconnect.snapshot ∧ s ∈ (w.connections reconnect.client).offers) ↔
        s ∈ w.subscriptions) ∨
          ∃ other later, w.Unfetched other later ∧ w.Tells later s
  | _ => True

/-- For each sensor the current daemon has what the list says, or a call is about to tell it
so. -/
def Agrees (w : Workspace) (s : SensorId) : Prop :=
  (s ∈ w.connection.held ↔ s ∈ w.subscriptions) ∨
    ∃ thread frame, w.Live thread frame ∧ w.Tells frame s

structure Matching (w : Workspace) : Prop where
  distinct : w.subscriptions.Nodup
  agrees : ∀ s, w.Agrees s

/-- Clients are fresh, and a replay is what its snapshot told. -/
structure Orderly (w : Workspace) : Prop where
  offered : ∀ client, ∀ s ∈ (w.connections client).held, s ∈ (w.connections client).offers
  current : w.client < w.connected
  sending : ∀ thread client frame next, w.calls thread = some (.sending client frame next) →
    client < w.connected ∧ ∀ reconnect, w.reconnecting = some reconnect → client ≠ reconnect.client
  reconnecting : ∀ reconnect, w.reconnecting = some reconnect →
    reconnect.client < w.connected ∧ reconnect.client ≠ w.client ∧
      ∀ s, s ∈ (w.connections reconnect.client).held ↔
        reconnect.replayed = true ∧ s ∈ reconnect.snapshot ∧
          s ∈ (w.connections reconnect.client).offers

end Conditions

section Steps

variable {w : Workspace} {thread : Nat}

@[simp] theorem goOn_calls (stage : Option Stage) :
    (w.goOn thread stage).calls = Function.update w.calls thread stage := rfl

@[simp] theorem goOn_subscriptions (stage : Option Stage) :
    (w.goOn thread stage).subscriptions = w.subscriptions := rfl

@[simp] theorem goOn_connection (stage : Option Stage) :
    (w.goOn thread stage).connection = w.connection := rfl

@[simp] theorem goOn_client (stage : Option Stage) :
    (w.goOn thread stage).client = w.client := rfl

/-- A call of another thread goes on as before. -/
theorem live_goOn {other : Nat} {frame : Frame} {stage : Option Stage} (differ : other ≠ thread)
    (live : w.Live other frame) : (w.goOn thread stage).Live other frame := by
  unfold Live Unfetched at *
  simp only [goOn_calls, goOn_client, Function.update_of_ne differ]
  exact live

@[simp] theorem offers_transmit (client : Nat) (frame : Frame) (k : Nat) :
    ((w.transmit client frame).connections k).offers = (w.connections k).offers := by
  unfold transmit
  by_cases same : k = client
  · subst same
    simp only [Function.update_self, Connection.receive]
  · simp only [Function.update_of_ne same]

theorem mem_held_transmit {client : Nat} {frame : Frame} {s : SensorId} :
    s ∈ ((w.transmit client frame).connections client).held ↔
      if frame.wanted then s ∈ (w.connections client).held ∨
        (s ∈ frame.sensors ∧ s ∈ (w.connections client).offers)
      else s ∈ (w.connections client).held ∧ s ∉ frame.sensors := by
  simp only [transmit, Function.update_self, Connection.mem_receive]

theorem connections_transmit_of_ne {client k : Nat} (frame : Frame) (differ : k ≠ client) :
    (w.transmit client frame).connections k = w.connections k :=
  Function.update_of_ne differ _ _

end Steps

section Order

variable {w next : Workspace}

theorem Orderly.goOn (orderly : w.Orderly) (thread : Nat) {stage : Option Stage}
    (current : ∀ client frame later, stage = some (.sending client frame later) →
      client = w.client) : (w.goOn thread stage).Orderly where
  offered := orderly.offered
  current := orderly.current
  sending := by
    intro other client frame later stands
    by_cases same : other = thread
    · rw [goOn_calls, same, Function.update_self] at stands
      rw [current client frame later stands]
      refine ⟨orderly.current, ?_⟩
      intro reconnect going
      exact (orderly.reconnecting reconnect going).2.1.symm
    · rw [goOn_calls, Function.update_of_ne same] at stands
      exact orderly.sending other client frame later stands
  reconnecting := orderly.reconnecting

theorem Orderly.withSubscriptions (orderly : w.Orderly) (subscriptions : List SensorId) :
    Orderly { w with subscriptions := subscriptions } :=
  ⟨orderly.offered, orderly.current, orderly.sending, orderly.reconnecting⟩

theorem offered_transmit (orderly : w.Orderly) (client : Nat) (frame : Frame) :
    ∀ k, ∀ s ∈ ((w.transmit client frame).connections k).held,
      s ∈ ((w.transmit client frame).connections k).offers := by
  intro k s member
  rw [offers_transmit]
  by_cases same : k = client
  · subst same
    rw [mem_held_transmit] at member
    split at member
    · rcases member with old | new
      · exact orderly.offered k s old
      · exact new.2
    · exact orderly.offered k s member.1
  · rw [connections_transmit_of_ne frame same] at member
    exact orderly.offered k s member

/-- A frame to a client that no reconnect is preparing. -/
theorem Orderly.transmit (orderly : w.Orderly) {client : Nat} (frame : Frame)
    (used : ∀ reconnect, w.reconnecting = some reconnect → client ≠ reconnect.client) :
    (w.transmit client frame).Orderly where
  offered := offered_transmit orderly client frame
  current := orderly.current
  sending := orderly.sending
  reconnecting := by
    intro reconnect going
    have kept := connections_transmit_of_ne (w := w) frame (used reconnect going).symm
    rw [kept]
    exact orderly.reconnecting reconnect going

/-- A reconnect that has ended, with whatever client is the current one. -/
theorem Orderly.settled (orderly : w.Orderly) {client : Nat} (old : client < w.connected)
    (generation : Nat) : Orderly { w with
      client := client
      connectionGeneration := generation
      reconnecting := none } where
  offered := orderly.offered
  current := old
  sending := by
    intro thread k frame later stands
    refine ⟨(orderly.sending thread k frame later stands).1, ?_⟩
    intro reconnect same
    cases same
  reconnecting := by
    intro reconnect same
    cases same

/-- The replay of a snapshot, which a fresh client takes in whole. -/
theorem Orderly.replayed (orderly : w.Orderly) {client : Nat} {snapshot : List SensorId}
    (going : w.reconnecting = some ⟨client, snapshot, false⟩) :
    Orderly { (if snapshot.isEmpty then w else w.transmit client ⟨true, snapshot⟩) with
      reconnecting := some ⟨client, snapshot, true⟩ } := by
  obtain ⟨old, other, held⟩ := orderly.reconnecting _ going
  have empty : ∀ s, s ∉ (w.connections client).held := by
    intro s member
    have replayed := ((held s).mp member).1
    cases replayed
  split
  · rename_i nothing
    constructor
    · exact orderly.offered
    · exact orderly.current
    · intro thread k frame later stands
      have sends := orderly.sending thread k frame later stands
      refine ⟨sends.1, ?_⟩
      intro reconnect same
      cases same
      exact sends.2 ⟨client, snapshot, false⟩ going
    · intro reconnect same
      cases same
      refine ⟨old, other, ?_⟩
      intro s
      simp only [empty s, false_iff, true_and, List.isEmpty_iff.mp nothing]
      simp
  · constructor
    · exact offered_transmit orderly client ⟨true, snapshot⟩
    · exact orderly.current
    · intro thread k frame later stands
      have sends := orderly.sending thread k frame later stands
      refine ⟨sends.1, ?_⟩
      intro reconnect same
      cases same
      exact sends.2 ⟨client, snapshot, false⟩ going
    · intro reconnect same
      cases same
      refine ⟨old, other, ?_⟩
      intro s
      have received := @mem_held_transmit w client ⟨true, snapshot⟩ s
      simp only [if_true, empty s, false_or] at received
      rw [offers_transmit]
      simp only [true_and]
      exact received

theorem Orderly.step {event : Event} (taken : w.step event = some next)
    (orderly : w.Orderly) : next.Orderly := by
  cases stepped taken with
  | subscribe thread sensors idle =>
      unfold subscribe
      split
      · exact orderly
      · exact (orderly.withSubscriptions _).goOn thread (fun _ _ _ same => by cases same)
  | unsubscribe thread sensors idle =>
      unfold unsubscribe
      split
      · exact orderly
      · exact (orderly.withSubscriptions _).goOn thread (fun _ _ _ same => by cases same)
  | replaceSubscriptions thread sensors idle =>
      apply (orderly.withSubscriptions []).goOn thread
      intro client frame later stands
      split at stands
      · obtain ⟨stored, there, same⟩ := Option.map_eq_some_iff.mp stands
        cases same
      · cases stands
  | fetch thread frame later stands =>
      apply orderly.goOn thread
      intro client frame later same
      cases same
      rfl
  | send thread client frame later stands =>
      have used := (orderly.sending thread client frame later stands).2
      apply (orderly.transmit frame used).goOn thread
      intro client frame' later' same
      obtain ⟨stored, there, same⟩ := Option.map_eq_some_iff.mp same
      cases same
  | store thread sensors stands =>
      exact (orderly.withSubscriptions _).goOn thread (fun _ _ _ same => by cases same)
  | snapshot offers free =>
      constructor
      · intro k s member
        by_cases same : k = w.connected
        · subst same
          simp only [Function.update_self, List.not_mem_nil] at member
        · simp only [Function.update_of_ne same] at member ⊢
          exact orderly.offered k s member
      · exact Nat.lt_succ_of_lt orderly.current
      · intro thread client frame later stands
        have old := (orderly.sending thread client frame later stands).1
        refine ⟨Nat.lt_succ_of_lt old, ?_⟩
        intro reconnect going
        cases going
        exact Nat.ne_of_lt old
      · intro reconnect going
        cases going
        refine ⟨Nat.lt_succ_self _, (Nat.ne_of_lt orderly.current).symm, ?_⟩
        intro s
        simp
  | replay client snapshot going => exact orderly.replayed going
  | swap client snapshot going => exact orderly.settled (orderly.reconnecting _ going).1 _
  | abort reconnect going => exact orderly.settled orderly.current _

end Order

section Match

variable {w next : Workspace}

/-- Another call's frame that says what the list says. -/
theorem Agrees.of_other {thread : Nat} {stage : Option Stage} {s : SensorId}
    (agrees : w.Agrees s) (silent : ∀ frame, w.Live thread frame → ¬ w.Tells frame s) :
    (w.goOn thread stage).Agrees s := by
  rcases agrees with same | ⟨other, frame, live, told⟩
  · exact .inl same
  · have differ : other ≠ thread := by
      intro here
      exact silent frame (here ▸ live) told
    exact .inr ⟨other, frame, live_goOn differ live, told⟩

theorem not_live_of_isNone {thread : Nat} (idle : (w.calls thread).isNone = true)
    (frame : Frame) : ¬ w.Live thread frame := by
  intro live
  unfold Live Unfetched at live
  rw [Option.isNone_iff_eq_none.mp idle] at live
  simp at live

theorem live_of_sending {thread client : Nat} {frame other : Frame} {later : Option (List SensorId)}
    (stands : w.calls thread = some (.sending client frame later)) (live : w.Live thread other) :
    other = frame ∧ client = w.client := by
  unfold Live Unfetched at live
  rw [stands] at live
  simp only [Option.some.injEq, reduceCtorEq, exists_false, false_or, Stage.sending.injEq] at live
  obtain ⟨_, current, same, _⟩ := live
  exact ⟨same.symm, current⟩

/-- A frame that has just been owed. -/
theorem live_goOn_self (thread : Nat) (frame : Frame) (later : Option (List SensorId)) :
    (w.goOn thread (some (.owing frame later))).Live thread frame :=
  .inl ⟨later, Function.update_self _ _ _⟩

/-- A change of the list that a fresh frame makes up for. -/
theorem Matching.update {subscriptions : List SensorId} {thread : Nat} {frame : Frame}
    {later : Option (List SensorId)} (matching : w.Matching) (idle : (w.calls thread).isNone = true)
    (distinct : subscriptions.Nodup)
    (changed : ∀ s ∈ frame.sensors, frame.wanted = true ↔ s ∈ subscriptions)
    (kept : ∀ s, s ∉ frame.sensors → (s ∈ subscriptions ↔ s ∈ w.subscriptions)) :
    Matching ({ w with subscriptions := subscriptions }.goOn thread
      (some (.owing frame later))) where
  distinct := distinct
  agrees := by
    intro s
    by_cases inside : s ∈ frame.sensors
    · exact .inr ⟨thread, frame, live_goOn_self thread frame later, inside, changed s inside⟩
    · have agrees : ({ w with subscriptions := subscriptions } : Workspace).Agrees s := by
        rcases matching.agrees s with same | ⟨other, old, live, told⟩
        · exact .inl (same.trans (kept s inside).symm)
        · exact .inr ⟨other, old, live, told.1, told.2.trans (kept s inside).symm⟩
      apply agrees.of_other
      intro old live
      have dead := not_live_of_isNone (w := { w with subscriptions := subscriptions }) idle old
      exact absurd live dead

theorem Matching.replaced (matching : w.Matching) {thread : Nat}
    (sensors : List SensorId) (idle : (w.calls thread).isNone = true) :
    (w.replaceSubscriptions thread sensors).Matching := by
  unfold replaceSubscriptions
  simp only
  split
  · rename_i nothing
    refine ⟨List.nodup_nil, ?_⟩
    intro s
    have same : w.subscriptions = [] := List.isEmpty_iff.mp nothing
    have agrees : ({ w with subscriptions := [] } : Workspace).Agrees s := by
      rw [← same]
      exact matching.agrees s
    apply agrees.of_other
    intro old live
    exact absurd live (not_live_of_isNone (w := { w with subscriptions := [] }) idle old)
  · apply matching.update idle List.nodup_nil
    · intro s inside
      simp
    · intro s outside
      simp [outside]

theorem Matching.fetched (matching : w.Matching) {thread : Nat} {frame : Frame}
    {later : Option (List SensorId)} (stands : w.calls thread = some (.owing frame later)) :
    (w.goOn thread (some (.sending w.client frame later))).Matching := by
  refine ⟨matching.distinct, ?_⟩
  intro s
  rcases matching.agrees s with same | ⟨other, old, live, told⟩
  · exact .inl same
  · by_cases here : other = thread
    · subst here
      have same : old = frame := by
        rcases live with ⟨next, owes⟩ | ⟨next, sends⟩
        · rw [stands] at owes
          cases owes
          rfl
        · rw [stands] at sends
          cases sends
      subst same
      exact .inr ⟨other, old, .inr ⟨later, Function.update_self _ _ _⟩, told⟩
    · exact .inr ⟨other, old, live_goOn here live, told⟩

/-- The frame of the call reaches the current daemon, which then has what the frame says. -/
theorem Matching.sent_current (matching : w.Matching) (orderly : w.Orderly) {thread : Nat}
    {frame : Frame} {later : Option (List SensorId)} (undisturbed : w.Undisturbed (.send thread))
    (stands : w.calls thread = some (.sending w.client frame later)) (s : SensorId) :
    ((w.transmit w.client frame).goOn thread (later.map .storing)).Agrees s := by
  by_cases inside : s ∈ frame.sensors
  · rcases undisturbed frame later stands s inside with
      same | ⟨other, old, differ, live, told⟩
    · refine .inl (Iff.trans ?_ same)
      show s ∈ ((w.transmit w.client frame).connections w.client).held ↔ _
      rw [mem_held_transmit]
      split
      · rename_i wanted
        simp only [wanted, true_and, inside]
        exact ⟨fun received => received.elim (orderly.offered w.client s) id, .inr⟩
      · rename_i unwanted
        simp [unwanted, inside]
    · exact .inr ⟨other, old, live_goOn differ live, told⟩
  · have agrees : (w.transmit w.client frame).Agrees s := by
      rcases matching.agrees s with same | ⟨other, old, live, told⟩
      · refine .inl (Iff.trans ?_ same)
        show s ∈ ((w.transmit w.client frame).connections w.client).held ↔ _
        rw [mem_held_transmit]
        split <;> simp [inside, connection]
      · exact .inr ⟨other, old, live, told⟩
    apply agrees.of_other
    intro old live told
    rw [(live_of_sending stands live).1] at told
    exact inside told.1

/-- A frame to a client that is no longer the current one changes nothing there. -/
theorem Matching.sent_elsewhere (matching : w.Matching) {thread client : Nat} {frame : Frame}
    {later : Option (List SensorId)} (stands : w.calls thread = some (.sending client frame later))
    (elsewhere : client ≠ w.client) (s : SensorId) :
    ((w.transmit client frame).goOn thread (later.map .storing)).Agrees s := by
  have agrees : (w.transmit client frame).Agrees s := by
    rcases matching.agrees s with same | ⟨other, old, live, told⟩
    · refine .inl (Iff.trans ?_ same)
      show s ∈ ((w.transmit client frame).connections w.client).held ↔ _
      rw [connections_transmit_of_ne frame elsewhere.symm]
      rfl
    · exact .inr ⟨other, old, live, told⟩
  apply agrees.of_other
  intro old live
  exact absurd (live_of_sending stands live).2 elsewhere

theorem Matching.stored (matching : w.Matching) {thread : Nat} {sensors : List SensorId}
    (undisturbed : w.Undisturbed (.store thread))
    (stands : w.calls thread = some (.storing sensors)) :
    ({ w with subscriptions := sensors }.goOn thread
      (some (.owing ⟨true, sensors⟩ none))).Matching := by
  obtain ⟨distinct, left⟩ := undisturbed sensors stands
  refine ⟨distinct, ?_⟩
  intro s
  by_cases inside : s ∈ sensors
  · refine .inr ⟨thread, ⟨true, sensors⟩, live_goOn_self thread _ none, inside, ?_⟩
    simp [inside]
  · have silent : ∀ frame, ¬ w.Live thread frame := by
      intro frame live
      unfold Live Unfetched at live
      rw [stands] at live
      simp at live
    have agrees : ({ w with subscriptions := sensors } : Workspace).Agrees s := by
      by_cases listed : s ∈ w.subscriptions
      · rcases left s listed inside with absent | ⟨other, frame, live, names, unwanted⟩
        · exact .inl ⟨fun held => absurd held absent, fun wanted => absurd wanted inside⟩
        · refine .inr ⟨other, frame, live, names, ?_⟩
          simp [unwanted, inside]
      · rcases matching.agrees s with same | ⟨other, frame, live, told⟩
        · exact .inl ⟨fun held => absurd (same.mp held) listed,
            fun wanted => absurd wanted inside⟩
        · refine .inr ⟨other, frame, live, told.1, ?_⟩
          exact ⟨fun wanted => absurd (told.2.mp wanted) listed,
            fun wanted => absurd wanted inside⟩
    apply agrees.of_other
    intro frame live
    exact absurd live (silent frame)

theorem Matching.step {event : Event} (taken : w.step event = some next) (orderly : w.Orderly)
    (undisturbed : w.Undisturbed event) (matching : w.Matching) : next.Matching := by
  cases stepped taken with
  | subscribe thread sensors idle =>
      unfold subscribe
      split
      · exact matching
      · apply matching.update idle (nodup_pushNew sensors matching.distinct)
        · intro s inside
          simp [mem_pushNew, inside]
        · intro s outside
          simp [mem_pushNew, outside]
  | unsubscribe thread sensors idle =>
      unfold unsubscribe
      split
      · exact matching
      · apply matching.update idle (matching.distinct.filter _)
        · intro s inside
          simp [inside]
        · intro s outside
          simp [outside]
  | replaceSubscriptions thread sensors idle => exact matching.replaced sensors idle
  | fetch thread frame later stands => exact matching.fetched stands
  | send thread client frame later stands =>
      refine ⟨matching.distinct, fun s => ?_⟩
      by_cases current : client = w.client
      · subst current
        exact matching.sent_current orderly undisturbed stands s
      · exact matching.sent_elsewhere stands current s
  | store thread sensors stands => exact matching.stored undisturbed stands
  | snapshot offers free =>
      refine ⟨matching.distinct, ?_⟩
      intro s
      rcases matching.agrees s with same | told
      · refine .inl (Iff.trans ?_ same)
        have old : w.client ≠ w.connected := Nat.ne_of_lt orderly.current
        simp only [connection, Function.update_of_ne old]
      · exact .inr told
  | replay client snapshot going =>
      have differ := (orderly.reconnecting _ going).2.1
      split
      · exact ⟨matching.distinct, matching.agrees⟩
      · refine ⟨matching.distinct, ?_⟩
        intro s
        rcases matching.agrees s with same | told
        · refine .inl (Iff.trans ?_ same)
          show s ∈ ((w.transmit client ⟨true, snapshot⟩).connections w.client).held ↔ _
          rw [connections_transmit_of_ne _ differ.symm]
          rfl
        · exact .inr told
  | swap client snapshot going =>
      refine ⟨matching.distinct, ?_⟩
      intro s
      rcases undisturbed _ going s with same | ⟨other, frame, unfetched, told⟩
      · refine .inl (Iff.trans ?_ same)
        have replayed := (orderly.reconnecting _ going).2.2 s
        simp only [true_and] at replayed
        exact replayed
      · exact .inr ⟨other, frame, .inl unfetched, told⟩
  | abort reconnect going =>
      exact ⟨matching.distinct, matching.agrees⟩

end Match

section Runs

theorem start_orderly (offers : List SensorId) : (start offers).Orderly where
  offered := fun _ _ member => absurd member List.not_mem_nil
  current := Nat.one_pos
  sending := fun _ _ _ _ stands => by cases stands
  reconnecting := fun _ going => by cases going

theorem start_matching (offers : List SensorId) : (start offers).Matching where
  distinct := List.nodup_nil
  agrees := fun _ => .inl Iff.rfl

/-- In every run of undisturbed steps, where no call is in progress the current daemon has
the sensors of the list, which are distinct. -/
theorem subscriptions_match {offers : List SensorId} {events : List Event} {w : Workspace}
    (ran : Run.exec step (start offers) events = some w)
    (undisturbed : Run.Always step Undisturbed (start offers) events)
    (quiet : ∀ thread, w.calls thread = none) :
    w.subscriptions.Nodup ∧ ∀ s, s ∈ w.connection.held ↔ s ∈ w.subscriptions := by
  have both := Run.exec_invariant_of_always (fun w => w.Orderly ∧ w.Matching)
    (fun _ _ _ taken allowed both => ⟨both.1.step taken, both.2.step taken both.1 allowed⟩)
    ran undisturbed ⟨start_orderly offers, start_matching offers⟩
  refine ⟨both.2.distinct, ?_⟩
  intro s
  rcases both.2.agrees s with same | ⟨thread, frame, live, told⟩
  · exact same
  · unfold Live Unfetched at live
    rw [quiet thread] at live
    simp at live

/-- A test for steps that overlap with no other call. -/
def calm (w : Workspace) : Event → Bool
  | .send thread =>
      match w.calls thread with
      | some (.sending _ frame _) => frame.sensors.all fun s =>
          decide ((frame.wanted = true ∧ s ∈ w.connection.offers) ↔ s ∈ w.subscriptions)
      | _ => true
  | .store thread =>
      match w.calls thread with
      | some (.storing sensors) =>
          decide sensors.Nodup && w.subscriptions.all fun s => decide (s ∈ sensors)
      | _ => true
  | .swap =>
      match w.reconnecting with
      | some reconnect => (reconnect.snapshot ++ w.subscriptions).all fun s =>
          decide ((s ∈ reconnect.snapshot ∧ s ∈ (w.connections reconnect.client).offers) ↔
            s ∈ w.subscriptions)
      | none => true
  | _ => true

theorem undisturbed_of_calm {w : Workspace} {event : Event} (passed : w.calm event = true) :
    w.Undisturbed event := by
  cases event with
  | send thread =>
      intro frame next stands s inside
      simp only [calm, stands, List.all_eq_true, decide_eq_true_eq] at passed
      exact .inl (passed s inside)
  | store thread =>
      intro sensors stands
      simp only [calm, stands, Bool.and_eq_true, List.all_eq_true, decide_eq_true_eq] at passed
      exact ⟨passed.1, fun s listed outside => absurd (passed.2 s listed) outside⟩
  | swap =>
      intro reconnect going s
      simp only [calm, going, List.all_eq_true, decide_eq_true_eq] at passed
      by_cases known : s ∈ reconnect.snapshot ++ w.subscriptions
      · exact .inl (passed s known)
      · have outside := fun old => known (List.mem_append_left _ old)
        have unlisted := fun listed => known (List.mem_append_right _ listed)
        exact .inl ⟨fun both => absurd both.1 outside, fun listed => absurd listed unlisted⟩
  | subscribe thread sensors => trivial
  | unsubscribe thread sensors => trivial
  | replaceSubscriptions thread sensors => trivial
  | fetch thread => trivial
  | snapshot offers => trivial
  | replay => trivial
  | abort => trivial

/-- A subscription, a reconnect to another host, and the new list for this host. -/
def calmEvents : List Event :=
  [.subscribe 0 [⟨"cpu.util"⟩], .fetch 0, .send 0, .snapshot [⟨"cpu.util"⟩, ⟨"mem.used"⟩], .replay,
    .swap, .replaceSubscriptions 1 [⟨"mem.used"⟩], .fetch 1, .send 1, .store 1, .fetch 1, .send 1]

theorem subscriptions_match_calm : ∃ w,
    Run.exec step (start [⟨"cpu.util"⟩]) calmEvents = some w ∧ w.client = 1 ∧
      w.subscriptions.Nodup ∧ ∀ s, s ∈ w.connection.held ↔ s ∈ w.subscriptions := by
  have undisturbed : Run.Always step Undisturbed (start [⟨"cpu.util"⟩]) calmEvents :=
    Run.Always.of_check (fun _ _ => undisturbed_of_calm) (by decide +kernel)
  refine ⟨_, rfl, rfl, subscriptions_match (by rfl) undisturbed ?_⟩
  intro thread
  rcases thread with _ | _ | thread <;> rfl

/-- A subscription that falls between the snapshot and the swap stays behind. -/
theorem subscription_left_behind : ∃ w,
    Run.exec step (start [⟨"cpu.util"⟩])
      [.snapshot [⟨"cpu.util"⟩], .subscribe 0 [⟨"cpu.util"⟩], .fetch 0, .send 0, .replay, .swap] =
        some w ∧
      (∀ thread, w.calls thread = none) ∧ w.reconnecting.isNone = true ∧
      w.subscriptions = [⟨"cpu.util"⟩] ∧ w.connection.offers = [⟨"cpu.util"⟩] ∧
      w.connection.held = [] := by
  refine ⟨_, rfl, ?_, rfl, rfl, rfl, rfl⟩
  intro thread
  cases thread <;> rfl

end Runs

end Workspace

end LinSight.Gui
