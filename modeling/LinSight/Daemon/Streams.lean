import LinSight.Daemon.Sessions

set_option autoImplicit false

/-! What reaches one client: the samples a tick commits, those the fan-out offers to the
client, and those its pump takes from the outbound queue. -/

namespace LinSight

open Scheduler (TickItem SampleResult)

def OutboundMsg.sample? : OutboundMsg → Option Sample
  | .sample carried => some carried
  | .sensorListBroadcast _ => none

/-- The samples among queued messages. -/
def samplesOf (queue : List OutboundMsg) : List Sample := queue.filterMap OutboundMsg.sample?

@[simp] theorem samplesOf_nil : samplesOf [] = [] := rfl

theorem samplesOf_append (front back : List OutboundMsg) :
    samplesOf (front ++ back) = samplesOf front ++ samplesOf back :=
  List.filterMap_append

theorem samplesOf_cons (msg : OutboundMsg) (rest : List OutboundMsg) :
    samplesOf (msg :: rest) = msg.sample?.toList ++ samplesOf rest := by
  cases msg with
  | sample sample => rfl
  | sensorListBroadcast infos => rfl

/-- Samples in order of their stages: committed by a tick, offered to the client, taken from
its queue by the pump, or lost to a full queue or a gone pump. -/
@[ext] structure Streams where
  committed : List Sample
  offered : List Sample
  taken : List Sample
  lost : List Sample

namespace Streams

def empty : Streams := ⟨[], [], [], []⟩

def append (first second : Streams) : Streams where
  committed := first.committed ++ second.committed
  offered := first.offered ++ second.offered
  taken := first.taken ++ second.taken
  lost := first.lost ++ second.lost

end Streams

namespace Daemon

/-- What one action of the fan-out offers to the client and what it loses there. -/
def fanOutStreams (client : Nat) (daemon : Daemon) : Streams :=
  match daemon.sampler with
  | .delivering samples (sink :: _) _ =>
      match daemon.sessions.lookup sink with
      | some session => if sink = client then
          { Streams.empty with
            offered := samples.filter fun sample => session.subscriptions.wants sample.sensor }
          else .empty
      | none => .empty
  | .sending _ sink (sample :: interested) _ _ =>
      match daemon.sessions.lookup sink with
      | some session => if sink = client then
          match session.trySend (.sample sample) with
          | .ok _ => .empty
          | .full => { Streams.empty with lost := [sample] }
          | .disconnected => { Streams.empty with lost := sample :: interested }
          else .empty
      | none => .empty
  | _ => .empty

/-- What one step adds to the streams of the client. -/
def streamsOf (client : Nat) (daemon : Daemon) : Step → Streams
  | .pump other =>
      match daemon.sessions.lookup client with
      | some session => if other = client then
          { Streams.empty with taken := samplesOf (session.queue.take 1) }
          else .empty
      | none => .empty
  | .tickCommit results =>
      match daemon.sampler with
      | .sampling now _ => { Streams.empty with
          committed := (Scheduler.tickCommit now daemon.scheduler results).2 }
      | _ => .empty
  | .fanOut => daemon.fanOutStreams client
  | _ => .empty

/-- The streams of the client over a run. -/
def streams (client : Nat) : Daemon → List Step → Streams
  | _, [] => .empty
  | daemon, label :: rest =>
      match daemon.step label with
      | some next => (daemon.streamsOf client label).append (streams client next rest)
      | none => daemon.streamsOf client label

/-- The samples in the client's outbound queue. -/
def queued (client : Nat) (daemon : Daemon) : List Sample :=
  match daemon.sessions.lookup client with
  | some session => samplesOf session.queue
  | none => []

/-- The offered samples whose turn has not come. -/
def offering (client : Nat) (daemon : Daemon) : List Sample :=
  match daemon.sampler with
  | .sending _ sink interested _ _ => if sink = client then interested else []
  | _ => []

/-- The samples of the running tick, as long as the client's turn has not come. -/
def upcoming (client : Nat) (daemon : Daemon) : List Sample :=
  match daemon.sampler with
  | .committed samples => samples
  | .delivering samples sinks _ | .sending samples _ _ sinks _ =>
      if client ∈ sinks then samples else []
  | _ => []

/-- No sink is served twice in one fan-out. -/
def SinksDistinct (daemon : Daemon) : Prop :=
  match daemon.sampler with
  | .delivering _ sinks _ => sinks.Nodup
  | .sending _ sink _ sinks _ => (sink :: sinks).Nodup
  | _ => True

/-- What one step does to the samples of a client on their way. -/
structure Passes (client : Nat) (daemon next : Daemon) (moved : Streams) : Prop where
  order : (moved.taken ++ (next.queued client ++ next.offering client)).Sublist
    (daemon.queued client ++ daemon.offering client ++ moved.offered)
  kept : (moved.taken ++ (next.queued client ++ next.offering client) ++ moved.lost).Perm
    (daemon.queued client ++ daemon.offering client ++ moved.offered)
  fresh : (moved.offered ++ next.upcoming client).Sublist
    (daemon.upcoming client ++ moved.committed)

variable {client : Nat} {daemon next : Daemon}

theorem Passes.idle (queued : next.queued client = daemon.queued client)
    (offering : next.offering client = daemon.offering client)
    (upcoming : (next.upcoming client).Sublist (daemon.upcoming client)) :
    Passes client daemon next .empty := by
  constructor
  · rw [queued, offering]
    simp [Streams.empty]
  · rw [queued, offering]
    simp [Streams.empty]
  · simpa [Streams.empty] using upcoming

theorem offering_congr (sampler : next.sampler = daemon.sampler) :
    next.offering client = daemon.offering client := by
  rw [offering, offering, sampler]

theorem upcoming_congr (sampler : next.sampler = daemon.sampler) :
    next.upcoming client = daemon.upcoming client := by
  rw [upcoming, upcoming, sampler]

/-- A step that neither touches the client's queue nor the sampler. -/
theorem Passes.unrelated (queued : next.queued client = daemon.queued client)
    (sampler : next.sampler = daemon.sampler) : Passes client daemon next .empty :=
  .idle queued (offering_congr sampler) (upcoming_congr sampler ▸ List.Sublist.refl _)

theorem queued_of_lookup {session : Session}
    (found : daemon.sessions.lookup client = some session) :
    daemon.queued client = samplesOf session.queue := by
  rw [queued, found]

theorem queued_insert {other : Nat} {session : Session}
    (sessions : next.sessions = daemon.sessions.insert other session)
    (same : samplesOf session.queue = daemon.queued other) :
    next.queued client = daemon.queued client := by
  rw [queued, sessions, KeyMap.lookup_insert_eq]
  by_cases here : client = other
  · subst here
    rw [if_pos rfl]
    exact same
  · rw [if_neg here]
    rfl

theorem queued_mapValues {f : Nat → Session → Session}
    (sessions : next.sessions = KeyMap.mapValues f daemon.sessions)
    (same : ∀ other session, samplesOf (f other session).queue = samplesOf session.queue) :
    next.queued client = daemon.queued client := by
  rw [queued, sessions, KeyMap.lookup_mapValues]
  cases found : daemon.sessions.lookup client with
  | none => rw [queued, found]; rfl
  | some session =>
      rw [queued_of_lookup found]
      exact same client session

theorem trySend_queue {session sent : Session} {msg : OutboundMsg}
    (accepted : session.trySend msg = .ok sent) :
    samplesOf sent.queue = samplesOf session.queue ++ msg.sample?.toList := by
  unfold Session.trySend at accepted
  split_ifs at accepted
  cases accepted
  show samplesOf (session.queue ++ [msg]) = _
  rw [samplesOf_append, samplesOf_cons, samplesOf_nil, List.append_nil]

theorem broadcast_queue (infos : List SensorInfo) (session : Session) :
    samplesOf (session.broadcast infos).queue = samplesOf session.queue := by
  unfold Session.broadcast
  split
  · split
    · rename_i sent accepted
      rw [trySend_queue accepted]
      exact List.append_nil _
    · rfl
    · rfl
  · rfl

theorem subscribeAll_queue (scheduler : Scheduler) (session : Session) (sensors : List SensorId)
    (rateHz : Option Ieee.Value) :
    (subscribeAll scheduler session sensors rateHz).session.queue = session.queue := by
  unfold subscribeAll
  generalize start : (⟨scheduler, session, [], false⟩ : Subscribing) = state
  have here : state.session.queue = session.queue := by rw [← start]
  clear start
  induction sensors generalizing state with
  | nil => exact here
  | cons id rest ih =>
      apply ih
      unfold subscribeEach
      split
      · exact here
      · split
        · exact here
        · exact here
        · split <;> exact here

theorem Passes.pump {session : Session} (found : daemon.sessions.lookup client = some session)
    (sessions : next.sessions =
      daemon.sessions.insert client { session with queue := session.queue.tail })
    (sampler : next.sampler = daemon.sampler) :
    Passes client daemon next
      { Streams.empty with taken := samplesOf (session.queue.take 1) } := by
  have left : next.queued client = samplesOf session.queue.tail := by
    rw [queued, sessions, AList.lookup_insert]
  have split : samplesOf (session.queue.take 1) ++ samplesOf session.queue.tail =
      samplesOf session.queue := by
    rw [← samplesOf_append, ← List.drop_one, List.take_append_drop]
  have same : samplesOf (session.queue.take 1) ++ (next.queued client ++ next.offering client) =
      daemon.queued client ++ daemon.offering client := by
    rw [left, queued_of_lookup found, offering_congr sampler, ← split, List.append_assoc]
  constructor
  · simp [Streams.empty, same]
  · simp [Streams.empty, same]
  · rw [upcoming_congr sampler]
    simp [Streams.empty]

theorem queued_congr (sessions : next.sessions = daemon.sessions) :
    next.queued client = daemon.queued client := by
  rw [queued, queued, sessions]

/-- The fan-out turns to the next sink and sorts out what it wants. -/
theorem Passes.turn {samples : List Sample} {sink : Nat} {sinks disconnected : List Nat}
    {session : Session} (before : daemon.sampler = .delivering samples (sink :: sinks) disconnected)
    (found : daemon.sessions.lookup sink = some session) (distinct : sink ∉ sinks)
    (sessions : next.sessions = daemon.sessions)
    (after : next.sampler = .sending samples sink
      (samples.filter fun sample => session.subscriptions.wants sample.sensor) sinks
      disconnected) :
    Passes client daemon next (daemon.fanOutStreams client) := by
  have none_yet : daemon.offering client = [] := by rw [offering, before]
  by_cases here : sink = client
  · subst here
    have offered : next.offering sink =
        samples.filter fun sample => session.subscriptions.wants sample.sensor := by
      rw [offering, after]
      exact if_pos rfl
    have moved : daemon.fanOutStreams sink = { Streams.empty with
        offered := samples.filter fun sample => session.subscriptions.wants sample.sensor } := by
      rw [fanOutStreams, before]
      simp only [found, ↓reduceIte]
    rw [moved]
    constructor
    · simp [Streams.empty, none_yet, offered, queued_congr sessions]
    · simp [Streams.empty, none_yet, offered, queued_congr sessions]
    · simp [Streams.empty, upcoming, before, after, distinct]
  · have moved : daemon.fanOutStreams client = .empty := by
      rw [fanOutStreams, before]
      simp only [found, here, ↓reduceIte]
    rw [moved]
    have other : client ≠ sink := Ne.symm here
    apply Passes.idle (queued_congr sessions)
    · rw [none_yet, offering, after]
      exact if_neg here
    · simp [upcoming, before, after, other]

theorem Passes.send {lost : List Sample}
    (order : (next.queued client ++ next.offering client).Sublist
      (daemon.queued client ++ daemon.offering client))
    (kept : (next.queued client ++ next.offering client ++ lost).Perm
      (daemon.queued client ++ daemon.offering client))
    (upcoming : next.upcoming client = daemon.upcoming client) :
    Passes client daemon next { Streams.empty with lost := lost } := by
  constructor
  · simpa [Streams.empty] using order
  · simpa [Streams.empty] using kept
  · simp [Streams.empty, upcoming]

section TrySend

variable {samples interested : List Sample} {sample : Sample} {sink : Nat}
  {sinks disconnected : List Nat} {session : Session}

/-- A `try_send` to another client moves nothing of this one. -/
theorem Passes.elsewhere
    (before : daemon.sampler = .sending samples sink (sample :: interested) sinks disconnected)
    (found : daemon.sessions.lookup sink = some session) (other : sink ≠ client)
    (queued : next.queued client = daemon.queued client)
    (none_next : next.offering client = [])
    (upcoming : next.upcoming client = daemon.upcoming client) :
    Passes client daemon next (daemon.fanOutStreams client) := by
  have none_before : daemon.offering client = [] := by
    rw [offering, before]
    exact if_neg other
  have moved : daemon.fanOutStreams client = .empty := by
    rw [fanOutStreams, before]
    simp only [found, other, ↓reduceIte]
  rw [moved]
  exact .idle queued (none_next.trans none_before.symm) (upcoming ▸ List.Sublist.refl _)

variable (before : daemon.sampler =
    .sending samples sink (sample :: interested) sinks disconnected)
  (found : daemon.sessions.lookup sink = some session)

include before found

theorem Passes.accepted {sent : Session} (accepted : session.trySend (.sample sample) = .ok sent)
    (sessions : next.sessions = daemon.sessions.insert sink sent)
    (after : next.sampler = .sending samples sink interested sinks disconnected) :
    Passes client daemon next (daemon.fanOutStreams client) := by
  have upcoming_eq : next.upcoming client = daemon.upcoming client := by
    rw [upcoming, upcoming, before, after]
  by_cases here : sink = client
  · subst here
    have grown : next.queued sink = daemon.queued sink ++ [sample] := by
      rw [queued, sessions, AList.lookup_insert, queued_of_lookup found]
      exact trySend_queue accepted
    have moved : daemon.fanOutStreams sink = { Streams.empty with lost := [] } := by
      rw [fanOutStreams, before]
      simp only [found, accepted, ↓reduceIte]
      rfl
    have same : next.queued sink ++ next.offering sink =
        daemon.queued sink ++ daemon.offering sink := by
      rw [grown, offering, offering, before, after]
      simp
    rw [moved]
    apply Passes.send
    · rw [same]
    · rw [same, List.append_nil]
    · exact upcoming_eq
  · apply Passes.elsewhere before found here ?_ ?_ upcoming_eq
    · rw [queued, sessions, AList.lookup_insert_ne (Ne.symm here)]
      rfl
    · rw [offering, after]
      exact if_neg here

theorem Passes.full (refused : session.trySend (.sample sample) = .full)
    (sessions : next.sessions = daemon.sessions)
    (after : next.sampler = .sending samples sink interested sinks disconnected) :
    Passes client daemon next (daemon.fanOutStreams client) := by
  have upcoming_eq : next.upcoming client = daemon.upcoming client := by
    rw [upcoming, upcoming, before, after]
  have same : next.queued client = daemon.queued client := queued_congr sessions
  by_cases here : sink = client
  · subst here
    have moved : daemon.fanOutStreams sink = { Streams.empty with lost := [sample] } := by
      rw [fanOutStreams, before]
      simp only [found, refused, ↓reduceIte]
    have offered : daemon.offering sink = sample :: next.offering sink := by
      rw [offering, offering, before, after]
      simp only [↓reduceIte]
    rw [moved]
    apply Passes.send
    · rw [same, offered]
      exact (List.sublist_cons_self sample _).append_left _
    · rw [same, offered, List.append_assoc]
      exact List.Perm.append_left _ List.perm_append_comm
    · exact upcoming_eq
  · apply Passes.elsewhere before found here same ?_ upcoming_eq
    rw [offering, after]
    exact if_neg here

theorem Passes.hungUp (refused : session.trySend (.sample sample) = .disconnected)
    (sessions : next.sessions = daemon.sessions)
    (after : next.sampler = .delivering samples sinks (sink :: disconnected)) :
    Passes client daemon next (daemon.fanOutStreams client) := by
  have upcoming_eq : next.upcoming client = daemon.upcoming client := by
    rw [upcoming, upcoming, before, after]
  have same : next.queued client = daemon.queued client := queued_congr sessions
  have nothing : next.offering client = [] := by rw [offering, after]
  by_cases here : sink = client
  · subst here
    have moved : daemon.fanOutStreams sink =
        { Streams.empty with lost := sample :: interested } := by
      rw [fanOutStreams, before]
      simp only [found, refused, ↓reduceIte]
    have offered : daemon.offering sink = sample :: interested := by
      rw [offering, before]
      exact if_pos rfl
    rw [moved]
    apply Passes.send
    · rw [same, nothing]
      exact (List.nil_sublist _).append_left _
    · rw [same, nothing, offered, List.append_nil]
    · exact upcoming_eq
  · exact Passes.elsewhere before found here same nothing upcoming_eq

end TrySend

/-- The actions of the fan-out, on sinks that are all distinct. -/
theorem fanOut_passes (distinct : daemon.SinksDistinct) (taken : daemon.fanOut = some next) :
    next.SinksDistinct ∧ Passes client daemon next (daemon.fanOutStreams client) := by
  unfold fanOut at taken
  split at taken
  · rename_i samples disconnected phase
    cases taken
    have nothing : daemon.fanOutStreams client = .empty := by rw [fanOutStreams, phase]
    rw [nothing]
    refine ⟨trivial, .idle (queued_mapValues rfl ?_) ?_ (List.nil_sublist _)⟩
    · intro other session
      unfold deregistered
      split <;> rfl
    · rw [offering, offering, phase]
  · rename_i samples sink sinks disconnected phase
    obtain ⟨session, found, passed⟩ := Option.bind_eq_some_iff.mp taken
    obtain ⟨_, rfl⟩ := Run.enabled_eq_some.mp passed
    rw [SinksDistinct, phase] at distinct
    exact ⟨distinct, .turn phase found (List.nodup_cons.mp distinct).1 rfl rfl⟩
  · rename_i samples sink sinks disconnected phase
    cases taken
    rw [SinksDistinct, phase] at distinct
    have nothing : daemon.fanOutStreams client = .empty := by rw [fanOutStreams, phase]
    rw [nothing]
    refine ⟨(List.nodup_cons.mp distinct).2, .idle (queued_congr rfl) ?_ ?_⟩
    · simp [offering, phase]
    · simp [upcoming, phase]
  · rename_i samples sink sample interested sinks disconnected phase
    obtain ⟨session, found, rfl⟩ := Option.map_eq_some_iff.mp taken
    rw [SinksDistinct, phase] at distinct
    split
    · rename_i sent accepted
      exact ⟨distinct, .accepted phase found accepted rfl rfl⟩
    · rename_i refused
      exact ⟨distinct, .full phase found refused rfl rfl⟩
    · rename_i refused
      exact ⟨(List.nodup_cons.mp distinct).2, .hungUp phase found refused rfl rfl⟩
  · cases taken

theorem SinksDistinct.congr (distinct : daemon.SinksDistinct)
    (sampler : next.sampler = daemon.sampler) : next.SinksDistinct := by
  rw [SinksDistinct, sampler]
  exact distinct

/-- A step on one session that leaves its queue alone. -/
theorem Passes.session {other : Nat} {old session : Session} (distinct : daemon.SinksDistinct)
    (found : daemon.sessions.lookup other = some old)
    (sessions : next.sessions = daemon.sessions.insert other session)
    (sampler : next.sampler = daemon.sampler) (same : session.queue = old.queue) :
    next.SinksDistinct ∧ Passes client daemon next .empty := by
  refine ⟨distinct.congr sampler, .unrelated (queued_insert sessions ?_) sampler⟩
  rw [same, queued_of_lookup found]

variable (client) in
theorem step_passes {label : Step} (distinct : daemon.SinksDistinct)
    (taken : daemon.step label = some next) :
    next.SinksDistinct ∧ Passes client daemon next (daemon.streamsOf client label) := by
  cases label <;>
    simp only [step, Option.bind_eq_some_iff, Run.enabled_eq_some, Option.some.injEq] at taken
  case connect other =>
    obtain ⟨absent, rfl⟩ := taken
    refine ⟨distinct, .unrelated (queued_insert rfl ?_) rfl⟩
    rw [queued, absent]
    rfl
  case subscribe other sensors rateHz =>
    obtain ⟨session, found, _, rfl⟩ := taken
    refine Passes.session distinct found rfl rfl ?_
    rw [← subscribeAll_queue daemon.scheduler session sensors rateHz]
    split <;> rfl
  case unsubscribe other sensors =>
    obtain ⟨session, found, _, rfl⟩ := taken
    exact Passes.session distinct found rfl rfl rfl
  case unsubscribed other =>
    obtain ⟨session, found, _, rfl⟩ := taken
    exact Passes.session distinct found rfl rfl rfl
  case disconnect other =>
    obtain ⟨session, found, _, rfl⟩ := taken
    exact Passes.session distinct found rfl rfl rfl
  case pump other =>
    obtain ⟨session, found, _, rfl⟩ := taken
    by_cases here : other = client
    · subst here
      refine ⟨distinct.congr rfl, ?_⟩
      simp only [streamsOf, found, ↓reduceIte]
      exact .pump found rfl rfl
    · refine ⟨distinct.congr rfl, ?_⟩
      have nothing : daemon.streamsOf client (.pump other) = .empty := by
        simp only [streamsOf, here, ↓reduceIte]
        split <;> rfl
      rw [nothing]
      refine Passes.unrelated ?_ rfl
      rw [queued, withSession, AList.lookup_insert_ne (Ne.symm here)]
      rfl
  case pumpExit other =>
    obtain ⟨session, found, _, rfl⟩ := taken
    exact Passes.session distinct found rfl rfl rfl
  case deregister other =>
    obtain ⟨session, found, _, rfl⟩ := taken
    exact Passes.session distinct found rfl rfl rfl
  case drain other =>
    obtain ⟨session, found, _, rfl⟩ := taken
    exact Passes.session distinct found rfl rfl rfl
  case release other =>
    obtain ⟨session, found, _, rfl⟩ := taken
    exact Passes.session distinct found rfl rfl rfl
  case broadcast infos =>
    subst taken
    refine ⟨distinct.congr rfl, .unrelated ?_ rfl⟩
    exact queued_mapValues (f := fun _ => Session.broadcast infos) rfl
      fun other session => broadcast_queue infos session
  case tickPlan now =>
    obtain ⟨⟨idle, _⟩, rfl⟩ := taken
    refine ⟨trivial, .idle (queued_congr rfl) ?_ (List.nil_sublist _)⟩
    rw [offering, offering, idle]
  case tickCommit results =>
    split at taken
    · rename_i now plan phase
      obtain ⟨_, rfl⟩ := Run.enabled_eq_some.mp taken
      simp only [streamsOf, phase]
      generalize (Scheduler.tickCommit now daemon.scheduler results) = outcome
      constructor
      · cases outcome.2 <;> trivial
      · cases outcome.2 <;> constructor <;>
          simp [Streams.empty, offering, upcoming, phase, queued]
    · cases taken
  case snapshotSinks sinks =>
    split at taken
    · rename_i samples phase
      obtain ⟨listed, rfl⟩ := Run.enabled_eq_some.mp taken
      refine ⟨listed.nodup_iff.mpr (AList.keys_nodup _), .idle (queued_congr rfl) ?_ ?_⟩
      · rw [offering, offering, phase]
      · rw [upcoming, upcoming, phase]
        show (if client ∈ sinks then samples else []).Sublist samples
        split
        · exact List.Sublist.refl _
        · exact List.nil_sublist _
    · cases taken
  case fanOut => exact fanOut_passes distinct taken

theorem Passes.append {last : Daemon} {first second : Streams}
    (here : Passes client daemon next first) (later : Passes client next last second) :
    Passes client daemon last (first.append second) where
  order := by
    have extended := (later.order.append_left first.taken).trans
      (List.append_assoc first.taken _ _ ▸ here.order.append_right second.offered)
    simpa only [Streams.append, List.append_assoc] using extended
  kept := by
    rw [List.perm_iff_count]
    intro sample
    have one := here.kept.count_eq sample
    have two := later.kept.count_eq sample
    simp only [Streams.append, List.count_append] at one two ⊢
    omega
  fresh := by
    have extended := (later.fresh.append_left first.offered).trans
      (List.append_assoc first.offered _ _ ▸ here.fresh.append_right second.committed)
    simpa only [Streams.append, List.append_assoc] using extended

theorem exec_passes {labels : List Step} (distinct : daemon.SinksDistinct)
    (run : Run.exec step daemon labels = some next) :
    Passes client daemon next (streams client daemon labels) := by
  induction labels generalizing daemon with
  | nil =>
      cases Option.some.inj run
      exact .unrelated rfl rfl
  | cons label rest ih =>
      obtain ⟨middle, taken, remaining⟩ := Run.exec_cons.mp run
      obtain ⟨still, first⟩ := step_passes client distinct taken
      rw [streams, taken]
      exact first.append (ih still remaining)

/-- The samples on a client's way, at every point of every run: each one the fan-out offered was
taken by the pump, is queued or is about to be sent, or was lost; none of them twice, and those
not lost in the order of the ticks. -/
theorem samples_in_order {descriptors : List SensorDescriptor} {labels : List Step}
    {daemon : Daemon} (run : Run.exec step (new descriptors) labels = some daemon) (client : Nat) :
    let moved := streams client (new descriptors) labels
    let passed := moved.taken ++ (daemon.queued client ++ daemon.offering client)
    passed.Sublist moved.offered ∧ moved.offered.Sublist moved.committed ∧
      (passed ++ moved.lost).Perm moved.offered ∧ (moved.lost = [] ↔ passed = moved.offered) := by
  have passes : Passes client (new descriptors) daemon (streams client (new descriptors) labels) :=
    exec_passes trivial run
  have queued_none : (new descriptors).queued client = [] := rfl
  have offering_none : (new descriptors).offering client = [] := rfl
  have order := passes.order
  have kept := passes.kept
  rw [queued_none, offering_none, List.nil_append, List.nil_append] at order kept
  refine ⟨order, (List.sublist_append_left _ _).trans passes.fresh, kept, ?_⟩
  have lengths := kept.length_eq
  rw [List.length_append] at lengths
  constructor
  · intro none_lost
    apply order.eq_of_length
    rw [← lengths, none_lost, List.length_nil, Nat.add_zero]
  · intro same
    have total := congrArg List.length same
    apply List.eq_nil_of_length_eq_zero
    omega

/-- One client and two ticks; its pump has taken the sample of the first. -/
def twoTicks : List Step :=
  [.connect 0, .subscribe 0 [memUsedBytes.id] none, .tickPlan 1000000,
    .tickCommit [(⟨memUsedBytes.id⟩, .ok ⟨memUsedBytes.id, 1000000, .scalar (.finite 1)⟩)],
    .snapshotSinks [0], .fanOut, .fanOut, .fanOut, .fanOut, .pump 0, .tickPlan 2000000,
    .tickCommit [(⟨memUsedBytes.id⟩, .ok ⟨memUsedBytes.id, 2000000, .scalar (.finite 2)⟩)],
    .snapshotSinks [0], .fanOut, .fanOut, .fanOut, .pump 0]

theorem samples_in_order_twoTicks :
    ∃ daemon, Run.exec step (new [memUsedBytes]) twoTicks = some daemon ∧
      (streams 0 (new [memUsedBytes]) twoTicks).taken.length = 2 ∧
      (streams 0 (new [memUsedBytes]) twoTicks).taken ++
          (daemon.queued 0 ++ daemon.offering 0) =
        (streams 0 (new [memUsedBytes]) twoTicks).offered := by
  have ran : (Run.exec step (new [memUsedBytes]) twoTicks).isSome = true := by decide +kernel
  have run := (Option.some_get ran).symm
  refine ⟨_, run, by decide +kernel, ?_⟩
  exact (samples_in_order run 0).2.2.2.mp (by decide +kernel)

/-! With a clock that only goes forward, no sample comes twice. -/

/-- The instants of the ticks a run plans. -/
def tickTimes : List Step → List Nat
  | [] => []
  | .tickPlan now :: rest => now :: tickTimes rest
  | _ :: rest => tickTimes rest

/-- The instant of the tick that is being sampled. -/
def sampling (daemon : Daemon) : List Nat :=
  match daemon.sampler with
  | .sampling now _ => [now]
  | _ => []

/-- The second sample is not older, and it is newer where it is of the same sensor. -/
def Later (first second : Sample) : Prop :=
  first.tsMicros ≤ second.tsMicros ∧
    (first.sensor = second.sensor → first.tsMicros < second.tsMicros)

theorem tickCommit_samples {now : Nat} {results : List (TickItem × SampleResult)}
    {scheduler : Scheduler} {sample : Sample}
    (member : sample ∈ (Scheduler.tickCommit now scheduler results).2) :
    ∃ item, (item, Except.ok sample) ∈ results := by
  induction results generalizing scheduler with
  | nil => cases member
  | cons head rest ih =>
      obtain ⟨item, result⟩ := head
      unfold Scheduler.tickCommit at member
      split at member
      · obtain ⟨other, inside⟩ := ih member
        exact ⟨other, List.mem_cons_of_mem _ inside⟩
      · cases result with
        | error error =>
            obtain ⟨other, inside⟩ := ih member
            exact ⟨other, List.mem_cons_of_mem _ inside⟩
        | ok returned =>
            rcases List.mem_cons.mp member with rfl | later
            · exact ⟨item, List.mem_cons_self⟩
            · obtain ⟨other, inside⟩ := ih later
              exact ⟨other, List.mem_cons_of_mem _ inside⟩

/-- The samples of one tick carry its instant and are of distinct sensors. -/
theorem tickCommit_distinct {now : Nat} {plan : List TickItem}
    {results : List (TickItem × SampleResult)} (valid : poolResults now plan results = true)
    (scheduler : Scheduler) :
    (∀ sample ∈ (Scheduler.tickCommit now scheduler results).2, sample.tsMicros = now) ∧
      ((Scheduler.tickCommit now scheduler results).2.map (·.sensor)).Nodup := by
  simp only [poolResults, Bool.and_eq_true, decide_eq_true_eq, List.all_eq_true] at valid
  obtain ⟨once, each⟩ := valid
  have answered : ∀ item sample, (item, Except.ok sample) ∈ results →
      sample.sensor = item.id ∧ sample.tsMicros = now := by
    intro item sample member
    have fits := (each _ member).2
    simpa [answers] using fits
  constructor
  · intro sample member
    obtain ⟨item, inside⟩ := tickCommit_samples member
    exact (answered item sample inside).2
  · clear each
    induction results generalizing scheduler with
    | nil => exact List.nodup_nil
    | cons head rest ih =>
        obtain ⟨item, result⟩ := head
        rw [List.map_cons, List.nodup_cons] at once
        have rest_answered : ∀ item sample, (item, Except.ok sample) ∈ rest →
            sample.sensor = item.id ∧ sample.tsMicros = now :=
          fun other sample inside => answered other sample (List.mem_cons_of_mem _ inside)
        unfold Scheduler.tickCommit
        split
        · exact ih _ once.2 rest_answered
        · cases result with
          | error error => exact ih _ once.2 rest_answered
          | ok returned =>
              refine List.nodup_cons.mpr ⟨?_, ih _ once.2 rest_answered⟩
              intro again
              obtain ⟨sample, member, same⟩ := List.mem_map.mp again
              obtain ⟨other, inside⟩ := tickCommit_samples member
              have first := (answered item returned List.mem_cons_self).1
              have second := (rest_answered other sample inside).1
              have items : other = item := by
                cases other
                cases item
                simp only at first second
                rw [← second, ← first, same]
              exact once.1 (List.mem_map.mpr ⟨_, inside, items⟩)

theorem fanOutStreams_committed (client : Nat) (daemon : Daemon) :
    (daemon.fanOutStreams client).committed = [] := by
  unfold fanOutStreams
  split
  · split
    · split <;> rfl
    · rfl
  · split
    · split
      · split <;> rfl
      · rfl
    · rfl
  · rfl

theorem fanOut_sampling (taken : daemon.fanOut = some next) : next.sampling = daemon.sampling := by
  have never := (fanOut_scheduler taken).2
  have before : daemon.sampling = [] := by
    unfold sampling
    split
    · rename_i now plan phase
      rw [fanOut, phase] at taken
      cases taken
    · rfl
  rw [before, sampling]
  split
  · rename_i now plan phase
    exact absurd phase (never now plan)
  · rfl

variable (client) in
/-- A commit closes the running tick; every other step commits nothing. -/
theorem step_committed {label : Step} (taken : daemon.step label = some next) :
    ((daemon.streamsOf client label).committed = [] ∧
      ∀ rest, daemon.sampling ++ tickTimes (label :: rest) = next.sampling ++ tickTimes rest) ∨
    ∃ now, daemon.sampling = [now] ∧ next.sampling = [] ∧
      (∀ rest, tickTimes (label :: rest) = tickTimes rest) ∧
      (∀ sample ∈ (daemon.streamsOf client label).committed, sample.tsMicros = now) ∧
      ((daemon.streamsOf client label).committed.map (·.sensor)).Nodup := by
  cases label <;>
    simp only [step, Option.bind_eq_some_iff, Run.enabled_eq_some, Option.some.injEq] at taken
  case connect other =>
    obtain ⟨_, rfl⟩ := taken
    exact .inl ⟨rfl, fun _ => rfl⟩
  case broadcast infos =>
    subst taken
    exact .inl ⟨rfl, fun _ => rfl⟩
  case tickPlan now =>
    obtain ⟨⟨idle, _⟩, rfl⟩ := taken
    refine .inl ⟨rfl, fun _ => ?_⟩
    rw [sampling, idle]
    rfl
  case tickCommit results =>
    split at taken
    · rename_i now plan phase
      obtain ⟨⟨valid, _⟩, rfl⟩ := Run.enabled_eq_some.mp taken
      obtain ⟨times, distinct⟩ := tickCommit_distinct valid daemon.scheduler
      refine .inr ⟨now, by rw [sampling, phase], ?_, fun _ => rfl, ?_, ?_⟩
      · unfold sampling
        cases (Scheduler.tickCommit now daemon.scheduler results).2 <;> rfl
      · simpa [streamsOf, phase, Streams.empty] using times
      · simpa [streamsOf, phase, Streams.empty] using distinct
    · cases taken
  case snapshotSinks sinks =>
    split at taken
    · rename_i samples phase
      obtain ⟨_, rfl⟩ := Run.enabled_eq_some.mp taken
      refine .inl ⟨rfl, fun _ => ?_⟩
      rw [sampling, phase]
      rfl
    · cases taken
  case fanOut =>
    refine .inl ⟨fanOutStreams_committed client daemon, fun _ => ?_⟩
    rw [fanOut_sampling taken]
    rfl
  case pump other =>
    obtain ⟨session, found, _, rfl⟩ := taken
    refine .inl ⟨?_, fun _ => rfl⟩
    unfold streamsOf
    dsimp only
    split
    · split <;> rfl
    · rfl
  all_goals
    obtain ⟨session, found, _, rfl⟩ := taken
    exact .inl ⟨rfl, fun _ => rfl⟩

theorem pairwise_later_of_tick {samples : List Sample} {now : Nat}
    (times : ∀ sample ∈ samples, sample.tsMicros = now)
    (distinct : (samples.map (·.sensor)).Nodup) : samples.Pairwise Later := by
  induction samples with
  | nil => exact List.Pairwise.nil
  | cons first rest ih =>
      rw [List.map_cons, List.nodup_cons] at distinct
      have rest_times : ∀ sample ∈ rest, sample.tsMicros = now :=
        fun sample member => times sample (List.mem_cons_of_mem first member)
      refine List.Pairwise.cons ?_ (ih rest_times distinct.2)
      intro second member
      have same : first.tsMicros = second.tsMicros := by
        rw [times first List.mem_cons_self, rest_times second member]
      refine ⟨Nat.le_of_eq same, fun sensors => ?_⟩
      exact absurd (sensors ▸ List.mem_map_of_mem member) distinct.1

variable (client) in
theorem committed_later {labels : List Step} (run : Run.exec step daemon labels = some next)
    (clock : (daemon.sampling ++ tickTimes labels).Pairwise (· < ·)) :
    (streams client daemon labels).committed.Pairwise Later ∧
      ∀ sample ∈ (streams client daemon labels).committed,
        sample.tsMicros ∈ daemon.sampling ++ tickTimes labels := by
  induction labels generalizing daemon with
  | nil => exact ⟨List.Pairwise.nil, fun _ member => nomatch member⟩
  | cons label rest ih =>
      obtain ⟨middle, taken, remaining⟩ := Run.exec_cons.mp run
      rw [streams, taken]
      show ((daemon.streamsOf client label).committed ++
          (streams client middle rest).committed).Pairwise Later ∧ _
      rcases step_committed client taken with
        ⟨nothing, same⟩ | ⟨now, open_tick, closed, times_eq, times, distinct⟩
      · rw [same] at clock ⊢
        obtain ⟨ordered, known⟩ := ih remaining clock
        refine ⟨by rw [nothing]; exact ordered, fun sample member => known sample ?_⟩
        simpa [Streams.append, nothing] using member
      · rw [open_tick, times_eq] at clock ⊢
        have rest_clock := List.pairwise_cons.mp clock
        have later := ih remaining (by rw [closed]; exact rest_clock.2)
        rw [closed, List.nil_append] at later
        obtain ⟨ordered, known⟩ := later
        constructor
        · refine List.pairwise_append.mpr ⟨pairwise_later_of_tick times distinct, ordered, ?_⟩
          intro first here second there
          have newer := rest_clock.1 _ (known second there)
          rw [← times first here] at newer
          exact ⟨Nat.le_of_lt newer, fun _ => newer⟩
        · intro sample member
          rcases List.mem_append.mp member with here | there
          · exact List.mem_cons.mpr (.inl (times sample here))
          · exact List.mem_cons_of_mem now (known sample there)

/-- While the clock never steps back, a client's pump takes every sensor's samples from the
oldest to the newest and none of them twice. -/
theorem taken_later {descriptors : List SensorDescriptor} {labels : List Step}
    {daemon : Daemon} (run : Run.exec step (new descriptors) labels = some daemon)
    (clock : (tickTimes labels).Pairwise (· < ·)) (client : Nat) :
    (streams client (new descriptors) labels).taken.Pairwise Later := by
  have passes : Passes client (new descriptors) daemon (streams client (new descriptors) labels) :=
    exec_passes trivial run
  have committed := (committed_later client run clock).1
  have offered := (List.sublist_append_left _ _).trans passes.fresh
  have taken := (List.sublist_append_left _ _).trans passes.order
  exact (committed.sublist offered).sublist taken

theorem taken_later_twoTicks :
    (streams 0 (new [memUsedBytes]) twoTicks).taken.map (·.tsMicros) = [1000000, 2000000] ∧
      (streams 0 (new [memUsedBytes]) twoTicks).taken.Pairwise Later := by
  have ran : (Run.exec step (new [memUsedBytes]) twoTicks).isSome = true := by decide +kernel
  exact ⟨by decide +kernel, taken_later (Option.some_get ran).symm (by decide) 0⟩

end Daemon

end LinSight
