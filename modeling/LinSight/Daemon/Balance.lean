import LinSight.Daemon.Refcounts
import LinSight.Daemon.Sessions

set_option autoImplicit false

namespace LinSight

open Scheduler (Represents)

/-- Giving back a batch of tokens takes exactly these out. -/
theorem unsubscribeAll_represents {scheduler : Scheduler} (removed : List Subscription)
    {tokens : Multiset Subscription} (valid : Represents scheduler (removed + tokens)) :
    Represents (unsubscribeAll scheduler removed) tokens := by
  induction removed generalizing scheduler with
  | nil =>
      rw [Multiset.coe_nil, zero_add] at valid
      exact valid
  | cons subscription rest ih =>
      apply ih
      have one := Scheduler.unsubscribe_represents valid subscription
      rw [← Multiset.cons_coe, Multiset.cons_add, Multiset.erase_cons_head] at one
      exact one

namespace Session

variable (session : Session)

theorem hold_tokens {subscription : Subscription}
    (fresh : session.subscriptions.holds subscription = false) :
    (session.hold subscription).tokens = subscription ::ₘ session.tokens := by
  have ledger := ClientSubscriptions.insert_tokens fresh
  simp only [tokens, hold, ledger, Multiset.cons_add]

@[simp] theorem enqueue_tokens (msg : OutboundMsg) : (session.enqueue msg).tokens = session.tokens :=
  rfl

theorem trySend_tokens {msg : OutboundMsg} {sent : Session}
    (accepted : session.trySend msg = .ok sent) : sent.tokens = session.tokens := by
  unfold trySend at accepted
  split at accepted
  · cases accepted
  · split at accepted <;> cases accepted
    rfl

theorem broadcast_tokens (infos : List SensorInfo) :
    (session.broadcast infos).tokens = session.tokens := by
  unfold broadcast
  split
  · split
    · rename_i sent accepted
      exact trySend_tokens session accepted
    · rfl
    · rfl
  · rfl

/-- `Unsubscribe` moves tokens from the ledger into the hands of the thread. -/
theorem takeSensors_tokens (sensors : List SensorId) (serving : session.phase = .serving) :
    (session.takeSensors sensors).tokens = session.tokens := by
  have moved := session.subscriptions.takeSensors_tokens sensors
  have removed : (session.takeSensors sensors).phase.removed =
      (session.subscriptions.takeSensors sensors).2 := by
    simp only [takeSensors]
    split
    · rename_i empty
      exact (List.isEmpty_iff.mp empty).symm
    · rfl
  unfold tokens
  rw [removed, serving]
  exact moved.trans (Multiset.add_zero _).symm

theorem drain_tokens (deregistered : session.phase = .deregistered) :
    session.drain.tokens = session.tokens := by
  have removed : session.drain.phase.removed = session.subscriptions.drain.2 := by
    simp only [drain]
    split
    · rename_i empty
      exact (List.isEmpty_iff.mp empty).symm
    · rfl
  unfold tokens
  rw [removed, deregistered, ClientSubscriptions.drain_tokens]
  exact (Multiset.zero_add _).trans (Multiset.add_zero _).symm

end Session

/-- Whatever one turn of `Subscribe` does, scheduler and ledger stay together.
`others` are the tokens of the other clients. -/
theorem subscribeEach_represents {rateHz : Option Ieee.Value} {state : Subscribing}
    {others : Multiset Subscription}
    (valid : Represents state.scheduler (state.session.tokens + others)) (id : SensorId) :
    Represents (subscribeEach rateHz state id).scheduler
      ((subscribeEach rateHz state id).session.tokens + others) := by
  unfold subscribeEach
  split
  · exact valid
  · split
    · exact valid
    · exact valid
    · rename_i scheduler subscription granted
      have acquired := Scheduler.subscribe_represents valid granted
      split
      · have undone := Scheduler.unsubscribe_represents acquired subscription
        rw [Multiset.erase_cons_head] at undone
        exact undone
      · rename_i vacant
        dsimp only
        rw [Session.hold_tokens _ (Bool.eq_false_iff.mpr vacant), Multiset.cons_add]
        exact acquired

theorem subscribeAll_represents {scheduler : Scheduler} {session : Session}
    {others : Multiset Subscription} (valid : Represents scheduler (session.tokens + others))
    (sensors : List SensorId) (rateHz : Option Ieee.Value) :
    Represents (subscribeAll scheduler session sensors rateHz).scheduler
      ((subscribeAll scheduler session sensors rateHz).session.tokens + others) := by
  unfold subscribeAll
  generalize start : (⟨scheduler, session, [], false⟩ : Subscribing) = state
  have here : Represents state.scheduler (state.session.tokens + others) := start ▸ valid
  clear start valid
  induction sensors generalizing state with
  | nil => exact here
  | cons id rest ih => exact ih _ (subscribeEach_represents here id)

/-- `Subscribe` only moves the phase of a session by crashing it. -/
theorem subscribeAll_phase (scheduler : Scheduler) (session : Session) (sensors : List SensorId)
    (rateHz : Option Ieee.Value) :
    (subscribeAll scheduler session sensors rateHz).session.phase = session.phase := by
  unfold subscribeAll
  generalize start : (⟨scheduler, session, [], false⟩ : Subscribing) = state
  have here : state.session.phase = session.phase := by rw [← start]
  clear start
  induction sensors generalizing state with
  | nil => exact here
  | cons id rest ih =>
      apply ih
      unfold subscribeEach
      split
      · exact here
      · split
        · exact here
        · exact here
        · split <;> exact here

namespace Daemon

/-- Every token any client holds or is about to give back. -/
def tokens (daemon : Daemon) : Multiset Subscription :=
  KeyMap.total (fun _ session => session.tokens) daemon.sessions

/-- Refcounts and ledgers agree, and no client has a second copy of a token. -/
structure Balanced (daemon : Daemon) : Prop where
  refcounts : Represents daemon.scheduler daemon.tokens
  single : ∀ client session, daemon.sessions.lookup client = some session →
    session.tokens.Nodup

/-- The tokens of all clients but one. -/
def otherTokens (daemon : Daemon) (client : Nat) : Multiset Subscription :=
  KeyMap.total (fun _ session => session.tokens) (daemon.sessions.erase client)

theorem tokens_of_lookup {daemon : Daemon} {client : Nat} {session : Session}
    (found : daemon.sessions.lookup client = some session) :
    daemon.tokens = session.tokens + daemon.otherTokens client :=
  (KeyMap.total_erase _ daemon.sessions found).symm

theorem tokens_of_insert {daemon next : Daemon} {client : Nat} {session : Session}
    (same : next.sessions = daemon.sessions.insert client session) :
    next.tokens = session.tokens + daemon.otherTokens client := by
  unfold tokens
  rw [same]
  exact KeyMap.total_insert_eq _ daemon.sessions client session

theorem single_insert {daemon next : Daemon} {client : Nat} {session : Session}
    (balanced : daemon.Balanced) (same : next.sessions = daemon.sessions.insert client session)
    (distinct : session.tokens.Nodup) (other : Nat) (held : Session)
    (found : next.sessions.lookup other = some held) : held.tokens.Nodup := by
  rw [same, KeyMap.lookup_insert_eq] at found
  split at found
  · cases found
    exact distinct
  · exact balanced.single other held found

/-- A session may change in any way that keeps its tokens. -/
theorem Balanced.withSession {daemon : Daemon} {client : Nat} {old session : Session}
    (balanced : daemon.Balanced) (found : daemon.sessions.lookup client = some old)
    (same : session.tokens = old.tokens) : (daemon.withSession client session).Balanced := by
  refine ⟨?_, single_insert balanced rfl ?_⟩
  · have unchanged : (daemon.withSession client session).tokens = daemon.tokens := by
      rw [tokens_of_lookup found, tokens_of_insert rfl, same]
    rw [unchanged]
    exact balanced.refcounts
  · rw [same]
    exact balanced.single client old found

theorem Balanced.mapSessions {daemon : Daemon} {f : Nat → Session → Session}
    (balanced : daemon.Balanced) (same : ∀ client session, (f client session).tokens = session.tokens)
    (sampler : SamplerPhase) :
    ({ daemon with sessions := KeyMap.mapValues f daemon.sessions, sampler } : Daemon).Balanced := by
  refine ⟨?_, ?_⟩
  · have refcounts := balanced.refcounts
    unfold tokens at refcounts ⊢
    simp only [KeyMap.total_mapValues, same]
    exact refcounts
  · intro client session found
    rw [KeyMap.lookup_mapValues, Option.map_eq_some_iff] at found
    obtain ⟨old, present, rfl⟩ := found
    rw [same]
    exact balanced.single client old present

theorem Balanced.released {daemon : Daemon} {client : Nat} {session : Session}
    (balanced : daemon.Balanced) (found : daemon.sessions.lookup client = some session)
    {phase : SessionPhase} (empty : phase.removed = []) :
    (daemon.released client session phase).Balanced := by
  have ledger : ({ session with phase } : Session).tokens = session.subscriptions.tokens := by
    simp only [Session.tokens, empty, Multiset.coe_nil, add_zero]
  refine ⟨?_, single_insert balanced rfl ?_⟩
  · have after : (daemon.released client session phase).tokens =
        session.subscriptions.tokens + daemon.otherTokens client := by
      rw [← ledger]
      exact tokens_of_insert rfl
    rw [after]
    apply unsubscribeAll_represents
    have refcounts := balanced.refcounts
    rw [tokens_of_lookup found, Session.tokens, add_comm session.subscriptions.tokens,
      add_assoc] at refcounts
    exact refcounts
  · rw [ledger]
    exact session.subscriptions.tokens_nodup

theorem Balanced.subscribed {daemon : Daemon} {client : Nat} {session : Session}
    (balanced : daemon.Balanced) (found : daemon.sessions.lookup client = some session)
    (serving : session.phase = .serving) (sensors : List SensorId) (rateHz : Option Ieee.Value) :
    (daemon.subscribed client
      (subscribeAll daemon.scheduler session sensors rateHz)).Balanced := by
  have refcounts := balanced.refcounts
  rw [tokens_of_lookup found] at refcounts
  have after := subscribeAll_represents refcounts sensors rateHz
  have phase := subscribeAll_phase daemon.scheduler session sensors rateHz
  generalize subscribeAll daemon.scheduler session sensors rateHz = outcome at after phase
  have ledger : outcome.session.tokens = outcome.session.subscriptions.tokens := by
    simp only [Session.tokens, phase, serving, SessionPhase.removed, Multiset.coe_nil, add_zero]
  have same : (if outcome.panicked then { outcome.session with phase := .crashed }
      else outcome.session).tokens = outcome.session.tokens := by
    split
    · rw [ledger]
      exact Multiset.add_zero _
    · rfl
  refine ⟨?_, single_insert balanced rfl ?_⟩
  · rw [tokens_of_insert rfl, same]
    exact after
  · rw [same, ledger]
    exact outcome.session.subscriptions.tokens_nodup

theorem Balanced.fanOut {daemon next : Daemon} (balanced : daemon.Balanced)
    (taken : daemon.fanOut = some next) : next.Balanced := by
  unfold Daemon.fanOut at taken
  split at taken
  · cases taken
    refine balanced.mapSessions (fun client session => ?_) .idle
    unfold deregistered
    split <;> rfl
  · obtain ⟨session, _, passed⟩ := Option.bind_eq_some_iff.mp taken
    obtain ⟨_, rfl⟩ := Run.enabled_eq_some.mp passed
    exact ⟨balanced.refcounts, balanced.single⟩
  · cases taken
    exact ⟨balanced.refcounts, balanced.single⟩
  · obtain ⟨session, found, rfl⟩ := Option.map_eq_some_iff.mp taken
    split
    · rename_i sent accepted
      have sent_balanced := balanced.withSession found (session.trySend_tokens accepted)
      exact ⟨sent_balanced.refcounts, sent_balanced.single⟩
    · exact ⟨balanced.refcounts, balanced.single⟩
    · exact ⟨balanced.refcounts, balanced.single⟩
  · cases taken

/-- The balance survives every atomic step. -/
theorem step_balanced (daemon : Daemon) (label : Step) (next : Daemon)
    (taken : daemon.step label = some next) (balanced : daemon.Balanced) : next.Balanced := by
  cases label <;>
    simp only [step, Option.bind_eq_some_iff, Run.enabled_eq_some, Option.some.injEq] at taken
  case connect client =>
    obtain ⟨absent, rfl⟩ := taken
    refine ⟨?_, single_insert balanced rfl Multiset.nodup_zero⟩
    have unchanged : (daemon.withSession client .new).tokens = daemon.tokens := by
      unfold tokens withSession
      rw [KeyMap.total_insert_of_notMem _ _ _ (AList.lookup_eq_none.mp absent)]
      exact Multiset.zero_add _
    rw [unchanged]
    exact balanced.refcounts
  case subscribe client sensors rateHz =>
    obtain ⟨session, found, ⟨serving, _⟩, rfl⟩ := taken
    exact balanced.subscribed found serving sensors rateHz
  case unsubscribe client sensors =>
    obtain ⟨session, found, serving, rfl⟩ := taken
    exact balanced.withSession found (session.takeSensors_tokens sensors serving)
  case unsubscribed client =>
    obtain ⟨session, found, _, rfl⟩ := taken
    exact balanced.released found rfl
  case disconnect client =>
    obtain ⟨session, found, serving, rfl⟩ := taken
    apply balanced.withSession found
    simp only [Session.tokens, serving, SessionPhase.removed]
  case pump client =>
    obtain ⟨session, found, _, rfl⟩ := taken
    exact balanced.withSession found rfl
  case pumpExit client =>
    obtain ⟨session, found, _, rfl⟩ := taken
    exact balanced.withSession found rfl
  case deregister client =>
    obtain ⟨session, found, ⟨stopped, _⟩, rfl⟩ := taken
    apply balanced.withSession found
    simp only [Session.tokens, stopped, SessionPhase.removed]
  case drain client =>
    obtain ⟨session, found, deregistered, rfl⟩ := taken
    exact balanced.withSession found (session.drain_tokens deregistered)
  case release client =>
    obtain ⟨session, found, _, rfl⟩ := taken
    exact balanced.released found rfl
  case broadcast infos =>
    subst taken
    exact balanced.mapSessions (fun _ session => session.broadcast_tokens infos) daemon.sampler
  case tickPlan now =>
    obtain ⟨_, rfl⟩ := taken
    exact ⟨Scheduler.tickPlan_represents balanced.refcounts now, balanced.single⟩
  case tickCommit results =>
    split at taken
    · obtain ⟨_, rfl⟩ := Run.enabled_eq_some.mp taken
      exact ⟨Scheduler.tickCommit_represents balanced.refcounts _ results, balanced.single⟩
    · cases taken
  case snapshotSinks sinks =>
    split at taken
    · obtain ⟨_, rfl⟩ := Run.enabled_eq_some.mp taken
      exact ⟨balanced.refcounts, balanced.single⟩
    · cases taken
  case fanOut => exact balanced.fanOut taken

/-- Every reachable state is balanced. -/
theorem reachable_balanced {descriptors : List SensorDescriptor} {daemon : Daemon}
    (reached : Reachable descriptors daemon) : daemon.Balanced :=
  reached.invariant step_balanced
    ⟨Scheduler.new_represents descriptors, fun _ _ found => nomatch found⟩

/-- The number of clients whose ledger holds the token. -/
def holders (daemon : Daemon) (token : Subscription) : Nat :=
  daemon.sessions.entries.countP fun entry => entry.2.subscriptions.holds token

/-- The number of copies of the token that have left a ledger and have not yet
been passed to `Scheduler::unsubscribe`. -/
def inFlight (daemon : Daemon) (token : Subscription) : Nat :=
  KeyMap.total (fun _ session => session.phase.removed.count token) daemon.sessions

/-- The refcount the scheduler stores for a sensor and a period. -/
def refcount (daemon : Daemon) (id : SensorId) (period : Nat) : Nat :=
  ((daemon.scheduler.entries.lookup id).bind fun entry => entry.periodCounts.lookup period).getD 0

theorem count_tokens (daemon : Daemon) (token : Subscription) :
    daemon.tokens.count token = daemon.holders token + daemon.inFlight token := by
  simp only [tokens, holders, inFlight, KeyMap.total, Session.tokens]
  induction daemon.sessions.entries with
  | nil => rfl
  | cons entry rest ih =>
      simp only [List.map_cons, List.sum_cons, Multiset.count_add, ih,
        ClientSubscriptions.count_tokens, Multiset.coe_count, List.countP_cons]
      omega

theorem Balanced.refcount_eq {daemon : Daemon} (balanced : daemon.Balanced) (id : SensorId)
    (period : Nat) :
    daemon.refcount id period = daemon.holders ⟨id, period⟩ + daemon.inFlight ⟨id, period⟩ := by
  have counts := balanced.refcounts id
  simp only [count_tokens] at counts
  unfold refcount
  cases found : daemon.scheduler.entries.lookup id with
  | none =>
      simp only [found] at counts
      exact (counts period).symm
  | some entry =>
      simp only [found] at counts
      exact counts.counted period

theorem Balanced.mem_iff {daemon : Daemon} (balanced : daemon.Balanced) (id : SensorId) :
    id ∈ daemon.scheduler.entries ↔
      ∃ period, 0 < daemon.holders ⟨id, period⟩ + daemon.inFlight ⟨id, period⟩ := by
  have counts := balanced.refcounts id
  simp only [count_tokens] at counts
  cases found : daemon.scheduler.entries.lookup id with
  | none =>
      simp only [found] at counts
      have absent : id ∉ daemon.scheduler.entries := AList.lookup_eq_none.mp found
      constructor
      · intro present
        exact absurd present absent
      · intro ⟨period, positive⟩
        have zero := counts period
        omega
  | some entry =>
      simp only [found] at counts
      exact ⟨fun _ => ⟨entry.periodMicros, Nat.pos_of_ne_zero counts.held⟩,
        fun _ => KeyMap.mem_of_lookup found⟩

/-- A client's token keeps the entry of its sensor alive. -/
theorem Balanced.mem_of_holds {daemon : Daemon} (balanced : daemon.Balanced) {client : Nat}
    {session : Session} (found : daemon.sessions.lookup client = some session)
    {subscription : Subscription} (held : session.subscriptions.holds subscription = true) :
    subscription.sensor ∈ daemon.scheduler.entries := by
  have counted : 0 < daemon.holders subscription := by
    rw [holders, List.countP_pos_iff]
    exact ⟨⟨client, session⟩, (KeyMap.mem_entries_iff _ _ _).mpr found, held⟩
  exact (balanced.mem_iff _).mpr ⟨subscription.periodMicros, Nat.add_pos_left counted _⟩

/-- No count outgrows the number of clients, so the `u32` of the source does
not overflow under its cap on sessions. -/
theorem Balanced.refcount_le {daemon : Daemon} (balanced : daemon.Balanced) (id : SensorId)
    (period : Nat) : daemon.refcount id period ≤ daemon.sessions.entries.length := by
  rw [balanced.refcount_eq, ← count_tokens]
  have each : ∀ entry ∈ daemon.sessions.entries, entry.2.tokens.count ⟨id, period⟩ ≤ 1 := by
    intro entry stored
    have distinct := balanced.single _ _ ((KeyMap.mem_entries_iff _ _ _).mp stored)
    exact Multiset.nodup_iff_count_le_one.mp distinct _
  simp only [tokens, KeyMap.total]
  generalize daemon.sessions.entries = entries at each ⊢
  induction entries with
  | nil => exact Nat.le_refl 0
  | cons entry rest ih =>
      simp only [List.map_cons, List.sum_cons, Multiset.count_add, List.length_cons]
      have first := each entry List.mem_cons_self
      have others := ih fun other stored => each other (List.mem_cons_of_mem _ stored)
      omega

/-- The scheduler's counts are the numbers of tokens, and the fastest period
held is the one sampled at. -/
theorem refcounts_balance {descriptors : List SensorDescriptor} {daemon : Daemon}
    (reached : Reachable descriptors daemon) (id : SensorId) :
    (∀ period, daemon.refcount id period =
      daemon.holders ⟨id, period⟩ + daemon.inFlight ⟨id, period⟩) ∧
    (∀ entry, daemon.scheduler.entries.lookup id = some entry →
      (∀ period count, entry.periodCounts.lookup period = some count → count ≠ 0) ∧
      IsLeast {period | period ∈ entry.periodCounts} entry.periodMicros) ∧
    (id ∈ daemon.scheduler.entries ↔
      ∃ period, 0 < daemon.holders ⟨id, period⟩ + daemon.inFlight ⟨id, period⟩) ∧
    (∀ now, (⟨id⟩ : Scheduler.TickItem) ∈ (daemon.scheduler.tickPlan now).2 →
      ∃ period, 0 < daemon.holders ⟨id, period⟩ + daemon.inFlight ⟨id, period⟩) := by
  have balanced := reachable_balanced reached
  refine ⟨balanced.refcount_eq id, ?_, balanced.mem_iff id, ?_⟩
  · intro entry found
    have counts := balanced.refcounts id
    simp only [found] at counts
    exact ⟨counts.positive, counts.fastest⟩
  · intro now due
    obtain ⟨entry, found, _⟩ := (Scheduler.mem_tickPlan _ now id).mp due
    exact (balanced.mem_iff id).mp (KeyMap.mem_of_lookup found)

/-- A client subscribes twice, then its one token is on its way out. -/
theorem refcounts_balance_in_flight : ∃ daemon, Reachable [memUsedBytes] daemon ∧
    daemon.inFlight ⟨memUsedBytes.id, 1000000⟩ = 1 ∧
    daemon.refcount memUsedBytes.id 1000000 =
      daemon.holders ⟨memUsedBytes.id, 1000000⟩ + daemon.inFlight ⟨memUsedBytes.id, 1000000⟩ := by
  have ran : (Run.exec step (new [memUsedBytes])
      [.connect 0, .subscribe 0 [memUsedBytes.id, memUsedBytes.id] none,
        .unsubscribe 0 [memUsedBytes.id]]).isSome = true := by decide +kernel
  have reached := Run.Reaches.of_isSome ran
  refine ⟨_, reached, ?_, (refcounts_balance reached memUsedBytes.id).1 1000000⟩
  clear reached
  decide +kernel +revert

end Daemon

end LinSight
