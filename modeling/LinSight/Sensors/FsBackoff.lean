import LinSight.Sensors.FsSnapshots

set_option autoImplicit false

/-! Which mounts a snapshot reports, and which it backs off. -/

namespace LinSight.Fs

/-- The call answers with values by its deadline. -/
def Attempt.InTime (attempt : Attempt) : Prop :=
  (∃ answer, attempt.answerAt = some answer ∧ answer ≤ attempt.deadline) ∧
    ∃ v, attempt.result = .ok v

/-- The call has not answered by its deadline. -/
def Attempt.Missed (attempt : Attempt) : Prop :=
  ∀ answer, attempt.answerAt = some answer → attempt.deadline < answer

/-- The mount enters back-off. -/
def Enters (before : Inner) (report : Report) (mp : String) : Prop :=
  ∃ retry, report.inner.backoff.lookup mp = some retry ∧ before.backoff.lookup mp ≠ some retry

/-- A call of the mount was started and missed its deadline. -/
def MissedDeadline (report : Report) (mp : String) : Prop :=
  ∃ attempt, .started attempt ∈ report.turns ∧ attempt.mountpoint = mp ∧ attempt.Missed

/-- No call of the mount was started, since the running threads of earlier calls and those started
before it are as many as there may be handles. -/
def Capped (report : Report) (mp : String) : Prop :=
  ∃ i, report.turns[i]? = some (.skipped mp) ∧ maxDetachedHandles ≤ report.running + i

/-- The snapshot has the mount, with the values of a call of it. -/
def Reported (report : Report) (mp : String) : Prop :=
  ∃ stats v, report.result = .ok stats ∧ stats.lookup mp = some v ∧
    ∃ attempt, .started attempt ∈ report.turns ∧ attempt.mountpoint = mp ∧ attempt.result = .ok v

section Loops

variable (env : Env) {running : Nat} {l : Loop} {a : Attempt}

/-- What the outcome of a mount says of its turns. -/
def Explained (turns : List Turn) (outcome : Outcome) : Prop :=
  match outcome.2 with
  | some result => ∃ attempt, .started attempt ∈ turns ∧ attempt.mountpoint = outcome.1 ∧
      attempt.result = result
  | none => .skipped outcome.1 ∈ turns ∨
      ∃ attempt, .started attempt ∈ turns ∧ attempt.mountpoint = outcome.1 ∧ attempt.Missed

theorem Explained.append {turns : List Turn} {outcome : Outcome}
    (explained : Explained turns outcome) (more : List Turn) :
    Explained (turns ++ more) outcome := by
  unfold Explained at explained ⊢
  cases received : outcome.2 with
  | some result =>
      rw [received] at explained
      obtain ⟨attempt, member, here⟩ := explained
      exact ⟨attempt, List.mem_append_left _ member, here⟩
  | none =>
      rw [received] at explained
      rcases explained with skipped | ⟨attempt, member, here⟩
      · exact .inl (List.mem_append_left _ skipped)
      · exact .inr ⟨attempt, List.mem_append_left _ member, here⟩

/-- What holds between two turns of the loop. -/
structure Kept (running : Nat) (l : Loop) : Prop where
  permits : l.permits + l.pending.length = maxConcurrentStatvfs
  room : l.detachedHandles.length < maxDetachedHandles →
    l.detachedHandles.length = running + l.turns.length
  full : maxDetachedHandles ≤ l.detachedHandles.length →
    maxDetachedHandles ≤ running + l.turns.length
  capped : ∀ i mp, l.turns[i]? = some (.skipped mp) → maxDetachedHandles ≤ running + i
  awaited : ∀ a ∈ l.pending, .started a ∈ l.turns
  explained : ∀ outcome ∈ l.outcomes, Explained l.turns outcome
  received : ∀ a, .started a ∈ l.turns → a ∈ l.pending ∨
    (a.InTime → (a.mountpoint, some a.result) ∈ l.outcomes)

theorem recvTimeout_inTime (clock : Clock) (inTime : a.InTime) :
    (recvTimeout env clock a).1 = some a.result := by
  obtain ⟨⟨answer, answers, within⟩, _⟩ := inTime
  unfold recvTimeout
  rw [answers]
  dsimp only
  rw [if_pos]
  simp only [Clock.next]
  omega

theorem recvTimeout_cases (clock : Clock) (a : Attempt) :
    (recvTimeout env clock a).1 = some a.result ∨
      (recvTimeout env clock a).1 = none ∧ a.Missed := by
  unfold recvTimeout Attempt.Missed
  cases answers : a.answerAt with
  | none => exact .inr ⟨rfl, fun answer other => by cases other⟩
  | some answer =>
      dsimp only
      split
      · exact .inl rfl
      · rename_i late
        refine .inr ⟨rfl, fun other same => ?_⟩
        cases same
        simp only [Clock.next] at late
        omega

theorem recvTimeout_explained {turns : List Turn} (started : .started a ∈ turns) (clock : Clock) :
    Explained turns (a.mountpoint, (recvTimeout env clock a).1) := by
  rcases recvTimeout_cases env clock a with received | ⟨timeout, missed⟩
  · rw [received]
    exact ⟨a, started, rfl, rfl⟩
  · rw [timeout]
    exact .inr ⟨a, started, rfl, missed⟩

theorem outcomes_drain (l : Loop) (a : Attempt) : (drain env l a).outcomes =
    l.outcomes ++ [(a.mountpoint, (recvTimeout env l.clock a).1)] := rfl

/-- Waiting for the first pending call. -/
theorem Kept.drain {rest : List Attempt} (kept : Kept running l) (first : l.pending = a :: rest) :
    Kept running (drain env { l with pending := rest } a) := by
  have started : .started a ∈ l.turns := kept.awaited a (first ▸ List.mem_cons_self)
  have permits := kept.permits
  rw [first, List.length_cons] at permits
  refine ⟨?_, kept.room, kept.full, kept.capped, fun b member => ?_, fun outcome member => ?_,
    fun b member => ?_⟩
  · simp only [Fs.drain]
    omega
  · exact kept.awaited b (first ▸ List.mem_cons_of_mem a member)
  · rw [outcomes_drain] at member
    rcases List.mem_append.mp member with earlier | now
    · exact kept.explained outcome earlier
    · rw [List.mem_singleton.mp now]
      exact recvTimeout_explained env started l.clock
  · rw [outcomes_drain]
    rcases kept.received b member with waiting | done
    · rw [first] at waiting
      rcases List.mem_cons.mp waiting with rfl | later
      · refine .inr fun inTime => List.mem_append_right _ ?_
        rw [recvTimeout_inTime env l.clock inTime]
        exact List.mem_singleton_self _
      · exact .inl later
    · exact .inr fun inTime => List.mem_append_left _ (done inTime)

theorem Kept.makeRoom (kept : Kept running l) :
    Kept running (makeRoom env l) ∧ (makeRoom env l).pending.length < maxConcurrentStatvfs := by
  have permits := kept.permits
  unfold Fs.makeRoom
  split
  · rename_i many
    cases pending : l.pending with
    | nil =>
        rw [pending] at many
        exact absurd many (by decide)
    | cons first rest =>
        refine ⟨kept.drain env pending, ?_⟩
        rw [pending, List.length_cons] at permits
        simp only [Fs.drain]
        omega
  · rename_i few
    exact ⟨kept, by omega⟩

/-- Every turn of the loop is taken. -/
theorem Kept.takeTurn (kept : Kept running l) (deadline : Nat) (mountpoint : String) :
    ∃ next, takeTurn env deadline l mountpoint = some next ∧ Kept running next := by
  obtain ⟨room, free⟩ := kept.makeRoom env
  unfold Fs.takeTurn
  dsimp only
  generalize Fs.makeRoom env l = m at room free ⊢
  have permits := room.permits
  split
  · rename_i full
    refine ⟨_, rfl, room.permits, fun low => absurd full (Nat.not_le.mpr low), fun _ => ?_, ?_, ?_,
      ?_, ?_⟩
    · have before := room.full full
      rw [List.length_append]
      omega
    · intro i mp here
      rcases Nat.lt_or_ge i m.turns.length with earlier | last
      · rw [List.getElem?_append_left earlier] at here
        exact room.capped i mp here
      · have before := room.full full
        omega
    · exact fun b member => List.mem_append_left _ (room.awaited b member)
    · intro outcome member
      rcases List.mem_append.mp member with earlier | now
      · exact (room.explained outcome earlier).append _
      · rw [List.mem_singleton.mp now]
        exact .inl (List.mem_append_right _ (List.mem_singleton_self _))
    · intro b member
      rcases List.mem_append.mp member with earlier | now
      · rcases room.received b earlier with waiting | done
        · exact .inl waiting
        · exact .inr fun inTime => List.mem_append_left _ (done inTime)
      · cases List.mem_singleton.mp now
  · rename_i low
    rw [if_neg (by omega)]
    have count := room.room (by omega)
    refine ⟨_, rfl, ?_, fun _ => ?_, fun _ => ?_, ?_, ?_, ?_, ?_⟩
    · simp only [List.length_append, List.length_singleton]
      omega
    · simp only [List.length_append, List.length_singleton]
      omega
    · simp only [List.length_append, List.length_singleton] at *
      omega
    · intro i mp here
      rcases Nat.lt_or_ge i m.turns.length with earlier | last
      · rw [List.getElem?_append_left earlier] at here
        exact room.capped i mp here
      · rw [List.getElem?_append_right last] at here
        cases List.mem_singleton.mp (List.mem_of_getElem? here)
    · intro b member
      rcases List.mem_append.mp member with earlier | now
      · exact List.mem_append_left _ (room.awaited b earlier)
      · rw [List.mem_singleton.mp now]
        exact List.mem_append_right _ (List.mem_singleton_self _)
    · exact fun outcome member => (room.explained outcome member).append _
    · intro b member
      rcases List.mem_append.mp member with earlier | now
      · rcases room.received b earlier with waiting | done
        · exact .inl (List.mem_append_left _ waiting)
        · exact .inr done
      · cases List.mem_singleton.mp now
        exact .inl (List.mem_append_right _ (List.mem_singleton_self _))

/-- The loop comes to its end. -/
theorem Kept.turns (kept : Kept running l) (deadline : Nat) (mounts : List String) :
    ∃ last, Run.exec (Fs.takeTurn env deadline) l mounts = some last ∧ Kept running last := by
  induction mounts generalizing l with
  | nil => exact ⟨l, rfl, kept⟩
  | cons mountpoint rest ih =>
      obtain ⟨next, taken, still⟩ := kept.takeTurn env deadline mountpoint
      obtain ⟨last, remaining, done⟩ := ih still
      exact ⟨last, Run.exec_cons.mpr ⟨next, taken, remaining⟩, done⟩

theorem Kept.drainAll {pending : List Attempt} (kept : Kept running l)
    (here : l.pending = pending) :
    Kept running (drainAll env pending l) ∧ (drainAll env pending l).pending = [] := by
  induction pending generalizing l with
  | nil => exact ⟨kept, here⟩
  | cons first rest ih => exact ih (kept.drain env here) rfl

end Loops

section Outcomes

variable (env : Env) {s : Settled} {outcomes : List Outcome} {mp : String}

/-- Only a timeout adds a back-off. -/
theorem backoff_settle {outcome : Outcome} {retry : Nat}
    (after : (settle env s outcome).inner.backoff.lookup mp = some retry) :
    s.inner.backoff.lookup mp = some retry ∨ outcome = (mp, none) := by
  obtain ⟨name, received⟩ := outcome
  rcases received with _ | (e | v)
  · by_cases here : mp = name
    · exact .inr (by rw [here])
    · simp only [settle, markBackoff, KeyMap.lookup_insert_eq, if_neg here] at after
      exact .inl after
  · exact .inl after
  · simp only [settle, clearBackoff, KeyMap.lookup_erase_eq] at after
    split at after
    · cases after
    · exact .inl after

theorem stats_settle (s : Settled) (outcome : Outcome) (mp : String) :
    (settle env s outcome).stats.lookup mp =
      match outcome.2 with
      | some (.ok v) => if mp = outcome.1 then some v else s.stats.lookup mp
      | _ => s.stats.lookup mp := by
  obtain ⟨name, received⟩ := outcome
  rcases received with _ | (e | v)
  · rfl
  · rfl
  · exact KeyMap.lookup_insert_eq _ _ _ _

theorem permits_settle (s : Settled) (outcome : Outcome) :
    (settle env s outcome).inner.permits = s.inner.permits := by
  obtain ⟨name, received⟩ := outcome
  rcases received with _ | (e | v) <;> rfl

theorem backoff_settled {retry : Nat}
    (after : (outcomes.foldl (settle env) s).inner.backoff.lookup mp = some retry) :
    s.inner.backoff.lookup mp = some retry ∨ (mp, none) ∈ outcomes := by
  induction outcomes generalizing s with
  | nil => exact .inl after
  | cons outcome rest ih =>
      rcases ih after with before | later
      · rcases backoff_settle env before with earlier | now
        · exact .inl earlier
        · exact .inr (now ▸ List.mem_cons_self)
      · exact .inr (List.mem_cons_of_mem outcome later)

theorem permits_settled :
    (outcomes.foldl (settle env) s).inner.permits = s.inner.permits := by
  induction outcomes generalizing s with
  | nil => rfl
  | cons outcome rest ih => rw [List.foldl_cons, ih, permits_settle]

/-- The values of a mount are those of an answer. -/
theorem stats_settled {v : FsStat}
    (after : (outcomes.foldl (settle env) s).stats.lookup mp = some v) :
    s.stats.lookup mp = some v ∨ (mp, some (.ok v)) ∈ outcomes := by
  induction outcomes generalizing s with
  | nil => exact .inl after
  | cons outcome rest ih =>
      rcases ih after with before | later
      · obtain ⟨name, received⟩ := outcome
        rw [stats_settle] at before
        rcases received with _ | (e | v')
        · exact .inl before
        · exact .inl before
        · dsimp only at before
          split at before
          · rename_i here
            cases before
            exact .inr (here ▸ List.mem_cons_self)
          · exact .inl before
      · exact .inr (List.mem_cons_of_mem outcome later)

theorem kept_stats {v : FsStat} (before : s.stats.lookup mp = some v) :
    ∃ v', (outcomes.foldl (settle env) s).stats.lookup mp = some v' := by
  induction outcomes generalizing s v with
  | nil => exact ⟨v, before⟩
  | cons outcome rest ih =>
      have next : ∃ v', (settle env s outcome).stats.lookup mp = some v' := by
        obtain ⟨name, received⟩ := outcome
        rw [stats_settle]
        rcases received with _ | (e | v')
        · exact ⟨v, before⟩
        · exact ⟨v, before⟩
        · dsimp only
          split
          · exact ⟨v', rfl⟩
          · exact ⟨v, before⟩
      obtain ⟨v', found⟩ := next
      exact ih found

/-- A mount that answered has values. -/
theorem exists_stats {v : FsStat} (member : (mp, some (.ok v)) ∈ outcomes) :
    ∃ v', (outcomes.foldl (settle env) s).stats.lookup mp = some v' := by
  obtain ⟨front, back, rfl⟩ := List.append_of_mem member
  rw [List.foldl_append, List.foldl_cons]
  have here : (settle env (front.foldl (settle env) s) (mp, some (.ok v))).stats.lookup mp =
      some v := by
    rw [stats_settle]
    exact if_pos rfl
  exact kept_stats env here

end Outcomes

section Calls

variable {inner : Inner}

/-- Every mount that enters back-off missed its deadline or met the cap, and every one that answered
in time is reported. -/
def Right (before : Inner) (report : Report) : Prop :=
  (∀ mp, Enters before report mp → MissedDeadline report mp ∨ Capped report mp) ∧
    ∀ attempt, .started attempt ∈ report.turns → attempt.InTime →
      Reported report attempt.mountpoint

theorem right_unchanged (before : Inner) (result : Except PluginError FsStats) (running : Nat) :
    Right before ⟨result, before, running, []⟩ := by
  constructor
  · rintro mp ⟨retry, after, differs⟩
    exact absurd after differs
  · intro attempt member
    cases member

/-- The outcomes of a loop that has ended say what the call does. -/
theorem right_of_kept {env : Env} {running : Nat} {l : Loop} (base : Inner) {s : Settled}
    {report : Report} (kept : Kept running l) (drained : l.pending = [])
    (settled : l.outcomes.foldl (settle env) ⟨l.clock, base, ∅⟩ = s)
    (same : base.backoff = inner.backoff) (turns : report.turns = l.turns)
    (began : report.running = running) (backoff : report.inner.backoff = s.inner.backoff)
    (result : s.stats.keys.isEmpty = false → report.result = .ok s.stats) :
    Right inner report := by
  constructor
  · rintro mp ⟨retry, after, differs⟩
    rw [backoff, ← settled] at after
    rcases backoff_settled env after with before | timeout
    · rw [same] at before
      exact absurd before differs
    · rcases kept.explained _ timeout with skipped | ⟨attempt, member, here, missed⟩
      · obtain ⟨i, turn⟩ := List.getElem?_of_mem skipped
        refine .inr ⟨i, ?_, ?_⟩
        · rw [turns, turn]
        · rw [began]
          exact kept.capped i mp turn
      · exact .inl ⟨attempt, turns ▸ member, here, missed⟩
  · intro attempt member inTime
    rw [turns] at member
    rcases kept.received attempt member with waiting | answered
    · rw [drained] at waiting
      cases waiting
    · have outcome := answered inTime
      obtain ⟨_, v, values⟩ := inTime
      rw [values] at outcome
      obtain ⟨v', found⟩ := @exists_stats env ⟨l.clock, base, ∅⟩ _ _ _ outcome
      rcases stats_settled env found with nothing | received
      · cases nothing
      · obtain ⟨other, started, here, values'⟩ := kept.explained _ received
        rw [settled] at found
        have filled : s.stats.keys.isEmpty = false := by
          cases empty : s.stats.keys with
          | nil =>
              have present := AList.mem_keys.mp (KeyMap.mem_of_lookup found)
              rw [empty] at present
              cases present
          | cons key rest => rfl
        exact ⟨s.stats, v', result filled, found, other, turns ▸ started, here, values'⟩

theorem conclude_right {env : Env} {running : Nat} {l : Loop} (kept : Kept running l) :
    (conclude inner env running l).inner.permits = maxConcurrentStatvfs ∧
      Right inner (conclude inner env running l) := by
  obtain ⟨still, drained⟩ := kept.drainAll env rfl
  have permits := still.permits
  rw [drained, List.length_nil, Nat.add_zero] at permits
  let base : Inner := { inner with
    permits := (drainAll env l.pending l).permits
    detachedHandles := (drainAll env l.pending l).detachedHandles }
  unfold conclude
  dsimp only
  split
  · rename_i empty
    refine ⟨?_, right_of_kept base still drained rfl rfl rfl rfl rfl fun filled => ?_⟩
    · rw [permits_settled, permits]
    · exact absurd (empty.symm.trans filled) (by decide)
  · refine ⟨?_, right_of_kept base still drained rfl rfl rfl rfl rfl fun _ => rfl⟩
    rw [permits_settled, permits]

/-- A call returns with all permits given back. -/
theorem snapshotWith_right (permits : inner.permits = maxConcurrentStatvfs) (env : Env) :
    ∃ report, snapshotWith inner env = some report ∧
      report.inner.permits = maxConcurrentStatvfs ∧ Right inner report := by
  have begins (clock : Clock) (handles : List (Option Nat)) :
      Kept handles.length ⟨clock, inner.permits, handles, [], [], []⟩ := by
    refine ⟨permits, fun _ => rfl, fun full => full, fun i mp turn => ?_, fun a member => ?_,
      fun outcome member => ?_, fun a member => ?_⟩
    · rw [List.getElem?_nil] at turn
      cases turn
    · cases member
    · cases member
    · cases member
  unfold snapshotWith
  dsimp only
  split
  · exact ⟨_, rfl, permits, right_unchanged _ _ _⟩
  · split
    · exact ⟨_, rfl, permits, right_unchanged _ _ _⟩
    · obtain ⟨last, ran, looped⟩ := (begins _ _).turns env _ _
      exact ⟨_, Option.map_eq_some_iff.mpr ⟨last, ran, rfl⟩, conclude_right looped⟩

/-- What a call of the sequence is, and what it leaves. -/
theorem snapshots_concat {mounts : List (String × String)} {front : List Env} {env : Env}
    {after : Inner} : snapshots mounts (front ++ [env]) = some after ↔
      ∃ before report, snapshots mounts front = some before ∧
        snapshotWith before env = some report ∧ report.inner = after := by
  unfold snapshots
  rw [Run.exec_append]
  constructor
  · rintro ⟨before, ran, last⟩
    obtain ⟨next, stepped, done⟩ := Run.exec_cons.mp last
    obtain ⟨report, returned, rfl⟩ := Option.map_eq_some_iff.mp stepped
    exact ⟨before, report, ran, returned, Option.some.inj done⟩
  · rintro ⟨before, report, ran, returned, rfl⟩
    refine ⟨before, ran, Run.exec_cons.mpr ⟨report.inner, ?_, rfl⟩⟩
    rw [returned, Option.map_some]

theorem snapshots_return (mounts : List (String × String)) (calls : List Env) :
    ∃ inner, snapshots mounts calls = some inner ∧ inner.permits = maxConcurrentStatvfs := by
  induction calls using List.reverseRecOn with
  | nil => exact ⟨_, rfl, rfl⟩
  | append_singleton front last ih =>
      obtain ⟨before, ran, permits⟩ := ih
      obtain ⟨report, returned, given, _⟩ := snapshotWith_right permits last
      exact ⟨report.inner, snapshots_concat.mpr ⟨before, report, ran, returned, rfl⟩, given⟩

/-- A mount in back-off has entered it in one of the calls. -/
theorem exists_enters {mounts : List (String × String)} {calls : List Env} {inner : Inner}
    (ran : snapshots mounts calls = some inner) {mp : String} (held : mp ∈ inner.backoff) :
    ∃ front env before report, front ++ [env] <+: calls ∧ snapshots mounts front = some before ∧
      snapshotWith before env = some report ∧ Enters before report mp := by
  obtain ⟨retry, found⟩ := KeyMap.exists_lookup held
  clear held
  induction calls using List.reverseRecOn generalizing inner with
  | nil =>
      cases Option.some.inj ran
      cases found
  | append_singleton front last ih =>
      obtain ⟨before, report, earlier, returned, rfl⟩ := snapshots_concat.mp ran
      by_cases old : before.backoff.lookup mp = some retry
      · obtain ⟨front', env, before', report', here, rest⟩ := ih earlier old
        exact ⟨front', env, before', report', here.trans (List.prefix_append front [last]), rest⟩
      · exact ⟨front, last, before, report, List.prefix_refl _, earlier, returned, retry, found, old⟩

end Calls

/-- In every sequence of calls, each returns; a mount is backed off only where a call of it missed
its deadline, or was not started since too many handles were detached; and a mount whose call
answers in time is reported. -/
theorem backed_off_only (mounts : List (String × String)) (calls : List Env) :
    (∃ inner, snapshots mounts calls = some inner ∧
      ∀ mp ∈ inner.backoff, ∃ front env before report, front ++ [env] <+: calls ∧
        snapshots mounts front = some before ∧ snapshotWith before env = some report ∧
        Enters before report mp ∧ (MissedDeadline report mp ∨ Capped report mp)) ∧
    ∀ front env, front ++ [env] <+: calls → ∃ before report,
      snapshots mounts front = some before ∧ snapshotWith before env = some report ∧
      Right before report := by
  have each (front : List Env) (env : Env) : ∃ before report,
      snapshots mounts front = some before ∧ snapshotWith before env = some report ∧
      Right before report := by
    obtain ⟨before, ran, permits⟩ := snapshots_return mounts front
    obtain ⟨report, returned, _, right⟩ := snapshotWith_right permits env
    exact ⟨before, report, ran, returned, right⟩
  refine ⟨?_, fun front env _ => each front env⟩
  obtain ⟨inner, ran, _⟩ := snapshots_return mounts calls
  refine ⟨inner, ran, fun mp held => ?_⟩
  obtain ⟨front, env, before, report, here, earlier, returned, enters⟩ := exists_enters ran held
  obtain ⟨before', report', earlier', returned', right⟩ := each front env
  cases Option.some.inj (earlier.symm.trans earlier')
  cases Option.some.inj (returned.symm.trans returned')
  exact ⟨front, env, before, report, here, earlier, returned, enters, right.1 mp enters⟩

/-- The mount whose call was started. -/
def Turn.startedFor : Turn → Option String
  | started attempt => some attempt.mountpoint
  | skipped _ => none

/-- Mounts that hang, as many as there may be handles, and one that answers at once. -/
def hangingMounts : List (String × String) :=
  (List.range 33).map fun i => ("/mnt/" ++ toString i, "mnt_" ++ toString i)

def hanging : Env where
  begins := 0
  lag _ := 0
  worker i := if i < 32 then ⟨none, none, .ok ⟨0, 0, 0, 0⟩⟩
    else ⟨some 1, some 1, .ok ⟨1000, 500, 10000, 5000⟩⟩
  timeout := 5000000000

/-- Each call of a sequence of one. -/
theorem backed_off_only_hanging : ∃ before report, snapshots hangingMounts [] = some before ∧
    snapshotWith before hanging = some report ∧ Right before report :=
  (backed_off_only hangingMounts [hanging]).2 [] hanging (List.prefix_refl _)

/-- The mount behind them is backed off, though no call of it was started. -/
theorem backed_off_unstarted : ∃ report, snapshotWith (.start hangingMounts) hanging = some report ∧
    Enters (.start hangingMounts) report "/mnt/32" ∧ ¬ MissedDeadline report "/mnt/32" := by
  have entered : ((snapshotWith (.start hangingMounts) hanging).bind fun report =>
      report.inner.backoff.lookup "/mnt/32") = some 7000000000 := by decide +kernel
  obtain ⟨report, returned, retry⟩ := Option.bind_eq_some_iff.mp entered
  refine ⟨report, returned, ⟨_, retry, fun other => by cases other⟩, ?_⟩
  rintro ⟨attempt, started, here, _⟩
  have unstarted : (snapshotWith (.start hangingMounts) hanging).all fun report =>
      report.turns.all fun turn => turn.startedFor ≠ some "/mnt/32" := by decide +kernel
  rw [returned, Option.all_some, List.all_eq_true] at unstarted
  have other := of_decide_eq_true (unstarted _ started)
  exact other (congrArg some here)

end LinSight.Fs
