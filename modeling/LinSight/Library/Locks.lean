import LinSight.Library.KeyMap
import LinSight.Library.Run

set_option autoImplicit false

/-! Threads that take locks and block. A thread works through a program of actions; the
steps of different threads interleave in any order. -/

namespace Locks

inductive Action (Lock Block : Type) where
  | lock (l : Lock)
  | unlock (l : Lock)
  | enter (b : Block)
  | leave (b : Block)
deriving DecidableEq

/-- What each thread still has to do, and which locks are held by whom. -/
structure State (Thread Lock Block : Type) where
  threads : KeyMap Thread (List (Action Lock Block))
  held : List (Thread × Lock)

inductive Label (Thread Lock Block : Type) where
  | start (t : Thread) (program : List (Action Lock Block))
  | advance (t : Thread)
  | abandon (t : Thread)

variable {Thread Lock Block : Type} [DecidableEq Thread] [DecidableEq Lock]

def idle : State Thread Lock Block := ⟨∅, []⟩

def State.todo (state : State Thread Lock Block) (t : Thread) : List (Action Lock Block) :=
  (state.threads.lookup t).getD []

def State.continue (state : State Thread Lock Block) (t : Thread)
    (rest : List (Action Lock Block)) : State Thread Lock Block :=
  { state with threads := state.threads.insert t rest }

/-- One thread begins a program, takes its next action, or gives up and releases what it
holds. -/
def step (conflicts : Lock → Lock → Bool) (state : State Thread Lock Block) :
    Label Thread Lock Block → Option (State Thread Lock Block)
  | .start t program =>
      if (state.todo t).isEmpty then some (state.continue t program) else none
  | .advance t =>
      match state.todo t with
      | [] => none
      | .lock l :: rest =>
          if state.held.all fun hold => !conflicts l hold.2 then
            some { state.continue t rest with held := (t, l) :: state.held }
          else none
      | .unlock l :: rest => some { state.continue t rest with held := state.held.erase (t, l) }
      | .enter _ :: rest => some (state.continue t rest)
      | .leave _ :: rest => some (state.continue t rest)
  | .abandon t =>
      some { state.continue t [] with held := state.held.filter fun hold => hold.1 ≠ t }

/-- The thread is inside a blocking action. -/
def State.Inside (state : State Thread Lock Block) (t : Thread) (b : Block) : Prop :=
  ∃ rest, state.todo t = .leave b :: rest

/-- A program that never blocks while it holds `guarded`, and releases it in the end. -/
def clean (guarded : Lock) : Bool → List (Action Lock Block) → Bool
  | holds, [] => !holds
  | holds, .lock l :: rest =>
      if l = guarded then !holds && clean guarded true rest else clean guarded holds rest
  | holds, .unlock l :: rest =>
      if l = guarded then holds && clean guarded false rest else clean guarded holds rest
  | holds, .enter _ :: rest => !holds && clean guarded holds rest
  | holds, .leave _ :: rest => !holds && clean guarded holds rest

section Programs

variable {guarded : Lock} {holds : Bool}

def blocking (b : Block) : List (Action Lock Block) := [.enter b, .leave b]

def locked (l : Lock) (body : List (Action Lock Block)) : List (Action Lock Block) :=
  .lock l :: (body ++ [.unlock l])

/-- Actions that neither break the rule nor change whether the lock is held. -/
def Neutral (guarded : Lock) (holds : Bool) (body : List (Action Lock Block)) : Prop :=
  ∀ rest, clean guarded holds (body ++ rest) = clean guarded holds rest

theorem neutral_nil : Neutral guarded holds ([] : List (Action Lock Block)) :=
  fun _ => rfl

theorem Neutral.append {first second : List (Action Lock Block)}
    (neutral : Neutral guarded holds first) (neutral' : Neutral guarded holds second) :
    Neutral guarded holds (first ++ second) := by
  intro rest
  rw [List.append_assoc, neutral, neutral']

theorem neutral_flatMap {α : Type} {items : List α} {body : α → List (Action Lock Block)}
    (each : ∀ item ∈ items, Neutral guarded holds (body item)) :
    Neutral guarded holds (items.flatMap body) := by
  induction items with
  | nil => exact neutral_nil
  | cons first rest ih =>
    rw [List.flatMap_cons]
    apply (each first List.mem_cons_self).append
    exact ih fun item member => each item (List.mem_cons_of_mem first member)

theorem neutral_blocking (b : Block) :
    Neutral guarded false (blocking b : List (Action Lock Block)) := by
  intro rest
  simp [blocking, clean]

theorem neutral_locked {l : Lock} {body : List (Action Lock Block)} (other : l ≠ guarded)
    (neutral : Neutral guarded holds body) : Neutral guarded holds (locked l body) := by
  intro rest
  simp only [locked, List.cons_append, List.append_assoc, clean, if_neg other]
  rw [neutral]
  simp [clean, other]

theorem neutral_locked_self {body : List (Action Lock Block)}
    (neutral : Neutral guarded true body) : Neutral guarded false (locked guarded body) := by
  intro rest
  simp only [locked, List.cons_append, List.append_assoc, clean, if_true, Bool.not_false,
    Bool.true_and]
  rw [neutral]
  simp [clean]

theorem Neutral.clean {body : List (Action Lock Block)}
    (neutral : Neutral guarded false body) : clean guarded false body = true := by
  have whole := neutral []
  rw [List.append_nil] at whole
  exact whole

end Programs

section Safety

variable {conflicts : Lock → Lock → Bool} {guarded : Lock}
  {state next : State Thread Lock Block}

omit [DecidableEq Lock] in
theorem todo_continue (state : State Thread Lock Block) (t other : Thread)
    (rest : List (Action Lock Block)) :
    (state.continue t rest).todo other = if other = t then rest else state.todo other := by
  simp only [State.todo, State.continue, KeyMap.lookup_insert_eq]
  split <;> rfl

/-- Each thread keeps the rule from here on, and nobody holds the lock twice. -/
structure Orderly (guarded : Lock) (state : State Thread Lock Block) : Prop where
  programs : ∀ t, clean guarded (decide ((t, guarded) ∈ state.held)) (state.todo t) = true
  once : ∀ t, state.held.count (t, guarded) ≤ 1

theorem orderly_idle : Orderly guarded (idle : State Thread Lock Block) where
  programs _ := rfl
  once _ := Nat.zero_le 1

/-- One thread moved on; nobody else took or released the lock. -/
theorem Orderly.move {t : Thread} {rest : List (Action Lock Block)} {held : List (Thread × Lock)}
    (orderly : Orderly guarded state)
    (others : ∀ other, other ≠ t → held.count (other, guarded) = state.held.count (other, guarded))
    (own : clean guarded (decide ((t, guarded) ∈ held)) rest = true)
    (once : held.count (t, guarded) ≤ 1) :
    Orderly guarded { state.continue t rest with held := held } where
  programs other := by
    show clean guarded (decide ((other, guarded) ∈ held)) ((state.continue t rest).todo other) =
      true
    rw [todo_continue]
    by_cases same : other = t
    · rw [if_pos same, same]
      exact own
    · rw [if_neg same]
      have member : (other, guarded) ∈ held ↔ (other, guarded) ∈ state.held := by
        rw [← List.count_pos_iff, ← List.count_pos_iff, others other same]
      rw [decide_eq_decide.mpr member]
      exact orderly.programs other
  once other := by
    by_cases same : other = t
    · rw [same]
      exact once
    · show held.count (other, guarded) ≤ 1
      rw [others other same]
      exact orderly.once other

theorem Orderly.start {t : Thread} {program : List (Action Lock Block)}
    (orderly : Orderly guarded state) (fits : clean guarded false program = true)
    (taken : step conflicts state (.start t program) = some next) : Orderly guarded next := by
  simp only [step] at taken
  split at taken
  · rename_i rests
    cases taken
    have before := orderly.programs t
    rw [List.isEmpty_iff.mp rests] at before
    have free : decide ((t, guarded) ∈ state.held) = false := by
      simpa [clean] using before
    exact orderly.move (fun _ _ => rfl) (by rw [free]; exact fits) (orderly.once t)
  · cases taken

theorem Orderly.advance {t : Thread} (reflexive : conflicts guarded guarded = true)
    (orderly : Orderly guarded state) (taken : step conflicts state (.advance t) = some next) :
    Orderly guarded next := by
  have before := orderly.programs t
  simp only [step] at taken
  split at taken
  · cases taken
  · rename_i l rest todo
    rw [todo] at before
    split at taken
    · rename_i free
      cases taken
      by_cases same : l = guarded
      · subst same
        have absent : ∀ other, (other, l) ∉ state.held := by
          intro other member
          have apart := List.all_eq_true.mp free (other, l) member
          rw [reflexive] at apart
          cases apart
        have zero : state.held.count (t, l) = 0 := List.count_eq_zero.mpr (absent t)
        simp only [clean, if_true, Bool.and_eq_true] at before
        apply orderly.move
        · intro other differs
          rw [List.count_cons_of_ne]
          intro equal
          exact differs (Prod.mk.inj equal).1.symm
        · rw [decide_eq_true List.mem_cons_self]
          exact before.2
        · rw [List.count_cons_self, zero]
      · have kept : ∀ other, ((t, l) :: state.held).count (other, guarded) =
            state.held.count (other, guarded) := by
          intro other
          rw [List.count_cons_of_ne]
          intro equal
          exact same (Prod.mk.inj equal).2
        have member : (t, guarded) ∈ (t, l) :: state.held ↔ (t, guarded) ∈ state.held := by
          rw [← List.count_pos_iff, ← List.count_pos_iff, kept]
        simp only [clean, if_neg same] at before
        apply orderly.move fun other _ => kept other
        · rw [decide_eq_decide.mpr member]
          exact before
        · rw [kept]
          exact orderly.once t
    · cases taken
  · rename_i l rest todo
    rw [todo] at before
    cases taken
    by_cases same : l = guarded
    · subst same
      simp only [clean, if_true, Bool.and_eq_true] at before
      have once := orderly.once t
      have zero : (state.held.erase (t, l)).count (t, l) = 0 := by
        rw [List.count_erase_self]
        omega
      apply orderly.move
      · intro other differs
        rw [List.count_erase_of_ne]
        intro equal
        exact differs (Prod.mk.inj equal).1
      · rw [decide_eq_false (List.count_eq_zero.mp zero)]
        exact before.2
      · omega
    · have kept : ∀ other, (state.held.erase (t, l)).count (other, guarded) =
          state.held.count (other, guarded) := by
        intro other
        rw [List.count_erase_of_ne]
        intro equal
        exact same (Prod.mk.inj equal).2.symm
      have member : (t, guarded) ∈ state.held.erase (t, l) ↔ (t, guarded) ∈ state.held := by
        rw [← List.count_pos_iff, ← List.count_pos_iff, kept]
      simp only [clean, if_neg same] at before
      apply orderly.move fun other _ => kept other
      · rw [decide_eq_decide.mpr member]
        exact before
      · rw [kept]
        exact orderly.once t
  · rename_i b rest todo
    rw [todo] at before
    cases taken
    simp only [clean, Bool.and_eq_true] at before
    exact orderly.move (fun _ _ => rfl) before.2 (orderly.once t)
  · rename_i b rest todo
    rw [todo] at before
    cases taken
    simp only [clean, Bool.and_eq_true] at before
    exact orderly.move (fun _ _ => rfl) before.2 (orderly.once t)

theorem Orderly.abandon {t : Thread} (orderly : Orderly guarded state)
    (taken : step conflicts state (.abandon t) = some next) : Orderly guarded next := by
  cases taken
  have gone : (t, guarded) ∉ state.held.filter fun hold => hold.1 ≠ t := by
    intro member
    have differs := (List.mem_filter.mp member).2
    simp at differs
  apply orderly.move
  · intro other differs
    exact List.count_filter (by simpa using differs)
  · rw [decide_eq_false gone]
    rfl
  · rw [List.count_eq_zero.mpr gone]
    omega

/-- An orderly thread does not hold the lock inside a blocking action. -/
theorem Orderly.not_held {t : Thread} {b : Block} (orderly : Orderly guarded state)
    (inside : state.Inside t b) : (t, guarded) ∉ state.held := by
  obtain ⟨rest, todo⟩ := inside
  have rule := orderly.programs t
  rw [todo] at rule
  simp only [clean, Bool.and_eq_true, Bool.not_eq_true', decide_eq_false_iff_not] at rule
  exact rule.1

end Safety

section Alone

variable {conflicts : Lock → Lock → Bool}

/-- The locks that a thread holds after some actions, if nobody else is there. -/
def walk (conflicts : Lock → Lock → Bool) : List Lock → List (Action Lock Block) →
    Option (List Lock)
  | own, [] => some own
  | own, .lock l :: rest =>
      if own.all fun other => !conflicts l other then walk conflicts (l :: own) rest else none
  | own, .unlock l :: rest => walk conflicts (own.erase l) rest
  | own, .enter _ :: rest => walk conflicts own rest
  | own, .leave _ :: rest => walk conflicts own rest

theorem exec_alone (t : Thread) {actions rest : List (Action Lock Block)} {own after : List Lock}
    (walked : walk conflicts own actions = some after) {state : State Thread Lock Block}
    (todo : state.todo t = actions ++ rest) (held : state.held = own.map (t, ·)) :
    ∃ final, Run.exec (step conflicts) state (List.replicate actions.length (.advance t)) =
        some final ∧ final.todo t = rest ∧ final.held = after.map (t, ·) := by
  induction actions generalizing own state with
  | nil =>
    cases walked
    exact ⟨state, rfl, todo, held⟩
  | cons action actions ih =>
    have advances : ∃ next own', step conflicts state (.advance t) = some next ∧
        next.todo t = actions ++ rest ∧ next.held = own'.map (t, ·) ∧
        walk conflicts own' actions = some after := by
      have moved : ∀ held', ({ state.continue t (actions ++ rest) with held := held' } :
          State Thread Lock Block).todo t = actions ++ rest := by
        intro held'
        exact (todo_continue state t t (actions ++ rest)).trans (if_pos rfl)
      cases action with
      | lock l =>
        simp only [walk] at walked
        split at walked
        · rename_i free
          have available : (state.held.all fun hold => !conflicts l hold.2) = true := by
            rw [held, List.all_map]
            exact free
          refine ⟨_, l :: own, ?_, moved ((t, l) :: state.held), ?_, walked⟩
          · simp only [step, todo, List.cons_append, available, if_true]
          · show (t, l) :: state.held = _
            rw [held, List.map_cons]
        · cases walked
      | unlock l =>
        refine ⟨_, own.erase l, ?_, moved (state.held.erase (t, l)), ?_, walked⟩
        · simp only [step, todo, List.cons_append]
        · show state.held.erase (t, l) = _
          have injective : Function.Injective (Prod.mk t : Lock → Thread × Lock) :=
            fun _ _ equal => (Prod.mk.inj equal).2
          rw [held, List.map_erase injective]
      | enter b =>
        refine ⟨_, own, ?_, moved state.held, held, walked⟩
        simp only [step, todo, List.cons_append]
        rfl
      | leave b =>
        refine ⟨_, own, ?_, moved state.held, held, walked⟩
        simp only [step, todo, List.cons_append]
        rfl
    obtain ⟨next, own', taken, todo', held', walked'⟩ := advances
    obtain ⟨final, ran, ends⟩ := ih walked' todo' held'
    refine ⟨final, ?_, ends⟩
    rw [List.length_cons, List.replicate_succ, Run.exec_cons]
    exact ⟨next, taken, ran⟩

theorem walk_append {own middle : List Lock} {first second : List (Action Lock Block)}
    (walked : walk conflicts own first = some middle) :
    walk conflicts own (first ++ second) = walk conflicts middle second := by
  induction first generalizing own with
  | nil =>
    cases walked
    rfl
  | cons action first ih =>
    cases action with
    | lock l =>
      simp only [walk, List.cons_append] at walked ⊢
      split at walked
      · rename_i free
        rw [if_pos free]
        exact ih walked
      · cases walked
    | unlock l => exact ih walked
    | enter b => exact ih walked
    | leave b => exact ih walked

/-- Alone, the thread gets to a blocking action of the body with the lock in its hands. -/
def Stalls (conflicts : Lock → Lock → Bool) (guarded : Lock) (own : List Lock)
    (body : List (Action Lock Block)) : Prop :=
  ∃ before b rest after, body = before ++ .enter b :: .leave b :: rest ∧
    walk conflicts own before = some after ∧ guarded ∈ after

variable {guarded : Lock} {own : List Lock} {first second body : List (Action Lock Block)}

theorem stalls_blocking (b : Block) (holds : guarded ∈ own) :
    Stalls conflicts guarded own (blocking b : List (Action Lock Block)) :=
  ⟨[], b, [], own, rfl, rfl, holds⟩

theorem Stalls.append_left (stalls : Stalls conflicts guarded own first) :
    Stalls conflicts guarded own (first ++ second) := by
  obtain ⟨before, b, rest, after, same, walked, holds⟩ := stalls
  refine ⟨before, b, rest ++ second, after, ?_, walked, holds⟩
  rw [same, List.append_assoc, List.cons_append, List.cons_append]

theorem Stalls.append_right (walked : walk conflicts own first = some own)
    (stalls : Stalls conflicts guarded own second) :
    Stalls conflicts guarded own (first ++ second) := by
  obtain ⟨before, b, rest, after, same, reached, holds⟩ := stalls
  refine ⟨first ++ before, b, rest, after, ?_, ?_, holds⟩
  · rw [same, List.append_assoc]
  · rw [walk_append walked, reached]

theorem Stalls.locked {l : Lock} (free : own.all fun other => !conflicts l other)
    (stalls : Stalls conflicts guarded (l :: own) body) :
    Stalls conflicts guarded own (locked l body) := by
  obtain ⟨before, b, rest, after, same, walked, holds⟩ := stalls
  refine ⟨.lock l :: before, b, rest ++ [.unlock l], after, ?_, ?_, holds⟩
  · rw [Locks.locked, same, List.append_assoc, List.cons_append, List.cons_append, List.cons_append]
  · simp only [walk, free, if_true, walked]

theorem walk_locked {l : Lock} (free : own.all fun other => !conflicts l other)
    (walked : walk conflicts (l :: own) body = some (l :: own)) :
    walk conflicts own (Locks.locked l body) = some own := by
  simp only [Locks.locked, walk, free, if_true]
  rw [walk_append walked]
  simp only [walk, List.erase_cons_head]

/-- A stalling program brings its thread into the blocking action. -/
theorem Stalls.reached {t : Thread} {program : List (Action Lock Block)}
    (stalls : Stalls conflicts guarded [] program) :
    ∃ count state, Run.exec (step conflicts) idle
        (.start t program :: List.replicate count (.advance t)) = some state ∧
      ∃ b, state.Inside t b ∧ (t, guarded) ∈ state.held := by
  obtain ⟨before, b, rest, after, same, walked, holds⟩ := stalls
  have entered : walk conflicts [] (before ++ [.enter b]) = some after := walk_append walked
  have todo : ((idle : State Thread Lock Block).continue t program).todo t =
      (before ++ [.enter b]) ++ .leave b :: rest := by
    rw [todo_continue, if_pos rfl, same, List.append_assoc, List.singleton_append]
  obtain ⟨final, ran, inside, held⟩ := exec_alone t entered todo rfl
  refine ⟨_, final, Run.exec_cons.mpr ⟨_, rfl, ran⟩, b, ⟨rest, inside⟩, ?_⟩
  rw [held]
  exact List.mem_map_of_mem holds

end Alone

end Locks
