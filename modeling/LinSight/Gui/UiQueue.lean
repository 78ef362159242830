import LinSight.Library.Run
import Mathlib.Tactic

set_option autoImplicit false

/-! The slot and the flag through which the sample pump hands its updates to the UI thread.
Each access to one of them is a step; queueing on the UI thread succeeds. -/

namespace LinSight.Gui

/-- Where the pump is in `queue_sample_ui_update`: between calls, after the write of the
slot, or after a swap that found the flag clear. -/
inductive Producer where
  | idle
  | stored
  | queueing
deriving DecidableEq

/-- Where the drain is that the UI thread runs. -/
inductive Drain (α : Type) where
  | idle
  | running
  | taken (update : Option α)
  | applied
  | cleared
  | found
  | requeueing
deriving DecidableEq

/-- `queued` is the flag, `drains` counts the drains that wait on the UI thread, and `shown`
are the updates that were applied. -/
structure UiQueue (α : Type) where
  pending : Option α
  queued : Bool
  producer : Producer
  drains : Nat
  drain : Drain α
  shown : List α
deriving DecidableEq

namespace UiQueue

variable {α : Type}

def start : UiQueue α := ⟨none, false, .idle, 0, .idle, []⟩

inductive Event (α : Type) where
  | store (update : α)
  | swap
  | enqueue
  | begin
  | take
  | apply
  | clear
  | check
  | reswap
  | requeue

/-- `store`, up to the swap of the flag. -/
def store (q : UiQueue α) (update : α) : UiQueue α :=
  { q with pending := some update, producer := .stored }

/-- The swap; it tells the caller to queue a drain where the flag was clear. -/
def swap (q : UiQueue α) : UiQueue α :=
  { q with queued := true, producer := if q.queued then .idle else .queueing }

/-- The swap of `finish_and_should_requeue`. -/
def reswap (q : UiQueue α) : UiQueue α :=
  { q with queued := true, drain := if q.queued then .idle else .requeueing }

def step (q : UiQueue α) : Event α → Option (UiQueue α)
  | .store update => Run.enabled (q.producer = .idle) (q.store update)
  | .swap => Run.enabled (q.producer = .stored) q.swap
  | .enqueue => Run.enabled (q.producer = .queueing)
      { q with drains := q.drains + 1, producer := .idle }
  | .begin =>
      match q.drain with
      | .idle => Run.enabled (0 < q.drains) { q with drains := q.drains - 1, drain := .running }
      | _ => none
  | .take =>
      match q.drain with
      | .running => some { q with pending := none, drain := .taken q.pending }
      | _ => none
  | .apply =>
      match q.drain with
      | .taken update => some { q with drain := .applied, shown := q.shown ++ update.toList }
      | _ => none
  | .clear =>
      match q.drain with
      | .applied => some { q with queued := false, drain := .cleared }
      | _ => none
  | .check =>
      match q.drain with
      | .cleared => some { q with drain := if q.pending.isNone then .idle else .found }
      | _ => none
  | .reswap =>
      match q.drain with
      | .found => some q.reswap
      | _ => none
  | .requeue =>
      match q.drain with
      | .requeueing => some { q with drains := q.drains + 1, drain := .idle }
      | _ => none

/-- A step of the UI thread. -/
def Event.onUi : Event α → Bool
  | .store _ => false
  | .swap => false
  | .enqueue => false
  | _ => true

/-- The drain has the flag: it has not cleared it yet, or has set it again. -/
def hasFlag : Drain α → Bool
  | .running => true
  | .taken _ => true
  | .applied => true
  | .requeueing => true
  | _ => false

/-- The drain has not found the slot empty in its last check. -/
def checksYet (q : UiQueue α) : Drain α → Bool
  | .idle => false
  | .found => !q.queued
  | _ => true

/-- What the UI thread has taken and not shown yet. -/
def inHand : Drain α → List α
  | .taken update => update.toList
  | _ => []

/-- All that is shown once the queued drains have run. -/
def due (q : UiQueue α) : List α := q.shown ++ inHand q.drain ++ q.pending.toList

/-- The flag counts the drains that wait, run or are about to be queued, and an update in the
slot has the pump, the flag, or a drain that looks for it again. -/
structure Sound (q : UiQueue α) : Prop where
  flag : q.drains + (hasFlag q.drain).toNat + (decide (q.producer = .queueing)).toNat =
    q.queued.toNat
  covered : q.pending.isSome = true →
    q.producer = .stored ∨ q.queued = true ∨ q.drain = .cleared ∨ q.drain = .found

/-- What each step finds and what it leaves. -/
inductive Stepped (q : UiQueue α) : Event α → UiQueue α → Prop where
  | store (update : α) (idle : q.producer = .idle) : Stepped q (.store update) (q.store update)
  | swap (stored : q.producer = .stored) : Stepped q .swap q.swap
  | enqueue (queueing : q.producer = .queueing) :
      Stepped q .enqueue { q with drains := q.drains + 1, producer := .idle }
  | begin (idle : q.drain = .idle) (waiting : 0 < q.drains) :
      Stepped q .begin { q with drains := q.drains - 1, drain := .running }
  | take (running : q.drain = .running) :
      Stepped q .take { q with pending := none, drain := .taken q.pending }
  | apply (update : Option α) (holding : q.drain = .taken update) :
      Stepped q .apply { q with drain := .applied, shown := q.shown ++ update.toList }
  | clear (applied : q.drain = .applied) :
      Stepped q .clear { q with queued := false, drain := .cleared }
  | check (cleared : q.drain = .cleared) :
      Stepped q .check { q with drain := if q.pending.isNone then .idle else .found }
  | reswap (found : q.drain = .found) : Stepped q .reswap q.reswap
  | requeue (requeueing : q.drain = .requeueing) :
      Stepped q .requeue { q with drains := q.drains + 1, drain := .idle }

section Invariant

variable {q next : UiQueue α}

theorem stepped {event : Event α} (taken : q.step event = some next) : q.Stepped event next := by
  cases event with
  | store update =>
      obtain ⟨idle, same⟩ := Run.enabled_eq_some.mp taken
      exact same ▸ .store update idle
  | swap =>
      obtain ⟨stored, same⟩ := Run.enabled_eq_some.mp taken
      exact same ▸ .swap stored
  | enqueue =>
      obtain ⟨queueing, same⟩ := Run.enabled_eq_some.mp taken
      exact same ▸ .enqueue queueing
  | begin =>
      simp only [UiQueue.step] at taken
      split at taken
      · rename_i idle
        obtain ⟨waiting, same⟩ := Run.enabled_eq_some.mp taken
        exact same ▸ .begin idle waiting
      · cases taken
  | take | apply | clear | check | reswap | requeue =>
      simp only [UiQueue.step] at taken
      split at taken
      · rename_i here
        cases taken
        constructor
        exact here
      · cases taken

/-- Before the flag is cleared an update in the slot has the pump or the flag. -/
theorem Sound.flagged (sound : q.Sound) (filled : q.pending.isSome = true)
    (uncleared : q.drain ≠ .cleared) (unfound : q.drain ≠ .found) :
    q.producer = .stored ∨ q.queued = true := by
  rcases sound.covered filled with stored | queued | cleared | found
  · exact .inl stored
  · exact .inr queued
  · exact absurd cleared uncleared
  · exact absurd found unfound

theorem Sound.step {event : Event α} (taken : q.step event = some next) (sound : q.Sound) :
    next.Sound := by
  have flag := sound.flag
  cases stepped taken with
  | store update idle =>
      constructor
      · rw [idle] at flag
        exact flag
      · intro _
        exact .inl rfl
  | swap stored =>
      constructor
      · rw [stored] at flag
        cases queued : q.queued
        all_goals
          rw [queued] at flag
          simp [UiQueue.swap, queued] at flag ⊢
          omega
      · intro _
        exact .inr (.inl rfl)
  | enqueue queueing =>
      constructor
      · rw [queueing] at flag
        simp at flag ⊢
        omega
      · intro filled
        exact (sound.covered filled).imp_left fun stored => by
          rw [queueing] at stored
          cases stored
  | begin idle waiting =>
      constructor
      · rw [idle] at flag
        simp only [hasFlag, Bool.toNat_false, Bool.toNat_true] at flag ⊢
        omega
      · intro filled
        exact (sound.flagged filled (by simp [idle]) (by simp [idle])).imp_right .inl
  | take running =>
      constructor
      · rw [running] at flag
        exact flag
      · intro filled
        cases filled
  | apply update holding =>
      constructor
      · rw [holding] at flag
        exact flag
      · intro filled
        exact (sound.flagged filled (by simp [holding]) (by simp [holding])).imp_right .inl
  | clear applied =>
      constructor
      · rw [applied] at flag
        have bound : q.queued.toNat ≤ 1 := Bool.toNat_le q.queued
        simp only [hasFlag, Bool.toNat_false, Bool.toNat_true] at flag ⊢
        omega
      · intro _
        exact .inr (.inr (.inl rfl))
  | check cleared =>
      constructor
      · rw [cleared] at flag
        cases q.pending <;> exact flag
      · intro filled
        have full : q.pending.isNone = false := by
          rw [Option.isNone_eq_false_iff]
          exact filled
        simp [full]
  | reswap found =>
      constructor
      · rw [found] at flag
        cases queued : q.queued
        all_goals
          rw [queued] at flag
          simp only [UiQueue.reswap, hasFlag, queued, Bool.toNat_true, Bool.toNat_false, if_true,
            if_false, Bool.false_eq_true] at flag ⊢
          omega
      · intro _
        exact .inr (.inl rfl)
  | requeue requeueing =>
      constructor
      · rw [requeueing] at flag
        simp only [hasFlag, Bool.toNat_false, Bool.toNat_true] at flag ⊢
        omega
      · intro filled
        have either := sound.flagged filled (by simp [requeueing]) (by simp [requeueing])
        exact either.imp_right .inl

theorem start_sound : (start : UiQueue α).Sound where
  flag := rfl
  covered := fun filled => by cases filled

theorem sound_of_run {events : List (Event α)} (ran : Run.exec UiQueue.step start events = some q) :
    q.Sound :=
  Run.exec_invariant (fun _ _ _ taken sound => Sound.step taken sound) ran start_sound

end Invariant

section Progress

variable {q next : UiQueue α}

/-- How much the UI thread has still to do while the pump is between calls. -/
def remaining (q : UiQueue α) : Nat :=
  q.drains * 6 + match q.drain with
    | .idle => 0
    | .running => 5
    | .taken _ => 4 + q.pending.toList.length * 8
    | .applied => 3 + q.pending.toList.length * 8
    | .cleared => 2 + q.pending.toList.length * 8
    | .found => 9
    | .requeueing => 8

/-- The UI thread applies what it has in hand and then what is in the slot. -/
theorem due_step {event : Event α} (taken : q.step event = some next)
    (kept : ∀ update, event ≠ .store update) :
    next.due = q.due ∧ (next.pending = q.pending ∨ next.pending = none) := by
  cases stepped taken with
  | store update idle => exact absurd rfl (kept update)
  | swap stored => exact ⟨rfl, .inl rfl⟩
  | enqueue queueing => exact ⟨rfl, .inl rfl⟩
  | begin idle waiting =>
      refine ⟨?_, .inl rfl⟩
      simp only [due, idle, inHand]
  | take running =>
      refine ⟨?_, .inr rfl⟩
      simp only [due, running, inHand, Option.toList_none, List.append_nil]
  | apply update holding =>
      refine ⟨?_, .inl rfl⟩
      simp only [due, holding, inHand, List.append_nil]
  | clear applied =>
      refine ⟨?_, .inl rfl⟩
      simp only [due, applied, inHand]
  | check cleared =>
      refine ⟨?_, .inl rfl⟩
      cases pending : q.pending <;> simp [due, cleared, inHand, pending]
  | reswap found =>
      refine ⟨?_, .inl rfl⟩
      cases queued : q.queued <;> simp [due, UiQueue.reswap, queued, found, inHand]
  | requeue requeueing =>
      refine ⟨?_, .inl rfl⟩
      simp only [due, requeueing, inHand]

theorem ne_store_of_onUi {event : Event α} (on_ui : event.onUi = true) (update : α) :
    event ≠ .store update := by
  intro same
  rw [same] at on_ui
  cases on_ui

theorem producer_step {event : Event α} (taken : q.step event = some next)
    (on_ui : event.onUi = true) : next.producer = q.producer := by
  cases stepped taken with
  | store | swap | enqueue => cases on_ui
  | begin | take | apply | clear | check | reswap | requeue => rfl

/-- Unless it has nothing to do, the UI thread has a step, and it comes nearer to its end. -/
theorem exists_step (busy : 0 < q.drains ∨ q.drain ≠ .idle) :
    ∃ event next, event.onUi = true ∧ q.step event = some next ∧ next.remaining < q.remaining := by
  cases drain : q.drain with
  | idle =>
      have waiting : 0 < q.drains := busy.resolve_right (fun other => other drain)
      refine ⟨.begin, { q with drains := q.drains - 1, drain := .running }, rfl, ?_, ?_⟩
      · simp only [step, drain, Run.enabled, waiting, if_true]
      · simp only [remaining, drain]
        omega
  | running =>
      refine ⟨.take, { q with pending := none, drain := .taken q.pending }, rfl, ?_, ?_⟩
      · simp only [step, drain]
      · simp [remaining, drain]
  | taken update =>
      refine ⟨.apply, { q with drain := .applied, shown := q.shown ++ update.toList }, rfl, ?_, ?_⟩
      · simp only [step, drain]
      · simp [remaining, drain]
  | applied =>
      refine ⟨.clear, { q with queued := false, drain := .cleared }, rfl, ?_, ?_⟩
      · simp only [step, drain]
      · simp [remaining, drain]
  | cleared =>
      refine ⟨.check, { q with drain := if q.pending.isNone then .idle else .found }, rfl, ?_, ?_⟩
      · simp only [step, drain]
      · cases pending : q.pending <;> simp [remaining, drain, pending]
  | found =>
      refine ⟨.reswap, q.reswap, rfl, ?_, ?_⟩
      · simp only [step, drain]
      · cases queued : q.queued <;> simp [remaining, reswap, drain, queued]
  | requeueing =>
      refine ⟨.requeue, { q with drains := q.drains + 1, drain := .idle }, rfl, ?_, ?_⟩
      · simp only [step, drain]
      · simp only [remaining, drain]
        omega

/-- The UI thread comes to rest by itself, with everything shown. -/
theorem exists_rest (sound : q.Sound) (idle : q.producer = .idle) :
    ∃ (rest : List (Event α)) (final : UiQueue α), (∀ event ∈ rest, event.onUi = true) ∧
      Run.exec step q rest = some final ∧ final.pending = none ∧ final.drains = 0 ∧
      final.drain = .idle ∧ final.shown = q.due := by
  induction left : q.remaining using Nat.strongRecOn generalizing q with
  | ind left ih =>
      by_cases busy : 0 < q.drains ∨ q.drain ≠ .idle
      · obtain ⟨event, next, on_ui, taken, nearer⟩ := exists_step busy
        have still : next.producer = .idle := (producer_step taken on_ui).trans idle
        obtain ⟨rest, final, all, ran, empty, none_, quiet, shown⟩ :=
          ih next.remaining (by omega) (sound.step taken) still rfl
        refine ⟨event :: rest, final, ?_, Run.exec_cons.mpr ⟨next, taken, ran⟩, empty, none_, quiet,
          shown.trans (due_step taken (ne_store_of_onUi on_ui)).1⟩
        intro other member
        rcases List.mem_cons.mp member with first | later
        · rw [first]
          exact on_ui
        · exact all other later
      · have waiting : q.drains = 0 := by omega
        have quiet : q.drain = .idle := by
          by_contra other
          exact busy (.inr other)
        have empty : q.pending = none := by
          by_contra some_
          have flag := sound.flag
          rw [waiting, quiet, idle] at flag
          have filled := Option.isSome_iff_ne_none.mpr some_
          rcases sound.flagged filled (by simp [quiet]) (by simp [quiet]) with stored | queued
          · rw [idle] at stored
            cases stored
          · rw [queued] at flag
            cases flag
        refine ⟨[], q, ?_, rfl, empty, waiting, quiet, ?_⟩
        · intro event member
          cases member
        · simp [due, quiet, empty, inHand]

end Progress

section Runs

variable {q : UiQueue α}

/-- Over every interleaving at most one drain waits or runs with the flag; an update in the
slot while the pump is between calls has a drain that waits, or one that runs and looks for
it or queues itself again; and the UI thread by itself then shows it. -/
theorem uiQueue_hands_over {events : List (Event α)}
    (ran : Run.exec step start events = some q) :
    q.drains + (hasFlag q.drain).toNat ≤ 1 ∧
    (q.pending.isSome = true → q.producer = .idle →
      0 < q.drains ∨ q.checksYet q.drain = true) ∧
    (q.producer = .idle → ∃ (rest : List (Event α)) (final : UiQueue α),
      (∀ event ∈ rest, event.onUi = true) ∧ Run.exec step q rest = some final ∧
        final.pending = none ∧ final.drains = 0 ∧ final.drain = .idle ∧ final.shown = q.due) := by
  have sound := sound_of_run ran
  have flag := sound.flag
  refine ⟨?single, ?covered, exists_rest sound⟩
  case single =>
    have bound : q.queued.toNat ≤ 1 := Bool.toNat_le q.queued
    omega
  case covered =>
    intro filled idle
    rw [idle] at flag
    have unstored : q.producer ≠ .stored := by
      rw [idle]
      exact Producer.noConfusion
    cases drain : q.drain with
    | idle =>
        have either := sound.flagged filled (by simp [drain]) (by simp [drain])
        have queued : q.queued = true := either.resolve_left unstored
        rw [drain, queued] at flag
        simp [hasFlag] at flag
        omega
    | found =>
        cases queued : q.queued with
        | true =>
            rw [drain, queued] at flag
            simp [hasFlag] at flag
            omega
        | false =>
            right
            simp only [checksYet, queued, Bool.not_false]
    | running => exact .inr rfl
    | taken update => exact .inr rfl
    | applied => exact .inr rfl
    | cleared => exact .inr rfl
    | requeueing => exact .inr rfl

theorem uiQueue_hands_over_late : ∃ q : UiQueue Nat,
    Run.exec step start [.store 1, .swap, .enqueue, .begin, .take, .store 2, .swap] = some q ∧
      ∃ (rest : List (Event Nat)) (final : UiQueue Nat), (∀ event ∈ rest, event.onUi = true) ∧
        Run.exec step q rest = some final ∧ final.pending = none ∧ final.drains = 0 ∧
          final.drain = .idle ∧ final.shown = [1, 2] := by
  have ran : Run.exec step start [.store 1, .swap, .enqueue, .begin, .take, .store 2, .swap] =
      some (⟨some 2, true, .idle, 0, .taken (some 1), []⟩ : UiQueue Nat) := by decide
  exact ⟨_, ran, (uiQueue_hands_over ran).2.2 rfl⟩

/-- A drain waits while the one before it has still to check the slot, and a drain has done
its last check of a full slot before it queues itself again. -/
theorem drains_overlap :
    Run.exec step start [.store 1, .swap, .enqueue, .begin, .take, .apply, .clear, .store 2, .swap,
      .enqueue] = some (⟨some 2, true, .idle, 1, .cleared, [1]⟩ : UiQueue Nat) ∧
    Run.exec step start [.store 1, .swap, .enqueue, .begin, .take, .store 2, .swap, .apply, .clear,
      .check] = some (⟨some 2, false, .idle, 0, .found, [1]⟩ : UiQueue Nat) := by
  decide

end Runs

end UiQueue

end LinSight.Gui
