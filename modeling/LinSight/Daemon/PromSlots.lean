import LinSight.Library.Admission
import LinSight.Library.Run

set_option autoImplicit false

/-! The connections of the Prometheus exporter. Its accept loop looks at the counter and counts
only then, while the workers count down. -/

namespace LinSight.Daemon.PromSlots

open Admission (Event Holders)

def maxPromConnections : Nat := 10

def usizeSize : Nat := 2 ^ 64

/-- `fetch_add` and `fetch_sub` wrap around. -/
def fetchAdd (active : Nat) : Nat := (active + 1) % usizeSize

def fetchSub (active : Nat) : Nat := (active + (usizeSize - 1)) % usizeSize

/-- Where a connection stands. -/
inductive Phase where
  | absent
  | accepted
  | timed
  /-- The counter was at the cap. -/
  | turnedAway
  /-- The counter was below the cap, and the connection is not counted yet. -/
  | cleared
  | counted
  /-- `thread::spawn` has panicked: the accept loop is gone, and the count stays. -/
  | lost
  | spawned
  | serving
  | closed
deriving DecidableEq

inductive Accepting where
  | polling
  | handling (conn : Nat)
  | exited
  | panicked
deriving DecidableEq

structure Exporter where
  active : Nat
  shutdown : Bool
  loop : Accepting
  accepted : Nat
  phase : Nat → Phase

def Exporter.start : Exporter := ⟨0, false, .polling, 0, fun _ => .absent⟩

inductive Label where
  | accept
  | setReadTimeout (ok : Bool)
  | load
  | unavailable
  | fetchAdd
  | spawn (ok : Bool)
  | shutdown
  | exit
  | serve (conn : Nat)
  | dropSlot (conn : Nat)
deriving DecidableEq

namespace Exporter

def move (e : Exporter) (conn : Nat) (after : Phase) : Exporter :=
  { e with phase := Function.update e.phase conn after }

def inHand (e : Exporter) : Option (Nat × Phase) :=
  match e.loop with
  | .handling conn => some (conn, e.phase conn)
  | _ => none

def step (e : Exporter) : Label → Option Exporter
  | .accept =>
      Run.enabled (e.loop = .polling ∧ e.shutdown = false)
        { e.move e.accepted .accepted with
          loop := .handling e.accepted
          accepted := e.accepted + 1 }
  | .setReadTimeout ok =>
      match e.inHand with
      | some (conn, .accepted) =>
          if ok then some (e.move conn .timed)
          else some { e.move conn .closed with loop := .polling }
      | _ => none
  | .load =>
      match e.inHand with
      | some (conn, .timed) =>
          if maxPromConnections ≤ e.active then some (e.move conn .turnedAway)
          else some (e.move conn .cleared)
      | _ => none
  | .unavailable =>
      match e.inHand with
      | some (conn, .turnedAway) => some { e.move conn .closed with loop := .polling }
      | _ => none
  | .fetchAdd =>
      match e.inHand with
      | some (conn, .cleared) =>
          some { e.move conn .counted with active := PromSlots.fetchAdd e.active }
      | _ => none
  | .spawn ok =>
      match e.inHand with
      | some (conn, .counted) =>
          if ok then some { e.move conn .spawned with loop := .polling }
          else some { e.move conn .lost with loop := .panicked }
      | _ => none
  | .shutdown => some { e with shutdown := true }
  | .exit => Run.enabled (e.loop = .polling ∧ e.shutdown = true) { e with loop := .exited }
  | .serve conn => Run.enabled (e.phase conn = .spawned) (e.move conn .serving)
  | .dropSlot conn =>
      Run.enabled (e.phase conn = .serving)
        { e.move conn .closed with active := PromSlots.fetchSub e.active }

/-- A step as seen at a gate: refused where the counter is read, let in where it is counted. -/
def events (e : Exporter) : Label → List (Event Nat)
  | .load =>
      match e.inHand with
      | some (conn, _) => if maxPromConnections ≤ e.active then [.refuse conn] else []
      | none => []
  | .fetchAdd =>
      match e.inHand with
      | some (conn, _) => [.enter conn]
      | none => []
  | .dropSlot conn => [.leave conn]
  | _ => []

end Exporter

/-- The connection has one of the slots. -/
def Phase.holds : Phase → Bool
  | .counted | .lost | .spawned | .serving => true
  | .absent | .accepted | .timed | .turnedAway | .cleared | .closed => false

/-- The phase is one of the accept loop. -/
def Phase.early : Phase → Bool
  | .accepted | .timed | .turnedAway | .cleared | .counted => true
  | .absent | .lost | .spawned | .serving | .closed => false

/-- The exporter and the gate. A connection that has been cleared still finds room, as only the
accept loop counts up. -/
structure Matches (e : Exporter) (inside : Finset Nat) : Prop where
  fresh : ∀ conn, e.accepted ≤ conn → e.phase conn = .absent
  early : ∀ conn, (e.phase conn).early = true → e.loop = .handling conn
  holders : Holders Phase.holds e.phase inside
  active : e.active = inside.card
  room : inside.card ≤ maxPromConnections
  cleared : ∀ conn, e.phase conn = .cleared → inside.card < maxPromConnections
  lost : (∃ conn, e.phase conn = .lost) → e.loop = .panicked

variable {e next : Exporter} {inside : Finset Nat}

theorem fetchAdd_eq {active : Nat} (small : active ≤ maxPromConnections) :
    fetchAdd active = active + 1 := by
  have bound : maxPromConnections = 10 := rfl
  simp only [fetchAdd, usizeSize]
  omega

theorem fetchSub_eq {active : Nat} (small : active ≤ maxPromConnections) :
    fetchSub (active + 1) = active := by
  have bound : maxPromConnections = 10 := rfl
  simp only [fetchSub, usizeSize]
  omega

theorem inHand_eq_some {conn : Nat} {phase : Phase} :
    e.inHand = some (conn, phase) ↔ e.loop = .handling conn ∧ e.phase conn = phase := by
  unfold Exporter.inHand
  cases e.loop with
  | polling => simp
  | exited => simp
  | panicked => simp
  | handling other =>
      simp only [Option.some.injEq, Prod.mk.injEq, Accepting.handling.injEq]
      constructor
      · rintro ⟨rfl, same⟩
        exact ⟨rfl, same⟩
      · rintro ⟨rfl, same⟩
        exact ⟨rfl, same⟩

/-- A connection goes on: the one in hand, or one in its thread, which takes no slot. -/
theorem Matches.move (rel : Matches e inside) {conn : Nat} (after : Phase) (loop : Accepting)
    (active : Nat) {inside' : Finset Nat} (present : e.phase conn ≠ .absent)
    (busy : e.loop = .handling conn ∨ loop = e.loop ∧ inside'.card ≤ inside.card)
    (stays : after.early = true → loop = .handling conn)
    (holders : Holders Phase.holds (Function.update e.phase conn after) inside')
    (count : active = inside'.card) (room : inside'.card ≤ maxPromConnections)
    (cleared : after = .cleared → inside'.card < maxPromConnections)
    (lost : after = .lost → loop = .panicked) :
    Matches { e.move conn after with loop, active } inside' where
  fresh other beyond := by
    have differs : other ≠ conn := fun same => present (rel.fresh conn (same ▸ beyond))
    show Function.update e.phase conn after other = _
    rw [Function.update_of_ne differs]
    exact rel.fresh other beyond
  early other early := by
    change (Function.update e.phase conn after other).early = true at early
    by_cases same : other = conn
    · subst same
      rw [Function.update_self] at early
      exact stays early
    · rw [Function.update_of_ne same] at early
      have handled := rel.early other early
      rcases busy with busy | ⟨kept, _⟩
      · rw [busy, Accepting.handling.injEq] at handled
        exact absurd handled.symm same
      · exact kept.trans handled
  holders := holders
  active := count
  room := room
  cleared other here := by
    change Function.update e.phase conn after other = .cleared at here
    by_cases same : other = conn
    · subst same
      rw [Function.update_self] at here
      exact cleared here
    · rw [Function.update_of_ne same] at here
      have handled := rel.early other (by rw [here]; rfl)
      have before := rel.cleared other here
      rcases busy with busy | ⟨_, fewer⟩
      · rw [busy, Accepting.handling.injEq] at handled
        exact absurd handled.symm same
      · omega
  lost some_lost := by
    obtain ⟨other, here⟩ := some_lost
    change Function.update e.phase conn after other = .lost at here
    by_cases same : other = conn
    · subst same
      rw [Function.update_self] at here
      exact lost here
    · rw [Function.update_of_ne same] at here
      have gone := rel.lost ⟨other, here⟩
      rcases busy with busy | ⟨kept, _⟩
      · rw [busy] at gone
        cases gone
      · exact kept.trans gone

theorem present_of_early {conn : Nat} (early : (e.phase conn).early = true) :
    e.phase conn ≠ .absent := by
  intro absent
  rw [absent] at early
  cases early

/-- The connection in hand goes on, and its slot is as it was. -/
theorem Matches.keep (rel : Matches e inside) {conn : Nat} (after : Phase) (loop : Accepting)
    (busy : e.loop = .handling conn) (early : (e.phase conn).early = true)
    (stays : after.early = true → loop = .handling conn)
    (same : (e.phase conn).holds = after.holds)
    (cleared : after = .cleared → inside.card < maxPromConnections)
    (lost : after = .lost → loop = .panicked) :
    Matches { e.move conn after with loop } inside :=
  rel.move after loop e.active (present_of_early early) (.inl busy) stays
    (rel.holders.keep same) rel.active rel.room cleared lost

/-- The gate sees nothing of this step. -/
theorem unseen (inside : Finset Nat) {seen : List (Event Nat)} (nothing : seen = [])
    (kept : Matches next inside) :
    ∃ inside', Run.exec (Admission.pass maxPromConnections) inside seen = some inside' ∧
      Matches next inside' :=
  ⟨inside, nothing ▸ rfl, kept⟩

theorem Matches.accept (rel : Matches e inside) (idle : e.loop = .polling) :
    Matches
      { e.move e.accepted .accepted with loop := .handling e.accepted, accepted := e.accepted + 1 }
      inside where
  fresh conn beyond := by
    change e.accepted + 1 ≤ conn at beyond
    show Function.update e.phase e.accepted .accepted conn = .absent
    rw [Function.update_of_ne (by omega)]
    exact rel.fresh conn (by omega)
  early conn early := by
    change (Function.update e.phase e.accepted .accepted conn).early = true at early
    by_cases same : conn = e.accepted
    · rw [same]
    · rw [Function.update_of_ne same] at early
      have busy := rel.early conn early
      rw [idle] at busy
      cases busy
  holders := by
    apply rel.holders.keep
    rw [rel.fresh _ (Nat.le_refl _)]
    rfl
  active := rel.active
  room := rel.room
  cleared conn here := by
    change Function.update e.phase e.accepted .accepted conn = .cleared at here
    by_cases same : conn = e.accepted
    · rw [same, Function.update_self] at here
      cases here
    · rw [Function.update_of_ne same] at here
      exact rel.cleared conn here
  lost some_lost := by
    obtain ⟨conn, here⟩ := some_lost
    change Function.update e.phase e.accepted .accepted conn = .lost at here
    by_cases same : conn = e.accepted
    · rw [same, Function.update_self] at here
      cases here
    · rw [Function.update_of_ne same] at here
      have gone := rel.lost ⟨conn, here⟩
      rw [idle] at gone
      cases gone

theorem setReadTimeout_matches {ok : Bool} (taken : e.step (.setReadTimeout ok) = some next)
    (rel : Matches e inside) : Matches next inside := by
  unfold Exporter.step at taken
  dsimp only at taken
  split at taken
  · rename_i conn here
    obtain ⟨busy, phase⟩ := inHand_eq_some.mp here
    have early : (e.phase conn).early = true := by rw [phase]; rfl
    split at taken
    · cases taken
      exact rel.keep .timed e.loop busy early (fun _ => busy)
        (by rw [phase]; rfl) nofun nofun
    · cases taken
      exact rel.keep .closed .polling busy early nofun (by rw [phase]; rfl) nofun nofun
  · cases taken

/-- A connection is turned away only while all slots are taken. -/
theorem load_matches (taken : e.step .load = some next) (rel : Matches e inside) :
    ∃ inside', Run.exec (Admission.pass maxPromConnections) inside (e.events .load) =
      some inside' ∧ Matches next inside' := by
  unfold Exporter.step at taken
  dsimp only at taken
  split at taken
  · rename_i conn here
    obtain ⟨busy, phase⟩ := inHand_eq_some.mp here
    have early : (e.phase conn).early = true := by rw [phase]; rfl
    have active := rel.active
    unfold Exporter.events
    rw [here]
    split at taken
    · rename_i full
      cases taken
      refine ⟨inside, ?_, ?_⟩
      · simp only [full, ↓reduceIte]
        exact Admission.exec_singleton (Run.enabled_eq_some.mpr ⟨by omega, rfl⟩)
      · exact rel.keep .turnedAway e.loop busy early (fun _ => busy)
          (by rw [phase]; rfl) nofun nofun
    · rename_i room
      cases taken
      refine ⟨inside, ?_, ?_⟩
      · simp only [room, ↓reduceIte]
        rfl
      · exact rel.keep .cleared e.loop busy early (fun _ => busy)
          (by rw [phase]; rfl) (fun _ => by omega) nofun
  · cases taken

theorem unavailable_matches (taken : e.step .unavailable = some next) (rel : Matches e inside) :
    Matches next inside := by
  unfold Exporter.step at taken
  dsimp only at taken
  split at taken
  · rename_i conn here
    obtain ⟨busy, phase⟩ := inHand_eq_some.mp here
    cases taken
    exact rel.keep .closed .polling busy (by rw [phase]; rfl) nofun (by rw [phase]; rfl) nofun
      nofun
  · cases taken

/-- The slots may have become fewer since the counter was read, and never more. -/
theorem fetchAdd_matches (taken : e.step .fetchAdd = some next) (rel : Matches e inside) :
    ∃ inside', Run.exec (Admission.pass maxPromConnections) inside (e.events .fetchAdd) =
      some inside' ∧ Matches next inside' := by
  unfold Exporter.step at taken
  dsimp only at taken
  split at taken
  · rename_i conn here
    obtain ⟨busy, phase⟩ := inHand_eq_some.mp here
    have early : (e.phase conn).early = true := by rw [phase]; rfl
    have room := rel.cleared conn phase
    obtain rfl := Option.some.inj taken
    obtain ⟨passed, holders, card⟩ := rel.holders.enter maxPromConnections conn
      Phase.counted (by rw [phase]; rfl) rfl room
    refine ⟨insert conn inside, ?_, ?_⟩
    · unfold Exporter.events
      rw [here]
      exact Admission.exec_singleton passed
    · apply rel.move .counted e.loop _ (present_of_early early) (.inl busy) (fun _ => busy) holders
      · rw [rel.active, card]
        exact fetchAdd_eq rel.room
      · omega
      · exact nofun
      · exact nofun
  · cases taken

theorem spawn_matches {ok : Bool} (taken : e.step (.spawn ok) = some next)
    (rel : Matches e inside) : Matches next inside := by
  unfold Exporter.step at taken
  dsimp only at taken
  split at taken
  · rename_i conn here
    obtain ⟨busy, phase⟩ := inHand_eq_some.mp here
    have early : (e.phase conn).early = true := by rw [phase]; rfl
    split at taken
    · cases taken
      exact rel.keep .spawned .polling busy early nofun (by rw [phase]; rfl) nofun nofun
    · cases taken
      exact rel.keep .lost .panicked busy early nofun (by rw [phase]; rfl) nofun (fun _ => rfl)
  · cases taken

theorem serve_matches {conn : Nat} (taken : e.step (.serve conn) = some next)
    (rel : Matches e inside) : Matches next inside := by
  obtain ⟨phase, rfl⟩ := Run.enabled_eq_some.mp taken
  apply rel.move .serving e.loop e.active ?_
    (.inr ⟨rfl, Nat.le_refl _⟩) nofun (rel.holders.keep (by rw [phase]; rfl)) rel.active rel.room
    nofun nofun
  rw [phase]
  exact Phase.noConfusion

/-- A worker ends, and its slot is free. -/
theorem dropSlot_matches {conn : Nat} (taken : e.step (.dropSlot conn) = some next)
    (rel : Matches e inside) :
    ∃ inside', Run.exec (Admission.pass maxPromConnections) inside (e.events (.dropSlot conn)) =
      some inside' ∧ Matches next inside' := by
  obtain ⟨phase, rfl⟩ := Run.enabled_eq_some.mp taken
  obtain ⟨passed, holders, card⟩ := rel.holders.exit maxPromConnections conn Phase.closed
    (by rw [phase]; rfl) rfl
  have room := rel.room
  refine ⟨inside.erase conn, Admission.exec_singleton passed, ?_⟩
  apply rel.move .closed e.loop _ ?_ (.inr ⟨rfl, by omega⟩) nofun holders ?_
    (by omega) nofun nofun
  · rw [phase]
    exact Phase.noConfusion
  · rw [rel.active, ← card]
    exact fetchSub_eq (by omega)

/-- The exporter's flag and the end of its loop are nothing to the gate. -/
theorem Matches.idle (rel : Matches e inside) {shutdown : Bool} {loop : Accepting}
    (kept : loop = e.loop ∨ e.loop = .polling ∧ loop = .exited) :
    Matches { e with shutdown, loop } inside where
  fresh := rel.fresh
  early conn early := by
    have busy := rel.early conn early
    rcases kept with same | ⟨idle, _⟩
    · exact same.trans busy
    · rw [idle] at busy
      cases busy
  holders := rel.holders
  active := rel.active
  room := rel.room
  cleared := rel.cleared
  lost some_lost := by
    have gone := rel.lost some_lost
    rcases kept with same | ⟨idle, _⟩
    · exact same.trans gone
    · rw [idle] at gone
      cases gone

/-- Each step of the exporter is what the gate allows. -/
theorem step_matches {label : Label} (taken : e.step label = some next) (rel : Matches e inside) :
    ∃ inside', Run.exec (Admission.pass maxPromConnections) inside (e.events label) =
      some inside' ∧ Matches next inside' := by
  cases label with
  | accept =>
      obtain ⟨⟨idle, _⟩, rfl⟩ := Run.enabled_eq_some.mp taken
      exact unseen inside rfl (rel.accept idle)
  | setReadTimeout ok => exact unseen inside rfl (setReadTimeout_matches taken rel)
  | load => exact load_matches taken rel
  | unavailable => exact unseen inside rfl (unavailable_matches taken rel)
  | fetchAdd => exact fetchAdd_matches taken rel
  | spawn ok => exact unseen inside rfl (spawn_matches taken rel)
  | shutdown =>
      obtain rfl := Option.some.inj taken
      exact unseen inside rfl (rel.idle (.inl rfl))
  | exit =>
      obtain ⟨⟨idle, _⟩, rfl⟩ := Run.enabled_eq_some.mp taken
      exact unseen inside rfl (rel.idle (.inr ⟨idle, rfl⟩))
  | serve conn => exact unseen inside rfl (serve_matches taken rel)
  | dropSlot conn => exact dropSlot_matches taken rel

theorem Matches.start : Matches .start ∅ where
  fresh _ _ := rfl
  early := nofun
  holders := Admission.Holders.none Phase.absent rfl
  active := rfl
  room := Nat.zero_le _
  cleared := nofun
  lost := fun ⟨_, here⟩ => nomatch here

/-- In whatever order the loop and the workers take their steps, the exporter is a gate for 10,
although it looks at the counter before it counts. A slot is lost only with the whole loop. -/
theorem exporter_is_gate {labels : List Label} {final : Exporter}
    (run : Run.exec Exporter.step .start labels = some final) :
    ∃ inside, Run.exec (Admission.pass maxPromConnections) ∅
        (Admission.trace Exporter.step Exporter.events .start labels) = some inside ∧
      (∀ conn, conn ∈ inside ↔ (final.phase conn).holds = true) ∧
      inside.card ≤ maxPromConnections ∧ final.active = inside.card ∧
      ((∃ conn, final.phase conn = .lost) → final.loop = .panicked) := by
  obtain ⟨inside, seen, rel⟩ := Admission.exec_refines
    (fun _ _ _ _ taken matches_ => step_matches taken matches_) run Matches.start
  exact ⟨inside, seen, rel.holders, rel.room, rel.active, rel.lost⟩

/-- Two connections, the second of which gets no thread. -/
def noThread : List Label :=
  [.accept, .setReadTimeout true, .load, .fetchAdd, .spawn true, .accept, .setReadTimeout true,
    .load, .serve 0, .dropSlot 0, .fetchAdd, .spawn false]

theorem exporter_is_gate_noThread : ∃ inside : Finset Nat, inside.card = 1 ∧ 0 ∉ inside := by
  have run : Run.exec Exporter.step .start noThread =
      some ((Run.exec Exporter.step .start noThread).get (by decide +kernel)) :=
    (Option.some_get _).symm
  obtain ⟨inside, _, slots, _, active, _⟩ := exporter_is_gate run
  refine ⟨inside, active.symm.trans (by decide +kernel), fun member => ?_⟩
  have absent := (slots 0).mp member
  revert absent
  decide +kernel

end LinSight.Daemon.PromSlots
