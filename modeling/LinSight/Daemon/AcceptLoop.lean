import LinSight.Library.Admission
import LinSight.Library.Run

set_option autoImplicit false

/-! Who gets a session of the daemon: the accept loop of the Unix socket counts sessions with one
atomic counter, which the session threads count down again. -/

namespace LinSight.Daemon.AcceptLoop

open Admission (Event Holders)

def maxClientSessions : Nat := 64

def usizeSize : Nat := 2 ^ 64

/-- `fetch_add` and `fetch_sub` wrap around. -/
def fetchAdd (sessions : Nat) : Nat := (sessions + 1) % usizeSize

def fetchSub (sessions : Nat) : Nat := (sessions + (usizeSize - 1)) % usizeSize

/-- Where a connection stands, in the accept loop up to `unspawned`, and in its own thread from
`spawned` on. -/
inductive Phase where
  | absent
  | accepted
  | vetted
  /-- Counted, with the sessions before it. -/
  | counted (prior : Nat)
  /-- The count is given back, and `Bye` is not yet written. -/
  | refusing
  | unspawned
  | spawned
  | serving
  | closed
deriving DecidableEq

/-- Where the accept loop stands. -/
inductive Accepting where
  | polling
  | handling (conn : Nat)
  | exited
deriving DecidableEq

/-- Connections have the numbers in which they are accepted; the peer's user is `none` where the
credentials cannot be read. -/
structure Server where
  sessions : Nat
  shutdown : Bool
  loop : Accepting
  peers : List (Option Nat)
  phase : Nat → Phase
  byes : List Nat

def Server.start : Server := ⟨0, false, .polling, [], fun _ => .absent, []⟩

inductive Label where
  | accept (peer : Option Nat)
  | checkPeer
  | fetchAdd
  | spawn (ok : Bool)
  | fetchSub
  | bye (written : Bool)
  | shutdown
  | exit
  /-- The thread constructs its guard and serves. -/
  | serve (conn : Nat)
  /-- `serve` returns or unwinds, and the guard is dropped. -/
  | dropGuard (conn : Nat)
deriving DecidableEq

namespace Server

def move (d : Server) (conn : Nat) (after : Phase) : Server :=
  { d with phase := Function.update d.phase conn after }

/-- The connection that the accept loop has in hand, where it is in the phase. -/
def inHand (d : Server) : Option (Nat × Phase) :=
  match d.loop with
  | .handling conn => some (conn, d.phase conn)
  | _ => none

def step (daemonUid : Nat) (d : Server) : Label → Option Server
  | .accept peer =>
      Run.enabled (d.loop = .polling ∧ d.shutdown = false)
        { d.move d.peers.length .accepted with
          loop := .handling d.peers.length
          peers := d.peers ++ [peer] }
  | .checkPeer =>
      match d.inHand with
      | some (conn, .accepted) =>
          if d.peers[conn]? = some (some daemonUid) then some (d.move conn .vetted)
          else some { d.move conn .closed with loop := .polling }
      | _ => none
  | .fetchAdd =>
      match d.inHand with
      | some (conn, .vetted) =>
          some { d.move conn (.counted d.sessions) with
            sessions := AcceptLoop.fetchAdd d.sessions }
      | _ => none
  | .spawn ok =>
      match d.inHand with
      | some (conn, .counted prior) =>
          if maxClientSessions ≤ prior then none
          else if ok then some { d.move conn .spawned with loop := .polling }
          else some (d.move conn .unspawned)
      | _ => none
  | .fetchSub =>
      match d.inHand with
      | some (conn, .counted prior) =>
          if maxClientSessions ≤ prior then
            some { d.move conn .refusing with sessions := AcceptLoop.fetchSub d.sessions }
          else none
      | some (conn, .unspawned) =>
          some { d.move conn .closed with
            sessions := AcceptLoop.fetchSub d.sessions
            loop := .polling }
      | _ => none
  | .bye written =>
      match d.inHand with
      | some (conn, .refusing) =>
          some { d.move conn .closed with
            loop := .polling
            byes := if written then d.byes ++ [conn] else d.byes }
      | _ => none
  | .shutdown => some { d with shutdown := true }
  | .exit =>
      Run.enabled (d.loop = .polling ∧ d.shutdown = true) { d with loop := .exited }
  | .serve conn => Run.enabled (d.phase conn = .spawned) (d.move conn .serving)
  | .dropGuard conn =>
      Run.enabled (d.phase conn = .serving)
        { d.move conn .closed with sessions := AcceptLoop.fetchSub d.sessions }

/-- A step as seen at a gate: a connection is let in or refused when it is counted. -/
def events (d : Server) : Label → List (Event Nat)
  | .fetchAdd =>
      match d.inHand with
      | some (conn, _) =>
          if d.sessions < maxClientSessions then [.enter conn] else [.refuse conn]
      | none => []
  | .fetchSub =>
      match d.inHand with
      | some (conn, .unspawned) => [.leave conn]
      | _ => []
  | .dropGuard conn => [.leave conn]
  | _ => []

end Server

/-- The connection has one of the places. -/
def Phase.holds : Phase → Bool
  | .counted prior => decide (prior < maxClientSessions)
  | .unspawned | .spawned | .serving => true
  | .absent | .accepted | .vetted | .refusing | .closed => false

/-- The connection is counted without a place. -/
def Phase.surplus : Phase → Bool
  | .counted prior => decide (maxClientSessions ≤ prior)
  | _ => false

/-- The phase is one of the accept loop. -/
def Phase.early : Phase → Bool
  | .accepted | .vetted | .counted _ | .refusing | .unspawned => true
  | .absent | .spawned | .serving | .closed => false

def Server.surplus (d : Server) : Nat :=
  match d.inHand with
  | some (_, phase) => if phase.surplus then 1 else 0
  | none => 0

/-- The peer is known to be of the daemon's user. -/
def Phase.vouched : Phase → Bool
  | .vetted | .counted _ | .refusing | .unspawned | .spawned | .serving => true
  | .absent | .accepted | .closed => false

/-- At most the connection in hand is in a phase of the loop, and what passed the check is of the
daemon's user. -/
structure Placed (daemonUid : Nat) (d : Server) : Prop where
  fresh : ∀ conn, d.peers.length ≤ conn → d.phase conn = .absent
  early : ∀ conn, (d.phase conn).early = true → d.loop = .handling conn
  own : ∀ conn, (d.phase conn).vouched = true → d.peers[conn]? = some (some daemonUid)
  told : ∀ conn ∈ d.byes, d.peers[conn]? = some (some daemonUid)

/-- The server and the gate. -/
structure Matches (daemonUid : Nat) (d : Server) (inside : Finset Nat) : Prop where
  placed : Placed daemonUid d
  holders : Holders Phase.holds d.phase inside
  sessions : d.sessions = inside.card + d.surplus
  room : inside.card ≤ maxClientSessions

variable {daemonUid : Nat} {d next : Server} {inside : Finset Nat}

theorem fetchAdd_eq {sessions : Nat} (small : sessions ≤ maxClientSessions) :
    fetchAdd sessions = sessions + 1 := by
  have bound : maxClientSessions = 64 := rfl
  simp only [fetchAdd, usizeSize]
  omega

theorem fetchSub_eq {sessions : Nat} (small : sessions ≤ maxClientSessions) :
    fetchSub (sessions + 1) = sessions := by
  have bound : maxClientSessions = 64 := rfl
  simp only [fetchSub, usizeSize]
  omega

theorem inHand_eq_some {conn : Nat} {phase : Phase} :
    d.inHand = some (conn, phase) ↔ d.loop = .handling conn ∧ d.phase conn = phase := by
  unfold Server.inHand
  cases d.loop with
  | polling => simp
  | exited => simp
  | handling other =>
      simp only [Option.some.injEq, Prod.mk.injEq, Accepting.handling.injEq]
      constructor
      · rintro ⟨rfl, same⟩
        exact ⟨rfl, same⟩
      · rintro ⟨rfl, same⟩
        exact ⟨rfl, same⟩

theorem Placed.move (placed : Placed daemonUid d) {conn : Nat} (after : Phase) (loop : Accepting)
    {sessions : Nat} (byes : List Nat) (present : d.phase conn ≠ .absent)
    (own : after.vouched = true → d.peers[conn]? = some (some daemonUid))
    (busy : d.loop = .handling conn ∨ loop = d.loop)
    (stays : after.early = true → loop = .handling conn)
    (told : ∀ conn ∈ byes, d.peers[conn]? = some (some daemonUid)) :
    Placed daemonUid { d.move conn after with sessions, loop, byes } where
  fresh other beyond := by
    have differs : other ≠ conn := fun same => present (placed.fresh conn (same ▸ beyond))
    show Function.update d.phase conn after other = _
    rw [Function.update_of_ne differs]
    exact placed.fresh other beyond
  early other early := by
    change (Function.update d.phase conn after other).early = true at early
    by_cases same : other = conn
    · subst same
      rw [Function.update_self] at early
      exact stays early
    · rw [Function.update_of_ne same] at early
      have handled := placed.early other early
      rcases busy with busy | kept
      · rw [busy, Accepting.handling.injEq] at handled
        exact absurd handled.symm same
      · show loop = _
        rw [kept, handled]
  own other vouched := by
    change (Function.update d.phase conn after other).vouched = true at vouched
    by_cases same : other = conn
    · subst same
      rw [Function.update_self] at vouched
      exact own vouched
    · rw [Function.update_of_ne same] at vouched
      exact placed.own other vouched
  told := told

theorem surplus_of_polling (idle : d.loop = .polling) : d.surplus = 0 := by
  unfold Server.surplus Server.inHand
  rw [idle]

theorem surplus_of_handling {conn : Nat} (busy : d.loop = .handling conn) :
    d.surplus = if (d.phase conn).surplus then 1 else 0 := by
  unfold Server.surplus Server.inHand
  rw [busy]

/-- A thread does not change what the accept loop has in hand. -/
theorem surplus_move {conn : Nat} {after : Phase} (before : (d.phase conn).surplus = false)
    (plain : after.surplus = false) (sessions : Nat) :
    ({ d.move conn after with sessions } : Server).surplus = d.surplus := by
  cases loop : d.loop with
  | polling =>
      rw [surplus_of_polling loop,
        surplus_of_polling (d := { d.move conn after with sessions }) loop]
  | exited => simp only [Server.surplus, Server.inHand, Server.move, loop]
  | handling other =>
      rw [surplus_of_handling loop,
        surplus_of_handling (d := { d.move conn after with sessions }) loop]
      show (if (Function.update d.phase conn after other).surplus then 1 else 0) = _
      by_cases same : other = conn
      · subst same
        rw [Function.update_self, plain, before]
      · rw [Function.update_of_ne same]

/-- The gate sees nothing of this step. -/
theorem unseen (inside : Finset Nat) {seen : List (Event Nat)} (nothing : seen = [])
    (kept : Matches daemonUid next inside) :
    ∃ inside', Run.exec (Admission.pass maxClientSessions) inside seen = some inside' ∧
      Matches daemonUid next inside' :=
  ⟨inside, nothing ▸ rfl, kept⟩

theorem Matches.accept (rel : Matches daemonUid d inside) {peer : Option Nat}
    (idle : d.loop = .polling) :
    Matches daemonUid
      { d.move d.peers.length .accepted with
        loop := .handling d.peers.length
        peers := d.peers ++ [peer] } inside where
  placed :=
    { fresh := by
        intro conn beyond
        rw [List.length_append, List.length_singleton] at beyond
        show Function.update d.phase d.peers.length .accepted conn = .absent
        rw [Function.update_of_ne (by omega)]
        exact rel.placed.fresh conn (by omega)
      early := by
        intro conn early
        change (Function.update d.phase d.peers.length .accepted conn).early = true at early
        by_cases same : conn = d.peers.length
        · rw [same]
        · rw [Function.update_of_ne same] at early
          have busy := rel.placed.early conn early
          rw [idle] at busy
          cases busy
      own := by
        intro conn vouched
        change (Function.update d.phase d.peers.length .accepted conn).vouched = true at vouched
        by_cases same : conn = d.peers.length
        · subst same
          rw [Function.update_self] at vouched
          cases vouched
        · rw [Function.update_of_ne same] at vouched
          have known := rel.placed.own conn vouched
          obtain ⟨inside, _⟩ := List.getElem?_eq_some_iff.mp known
          show (d.peers ++ [peer])[conn]? = _
          rw [List.getElem?_append_left inside]
          exact known
      told := by
        intro conn member
        have known := rel.placed.told conn member
        obtain ⟨inside, _⟩ := List.getElem?_eq_some_iff.mp known
        show (d.peers ++ [peer])[conn]? = _
        rw [List.getElem?_append_left inside]
        exact known }
  holders := by
    apply rel.holders.keep
    rw [rel.placed.fresh _ (Nat.le_refl _)]
    rfl
  sessions := by
    rw [surplus_of_handling rfl]
    show d.sessions =
      inside.card + if (Function.update d.phase d.peers.length .accepted _).surplus then 1 else 0
    rw [Function.update_self, rel.sessions, surplus_of_polling idle]
    rfl
  room := rel.room

theorem surplus_in_hand {conn : Nat} {after : Phase} {sessions : Nat} {byes : List Nat} :
    ({ d.move conn after with sessions, loop := .handling conn, byes } : Server).surplus =
      if after.surplus then 1 else 0 := by
  rw [surplus_of_handling rfl]
  show (if (Function.update d.phase conn after conn).surplus then 1 else 0) = _
  rw [Function.update_self]

/-- A connection goes on and keeps its place, or goes on without one. -/
theorem Matches.keep (rel : Matches daemonUid d inside) {conn : Nat} (after : Phase)
    (loop : Accepting) {sessions : Nat} (byes : List Nat) (present : d.phase conn ≠ .absent)
    (own : after.vouched = true → d.peers[conn]? = some (some daemonUid))
    (busy : d.loop = .handling conn ∨ loop = d.loop)
    (stays : after.early = true → loop = .handling conn)
    (told : ∀ conn ∈ byes, d.peers[conn]? = some (some daemonUid))
    (same : (d.phase conn).holds = after.holds)
    (count : sessions =
      inside.card + ({ d.move conn after with sessions, loop, byes } : Server).surplus) :
    Matches daemonUid { d.move conn after with sessions, loop, byes } inside where
  placed := rel.placed.move after loop byes present own busy stays told
  holders := rel.holders.keep same
  sessions := count
  room := rel.room

/-- A connection in hand is not absent. -/
theorem present_of_early {conn : Nat} (early : (d.phase conn).early = true) :
    d.phase conn ≠ .absent := by
  intro absent
  rw [absent] at early
  cases early

theorem Matches.sessions_plain (rel : Matches daemonUid d inside) {conn : Nat}
    (busy : d.loop = .handling conn) (plain : (d.phase conn).surplus = false) :
    d.sessions = inside.card := by
  rw [rel.sessions, surplus_of_handling busy, plain]
  rfl

theorem checkPeer_matches (taken : d.step daemonUid .checkPeer = some next)
    (rel : Matches daemonUid d inside) : Matches daemonUid next inside := by
  unfold Server.step at taken
  dsimp only at taken
  split at taken
  · rename_i conn here
    obtain ⟨busy, phase⟩ := inHand_eq_some.mp here
    have early : (d.phase conn).early = true := by rw [phase]; rfl
    have present := present_of_early early
    have count := rel.sessions_plain busy (by rw [phase]; rfl)
    split at taken
    · rename_i own
      cases taken
      show Matches daemonUid
        { d.move conn .vetted with sessions := d.sessions, loop := d.loop, byes := d.byes } inside
      apply rel.keep .vetted d.loop d.byes present (fun _ => own) (.inl busy) (fun _ => busy)
        rel.placed.told (by rw [phase]; rfl)
      rw [busy, surplus_in_hand]
      exact count
    · cases taken
      apply rel.keep .closed .polling d.byes present nofun (.inl busy) nofun
        rel.placed.told (by rw [phase]; rfl)
      rw [surplus_of_polling rfl]
      exact count
  · cases taken

/-- A connection is counted in with a place, or without one where the gate is full. -/
theorem fetchAdd_matches (taken : d.step daemonUid .fetchAdd = some next)
    (rel : Matches daemonUid d inside) :
    ∃ inside', Run.exec (Admission.pass maxClientSessions) inside (d.events .fetchAdd) =
      some inside' ∧ Matches daemonUid next inside' := by
  unfold Server.step at taken
  dsimp only at taken
  split at taken
  · rename_i conn here
    obtain ⟨busy, phase⟩ := inHand_eq_some.mp here
    have early : (d.phase conn).early = true := by rw [phase]; rfl
    have present := present_of_early early
    have count := rel.sessions_plain busy (by rw [phase]; rfl)
    have own := rel.placed.own conn (by rw [phase]; rfl)
    cases taken
    have added : fetchAdd d.sessions = inside.card + 1 := by
      rw [count]
      exact fetchAdd_eq rel.room
    unfold Server.events
    rw [here]
    by_cases room : d.sessions < maxClientSessions
    · obtain ⟨passed, holders, card⟩ := rel.holders.enter maxClientSessions conn
        (Phase.counted d.sessions) (by rw [phase]; rfl) (decide_eq_true room)
        (count ▸ room)
      refine ⟨insert conn inside, ?_, ?_⟩
      · simp only [room, ↓reduceIte]
        exact Admission.exec_singleton passed
      · exact
          { placed := rel.placed.move (.counted d.sessions) d.loop d.byes present (fun _ => own)
              (.inl busy) (fun _ => busy) rel.placed.told
            holders := holders
            sessions := by
              show fetchAdd d.sessions = _ + Server.surplus
                { d.move conn _ with sessions := _, loop := d.loop, byes := d.byes }
              rw [busy, surplus_in_hand, added, card]
              simp [Phase.surplus, room]
            room := by omega }
    · refine ⟨inside, ?_, ?_⟩
      · simp only [room, ↓reduceIte]
        exact Admission.exec_singleton (Run.enabled_eq_some.mpr ⟨by omega, rfl⟩)
      · show Matches daemonUid { d.move conn _ with
          sessions := fetchAdd d.sessions, loop := d.loop, byes := d.byes } inside
        apply rel.keep (.counted d.sessions) d.loop d.byes present (fun _ => own) (.inl busy)
          (fun _ => busy) rel.placed.told
        · rw [phase]
          exact (decide_eq_false room).symm
        · rw [busy, surplus_in_hand, added]
          simp only [Phase.surplus, Nat.not_lt.mp room, decide_true, ↓reduceIte]
  · cases taken

theorem spawn_matches {ok : Bool} (taken : d.step daemonUid (.spawn ok) = some next)
    (rel : Matches daemonUid d inside) : Matches daemonUid next inside := by
  unfold Server.step at taken
  dsimp only at taken
  split at taken
  · rename_i conn prior here
    obtain ⟨busy, phase⟩ := inHand_eq_some.mp here
    have early : (d.phase conn).early = true := by rw [phase]; rfl
    have present := present_of_early early
    have own := rel.placed.own conn (by rw [phase]; rfl)
    split at taken
    · cases taken
    · rename_i room
      have holds : (d.phase conn).holds = true := by
        rw [phase]
        exact decide_eq_true (Nat.lt_of_not_le room)
      have count : d.sessions = inside.card := by
        apply rel.sessions_plain busy
        rw [phase]
        exact decide_eq_false room
      split at taken
      · cases taken
        apply rel.keep .spawned .polling d.byes present (fun _ => own) (.inl busy) nofun
          rel.placed.told holds
        rw [surplus_of_polling rfl]
        exact count
      · cases taken
        show Matches daemonUid
          { d.move conn .unspawned with sessions := d.sessions, loop := d.loop, byes := d.byes }
          inside
        apply rel.keep .unspawned d.loop d.byes present (fun _ => own) (.inl busy) (fun _ => busy)
          rel.placed.told holds
        rw [busy, surplus_in_hand]
        exact count
  · cases taken

/-- A count is given back: of a connection without a place, or with a place and no thread. -/
theorem fetchSub_matches (taken : d.step daemonUid .fetchSub = some next)
    (rel : Matches daemonUid d inside) :
    ∃ inside', Run.exec (Admission.pass maxClientSessions) inside (d.events .fetchSub) =
      some inside' ∧ Matches daemonUid next inside' := by
  unfold Server.step at taken
  dsimp only at taken
  split at taken
  · rename_i conn prior here
    obtain ⟨busy, phase⟩ := inHand_eq_some.mp here
    have early : (d.phase conn).early = true := by rw [phase]; rfl
    have present := present_of_early early
    have own := rel.placed.own conn (by rw [phase]; rfl)
    split at taken
    · rename_i full
      obtain rfl := Option.some.inj taken
      have count : d.sessions = inside.card + 1 := by
        rw [rel.sessions, surplus_of_handling busy, phase]
        simp only [Phase.surplus, full, decide_true, ↓reduceIte]
      refine ⟨inside, ?_, ?_⟩
      · unfold Server.events
        rw [here]
        rfl
      · show Matches daemonUid { d.move conn .refusing with
          sessions := fetchSub d.sessions, loop := d.loop, byes := d.byes } inside
        apply rel.keep .refusing d.loop d.byes present (fun _ => own) (.inl busy) (fun _ => busy)
          rel.placed.told
        · rw [phase]
          exact decide_eq_false (Nat.not_lt.mpr full)
        · rw [busy, surplus_in_hand, count]
          exact fetchSub_eq rel.room
    · cases taken
  · rename_i conn here
    obtain ⟨busy, phase⟩ := inHand_eq_some.mp here
    have early : (d.phase conn).early = true := by rw [phase]; rfl
    have present := present_of_early early
    have count := rel.sessions_plain busy (by rw [phase]; rfl)
    obtain rfl := Option.some.inj taken
    obtain ⟨passed, holders, card⟩ := rel.holders.exit maxClientSessions conn Phase.closed
      (by rw [phase]; rfl) rfl
    refine ⟨inside.erase conn, ?_, ?_⟩
    · unfold Server.events
      rw [here]
      exact Admission.exec_singleton passed
    · have room := rel.room
      exact
        { placed := rel.placed.move .closed .polling d.byes present nofun (.inl busy) nofun
            rel.placed.told
          holders := holders
          sessions := by
            rw [surplus_of_polling rfl]
            show fetchSub d.sessions = _
            rw [count, ← card]
            exact fetchSub_eq (by omega)
          room := by omega }
  · cases taken

theorem bye_matches {written : Bool} (taken : d.step daemonUid (.bye written) = some next)
    (rel : Matches daemonUid d inside) : Matches daemonUid next inside := by
  unfold Server.step at taken
  dsimp only at taken
  split at taken
  · rename_i conn here
    obtain ⟨busy, phase⟩ := inHand_eq_some.mp here
    have early : (d.phase conn).early = true := by rw [phase]; rfl
    have present := present_of_early early
    have count := rel.sessions_plain busy (by rw [phase]; rfl)
    have own := rel.placed.own conn (by rw [phase]; rfl)
    cases taken
    apply rel.keep .closed .polling _ present nofun (.inl busy) nofun _ (by rw [phase]; rfl)
    · rw [surplus_of_polling rfl]
      exact count
    · intro other member
      split at member
      · rcases List.mem_append.mp member with before | last
        · exact rel.placed.told other before
        · rw [List.mem_singleton.mp last]
          exact own
      · exact rel.placed.told other member
  · cases taken

/-- A thread goes on, and the accept loop is where it was. -/
theorem thread_present {conn : Nat} {phase : Phase} (here : d.phase conn = phase)
    (known : phase ≠ .absent) : d.phase conn ≠ .absent := here ▸ known

theorem serve_matches {conn : Nat} (taken : d.step daemonUid (.serve conn) = some next)
    (rel : Matches daemonUid d inside) : Matches daemonUid next inside := by
  obtain ⟨phase, rfl⟩ := Run.enabled_eq_some.mp taken
  have own := rel.placed.own conn (by rw [phase]; rfl)
  show Matches daemonUid
    { d.move conn .serving with sessions := d.sessions, loop := d.loop, byes := d.byes } inside
  apply rel.keep .serving d.loop d.byes (thread_present phase Phase.noConfusion) (fun _ => own)
    (.inr rfl) nofun rel.placed.told (by rw [phase]; rfl)
  rw [rel.sessions]
  congr 1
  exact (surplus_move (by rw [phase]; rfl) rfl d.sessions).symm

/-- A session ends, and its place is free. -/
theorem dropGuard_matches {conn : Nat} (taken : d.step daemonUid (.dropGuard conn) = some next)
    (rel : Matches daemonUid d inside) :
    ∃ inside', Run.exec (Admission.pass maxClientSessions) inside (d.events (.dropGuard conn)) =
      some inside' ∧ Matches daemonUid next inside' := by
  obtain ⟨phase, rfl⟩ := Run.enabled_eq_some.mp taken
  obtain ⟨passed, holders, card⟩ := rel.holders.exit maxClientSessions conn Phase.closed
    (by rw [phase]; rfl) rfl
  have room := rel.room
  have surplus : d.surplus ≤ 1 := by
    unfold Server.surplus
    split
    · split <;> omega
    · omega
  refine ⟨inside.erase conn, Admission.exec_singleton passed, ?_⟩
  exact
    { placed := rel.placed.move .closed d.loop d.byes
        (thread_present phase Phase.noConfusion) nofun (.inr rfl) nofun rel.placed.told
      holders := holders
      sessions := by
        rw [surplus_move (by rw [phase]; rfl) rfl]
        show fetchSub d.sessions = _
        have count : d.sessions = (inside.erase conn).card + d.surplus + 1 := by
          rw [rel.sessions]
          omega
        rw [count]
        exact fetchSub_eq (by omega)
      room := by omega }

/-- The server's flag and the end of its loop are nothing to the gate. -/
theorem Matches.idle (rel : Matches daemonUid d inside) {shutdown : Bool} {loop : Accepting}
    (kept : loop = d.loop ∨ d.loop = .polling ∧ loop = .exited) :
    Matches daemonUid { d with shutdown, loop } inside where
  placed :=
    { fresh := rel.placed.fresh
      early := by
        intro conn early
        have busy := rel.placed.early conn early
        rcases kept with same | ⟨idle, _⟩
        · exact same.trans busy
        · rw [idle] at busy
          cases busy
      own := rel.placed.own
      told := rel.placed.told }
  holders := rel.holders
  sessions := by
    rcases kept with rfl | ⟨idle, rfl⟩
    · exact rel.sessions
    · have none_over : d.surplus = 0 := surplus_of_polling idle
      show d.sessions = inside.card + 0
      rw [rel.sessions, none_over]
  room := rel.room

/-- Each step of the server is what the gate allows. -/
theorem step_matches {label : Label} (taken : d.step daemonUid label = some next)
    (rel : Matches daemonUid d inside) :
    ∃ inside', Run.exec (Admission.pass maxClientSessions) inside (d.events label) =
      some inside' ∧ Matches daemonUid next inside' := by
  cases label with
  | accept peer =>
      obtain ⟨⟨idle, _⟩, rfl⟩ := Run.enabled_eq_some.mp taken
      exact unseen inside rfl (rel.accept idle)
  | checkPeer => exact unseen inside rfl (checkPeer_matches taken rel)
  | fetchAdd => exact fetchAdd_matches taken rel
  | spawn ok => exact unseen inside rfl (spawn_matches taken rel)
  | fetchSub => exact fetchSub_matches taken rel
  | bye written => exact unseen inside rfl (bye_matches taken rel)
  | shutdown =>
      obtain rfl := Option.some.inj taken
      exact unseen inside rfl (rel.idle (.inl rfl))
  | exit =>
      obtain ⟨⟨idle, _⟩, rfl⟩ := Run.enabled_eq_some.mp taken
      exact unseen inside rfl (rel.idle (.inr ⟨idle, rfl⟩))
  | serve conn => exact unseen inside rfl (serve_matches taken rel)
  | dropGuard conn => exact dropGuard_matches taken rel

theorem Matches.start (daemonUid : Nat) : Matches daemonUid .start ∅ where
  placed := ⟨fun _ _ => rfl, nofun, nofun, nofun⟩
  holders := Admission.Holders.none Phase.absent rfl
  sessions := rfl
  room := Nat.zero_le _

/-- In whatever order the loop and the sessions take their steps, the daemon is a gate for 64: no
more have a place, nobody is refused while there is room, and the counter counts the places, none
of which is lost. Only the daemon's own user gets a place, or is told that there is none. -/
theorem accept_loop_is_gate {labels : List Label} {final : Server}
    (run : Run.exec (Server.step daemonUid) .start labels = some final) :
    ∃ inside, Run.exec (Admission.pass maxClientSessions) ∅
        (Admission.trace (Server.step daemonUid) Server.events .start labels) = some inside ∧
      (∀ conn, conn ∈ inside ↔ (final.phase conn).holds = true) ∧
      inside.card ≤ maxClientSessions ∧
      final.sessions = inside.card + final.surplus ∧
      ∀ conn, (conn ∈ inside ∨ conn ∈ final.byes) →
        final.peers[conn]? = some (some daemonUid) := by
  obtain ⟨inside, seen, rel⟩ := Admission.exec_refines
    (fun _ _ _ _ taken matches_ => step_matches taken matches_) run (Matches.start daemonUid)
  refine ⟨inside, seen, rel.holders, rel.room, rel.sessions, ?_⟩
  intro conn place
  rcases place with member | told
  · have holds := (rel.holders conn).mp member
    apply rel.placed.own
    cases phase : final.phase conn with
    | absent | accepted | vetted | refusing | closed =>
        rw [phase] at holds
        cases holds
    | counted _ | unspawned | spawned | serving => rfl
  · exact rel.placed.told conn told

/-- One session of user 1000, then a peer of another user. -/
def twoPeers : List Label :=
  [.accept (some 1000), .checkPeer, .fetchAdd, .spawn true, .accept (some 0), .serve 0, .checkPeer]

theorem accept_loop_is_gate_twoPeers : ∃ inside : Finset Nat, inside.card ≤ 64 ∧
    0 ∈ inside ∧ 1 ∉ inside := by
  have run : Run.exec (Server.step 1000) .start twoPeers =
      some ((Run.exec (Server.step 1000) .start twoPeers).get (by decide +kernel)) :=
    (Option.some_get _).symm
  obtain ⟨inside, _, places, room, _⟩ := accept_loop_is_gate run
  refine ⟨inside, room, (places 0).mpr (by decide +kernel), fun member => ?_⟩
  have absent := (places 1).mp member
  revert absent
  decide +kernel

end LinSight.Daemon.AcceptLoop
