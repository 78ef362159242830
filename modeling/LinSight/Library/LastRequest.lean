import LinSight.Library.Run
import Mathlib

set_option autoImplicit false

/-! Requests that are answered in any order or never, and a view that takes the answer of the last
one only. Every run of it looks like one in which each request is answered before the next one is
made, or not at all. -/

namespace LastRequest

variable {ρ τ ν : Type}

/-- What a request does to the view when it is made, and what its result does. -/
structure Pane (ρ τ ν : Type) where
  begin : ρ → ν → ν
  apply : ρ → τ → ν → ν

/-- The view with the number of its last request, the requests without a result so far, and the
results that are queued. -/
structure Desk (ρ τ ν : Type) where
  view : ν
  generation : Nat
  flying : List (Nat × ρ)
  landed : List (Nat × ρ × τ)

inductive Event (ρ τ : Type) where
  | issue (request : ρ)
  | land (i : Nat) (result : τ)
  /-- The request gets no result. -/
  | lose (i : Nat)
  | deliver
deriving DecidableEq

/-- The request that an event makes. -/
def Event.issued : Event ρ τ → Option ρ
  | .issue request => some request
  | .land _ _ | .lose _ | .deliver => none

def Desk.start (view : ν) : Desk ρ τ ν := ⟨view, 0, [], []⟩

def Desk.step (pane : Pane ρ τ ν) (desk : Desk ρ τ ν) : Event ρ τ → Option (Desk ρ τ ν)
  | .issue request => some { desk with
      view := pane.begin request desk.view
      generation := desk.generation + 1
      flying := desk.flying ++ [(desk.generation + 1, request)] }
  | .land i result =>
      match desk.flying[i]? with
      | some (g, request) => some { desk with
          flying := desk.flying.eraseIdx i
          landed := desk.landed ++ [(g, request, result)] }
      | none => none
  | .lose i =>
      match desk.flying[i]? with
      | some _ => some { desk with flying := desk.flying.eraseIdx i }
      | none => none
  | .deliver =>
      match desk.landed with
      | (g, request, result) :: rest => some { desk with
          view := if desk.generation = g then pane.apply request result desk.view else desk.view
          landed := rest }
      | [] => none

/-- The requests in the order in which they were made, each with the answer that the view took. -/
abbrev Entries (ρ τ : Type) := List (ρ × Option τ)

/-- One request, answered at once or not at all. -/
def turn (pane : Pane ρ τ ν) (view : ν) (entry : ρ × Option τ) : ν :=
  match entry.2 with
  | some result => pane.apply entry.1 result (pane.begin entry.1 view)
  | none => pane.begin entry.1 view

/-- One request after another. -/
def sequential (pane : Pane ρ τ ν) (view : ν) (entries : Entries ρ τ) : ν :=
  entries.foldl (turn pane) view

/-- What the events alone say: how many requests were made, which of them are under way, and the
results with the numbers of their requests, of which the first ones are delivered. -/
structure Traffic (τ : Type) where
  made : Nat
  underWay : List Nat
  results : List (Nat × τ)
  delivered : Nat

def Traffic.after (traffic : Traffic τ) : Event ρ τ → Traffic τ
  | .issue _ => { traffic with
      made := traffic.made + 1
      underWay := traffic.underWay ++ [traffic.made + 1] }
  | .land i result =>
      match traffic.underWay[i]? with
      | some number => { traffic with
          underWay := traffic.underWay.eraseIdx i
          results := traffic.results ++ [(number, result)] }
      | none => traffic
  | .lose i => { traffic with underWay := traffic.underWay.eraseIdx i }
  | .deliver => { traffic with delivered := traffic.delivered + 1 }

def Traffic.of (events : List (Event ρ τ)) : Traffic τ := events.foldl .after ⟨0, [], [], 0⟩

/-- The result of a request, once it is delivered. -/
def Traffic.answer (traffic : Traffic τ) (number : Nat) : Option τ :=
  (traffic.results.take traffic.delivered).lookup number

/-- A record of the events: the requests, each with the answer that was delivered before the next
one was made. -/
structure Log (ρ τ : Type) where
  traffic : Traffic τ
  entries : Entries ρ τ

def Log.empty : Log ρ τ := ⟨⟨0, [], [], 0⟩, []⟩

/-- The entries with what is delivered of the last request by then. -/
def refreshed (entries : Entries ρ τ) (answer : Option τ) : Entries ρ τ :=
  entries.dropLast ++ (entries.getLast?.map fun last => (last.1, answer)).toList

def Log.after (log : Log ρ τ) (event : Event ρ τ) : Log ρ τ :=
  let traffic := log.traffic.after event
  match event with
  | .issue request => ⟨traffic, log.entries ++ [(request, none)]⟩
  | .land _ _ | .lose _ | .deliver =>
      ⟨traffic, refreshed log.entries (traffic.answer traffic.made)⟩

def Log.of (events : List (Event ρ τ)) : Log ρ τ := events.foldl .after .empty

/-- The desk after the events of the log. -/
structure Follows (pane : Pane ρ τ ν) (view : ν) (desk : Desk ρ τ ν) (log : Log ρ τ) : Prop where
  counted : desk.generation = log.entries.length
  made : log.traffic.made = log.entries.length
  shown : desk.view = sequential pane view log.entries
  flying : desk.flying.map Prod.fst = log.traffic.underWay
  landed : desk.landed.map (fun result => (result.1, result.2.2)) =
    log.traffic.results.drop log.traffic.delivered
  delivered : log.traffic.delivered ≤ log.traffic.results.length
  known : ∀ g request, (g, request) ∈ desk.flying ++ desk.landed.map (fun r => (r.1, r.2.1)) →
    (log.entries[g - 1]?).map Prod.fst = some request
  bounded : ∀ g ∈ log.traffic.underWay ++ log.traffic.results.map Prod.fst,
    g ≤ log.entries.length
  distinct : (log.traffic.underWay ++ log.traffic.results.map Prod.fst).Nodup
  current : ∀ last, log.entries.getLast? = some last →
    last.2 = log.traffic.answer log.traffic.made

variable {pane : Pane ρ τ ν} {view : ν} {desk next : Desk ρ τ ν} {log : Log ρ τ}

/-- A request of which no result is delivered has no answer. -/
theorem Traffic.answer_eq_none {traffic : Traffic τ} {number : Nat}
    (absent : number ∉ (traffic.results.take traffic.delivered).map Prod.fst) :
    traffic.answer number = none := by
  apply List.lookup_eq_none_iff.mpr
  intro result member
  have listed := List.mem_map_of_mem (f := Prod.fst) member
  exact bne_iff_ne.mpr fun equal => absent (equal ▸ listed)

/-- A delivery answers the request of its result, where that has no answer yet. -/
theorem Traffic.answer_deliver {traffic : Traffic τ} {g : Nat} {result : τ}
    (first : traffic.results[traffic.delivered]? = some (g, result)) (number : Nat) :
    (traffic.after (.deliver : Event ρ τ)).answer number =
      (traffic.answer number).or (if number = g then some result else none) := by
  show (traffic.results.take (traffic.delivered + 1)).lookup number = _
  rw [List.take_add_one, first, Option.toList_some, List.lookup_append]
  congr 1
  by_cases same : number = g
  · simp [same]
  · simp [same, List.lookup_cons, beq_eq_false_iff_ne.mpr same]

theorem Traffic.after_land {traffic : Traffic τ} {i g : Nat}
    (number : traffic.underWay[i]? = some g) (result : τ) :
    traffic.after (.land i result : Event ρ τ) = { traffic with
      underWay := traffic.underWay.eraseIdx i
      results := traffic.results ++ [(g, result)] } := by
  simp only [Traffic.after, number]

theorem sequential_concat (entries : Entries ρ τ) (entry : ρ × Option τ) :
    sequential pane view (entries ++ [entry]) = turn pane (sequential pane view entries) entry := by
  rw [sequential, List.foldl_append]
  rfl

theorem refreshed_concat (front : Entries ρ τ) (last : ρ × Option τ) (answer : Option τ) :
    refreshed (front ++ [last]) answer = front ++ [(last.1, answer)] := by
  simp [refreshed]

theorem map_fst_refreshed (entries : Entries ρ τ) (answer : Option τ) :
    (refreshed entries answer).map Prod.fst = entries.map Prod.fst := by
  cases entries using List.reverseRecOn with
  | nil => rfl
  | append_singleton front last =>
      rw [refreshed_concat]
      simp

theorem length_refreshed (entries : Entries ρ τ) (answer : Option τ) :
    (refreshed entries answer).length = entries.length := by
  rw [← List.length_map Prod.fst, map_fst_refreshed, List.length_map]

theorem getLast?_refreshed (entries : Entries ρ τ) (answer : Option τ) :
    (refreshed entries answer).getLast? =
      entries.getLast?.map fun last => (last.1, answer) := by
  cases entries using List.reverseRecOn with
  | nil => rfl
  | append_singleton front last =>
      rw [refreshed_concat, List.getLast?_concat, List.getLast?_concat]
      rfl

/-- The record stays as it is where nothing new is delivered of the last request. -/
theorem refreshed_same {entries : Entries ρ τ} {answer : Option τ}
    (same : ∀ last, entries.getLast? = some last → last.2 = answer) :
    refreshed entries answer = entries := by
  cases entries using List.reverseRecOn with
  | nil => rfl
  | append_singleton front last =>
      rw [refreshed_concat, ← same last List.getLast?_concat]

namespace Follows

theorem start (pane : Pane ρ τ ν) (view : ν) : Follows pane view (.start view) .empty where
  counted := rfl
  made := rfl
  shown := rfl
  flying := rfl
  landed := rfl
  delivered := Nat.le_refl _
  known := nofun
  bounded := nofun
  distinct := List.nodup_nil
  current := nofun

/-- The entry of a request that was made before the next one. -/
theorem getElem?_concat {entries : Entries ρ τ} (entry : ρ × Option τ) {g : Nat} {request : ρ}
    (known : (entries[g - 1]?).map Prod.fst = some request) :
    ((entries ++ [entry])[g - 1]?).map Prod.fst = some request := by
  obtain ⟨found, here, _⟩ := Option.map_eq_some_iff.mp known
  rwa [List.getElem?_append_left (List.getElem?_eq_some_iff.mp here).1]

theorem issue (follows : Follows pane view desk log) (request : ρ) :
    Follows pane view
      { desk with
        view := pane.begin request desk.view
        generation := desk.generation + 1
        flying := desk.flying ++ [(desk.generation + 1, request)] }
      (log.after (.issue request)) := by
  have counted := follows.counted
  have made := follows.made
  have fresh : log.entries.length + 1 ∉
      log.traffic.underWay ++ log.traffic.results.map Prod.fst := by
    intro member
    have bound := follows.bounded _ member
    omega
  constructor
  · simp [Log.after, counted]
  · simp [Log.after, Traffic.after, made]
  · show pane.begin request desk.view = sequential pane view (log.entries ++ [(request, none)])
    rw [sequential_concat, ← follows.shown]
    rfl
  · show (desk.flying ++ [(desk.generation + 1, request)]).map Prod.fst =
      log.traffic.underWay ++ [log.traffic.made + 1]
    rw [List.map_append, follows.flying, counted, made]
    rfl
  · exact follows.landed
  · exact follows.delivered
  · intro g other member
    have split : (g, other) ∈ desk.flying ++ desk.landed.map (fun r => (r.1, r.2.1)) ∨
        (g, other) = (desk.generation + 1, request) := by
      simp only [List.mem_append, List.mem_singleton] at member ⊢
      tauto
    rcases split with before | new
    · exact getElem?_concat _ (follows.known g other before)
    · obtain ⟨rfl, rfl⟩ := Prod.mk.inj new
      show ((log.entries ++ [(other, none)])[desk.generation + 1 - 1]?).map Prod.fst = some other
      rw [counted, Nat.add_sub_cancel, List.getElem?_concat_length]
      rfl
  · intro g member
    show g ≤ (log.entries ++ [(request, none)]).length
    have split : g ∈ log.traffic.underWay ++ log.traffic.results.map Prod.fst ∨
        g = log.traffic.made + 1 := by
      simp only [Log.after, Traffic.after, List.mem_append, List.mem_singleton] at member ⊢
      tauto
    rw [List.length_append, List.length_singleton]
    rcases split with before | rfl
    · have bound := follows.bounded g before
      omega
    · omega
  · show (log.traffic.underWay ++ [log.traffic.made + 1] ++
      log.traffic.results.map Prod.fst).Nodup
    rw [made, List.append_assoc, List.singleton_append]
    exact List.perm_middle.nodup_iff.mpr (List.nodup_cons.mpr ⟨fresh, follows.distinct⟩)
  · intro last found
    have same : log.entries.length + 1 ∉ log.traffic.results.map Prod.fst :=
      fun member => fresh (List.mem_append_right _ member)
    have unanswered : log.traffic.answer (log.entries.length + 1) = none :=
      Traffic.answer_eq_none fun member =>
        same (((List.take_sublist _ _).map Prod.fst).subset member)
    show last.2 = log.traffic.answer (log.traffic.made + 1)
    rw [made, unanswered]
    cases Option.some.inj (List.getLast?_concat.symm.trans found)
    rfl

/-- A step that delivers nothing leaves the entries as they are. -/
theorem entries_after (follows : Follows pane view desk log) {answer : Option τ}
    (same : answer = log.traffic.answer log.traffic.made) :
    refreshed log.entries answer = log.entries :=
  refreshed_same fun last found => same ▸ follows.current last found

theorem land (follows : Follows pane view desk log) {i g : Nat} {request : ρ}
    (here : desk.flying[i]? = some (g, request)) (result : τ) :
    Follows pane view
      { desk with
        flying := desk.flying.eraseIdx i
        landed := desk.landed ++ [(g, request, result)] }
      (log.after (.land i result)) := by
  have number : log.traffic.underWay[i]? = some g := by
    rw [← follows.flying, List.getElem?_map, here]
    rfl
  have traffic := Traffic.after_land (ρ := ρ) number result
  have entries : (log.after (.land i result)).entries = log.entries := by
    apply follows.entries_after
    rw [traffic]
    simp only [Traffic.answer, List.take_append_of_le_length follows.delivered]
  have perm : (log.traffic.underWay.eraseIdx i ++ (log.traffic.results.map Prod.fst ++ [g])).Perm
      (log.traffic.underWay ++ log.traffic.results.map Prod.fst) := by
    obtain ⟨inside, same⟩ := List.getElem?_eq_some_iff.mp number
    have taken := List.getElem_cons_eraseIdx_perm inside
    rw [same] at taken
    rw [← List.append_assoc]
    exact (List.perm_append_singleton _ _).trans (taken.append_right _)
  have numbers : (log.after (.land i result)).traffic.underWay ++
      (log.after (.land i result)).traffic.results.map Prod.fst =
      log.traffic.underWay.eraseIdx i ++ (log.traffic.results.map Prod.fst ++ [g]) := by
    show (log.traffic.after (.land i result : Event ρ τ)).underWay ++
      (log.traffic.after (.land i result : Event ρ τ)).results.map Prod.fst = _
    rw [traffic, List.map_append]
    rfl
  constructor
  · rw [entries]
    exact follows.counted
  · show (log.traffic.after _).made = _
    rw [traffic, entries]
    exact follows.made
  · rw [entries]
    exact follows.shown
  · show (desk.flying.eraseIdx i).map Prod.fst = (log.traffic.after _).underWay
    rw [traffic, ← List.eraseIdx_map, follows.flying]
  · show (desk.landed ++ [(g, request, result)]).map (fun r => (r.1, r.2.2)) =
      (log.traffic.after _).results.drop (log.traffic.after _).delivered
    rw [traffic, List.map_append, follows.landed,
      List.drop_append_of_le_length follows.delivered]
    rfl
  · show (log.traffic.after _).delivered ≤ (log.traffic.after _).results.length
    rw [traffic, List.length_append]
    exact follows.delivered.trans (Nat.le_add_right _ _)
  · intro other known member
    rw [entries]
    apply follows.known other known
    have mine : (g, request) ∈ desk.flying := List.mem_of_getElem? here
    simp only [List.map_append, List.mem_append, List.map_cons, List.map_nil,
      List.mem_singleton] at member ⊢
    rcases member with flies | landed | same
    · exact .inl (List.mem_of_mem_eraseIdx flies)
    · exact .inr landed
    · exact .inl (same ▸ mine)
  · intro other member
    rw [numbers] at member
    rw [entries]
    exact follows.bounded other (perm.subset member)
  · rw [numbers]
    exact perm.nodup_iff.mpr follows.distinct
  · intro last found
    rw [entries] at found
    rw [follows.current last found]
    show log.traffic.answer log.traffic.made =
      (log.traffic.after (.land i result : Event ρ τ)).answer
        (log.traffic.after (.land i result : Event ρ τ)).made
    rw [traffic]
    simp only [Traffic.answer, List.take_append_of_le_length follows.delivered]

theorem lose (follows : Follows pane view desk log) (i : Nat) :
    Follows pane view { desk with flying := desk.flying.eraseIdx i } (log.after (.lose i)) := by
  have fewer := List.eraseIdx_sublist log.traffic.underWay i
  have entries : (log.after (.lose i)).entries = log.entries := follows.entries_after rfl
  constructor
  · rw [entries]
    exact follows.counted
  · rw [entries]
    exact follows.made
  · rw [entries]
    exact follows.shown
  · show (desk.flying.eraseIdx i).map Prod.fst = log.traffic.underWay.eraseIdx i
    rw [← List.eraseIdx_map, follows.flying]
  · exact follows.landed
  · exact follows.delivered
  · intro g request member
    rw [entries]
    have sub := (List.eraseIdx_sublist desk.flying i).append
      (List.Sublist.refl (desk.landed.map fun r => (r.1, r.2.1)))
    exact follows.known g request (sub.subset member)
  · intro g member
    rw [entries]
    exact follows.bounded g ((fewer.append (List.Sublist.refl _)).subset member)
  · exact (fewer.append (List.Sublist.refl _)).nodup follows.distinct
  · intro last found
    rw [entries] at found
    exact follows.current last found

/-- Of a request whose result is still queued nothing was delivered before. -/
theorem unanswered (follows : Follows pane view desk log) {g : Nat} {request : ρ} {result : τ}
    {rest : List (Nat × ρ × τ)} (queued : desk.landed = (g, request, result) :: rest) :
    log.traffic.answer g = none := by
  have once := (List.sublist_append_right _ _).nodup follows.distinct
  have split : log.traffic.results.map Prod.fst =
      (log.traffic.results.take log.traffic.delivered).map Prod.fst ++ g :: rest.map Prod.fst := by
    conv_lhs => rw [← List.take_append_drop log.traffic.delivered log.traffic.results]
    rw [List.map_append, ← follows.landed, queued, List.map_cons, List.map_cons, List.map_map]
    rfl
  rw [split, List.nodup_append] at once
  exact Traffic.answer_eq_none fun member => once.2.2 g member g List.mem_cons_self rfl

/-- A result reaches the view exactly if its request is the last one. -/
theorem shown_deliver (follows : Follows pane view desk log) {g : Nat} {request : ρ}
    (requested : (log.entries[g - 1]?).map Prod.fst = some request)
    (unanswered : log.traffic.answer g = none) (result : τ) :
    (if desk.generation = g then pane.apply request result desk.view else desk.view) =
      sequential pane view (refreshed log.entries ((log.traffic.answer log.traffic.made).or
        (if log.traffic.made = g then some result else none))) := by
  have shown := follows.shown
  have same : desk.generation = log.traffic.made := follows.counted.trans follows.made.symm
  rw [same]
  by_cases last : log.traffic.made = g
  · obtain ⟨entry, found, mine⟩ := Option.map_eq_some_iff.mp requested
    have final : log.entries.getLast? = some entry := by
      rw [List.getLast?_eq_getElem?, ← follows.made, last]
      exact found
    obtain ⟨front, split⟩ := List.getLast?_eq_some_iff.mp final
    have blank : entry.2 = none := by
      rw [follows.current entry final, last, unanswered]
    rw [split, sequential_concat] at shown
    rw [if_pos last, if_pos last, last, unanswered, split, refreshed_concat, sequential_concat,
      shown]
    subst mine
    simp only [turn, blank, Option.none_or]
  · rw [if_neg last, if_neg last, Option.or_none, follows.entries_after rfl]
    exact shown

/-- The first of the results that are queued. -/
theorem deliver (follows : Follows pane view desk log) {g : Nat} {request : ρ} {result : τ}
    {rest : List (Nat × ρ × τ)} (queued : desk.landed = (g, request, result) :: rest) :
    Follows pane view
      { desk with
        view := if desk.generation = g then pane.apply request result desk.view else desk.view
        landed := rest }
      (log.after .deliver) := by
  have counted := follows.counted
  have made := follows.made
  have first : log.traffic.results[log.traffic.delivered]? = some (g, result) := by
    rw [← List.head?_drop, ← follows.landed, queued]
    rfl
  have inside := (List.getElem?_eq_some_iff.mp first).1
  have mine : (g, request) ∈ desk.flying ++ desk.landed.map fun r => (r.1, r.2.1) := by
    rw [queued]
    exact List.mem_append_right _ List.mem_cons_self
  have requested := follows.known g request mine
  have others : (desk.flying ++ rest.map fun r => (r.1, r.2.1)).Sublist
      (desk.flying ++ desk.landed.map fun r => (r.1, r.2.1)) := by
    rw [queued]
    exact (List.Sublist.refl _).append (List.sublist_cons_self _ _)
  have entries : (log.after .deliver).entries =
      refreshed log.entries ((log.traffic.answer log.traffic.made).or
        (if log.traffic.made = g then some result else none)) :=
    congrArg (refreshed log.entries) (Traffic.answer_deliver first _)
  have firsts : ∀ k : Nat, (((log.after .deliver).entries)[k]?).map Prod.fst =
      (log.entries[k]?).map Prod.fst := by
    intro k
    rw [entries, ← List.getElem?_map, ← List.getElem?_map, map_fst_refreshed]
  have length : (log.after .deliver).entries.length = log.entries.length := by
    rw [entries, length_refreshed]
  constructor
  · rw [length]
    exact counted
  · rw [length]
    exact made
  · rw [entries]
    exact follows.shown_deliver requested (follows.unanswered queued) result
  · exact follows.flying
  · show rest.map (fun r => (r.1, r.2.2)) = log.traffic.results.drop (log.traffic.delivered + 1)
    rw [← List.tail_drop, ← follows.landed, queued]
    rfl
  · exact inside
  · intro other known member
    rw [firsts]
    exact follows.known other known (others.subset member)
  · intro other member
    rw [length]
    exact follows.bounded other member
  · exact follows.distinct
  · intro last found
    have refresh : (log.after .deliver).entries.getLast? = _ :=
      getLast?_refreshed log.entries _
    rw [refresh] at found
    obtain ⟨before, _, rfl⟩ := Option.map_eq_some_iff.mp found
    rfl

/-- Each step keeps the desk in line with the record. -/
theorem step (follows : Follows pane view desk log) {event : Event ρ τ}
    (taken : desk.step pane event = some next) : Follows pane view next (log.after event) := by
  cases event with
  | issue request =>
      cases taken
      exact follows.issue request
  | land i result =>
      unfold Desk.step at taken
      dsimp only at taken
      split at taken
      · rename_i g request here
        cases taken
        exact follows.land here result
      · cases taken
  | lose i =>
      unfold Desk.step at taken
      dsimp only at taken
      split at taken
      · cases taken
        exact follows.lose i
      · cases taken
  | deliver =>
      unfold Desk.step at taken
      dsimp only at taken
      split at taken
      · rename_i g request result rest queued
        cases taken
        exact follows.deliver queued
      · cases taken

theorem run {events : List (Event ρ τ)} {final : Desk ρ τ ν}
    (follows : Follows pane view desk log)
    (ran : Run.exec (Desk.step pane) desk events = some final) :
    Follows pane view final (events.foldl .after log) := by
  induction events generalizing desk log with
  | nil =>
      cases Option.some.inj ran
      exact follows
  | cons event rest ih =>
      obtain ⟨next, taken, remaining⟩ := Run.exec_cons.mp ran
      exact ih (follows.step taken) remaining

end Follows

theorem Log.map_fst_foldl (log : Log ρ τ) (events : List (Event ρ τ)) :
    (events.foldl Log.after log).entries.map Prod.fst =
      log.entries.map Prod.fst ++ events.filterMap Event.issued := by
  induction events generalizing log with
  | nil => exact (List.append_nil _).symm
  | cons event rest ih =>
      rw [List.foldl_cons, ih]
      cases event with
      | issue request => simp [Log.after, Event.issued]
      | land i result => simp [Log.after, Event.issued, map_fst_refreshed, List.filterMap_cons]
      | lose i => simp [Log.after, Event.issued, map_fst_refreshed, List.filterMap_cons]
      | deliver => simp [Log.after, Event.issued, map_fst_refreshed, List.filterMap_cons]

/-- The record has the requests that were made, in their order. -/
theorem Log.requests (events : List (Event ρ τ)) :
    (Log.of events).entries.map Prod.fst = events.filterMap Event.issued :=
  Log.map_fst_foldl .empty events

theorem Log.traffic_foldl (log : Log ρ τ) (events : List (Event ρ τ)) :
    (events.foldl Log.after log).traffic = events.foldl Traffic.after log.traffic := by
  induction events generalizing log with
  | nil => rfl
  | cons event rest ih =>
      rw [List.foldl_cons, ih, List.foldl_cons]
      cases event <;> rfl

/-- The last entry is the last request with what was delivered of it. -/
theorem Follows.last_entry {events : List (Event ρ τ)} {final : Desk ρ τ ν}
    (follows : Follows pane view final (Log.of events)) :
    (Log.of events).entries.getLast? =
      (events.filterMap Event.issued).getLast?.map fun request =>
        (request, (Traffic.of events).answer (events.filterMap Event.issued).length) := by
  have requests := Log.requests events
  have made := follows.made
  have traffic : (Log.of events).traffic = Traffic.of events := Log.traffic_foldl .empty events
  rw [← requests, List.getLast?_map, List.length_map]
  cases found : (Log.of events).entries.getLast? with
  | none => rfl
  | some last =>
      have current := follows.current last found
      rw [made, traffic] at current
      show some last = some (last.1, _)
      rw [← current]

end LastRequest
