import LinSight.Library.Run
import Mathlib.Data.List.Perm.Basic
import Mathlib.Logic.Function.Basic

set_option autoImplicit false

/-! The requests of `AlertModel`: one generation counter for all kinds, workers that wait for a
slot of the semaphore, and results that are queued on the Qt event loop. -/

namespace LinSight.Gui

inductive AlertRequest where
  | reload
  | upsert
  | deleteRule
  | testExpr
  | reloadEvents
deriving DecidableEq

/-- What a request fills: the rule list, the test's result or the event list. -/
inductive AlertSlot where
  | rules
  | test
  | events
deriving DecidableEq

def AlertRequest.slot : AlertRequest → AlertSlot
  | .reload | .upsert | .deleteRule => .rules
  | .testExpr => .test
  | .reloadEvents => .events

abbrev RpcOutcome := Except String String

/-- What `fetch` makes of the RPC's answer; a test has no failed result. -/
def AlertRequest.fetch : AlertRequest → RpcOutcome → RpcOutcome
  | .testExpr, .error e => .ok ("RPC error: " ++ e)
  | _, answer => answer

/-- Where a worker thread is. -/
inductive WorkerPhase where
  | parked
  | fetching
  | released (result : RpcOutcome)

structure AlertWorker where
  request : AlertRequest
  generation : Nat
  phase : WorkerPhase

/-- A closure on the queue of the Qt thread. -/
structure AlertCompletion where
  request : AlertRequest
  generation : Nat
  result : RpcOutcome

structure AlertModel where
  rulesJson : String
  isLoading : Bool
  lastError : String
  testResult : String
  eventsJson : String
  requestGeneration : Nat
  workers : List AlertWorker
  queue : List AlertCompletion

def maxConcurrentRpc : Nat := 16

namespace AlertModel

def default : AlertModel := ⟨"", false, "", "", "", 0, [], []⟩

/-- The invokables up to `spawn_rpc`. -/
def spawn (model : AlertModel) (request : AlertRequest) : AlertModel :=
  let generation := model.requestGeneration + 1
  { model with
    isLoading := true
    lastError := ""
    testResult := if request = .testExpr then "testing..." else model.testResult
    requestGeneration := generation
    workers := model.workers ++ [⟨request, generation, .parked⟩] }

def fetching (model : AlertModel) : Nat :=
  model.workers.countP fun worker => match worker.phase with | .fetching => true | _ => false

/-- The `apply` closures. -/
def apply (model : AlertModel) (request : AlertRequest) (result : RpcOutcome) : AlertModel :=
  match request.slot, result with
  | .rules, .ok json => { model with rulesJson := json, isLoading := false }
  | .test, .ok text => { model with testResult := text, isLoading := false }
  | .events, .ok json => { model with eventsJson := json, isLoading := false }
  | _, .error e => { model with lastError := e, isLoading := false }

/-- The queued closure: a result of an older generation is dropped. -/
def complete (model : AlertModel) (completion : AlertCompletion) : AlertModel :=
  if model.requestGeneration = completion.generation then
    model.apply completion.request completion.result
  else model

/-- The result is what the slot shows. -/
def Shown (model : AlertModel) : AlertSlot → RpcOutcome → Prop
  | .rules, .ok json => model.rulesJson = json
  | .test, .ok text => model.testResult = text
  | .events, .ok json => model.eventsJson = json
  | _, .error e => model.lastError = e

end AlertModel

/-- The model with a record of its requests and of the results that arrived for them, by their
generations. -/
structure AlertWatch where
  model : AlertModel
  requests : List AlertRequest
  arrived : Nat → Option RpcOutcome

inductive AlertStep where
  | request (request : AlertRequest)
  | acquire (i : Nat)
  | release (i : Nat) (answer : RpcOutcome)
  | enqueue (i : Nat)
  | complete

/-- The generation of the last request that fills the slot. -/
def latestRequest (requests : List AlertRequest) (slot : AlertSlot) : Option Nat :=
  (((requests.zipIdx 1).filter fun numbered => numbered.1.slot = slot).getLast?).map Prod.snd

namespace AlertWatch

def start : AlertWatch := ⟨.default, [], fun _ => none⟩

def step (watch : AlertWatch) : AlertStep → Option AlertWatch
  | .request request => some { watch with
      model := watch.model.spawn request
      requests := watch.requests ++ [request] }
  | .acquire i =>
      match watch.model.workers[i]? with
      | some ⟨request, generation, .parked⟩ =>
          Run.enabled (watch.model.fetching < maxConcurrentRpc) { watch with
            model := { watch.model with
              workers := watch.model.workers.set i ⟨request, generation, .fetching⟩ } }
      | _ => none
  | .release i answer =>
      match watch.model.workers[i]? with
      | some ⟨request, generation, .fetching⟩ => some { watch with
          model := { watch.model with
            workers := watch.model.workers.set i
              ⟨request, generation, .released (request.fetch answer)⟩ } }
      | _ => none
  | .enqueue i =>
      match watch.model.workers[i]? with
      | some ⟨request, generation, .released result⟩ => some { watch with
          model := { watch.model with
            workers := watch.model.workers.eraseIdx i
            queue := watch.model.queue ++ [⟨request, generation, result⟩] } }
      | _ => none
  | .complete =>
      match watch.model.queue with
      | [] => none
      | completion :: rest => some { watch with
          model := { watch.model with queue := rest }.complete completion
          arrived := Function.update watch.arrived completion.generation
            (some completion.result) }

/-- All workers have finished and their results have been looked at. -/
def Quiet (watch : AlertWatch) : Prop := watch.model.workers = [] ∧ watch.model.queue = []

def latest (watch : AlertWatch) (slot : AlertSlot) : Option Nat :=
  latestRequest watch.requests slot

/-- A result that is the last of its kind arrives before any request of another kind is made,
and no request is made while another kind's last result is an error, which is on display. -/
def Timely (watch : AlertWatch) : AlertStep → Prop
  | .request request => ∀ slot, slot ≠ request.slot → ∀ g e,
      watch.latest slot = some g → watch.arrived g ≠ some (.error e)
  | .complete => ∀ completion ∈ watch.model.queue.head?,
      watch.latest completion.request.slot = some completion.generation →
        completion.generation = watch.requests.length
  | _ => True

/-- The requests and generations that the workers and the queued closures have. -/
def inFlight (watch : AlertWatch) : List (AlertRequest × Nat) :=
  (watch.model.workers.map fun worker => (worker.request, worker.generation)) ++
    watch.model.queue.map fun completion => (completion.request, completion.generation)

/-- What arrived for the last requests is shown, an error only until the next request. -/
structure Kept (watch : AlertWatch) : Prop where
  counted : watch.model.requestGeneration = watch.requests.length
  issued : ∀ request g, (request, g) ∈ watch.inFlight →
    0 < g ∧ watch.requests[g - 1]? = some request
  tracked : ∀ request g, 0 < g → watch.requests[g - 1]? = some request →
    (watch.arrived g).isSome ∨ (request, g) ∈ watch.inFlight
  past : ∀ g, (watch.arrived g).isSome → g ≤ watch.requests.length
  shown : ∀ slot g result, watch.latest slot = some g → watch.arrived g = some result →
    watch.model.Shown slot result ∧ ∀ e, result = .error e → g = watch.requests.length

end AlertWatch

section Latest

variable {requests : List AlertRequest} {request : AlertRequest} {slot : AlertSlot} {g : Nat}

theorem latestRequest_append (requests : List AlertRequest) (request : AlertRequest)
    (slot : AlertSlot) : latestRequest (requests ++ [request]) slot =
      if request.slot = slot then some (requests.length + 1) else latestRequest requests slot := by
  unfold latestRequest
  rw [List.zipIdx_append, List.filter_append]
  by_cases same : request.slot = slot
  · simp [same, Nat.add_comm]
  · simp [same]

theorem of_latestRequest (found : latestRequest requests slot = some g) :
    0 < g ∧ ∃ request, requests[g - 1]? = some request ∧ request.slot = slot := by
  obtain ⟨numbered, last, rfl⟩ := Option.map_eq_some_iff.mp found
  obtain ⟨member, filled⟩ := List.mem_filter.mp (List.mem_of_getLast? last)
  obtain ⟨request, number⟩ := numbered
  have placed := List.mem_zipIdx_iff_le_and_getElem?_sub.mp member
  exact ⟨placed.1, request, placed.2, of_decide_eq_true filled⟩

theorem latestRequest_last (last : requests[requests.length - 1]? = some request) :
    latestRequest requests request.slot = some requests.length := by
  rcases List.eq_nil_or_concat requests with rfl | ⟨front, newest, rfl⟩
  · cases last
  · rw [List.concat_eq_append] at last ⊢
    rw [List.length_append, List.length_singleton, Nat.add_sub_cancel, List.getElem?_concat_length,
      Option.some.injEq] at last
    rw [latestRequest_append, last, if_pos rfl, List.length_append, List.length_singleton]

end Latest

namespace AlertWatch

variable {watch next : AlertWatch}

/-- What a worker does by itself changes nothing that is kept. -/
theorem Kept.of_worker (kept : watch.Kept) {workers : List AlertWorker}
    {queue : List AlertCompletion}
    (same : ∀ entry, entry ∈ inFlight { watch with
      model := { watch.model with workers, queue } } ↔ entry ∈ watch.inFlight) :
    Kept { watch with model := { watch.model with workers, queue } } where
  counted := kept.counted
  issued request g flying := kept.issued request g ((same _).mp flying)
  tracked request g positive issued :=
    (kept.tracked request g positive issued).imp_right (same _).mpr
  past := kept.past
  shown slot g result last got := by
    obtain ⟨shown, latest⟩ := kept.shown slot g result last got
    refine ⟨?_, latest⟩
    cases slot <;> cases result <;> exact shown

theorem inFlight_set {i : Nat} {worker : AlertWorker} (found : watch.model.workers[i]? = some worker)
    (phase : WorkerPhase) (entry : AlertRequest × Nat) :
    entry ∈ inFlight { watch with model := { watch.model with
      workers := watch.model.workers.set i ⟨worker.request, worker.generation, phase⟩ } } ↔
      entry ∈ watch.inFlight := by
  have same : (watch.model.workers.set i ⟨worker.request, worker.generation, phase⟩).map
      (fun worker => (worker.request, worker.generation)) =
      watch.model.workers.map fun worker => (worker.request, worker.generation) := by
    obtain ⟨inside, rfl⟩ := List.getElem?_eq_some_iff.mp found
    calc _ = (watch.model.workers.set i watch.model.workers[i]).map
          (fun worker => (worker.request, worker.generation)) := by simp only [List.map_set]
      _ = _ := by rw [List.set_getElem_self]
  simp only [inFlight, same]

theorem inFlight_enqueue {i : Nat} {worker : AlertWorker}
    (found : watch.model.workers[i]? = some worker) (result : RpcOutcome)
    (entry : AlertRequest × Nat) :
    entry ∈ inFlight { watch with model := { watch.model with
      workers := watch.model.workers.eraseIdx i
      queue := watch.model.queue ++ [⟨worker.request, worker.generation, result⟩] } } ↔
      entry ∈ watch.inFlight := by
  obtain ⟨inside, rfl⟩ := List.getElem?_eq_some_iff.mp found
  have moved := ((List.getElem_cons_eraseIdx_perm inside).map
    fun worker => (worker.request, worker.generation)).mem_iff (a := entry)
  rw [List.map_cons, List.mem_cons] at moved
  simp only [inFlight, List.mem_append, List.map_append, List.map_cons, List.map_nil,
    List.mem_singleton, ← moved]
  tauto

theorem shown_spawn {model : AlertModel} {request : AlertRequest} {slot : AlertSlot}
    {result : RpcOutcome} (shown : model.Shown slot result) (other : slot ≠ request.slot)
    (fine : ∀ e, result ≠ .error e) : (model.spawn request).Shown slot result := by
  cases result with
  | error e => exact absurd rfl (fine e)
  | ok text =>
      cases slot with
      | rules => exact shown
      | events => exact shown
      | test =>
          have untested : request ≠ .testExpr := by
            rintro rfl
            exact other rfl
          simp only [AlertModel.Shown, AlertModel.spawn, if_neg untested]
          exact shown

theorem Kept.request (kept : watch.Kept) (request : AlertRequest)
    (timely : watch.Timely (.request request)) :
    Kept { watch with
      model := watch.model.spawn request
      requests := watch.requests ++ [request] } where
  counted := by
    rw [List.length_append, ← kept.counted]
    rfl
  issued entry g flying := by
    rw [inFlight, AlertModel.spawn, List.map_append, List.append_assoc, List.mem_append,
      List.mem_append] at flying
    have old (before : (entry, g) ∈ watch.inFlight) :
        0 < g ∧ (watch.requests ++ [request])[g - 1]? = some entry := by
      obtain ⟨positive, there⟩ := kept.issued entry g before
      have inside := (List.getElem?_eq_some_iff.mp there).1
      exact ⟨positive, by rw [List.getElem?_append_left inside, there]⟩
    rcases flying with worker | new | queued
    · exact old (List.mem_append_left _ worker)
    · rw [List.map_singleton, List.mem_singleton, Prod.mk.injEq] at new
      obtain ⟨rfl, rfl⟩ := new
      refine ⟨Nat.succ_pos _, ?_⟩
      rw [Nat.add_sub_cancel, kept.counted, List.getElem?_concat_length]
    · exact old (List.mem_append_right _ queued)
  tracked entry g positive issued := by
    have old (before : (entry, g) ∈ watch.inFlight) : (entry, g) ∈ inFlight { watch with
        model := watch.model.spawn request, requests := watch.requests ++ [request] } := by
      rw [inFlight, AlertModel.spawn, List.map_append, List.append_assoc, List.mem_append,
        List.mem_append]
      exact (List.mem_append.mp before).imp_right .inr
    by_cases inside : g - 1 < watch.requests.length
    · rw [List.getElem?_append_left inside] at issued
      exact (kept.tracked entry g positive issued).imp_right old
    · have bound := (List.getElem?_eq_some_iff.mp issued).1
      rw [List.length_append, List.length_singleton] at bound
      have last : g - 1 = watch.requests.length := by omega
      rw [last, List.getElem?_concat_length, Option.some.injEq] at issued
      right
      rw [inFlight, AlertModel.spawn, List.map_append, List.append_assoc, List.mem_append,
        List.mem_append, List.map_singleton, List.mem_singleton, issued, kept.counted, ← last]
      refine .inr (.inl ?_)
      rw [Nat.sub_add_cancel positive]
  past g arrived := by
    have before := kept.past g arrived
    rw [List.length_append]
    omega
  shown slot g result last got := by
    have newest := latestRequest_append watch.requests request slot
    rw [latest] at last
    rw [newest] at last
    split at last
    · cases last
      have before := kept.past _ (Option.isSome_of_mem got)
      omega
    · rename_i other
      have apart : slot ≠ request.slot := fun same => other same.symm
      have fine : ∀ e, result ≠ .error e := by
        rintro e rfl
        exact timely slot apart g e last got
      obtain ⟨shown, _⟩ := kept.shown slot g result last got
      exact ⟨shown_spawn shown apart fine, fun e wrong => absurd wrong (fine e)⟩

@[simp] theorem complete_frame (model : AlertModel) (completion : AlertCompletion) :
    (model.complete completion).workers = model.workers ∧
      (model.complete completion).queue = model.queue ∧
      (model.complete completion).requestGeneration = model.requestGeneration := by
  unfold AlertModel.complete
  split
  · unfold AlertModel.apply
    split <;> exact ⟨rfl, rfl, rfl⟩
  · exact ⟨rfl, rfl, rfl⟩

theorem shown_apply (model : AlertModel) (request : AlertRequest) (result : RpcOutcome) :
    (model.apply request result).Shown request.slot result := by
  unfold AlertModel.apply
  cases request.slot <;> cases result <;> rfl

/-- Another slot keeps what it shows, unless it is an error. -/
theorem shown_complete {model : AlertModel} {completion : AlertCompletion} {slot : AlertSlot}
    {result : RpcOutcome} (shown : model.Shown slot result)
    (other : model.requestGeneration = completion.generation →
      slot ≠ completion.request.slot ∧ ∀ e, result ≠ .error e) :
    (model.complete completion).Shown slot result := by
  unfold AlertModel.complete
  split
  · rename_i current
    obtain ⟨apart, fine⟩ := other current
    unfold AlertModel.apply
    cases result with
    | error e => exact absurd rfl (fine e)
    | ok text =>
        cases filled : completion.request.slot <;> cases completion.result <;> cases slot <;>
          first | exact shown | exact absurd filled.symm apart
  · exact shown

theorem Kept.complete (kept : watch.Kept) {completion : AlertCompletion}
    {rest : List AlertCompletion} (waiting : watch.model.queue = completion :: rest)
    (timely : watch.Timely .complete) :
    Kept { watch with
      model := { watch.model with queue := rest }.complete completion
      arrived := Function.update watch.arrived completion.generation (some completion.result) } := by
  have frame := complete_frame { watch.model with queue := rest } completion
  have flights (entry : AlertRequest × Nat) : entry ∈ watch.inFlight ↔
      entry = (completion.request, completion.generation) ∨
        entry ∈ inFlight { watch with
          model := { watch.model with queue := rest }.complete completion
          arrived := Function.update watch.arrived completion.generation
            (some completion.result) } := by
    simp only [inFlight, frame.1, frame.2.1, waiting, List.map_cons, List.mem_append,
      List.mem_cons]
    tauto
  have own : (completion.request, completion.generation) ∈ watch.inFlight :=
    (flights _).mpr (.inl rfl)
  obtain ⟨positive, place⟩ := kept.issued _ _ own
  refine ⟨?_, ?_, ?_, ?_, ?_⟩
  · exact frame.2.2.trans kept.counted
  · exact fun request g flying => kept.issued request g ((flights _).mpr (.inr flying))
  · intro request g positive issued
    dsimp only
    by_cases same : g = completion.generation
    · left
      rw [same, Function.update_self]
      rfl
    · rw [Function.update_of_ne same]
      refine (kept.tracked request g positive issued).imp_right fun flying => ?_
      exact ((flights _).mp flying).resolve_left fun both => same (Prod.ext_iff.mp both).2
  · intro g arrived
    dsimp only at arrived ⊢
    by_cases same : g = completion.generation
    · have inside := (List.getElem?_eq_some_iff.mp place).1
      omega
    · rw [Function.update_of_ne same] at arrived
      exact kept.past g arrived
  · intro slot g result last got
    dsimp only at got ⊢
    by_cases same : g = completion.generation
    · subst same
      rw [Function.update_self, Option.some.injEq] at got
      obtain ⟨_, request, placed, filled⟩ := of_latestRequest last
      cases place.symm.trans placed
      subst filled
      have newest := timely completion (by rw [waiting]; rfl) last
      have current : watch.model.requestGeneration = completion.generation :=
        kept.counted.trans newest.symm
      refine ⟨?_, fun _ _ => newest⟩
      rw [AlertModel.complete, if_pos current, ← got]
      exact shown_apply _ _ _
    · rw [Function.update_of_ne same] at got
      obtain ⟨shown, held⟩ := kept.shown slot g result last got
      refine ⟨shown_complete ?_ fun current => ?_, held⟩
      · cases slot <;> cases result <;> exact shown
      · have counted : completion.generation = watch.requests.length :=
          current.symm.trans kept.counted
        constructor
        · rintro rfl
          rw [counted] at place
          have newest := latestRequest_last place
          exact same ((Option.some.inj (last.symm.trans newest)).trans counted.symm)
        · rintro e rfl
          exact same ((held e rfl).trans counted.symm)

theorem Kept.step {label : AlertStep} (taken : watch.step label = some next)
    (timely : watch.Timely label) (kept : watch.Kept) : next.Kept := by
  cases label with
  | request request =>
      cases taken
      exact kept.request request timely
  | acquire i =>
      simp only [AlertWatch.step] at taken
      split at taken
      · rename_i request generation found
        obtain ⟨_, rfl⟩ := Run.enabled_eq_some.mp taken
        exact kept.of_worker (inFlight_set found .fetching)
      · cases taken
  | release i answer =>
      simp only [AlertWatch.step] at taken
      split at taken
      · rename_i request generation found
        cases taken
        exact kept.of_worker (inFlight_set found (.released (request.fetch answer)))
      · cases taken
  | enqueue i =>
      simp only [AlertWatch.step] at taken
      split at taken
      · rename_i request generation result found
        cases taken
        exact kept.of_worker (inFlight_enqueue found result)
      · cases taken
  | complete =>
      simp only [AlertWatch.step] at taken
      split at taken
      · cases taken
      · rename_i completion rest waiting
        cases taken
        exact kept.complete waiting timely

theorem kept_start : start.Kept where
  counted := rfl
  issued _ _ flying := absurd flying List.not_mem_nil
  tracked _ _ _ issued := by cases issued
  past _ arrived := by cases arrived
  shown _ _ _ last := by cases last

end AlertWatch

/-- A test of `Timely`. -/
def AlertWatch.timelyCheck (watch : AlertWatch) : AlertStep → Bool
  | .request request => [AlertSlot.rules, .test, .events].all fun slot =>
      slot = request.slot ||
        match (watch.latest slot).bind watch.arrived with
        | some (.error _) => false
        | _ => true
  | .complete => watch.model.queue.head?.all fun completion =>
      watch.latest completion.request.slot ≠ some completion.generation ||
        completion.generation = watch.requests.length
  | _ => true

theorem AlertWatch.timely_of_check {watch : AlertWatch} {label : AlertStep}
    (passed : watch.timelyCheck label = true) : watch.Timely label := by
  cases label with
  | request request =>
      intro slot other g e last failed
      have member : slot ∈ [AlertSlot.rules, .test, .events] := by cases slot <;> decide
      have here := List.all_eq_true.mp passed slot member
      rw [decide_eq_false other, Bool.false_or, last, Option.bind_some, failed] at here
      cases here
  | complete =>
      intro completion first last
      have here := (Option.all_eq_true _ _).mp passed completion first
      rw [last] at here
      simpa using here
  | acquire i => trivial
  | release i answer => trivial
  | enqueue i => trivial

/-- When all workers have finished, each slot shows the result of the last request that fills
it, if that result came before any request of another kind. -/
theorem alerts_show_last {labels : List AlertStep} {final : AlertWatch}
    (ran : Run.exec AlertWatch.step AlertWatch.start labels = some final)
    (timely : Run.Always AlertWatch.step AlertWatch.Timely AlertWatch.start labels)
    (quiet : final.Quiet) (slot : AlertSlot) (g : Nat) (last : final.latest slot = some g) :
    ∃ result, final.arrived g = some result ∧ final.model.Shown slot result := by
  have kept : final.Kept := Run.exec_invariant_of_always AlertWatch.Kept
    (fun _ _ _ taken timely kept => kept.step taken timely) ran timely AlertWatch.kept_start
  obtain ⟨positive, request, placed, _⟩ := of_latestRequest last
  have landed : (request, g) ∉ final.inFlight := by
    rw [AlertWatch.inFlight, quiet.1, quiet.2]
    exact List.not_mem_nil
  obtain ⟨result, got⟩ :=
    Option.isSome_iff_exists.mp ((kept.tracked request g positive placed).resolve_right landed)
  exact ⟨result, got, (kept.shown slot g result last got).1⟩

def hotRules : String := "[\x7b\"name\":\"hot\"\x7d]"

/-- A reload from the click to the list, and then the test of an expression, which fails. -/
def reloadRun : List AlertStep :=
  [.request .reload, .acquire 0, .release 0 (.ok hotRules), .enqueue 0, .complete,
    .request .testExpr, .acquire 0, .release 0 (.error "timeout"), .enqueue 0, .complete]

theorem alerts_show_last_reload : ∃ final list result,
    Run.exec AlertWatch.step AlertWatch.start reloadRun = some final ∧
      final.arrived 1 = some list ∧ final.model.Shown .rules list ∧
      final.arrived 2 = some result ∧ final.model.Shown .test result ∧
      final.model.rulesJson = hotRules ∧ final.model.testResult = "RPC error: timeout" := by
  obtain ⟨final, ran, quiet, rules, test, shows⟩ : ∃ final,
      Run.exec AlertWatch.step AlertWatch.start reloadRun = some final ∧ final.Quiet ∧
        final.latest .rules = some 1 ∧ final.latest .test = some 2 ∧
        final.model.rulesJson = hotRules ∧ final.model.testResult = "RPC error: timeout" :=
    ⟨_, rfl, ⟨rfl, rfl⟩, rfl, rfl, rfl, rfl⟩
  have timely : Run.Always AlertWatch.step AlertWatch.Timely AlertWatch.start reloadRun :=
    Run.Always.of_check (fun _ _ => AlertWatch.timely_of_check) (by decide)
  obtain ⟨list, first, rulesShown⟩ := alerts_show_last ran timely quiet .rules 1 rules
  obtain ⟨result, second, testShown⟩ := alerts_show_last ran timely quiet .test 2 test
  exact ⟨final, list, result, ran, first, rulesShown, second, testShown, shows⟩

/-- The page that opens: both lists are asked for, and the rules never come. -/
def openedRun : List AlertStep :=
  [.request .reload, .request .reloadEvents, .acquire 0, .acquire 1,
    .release 0 (.ok hotRules), .release 1 (.ok "[]"), .enqueue 0, .enqueue 0,
    .complete, .complete]

theorem alerts_show_last_opened : ∃ final,
    Run.exec AlertWatch.step AlertWatch.start openedRun = some final ∧ final.Quiet ∧
      ¬ ∀ slot g, final.latest slot = some g →
        ∃ result, final.arrived g = some result ∧ final.model.Shown slot result := by
  refine ⟨_, rfl, ⟨rfl, rfl⟩, fun shows => ?_⟩
  obtain ⟨result, got, shown⟩ := shows .rules 1 rfl
  cases got
  have empty : ("" : String) = hotRules := shown
  exact absurd empty (by decide)

end LinSight.Gui
