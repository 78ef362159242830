import LinSight.Library.Run
import Mathlib

set_option autoImplicit false

/-! A gate with a bound: who is let in stays until it leaves, and nobody is turned away while there
is room. Loops that count their workers are compared with it. -/

namespace Admission

variable {ι σ α τ β φ : Type}

/-- What happens at a gate. -/
inductive Event (ι : Type) where
  | enter (visitor : ι)
  | refuse (visitor : ι)
  | leave (visitor : ι)
deriving DecidableEq

/-- The visitors inside, and what may happen to them. -/
def pass [DecidableEq ι] (cap : Nat) (inside : Finset ι) : Event ι → Option (Finset ι)
  | .enter visitor => Run.enabled (visitor ∉ inside ∧ inside.card < cap) (insert visitor inside)
  | .refuse _ => Run.enabled (cap ≤ inside.card) inside
  | .leave visitor => Run.enabled (visitor ∈ inside) (inside.erase visitor)

/-! Refinement: a run is also one of the gate. -/

/-- The events of a run. -/
def trace (step : σ → α → Option σ) (events : σ → α → List β) : σ → List α → List β
  | _, [] => []
  | state, label :: rest =>
      events state label ++ ((step state label).map fun next => trace step events next rest).getD []

theorem exec_singleton {spec : τ → β → Option τ} {seen next : τ} {event : β}
    (taken : spec seen event = some next) : Run.exec spec seen [event] = some next :=
  Run.exec_cons.mpr ⟨next, taken, rfl⟩

/-- Where each step is matched by the events it is seen as, each run is. -/
theorem exec_refines {step : σ → α → Option σ} {events : σ → α → List β}
    {spec : τ → β → Option τ} {rel : σ → τ → Prop}
    (matched : ∀ state label next seen, step state label = some next → rel state seen →
      ∃ seen', Run.exec spec seen (events state label) = some seen' ∧ rel next seen')
    {start final : σ} {labels : List α} {seen : τ}
    (run : Run.exec step start labels = some final) (initial : rel start seen) :
    ∃ seen', Run.exec spec seen (trace step events start labels) = some seen' ∧ rel final seen' := by
  induction labels generalizing start seen with
  | nil => exact ⟨seen, rfl, Option.some.inj run ▸ initial⟩
  | cons label rest ih =>
      obtain ⟨next, taken, remaining⟩ := Run.exec_cons.mp run
      obtain ⟨middle, first, related⟩ := matched start label next seen taken initial
      obtain ⟨last, later, finished⟩ := ih remaining related
      refine ⟨last, ?_, finished⟩
      rw [trace, taken, Option.map_some, Option.getD_some]
      exact Run.exec_append.mpr ⟨middle, first, later⟩

/-! Visitors that are inside by the phase they are in. -/

/-- Those inside are those whose phase has a place. -/
def Holders (holds : φ → Bool) (phase : ι → φ) (inside : Finset ι) : Prop :=
  ∀ visitor, visitor ∈ inside ↔ holds (phase visitor) = true

theorem Holders.none {holds : φ → Bool} (absent : φ) (outside : holds absent = false) :
    Holders holds (fun _ : ι => absent) ∅ := by
  intro visitor
  simp [outside]

section Holders

variable [DecidableEq ι] {holds : φ → Bool} {phase : ι → φ} {inside : Finset ι} {cap : Nat}
  {visitor : ι} {after : φ}

theorem Holders.keep (holders : Holders holds phase inside)
    (same : holds (phase visitor) = holds after) :
    Holders holds (Function.update phase visitor after) inside := by
  intro other
  by_cases here : other = visitor
  · subst here
    rw [Function.update_self, ← same]
    exact holders other
  · rw [Function.update_of_ne here]
    exact holders other

variable (cap visitor after) in
theorem Holders.enter (holders : Holders holds phase inside)
    (outside : holds (phase visitor) = false) (holding : holds after = true)
    (room : inside.card < cap) :
    pass cap inside (.enter visitor) = some (insert visitor inside) ∧
      Holders holds (Function.update phase visitor after) (insert visitor inside) ∧
      (insert visitor inside).card = inside.card + 1 := by
  have absent : visitor ∉ inside := by
    intro member
    rw [holders visitor, outside] at member
    cases member
  refine ⟨Run.enabled_eq_some.mpr ⟨⟨absent, room⟩, rfl⟩, ?_, Finset.card_insert_of_notMem absent⟩
  intro other
  by_cases here : other = visitor
  · subst here
    simp [holding]
  · rw [Function.update_of_ne here, Finset.mem_insert, holders other]
    simp [here]

variable (cap visitor after) in
theorem Holders.exit (holders : Holders holds phase inside)
    (member : holds (phase visitor) = true) (gone : holds after = false) :
    pass cap inside (.leave visitor) = some (inside.erase visitor) ∧
      Holders holds (Function.update phase visitor after) (inside.erase visitor) ∧
      (inside.erase visitor).card + 1 = inside.card := by
  have present : visitor ∈ inside := (holders visitor).mpr member
  refine ⟨Run.enabled_eq_some.mpr ⟨present, rfl⟩, ?_, Finset.card_erase_add_one present⟩
  intro other
  by_cases here : other = visitor
  · subst here
    simp [gone]
  · rw [Function.update_of_ne here, Finset.mem_erase, holders other]
    simp [here]

end Holders

end Admission
