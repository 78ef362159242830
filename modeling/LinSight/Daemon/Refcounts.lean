import LinSight.Daemon.Scheduler

set_option autoImplicit false

namespace LinSight.Scheduler

/-- An entry stores the references `refs` gives for each period: no period is
stored with count zero, and the sampling period is the fastest one held. -/
structure Counts (entry : Entry) (refs : Nat → Nat) : Prop where
  counted : ∀ period, (entry.periodCounts.lookup period).getD 0 = refs period
  positive : ∀ period count, entry.periodCounts.lookup period = some count → count ≠ 0
  fastest : IsLeast {period | period ∈ entry.periodCounts} entry.periodMicros

/-- The scheduler holds exactly the multiset `tokens` of subscriptions. -/
def Represents (scheduler : Scheduler) (tokens : Multiset Subscription) : Prop :=
  ∀ id, match scheduler.entries.lookup id with
    | none => ∀ period, tokens.count ⟨id, period⟩ = 0
    | some entry => Counts entry fun period => tokens.count ⟨id, period⟩

theorem Counts.mem_iff {entry : Entry} {refs : Nat → Nat} (valid : Counts entry refs)
    (period : Nat) : period ∈ entry.periodCounts ↔ refs period ≠ 0 := by
  rw [← valid.counted]
  constructor
  · intro member
    obtain ⟨count, found⟩ := KeyMap.exists_lookup member
    simpa only [found, Option.getD_some] using valid.positive period count found
  · intro nonzero
    rw [← AList.lookup_isSome]
    by_contra absent
    rw [Option.not_isSome_iff_eq_none] at absent
    simp [absent] at nonzero

theorem Counts.held {entry : Entry} {refs : Nat → Nat} (valid : Counts entry refs) :
    refs entry.periodMicros ≠ 0 :=
  (valid.mem_iff _).mp valid.fastest.1

theorem lookup_incremented (counts : KeyMap Nat Nat) (period other : Nat) :
    (incremented counts period).lookup other =
      if other = period then some ((counts.lookup period).getD 0 + 1) else counts.lookup other :=
  KeyMap.lookup_insert_eq counts period other _

theorem lookup_decremented (counts : KeyMap Nat Nat) (period other : Nat) :
    (decremented counts period).lookup other =
      if other = period then
        (counts.lookup period).bind fun count => if count - 1 = 0 then none else some (count - 1)
      else counts.lookup other := by
  unfold decremented
  split
  · rename_i count found
    by_cases last : count - 1 = 0
    · simp only [last, ↓reduceIte, found, Option.bind_some]
      exact KeyMap.lookup_erase_eq counts period other
    · simp only [last, ↓reduceIte, found, Option.bind_some]
      exact KeyMap.lookup_insert_eq counts period other _
  · rename_i absent
    split
    · rename_i same
      rw [same, absent, Option.bind_none]
    · rfl

/-- The period written back is the least key, whatever the default. -/
theorem getD_firstKey_isLeast {counts : KeyMap Nat Nat} {period : Nat} (held : period ∈ counts)
    (default : Nat) :
    IsLeast {other | other ∈ counts} ((KeyMap.firstKey counts).getD default) := by
  obtain ⟨first, found⟩ := KeyMap.exists_firstKey held
  simpa only [found, Option.getD_some] using KeyMap.firstKey_isLeast found

theorem freshEntry_counts (period : Nat) (isStatic : Bool) (refs : Nat → Nat)
    (none_before : ∀ other, refs other = 0) :
    Counts (freshEntry period isStatic)
      fun other => refs other + if other = period then 1 else 0 := by
  have lookup : ∀ other, (freshEntry period isStatic).periodCounts.lookup other =
      if other = period then some 1 else none := fun other =>
    KeyMap.lookup_insert_eq ∅ period other 1
  refine ⟨?_, ?_, ?_, ?_⟩
  · intro other
    rw [lookup, none_before]
    split <;> rfl
  · intro other count found
    rw [lookup] at found
    split at found
    · cases found
      decide
    · cases found
  · exact (AList.mem_insert _).mpr (Or.inl rfl)
  · intro other member
    rcases (AList.mem_insert _).mp member with same | absent
    · exact Nat.le_of_eq same.symm
    · exact absurd absent (AList.notMem_empty other)

theorem joinEntry_counts {entry : Entry} {refs : Nat → Nat} (valid : Counts entry refs)
    (period : Nat) :
    Counts (joinEntry entry period) fun other => refs other + if other = period then 1 else 0 := by
  have lookup : ∀ other, (joinEntry entry period).periodCounts.lookup other = _ :=
    lookup_incremented entry.periodCounts period
  refine ⟨?_, ?_, ?_⟩
  · intro other
    rw [lookup]
    split
    · rename_i same
      subst same
      rw [Option.getD_some, valid.counted]
    · exact valid.counted other
  · intro other count found
    rw [lookup] at found
    split at found
    · cases found
      exact Nat.succ_ne_zero _
    · exact valid.positive other count found
  · exact getD_firstKey_isLeast ((AList.mem_insert _).mpr (Or.inl rfl)) entry.periodMicros

/-- Giving back one reference either empties the entry or leaves the others. -/
theorem decremented_counts {entry : Entry} {refs : Nat → Nat} (valid : Counts entry refs)
    (period : Nat) :
    let counts := decremented entry.periodCounts period
    (counts.entries.isEmpty = true ∧ ∀ other, refs other - (if other = period then 1 else 0) = 0) ∨
      (counts.entries.isEmpty = false ∧
        Counts (leaveEntry entry counts)
          fun other => refs other - if other = period then 1 else 0) := by
  intro counts
  have lookup := lookup_decremented entry.periodCounts period
  have counted : ∀ other, (counts.lookup other).getD 0 =
      refs other - if other = period then 1 else 0 := by
    intro other
    rw [lookup]
    split
    · rename_i same
      subst same
      rw [← valid.counted]
      cases entry.periodCounts.lookup other with
      | none => rfl
      | some count =>
          simp only [Option.bind_some, Option.getD_some]
          split <;> simp_all
    · exact valid.counted other
  have positive : ∀ other count, counts.lookup other = some count → count ≠ 0 := by
    intro other count found
    rw [lookup] at found
    split at found
    · obtain ⟨before, _, rest⟩ := Option.bind_eq_some_iff.mp found
      split at rest
      · cases rest
      · rename_i nonzero
        cases rest
        exact nonzero
    · exact valid.positive other count found
  cases entries : counts.entries with
  | nil =>
      refine Or.inl ⟨rfl, fun other => ?_⟩
      have empty : counts = ∅ := AList.ext entries
      rw [← counted other, empty]
      rfl
  | cons head tail =>
      have held : head.1 ∈ counts := by
        rw [AList.mem_keys, AList.keys, entries]
        exact List.mem_cons_self
      exact Or.inr ⟨rfl, counted, positive, getD_firstKey_isLeast held _⟩

theorem new_represents (descriptors : List SensorDescriptor) :
    Represents (new descriptors) 0 := by
  intro id
  exact fun period => Multiset.count_zero _

theorem Represents.congr {scheduler next : Scheduler} {tokens : Multiset Subscription}
    (valid : Represents scheduler tokens)
    (same : ∀ id, ∃ update : Entry → Entry,
      next.entries.lookup id = (scheduler.entries.lookup id).map update ∧
        ∀ entry, (update entry).periodCounts = entry.periodCounts ∧
          (update entry).periodMicros = entry.periodMicros) :
    Represents next tokens := by
  intro id
  obtain ⟨update, lookup, keeps⟩ := same id
  have before := valid id
  rw [lookup]
  cases found : scheduler.entries.lookup id with
  | none =>
      simp only [found] at before
      exact before
  | some entry =>
      simp only [found] at before
      obtain ⟨counts, period⟩ := keeps entry
      exact ⟨by rw [counts]; exact before.counted, by rw [counts]; exact before.positive,
        by rw [counts, period]; exact before.fastest⟩

/-- A subscription adds its token and no other. -/
theorem subscribe_represents {scheduler next : Scheduler} {tokens : Multiset Subscription}
    {id : SensorId} {rate : Option Ieee.Value} {subscription : Subscription}
    (valid : Represents scheduler tokens)
    (granted : scheduler.subscribe id rate = some (.ok (next, subscription))) :
    Represents next (subscription ::ₘ tokens) := by
  obtain ⟨descriptor, _, _, rfl, rfl⟩ := subscribe_ok granted
  obtain ⟨sensor, period⟩ := subscription
  intro other
  have before := valid other
  by_cases same : other = sensor
  · subst same
    have refs : (fun p => Multiset.count ⟨other, p⟩ (⟨other, period⟩ ::ₘ tokens)) =
        fun p => tokens.count ⟨other, p⟩ + if p = period then 1 else 0 := by
      funext p
      simp [Multiset.count_cons]
    simp only [AList.lookup_insert]
    rw [refs]
    cases found : scheduler.entries.lookup other with
    | none =>
        simp only [found] at before
        exact freshEntry_counts period _ _ before
    | some entry =>
        simp only [found] at before
        exact joinEntry_counts before period
  · have refs : ∀ p, Multiset.count ⟨other, p⟩ (⟨sensor, period⟩ ::ₘ tokens) =
        tokens.count ⟨other, p⟩ := fun p =>
      Multiset.count_cons_of_ne (by simp [same]) tokens
    simp only [AList.lookup_insert_ne same, refs]
    exact before

/-- Giving a subscription back takes its token out and no other. -/
theorem unsubscribe_represents {scheduler : Scheduler} {tokens : Multiset Subscription}
    (valid : Represents scheduler tokens) (subscription : Subscription) :
    Represents (scheduler.unsubscribe subscription) (tokens.erase subscription) := by
  obtain ⟨sensor, period⟩ := subscription
  intro other
  have before := valid other
  by_cases same : other = sensor
  · subst same
    have refs : ∀ p, Multiset.count ⟨other, p⟩ (tokens.erase ⟨other, period⟩) =
        tokens.count ⟨other, p⟩ - if p = period then 1 else 0 := by
      intro p
      by_cases at_period : p = period
      · subst at_period
        simp
      · rw [Multiset.count_erase_of_ne (by simp [at_period])]
        simp [at_period]
    rw [lookup_unsubscribe scheduler ⟨other, period⟩]
    cases found : scheduler.entries.lookup other with
    | none =>
        simp only [found] at before
        simp only [Option.bind_none, refs, before, Nat.zero_sub, implies_true]
    | some entry =>
        simp only [found] at before
        simp only [Option.bind_some, refs]
        rcases decremented_counts before period with ⟨empty, gone⟩ | ⟨nonempty, kept⟩
        · simpa only [empty, ↓reduceIte] using gone
        · simpa only [nonempty, Bool.false_eq_true, ↓reduceIte] using kept
  · rw [lookup_unsubscribe_ne scheduler ⟨sensor, period⟩ same]
    have refs : ∀ p, Multiset.count ⟨other, p⟩ (tokens.erase ⟨sensor, period⟩) =
        tokens.count ⟨other, p⟩ := fun p =>
      Multiset.count_erase_of_ne (by simp [same]) tokens
    simp only [refs]
    exact before

theorem tickPlan_represents {scheduler : Scheduler} {tokens : Multiset Subscription}
    (valid : Represents scheduler tokens) (now : Nat) :
    Represents (scheduler.tickPlan now).1 tokens := by
  refine valid.congr fun id => ⟨advanceEntry now, lookup_tickPlan scheduler now id, ?_⟩
  intro entry
  unfold advanceEntry
  split <;> exact ⟨rfl, rfl⟩

theorem settleEntry_keeps (now : Nat) (entry : Entry) (result : SampleResult) :
    (settleEntry now entry result).periodCounts = entry.periodCounts ∧
      (settleEntry now entry result).periodMicros = entry.periodMicros ∧
      (settleEntry now entry result).isStatic = entry.isStatic := by
  unfold settleEntry
  split <;> exact ⟨rfl, rfl, rfl⟩

theorem foldl_settleEntry_keeps (now : Nat) (results : List SampleResult) (entry : Entry) :
    (results.foldl (settleEntry now) entry).periodCounts = entry.periodCounts ∧
      (results.foldl (settleEntry now) entry).periodMicros = entry.periodMicros ∧
      (results.foldl (settleEntry now) entry).isStatic = entry.isStatic := by
  induction results generalizing entry with
  | nil => exact ⟨rfl, rfl, rfl⟩
  | cons result rest ih =>
      obtain ⟨counts, period, static⟩ := ih (settleEntry now entry result)
      obtain ⟨counts', period', static'⟩ := settleEntry_keeps now entry result
      exact ⟨counts.trans counts', period.trans period', static.trans static'⟩

theorem tickCommit_represents {scheduler : Scheduler} {tokens : Multiset Subscription}
    (valid : Represents scheduler tokens) (now : Nat)
    (results : List (TickItem × SampleResult)) :
    Represents (tickCommit now scheduler results).1 tokens :=
  valid.congr fun id => ⟨_, lookup_tickCommit now results scheduler id, fun entry =>
    ⟨(foldl_settleEntry_keeps now _ entry).1, (foldl_settleEntry_keeps now _ entry).2.1⟩⟩

end LinSight.Scheduler
