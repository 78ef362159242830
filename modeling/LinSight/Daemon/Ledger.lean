import LinSight.Daemon.Scheduler

set_option autoImplicit false

namespace LinSight

/-- The tokens of one client, each stored under its own sensor and period. -/
structure ClientSubscriptions where
  entries : KeyMap (SensorId × Nat) Subscription
  keyed : ∀ key subscription, entries.lookup key = some subscription →
    key = (subscription.sensor, subscription.periodMicros)

namespace ClientSubscriptions

variable (subscriptions : ClientSubscriptions)

def new : ClientSubscriptions where
  entries := ∅
  keyed := fun _ _ found => nomatch found

def holds (subscriptions : ClientSubscriptions) (subscription : Subscription) : Bool :=
  (subscriptions.entries.lookup (subscription.sensor, subscription.periodMicros)).isSome

def insert (subscriptions : ClientSubscriptions) (subscription : Subscription) :
    ClientSubscriptions where
  entries := subscriptions.entries.insert (subscription.sensor, subscription.periodMicros)
    subscription
  keyed := by
    intro key held found
    rw [KeyMap.lookup_insert_eq] at found
    split at found
    · cases found
      assumption
    · exact subscriptions.keyed key held found

/-- The tokens as one multiset. -/
def tokens (subscriptions : ClientSubscriptions) : Multiset Subscription :=
  (subscriptions.entries.entries.map (·.2) : List Subscription)

/-- Remove every token on one sensor. -/
def takeSensor (subscriptions : ClientSubscriptions) (id : SensorId) :
    ClientSubscriptions × List Subscription :=
  (⟨KeyMap.retain (fun key _ => key.1 ≠ id) subscriptions.entries, by
      intro key held found
      rw [KeyMap.lookup_retain, Option.filter_eq_some_iff] at found
      exact subscriptions.keyed key held found.1⟩,
    (subscriptions.entries.entries.filter fun entry => entry.1.1 = id).map (·.2))

/-- The `Unsubscribe` loop over the requested sensors. -/
def takeSensors (subscriptions : ClientSubscriptions) :
    List SensorId → ClientSubscriptions × List Subscription
  | [] => (subscriptions, [])
  | id :: rest =>
      let (kept, removed) := subscriptions.takeSensor id
      let (final, others) := kept.takeSensors rest
      (final, removed ++ others)

def drain (subscriptions : ClientSubscriptions) : ClientSubscriptions × List Subscription :=
  (new, subscriptions.entries.entries.map (·.2))

/-- The interest check of the fan-out. -/
def wants (subscriptions : ClientSubscriptions) (id : SensorId) : Bool :=
  subscriptions.entries.keys.any (·.1 = id)

@[simp] theorem new_tokens : new.tokens = 0 := rfl

theorem mem_tokens (subscription : Subscription) :
    subscription ∈ subscriptions.tokens ↔ subscriptions.holds subscription = true := by
  rw [holds, Option.isSome_iff_exists]
  constructor
  · intro member
    obtain ⟨⟨key, held⟩, stored, rfl⟩ := List.mem_map.mp member
    have found := (KeyMap.mem_entries_iff _ _ _).mp stored
    exact ⟨held, subscriptions.keyed key held found ▸ found⟩
  · intro ⟨held, found⟩
    obtain ⟨sensor, period⟩ := Prod.mk.inj (subscriptions.keyed _ held found)
    have same : subscription = held := by
      cases subscription
      cases held
      simp_all
    rw [same]
    exact List.mem_map.mpr ⟨_, (KeyMap.mem_entries_iff _ _ _).mpr found, rfl⟩

/-- A client holds each token at most once. -/
theorem tokens_nodup : subscriptions.tokens.Nodup := by
  have keys : subscriptions.entries.entries.map (·.1) =
      (subscriptions.entries.entries.map (·.2)).map
        fun subscription => (subscription.sensor, subscription.periodMicros) := by
    rw [List.map_map]
    refine List.map_congr_left fun entry member => ?_
    exact subscriptions.keyed _ _ ((KeyMap.mem_entries_iff _ _ _).mp member)
  have distinct : (subscriptions.entries.entries.map (·.1)).Nodup :=
    subscriptions.entries.nodupKeys
  rw [keys] at distinct
  exact Multiset.coe_nodup.mpr (List.Nodup.of_map _ distinct)

theorem count_tokens (subscription : Subscription) :
    subscriptions.tokens.count subscription =
      if subscriptions.holds subscription then 1 else 0 := by
  rw [Multiset.count_eq_of_nodup subscriptions.tokens_nodup]
  simp only [mem_tokens]

theorem insert_tokens {subscriptions : ClientSubscriptions} {subscription : Subscription}
    (fresh : subscriptions.holds subscription = false) :
    (subscriptions.insert subscription).tokens = subscription ::ₘ subscriptions.tokens := by
  have absent : (subscription.sensor, subscription.periodMicros) ∉ subscriptions.entries := by
    rw [← AList.lookup_eq_none, ← Option.not_isSome_iff_eq_none]
    simpa only [holds, Bool.not_eq_true] using fresh
  simp only [tokens, insert, AList.entries_insert_of_notMem absent, List.map_cons,
    Multiset.cons_coe]

/-- What leaves the ledger and what stays make up what was there. -/
theorem takeSensor_tokens (id : SensorId) :
    (subscriptions.takeSensor id).1.tokens + ((subscriptions.takeSensor id).2 : List Subscription) =
      subscriptions.tokens := by
  simp only [takeSensor, tokens, KeyMap.retain, Multiset.coe_add, ← List.map_append]
  refine Multiset.coe_eq_coe.mpr (List.Perm.map _ ?_)
  refine List.perm_append_comm.trans ?_
  simpa only [ne_eq, decide_not] using
    List.filter_append_perm (fun entry => decide (entry.1.1 = id)) subscriptions.entries.entries

theorem takeSensors_tokens (sensors : List SensorId) :
    (subscriptions.takeSensors sensors).1.tokens +
      ((subscriptions.takeSensors sensors).2 : List Subscription) = subscriptions.tokens := by
  induction sensors generalizing subscriptions with
  | nil => exact Multiset.add_zero _
  | cons id rest ih =>
      have first := subscriptions.takeSensor_tokens id
      have others := ih (subscriptions.takeSensor id).1
      simp only [takeSensors, ← Multiset.coe_add]
      rw [← first, ← others, add_assoc]
      exact congrArg _ (add_comm _ _)

theorem drain_tokens :
    (subscriptions.drain.2 : Multiset Subscription) = subscriptions.tokens := rfl

theorem wants_of_mem {subscriptions : ClientSubscriptions} {subscription : Subscription}
    (held : subscription ∈ subscriptions.tokens) :
    subscriptions.wants subscription.sensor = true := by
  rw [mem_tokens, holds, AList.lookup_isSome, AList.mem_keys] at held
  exact List.any_eq_true.mpr ⟨_, held, decide_eq_true rfl⟩

section Wants

variable {subscriptions : ClientSubscriptions} {s : SensorId}

theorem wants_iff :
    subscriptions.wants s = true ↔ ∃ period, (s, period) ∈ subscriptions.entries := by
  simp only [wants, List.any_eq_true, decide_eq_true_eq, ← AList.mem_keys]
  constructor
  · intro found
    obtain ⟨⟨sensor, period⟩, inside, same⟩ := found
    exact ⟨period, same ▸ inside⟩
  · intro found
    obtain ⟨period, inside⟩ := found
    exact ⟨(s, period), inside, rfl⟩

theorem wants_of_holds {subscription : Subscription}
    (held : subscriptions.holds subscription = true) :
    subscriptions.wants subscription.sensor = true :=
  wants_of_mem ((mem_tokens subscriptions subscription).mpr held)

theorem wants_insert (subscription : Subscription) :
    (subscriptions.insert subscription).wants s = true ↔
      s = subscription.sensor ∨ subscriptions.wants s = true := by
  simp only [wants_iff, insert, AList.mem_insert, Prod.mk.injEq]
  constructor
  · intro found
    obtain ⟨period, new | old⟩ := found
    · exact .inl new.1
    · exact .inr ⟨period, old⟩
  · intro either
    rcases either with new | old
    · exact ⟨subscription.periodMicros, .inl ⟨new, rfl⟩⟩
    · obtain ⟨period, inside⟩ := old
      exact ⟨period, .inr inside⟩

theorem wants_takeSensor (id : SensorId) :
    (subscriptions.takeSensor id).1.wants s = true ↔ subscriptions.wants s = true ∧ s ≠ id := by
  simp only [wants_iff, takeSensor, ← AList.lookup_isSome, KeyMap.lookup_retain]
  constructor
  · intro found
    obtain ⟨period, kept⟩ := found
    obtain ⟨held, passed⟩ := Option.isSome_iff_exists.mp kept
    rw [Option.filter_eq_some_iff] at passed
    refine ⟨⟨period, by rw [passed.1]; rfl⟩, ?_⟩
    simpa using passed.2
  · intro both
    obtain ⟨⟨period, inside⟩, differs⟩ := both
    obtain ⟨held, found⟩ := Option.isSome_iff_exists.mp inside
    refine ⟨period, ?_⟩
    rw [found]
    simp [differs]

theorem wants_takeSensors (sensors : List SensorId) :
    (subscriptions.takeSensors sensors).1.wants s = true ↔
      subscriptions.wants s = true ∧ s ∉ sensors := by
  induction sensors generalizing subscriptions with
  | nil => simp [takeSensors]
  | cons id rest ih =>
      show ((subscriptions.takeSensor id).1.takeSensors rest).1.wants s = true ↔ _
      rw [ih, wants_takeSensor, List.mem_cons, not_or, and_assoc]

end Wants

end ClientSubscriptions

end LinSight
