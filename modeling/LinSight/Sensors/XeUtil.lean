import LinSight.Library.Rounding
import LinSight.Library.Run
import LinSight.Sensors.Fdinfo

set_option autoImplicit false

/-! The utilization sensor of the xe plugin over the snapshots that it scans, caches and keeps. -/

namespace LinSight.Fdinfo

open Ieee (Value binary64)

section Shares

/-- A quotient of two counts, and what it is at most. -/
theorem quotient_le {busy spent total : Nat} (small : busy < 2 ^ 64) (positive : 0 < total)
    (bounded : total < 2 ^ 64) (order : busy ≤ spent) :
    ∃ r : ℚ, quotient busy total = .finite r ∧ 0 ≤ r ∧
      (Value.finite r).le (quotient spent total) = true := by
  obtain ⟨b, round_b, b_nonneg, b_high, _⟩ := Ieee.round_count small
  obtain ⟨t, round_t, _, _, t_low⟩ := Ieee.round_count bounded
  have t_pos : 0 < t := zero_lt_one.trans_le (t_low positive)
  have divided (q : ℚ) : binary64.div (.finite q) (.finite t) = binary64.round (q / t) := by
    simp only [Ieee.Format.div]
    rw [if_neg t_pos.ne']
  have share_nonneg : 0 ≤ b / t := div_nonneg b_nonneg t_pos.le
  have share_high : b / t ≤ 2 ^ (100 : Nat) := by
    refine (div_le_self b_nonneg (t_low positive)).trans (b_high.trans ?_)
    exact pow_le_pow_right₀ (by norm_num) (by norm_num)
  obtain ⟨r, rounded, r_nonneg⟩ := Ieee.round_exists share_nonneg share_high
  refine ⟨r, ?_, r_nonneg, ?_⟩
  · rw [quotient, round_b, round_t, divided, rounded]
  · have counts : (busy : ℚ) ≤ spent := by exact_mod_cast order
    rcases Ieee.Format.round_of_nonneg (Nat.cast_nonneg spent) Ieee.binary64_ordinary with
      infinite | ⟨s, round_s, _, s_nonneg⟩
    · have beyond : binary64.div .posInf (.finite t) = .posInf := by
        simp only [Ieee.Format.div]
        rw [if_neg t_pos.not_gt]
      rw [quotient, infinite, round_t, beyond]
      rfl
    · have b_le : b ≤ s := Ieee.Format.round_mono (Nat.cast_nonneg busy) counts round_b round_s
        Ieee.binary64_ordinary
      have share_le : b / t ≤ s / t := by gcongr
      rw [quotient, round_s, round_t, divided]
      rcases Ieee.Format.round_of_nonneg (div_nonneg s_nonneg t_pos.le) Ieee.binary64_ordinary with
        infinite | ⟨r', rounded', _, _⟩
      · rw [infinite]
        rfl
      · rw [rounded']
        exact decide_eq_true (Ieee.Format.round_mono share_nonneg share_le rounded rounded'
          Ieee.binary64_ordinary)

theorem clamp_unit {r : ℚ} (nonneg : 0 ≤ r) :
    (Value.finite r).clamp (.finite 0) (.finite 1) = some (.finite (min r 1)) := by
  have ordered : (Value.finite 0).le (.finite 1) = true := by decide
  have raised : (Value.finite r).lt (.finite 0) = false := decide_eq_false nonneg.not_gt
  simp only [Value.clamp, ordered, if_true, raised, Bool.false_eq_true, if_false]
  by_cases above : 1 < r
  · have past : (Value.finite 1).lt (.finite r) = true := decide_eq_true above
    rw [past, if_pos rfl, min_eq_right above.le]
  · have within : (Value.finite 1).lt (.finite r) = false := decide_eq_false above
    rw [within, if_neg Bool.false_ne_true, min_eq_left (not_lt.mp above)]

end Shares

section Credits

variable {prev cur : PdevSnapshot} {first second : World} {pdev cls : String}

/-- A class that a share is reported for. -/
def Reported (prev cur : PdevSnapshot) (cls : String) : Prop :=
  ∃ before now, prev.total.lookup cls = some before ∧ cur.total.lookup cls = some now ∧ before < now

theorem foldl_wrappingAdd_le {α : Type} (f : α → Nat) (list : List α) (sum : Nat) :
    list.foldl (fun sum entry => wrappingAdd sum (f entry)) sum ≤ sum + (list.map f).sum := by
  induction list generalizing sum with
  | nil => exact Nat.le_refl sum
  | cons entry rest ih =>
      have wrapped : wrappingAdd sum (f entry) ≤ sum + f entry := Nat.mod_le _ _
      have later := ih (wrappingAdd sum (f entry))
      rw [List.foldl_cons, List.map_cons, List.sum_cons]
      omega

theorem busyDelta_lt : busyDelta prev cur cls < 2 ^ 64 :=
  List.foldlRecOn (motive := fun sum => sum < 2 ^ 64) _ _ (by decide)
    fun _ _ _ _ => Nat.mod_lt _ (by decide)

/-- The credit of a client is what it spent, unless the snapshot before lacks it. -/
theorem credit_le_iff (before : prev.Of first pdev) (now : cur.Of second pdev)
    (order : first.Before second) {clientId n : Nat}
    (found : cur.busy.lookup (clientId, cls) = some n) :
    credit prev clientId cls n ≤ second.busy pdev clientId cls - first.busy pdev clientId cls ↔
      (prev.busy.lookup (clientId, cls) = none → first.busy pdev clientId cls = 0) := by
  have grown := order.busy pdev clientId cls
  rw [(now.busy clientId cls n found).2]
  unfold credit
  cases known : prev.busy.lookup (clientId, cls) with
  | none =>
      rw [Option.getD_none]
      constructor
      · intro low _
        omega
      · intro fresh
        have zero := fresh rfl
        omega
  | some m =>
      rw [Option.getD_some, (before.busy clientId cls m known).2]
      exact iff_of_true le_rfl (fun other => by cases other)

/-- The busy cycles of a class are at most what all clients spent, where no credit is more. -/
theorem busyDelta_le_spent (now : cur.Of second pdev)
    (fair : ∀ clientId n, cur.busy.lookup (clientId, cls) = some n →
      credit prev clientId cls n ≤
        second.busy pdev clientId cls - first.busy pdev clientId cls) :
    busyDelta prev cur cls ≤ first.spent second pdev cls := by
  let entries := cur.busy.entries.filter fun entry => entry.1.2 = cls
  let spent := fun clientId => second.busy pdev clientId cls - first.busy pdev clientId cls
  have stored : ∀ entry ∈ entries, entry.1.2 = cls ∧
      cur.busy.lookup (entry.1.1, cls) = some entry.2 := by
    rintro ⟨⟨clientId, other⟩, n⟩ member
    obtain ⟨inside, here⟩ := List.mem_filter.mp member
    have same : other = cls := of_decide_eq_true here
    subst same
    exact ⟨rfl, (KeyMap.mem_entries_iff _ _ _).mp inside⟩
  have distinct : (entries.map fun entry => entry.1.1).Nodup := by
    have keys : (entries.map Sigma.fst).Nodup :=
      cur.busy.keys_nodup.sublist (List.filter_sublist.map Sigma.fst)
    have ids : (entries.map fun entry => entry.1.1) = (entries.map Sigma.fst).map Prod.fst := by
      rw [List.map_map]
      rfl
    rw [ids]
    refine keys.map_on fun key inside other inside' same => ?_
    obtain ⟨entry, member, rfl⟩ := List.mem_map.mp inside
    obtain ⟨entry', member', rfl⟩ := List.mem_map.mp inside'
    exact Prod.ext same ((stored entry member).1.trans (stored entry' member').1.symm)
  calc busyDelta prev cur cls
      ≤ 0 + (entries.map fun entry => credit prev entry.1.1 entry.1.2 entry.2).sum :=
        foldl_wrappingAdd_le _ entries 0
    _ = (entries.map fun entry => credit prev entry.1.1 entry.1.2 entry.2).sum := Nat.zero_add _
    _ ≤ (entries.map fun entry => spent entry.1.1).sum := by
        apply List.sum_le_sum
        intro entry member
        obtain ⟨same, found⟩ := stored entry member
        rw [same]
        exact fair _ _ found
    _ = ∑ clientId ∈ (entries.map fun entry => entry.1.1).toFinset, spent clientId := by
        rw [List.sum_toFinset _ distinct, List.map_map]
        rfl
    _ ≤ first.spent second pdev cls := by
        apply Finset.sum_le_sum_of_subset
        intro clientId member
        obtain ⟨entry, inside, rfl⟩ := List.mem_map.mp (List.mem_toFinset.mp member)
        exact (now.busy _ _ _ (stored entry inside).2).1

theorem mem_perClassUtil {v : Value} (member : (cls, v) ∈ perClassUtil prev cur) :
    ∃ before now, prev.total.lookup cls = some before ∧ cur.total.lookup cls = some now ∧
      before < now ∧
      (quotient (busyDelta prev cur cls) (now - before)).clamp (.finite 0) (.finite 1) =
        some v := by
  obtain ⟨⟨other, now⟩, inside, made⟩ := List.mem_filterMap.mp member
  obtain ⟨before, there, rest⟩ := Option.bind_eq_some_iff.mp made
  dsimp only at there rest
  split at rest
  · cases rest
  · rename_i moved
    obtain ⟨util, clamped, same⟩ := Option.map_eq_some_iff.mp rest
    cases same
    exact ⟨before, now, there, (KeyMap.mem_entries_iff _ _ _).mp inside, by omega, clamped⟩

/-- The share of a class in the window. -/
def Bounded (first second : World) (pdev cls : String) (v : Value) : Prop :=
  ∃ r : ℚ, v = .finite r ∧ 0 ≤ r ∧ r ≤ 1 ∧
    v.le (quotient (first.spent second pdev cls)
      (second.total pdev cls - first.total pdev cls)) = true

theorem bounded_of_fair (before : prev.Of first pdev) (now : cur.Of second pdev)
    (fair : ∀ clientId n, cur.busy.lookup (clientId, cls) = some n →
      credit prev clientId cls n ≤
        second.busy pdev clientId cls - first.busy pdev clientId cls)
    {v : Value} (member : (cls, v) ∈ perClassUtil prev cur) : Bounded first second pdev cls v := by
  obtain ⟨m, n, earlier, later, moved, clamped⟩ := mem_perClassUtil member
  obtain ⟨same, _⟩ := before.total cls m earlier
  obtain ⟨same', small⟩ := now.total cls n later
  have bounded : n < 2 ^ 64 := small
  obtain ⟨r, share, nonneg, low⟩ := @quotient_le _ (first.spent second pdev cls) (n - m)
    (@busyDelta_lt prev cur cls) (by omega) (by omega) (busyDelta_le_spent now fair)
  rw [share, clamp_unit nonneg] at clamped
  cases clamped
  refine ⟨min r 1, rfl, le_min nonneg zero_le_one, min_le_right r 1, ?_⟩
  rw [← same, ← same']
  cases exact_share : quotient (first.spent second pdev cls) (n - m) with
  | finite q =>
      rw [exact_share] at low
      exact decide_eq_true ((min_le_left r 1).trans (of_decide_eq_true low))
  | posInf => rfl
  | nan =>
      rw [exact_share] at low
      cases low
  | negInf =>
      rw [exact_share] at low
      cases low

end Credits

/-- In nanoseconds. -/
def fdinfoCacheTtl : Nat := 400000000

def fdinfoFullRescanInterval : Nat := 15000000000

/-- The state of the plugin; a device stands for its PCI slot. -/
structure Inner where
  devices : List String
  utilState : KeyMap String PdevSnapshot
  cachedSnapshot : Option (Nat × Snapshots)
  drmFdIndex : DrmFdIndex
  lastFullRescan : Option Nat

namespace Inner

def start (devices : List String) : Inner := ⟨devices, ∅, none, ∅, none⟩

def cacheFresh (inner : Inner) (now : Nat) : Bool :=
  inner.cachedSnapshot.any fun cached => now - cached.1 < fdinfoCacheTtl

def refresh (inner : Inner) (now : Nat) (proc : Proc) : Inner :=
  if inner.cacheFresh now then inner
  else
    let fullDue := inner.lastFullRescan.all fun t => fdinfoFullRescanInterval ≤ now - t
    let fresh := captureAllFiltered proc (if fullDue then none else some inner.drmFdIndex)
    { inner with
      lastFullRescan := if fullDue then some now else inner.lastFullRescan
      drmFdIndex := fresh.2
      cachedSnapshot := some (now, fresh.1) }

def current (inner : Inner) (pdev : String) : PdevSnapshot :=
  (inner.cachedSnapshot.bind fun cached => cached.2.lookup pdev).getD .empty

/-- A sample of `xe.gpu<idx>.util`; `none` is an unsupported sensor. -/
def sampleUtil (inner : Inner) (idx now : Nat) (proc : Proc) : Option Value × Inner :=
  match inner.devices[idx]? with
  | none => (none, inner)
  | some pdev =>
      let inner := inner.refresh now proc
      let cur := inner.current pdev
      let util := match inner.utilState.lookup pdev with
        | some prev => binary64.mul (maxUtil prev cur) (.finite 100)
        | none => .finite 0
      (some util, { inner with utilState := inner.utilState.insert pdev cur })

end Inner

/-- A sample, with what it finds in `/proc` and the clients at that moment. -/
structure Tick where
  idx : Nat
  now : Nat
  proc : Proc
  world : World

/-- The plugin, and the moments that its cached snapshot and the stored ones are of. The moments
are a record: no step reads them. -/
structure Traced where
  inner : Inner
  cachedAt : Option World
  storedAt : KeyMap String World

namespace Traced

def start (devices : List String) : Traced := ⟨.start devices, none, ∅⟩

def step (t : Traced) (tick : Tick) : Traced :=
  match t.inner.devices[tick.idx]? with
  | none => t
  | some pdev =>
      let cachedAt := if t.inner.cacheFresh tick.now then t.cachedAt else some tick.world
      { inner := (t.inner.sampleUtil tick.idx tick.now tick.proc).2
        cachedAt := cachedAt
        storedAt := match cachedAt with
          | some world => t.storedAt.insert pdev world
          | none => t.storedAt.erase pdev }

def run (devices : List String) (ticks : List Tick) : Traced := ticks.foldl step (start devices)

end Traced

/-- What a sample compares: the stored snapshot of the device and the one it stores, with
their moments. -/
structure Compares (t : Traced) (tick : Tick) (pdev : String) (prev cur : PdevSnapshot)
    (first second : World) : Prop where
  device : t.inner.devices[tick.idx]? = some pdev
  prev : t.inner.utilState.lookup pdev = some prev
  first : t.storedAt.lookup pdev = some first
  cur : (t.step tick).inner.utilState.lookup pdev = some cur
  second : (t.step tick).storedAt.lookup pdev = some second

/-- Every reported share is one of the cycles spent in the window, and no client is credited
with more than it spent there. -/
def UtilRight (t : Traced) (tick : Tick) : Prop :=
  ∀ pdev prev cur first second, Compares t tick pdev prev cur first second →
    (∀ cls v, (cls, v) ∈ perClassUtil prev cur → Bounded first second pdev cls v) ∧
    ∀ cls, Reported prev cur cls → ∀ clientId n, cur.busy.lookup (clientId, cls) = some n →
      credit prev clientId cls n ≤
        second.busy pdev clientId cls - first.busy pdev clientId cls

/-- A client that the stored snapshot lacks had spent nothing when it was taken. -/
def Fresh (t : Traced) (tick : Tick) : Prop :=
  ∀ pdev prev cur first second, Compares t tick pdev prev cur first second →
    ∀ cls, Reported prev cur cls → ∀ clientId n, cur.busy.lookup (clientId, cls) = some n →
      prev.busy.lookup (clientId, cls) = none → first.busy pdev clientId cls = 0

/-- Each sample finds the clients of its moment, and no counter goes backwards. -/
structure Honest (ticks : List Tick) : Prop where
  shows : ∀ tick ∈ ticks, tick.world.Shows tick.proc
  order : ticks.Pairwise fun one two => one.world.Before two.world

section Runs

variable {devices : List String} {ticks front : List Tick} {tick : Tick} {t : Traced}

/-- The snapshots are of their moments, and these lie in order. -/
structure Tracked (t : Traced) (ticks : List Tick) : Prop where
  cached : ∀ time snaps, t.inner.cachedSnapshot = some (time, snaps) →
    ∃ world, t.cachedAt = some world ∧ SnapshotsOf world snaps
  past : ∀ world, t.cachedAt = some world → ∃ tick ∈ ticks, tick.world = world
  stored : ∀ pdev snap, t.inner.utilState.lookup pdev = some snap →
    ∃ world latest, t.storedAt.lookup pdev = some world ∧ t.cachedAt = some latest ∧
      snap.Of world pdev ∧ world.Before latest

theorem start_tracked (devices : List String) : Tracked (.start devices) [] :=
  ⟨(fun _ _ found => by cases found), (fun _ found => by cases found),
    (fun _ _ found => by cases found)⟩

/-- What a sample leaves in the cache. -/
theorem refresh_cached (tracked : Tracked t ticks) (shows : tick.world.Shows tick.proc) :
    ∃ time snaps latest, (t.inner.refresh tick.now tick.proc).cachedSnapshot = some (time, snaps) ∧
      (if t.inner.cacheFresh tick.now then t.cachedAt else some tick.world) = some latest ∧
      SnapshotsOf latest snaps := by
  unfold Inner.refresh
  by_cases fresh : t.inner.cacheFresh tick.now = true
  · rw [if_pos fresh, if_pos fresh]
    cases cached : t.inner.cachedSnapshot with
    | none =>
        rw [Inner.cacheFresh, cached] at fresh
        cases fresh
    | some pair =>
        obtain ⟨world, at_world, of⟩ := tracked.cached pair.1 pair.2 cached
        exact ⟨pair.1, pair.2, world, rfl, at_world, of⟩
  · rw [if_neg fresh, if_neg fresh]
    exact ⟨_, _, _, rfl, rfl, snapshotsOf_capture shows _⟩

theorem utilState_refresh (inner : Inner) (now : Nat) (proc : Proc) :
    (inner.refresh now proc).utilState = inner.utilState := by
  unfold Inner.refresh
  split <;> rfl

/-- What a sample of a device does. -/
theorem step_device (tracked : Tracked t ticks) (shows : tick.world.Shows tick.proc)
    (order : ∀ earlier ∈ ticks, earlier.world.Before tick.world) {pdev : String}
    (device : t.inner.devices[tick.idx]? = some pdev) :
    ∃ time snaps latest cur, (t.step tick).inner.cachedSnapshot = some (time, snaps) ∧
      (t.step tick).cachedAt = some latest ∧ SnapshotsOf latest snaps ∧
      (t.step tick).inner.utilState = t.inner.utilState.insert pdev cur ∧
      (t.step tick).storedAt = t.storedAt.insert pdev latest ∧ cur.Of latest pdev ∧
      (∀ old, t.cachedAt = some old → old.Before latest) ∧
      ((∃ one ∈ ticks, one.world = latest) ∨ tick.world = latest) := by
  obtain ⟨time, snaps, latest, cached, at_latest, of⟩ := refresh_cached tracked shows
  refine ⟨time, snaps, latest, (t.inner.refresh tick.now tick.proc).current pdev, ?_⟩
  have current : ((t.inner.refresh tick.now tick.proc).current pdev).Of latest pdev := by
    rw [Inner.current, cached, Option.bind_some]
    cases found : snaps.lookup pdev with
    | none => exact empty_of
    | some snap => exact of pdev snap found
  have later : ∀ old, t.cachedAt = some old → old.Before latest := by
    intro old before
    by_cases fresh : t.inner.cacheFresh tick.now = true
    · rw [if_pos fresh, before] at at_latest
      rw [Option.some.inj at_latest]
      exact World.Before.refl latest
    · rw [if_neg fresh] at at_latest
      have same : tick.world = latest := Option.some.inj at_latest
      obtain ⟨earlier, member, here⟩ := tracked.past old before
      rw [← here, ← same]
      exact order earlier member
  have known : (∃ one ∈ ticks, one.world = latest) ∨ tick.world = latest := by
    by_cases fresh : t.inner.cacheFresh tick.now = true
    · rw [if_pos fresh] at at_latest
      exact .inl (tracked.past latest at_latest)
    · rw [if_neg fresh] at at_latest
      exact .inr (Option.some.inj at_latest)
  simp only [Traced.step, Inner.sampleUtil, device, cached, at_latest, utilState_refresh]
  exact ⟨trivial, trivial, of, trivial, trivial, current, later, known⟩

theorem Tracked.step (tracked : Tracked t ticks) (shows : tick.world.Shows tick.proc)
    (order : ∀ earlier ∈ ticks, earlier.world.Before tick.world) :
    Tracked (t.step tick) (ticks ++ [tick]) := by
  cases device : t.inner.devices[tick.idx]? with
  | none =>
      have same : t.step tick = t := by simp only [Traced.step, device]
      rw [same]
      refine ⟨tracked.cached, fun world found => ?_, tracked.stored⟩
      obtain ⟨one, member, here⟩ := tracked.past world found
      exact ⟨one, List.mem_append_left _ member, here⟩
  | some pdev =>
      obtain ⟨time, snaps, latest, cur, cached, at_latest, of, utilState, storedAt, current, later,
        known⟩ := step_device tracked shows order device
      refine ⟨fun time' snaps' found => ?_, fun world found => ?_, fun other snap found => ?_⟩
      · rw [cached] at found
        cases found
        exact ⟨latest, at_latest, of⟩
      · rw [at_latest] at found
        cases found
        rcases known with ⟨one, member, here⟩ | here
        · exact ⟨one, List.mem_append_left _ member, here⟩
        · exact ⟨tick, List.mem_append_right _ (List.mem_singleton.mpr rfl), here⟩
      · rw [utilState, KeyMap.lookup_insert_eq] at found
        rw [storedAt, KeyMap.lookup_insert_eq]
        split at found
        · rename_i here
          cases found
          rw [if_pos here, here]
          exact ⟨latest, latest, rfl, at_latest, current, World.Before.refl latest⟩
        · rename_i elsewhere
          rw [if_neg elsewhere]
          obtain ⟨world, old, there, at_old, of_old, before⟩ := tracked.stored other snap found
          exact ⟨world, latest, there, at_latest, of_old, before.trans (later old at_old)⟩

theorem tracked_run (honest : Honest ticks) : Tracked (.run devices ticks) ticks := by
  induction ticks using List.reverseRecOn with
  | nil => exact start_tracked devices
  | append_singleton front last ih =>
      obtain ⟨before, _, order⟩ := List.pairwise_append.mp honest.order
      have earlier : Honest front :=
        ⟨fun tick member => honest.shows tick (List.mem_append_left _ member), before⟩
      rw [Traced.run, List.foldl_append]
      refine (ih earlier).step ?_ fun tick member => ?_
      · exact honest.shows last (List.mem_append_right _ (List.mem_singleton.mpr rfl))
      · exact order tick member last (List.mem_singleton.mpr rfl)

theorem utilRight_iff_fresh (tracked : Tracked t ticks) (shows : tick.world.Shows tick.proc)
    (order : ∀ earlier ∈ ticks, earlier.world.Before tick.world) :
    UtilRight t tick ↔ Fresh t tick := by
  have compared {pdev : String} {prev cur : PdevSnapshot} {first second : World}
      (compares : Compares t tick pdev prev cur first second) :
      prev.Of first pdev ∧ cur.Of second pdev ∧ first.Before second := by
    obtain ⟨world, latest, there, at_latest, of, before⟩ := tracked.stored pdev prev compares.prev
    obtain ⟨_, _, latest', cur', _, _, _, utilState, storedAt, current, later, _⟩ :=
      step_device tracked shows order compares.device
    cases Option.some.inj (there.symm.trans compares.first)
    have same := compares.cur
    have same' := compares.second
    rw [utilState, AList.lookup_insert] at same
    rw [storedAt, AList.lookup_insert] at same'
    cases same
    cases same'
    exact ⟨of, current, before.trans (later latest at_latest)⟩
  constructor
  · intro right pdev prev cur first second compares cls reported clientId n found
    obtain ⟨before, now, ordered⟩ := compared compares
    apply (credit_le_iff before now ordered found).mp
    exact (right pdev prev cur first second compares).2 cls reported clientId n found
  · intro fresh pdev prev cur first second compares
    obtain ⟨before, now, ordered⟩ := compared compares
    have fair (cls : String) (reported : Reported prev cur cls) (clientId n : Nat)
        (found : cur.busy.lookup (clientId, cls) = some n) :
        credit prev clientId cls n ≤
          second.busy pdev clientId cls - first.busy pdev clientId cls :=
      (credit_le_iff before now ordered found).mpr
        (fresh pdev prev cur first second compares cls reported clientId n found)
    refine ⟨fun cls v member => ?_, fair⟩
    obtain ⟨m, n, earlier, later, moved, _⟩ := mem_perClassUtil member
    exact bounded_of_fair before now (fair cls ⟨m, n, earlier, later, moved⟩) member

end Runs

/-- All shares of a run count what was spent in their windows exactly where every client that a
sample is the first to find had spent nothing before its window. -/
theorem util_right_iff_fresh (devices : List String) (ticks : List Tick) (honest : Honest ticks) :
    (∀ front tick, front ++ [tick] <+: ticks → UtilRight (.run devices front) tick) ↔
      ∀ front tick, front ++ [tick] <+: ticks → Fresh (.run devices front) tick := by
  have each (front : List Tick) (tick : Tick) (here : front ++ [tick] <+: ticks) :
      UtilRight (.run devices front) tick ↔ Fresh (.run devices front) tick := by
    have order := honest.order.sublist here.sublist
    obtain ⟨before, _, last⟩ := List.pairwise_append.mp order
    have shows (one : Tick) (member : one ∈ front ++ [tick]) : one.world.Shows one.proc :=
      honest.shows one (here.subset member)
    refine utilRight_iff_fresh (tracked_run ⟨fun one member => ?_, before⟩) ?_ fun one member => ?_
    · exact shows one (List.mem_append_left _ member)
    · exact shows tick (List.mem_append_right _ (List.mem_singleton.mpr rfl))
    · exact last one member tick (List.mem_singleton.mpr rfl)
  constructor
  · intro right front tick here
    exact (each front tick here).mp (right front tick here)
  · intro fresh front tick here
    exact (each front tick here).mpr (fresh front tick here)

section Late

def slot : String := "0000:06:00.0"

def clientText (clientId busy total : String) : String :=
  "drm-driver:\txe\ndrm-pdev:\t0000:06:00.0\ndrm-client-id:\t" ++ clientId ++
    "\ndrm-cycles-rcs:\t" ++ busy ++ "\ndrm-total-cycles-rcs:\t" ++ total ++ "\n"

/-- Client 1 never spends anything; client 42 comes later and spends 5000 cycles at once. -/
def lateProc (late : Bool) (total : String) : Proc where
  pids := [100, 200]
  fds pid := if pid = 100 ∨ pid = 200 ∧ late then [(3, "/dev/dri/renderD128")] else []
  fdinfo pid fd :=
    if fd = 3 ∧ pid = 100 then some (clientText "1" "0" total)
    else if fd = 3 ∧ pid = 200 ∧ late then some (clientText "42" "5000" total)
    else none

def lateWorld (late : Bool) (total : Nat) : World where
  clients _ := if late then {1, 42} else {1}
  busy _ clientId cls := if late ∧ clientId = 42 ∧ cls = "rcs" then 5000 else 0
  total _ _ := total

/-- A full rescan, a scan of the known descriptors and, when it is due, a full rescan again. -/
def scanned : Tick := ⟨0, 0, lateProc false "10000", lateWorld false 10000⟩

def known : Tick := ⟨0, 14500000000, lateProc true "20000", lateWorld true 20000⟩

def rescanned : Tick := ⟨0, 15000000000, lateProc true "25000", lateWorld true 25000⟩

theorem first_mem_clients {late : Bool} {n : Nat} {pdev : String} :
    1 ∈ (lateWorld late n).clients pdev := by
  cases late with
  | true => exact Finset.mem_insert_self 1 {42}
  | false => exact Finset.mem_singleton_self 1

/-- The text of one client has its counters of the moment. -/
theorem shows_text {world : World} {text : String} {clientId busy total : Nat}
    (parsed : parseEntry text = some ⟨slot, clientId, [("rcs", busy)], [("rcs", total)]⟩)
    (known : clientId ∈ world.clients slot) (spent : busy = world.busy slot clientId "rcs")
    (passed : total = world.total slot "rcs") :
    ∀ entry, parseEntry text = some entry →
      (∀ busy ∈ entry.busy, entry.clientId ∈ world.clients entry.pdev ∧
        busy.2 = world.busy entry.pdev entry.clientId busy.1) ∧
      ∀ total ∈ entry.total, total.2 = world.total entry.pdev total.1 := by
  intro entry found
  rw [parsed] at found
  cases found
  exact ⟨List.forall_mem_singleton.mpr ⟨known, spent⟩, List.forall_mem_singleton.mpr passed⟩

theorem shows_late {late : Bool} {total : String} {n : Nat}
    (idle : parseEntry (clientText "1" "0" total) = some ⟨slot, 1, [("rcs", 0)], [("rcs", n)]⟩)
    (spent : late = true → parseEntry (clientText "42" "5000" total) =
      some ⟨slot, 42, [("rcs", 5000)], [("rcs", n)]⟩) :
    (lateWorld late n).Shows (lateProc late total) := by
  intro pid fd text read
  simp only [lateProc] at read
  split at read
  · cases read
    exact shows_text idle first_mem_clients (by cases late <;> rfl) rfl
  · split at read
    · rename_i there
      cases read
      rw [there.2.2]
      exact shows_text (spent there.2.2)
        (Finset.mem_insert_of_mem (Finset.mem_singleton_self 42)) rfl rfl
    · cases read

theorem lateWorld_before {late late' : Bool} {n n' : Nat} (stays : late = true → late' = true)
    (order : n ≤ n') : (lateWorld late n).Before (lateWorld late' n') := by
  cases late with
  | true =>
      rw [stays rfl]
      exact ⟨fun _ => Finset.Subset.refl _, fun _ _ _ => le_rfl, fun _ _ => order⟩
  | false =>
      refine ⟨fun _ => ?_, fun _ _ _ => Nat.zero_le _, fun _ _ => order⟩
      exact Finset.singleton_subset_iff.mpr first_mem_clients

theorem honest_late : Honest [scanned, known, rescanned] := by
  refine ⟨?_, ?_⟩
  · intro tick member
    fin_cases member
    · exact shows_late (by decide +kernel) (fun other => by cases other)
    · exact shows_late (by decide +kernel) (fun _ => by decide +kernel)
    · exact shows_late (by decide +kernel) (fun _ => by decide +kernel)
  · have first : scanned.world.Before known.world := lateWorld_before (fun _ => rfl) (by decide)
    have second : known.world.Before rescanned.world := lateWorld_before (fun _ => rfl) (by decide)
    simp only [List.pairwise_cons, List.forall_mem_cons, List.not_mem_nil, false_imp_iff,
      implies_true, List.Pairwise.nil, and_true]
    exact ⟨⟨first, first.trans second⟩, second⟩

/-- Behind the first scan client 1 goes on, and client 42 starts. -/
def joined : Tick where
  idx := 0
  now := 15000000000
  proc :=
    { pids := [100, 200]
      fds := fun _ => [(3, "/dev/dri/renderD128")]
      fdinfo := fun pid fd =>
        if fd = 3 ∧ pid = 100 then some (clientText "1" "4000" "20000")
        else if fd = 3 ∧ pid = 200 then some (clientText "42" "2000" "20000")
        else none }
  world :=
    { clients := fun _ => {1, 42}
      busy := fun _ clientId cls =>
        if cls ≠ "rcs" then 0 else if clientId = 1 then 4000 else if clientId = 42 then 2000 else 0
      total := fun _ _ => 20000 }

theorem joined_shows : joined.world.Shows joined.proc := by
  intro pid fd text read
  simp only [joined] at read
  split at read
  · cases read
    exact shows_text (by decide +kernel) (Finset.mem_insert_self 1 {42}) rfl rfl
  · split at read
    · cases read
      exact shows_text (by decide +kernel)
        (Finset.mem_insert_of_mem (Finset.mem_singleton_self 42)) rfl rfl
    · cases read

/-- The sample counts what both clients spend in the window, though only one was known. -/
theorem util_right_iff_fresh_known : UtilRight (.run [slot] [scanned]) joined ∧
    scanned.world.spent joined.world slot "rcs" = 6000 := by
  have before : scanned.world.Before joined.world :=
    ⟨fun _ => Finset.singleton_subset_iff.mpr (Finset.mem_insert_self 1 {42}),
      fun _ _ _ => Nat.zero_le _, fun _ _ => show 10000 ≤ 20000 by decide⟩
  have honest : Honest [scanned, joined] := by
    refine ⟨fun tick member => ?_, List.pairwise_pair.mpr before⟩
    fin_cases member
    · exact honest_late.shows scanned List.mem_cons_self
    · exact joined_shows
  refine ⟨(util_right_iff_fresh [slot] [scanned, joined] honest).mpr ?_ [scanned] joined
    (List.prefix_refl _), by decide +kernel⟩
  intro front tick here pdev prev cur first second compares cls _ clientId n found absent
  rcases front with _ | ⟨one, _ | ⟨two, rest⟩⟩
  · cases compares.prev
  · obtain ⟨rfl, last⟩ := List.cons_prefix_cons.mp here
    obtain ⟨rfl, _⟩ := List.cons_prefix_cons.mp last
    cases Option.some.inj compares.device
    -- the window begins when no client had spent anything
    have stored : (Traced.run [slot] [scanned]).storedAt.lookup slot = some scanned.world := rfl
    cases Option.some.inj (stored.symm.trans compares.first)
    rfl
  · obtain ⟨_, last⟩ := List.cons_prefix_cons.mp here
    obtain ⟨_, beyond⟩ := List.cons_prefix_cons.mp last
    exact absurd (List.prefix_nil.mp beyond) (List.append_ne_nil_of_right_ne_nil rest (by simp))

/-- A client that spends nothing in the window fills it, since the scans before missed it. -/
theorem late_client_credited : Honest [scanned, known, rescanned] ∧
    ¬ UtilRight (.run [slot] [scanned, known]) rescanned := by
  refine ⟨honest_late, fun right => ?_⟩
  have filled : (((Traced.run [slot] [scanned, known]).inner.utilState.lookup slot).bind fun prev =>
      (((Traced.run [slot] [scanned, known]).step rescanned).inner.utilState.lookup slot).map
        (perClassUtil prev)) = some [("rcs", .finite 1)] := by decide +kernel
  obtain ⟨prev, stored, taken⟩ := Option.bind_eq_some_iff.mp filled
  obtain ⟨cur, next, shares⟩ := Option.map_eq_some_iff.mp taken
  have share : ("rcs", Value.finite 1) ∈ perClassUtil prev cur := by
    rw [shares]
    exact List.mem_singleton_self _
  have bounded := (right slot prev cur known.world rescanned.world
    ⟨rfl, stored, rfl, next, rfl⟩).1 "rcs" (.finite 1) share
  obtain ⟨_, _, _, _, within⟩ := bounded
  have idle : known.world.spent rescanned.world slot "rcs" = 0 := by decide +kernel
  have beyond : (Value.finite 1).le (quotient 0 5000) = false := by decide +kernel
  rw [idle] at within
  exact Bool.false_ne_true (beyond.symm.trans within)

end Late

end LinSight.Fdinfo
