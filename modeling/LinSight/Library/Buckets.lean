import Mathlib

set_option autoImplicit false

/-! Ranks dealt out over buckets of nearly equal size. -/

namespace Buckets

/-- The bucket of a rank, where `total` ranks go into `limit` buckets. -/
def bucket (limit total rank : Nat) : Nat := rank * limit / total

/-- The lowest rank of a bucket. -/
def lowest (limit total index : Nat) : Nat := index * total ⌈/⌉ limit

/-- No earlier rank lies in the bucket. -/
def Leads (limit total rank : Nat) : Prop :=
  ∀ earlier < rank, bucket limit total earlier ≠ bucket limit total rank

section Lowest

variable {limit total rank index : Nat}

theorem bucket_mono {earlier : Nat} (order : earlier ≤ rank) :
    bucket limit total earlier ≤ bucket limit total rank :=
  Nat.div_le_div_right (Nat.mul_le_mul_right limit order)

theorem lowest_le_iff (some : 0 < limit) : lowest limit total index ≤ rank ↔
    index * total ≤ limit * rank :=
  ceilDiv_le_iff_le_mul some

theorem le_mul_lowest (some : 0 < limit) : index * total ≤ limit * lowest limit total index :=
  (lowest_le_iff some).mp le_rfl

@[simp] theorem lowest_zero : lowest limit total 0 = 0 := by
  rw [lowest, Nat.zero_mul, zero_ceilDiv]

/-- With as many buckets as ranks, each bucket has one. -/
theorem lowest_self (some : 0 < total) : lowest total total index = index := by
  refine Nat.le_antisymm ((lowest_le_iff some).mpr (Nat.mul_comm index total).le) ?_
  have above : index * total ≤ total * lowest total total index := le_mul_lowest some
  rw [Nat.mul_comm index total] at above
  exact Nat.le_of_mul_le_mul_left above some

/-- A rank lies from the lowest one of its bucket on. -/
theorem lowest_bucket_le (some : 0 < limit) :
    lowest limit total (bucket limit total rank) ≤ rank := by
  rw [lowest_le_iff some, Nat.mul_comm limit rank]
  exact Nat.div_mul_le_self _ _

theorem bucket_lowest (some : 0 < limit) (few : limit ≤ total) :
    bucket limit total (lowest limit total index) = index := by
  have low : index * total ≤ limit * lowest limit total index := le_mul_lowest some
  have high : limit * lowest limit total index < index * total + limit := by
    by_contra above
    have earlier : lowest limit total index ≤ lowest limit total index - 1 := by
      rw [lowest_le_iff some, Nat.mul_sub_one]
      omega
    have nonzero : lowest limit total index ≠ 0 := by
      intro zero
      rw [zero] at above
      omega
    omega
  rw [bucket, Nat.mul_comm]
  refine Nat.div_eq_of_lt_le low ?_
  rw [Nat.succ_mul]
  omega

theorem bucket_lt (inside : rank < total) (some : 0 < limit) :
    bucket limit total rank < limit := by
  rw [bucket, Nat.div_lt_iff_lt_mul (by omega), Nat.mul_comm]
  exact Nat.mul_lt_mul_of_pos_left inside some

theorem lowest_lt (few : limit ≤ total) (inside : index < limit) :
    lowest limit total index < total := by
  have some : 0 < limit := by omega
  by_contra outside
  have same : bucket limit total (lowest limit total index) = index := bucket_lowest some few
  have last : bucket limit total total ≤ bucket limit total (lowest limit total index) :=
    bucket_mono (by omega)
  rw [same, bucket, Nat.mul_div_cancel_left limit (by omega)] at last
  omega

theorem lowest_strictMono (some : 0 < limit) (few : limit ≤ total) :
    StrictMono (lowest limit total) := by
  intro first second order
  by_contra above
  have buckets : bucket limit total (lowest limit total second) ≤
      bucket limit total (lowest limit total first) := bucket_mono (Nat.le_of_not_lt above)
  rw [bucket_lowest some few, bucket_lowest some few] at buckets
  omega

/-- The ranks that lead their buckets are the lowest ones. -/
theorem leads_iff (some : 0 < limit) (few : limit ≤ total) (inside : rank < total) :
    Leads limit total rank ↔ ∃ index < limit, lowest limit total index = rank := by
  constructor
  · intro leads
    refine ⟨bucket limit total rank, bucket_lt inside some, ?_⟩
    by_contra differs
    have earlier : lowest limit total (bucket limit total rank) < rank :=
      lt_of_le_of_ne (lowest_bucket_le some) differs
    exact leads _ earlier (bucket_lowest some few)
  · rintro ⟨index, _, rfl⟩ earlier before same
    rw [bucket_lowest some few] at same
    have low : lowest limit total (bucket limit total earlier) ≤ earlier := lowest_bucket_le some
    rw [same] at low
    omega

theorem lowest_succ_le (some : 0 < limit) : lowest limit total (index + 1) ≤
    lowest limit total index + total ⌈/⌉ limit := by
  rw [lowest_le_iff some, Nat.succ_mul, Nat.mul_add]
  exact Nat.add_le_add (le_mul_lowest some) ((ceilDiv_le_iff_le_mul some).mp le_rfl)

theorem le_lowest_succ (some : 0 < limit) : lowest limit total index + total / limit ≤
    lowest limit total (index + 1) := by
  have whole : limit * (total / limit) ≤ total := Nat.mul_div_le total limit
  have above : (index + 1) * total ≤ limit * lowest limit total (index + 1) :=
    le_mul_lowest some
  rw [Nat.succ_mul] at above
  have parts : limit * (lowest limit total (index + 1) - total / limit) =
      limit * lowest limit total (index + 1) - limit * (total / limit) := Nat.mul_sub ..
  have low : lowest limit total index ≤ lowest limit total (index + 1) - total / limit := by
    rw [lowest_le_iff some, parts]
    omega
  have enough : total / limit ≤ lowest limit total (index + 1) := by
    by_contra short
    have less : limit * lowest limit total (index + 1) < limit * (total / limit) :=
      Nat.mul_lt_mul_of_pos_left (by omega) some
    omega
  omega

/-- Two buckets that follow each other start a rounded quotient apart. -/
theorem lowest_succ (some : 0 < limit) :
    lowest limit total (index + 1) = lowest limit total index + total / limit ∨
      lowest limit total (index + 1) = lowest limit total index + total ⌈/⌉ limit := by
  have low : lowest limit total index + total / limit ≤ lowest limit total (index + 1) :=
    le_lowest_succ some
  have high : lowest limit total (index + 1) ≤ lowest limit total index + total ⌈/⌉ limit :=
    lowest_succ_le some
  have near : total ⌈/⌉ limit ≤ total / limit + 1 := by
    rw [ceilDiv_le_iff_le_mul some, Nat.mul_add_one]
    have rest := Nat.div_add_mod total limit
    have small := Nat.mod_lt total some
    omega
  omega

end Lowest

/-- The leading ranks in order, one for each bucket. -/
theorem filter_leads {limit total : Nat} (some : 0 < limit) (few : limit ≤ total)
    {leads : Nat → Bool} (exact_test : ∀ rank, leads rank = true ↔ Leads limit total rank) :
    (List.range total).filter leads = (List.range limit).map (lowest limit total) := by
  refine List.Pairwise.eq_of_mem_iff (r := (· < ·)) ?_ ?_ ?_
  · exact List.pairwise_lt_range.filter _
  · rw [List.pairwise_map]
    exact List.pairwise_lt_range.imp fun order => lowest_strictMono some few order
  · intro rank
    rw [List.mem_filter, List.mem_range, List.mem_map, exact_test]
    constructor
    · rintro ⟨inside, leading⟩
      obtain ⟨index, bounded, same⟩ := (leads_iff some few inside).mp leading
      exact ⟨index, List.mem_range.mpr bounded, same⟩
    · rintro ⟨index, bounded, rfl⟩
      have inside := lowest_lt few (List.mem_range.mp bounded)
      exact ⟨inside, (leads_iff some few inside).mpr ⟨index, List.mem_range.mp bounded, rfl⟩⟩

end Buckets
