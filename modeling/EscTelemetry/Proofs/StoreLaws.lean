import EscTelemetry.Store
import Mathlib

/-!
# Laws of the record store

How each operation of `Store` shows through the reads: a write to one slot changes no other
motor's record, `Store.combined` changes no record at all, and the motor count is fixed when
the store is made.

The combined record is memoized, and the memo is never stale (`combined_never_stale`): every
call keeps the invariant `Fresh` (a clean store's memo is the aggregate of its counted
records), and every call that changes a counted record marks the store stale. The aggregate's
fields are read back in exact integers: maxima through `List.max?`, and the means and sums
through `toInt`, where the means are shown to need no clamp.
-/

namespace EscTelemetry

namespace Store

variable {s : Store} {m m' : Nat}

@[simp]
theorem motorCount_combined (s : Store) : s.combined.1.motorCount = s.motorCount := by
  unfold combined
  split <;> rfl

@[simp]
theorem records_combined (s : Store) : s.combined.1.records = s.records := by
  unfold combined
  split <;> rfl

/-- Reading the combined record changes no motor's record. -/
@[simp]
theorem get?_combined (s : Store) (m : Nat) : s.combined.1.get? m = s.get? m := by
  simp [get?]

theorem get?_update_of_ne (h : m ≠ m') (r : Reading) : (s.update m r).get? m' = s.get? m' := by
  unfold update
  split
  · simp [get?, h]
  · rfl

theorem get?_age_of_ne (h : m ≠ m') : (s.age m).get? m' = s.get? m' := by
  unfold age
  split
  · simp [get?, h]
  · rfl

/-- An aged motor reads back its record, aged. -/
theorem get?_age_self (h : m < s.motorCount) : (s.age m).get? m = (s.get? m).map EscSample.aged := by
  have hm : m < maxMotors := Nat.lt_of_lt_of_le h s.motorCount_le
  simp [age, get?, hm, h]

/-- The counted records are the ones `get?` reads, in motor order. -/
theorem getElem?_counted (s : Store) (m : Nat) : s.counted[m]? = s.get? m := by
  have hle := s.motorCount_le
  by_cases h : m < s.motorCount
  · have hm : m < maxMotors := by omega
    simp [counted, get?, h, hm]
  · simp [counted, get?, h, Nat.min_eq_left hle]

@[simp]
theorem length_counted (s : Store) : s.counted.length = s.motorCount := by
  simp [counted, Nat.min_eq_left s.motorCount_le]

/-! ## The combined record -/

section Aggregate

/-- The clamp to the 32-bit range, read back as an integer. -/
theorem toInt_saturate32 (i : Int) :
    (saturate32 i).toInt = max (-2147483648) (min 2147483647 i) := by
  rw [saturate32, Int32.toInt_ofInt]
  apply Int.bmod_eq_of_le <;> simp only [Int32.size] <;> omega

/-- A sum of 32-bit values lies within the range times the number of values. -/
theorem sum_toInt_bounds (rs : List EscSample) (f : EscSample → Int32) :
    -(rs.length * 2147483648 : Int) ≤ (rs.map fun r => (f r).toInt).sum ∧
      (rs.map fun r => (f r).toInt).sum ≤ rs.length * 2147483647 := by
  induction rs with
  | nil => simp
  | cons r rs ih =>
    have hlo := Int32.le_toInt (f r)
    have hhi : (f r).toInt ≤ 2147483647 := Int32.toInt_le (f r)
    simp only [List.map_cons, List.sum_cons, List.length_cons, Int.natCast_add]
    omega

/-- A quotient cut toward zero of such a sum by the number of values is a 32-bit value. -/
theorem tdiv_bounds {a n : Int} (hn : 0 < n) (hlo : -(n * 2147483648) ≤ a)
    (hhi : a ≤ n * 2147483647) : -2147483648 ≤ a.tdiv n ∧ a.tdiv n ≤ 2147483647 := by
  rcases Int.le_total 0 a with ha | ha
  · rw [Int.tdiv_eq_ediv_of_nonneg ha]
    have hpos : 0 ≤ a / n := Int.ediv_nonneg ha (Int.le_of_lt hn)
    have hle : a / n ≤ 2147483647 := (Int.ediv_le_iff_le_mul hn).mpr (by omega)
    omega
  · -- a negative sum is cut toward zero: the quotient of its negation, negated
    have hneg : a.tdiv n = -((-a) / n) := by
      rw [← Int.tdiv_eq_ediv_of_nonneg (by omega), Int.neg_tdiv, Int.neg_neg]
    have hpos : 0 ≤ (-a) / n := Int.ediv_nonneg (by omega) (Int.le_of_lt hn)
    have hle : (-a) / n ≤ 2147483648 := (Int.ediv_le_iff_le_mul hn).mpr (by omega)
    omega

/-- The mean of a non-empty list of 32-bit values needs no clamp. -/
theorem toInt_saturate32_mean {rs : List EscSample} (h : rs ≠ []) (f : EscSample → Int32) :
    (saturate32 ((rs.map fun r => (f r).toInt).sum.tdiv rs.length)).toInt =
      (rs.map fun r => (f r).toInt).sum.tdiv rs.length := by
  have hn : (0 : Int) < rs.length := by
    have := List.length_pos_iff.mpr h
    omega
  obtain ⟨hlo, hhi⟩ := sum_toInt_bounds rs f
  obtain ⟨hq₁, hq₂⟩ := tdiv_bounds hn (by omega) (by omega)
  rw [toInt_saturate32]
  omega

/-- The combined age is the oldest age: the zero the fold starts from is no age of its own. -/
theorem max?_dataAge_aggregate {rs : List EscSample} (h : rs ≠ []) :
    (rs.map (·.dataAge)).max? = some (aggregate rs).dataAge := by
  obtain ⟨r, rs, rfl⟩ := List.exists_cons_of_ne_nil h
  have hzero : max (0 : UInt8) r.dataAge = r.dataAge := by
    simp [max, UInt8.zero_le]
  simp [aggregate, List.max?_cons', List.foldl_map, hzero]

/-- The combined temperature is the highest one, and never below zero. -/
theorem max?_temperature_aggregate (rs : List EscSample) :
    ((0 : Int16) :: rs.map (·.temperature)).max? = some (aggregate rs).temperature := by
  simp [aggregate, List.max?_cons', List.foldl_map]

end Aggregate

/-- One call on the store. Reads are calls too: `combined` may rebuild the memoized record. -/
inductive Call
  | update (m : Nat) (r : Reading)
  | age (m : Nat)
  | setConsumption (m : Nat) (c : Int32)
  | get (m : Nat)
  | primary
  | combined

/-- The store after one call. -/
def call (s : Store) : Call → Store
  | .update m r => s.update m r
  | .age m => s.age m
  | .setConsumption m c => s.setConsumption m c
  | .get _ | .primary => s
  | .combined => s.combined.1

/-- The store after a sequence of calls. -/
def run (s : Store) (calls : List Call) : Store := calls.foldl call s

@[simp]
theorem motorCount_call (s : Store) : ∀ c, (s.call c).motorCount = s.motorCount
  | .update m r => s.motorCount_update m r
  | .age m => s.motorCount_age m
  | .setConsumption m c => s.motorCount_setConsumption m c
  | .get _ | .primary => rfl
  | .combined => s.motorCount_combined

@[simp]
theorem motorCount_run (s : Store) (calls : List Call) : (s.run calls).motorCount = s.motorCount := by
  induction calls generalizing s with
  | nil => rfl
  | cons c calls ih => exact (ih (s.call c)).trans (s.motorCount_call c)

/-- The memoized record is right whenever the store says it is clean, and it stays invalid
while there are no motors. -/
structure Fresh (s : Store) : Prop where
  clean : s.needsRecompute = false → 0 < s.motorCount ∧ s.combinedRecord = aggregate s.counted
  empty : s.motorCount = 0 → s.combinedRecord = .invalid

theorem fresh_new (count : Nat) : Fresh (Store.new count) where
  clean h := by simp [Store.new] at h
  empty _ := rfl

/-- A store marked stale, with the motor count and the memo of a fresh one, is fresh. -/
theorem Fresh.of_stale {s' : Store} (h : Fresh s) (hstale : s'.needsRecompute = true)
    (hcount : s'.motorCount = s.motorCount) (hmemo : s'.combinedRecord = s.combinedRecord) :
    Fresh s' where
  clean hclean := by simp [hstale] at hclean
  empty h0 := hmemo ▸ h.empty (hcount ▸ h0)

/-- The combined record of a fresh store is the aggregate of its counted records, or the
invalid record if it has no motors. -/
theorem Fresh.combined_eq (h : Fresh s) :
    s.combined.2 = if 0 < s.motorCount then aggregate s.counted else .invalid := by
  unfold combined
  split
  · rename_i hstale
    simp only [Bool.and_eq_true, decide_eq_true_eq] at hstale
    simp [hstale.2]
  · rename_i hnot
    simp only [Bool.and_eq_true, decide_eq_true_eq, not_and] at hnot
    cases hflag : s.needsRecompute
    · obtain ⟨hpos, hmemo⟩ := h.clean hflag
      simp [hpos, hmemo]
    · have h0 : s.motorCount = 0 := Nat.eq_zero_of_not_pos (hnot hflag)
      simp [h0, h.empty h0]

theorem Fresh.update (h : Fresh s) (m : Nat) (r : Reading) : Fresh (s.update m r) := by
  unfold Store.update
  split
  · exact h.of_stale rfl rfl rfl
  · exact h

theorem Fresh.age (h : Fresh s) (m : Nat) : Fresh (s.age m) := by
  unfold Store.age
  split
  · exact h.of_stale rfl rfl rfl
  · exact h

theorem Fresh.setConsumption (h : Fresh s) (m : Nat) (c : Int32) :
    Fresh (s.setConsumption m c) := by
  unfold Store.setConsumption
  split
  · dsimp only
    split
    · exact h
    · exact h.of_stale rfl rfl rfl
  · exact h

/-- A rebuild leaves the memo equal to the aggregate it computed. -/
theorem Fresh.combined (h : Fresh s) : Fresh s.combined.1 := by
  unfold Store.combined
  split
  · rename_i hstale
    simp only [Bool.and_eq_true, decide_eq_true_eq] at hstale
    exact ⟨fun _ => ⟨hstale.2, rfl⟩, fun h0 => absurd h0 (Nat.pos_iff_ne_zero.mp hstale.2)⟩
  · exact h

theorem Fresh.call (h : Fresh s) : ∀ c, Fresh (s.call c)
  | .update m r => h.update m r
  | .age m => h.age m
  | .setConsumption m c => h.setConsumption m c
  | .get _ | .primary => h
  | .combined => h.combined

theorem Fresh.run (h : Fresh s) (calls : List Call) : Fresh (s.run calls) := by
  induction calls generalizing s with
  | nil => exact h
  | cons c calls ih => exact ih (h.call c)

/-- A call that changes a counted record leaves the store stale. -/
theorem needsRecompute_call (c : Call) (h : (s.call c).counted ≠ s.counted) :
    (s.call c).needsRecompute = true := by
  cases c with
  | update m r =>
    by_cases hm : m < maxMotors
    · simp [call, Store.update, hm]
    · simp [call, Store.update, hm] at h
  | age m =>
    by_cases hm : m < maxMotors
    · simp [call, Store.age, hm]
    · simp [call, Store.age, hm] at h
  | setConsumption m c =>
    by_cases hm : m < maxMotors
    · by_cases hc : s.records[m].consumption = c
      · simp [call, Store.setConsumption, hm, hc] at h
      · simp [call, Store.setConsumption, hm, hc]
    · simp [call, Store.setConsumption, hm] at h
  | get _ | primary => exact absurd rfl h
  | combined => simp [call, counted] at h

/-- Over every sequence of calls on a new store, the combined record is never stale. With no
motors it is the invalid record. Otherwise it is the aggregate of the counted records computed
afresh: the oldest age; the highest temperature, never below zero; the voltage and the eRPM
summed exactly and cut toward zero by the count; the current and the consumption summed
exactly and clamped to the 32-bit range. A call that changes a counted record leaves the store
stale. -/
theorem combined_never_stale (count : Nat) (calls : List Call) :
    let s := (Store.new count).run calls
    let n := min count maxMotors
    let rs := s.counted
    let c := s.combined.2
    (n = 0 → c = .invalid) ∧
    (0 < n →
      (rs.map (·.dataAge)).max? = some c.dataAge ∧
      ((0 : Int16) :: rs.map (·.temperature)).max? = some c.temperature ∧
      c.voltage.toInt = Int.tdiv (rs.map fun r => r.voltage.toInt).sum n ∧
      c.rpm.toInt = Int.tdiv (rs.map fun r => r.rpm.toInt).sum n ∧
      c.current.toInt = max (-2147483648) (min 2147483647 (rs.map fun r => r.current.toInt).sum) ∧
      c.consumption.toInt =
        max (-2147483648) (min 2147483647 (rs.map fun r => r.consumption.toInt).sum)) ∧
    ∀ call, (s.call call).counted ≠ rs → (s.call call).needsRecompute = true := by
  intro s n rs c
  have hcount : s.motorCount = n := by simp [s, n]
  have hc : c = if 0 < n then aggregate rs else .invalid :=
    hcount ▸ ((fresh_new count).run calls).combined_eq
  refine ⟨fun h0 => by simp [hc, h0], fun hpos => ?_, fun call => needsRecompute_call call⟩
  have hlen : rs.length = n := by simp [rs, hcount]
  have hne : rs ≠ [] := List.ne_nil_of_length_pos (hlen ▸ hpos)
  rw [show c = aggregate rs by simp [hc, hpos], ← hlen]
  exact ⟨max?_dataAge_aggregate hne, max?_temperature_aggregate rs,
    toInt_saturate32_mean hne _, toInt_saturate32_mean hne _, toInt_saturate32 _,
    toInt_saturate32 _⟩

/-- Three motors, two of them updated, the combined record read, then a consumption set and a
write past the eight slots. -/
theorem combined_never_stale_three_motors :
    let s := (Store.new 3).run [.update 0 { voltage := -7, current := 2147483647 },
      .update 1 { voltage := 2, current := 1 }, .combined, .setConsumption 2 5, .age 9]
    let n := min 3 maxMotors
    let rs := s.counted
    let c := s.combined.2
    (n = 0 → c = .invalid) ∧
    (0 < n →
      (rs.map (·.dataAge)).max? = some c.dataAge ∧
      ((0 : Int16) :: rs.map (·.temperature)).max? = some c.temperature ∧
      c.voltage.toInt = Int.tdiv (rs.map fun r => r.voltage.toInt).sum n ∧
      c.rpm.toInt = Int.tdiv (rs.map fun r => r.rpm.toInt).sum n ∧
      c.current.toInt = max (-2147483648) (min 2147483647 (rs.map fun r => r.current.toInt).sum) ∧
      c.consumption.toInt =
        max (-2147483648) (min 2147483647 (rs.map fun r => r.consumption.toInt).sum)) ∧
    ∀ call, (s.call call).counted ≠ rs → (s.call call).needsRecompute = true :=
  combined_never_stale 3 _

-- the mean of -7, 2 and 0 is cut toward zero, and the total current is clamped
example :
    let c := ((Store.new 3).run [.update 0 { voltage := -7, current := 2147483647 },
      .update 1 { voltage := 2, current := 1 }, .combined, .setConsumption 2 5]).combined.2
    c.voltage = -1 ∧ c.current = 2147483647 ∧ c.consumption = 5 := by
  decide

end Store

end EscTelemetry
