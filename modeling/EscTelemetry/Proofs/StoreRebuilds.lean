import EscTelemetry.Proofs.StoreLaws

/-!
# When the store rebuilds its combined record

The combined record is memoized behind one flag, `needsRecompute`. `needsRecompute_call_eq` says
once what every call does to it: a write to one of the eight slots sets it (`Store.dirties`),
except a consumption equal to the one already stored; a read of the combined record clears it
when there is a motor; everything else leaves it. A read rebuilds exactly when it finds the
flag set and there is a motor (`recomputations_call`).

So the memo is not wasteful (`rebuilds_counted`): over every run the number of rebuilds is the
number of reads of the combined record that found the store stale, and zero with no motors;
and two reads with no dirtying call between them give the same record, the second without a
rebuild.
-/

namespace EscTelemetry

namespace Store

/-! ## One call -/

/-- Whether the call reads the combined record. -/
def Call.isCombined : Call → Bool
  | .combined => true
  | _ => false

/-- Whether a call marks the combined record stale: a write to one of the eight slots, except a
consumption equal to the one already stored. -/
def dirties (s : Store) : Call → Bool
  | .update m _ => decide (m < maxMotors)
  | .age m => decide (m < maxMotors)
  | .setConsumption m c => if h : m < maxMotors then s.records[m].consumption != c else false
  | .get _ | .primary | .combined => false

/-- A read of the combined record rebuilds it exactly when the store is stale and has a motor. -/
theorem combined_eq (s : Store) :
    s.combined = if s.needsRecompute = true ∧ 0 < s.motorCount then
      ({ s with combinedRecord := aggregate s.counted, needsRecompute := false,
                recomputations := s.recomputations + 1 }, aggregate s.counted)
      else (s, s.combinedRecord) := by
  unfold combined
  simp only [Bool.and_eq_true, decide_eq_true_eq]

/-- What a call does to the stale flag: a dirtying call sets it, a read of the combined record
with a motor clears it, and every other call leaves it. -/
theorem needsRecompute_call_eq (s : Store) (c : Call) :
    (s.call c).needsRecompute =
      if s.dirties c then true
      else if c.isCombined = true ∧ 0 < s.motorCount then false else s.needsRecompute := by
  cases c with
  | update m r =>
    by_cases hm : m < maxMotors <;> simp [call, dirties, Store.update, hm, Call.isCombined]
  | age m => by_cases hm : m < maxMotors <;> simp [call, dirties, Store.age, hm, Call.isCombined]
  | setConsumption m c =>
    by_cases hm : m < maxMotors
    · by_cases hc : s.records[m].consumption = c
      · simp [call, dirties, Store.setConsumption, hm, hc, Call.isCombined]
      · simp [call, dirties, Store.setConsumption, hm, hc]
    · simp [call, dirties, Store.setConsumption, hm, Call.isCombined]
  | get _ | primary => simp [call, dirties, Call.isCombined]
  | combined =>
    simp only [call, dirties, Call.isCombined, combined_eq, true_and, Bool.false_eq_true, if_false]
    by_cases hpos : 0 < s.motorCount
    · cases h : s.needsRecompute <;> simp [hpos, h]
    · simp [hpos]

/-! The writes touch neither the memo nor the count of rebuilds. -/

@[simp]
theorem recomputations_update (s : Store) (m : Nat) (r : Reading) :
    (s.update m r).recomputations = s.recomputations := by
  unfold Store.update; split <;> rfl

@[simp]
theorem recomputations_age (s : Store) (m : Nat) : (s.age m).recomputations = s.recomputations := by
  unfold Store.age; split <;> rfl

@[simp]
theorem recomputations_setConsumption (s : Store) (m : Nat) (c : Int32) :
    (s.setConsumption m c).recomputations = s.recomputations := by
  unfold Store.setConsumption; split
  · dsimp only; split <;> rfl
  · rfl

@[simp]
theorem combinedRecord_update (s : Store) (m : Nat) (r : Reading) :
    (s.update m r).combinedRecord = s.combinedRecord := by
  unfold Store.update; split <;> rfl

@[simp]
theorem combinedRecord_age (s : Store) (m : Nat) : (s.age m).combinedRecord = s.combinedRecord := by
  unfold Store.age; split <;> rfl

@[simp]
theorem combinedRecord_setConsumption (s : Store) (m : Nat) (c : Int32) :
    (s.setConsumption m c).combinedRecord = s.combinedRecord := by
  unfold Store.setConsumption; split
  · dsimp only; split <;> rfl
  · rfl

/-- A call rebuilds the combined record, once, exactly when it reads it from a stale store
with a motor. -/
theorem recomputations_call (s : Store) (c : Call) :
    (s.call c).recomputations = s.recomputations +
      if c.isCombined = true ∧ s.needsRecompute = true ∧ 0 < s.motorCount then 1 else 0 := by
  cases c with
  | update | age | setConsumption | get | primary => simp [call, Call.isCombined]
  | combined =>
    simp only [call, combined_eq, Call.isCombined, true_and]
    split <;> rfl

/-- On a clean store no call changes the memo. -/
theorem combinedRecord_call_of_clean {s : Store} (h : s.needsRecompute = false) (c : Call) :
    (s.call c).combinedRecord = s.combinedRecord := by
  cases c with
  | update | age | setConsumption | get | primary => simp [call]
  | combined => simp [call, combined_of_clean h]

/-! ## Runs -/

/-- How many reads of the combined record in a run found the store stale. -/
def staleReads (s : Store) : List Call → Nat
  | [] => 0
  | c :: calls =>
    (if c.isCombined = true ∧ s.needsRecompute = true then 1 else 0) + (s.call c).staleReads calls

/-- Whether no call of a run marks the combined record stale. -/
def quiet (s : Store) : List Call → Bool
  | [] => true
  | c :: calls => !s.dirties c && (s.call c).quiet calls

theorem run_cons (s : Store) (c : Call) (calls : List Call) : s.run (c :: calls) = (s.call c).run calls :=
  rfl

/-- With a motor, the rebuilds of a run are its reads that found the store stale. -/
theorem recomputations_run (s : Store) (h : 0 < s.motorCount) (calls : List Call) :
    (s.run calls).recomputations = s.recomputations + s.staleReads calls := by
  induction calls generalizing s with
  | nil => rfl
  | cons c calls ih =>
    rw [run_cons, ih (s.call c) (by simpa using h), recomputations_call, staleReads]
    simp only [h, and_true]
    omega

/-- With no motor, nothing is ever rebuilt. -/
theorem recomputations_run_of_empty (s : Store) (h : s.motorCount = 0) (calls : List Call) :
    (s.run calls).recomputations = s.recomputations := by
  induction calls generalizing s with
  | nil => rfl
  | cons c calls ih =>
    rw [run_cons, ih (s.call c) (by simpa using h), recomputations_call]
    simp [h]

/-- Calls that mark nothing stale keep a clean store clean, with its memo and its count of
rebuilds. -/
theorem run_of_quiet {s : Store} (hclean : s.needsRecompute = false) {calls : List Call}
    (hq : s.quiet calls = true) :
    (s.run calls).needsRecompute = false ∧ (s.run calls).combinedRecord = s.combinedRecord ∧
      (s.run calls).recomputations = s.recomputations := by
  induction calls generalizing s with
  | nil => exact ⟨hclean, rfl, rfl⟩
  | cons c calls ih =>
    simp only [quiet, Bool.and_eq_true, Bool.not_eq_true'] at hq
    have hflag : (s.call c).needsRecompute = false := by
      rw [needsRecompute_call_eq, if_neg (by simp [hq.1])]
      split <;> simp [hclean]
    obtain ⟨h₁, h₂, h₃⟩ := ih hflag hq.2
    refine ⟨h₁, h₂.trans (combinedRecord_call_of_clean hclean c), ?_⟩
    rw [run_cons, h₃, recomputations_call]
    simp [hclean]

/-- Over every run on a new store: the store starts stale, and the number of rebuilds is the
number of reads of the combined record that found it stale, or zero with no motors. After the
run, the next call marks the store stale if it writes one of the eight slots (a consumption only
if it changes), clears the flag if it reads the combined record with a motor, and otherwise leaves
it. With a motor, two reads of the combined record with no dirtying call between them give the
same record, and the second leaves the store as it is. -/
theorem rebuilds_counted (count : Nat) (calls : List Call) :
    let s := (Store.new count).run calls
    let n := min count maxMotors
    (Store.new count).needsRecompute = true ∧
    s.recomputations = (if 0 < n then (Store.new count).staleReads calls else 0) ∧
    (∀ c, (s.call c).needsRecompute =
      if s.dirties c then true
      else if c.isCombined = true ∧ 0 < n then false else s.needsRecompute) ∧
    (0 < n → ∀ mid, s.combined.1.quiet mid = true →
      (s.combined.1.run mid).combined = (s.combined.1.run mid, s.combined.2)) := by
  intro s n
  have hcount : s.motorCount = n := by simp [s, n]
  refine ⟨rfl, ?_, fun c => by rw [needsRecompute_call_eq, hcount], fun hpos mid hq => ?_⟩
  · by_cases hpos : 0 < n
    · rw [if_pos hpos, recomputations_run _ ((motorCount_new count).symm ▸ hpos), recomputations_new,
        Nat.zero_add]
    · rw [if_neg hpos, recomputations_run_of_empty _ ((motorCount_new count).trans (by omega))]
      rfl
  · have hclean := needsRecompute_combined (hcount ▸ hpos)
    obtain ⟨h₁, h₂, -⟩ := run_of_quiet hclean hq
    have hmemo : s.combined.2 = s.combined.1.combinedRecord := by
      rw [combined_eq]
      split <;> rfl
    rw [combined_of_clean h₁, h₂, hmemo]

-- two reads in a row rebuild once; ageing a motor makes the next read rebuild again
example :
    let calls := [Call.update 0 { temperature := 20, voltage := 1000, rpm := 100 }, .combined,
      .combined, .age 0, .combined, .setConsumption 1 0, .combined]
    ((Store.new 2).run calls).recomputations = 2 ∧ (Store.new 2).staleReads calls = 2 := by
  decide

end Store

end EscTelemetry
