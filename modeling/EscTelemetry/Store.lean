import EscTelemetry.Sample

/-!
# The record store

The store keeps one `EscSample` for each of up to eight ESCs and a combined record over the
first `motorCount` of them: the oldest age, the hottest temperature (never below 0), the
mean voltage and eRPM, and the total current and consumption. Sums are exact, means are cut
toward zero, and each result is clamped to the 32-bit range.

The combined record is rebuilt lazily. Every change to a record marks it stale
(`needsRecompute`); `Store.combined` rebuilds it only when it is stale and there is at
least one motor, counting the rebuilds in `recomputations`. With no motors it stays the
invalid record forever.

Writes go to any of the eight slots, also those at or above `motorCount`; reads through
`get?` see only the first `motorCount`, and `primary` is slot 0 whatever the count.
-/

namespace EscTelemetry

/-- Per-motor records and the memoized combined record. -/
structure Store where
  records : Vector EscSample maxMotors := Vector.replicate maxMotors .invalid
  motorCount : Nat
  motorCount_le : motorCount ≤ maxMotors
  combinedRecord : EscSample := .invalid
  needsRecompute : Bool := true
  recomputations : Nat := 0

namespace Store

/-- A store for `count` motors, at most eight: every record invalid, the combined record
stale. -/
def new (count : Nat) : Store where
  motorCount := min count maxMotors
  motorCount_le := Nat.min_le_right _ _

/-- The record of motor `m`, if `m` is below the motor count. -/
def get? (s : Store) (m : Nat) : Option EscSample :=
  if h : m < s.motorCount then
    have : m < maxMotors := by have := s.motorCount_le; omega
    some s.records[m]
  else none

/-- Slot 0, where single-ESC protocols report, whatever the motor count. -/
def primary (s : Store) : EscSample :=
  have : 0 < maxMotors := by decide
  s.records[0]

/-- A successful decode for motor `m`: the record becomes the reading, with age zero. -/
def update (s : Store) (m : Nat) (r : Reading) : Store :=
  if h : m < maxMotors then
    { s with records := s.records.set m r.toSample, needsRecompute := true }
  else s

/-- One more missed update for motor `m`; the age stops at `dataAgeInvalid`. -/
def age (s : Store) (m : Nat) : Store :=
  if h : m < maxMotors then
    { s with records := s.records.set m s.records[m].aged, needsRecompute := true }
  else s

/-- A new consumption for motor `m`; the combined record goes stale only if it changed. -/
def setConsumption (s : Store) (m : Nat) (c : Int32) : Store :=
  if h : m < maxMotors then
    let r := s.records[m]
    if r.consumption = c then s
    else { s with records := s.records.set m { r with consumption := c }, needsRecompute := true }
  else s

/-- `i` clamped to the 32-bit signed range. -/
def saturate32 (i : Int) : Int32 :=
  Int32.ofInt (max (-2147483648) (min 2147483647 i))

/-- The combined record of a non-empty list of records. -/
def aggregate (records : List EscSample) : EscSample :=
  let n : Int := records.length
  let sumOf (f : EscSample → Int32) : Int := (records.map fun r => (f r).toInt).foldr (· + ·) 0
  { dataAge := records.foldl (fun a r => max a r.dataAge) 0
    temperature := records.foldl (fun t r => max t r.temperature) 0
    voltage := saturate32 ((sumOf (·.voltage)).tdiv n)
    current := saturate32 (sumOf (·.current))
    consumption := saturate32 (sumOf (·.consumption))
    rpm := saturate32 ((sumOf (·.rpm)).tdiv n) }

/-- The records of the counted motors. -/
def counted (s : Store) : List EscSample := s.records.toList.take s.motorCount

/-- The combined record, rebuilt first if it is stale and there is a motor. -/
def combined (s : Store) : Store × EscSample :=
  if s.needsRecompute && 0 < s.motorCount then
    let c := aggregate s.counted
    ({ s with combinedRecord := c, needsRecompute := false,
               recomputations := s.recomputations + 1 }, c)
  else (s, s.combinedRecord)

@[simp]
theorem motorCount_new (count : Nat) : (Store.new count).motorCount = min count maxMotors := rfl

@[simp]
theorem recomputations_new (count : Nat) : (Store.new count).recomputations = 0 := rfl

/-- Writes to a slot past the eight change nothing. -/
theorem update_of_le {s : Store} {m : Nat} (h : maxMotors ≤ m) (r : Reading) :
    s.update m r = s := by
  simp [update, Nat.not_lt.mpr h]

theorem age_of_le {s : Store} {m : Nat} (h : maxMotors ≤ m) : s.age m = s := by
  simp [age, Nat.not_lt.mpr h]

theorem setConsumption_of_le {s : Store} {m : Nat} (h : maxMotors ≤ m) (c : Int32) :
    s.setConsumption m c = s := by
  simp [setConsumption, Nat.not_lt.mpr h]

@[simp]
theorem motorCount_update (s : Store) (m : Nat) (r : Reading) :
    (s.update m r).motorCount = s.motorCount := by
  unfold update; split <;> rfl

@[simp]
theorem motorCount_age (s : Store) (m : Nat) : (s.age m).motorCount = s.motorCount := by
  unfold age; split <;> rfl

@[simp]
theorem motorCount_setConsumption (s : Store) (m : Nat) (c : Int32) :
    (s.setConsumption m c).motorCount = s.motorCount := by
  unfold setConsumption; split
  · simp only; split <;> rfl
  · rfl

/-- A stored reading is what motor `m` reads back, with age zero. -/
theorem get?_update_self {s : Store} {m : Nat} (h : m < s.motorCount) (r : Reading) :
    (s.update m r).get? m = some r.toSample := by
  have hm : m < maxMotors := Nat.lt_of_lt_of_le h s.motorCount_le
  simp [update, get?, hm, h]

/-- A clean store hands back its memoized record and stays as it is. -/
theorem combined_of_clean {s : Store} (h : s.needsRecompute = false) :
    s.combined = (s, s.combinedRecord) := by
  simp [combined, h]

/-- With a motor, reading the combined record leaves the store clean. -/
theorem needsRecompute_combined {s : Store} (h : 0 < s.motorCount) :
    s.combined.1.needsRecompute = false := by
  unfold combined
  split
  · rfl
  · rename_i hc
    simp only [Bool.and_eq_true, decide_eq_true_eq, not_and] at hc
    cases hr : s.needsRecompute
    · rfl
    · exact absurd h (hc hr)

end Store

end EscTelemetry
