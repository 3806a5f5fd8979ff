import EscTelemetry.Metrics.Publisher
import Mathlib

/-!
# What publishing adds to the link counters

The engines count timeouts, refused frames and accepted frames in 32-bit words that wrap,
and the publisher adds to each exported counter the growth of its word since the previous
publish, taken modulo 2³². So the counters of the registry telescope (`counters_add_growth`):
over any run of publishes from a fresh publisher, each counter grows by the sum of the wrapped
growths of the published words, the first one counted from zero. That sum is the last
published word when the words never decrease, and agrees with it modulo 2³² whatever they
do; a snapshot published twice in a row adds nothing the second time.

A counter is read through `Registry.counter`: the whole number held by its family's
unlabelled metric, zero before the family is registered. What the argument needs of the
registry, which stands in for the prometheus crate, is stated once as `CounterLaws`: an
addition adds exactly, and a write to a family of another name leaves a counter alone. The
registry is unfolded only to prove them (`Registry.counterLaws`); everything else a publish
writes lives in families of other names (`name_ne_of_link`).
-/

namespace EscTelemetry

namespace Metrics

/-! ## Reading a counter -/

/-- What `Registry.modifyMetric` does to a family of the name it writes: change the metric
with the given label values, or add it, starting from `initial`. -/
def Family.withMetric (labelValues : List String) (initial : Value) (g : Value → Value)
    (f : Family) : Family :=
  let labels := f.labelNames.zip labelValues
  if f.metrics.any (·.labels == labels) then
    { f with metrics := f.metrics.map fun m =>
        if m.labels == labels then { m with value := g m.value } else m }
  else { f with metrics := f.metrics ++ [⟨labels, g initial⟩] }

@[simp]
theorem Family.name_withMetric (labelValues : List String) (initial : Value) (g : Value → Value)
    (f : Family) : (f.withMetric labelValues initial g).name = f.name := by
  unfold Family.withMetric
  dsimp only
  split <;> rfl

theorem Registry.modifyMetric_eq (r : Registry) (name : String) (labelValues : List String)
    (initial : Value) (g : Value → Value) :
    r.modifyMetric name labelValues initial g =
      r.modifyFamily name (Family.withMetric labelValues initial g) := rfl

namespace Registry

/-- The value of the unlabelled metric of the family `name`, when the family is registered
and has one. -/
def value? (r : Registry) (name : String) : Option Value :=
  (r.families.find? (·.name == name)).bind fun f =>
    (f.metrics.find? (·.labels == [])).map (·.value)

/-- What a counter reads: the whole number its unlabelled metric holds, zero before there is
one, and nothing if it holds a value of another kind. -/
def counter (r : Registry) (m : SensorMetric) : Option Int :=
  match (r.value? m.family.name).getD (.whole 0) with
  | .whole k => some k
  | _ => none

/-! ### Writes to other families -/

section Frame

variable {name : String} (r : Registry)

theorem value?_register_of_ne {f : Family} (h : f.name ≠ name) :
    (r.register f).value? name = r.value? name := by
  unfold register
  split
  · rfl
  · simp [value?, List.find?_append, h]

/-- Changing the families named `name'` without renaming them: the first family of a name is
the same family as before, changed if it is named `name'`. -/
theorem find?_modifyFamily {name' : String} {g : Family → Family} (hg : ∀ f, (g f).name = f.name) :
    (r.modifyFamily name' g).families.find? (·.name == name) =
      (r.families.find? (·.name == name)).map fun f => if f.name == name' then g f else f := by
  unfold modifyFamily
  rw [List.find?_map]
  congr 2
  funext f
  by_cases hf : f.name = name' <;> simp [hf, hg]

theorem value?_modifyMetric_of_ne {name' : String} (h : name' ≠ name) (labelValues : List String)
    (initial : Value) (g : Value → Value) :
    (r.modifyMetric name' labelValues initial g).value? name = r.value? name := by
  unfold value?
  rw [modifyMetric_eq, find?_modifyFamily r (Family.name_withMetric labelValues initial g)]
  cases hfind : r.families.find? (·.name == name) with
  | none => rfl
  | some f =>
    have hf : f.name = name := by simpa using List.find?_some hfind
    simp [hf, h.symm]

end Frame

/-! ### Adding to a counter -/

/-- A write to the unlabelled metric of a registered family applies to the metric's value, or
to `initial` when the family has no such metric yet. -/
theorem value?_modifyMetric_self {name : String} (r : Registry) (hr : r.contains name)
    (initial : Value) (g : Value → Value) :
    (r.modifyMetric name [] initial g).value? name = some (g ((r.value? name).getD initial)) := by
  unfold value?
  rw [modifyMetric_eq, find?_modifyFamily r (Family.name_withMetric [] initial g)]
  obtain ⟨f, hfind⟩ : ∃ f, r.families.find? (·.name == name) = some f :=
    Option.isSome_iff_exists.mp (List.find?_isSome.mpr (List.any_eq_true.mp hr))
  have hf : f.name = name := by simpa using List.find?_some hfind
  simp only [hfind, Option.map_some, Option.bind_some, hf, beq_self_eq_true, if_true,
    Family.withMetric, List.zip_nil_right]
  split
  · rename_i hany
    obtain ⟨m, hm⟩ : ∃ m, f.metrics.find? (·.labels == []) = some m :=
      Option.isSome_iff_exists.mp (List.find?_isSome.mpr (List.any_eq_true.mp hany))
    have keepLabels : ((·.labels == []) ∘ fun m : Metric =>
        if m.labels == [] then { m with value := g m.value } else m) = (·.labels == []) := by
      funext m
      by_cases hl : m.labels = [] <;> simp [hl]
    have hl : m.labels = [] := by simpa using List.find?_some hm
    rw [List.find?_map, keepLabels, hm]
    simp [hl]
  · rename_i hany
    have hnone : f.metrics.find? (·.labels == []) = none :=
      List.find?_eq_none.mpr fun m hm hl => hany (List.any_eq_true.mpr ⟨m, hm, hl⟩)
    simp only [List.find?_append, hnone, Option.none_or, List.find?_singleton, beq_self_eq_true,
      if_true, Option.map_some, Option.map_none, Option.getD_none]

/-- Registering a counter's family does not change what it reads: a new family starts at
zero, and afterwards the family is registered. -/
theorem getD_value?_touch {c : SensorMetric} (hc : c.family.metrics = [⟨[], .whole 0⟩])
    (r : Registry) :
    ((r.touch c).value? c.family.name).getD (.whole 0) = (r.value? c.family.name).getD (.whole 0) ∧
      (r.touch c).contains c.family.name := by
  unfold touch register
  split
  · exact ⟨rfl, ‹_›⟩
  · rename_i hnew
    have hnone : r.families.find? (·.name == c.family.name) = none :=
      List.find?_eq_none.mpr fun f hf hn => hnew (List.any_eq_true.mpr ⟨f, hf, hn⟩)
    refine ⟨?_, by simp [contains]⟩
    simp [value?, List.find?_append, hnone, hc]

/-- Adding `n` to a counter: it reads `n` more, and zero plus `n` before it is registered. -/
theorem counter_incBy_self {c : SensorMetric} (hc : c.family.metrics = [⟨[], .whole 0⟩])
    (r : Registry) (n : Nat) : (r.incBy c n).counter c = (r.counter c).map (· + (n : Int)) := by
  obtain ⟨same, registered⟩ := getD_value?_touch hc r
  unfold incBy counter
  rw [value?_modifyMetric_self _ registered, Option.getD_some, same]
  cases (r.value? c.family.name).getD (.whole 0) <;> rfl

/-! ### Writes to other families leave a counter alone -/

theorem counter_write_of_ne (r : Registry) {m c : SensorMetric}
    (h : m.family.name ≠ c.family.name) (labelValues : List String) (initial : Value)
    (g : Value → Value) :
    ((r.touch m).modifyMetric m.family.name labelValues initial g).counter c = r.counter c := by
  unfold counter
  rw [value?_modifyMetric_of_ne _ h, touch, value?_register_of_ne _ h]

/-- A loop of writes that each leave a counter alone leaves it alone. -/
theorem counter_foldl {α : Type} {c : SensorMetric} (f : Registry → α → Registry)
    (hf : ∀ r a, (f r a).counter c = r.counter c) (l : List α) (r : Registry) :
    (l.foldl f r).counter c = r.counter c := by
  induction l generalizing r with
  | nil => rfl
  | cons a l ih => rw [List.foldl_cons, ih, hf]

end Registry

/-! ## The link counters -/

/-- The link-health counters, each exporting one statistic of the engine. -/
inductive LinkCounter where
  | framesDecoded
  | timeouts
  | crcErrors

namespace LinkCounter

/-- The metric a link counter is exported as. -/
def metric : LinkCounter → SensorMetric
  | .framesDecoded => .framesDecoded
  | .timeouts => .timeouts
  | .crcErrors => .crcErrors

/-- The statistic a link counter exports. -/
def count : LinkCounter → TelemetryStats → UInt32
  | .framesDecoded => (·.framesDecoded)
  | .timeouts => (·.timeouts)
  | .crcErrors => (·.crcErrors)

end LinkCounter

@[simp]
theorem LinkCounter.count_default (k : LinkCounter) : k.count {} = 0 := by
  cases k <;> rfl

/-- Whether a metric is one of the link counters. -/
def SensorMetric.isLink : SensorMetric → Bool
  | .framesDecoded | .timeouts | .crcErrors => true
  | .ticks | .ticksMissed | .tickDuration | .linkActive | .debugChannel _ | .motorRpm
  | .motorTemperature | .motorDataAge | .voltage | .current | .consumption | .temperature
  | .rpm | .dataAge => false

/-- Every other metric lives in a family of another name than a link counter's. -/
theorem name_ne_of_link {m : SensorMetric} (hm : m.isLink = false) (k : LinkCounter) :
    m.family.name ≠ k.metric.family.name := by
  cases m
  case debugChannel t => cases t <;> cases k <;> decide
  case framesDecoded | timeouts | crcErrors => simp [SensorMetric.isLink] at hm
  all_goals cases k <;> decide

/-! ## What the counters need of the registry -/

/-- What the publish argument relies on the registry for, in place of the prometheus crate's
own counters: an addition to a link counter adds exactly what is asked, from zero before the
counter is registered, and registering a metric and writing to it leave a counter of a family
of another name alone. The registry keeps both (`Registry.counterLaws`); the lemmas below cite
them and read nothing else of how it stores its families. -/
structure CounterLaws : Prop where
  incBy_self : ∀ (r : Registry) (k : LinkCounter) (n : Nat),
    (r.incBy k.metric n).counter k.metric = (r.counter k.metric).map (· + (n : Int))
  write_of_ne : ∀ (r : Registry) {m c : SensorMetric}, m.family.name ≠ c.family.name →
    ∀ (labelValues : List String) (initial : Value) (g : Value → Value),
      ((r.touch m).modifyMetric m.family.name labelValues initial g).counter c = r.counter c

theorem Registry.counterLaws : CounterLaws where
  incBy_self r k n := Registry.counter_incBy_self (by cases k <;> rfl) r n
  write_of_ne r _ _ h := Registry.counter_write_of_ne r h

namespace CounterLaws

section Frame

variable (laws : CounterLaws) (r : Registry) {m c : SensorMetric}
  (h : m.family.name ≠ c.family.name)
include laws h

theorem counter_incBy_of_ne (n : Nat) : (r.incBy m n).counter c = r.counter c :=
  laws.write_of_ne r h _ _ _

theorem counter_setWhole_of_ne (i : Int) : (r.setWhole m i).counter c = r.counter c :=
  laws.write_of_ne r h _ _ _

theorem counter_setReal_of_ne (x : Float) : (r.setReal m x).counter c = r.counter c :=
  laws.write_of_ne r h _ _ _

theorem counter_setMotor_of_ne (motor : Nat) (i : Int) :
    (r.setMotor m motor i).counter c = r.counter c :=
  laws.write_of_ne r h _ _ _

end Frame

end CounterLaws

/-- Of everything a publish writes, only the three additions reach the link counters. -/
theorem counter_publish_eq (laws : CounterLaws) (k : LinkCounter) (p : Publisher) (s : Snapshot)
    (r : Registry) :
    (p.publish s r).2.counter k.metric =
      (((r.incBy .framesDecoded (s.stats.framesDecoded - p.last.framesDecoded).toNat).incBy
        .timeouts (s.stats.timeouts - p.last.timeouts).toNat).incBy
        .crcErrors (s.stats.crcErrors - p.last.crcErrors).toNat).counter k.metric := by
  have other : ∀ m : SensorMetric, m.isLink = false → m.family.name ≠ k.metric.family.name :=
    fun m hm => name_ne_of_link hm k
  simp only [Publisher.publish]
  simp (disch := exact other _ rfl) only [laws.counter_setWhole_of_ne, laws.counter_setReal_of_ne]
  rw [Registry.counter_foldl, Registry.counter_foldl, laws.counter_setWhole_of_ne _ (other _ rfl)]
  · intro r t
    exact laws.counter_setWhole_of_ne r (other _ rfl) _
  · intro r m
    simp (disch := exact other _ rfl) only [laws.counter_setMotor_of_ne]

/-- A publish adds to each link counter the growth of its statistic since the previous
publish, modulo 2³². -/
theorem counter_publish (laws : CounterLaws) (k : LinkCounter) (p : Publisher) (s : Snapshot)
    (r : Registry) :
    (p.publish s r).2.counter k.metric =
      (r.counter k.metric).map (· + ((k.count s.stats - k.count p.last).toNat : Int)) := by
  rw [counter_publish_eq laws]
  cases k
  · rw [laws.counter_incBy_of_ne _ (by decide), laws.counter_incBy_of_ne _ (by decide)]
    exact laws.incBy_self r .framesDecoded _
  · rw [laws.counter_incBy_of_ne _ (by decide)]
    refine (laws.incBy_self _ .timeouts _).trans ?_
    rw [laws.counter_incBy_of_ne _ (by decide)]
    rfl
  · refine (laws.incBy_self _ .crcErrors _).trans ?_
    rw [laws.counter_incBy_of_ne _ (by decide), laws.counter_incBy_of_ne _ (by decide)]
    rfl

/-! ## A run of publishes -/

/-- Publish snapshots in order through one publisher. -/
def Publisher.publishAll (p : Publisher) : List Snapshot → Registry → Publisher × Registry
  | [], r => (p, r)
  | s :: snaps, r => (p.publish s r).1.publishAll snaps (p.publish s r).2

/-- What the counts `xs` add up to when each adds its growth over the one before, modulo
2³², the first over `prev`. -/
def wrappedGrowth (prev : UInt32) : List UInt32 → Int
  | [] => 0
  | x :: xs => ((x.toNat : Int) - prev.toNat) % 2 ^ 32 + wrappedGrowth x xs

/-- A word difference is the integer difference modulo 2³². -/
theorem toNat_sub_eq_emod (x prev : UInt32) :
    ((x - prev).toNat : Int) = ((x.toNat : Int) - prev.toNat) % 2 ^ 32 := by
  have hx := x.toNat_lt
  have hp := prev.toNat_lt
  rw [UInt32.toNat_sub]
  omega

/-- Over a run of publishes each link counter grows by the wrapped growth of its statistic,
counted from the statistic of the previous publish. -/
theorem counter_publishAll (laws : CounterLaws) (k : LinkCounter) (p : Publisher)
    (snaps : List Snapshot) (r : Registry) :
    (p.publishAll snaps r).2.counter k.metric =
      (r.counter k.metric).map
        (· + wrappedGrowth (k.count p.last) (snaps.map fun s => k.count s.stats)) := by
  induction snaps generalizing p r with
  | nil => simp [Publisher.publishAll, wrappedGrowth]
  | cons s snaps ih =>
    rw [Publisher.publishAll, ih, counter_publish laws, Option.map_map]
    have last : (p.publish s r).1.last = s.stats := rfl
    simp only [last, List.map_cons, wrappedGrowth, toNat_sub_eq_emod]
    congr 1
    funext v
    simp only [Function.comp]
    omega

/-! ## Telescoping -/

/-- Counts that never decrease add up to the last one's growth over `prev`. -/
theorem wrappedGrowth_of_chain {prev : UInt32} {xs : List UInt32}
    (h : (prev :: xs).IsChain (· ≤ ·)) :
    wrappedGrowth prev xs = ((xs.getLast?.getD prev).toNat : Int) - prev.toNat := by
  induction xs generalizing prev with
  | nil => simp [wrappedGrowth]
  | cons x xs ih =>
    obtain ⟨hle, hrest⟩ := List.isChain_cons_cons.mp h
    have hx := x.toNat_lt
    have hle' : prev.toNat ≤ x.toNat := UInt32.le_iff_toNat_le.mp hle
    rw [wrappedGrowth, ih hrest, List.getLast?_cons, Option.getD_some]
    omega

/-- Whatever the counts do, they add up to the last one's growth over `prev` modulo 2³². -/
theorem wrappedGrowth_emod (prev : UInt32) (xs : List UInt32) :
    wrappedGrowth prev xs % 2 ^ 32 = (((xs.getLast?.getD prev).toNat : Int) - prev.toNat) % 2 ^ 32 := by
  induction xs generalizing prev with
  | nil => simp [wrappedGrowth]
  | cons x xs ih =>
    have rest := ih x
    rw [wrappedGrowth, List.getLast?_cons, Option.getD_some]
    omega

/-! ## The counters over a run -/

/-- Publishing snapshots from a fresh publisher adds to each link counter the sum of the
wrapped growths of its statistic, the first one counted from zero. That sum is the last
published count when the counts never decrease, and agrees with it modulo 2³² whatever they
do; and a snapshot published again right after itself adds nothing. -/
theorem counters_add_growth (k : LinkCounter) (snaps : List Snapshot) (r : Registry) :
    let counts := snaps.map fun s => k.count s.stats
    (({} : Publisher).publishAll snaps r).2.counter k.metric =
        (r.counter k.metric).map (· + wrappedGrowth 0 counts) ∧
      (counts.IsChain (· ≤ ·) → wrappedGrowth 0 counts = (counts.getLast?.getD 0).toNat) ∧
      wrappedGrowth 0 counts % 2 ^ 32 = (counts.getLast?.getD 0).toNat ∧
      ∀ (p : Publisher) (s : Snapshot) (r₁ r₂ : Registry),
        ((p.publish s r₁).1.publish s r₂).2.counter k.metric = r₂.counter k.metric := by
  intro counts
  refine ⟨?_, ?_, ?_, ?_⟩
  · simpa using counter_publishAll Registry.counterLaws k {} snaps r
  · intro h
    have from0 : (0 :: counts).IsChain (· ≤ ·) := by
      cases hc : counts with
      | nil => exact .singleton 0
      | cons x xs => exact List.isChain_cons_cons.mpr ⟨UInt32.zero_le, hc ▸ h⟩
    simpa using wrappedGrowth_of_chain from0
  · have last := (counts.getLast?.getD 0).toNat_lt
    have := wrappedGrowth_emod 0 counts
    simp only [UInt32.toNat_zero, Int.natCast_zero, Int.sub_zero] at this
    omega
  · intro p s r₁ r₂
    have last : (p.publish s r₁).1.last = s.stats := rfl
    simp [counter_publish Registry.counterLaws, last]

/-- Publishing timeout counts 3, 3 and 5 adds five timeouts to a fresh registry: the
repeated snapshot adds nothing. -/
theorem counters_add_growth_repeated_snapshot :
    let snap := fun n : UInt32 =>
      Snapshot.mk true { timeouts := n } {} .invalid 1 (Vector.replicate maxMotors .invalid)
    (({} : Publisher).publishAll [snap 3, snap 3, snap 5] {}).2.counter
      LinkCounter.timeouts.metric = some 5 := by
  intro snap
  obtain ⟨grows, steady, -, -⟩ := counters_add_growth .timeouts [snap 3, snap 3, snap 5] {}
  rw [grows, steady (by decide)]
  rfl

end Metrics

end EscTelemetry
