/-!
# A metrics registry

A registry holds metric families, each with a name, a help text, a type and its metrics.
A metric is told apart within its family by its label values; an unlabelled family has a
single metric with no labels from the start, a labelled one gains a metric the first time
a label value is used.

Counters and integer gauges count in whole numbers; gauges may also hold a double; a
histogram keeps a count, a sum and a cumulative count per bucket bound. Reading the
registry (`gather`) gives every family that has at least one metric, sorted by name, with
its metrics sorted by label values, each value as a double.

Families are registered once, by name, when first touched; touching a registered family
again changes nothing about its registration.
-/

namespace EscTelemetry.Metrics

/-- What a family measures. -/
inductive Kind where
  | counter
  | gauge
  | histogram
deriving DecidableEq, Repr, Inhabited

/-- The name of a kind as exporters write it. -/
def Kind.name : Kind → String
  | .counter => "counter"
  | .gauge => "gauge"
  | .histogram => "histogram"

/-- The value of one metric. -/
inductive Value where
  /-- A whole count or level. -/
  | whole (n : Int)
  /-- A level held as a double. -/
  | real (x : Float)
  /-- Observations: how many, their sum, and how many fell at or below each bound. -/
  | histogram (bounds : List Float) (count : Nat) (sum : Float) (counts : List Nat)
deriving Inhabited

/-- One metric of a family. -/
structure Metric where
  labels : List (String × String)
  value : Value
deriving Inhabited

/-- A metric family. -/
structure Family where
  name : String
  help : String
  kind : Kind
  labelNames : List String
  metrics : List Metric
deriving Inhabited

/-- The registered families, in the order they were registered. -/
structure Registry where
  families : List Family := []
deriving Inhabited

namespace Registry

/-- Whether a family of that name is registered. -/
def contains (r : Registry) (name : String) : Bool :=
  r.families.any (·.name == name)

/-- Register a family, unless one of that name is. -/
def register (r : Registry) (f : Family) : Registry :=
  if r.contains f.name then r else { families := r.families ++ [f] }

/-- Change the family of that name. -/
def modifyFamily (r : Registry) (name : String) (g : Family → Family) : Registry :=
  { families := r.families.map fun f => if f.name == name then g f else f }

/-- Change the metric with the given label values, creating it from `initial` if the family
has none such. -/
def modifyMetric (r : Registry) (name : String) (labelValues : List String) (initial : Value)
    (g : Value → Value) : Registry :=
  r.modifyFamily name fun f =>
    let labels := f.labelNames.zip labelValues
    if f.metrics.any (·.labels == labels) then
      { f with metrics := f.metrics.map fun m =>
          if m.labels == labels then { m with value := g m.value } else m }
    else { f with metrics := f.metrics ++ [⟨labels, g initial⟩] }

/-- The families with at least one metric, sorted by name, their metrics sorted by label
values. -/
def gather (r : Registry) : List Family :=
  let byName := r.families.mergeSort fun a b => decide (a.name ≤ b.name)
  (byName.filter (!·.metrics.isEmpty)).map fun f =>
    -- the lexicographic order of the standard library on the label values
    { f with metrics := f.metrics.mergeSort fun a b =>
        (List.decidableLE (a.labels.map (·.2)) (b.labels.map (·.2))).decide }

end Registry

/-- A value as a double. -/
def Value.toFloat : Value → Float
  | .whole n => Float.ofInt n
  | .real x => x
  | .histogram _ _ sum _ => sum

/-- Record one observation in a histogram. -/
def Value.observe (x : Float) : Value → Value
  | .histogram bounds count sum counts =>
    .histogram bounds (count + 1) (sum + x)
      ((bounds.zip counts).map fun (b, c) => if x ≤ b then c + 1 else c)
  | v => v

end EscTelemetry.Metrics
