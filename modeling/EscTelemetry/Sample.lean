/-!
# Telemetry records

An `EscSample` is what the sensor knows about one ESC: how many updates it has missed,
and the last temperature, voltage, current, consumed charge and eRPM it reported. A record
that has never been filled, or has missed 255 updates, has age `dataAgeInvalid` and counts
as stale. A `Reading` is what a decoder hands over after a successful decode: the same
fields without the age, which a successful decode resets to zero.
-/

namespace EscTelemetry

/-- The age of a record that holds no valid data. -/
def dataAgeInvalid : UInt8 := 255

/-- The most ESCs the sensor keeps records for. -/
def maxMotors : Nat := 8

/-- The latest telemetry of one ESC. -/
structure EscSample where
  /-- Missed updates since the last valid one, saturating at `dataAgeInvalid`. -/
  dataAge : UInt8
  /-- °C. -/
  temperature : Int16
  /-- 0.01 V. -/
  voltage : Int32
  /-- 0.01 A. -/
  current : Int32
  /-- mAh. -/
  consumption : Int32
  /-- eRPM / 100. -/
  rpm : Int32
deriving DecidableEq, Repr

namespace EscSample

/-- The record of an ESC that has not reported: stale, every value zero. -/
def invalid : EscSample :=
  { dataAge := dataAgeInvalid, temperature := 0, voltage := 0, current := 0,
    consumption := 0, rpm := 0 }

instance : Inhabited EscSample := ⟨invalid⟩

/-- Whether the record holds no valid data. -/
def isStale (s : EscSample) : Bool := s.dataAge == dataAgeInvalid

/-- The record after one more missed update: its age grows by one and stops at
`dataAgeInvalid`. -/
def aged (s : EscSample) : EscSample :=
  { s with dataAge := if s.dataAge = dataAgeInvalid then s.dataAge else s.dataAge + 1 }

end EscSample

/-- Fresh values from a decoder. -/
structure Reading where
  temperature : Int16 := 0
  voltage : Int32 := 0
  current : Int32 := 0
  consumption : Int32 := 0
  rpm : Int32 := 0
deriving DecidableEq, Repr, Inhabited

/-- The record a successful decode leaves: the reading, with age zero. -/
def Reading.toSample (r : Reading) : EscSample :=
  { dataAge := 0, temperature := r.temperature, voltage := r.voltage, current := r.current,
    consumption := r.consumption, rpm := r.rpm }

end EscTelemetry
