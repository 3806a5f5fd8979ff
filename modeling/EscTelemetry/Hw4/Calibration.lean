import EscTelemetry.Hw4.Packet
import EscTelemetry.Numeric.Binary
import EscTelemetry.Sample

/-!
# From Hobbywing ADC counts to physical units

The ESC reports raw 12-bit ADC counts against a 3.3 V reference. All conversions run in
single precision, in the order written here, so that their results agree bit for bit with
the firmware's:

* temperatures come from an NTC divider (10 kΩ against 47 kΩ) with a single-beta model
  (β = 3950 K, 25 °C reference); anything not above 0 °C, or not finite, reads as 0;
* voltage is the count scaled by the voltage gain, stored in tenths;
* current is the count above an offset, through a 0.25 mΩ shunt and a differential
  amplifier whose gain is stored in tenths; a zero gain, or a count not above the offset,
  reads as no current.

The ESC keeps reporting its last current after the motor stops, so `Hw4Telemetry.reading`
drops the current when the eRPM is below 100 or the throttle below 50.
-/

namespace EscTelemetry

/-- Gain and offset calibration, in tenths as stored in the settings. -/
structure Hw4Calibration where
  currentOffset : UInt16
  currentGain : UInt16
  voltageGain : UInt16
deriving DecidableEq, Repr

namespace Hw4Calibration

/-- The ADC reference voltage. -/
def vRef : Float32 := 3.3
/-- ADC counts at the reference voltage. -/
def adcResolution : Float32 := 4096.0
/-- Current shunt, in ohms. -/
def shuntOhms : Float32 := 0.00025
/-- β of the thermistor, in kelvin. -/
def ntcBeta : Float32 := 3950.0
/-- Fixed resistor of the divider, in ohms. -/
def ntcR1 : Float32 := 10000.0
/-- Thermistor resistance at 25 °C, in ohms. -/
def ntcRRef : Float32 := 47000.0

/-- Volts at the ADC pin for a count. -/
def pinVoltage (raw : UInt16) : Float32 :=
  raw.toFloat32 * (vRef / adcResolution)

/-- °C of a thermistor count; 0 for anything not above freezing or not finite. -/
def temperature (raw : UInt16) : Float32 :=
  let voltage := pinVoltage raw
  let ratio := (voltage / (vRef - voltage)) * (ntcR1 / ntcRRef)
  if ratio < 0.001 then 0.0
  else
    let t := 1.0 / (Float32.log ratio / ntcBeta + 1.0 / 298.15) - 273.15
    if t.isFinite && 0.0 < t then t else 0.0

/-- Volts of a supply count. -/
def voltage (c : Hw4Calibration) (raw : UInt16) : Float32 :=
  raw.toFloat32 * (vRef / adcResolution) * (c.voltageGain.toFloat32 / 10.0)

/-- Amps of a current count; never negative. -/
def current (c : Hw4Calibration) (raw : UInt16) : Float32 :=
  if raw ≤ c.currentOffset || c.currentGain = 0 then 0.0
  else
    (raw - c.currentOffset).toFloat32 *
      (vRef / (adcResolution * shuntOhms * c.currentGain.toFloat32 / 10.0))

end Hw4Calibration

/-- A packet with its readings in physical units. -/
structure Hw4Telemetry where
  packet : Hw4Packet
  /-- V. -/
  voltage : Float32
  /-- A. -/
  current : Float32
  /-- °C. -/
  tempFet : Float32
  /-- °C. -/
  tempBec : Float32

namespace Hw4Telemetry

/-- Convert a packet's counts. -/
def convert (p : Hw4Packet) (c : Hw4Calibration) : Hw4Telemetry where
  packet := p
  voltage := c.voltage p.voltageRaw
  current := c.current p.currentRaw
  tempFet := Hw4Calibration.temperature p.tempFetRaw
  tempBec := Hw4Calibration.temperature p.tempBecRaw

/-- Whether the motor counts as stopped: eRPM below 100 or throttle below 50. -/
def motorStopped (t : Hw4Telemetry) : Bool :=
  t.packet.rpm < 100 || t.packet.throttle < 50

/-- The record fields of a converted packet: °C, 0.01 V, 0.01 A (zero while the motor is
stopped), the given consumption, and eRPM / 100. -/
def reading (t : Hw4Telemetry) (consumption : Int32) : Reading where
  temperature := t.tempFet.roundToInt16
  voltage := (t.voltage * 100.0).roundToInt32
  current := if t.motorStopped then 0 else (t.current * 100.0).roundToInt32
  consumption := consumption
  rpm := Int32.ofNat (t.packet.rpm / 100).toNat

end Hw4Telemetry

end EscTelemetry
