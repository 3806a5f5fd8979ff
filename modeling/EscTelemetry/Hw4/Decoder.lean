import EscTelemetry.Hw4.Sync
import EscTelemetry.Hw4.Calibration
import EscTelemetry.Numeric.Fixed
import EscTelemetry.Effects

/-!
# The Hobbywing decoder

Every tick drains the receive FIFO through the synchroniser and stores each plausible
packet, converted, in record 0. The ESC streams on its own, so the record ages by one when
a quarter second has passed without a stored packet (and then again a quarter second
after that). Implausible packets count as CRC errors.

Consumption is integrated here, not by the ESC: between two ticks the stored current
(0.01 A) is multiplied by the elapsed microseconds and accumulated in double precision;
the record shows the total in mAh, rounded half away from zero.

The debug channels show the packet counter, eRPM and the converted values of the last
stored packet, the synchroniser's fill level on the timeout channel and record 0's age.
-/

namespace EscTelemetry

/-- Microseconds without a stored packet after which record 0 ages. -/
def hw4DataAgeWindowUs : Nat := 250000

/-- µs·(0.01 A)·10 per mAh. -/
def consumptionDivisor : Float := 3600000000.0

/-- The decoder's state. -/
structure Hw4Decoder where
  sync : Synchronizer := {}
  calibration : Hw4Calibration
  dataUpdateUs : Nat := 0
  consumptionUpdateUs : Option Nat := none
  totalConsumption : Float := 0.0
  stats : TelemetryStats := {}

namespace Hw4Decoder

variable {δ : Type}

/-- Bytes of the packet under way. -/
def bytesRead (d : Hw4Decoder) : Nat := d.sync.bytesRead

/-- Store one reassembled packet, or count it as refused. -/
def handlePacket (d : Hw4Decoder) (raw : Vector UInt8 19) (nowUs : Nat) (e : Effects δ) :
    Hw4Decoder × Effects δ :=
  match Hw4Packet.parse raw with
  | .error err =>
    let crcErrors := d.stats.crcErrors + 1
    ({ d with stats := { d.stats with crcErrors } },
      (e.withDebug (·.set .numCrcErrors (slotValue crcErrors.toNat))).emit .debug hw4Target
        ("hw4 packet rejected: " ++ err.message))
  | .ok packet =>
    let t := Hw4Telemetry.convert packet d.calibration
    let e := e.withStore fun s => s.update 0 (t.reading s.primary.consumption)
    let e := e.withDebug fun dbg =>
      let dbg := dbg.set .motorIndex (slotValue packet.counter.toNat)
      let dbg := dbg.set .rpm (slotValue packet.rpm.toNat)
      let dbg := dbg.set .temperature t.tempFet.roundToInt32
      let dbg := dbg.set .voltage (t.voltage * 100.0).roundToInt32
      let dbg := dbg.set .current (t.current * 100.0).roundToInt32
      let dbg := dbg.setRpm 0 (slotValue packet.rpm.toNat)
      let dbg := dbg.setRpm 1 (Int32.ofNat packet.throttle.toNat)
      let dbg := dbg.setRpm 2 (Int32.ofNat packet.pwm.toNat)
      let dbg := dbg.setTemperature 0 (t.tempFet * 10.0).roundToInt32
      dbg.setTemperature 1 (t.tempBec * 10.0).roundToInt32
    let e := e.emit .trace hw4Target
      ("hw4 packet " ++ Text.decimal packet.counter.toNat ++ ": rpm " ++
        Text.decimal packet.rpm.toNat ++ " thr " ++ Text.decimal packet.throttle.toNat ++ " " ++
        Fixed.ofValue 2 t.voltage.value ++ " V " ++ Fixed.ofValue 2 t.current.value ++ " A")
    ({ d with stats := { d.stats with framesDecoded := d.stats.framesDecoded + 1 },
              dataUpdateUs := nowUs }, e)

/-- Read up to `budget` bytes from the port, stopping at the first read that finds none,
and feed them through the synchroniser. -/
def drain {π : Type} [SerialPort π] (d : Hw4Decoder) (nowUs : Nat) :
    Nat → π → Effects δ → Hw4Decoder × π × Effects δ
  | 0, port, e => (d, port, e)
  | budget + 1, port, e =>
    match SerialPort.readByte port with
    | (none, port) => (d, port, e)
    | (some b, port) =>
      let (sync, out) := d.sync.push b
      let d := { d with sync }
      match out with
      | some raw =>
        let (d, e) := d.handlePacket raw nowUs e
        d.drain nowUs budget port e
      | none => d.drain nowUs budget port e

/-- One tick at `nowUs` microseconds, reading from `port`. -/
def process {π : Type} [SerialPort π] (d : Hw4Decoder) (nowUs : Nat) (port : π) (e : Effects δ) :
    Hw4Decoder × π × Effects δ :=
  let (d, e) :=
    if nowUs - d.dataUpdateUs > hw4DataAgeWindowUs then
      ({ d with dataUpdateUs := nowUs }, e.withStore (·.age 0))
    else (d, e)
  let (d, port, e) := d.drain nowUs (SerialPort.bytesWaiting port) port e
  let e := e.withDebug fun dbg =>
    (dbg.set .numTimeouts (slotValue d.sync.bytesRead)).set .dataAge
      (Int32.ofNat e.store.primary.dataAge.toNat)
  let dt := match d.consumptionUpdateUs with
    | some last => nowUs - last
    | none => 0
  let total := d.totalConsumption +
    dt.toUInt64.toFloat * Float.ofInt e.store.primary.current.toInt * 10.0
  let mah := (total / consumptionDivisor).value.roundCastInt (-2147483648) 2147483647
  ({ d with consumptionUpdateUs := some nowUs, totalConsumption := total }, port,
    e.withStore (·.setConsumption 0 (Int32.ofInt mah)))

end Hw4Decoder

end EscTelemetry
