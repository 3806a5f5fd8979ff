import EscTelemetry.Sensor
import EscTelemetry.Proofs.StoreLaws

/-!
# Runs of a KISS sensor

A KISS sensor is driven from outside by five kinds of call (`Call`): periodic ticks, bytes
from the serial receive callback, reads of a record, and changes to the motor driver or the
port, such as disabling the motors. `Sensor.run` applies a list of calls in order. To see
the requests a run makes, the sensor runs over a `Recorded` driver, which keeps the motors
it was asked for next to any driver's own state.

A tick of the poller does one of three things (`KissPoller.Tick`): it waits, it makes the
first request once the boot delay is over, or it settles the request in flight (accepted,
refused by its check byte, or timed out) and asks the next motor. `KissPoller.process_spec`
says what a tick does to the poller, the driver and the record store in these terms; the
modules that follow cite it and never unfold `KissPoller.process`.
-/

set_option linter.unusedSectionVars false

namespace EscTelemetry

/-! ## Ticks of the poller -/

namespace KissPoller

/-- How a tick settles the request in flight. -/
inductive Settled where
  /-- A complete frame passed its check. -/
  | accept (f : KissFrame)
  /-- A complete frame failed its check. -/
  | refuse
  /-- No complete frame came within the timeout. -/
  | timeout
deriving DecidableEq

/-- What one tick does. -/
inductive Tick where
  /-- Nothing: the boot delay is not over, or the reply is incomplete and not late. -/
  | wait
  /-- The first request. -/
  | boot
  /-- The request in flight ends, and the next motor is asked. -/
  | settle (o : Settled)
deriving DecidableEq

/-- What a tick at `nowMs` does to the poller `p`. -/
def tick (p : KissPoller) (nowMs : Nat) : Tick :=
  match p.trigger with
  | .startup => if escBootTimeMs ≤ nowMs then .boot else .wait
  | .pending =>
    if nowMs < p.requestMs + escRequestTimeoutMs then
      if p.frame.isComplete then
        match KissFrame.parse p.frame.frame with
        | .ok f => .settle (.accept f)
        | .error _ => .settle .refuse
      else .wait
    else .settle .timeout

/-- The counters after a request is settled. -/
def Settled.count : Settled → TelemetryStats → TelemetryStats
  | .accept _, st => { st with framesDecoded := st.framesDecoded + 1 }
  | .refuse, st => { st with crcErrors := st.crcErrors + 1 }
  | .timeout, st => { st with timeouts := st.timeouts + 1 }

/-- The record store after a tick, `m` being the motor in flight: an accepted frame is
stored, a refused or missing one ages the record. -/
def Tick.record (m : Nat) (s : Store) : Tick → Store
  | .settle (.accept f) => s.update m f.reading
  | .settle .refuse | .settle .timeout => s.age m
  | .wait | .boot => s

/-- The poller armed for the reply to a request made at `nowMs`. -/
def rearm (p : KissPoller) (nowMs : Nat) : KissPoller :=
  { p with frame := p.frame.startCapture kissFrameSize, trigger := .pending, requestMs := nowMs }

/-- The poller after a tick of kind `t` at `nowMs`, with `count` motors. -/
def advance (p : KissPoller) (nowMs count : Nat) : Tick → KissPoller
  | .wait => p
  | .boot => p.rearm nowMs
  | .settle o => { (p.selectNext count).rearm nowMs with stats := o.count p.stats }

@[simp] theorem motor_rearm (p : KissPoller) (nowMs : Nat) : (p.rearm nowMs).motor = p.motor := rfl
@[simp] theorem trigger_rearm (p : KissPoller) (nowMs : Nat) : (p.rearm nowMs).trigger = .pending :=
  rfl
@[simp] theorem requestMs_rearm (p : KissPoller) (nowMs : Nat) : (p.rearm nowMs).requestMs = nowMs :=
  rfl
@[simp] theorem stats_rearm (p : KissPoller) (nowMs : Nat) : (p.rearm nowMs).stats = p.stats := rfl
@[simp] theorem frame_rearm (p : KissPoller) (nowMs : Nat) :
    (p.rearm nowMs).frame = p.frame.startCapture kissFrameSize := rfl

@[simp] theorem motor_receive (p : KissPoller) (b : UInt8) : (p.receive b).motor = p.motor := rfl
@[simp] theorem trigger_receive (p : KissPoller) (b : UInt8) : (p.receive b).trigger = p.trigger :=
  rfl
@[simp] theorem requestMs_receive (p : KissPoller) (b : UInt8) :
    (p.receive b).requestMs = p.requestMs := rfl
@[simp] theorem stats_receive (p : KissPoller) (b : UInt8) : (p.receive b).stats = p.stats := rfl

@[simp]
theorem motorCount_record (m : Nat) (s : Store) (t : Tick) : (t.record m s).motorCount = s.motorCount := by
  cases t with
  | wait | boot => rfl
  | settle o => cases o <;> simp [Tick.record]

/-- Only a poller still waiting for the boot delay makes the first request. -/
theorem trigger_of_tick_boot {p : KissPoller} {nowMs : Nat} (h : p.tick nowMs = .boot) :
    p.trigger = .startup := by
  revert h
  fun_cases tick p nowMs with
  | case1 hstartup => exact fun _ => hstartup
  | _ => intro h; cases h

/-- Only a poller with a request in flight settles one. -/
theorem trigger_of_tick_settle {p : KissPoller} {nowMs : Nat} {o : Settled}
    (h : p.tick nowMs = .settle o) : p.trigger = .pending := by
  revert h
  fun_cases tick p nowMs with
  | case1 | case2 | case5 => intro h; cases h
  | case3 hpending | case4 hpending | case6 hpending => exact fun _ => hpending

/-- A tick accepts a frame only before the timeout, from a complete buffer whose frame
passes its check. -/
theorem tick_accept {p : KissPoller} {nowMs : Nat} {f : KissFrame}
    (h : p.tick nowMs = .settle (.accept f)) :
    nowMs < p.requestMs + escRequestTimeoutMs ∧ p.frame.isComplete = true ∧
      KissFrame.parse p.frame.frame = .ok f := by
  revert h
  fun_cases tick p nowMs with
  | case3 _ hlt hc f' hf => intro h; cases h; exact ⟨hlt, hc, hf⟩
  | _ => intro h; cases h

/-- A tick refuses a frame only before the timeout, from a complete buffer whose frame fails
its check. -/
theorem tick_refuse {p : KissPoller} {nowMs : Nat} (h : p.tick nowMs = .settle .refuse) :
    nowMs < p.requestMs + escRequestTimeoutMs ∧ p.frame.isComplete = true ∧
      ∃ err, KissFrame.parse p.frame.frame = .error err := by
  revert h
  fun_cases tick p nowMs with
  | case4 _ hlt hc err hf => exact fun _ => ⟨hlt, hc, err, hf⟩
  | _ => intro h; cases h

/-- A tick times a request out only once the timeout has passed. -/
theorem tick_timeout {p : KissPoller} {nowMs : Nat} (h : p.tick nowMs = .settle .timeout) :
    p.requestMs + escRequestTimeoutMs ≤ nowMs := by
  revert h
  fun_cases tick p nowMs with
  | case6 _ hlate => exact fun _ => Nat.le_of_not_lt hlate
  | _ => intro h; cases h

variable {δ : Type} [MotorDriver δ]

/-- Everything a tick does to the poller, the driver and the record store: a waiting tick
changes nothing, any other asks the motor the poller then has in flight. -/
theorem process_spec (p : KissPoller) (nowUs : Nat) (e : Effects δ) :
    (p.process nowUs e).1 = p.advance (nowUs / 1000) e.store.motorCount (p.tick (nowUs / 1000)) ∧
    (p.process nowUs e).2.driver = (if p.tick (nowUs / 1000) = .wait then e.driver
      else MotorDriver.requestTelemetry e.driver (p.process nowUs e).1.motor) ∧
    (p.process nowUs e).2.store = (p.tick (nowUs / 1000)).record p.motor e.store := by
  rcases p with ⟨frame, trigger, motor, requestMs, stats⟩
  cases trigger with
  | startup =>
    by_cases hb : escBootTimeMs ≤ nowUs / 1000
    · simp [process, tick, hb, advance, rearm, request, Tick.record]
    · simp [process, tick, hb, advance, Tick.record]
  | pending =>
    by_cases ht : nowUs / 1000 < requestMs + escRequestTimeoutMs
    · by_cases hc : frame.isComplete = true
      · cases hf : KissFrame.parse frame.frame with
        | ok f =>
          simp [process, tick, decode, ht, hc, hf, advance, rearm, request, selectNext,
            Settled.count, Tick.record, Effects.withStore, Effects.withDebug, Effects.emit]
        | error err =>
          simp [process, tick, decode, ht, hc, hf, advance, rearm, request, selectNext,
            Settled.count, Tick.record, Effects.withStore, Effects.withDebug, Effects.emit]
      · simp [process, tick, decode, ht, hc, advance, Tick.record]
    · simp [process, tick, ht, advance, rearm, request, selectNext, Settled.count, Tick.record,
        Effects.withStore, Effects.withDebug, Effects.emit]

end KissPoller

/-! ## Recorded requests -/

/-- A motor driver that also keeps the motors it was asked for, oldest first. -/
structure Recorded (δ : Type) where
  driver : δ
  asked : List Nat := []

instance {δ : Type} [MotorDriver δ] : MotorDriver (Recorded δ) where
  motorCount d := MotorDriver.motorCount d.driver
  motorsEnabled d := MotorDriver.motorsEnabled d.driver
  requestTelemetry d m := { driver := MotorDriver.requestTelemetry d.driver m, asked := d.asked ++ [m] }

@[simp]
theorem Recorded.asked_requestTelemetry {δ : Type} [MotorDriver δ] (d : Recorded δ) (m : Nat) :
    (MotorDriver.requestTelemetry d m).asked = d.asked ++ [m] := rfl

/-! ## Calls and runs -/

/-- A call made on a running sensor from outside. -/
inductive Call (δ π : Type) where
  /-- A periodic tick at `nowUs` microseconds. -/
  | process (nowUs : Nat)
  /-- A byte from the serial receive callback. -/
  | receive (b : UInt8)
  /-- A read of a record. -/
  | sample (i : SensorIndex)
  /-- A change to the motor driver, such as enabling or disabling the motors. -/
  | driver (f : δ → δ)
  /-- A change to the serial port. -/
  | port (f : π → π)

namespace Sensor

variable {δ π : Type} [MotorDriver δ] [SerialPort π]

/-- The sensor after a call. A change to the driver leaves its record of requests alone. -/
def call (s : Sensor (Recorded δ) π) : Call δ π → Sensor (Recorded δ) π
  | .process nowUs => (s.process nowUs).1
  | .receive b => s.receive b
  | .sample i => (s.sample i).1
  | .driver f => s.withDriver fun d => { d with driver := f d.driver }
  | .port f => s.withPort f

/-- The sensor after a list of calls, made in order. -/
def run (s : Sensor (Recorded δ) π) (calls : List (Call δ π)) : Sensor (Recorded δ) π :=
  calls.foldl call s

/-- A property of the start that every call keeps holds after every run. -/
theorem run_induction (P : Sensor (Recorded δ) π → Prop) {s : Sensor (Recorded δ) π}
    (start : P s) (step : ∀ s c, P s → P (s.call c)) (calls : List (Call δ π)) :
    P (s.run calls) := by
  induction calls generalizing s with
  | nil => exact start
  | cons c calls ih => exact ih (step s c start)

/-- Whether a tick runs the engine: the port is open and the motors are enabled. -/
def Processed (s : Sensor δ π) : Prop :=
  s.port.isSome ∧ MotorDriver.motorsEnabled s.driver = true

instance (s : Sensor δ π) : Decidable s.Processed := inferInstanceAs (Decidable (_ ∧ _))

/-- A tick of a KISS sensor runs the poller when the port is open and the motors are
enabled, and changes nothing otherwise. -/
theorem process_of_kiss {s : Sensor δ π} {p : KissPoller}
    (h : s.engine = .kiss p) (nowUs : Nat) :
    (s.process nowUs).1 = if s.port.isSome ∧ MotorDriver.motorsEnabled s.driver = true then
      { s.absorb (p.process nowUs s.effects).2 with engine := .kiss (p.process nowUs s.effects).1 }
      else s := by
  unfold process
  cases hp : s.port with
  | none => simp
  | some port =>
    cases he : MotorDriver.motorsEnabled s.driver <;> simp [h]

/-- A received byte goes to the KISS poller and changes nothing else. -/
theorem receive_of_kiss {s : Sensor δ π} {p : KissPoller} (h : s.engine = .kiss p) (b : UInt8) :
    s.receive b = { s with engine := .kiss (p.receive b) } := by
  simp [receive, h]

/-- A read leaves the engine, the driver and every motor's record as they were; a read of
the combined record may rebuild it. -/
theorem sample_eq (s : Sensor δ π) (i : SensorIndex) :
    (s.sample i).1 = s ∨ ∃ d, (s.sample i).1 = { s with store := s.store.combined.1, debug := d } := by
  rcases s with ⟨engine, driver, port, store, debug⟩
  cases engine <;> cases i <;> simp [sample]

/-- A property of a KISS sensor's store, requests and poller holds after every call if every
tick of the poller keeps it, and received bytes and rebuilds of the combined record do not
break it. -/
theorem kiss_call {P : Store → List Nat → KissPoller → Prop}
    (tick : ∀ p (e : Effects (Recorded δ)) nowUs, P e.store e.driver.asked p →
      P (p.process nowUs e).2.store (p.process nowUs e).2.driver.asked (p.process nowUs e).1)
    (receive : ∀ st asked p b, P st asked p → P st asked (p.receive b))
    (combined : ∀ st asked p, P st asked p → P st.combined.1 asked p)
    {s : Sensor (Recorded δ) π} {p : KissPoller} (hp : s.engine = .kiss p)
    (h : P s.store s.driver.asked p) (c : Call δ π) :
    ∃ p', (s.call c).engine = .kiss p' ∧ P (s.call c).store (s.call c).driver.asked p' := by
  cases c with
  | process nowUs =>
    simp only [call, process_of_kiss hp]
    split
    · exact ⟨_, rfl, tick p s.effects nowUs h⟩
    · exact ⟨p, hp, h⟩
  | receive b =>
    simp only [call, receive_of_kiss hp]
    exact ⟨p.receive b, rfl, receive _ _ p b h⟩
  | sample i =>
    rcases sample_eq s i with he | ⟨dbg, he⟩
    · simp only [call, he]
      exact ⟨p, hp, h⟩
    · simp only [call, he]
      exact ⟨p, hp, combined _ _ p h⟩
  | driver f => exact ⟨p, hp, h⟩
  | port f => exact ⟨p, hp, h⟩

end Sensor

end EscTelemetry
