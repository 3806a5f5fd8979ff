import EscTelemetry.Proofs.KissSchedule

/-!
# Boot delay and timeouts of the KISS poller

KISS ESCs need five seconds to boot before they answer, and an unanswered request holds the
wire only for the timeout of 100 ms. Over every run of a KISS sensor, whatever the tick times
(also going backwards) and the bytes received (`requests_after_boot_and_timely`):

* the poller waits for the boot delay, and no request is made, until the first processed tick
  (port open, motors enabled) at five seconds or later, which asks motor 0;
* once a request is in flight the poller never waits for the boot delay again;
* after every processed tick that leaves a request in flight, that request is younger than
  the timeout by the tick's millisecond time;
* a processed tick before the timeout never times the request out, and leaves a request with
  an incomplete reply in flight; a processed tick at or past the timeout times it out, counts
  one timeout and nothing else, and asks the next motor.

The poller-level facts are `tick_of_startup`, `tick_of_late`, `tick_of_early` and
`fresh_process`; at the level of the sensor the boot gate comes from `OnSchedule`.
-/

set_option linter.unusedSectionVars false

namespace EscTelemetry

namespace KissPoller

/-- Before the first request a tick either makes it, once the boot delay is over, or waits. -/
theorem tick_of_startup {p : KissPoller} (h : p.trigger = .startup) (nowMs : Nat) :
    p.tick nowMs = if escBootTimeMs ≤ nowMs then .boot else .wait := by
  simp [tick, h]

/-- A tick at or past the timeout of the request in flight times it out, whatever was
received. -/
theorem tick_of_late {p : KissPoller} {nowMs : Nat} (h : p.trigger = .pending)
    (hlate : p.requestMs + escRequestTimeoutMs ≤ nowMs) : p.tick nowMs = .settle .timeout := by
  simp [tick, h, Nat.not_lt.mpr hlate]

/-- A tick before the timeout never times the request out, and waits while the reply is
incomplete. -/
theorem tick_of_early {p : KissPoller} {nowMs : Nat} (h : p.trigger = .pending)
    (hearly : nowMs < p.requestMs + escRequestTimeoutMs) :
    p.tick nowMs ≠ .settle .timeout ∧ (p.frame.isComplete = false → p.tick nowMs = .wait) := by
  refine ⟨fun ht => ?_, fun hc => by simp [tick, h, hearly, hc]⟩
  have := tick_timeout ht
  omega

/-- A tick that is not waiting leaves a request in flight. -/
theorem trigger_advance (p : KissPoller) (nowMs count : Nat) (t : Tick) :
    (p.advance nowMs count t).trigger = if t = .wait then p.trigger else .pending := by
  cases t <;> simp [advance, selectNext]

/-- A waiting tick with a request in flight comes before its timeout. -/
theorem lt_of_tick_wait {p : KissPoller} {nowMs : Nat} (h : p.trigger = .pending)
    (hwait : p.tick nowMs = .wait) : nowMs < p.requestMs + escRequestTimeoutMs := by
  refine Nat.lt_of_not_le fun hlate => ?_
  rw [tick_of_late h hlate] at hwait
  cases hwait

variable {δ : Type} [MotorDriver δ]

/-- After a tick, the request in flight, if any, is younger than the timeout by the tick's
millisecond time: a waiting tick kept one that was, and any other tick has just made it. -/
theorem fresh_process (p : KissPoller) (nowUs : Nat) (e : Effects δ)
    (h : (p.process nowUs e).1.trigger = .pending) :
    nowUs / 1000 < (p.process nowUs e).1.requestMs + escRequestTimeoutMs := by
  obtain ⟨hp, -, -⟩ := p.process_spec nowUs e
  rw [hp] at h ⊢
  cases ht : p.tick (nowUs / 1000) with
  | wait =>
    rw [ht, trigger_advance, if_pos rfl] at h
    exact lt_of_tick_wait h ht
  | boot => simp [advance, escRequestTimeoutMs]
  | settle o => simp [advance, selectNext, escRequestTimeoutMs]

/-- A tick never takes the poller back to waiting for the boot delay. -/
theorem trigger_process_of_pending {p : KissPoller} (h : p.trigger = .pending) (nowUs : Nat)
    (e : Effects δ) : (p.process nowUs e).1.trigger = .pending := by
  rw [(p.process_spec nowUs e).1, trigger_advance]
  split <;> simp [h]

end KissPoller

namespace Sensor

variable {δ π : Type} [MotorDriver δ] [SerialPort π]

/-- No call takes a KISS sensor's poller back to waiting for the boot delay. -/
theorem pending_call {s : Sensor (Recorded δ) π} {p : KissPoller} (hp : s.engine = .kiss p)
    (h : p.trigger = .pending) (c : Call δ π) :
    ∃ p', (s.call c).engine = .kiss p' ∧ p'.trigger = .pending :=
  kiss_call (P := fun _ _ p => p.trigger = .pending)
    (fun p e nowUs h => KissPoller.trigger_process_of_pending h nowUs e)
    (fun _ _ p b h => by rw [KissPoller.trigger_receive]; exact h) (fun _ _ _ h => h) hp h c

/-- The tick of a sensor on schedule before its first request: it asks motor 0 when it is
processed at five seconds or later, and asks nothing otherwise. -/
theorem asked_process_of_startup {n : Nat} {s : Sensor (Recorded δ) π} (hs : Scheduled n s)
    (hnil : s.driver.asked = []) (nowUs : Nat) :
    (s.call (.process nowUs)).driver.asked =
      if s.Processed ∧ 5000000 ≤ nowUs then [0] else [] := by
  obtain ⟨p, hp, -, hsched⟩ := hs
  have hstart : p.trigger = .startup := hsched.startup.1 hnil
  have hmotor : p.motor = 0 := by simpa [hnil] using hsched.motor
  have hboot : escBootTimeMs ≤ nowUs / 1000 ↔ 5000000 ≤ nowUs := by
    unfold escBootTimeMs
    omega
  simp only [Sensor.call, process_of_kiss hp, Processed]
  split
  · rename_i hrun
    obtain ⟨hq, hd, -⟩ := p.process_spec nowUs s.effects
    show (p.process nowUs s.effects).2.driver.asked = _
    rw [hd, KissPoller.tick_of_startup hstart, hq, KissPoller.tick_of_startup hstart]
    by_cases hlate : 5000000 ≤ nowUs
    · simp [hboot.mpr hlate, hlate, hrun, KissPoller.advance, hmotor, hnil, Sensor.effects]
    · simp [mt hboot.mp hlate, hlate, Sensor.effects, hnil]
  · rename_i hidle
    simp [hidle, hnil]

/-- The poller after a tick: the one the tick ran, or the same one when the tick is not
processed. -/
theorem engine_call_process {s : Sensor (Recorded δ) π} {p : KissPoller} (hp : s.engine = .kiss p)
    (nowUs : Nat) :
    (s.call (.process nowUs)).engine =
      .kiss (if s.Processed then (p.process nowUs s.effects).1 else p) := by
  simp only [Sensor.call, process_of_kiss hp]
  by_cases hrun : s.Processed
  · rw [if_pos hrun, if_pos (show s.port.isSome = true ∧ _ from hrun)]
  · rw [if_neg hrun, if_neg (show ¬(s.port.isSome = true ∧ _) from hrun), hp]

/-- A processed tick with a request in flight: before the timeout it counts no timeout and
keeps a request whose reply is incomplete in flight; at or past the timeout it counts one
timeout and nothing else, and asks the next motor. -/
theorem process_of_pending {s : Sensor (Recorded δ) π} {p : KissPoller} (hp : s.engine = .kiss p)
    (h : p.trigger = .pending) (hrun : s.Processed) (nowUs : Nat) :
    (nowUs / 1000 < p.requestMs + escRequestTimeoutMs →
      (s.call (.process nowUs)).stats.timeouts = s.stats.timeouts ∧
      (p.frame.isComplete = false → (s.call (.process nowUs)).driver.asked = s.driver.asked)) ∧
    (p.requestMs + escRequestTimeoutMs ≤ nowUs / 1000 →
      (s.call (.process nowUs)).stats = { s.stats with timeouts := s.stats.timeouts + 1 } ∧
      (s.call (.process nowUs)).driver.asked =
        s.driver.asked ++ [(p.process nowUs s.effects).1.motor]) := by
  have hrun' : s.port.isSome = true ∧ MotorDriver.motorsEnabled s.driver = true := hrun
  simp only [Sensor.call, process_of_kiss hp, if_pos hrun']
  obtain ⟨hq, hd, -⟩ := p.process_spec nowUs s.effects
  refine ⟨fun hearly => ?_, fun hlate => ?_⟩
  · obtain ⟨hnot, hwait⟩ := KissPoller.tick_of_early h hearly
    refine ⟨?_, fun hc => ?_⟩
    · simp only [Sensor.stats, Engine.stats, hp, hq]
      cases ht : p.tick (nowUs / 1000) with
      | wait | boot => simp [KissPoller.advance]
      | settle o =>
        cases o with
        | timeout => exact absurd ht hnot
        | accept f | refuse => simp [KissPoller.advance, KissPoller.Settled.count]
    · show (p.process nowUs s.effects).2.driver.asked = _
      rw [hd, if_pos (hwait hc)]
      rfl
  · have ht := KissPoller.tick_of_late h hlate
    refine ⟨?_, ?_⟩
    · simp [Sensor.stats, Engine.stats, hp, hq, ht, KissPoller.advance, KissPoller.Settled.count]
    · show (p.process nowUs s.effects).2.driver.asked = _
      rw [hd, ht]
      simp [Sensor.effects]

/-- Over every run of a KISS sensor, whatever the tick times and the bytes received: the
poller waits for the boot delay exactly while no request has been made; the first request is
made by the first processed tick at five seconds or later, and asks motor 0; once a request is
in flight no call takes the poller back to waiting for the boot delay; after a processed tick
that leaves a request in flight, it is younger than the timeout by the tick's millisecond time;
and a processed tick before the timeout counts no timeout and keeps a request whose reply is
incomplete in flight, while one at or past the timeout counts exactly one timeout, and nothing
else, and asks the next motor. -/
theorem requests_after_boot_and_timely (c : SensorConfig) (hc : c.protocol = .kiss) (d : δ)
    (port : Option π) (calls : List (Call δ π)) (nowUs : Nat) :
    let s := (Sensor.new c ({ driver := d } : Recorded δ) port).1.run calls
    let s' := s.call (.process nowUs)
    ∃ p p', s.engine = .kiss p ∧ s'.engine = .kiss p' ∧
      (p.trigger = .startup ↔ s.driver.asked = []) ∧
      (s.driver.asked = [] → s'.driver.asked = if s.Processed ∧ 5000000 ≤ nowUs then [0] else []) ∧
      (p.trigger = .pending → ∀ c : Call δ π, ∃ q, (s.call c).engine = .kiss q ∧ q.trigger = .pending) ∧
      (s.Processed → p'.trigger = .pending → nowUs / 1000 < p'.requestMs + escRequestTimeoutMs) ∧
      (s.Processed → p.trigger = .pending →
        (nowUs / 1000 < p.requestMs + escRequestTimeoutMs →
          s'.stats.timeouts = s.stats.timeouts ∧
          (p.frame.isComplete = false → s'.driver.asked = s.driver.asked)) ∧
        (p.requestMs + escRequestTimeoutMs ≤ nowUs / 1000 →
          s'.stats = { s.stats with timeouts := s.stats.timeouts + 1 } ∧
          s'.driver.asked = s.driver.asked ++ [p'.motor])) := by
  intro s s'
  have hsched : Scheduled (min (MotorDriver.motorCount d) maxMotors) s :=
    run_induction _ (scheduled_new c hc d port) (fun _ c h => h.call c) calls
  obtain ⟨p, hp, hcount, hon⟩ := hsched
  refine ⟨p, _, hp, engine_call_process hp nowUs, hon.startup.symm,
    fun hnil => asked_process_of_startup ⟨p, hp, hcount, hon⟩ hnil nowUs, fun h c => pending_call hp h c,
    fun hrun hpend => ?_, fun hrun h => ?_⟩
  · rw [if_pos hrun] at hpend ⊢
    exact KissPoller.fresh_process p nowUs s.effects hpend
  · rw [if_pos hrun]
    exact process_of_pending hp h hrun nowUs

/-- Two motors that never answer, ticks just before and at the end of the boot delay: the tick
at 5.1 s finds the first request 100 ms old and times it out. -/
theorem requests_after_boot_and_timely_silent_motors :
    ({} : SensorConfig).protocol = .kiss ∧
    let s := (Sensor.new {} ({ driver := { count := 2 } } : Recorded SimulatedMotors)
      (some CallbackOnlyPort.mk)).1.run [.process 4999999, .process 5000000]
    let s' := s.call (.process 5100000)
    ∃ p p', s.engine = .kiss p ∧ s'.engine = .kiss p' ∧
      (p.trigger = .startup ↔ s.driver.asked = []) ∧
      (s.driver.asked = [] → s'.driver.asked = if s.Processed ∧ 5000000 ≤ 5100000 then [0] else []) ∧
      (p.trigger = .pending → ∀ c : Call SimulatedMotors CallbackOnlyPort,
        ∃ q, (s.call c).engine = .kiss q ∧ q.trigger = .pending) ∧
      (s.Processed → p'.trigger = .pending → 5100000 / 1000 < p'.requestMs + escRequestTimeoutMs) ∧
      (s.Processed → p.trigger = .pending →
        (5100000 / 1000 < p.requestMs + escRequestTimeoutMs →
          s'.stats.timeouts = s.stats.timeouts ∧
          (p.frame.isComplete = false → s'.driver.asked = s.driver.asked)) ∧
        (p.requestMs + escRequestTimeoutMs ≤ 5100000 / 1000 →
          s'.stats = { s.stats with timeouts := s.stats.timeouts + 1 } ∧
          s'.driver.asked = s.driver.asked ++ [p'.motor])) :=
  ⟨rfl, requests_after_boot_and_timely {} rfl _ _ _ _⟩

example :
    let s := (Sensor.new {} ({ driver := { count := 2 } } : Recorded SimulatedMotors)
      (some CallbackOnlyPort.mk)).1
    (s.run [.process 4999999]).driver.asked = [] ∧
      (s.run [.process 4999999, .process 5000000, .process 5099999]).driver.asked = [0] ∧
      (s.run [.process 4999999, .process 5000000, .process 5100000]).driver.asked = [0, 1] ∧
      (s.run [.process 4999999, .process 5000000, .process 5100000]).stats.timeouts = 1 := by
  decide

end Sensor

end EscTelemetry
