import EscTelemetry.Proofs.KissRun

/-!
# The polling schedule of a KISS sensor

KISS ESCs answer one at a time, so the poller asks them in turn. Over every run, whatever the
tick times, the bytes received, the replies that are corrupt, partial or missing, and the ticks
skipped while the motors are disabled, the requests go round the motors in order: the `j`-th
request asks motor `j mod max(n, 1)`, where `n` is the store's motor count, the driver's count
at the start capped at eight. A tick makes at most one request, and the motor in flight is
always below `max(n, 1)` (`requests_round_robin`).

The invariant is `OnSchedule`, kept by every tick of the poller (`OnSchedule.process`) and,
at the level of the sensor, by every call (`Scheduled.call`).
-/

set_option linter.unusedSectionVars false

namespace EscTelemetry

/-- The motors the first `k` requests of a round over `count` motors ask: request `j` asks
motor `j mod max(count, 1)`. -/
def roundRobin (count k : Nat) : List Nat :=
  (List.range k).map (· % max count 1)

@[simp]
theorem length_roundRobin (count k : Nat) : (roundRobin count k).length = k := by
  simp [roundRobin]

theorem roundRobin_succ (count k : Nat) :
    roundRobin count (k + 1) = roundRobin count k ++ [k % max count 1] := by
  simp [roundRobin, List.range_succ]

/-- Request `j` of a round asks motor `j mod max(count, 1)`. -/
theorem getElem_roundRobin (count k j : Nat) (h : j < (roundRobin count k).length) :
    (roundRobin count k)[j] = j % max count 1 := by
  simp [roundRobin]

/-- The requests the counters account for: timeouts, refused frames and decoded frames
together, modulo 2³². -/
def TelemetryStats.settled (st : TelemetryStats) : UInt32 :=
  st.timeouts + st.crcErrors + st.framesDecoded

namespace KissPoller

/-- Moving on from motor `j mod max(count, 1)` asks motor `j + 1 mod max(count, 1)`: the
wrap is at the count, and with no motors the poller stays at motor 0. -/
theorem motor_selectNext (p : KissPoller) {count j : Nat} (h : p.motor = j % max count 1) :
    (p.selectNext count).motor = (j + 1) % max count 1 := by
  have hlt : j % max count 1 < max count 1 := Nat.mod_lt j (by omega)
  have hmax : count ≤ max count 1 ∧ (max count 1 = count ∨ max count 1 = 1) := by omega
  have hstep : (j + 1) % max count 1 = (j % max count 1 + 1) % max count 1 :=
    (Nat.mod_add_mod j _ 1).symm
  show (if p.motor + 1 ≥ count then 0 else p.motor + 1) = _
  rw [h, hstep]
  split
  · have hwrap : j % max count 1 + 1 = max count 1 := by omega
    rw [hwrap, Nat.mod_self]
  · exact (Nat.mod_eq_of_lt (by omega)).symm

/-- The poller `p` is on schedule after the requests `asked`, over `count` motors: the
requests went round the motors in order, none has been made exactly while the poller waits
for the boot delay, and the motor in flight is the one last asked (motor 0 before the
first request). -/
structure OnSchedule (count : Nat) (asked : List Nat) (p : KissPoller) : Prop where
  round : asked = roundRobin count asked.length
  startup : asked = [] ↔ p.trigger = .startup
  motor : p.motor = (asked.length - 1) % max count 1

/-- A poller that settles a request has made one, when its requests so far are `asked`. -/
theorem asked_ne_nil_of_tick_settle {asked : List Nat} {p : KissPoller} {nowMs : Nat}
    {o : Settled} (h : asked = [] ↔ p.trigger = .startup) (ht : p.tick nowMs = .settle o) :
    asked ≠ [] := by
  intro hnil
  have hpending := trigger_of_tick_settle ht
  rw [h.1 hnil] at hpending
  cases hpending

variable {δ : Type} [MotorDriver δ]

/-- A tick keeps the poller on schedule: a waiting tick asks nothing, the first request asks
motor 0, and every later one asks the motor after the one in flight. -/
theorem OnSchedule.process {p : KissPoller} {e : Effects (Recorded δ)}
    (h : OnSchedule e.store.motorCount e.driver.asked p) (nowUs : Nat) :
    OnSchedule e.store.motorCount (p.process nowUs e).2.driver.asked (p.process nowUs e).1 := by
  obtain ⟨hp, hd, -⟩ := p.process_spec nowUs e
  rw [hd, hp]
  cases ht : p.tick (nowUs / 1000) with
  | wait => simpa [advance] using h
  | boot =>
    have hnil : e.driver.asked = [] := h.startup.2 (trigger_of_tick_boot ht)
    have hm : p.motor = 0 := by simpa [hnil] using h.motor
    refine ⟨?_, ?_, ?_⟩ <;> simp [advance, hm, hnil, roundRobin]
  | settle o =>
    have hne : e.driver.asked ≠ [] := asked_ne_nil_of_tick_settle h.startup ht
    obtain ⟨k, hk⟩ : ∃ k, e.driver.asked.length = k + 1 :=
      Nat.exists_eq_add_one_of_ne_zero (by simpa using hne)
    have hm : p.motor = k % max e.store.motorCount 1 := by simpa [hk] using h.motor
    have hnext : (p.advance (nowUs / 1000) e.store.motorCount (.settle o)).motor =
        (k + 1) % max e.store.motorCount 1 := by
      simp [advance, p.motor_selectNext hm]
    refine ⟨?_, ?_, ?_⟩
    · simp only [reduceCtorEq, if_false, Recorded.asked_requestTelemetry]
      rw [hnext, List.length_append, List.length_singleton, hk, roundRobin_succ, ← hk, ← h.round]
    · simp [advance]
    · simp [hnext, hk]

/-- The counters of `p` account for the requests `asked`: every request but the one in flight
has been settled, and counted once as a timeout, a refused frame or a decoded frame. -/
structure Accounted (asked : List Nat) (p : KissPoller) : Prop where
  inFlight : p.trigger = .pending → asked ≠ []
  settled : p.stats.settled = UInt32.ofNat (asked.length - if p.trigger = .pending then 1 else 0)

/-- Settling a request counts it once. -/
theorem Settled.settled_count (o : Settled) (st : TelemetryStats) :
    (o.count st).settled = st.settled + 1 := by
  cases o <;> simp only [count, TelemetryStats.settled] <;> ac_rfl

/-- A tick keeps the counters in step with the requests: the first request leaves them
alone, and every later one follows the settlement of the one before. -/
theorem Accounted.process {p : KissPoller} {e : Effects (Recorded δ)}
    (h : Accounted e.driver.asked p) (nowUs : Nat) :
    Accounted (p.process nowUs e).2.driver.asked (p.process nowUs e).1 := by
  obtain ⟨hp, hd, -⟩ := p.process_spec nowUs e
  rw [hd, hp]
  cases ht : p.tick (nowUs / 1000) with
  | wait => simpa [advance] using h
  | boot =>
    have hstart := trigger_of_tick_boot ht
    have hsettled : p.stats.settled = UInt32.ofNat e.driver.asked.length := by
      simpa [hstart] using h.settled
    exact ⟨fun _ => by simp, by simp [advance, hsettled]⟩
  | settle o =>
    have hpending := trigger_of_tick_settle ht
    obtain ⟨k, hk⟩ : ∃ k, e.driver.asked.length = k + 1 :=
      Nat.exists_eq_add_one_of_ne_zero (by simpa using h.inFlight hpending)
    have hsettled : p.stats.settled = UInt32.ofNat k := by simpa [hpending, hk] using h.settled
    refine ⟨fun _ => by simp, ?_⟩
    simp [advance, o.settled_count, hsettled, hk, UInt32.ofNat_add]

/-- The counters after a tick: unchanged when the tick asks nothing or makes the first
request, and one settlement more when it makes any later request. -/
theorem stats_process {p : KissPoller} {e : Effects (Recorded δ)}
    (h : e.driver.asked = [] ↔ p.trigger = .startup) (nowUs : Nat) :
    ((p.process nowUs e).2.driver.asked = e.driver.asked ∨ e.driver.asked = [] →
      (p.process nowUs e).1.stats = p.stats) ∧
    (e.driver.asked ≠ [] → (p.process nowUs e).2.driver.asked ≠ e.driver.asked →
      ∃ o : Settled, (p.process nowUs e).1.stats = o.count p.stats) := by
  obtain ⟨hp, hd, -⟩ := p.process_spec nowUs e
  rw [hd, hp]
  cases ht : p.tick (nowUs / 1000) with
  | wait => simp [advance]
  | boot =>
    have hnil : e.driver.asked = [] := h.2 (trigger_of_tick_boot ht)
    simp [advance, hnil]
  | settle o =>
    have hne : e.driver.asked ≠ [] := asked_ne_nil_of_tick_settle h ht
    refine ⟨?_, fun _ _ => ⟨o, by simp [advance]⟩⟩
    rintro (hsame | hnil)
    · simp at hsame
    · exact absurd hnil hne

end KissPoller

namespace Sensor

variable {δ π : Type} [MotorDriver δ] [SerialPort π]

/-- A KISS sensor on schedule over `n` motors: its store counts `n` motors and its poller is
on schedule. -/
def Scheduled (n : Nat) (s : Sensor (Recorded δ) π) : Prop :=
  ∃ p, s.engine = .kiss p ∧ s.store.motorCount = n ∧ KissPoller.OnSchedule n s.driver.asked p

/-- A new KISS sensor is on schedule over its capped motor count. -/
theorem scheduled_new (c : SensorConfig) (hc : c.protocol = .kiss) (d : δ) (port : Option π) :
    Scheduled (min (MotorDriver.motorCount d) maxMotors)
      (Sensor.new c ({ driver := d } : Recorded δ) port).1 := by
  refine ⟨{}, by simp [Sensor.new, Engine.ofConfig, hc], rfl, ?_, ?_, ?_⟩
  · simp [Sensor.new, roundRobin]
  · simp [Sensor.new]
  · simp [Sensor.new]

/-- Every call keeps a KISS sensor on schedule. -/
theorem Scheduled.call {n : Nat} {s : Sensor (Recorded δ) π} (h : Scheduled n s)
    (c : Call δ π) : Scheduled n (s.call c) := by
  obtain ⟨p, hp, hs⟩ := h
  refine kiss_call (P := fun st asked p => st.motorCount = n ∧ KissPoller.OnSchedule n asked p)
    ?_ ?_ ?_ hp hs c
  · rintro p e nowUs ⟨hn, hs⟩
    obtain ⟨-, -, hstore⟩ := p.process_spec nowUs e
    refine ⟨by rw [hstore, KissPoller.motorCount_record, hn], ?_⟩
    rw [← hn] at hs ⊢
    exact hs.process nowUs
  · rintro st asked p b ⟨hn, hround, hstart, hmotor⟩
    exact ⟨hn, hround, by simpa using hstart, by simpa using hmotor⟩
  · rintro st asked p ⟨hn, hs⟩
    exact ⟨by simp [hn], hs⟩

/-- A tick makes at most one request. -/
theorem asked_process {s : Sensor (Recorded δ) π} {p : KissPoller} (hp : s.engine = .kiss p)
    (nowUs : Nat) : ∃ extra, (s.call (.process nowUs)).driver.asked = s.driver.asked ++ extra ∧
      extra.length ≤ 1 := by
  simp only [Sensor.call, process_of_kiss hp]
  split
  · obtain ⟨-, hd, -⟩ := p.process_spec nowUs s.effects
    show ∃ extra, (p.process nowUs s.effects).2.driver.asked = s.driver.asked ++ extra ∧ _
    rw [hd]
    split
    · exact ⟨[], by simp [effects], by simp⟩
    · exact ⟨[_], rfl, by simp⟩
  · exact ⟨[], by simp, by simp⟩

/-- Over every run of a KISS sensor, the `j`-th request asks motor `j mod max(n, 1)`, where
`n` is the driver's motor count at the start capped at eight; a tick makes at most one
request; and the motor in flight is below `max(n, 1)`. -/
theorem requests_round_robin (c : SensorConfig) (hc : c.protocol = .kiss) (d : δ)
    (port : Option π) (calls : List (Call δ π)) :
    let n := min (MotorDriver.motorCount d) maxMotors
    let s := (Sensor.new c ({ driver := d } : Recorded δ) port).1.run calls
    (∀ j (hj : j < s.driver.asked.length), s.driver.asked[j] = j % max n 1) ∧
    (∀ nowUs, ∃ extra, (s.call (.process nowUs)).driver.asked = s.driver.asked ++ extra ∧
      extra.length ≤ 1) ∧
    ∃ p, s.engine = .kiss p ∧ p.motor < max n 1 := by
  intro n s
  have h : Scheduled n s :=
    run_induction (Scheduled n) (scheduled_new c hc d port) (fun _ c h => h.call c) calls
  obtain ⟨p, hp, -, hs⟩ := h
  refine ⟨fun j hj => ?_, fun nowUs => asked_process hp nowUs, p, hp, ?_⟩
  · rw [List.getElem_of_eq hs.round hj]
    exact getElem_roundRobin n _ j _
  · rw [hs.motor]
    exact Nat.mod_lt _ (by omega)

/-- Two motors, no replies: the first request at the end of the boot delay and one after each
timeout, motors 0, 1, 0. -/
theorem requests_round_robin_two_motors :
    ({} : SensorConfig).protocol = .kiss ∧
    let d : SimulatedMotors := { count := 2 }
    let n := min (MotorDriver.motorCount d) maxMotors
    let s := (Sensor.new {} ({ driver := d } : Recorded SimulatedMotors)
      (some CallbackOnlyPort.mk)).1.run [.process 5000000, .process 5100000, .process 5200000]
    (∀ j (hj : j < s.driver.asked.length), s.driver.asked[j] = j % max n 1) ∧
    (∀ nowUs, ∃ extra, (s.call (.process nowUs)).driver.asked = s.driver.asked ++ extra ∧
      extra.length ≤ 1) ∧
    ∃ p, s.engine = .kiss p ∧ p.motor < max n 1 :=
  ⟨rfl, requests_round_robin {} rfl _ _ _⟩

example : ((Sensor.new {} ({ driver := { count := 2 } } : Recorded SimulatedMotors)
    (some CallbackOnlyPort.mk)).1.run
      [.process 5000000, .process 5100000, .process 5200000]).driver.asked = [0, 1, 0] := by
  decide

/-- A KISS sensor whose counters account for its requests. -/
def Balanced (s : Sensor (Recorded δ) π) : Prop :=
  ∃ p, s.engine = .kiss p ∧ KissPoller.Accounted s.driver.asked p

theorem balanced_new (c : SensorConfig) (hc : c.protocol = .kiss) (d : δ) (port : Option π) :
    Balanced (Sensor.new c ({ driver := d } : Recorded δ) port).1 :=
  ⟨{}, by simp [Sensor.new, Engine.ofConfig, hc], ⟨by simp, by simp [Sensor.new, TelemetryStats.settled]⟩⟩

/-- Every call keeps a KISS sensor's counters in step with its requests. -/
theorem Balanced.call {s : Sensor (Recorded δ) π} (h : Balanced s) (c : Call δ π) :
    Balanced (s.call c) := by
  obtain ⟨p, hp, hs⟩ := h
  refine kiss_call (P := fun _ asked p => KissPoller.Accounted asked p)
    (fun p e nowUs h => h.process nowUs) ?_ (fun _ _ _ h => h) hp hs c
  rintro st asked p b ⟨hflight, hsettled⟩
  refine ⟨by simpa using hflight, ?_⟩
  rw [KissPoller.stats_receive, KissPoller.trigger_receive]
  exact hsettled

/-- The counters after a tick of a sensor on schedule. -/
theorem stats_call_process {n : Nat} {s : Sensor (Recorded δ) π} (h : Scheduled n s)
    (nowUs : Nat) :
    ((s.call (.process nowUs)).driver.asked = s.driver.asked ∨ s.driver.asked = [] →
      (s.call (.process nowUs)).stats = s.stats) ∧
    (s.driver.asked ≠ [] → (s.call (.process nowUs)).driver.asked ≠ s.driver.asked →
      ∃ o : KissPoller.Settled, (s.call (.process nowUs)).stats = o.count s.stats) := by
  obtain ⟨p, hp, -, hs⟩ := h
  simp only [Sensor.call, process_of_kiss hp]
  split
  · exact KissPoller.stats_process (e := s.effects) hs.startup nowUs |>.imp
      (fun h1 h2 => by simpa [hp, Sensor.stats, Engine.stats] using h1 h2)
      (fun h1 h2 h3 => by simpa [hp, Sensor.stats, Engine.stats] using h1 h2 h3)
  · exact ⟨fun _ => rfl, fun _ hne => absurd rfl hne⟩

/-- Over every run of a KISS sensor, the timeouts, refused frames and decoded frames
together count the requests made so far less the one in flight, modulo 2³²: a tick that
asks nothing, or makes the first request, changes no counter, and every later request
follows exactly one settlement, counted once. -/
theorem settled_requests_counted (c : SensorConfig) (hc : c.protocol = .kiss) (d : δ)
    (port : Option π) (calls : List (Call δ π)) :
    let s := (Sensor.new c ({ driver := d } : Recorded δ) port).1.run calls
    (∃ p, s.engine = .kiss p ∧
      s.stats.timeouts + s.stats.crcErrors + s.stats.framesDecoded =
        UInt32.ofNat (s.driver.asked.length - if p.trigger = .pending then 1 else 0)) ∧
    ∀ nowUs,
      ((s.call (.process nowUs)).driver.asked = s.driver.asked ∨ s.driver.asked = [] →
        (s.call (.process nowUs)).stats = s.stats) ∧
      (s.driver.asked ≠ [] → (s.call (.process nowUs)).driver.asked ≠ s.driver.asked →
        ∃ o : KissPoller.Settled, (s.call (.process nowUs)).stats = o.count s.stats) := by
  intro s
  have hbal : Balanced s :=
    run_induction Balanced (balanced_new c hc d port) (fun _ c h => h.call c) calls
  have hsched : Scheduled (min (MotorDriver.motorCount d) maxMotors) s :=
    run_induction _ (scheduled_new c hc d port) (fun _ c h => h.call c) calls
  obtain ⟨p, hp, hacc⟩ := hbal
  refine ⟨⟨p, hp, ?_⟩, stats_call_process hsched⟩
  simpa [Sensor.stats, hp, Engine.stats, TelemetryStats.settled] using hacc.settled

/-- Two motors, a refused reply and then a timeout: two settled requests and one in flight. -/
theorem settled_requests_counted_refused_then_late :
    ({} : SensorConfig).protocol = .kiss ∧
    let s := (Sensor.new {} ({ driver := { count := 2 } } : Recorded SimulatedMotors)
      (some CallbackOnlyPort.mk)).1.run
        ([.process 5000000] ++ (List.replicate 10 (.receive 0)) ++
          [.process 5001000, .process 5200000])
    (∃ p, s.engine = .kiss p ∧
      s.stats.timeouts + s.stats.crcErrors + s.stats.framesDecoded =
        UInt32.ofNat (s.driver.asked.length - if p.trigger = .pending then 1 else 0)) ∧
    ∀ nowUs,
      ((s.call (.process nowUs)).driver.asked = s.driver.asked ∨ s.driver.asked = [] →
        (s.call (.process nowUs)).stats = s.stats) ∧
      (s.driver.asked ≠ [] → (s.call (.process nowUs)).driver.asked ≠ s.driver.asked →
        ∃ o : KissPoller.Settled, (s.call (.process nowUs)).stats = o.count s.stats) :=
  ⟨rfl, settled_requests_counted {} rfl _ _ _⟩

end Sensor

end EscTelemetry
