import EscTelemetry.Proofs.KissRecords
import EscTelemetry.Proofs.KissTiming
import EscTelemetry.Proofs.CrcDetection
import EscTelemetry.Bench.Run

/-!
# The closed loop of a KISS sensor and a simulated bus

On a KISS bench the simulated bus is the sensor's motor driver, and its replies reach the
sensor's receiver. A turn of the loop (`Sensor.loopTurn`, what a bench tick does:
`KissBench.sensor_tick`) moves the bus on to the turn's time, hands the bytes of a reply that
has come due to the receiver, and then ticks the sensor, which may settle the request in
flight and ask the next motor.

`loop_decodes_only_delivered_replies`: over every run, whatever the times and whatever the
bus's ESCs, faults, latency and generator, a turn whose tick decodes a frame has stored the
reply the bus delivered in that same turn, undamaged, in the record of the motor the reply
answers, as the frame that motor's ESC reports as of the turn's step, and has changed no other
record; and the frames decoded never outnumber the turns in which a reply was delivered.

Three facts carry it. A delivery is one whole frame, or one with a single bit flipped in its
first nine bytes (`KissBus.damage_eq_corrupt`), which the check always refuses
(`KissFrame.parse_refuses_few_flips`). A request re-arms the buffer and takes any older reply
off the wire, so between turns a reply on the wire answers the motor in flight and the buffer
is empty (`Sensor.Between`). And the tick of the turn that delivers a reply settles it: a
decoded frame is always this turn's delivery (`Sensor.Between.accepted`). What a turn does is
said once, in `Sensor.loopTurn_spec`.
-/

set_option linter.unusedSectionVars false

namespace EscTelemetry

/-! ## The bus -/

namespace KissBus

/-- The error pattern with bit `k` of byte `spot` set. -/
def bitFlip (spot : Nat) (k : UInt8) : Vector UInt8 10 :=
  Vector.ofFn fun i => if i.val = spot then 1 <<< k else 0

theorem count_frameBits_bitFlip {spot : Nat} (hspot : spot < 9) {k : UInt8} (hk : k.toNat < 8) :
    (KissFrame.frameBits (bitFlip spot k)).count true = 1 := by
  have hall : ∀ s < 9, ∀ n < 8, (KissFrame.frameBits (bitFlip s (UInt8.ofNat n))).count true = 1 := by
    decide
  have := hall spot hspot k.toNat hk
  rwa [UInt8.ofNat_toNat] at this

/-- Damage flips bit `k` of byte `spot`, for a `spot` among the first nine bytes and a `k`
below eight. -/
theorem damage_eq_corrupt_bitFlip (raw : Vector UInt8 10) (g : XorShift) :
    ∃ spot < 9, ∃ k : UInt8, k.toNat < 8 ∧
      (damage raw g).1 = KissFrame.corrupt raw (bitFlip spot k) := by
  unfold damage
  dsimp only
  have hspot : (g.next.1 % 9).toNat < 9 := by
    rw [UInt32.toNat_mod]
    exact Nat.mod_lt _ (by decide)
  have hbit : (g.next.2.next.1 % 8).toUInt8.toNat < 8 := by
    simp only [UInt32.toNat_toUInt8, UInt32.toNat_mod, UInt32.reduceToNat]
    omega
  refine ⟨(g.next.1 % 9).toNat, hspot, (g.next.2.next.1 % 8).toUInt8, hbit, ?_⟩
  generalize (g.next.1 % 9).toNat = spot at hspot ⊢
  generalize (g.next.2.next.1 % 8).toUInt8 = k
  rw [dif_pos (by omega)]
  apply Vector.ext
  intro i hi
  by_cases h : i = spot
  · subst h
    simp [KissFrame.corrupt, bitFlip]
  · simp [KissFrame.corrupt, bitFlip, h, Ne.symm h]

/-- Damage flips one bit of one of the first nine bytes: a corruption by an error pattern
with one set bit. -/
theorem damage_eq_corrupt (raw : Vector UInt8 10) (g : XorShift) :
    ∃ e, (KissFrame.frameBits e).count true = 1 ∧ (damage raw g).1 = KissFrame.corrupt raw e := by
  obtain ⟨spot, hspot, k, hk, hdamage⟩ := damage_eq_corrupt_bitFlip raw g
  exact ⟨bitFlip spot k, count_frameBits_bitFlip hspot hk, hdamage⟩

/-- A step moves the clock on and lets every ESC integrate its current; besides that it only
takes the reply off the wire and may draw from the generator. -/
theorem step_fst (b : KissBus) (now : UInt64) :
    ∃ dtH reply g, (b.step now).1 = { b with
        nowUs := now, escs := b.escs.map (SimulatedEsc.integrate dtH), pending := reply,
        rng := g } ∧
      (reply = b.pending ∨ reply = none) := by
  unfold step
  dsimp only
  split
  · exact ⟨_, _, _, rfl, .inl rfl⟩
  · split
    · exact ⟨_, _, _, rfl, .inl rfl⟩
    · split
      · split
        · exact ⟨_, _, _, rfl, .inr rfl⟩
        · exact ⟨_, _, _, rfl, .inr rfl⟩
      · exact ⟨_, _, _, rfl, .inr rfl⟩

/-- What a step delivers: nothing, or the reply on the wire, whole or with one bit flipped,
made from the frame its ESC reports after the step. -/
theorem step_delivers (b : KissBus) (now : UInt64) :
    (b.step now).2 = [] ∨
    ∃ r f, b.pending = some r ∧ (b.step now).1.frame? r.motor = some f ∧
      ((r.corrupt = false ∧ (b.step now).2 = f.toBytes.toList) ∨
        (r.corrupt = true ∧ ∃ e, (KissFrame.frameBits e).count true = 1 ∧
          (b.step now).2 = (KissFrame.corrupt f.toBytes e).toList)) := by
  unfold step
  dsimp only
  split
  · exact .inl rfl
  · rename_i r hr
    split
    · exact .inl rfl
    · split
      · rename_i esc hesc
        split
        · exact .inl rfl
        · right
          refine ⟨r, esc.frame, hr, by simp [frame?, hesc], ?_⟩
          cases hc : r.corrupt
          · exact .inl ⟨rfl, by simp⟩
          · obtain ⟨e, hone, hdamage⟩ := damage_eq_corrupt esc.frame.toBytes b.rng
            exact .inr ⟨rfl, e, hone, by simp [hdamage]⟩
      · exact .inl rfl

/-- A motor with a frame has an ESC. -/
theorem lt_size_of_frame? {b : KissBus} {m : Nat} {f : KissFrame} (h : b.frame? m = some f) :
    m < b.escs.size := by
  simp only [frame?, Option.map_eq_some_iff, Array.getElem?_eq_some_iff] at h
  obtain ⟨esc, ⟨hm, -⟩, -⟩ := h
  exact hm

theorem requestTelemetry_eq (b : KissBus) (m : Nat) :
    MotorDriver.requestTelemetry b m = b.request m := rfl

@[simp]
theorem size_escs_step (b : KissBus) (now : UInt64) : (b.step now).1.escs.size = b.escs.size := by
  obtain ⟨dtH, reply, g, hbus, -⟩ := b.step_fst now
  simp [hbus]

@[simp]
theorem motorsEnabled_step (b : KissBus) (now : UInt64) :
    MotorDriver.motorsEnabled (b.step now).1 = MotorDriver.motorsEnabled b := by
  obtain ⟨dtH, reply, g, hbus, -⟩ := b.step_fst now
  rw [hbus]
  rfl

/-- A reply still on the wire after a step was on it before. -/
theorem pending_step {b : KissBus} {now : UInt64} {r : PendingReply}
    (h : (b.step now).1.pending = some r) : b.pending = some r := by
  obtain ⟨dtH, reply, g, hbus, hreply⟩ := b.step_fst now
  rw [hbus] at h
  rcases hreply with rfl | rfl
  · exact h
  · cases h

@[simp]
theorem escs_request (b : KissBus) (m : Nat) : (b.request m).escs = b.escs := by
  unfold request
  dsimp only
  split <;> rfl

@[simp]
theorem motorsEnabled_request (b : KissBus) (m : Nat) :
    MotorDriver.motorsEnabled (b.request m) = MotorDriver.motorsEnabled b := by
  unfold request
  dsimp only
  split <;> rfl

/-- A request puts on the wire at most a reply from the motor asked. -/
theorem motor_of_pending_request {b : KissBus} {m : Nat} {r : PendingReply}
    (h : (b.request m).pending = some r) : r.motor = m := by
  unfold request at h
  dsimp only at h
  split at h
  · cases h
  · cases h
    rfl

/-- Every delivery is one whole frame's ten bytes. -/
theorem length_step (b : KissBus) (now : UInt64) :
    (b.step now).2 = [] ∨ (b.step now).2.length = 10 := by
  rcases step_delivers b now with hnil | ⟨r, f, -, -, ⟨-, hbytes⟩ | ⟨-, e, -, hbytes⟩⟩
  · exact .inl hnil
  · exact .inr (by simp [hbytes])
  · exact .inr (by simp [hbytes])

end KissBus

/-! ## The receive path -/

namespace CaptureBuffer

/-- A buffer armed for no bytes takes none. -/
theorem foldl_push_of_length_zero {b : CaptureBuffer} (h : b.length = 0) (xs : List UInt8) :
    xs.foldl push b = b := by
  induction xs with
  | nil => rfl
  | cons x xs ih =>
    have hc : b.isComplete = true := by
      have := b.position_le
      simp only [isComplete, beq_iff_eq]
      omega
    rw [List.foldl_cons, push_of_isComplete hc, ih]

theorem Holds.pushAll {b : CaptureBuffer} {reply : List UInt8} (h : b.Holds reply) (xs : List UInt8) :
    (xs.foldl CaptureBuffer.push b).Holds (reply ++ xs) := by
  induction xs generalizing b reply with
  | nil => simpa using h
  | cons x xs ih => simpa using ih (h.push x)

end CaptureBuffer

theorem firstFrame_toList (v : Vector UInt8 10) (h : kissFrameSize ≤ v.toList.length) :
    firstFrame v.toList h = v := by
  apply Vector.ext
  intro i hi
  simp [firstFrame]

namespace KissBus

/-- A frame accepted from a buffer that holds what one step delivered is the reply on the wire,
undamaged: the frame its ESC reports after the step. -/
theorem accepted_of_step {b : KissBus} {now : UInt64} {buf : CaptureBuffer}
    (hholds : buf.Holds (b.step now).2) (hc : buf.isComplete = true) {f : KissFrame}
    (hf : KissFrame.parse buf.frame = .ok f) :
    ∃ r, b.pending = some r ∧ r.corrupt = false ∧ (b.step now).2 = f.toBytes.toList ∧
      (b.step now).1.frame? r.motor = some f := by
  have hten := hholds.isComplete_iff.1 hc
  rw [hholds.frame_eq hten] at hf
  rcases step_delivers b now with hnil | ⟨r, f₀, hr, hframe, ⟨hclean, hbytes⟩ | ⟨-, e, hone, hbytes⟩⟩
  · simp [hnil, kissFrameSize] at hten
  · simp only [hbytes, firstFrame_toList, KissFrame.parse_toBytes, Except.ok.injEq] at hf
    subst hf
    exact ⟨r, hr, hclean, hbytes, hframe⟩
  · simp only [hbytes, firstFrame_toList] at hf
    obtain ⟨computed, carried, hbad⟩ := KissFrame.parse_refuses_few_flips f₀ e (by omega) (by omega)
    rw [hbad] at hf
    cases hf

/-- A buffer that holds what a step delivered but is not complete holds nothing: every delivery
is a whole frame. -/
theorem eq_nil_of_incomplete {b : KissBus} {now : UInt64} {buf : CaptureBuffer}
    (hholds : buf.Holds (b.step now).2) (hinc : buf.isComplete = false) : (b.step now).2 = [] := by
  rcases length_step b now with hnil | hten
  · exact hnil
  · have hc := hholds.isComplete_iff.2 (by rw [hten]; decide)
    rw [hinc] at hc
    cases hc

end KissBus

/-! ## Ticks of the poller -/

namespace KissPoller

theorem foldl_receive (p : KissPoller) (bytes : List UInt8) :
    bytes.foldl receive p = { p with frame := bytes.foldl CaptureBuffer.push p.frame } := by
  induction bytes generalizing p with
  | nil => rfl
  | cons b bytes ih => simp [ih, receive]

theorem isComplete_of_tick_wait {p : KissPoller} {nowMs : Nat} (h : p.trigger = .pending)
    (hwait : p.tick nowMs = .wait) : p.frame.isComplete = false := by
  have hearly := lt_of_tick_wait h hwait
  cases hc : p.frame.isComplete
  · rfl
  · simp only [tick, h, hearly, if_true, hc] at hwait
    split at hwait <;> cases hwait

theorem motor_advance {p : KissPoller} {count : Nat} (h : p.motor = 0 ∨ p.motor < count)
    (nowMs : Nat) (t : Tick) :
    (p.advance nowMs count t).motor = 0 ∨ (p.advance nowMs count t).motor < count := by
  cases t with
  | wait | boot => exact h
  | settle o =>
    simp only [advance, selectNext, motor_rearm]
    split <;> omega

theorem holds_advance (p : KissPoller) (nowMs count : Nat) {t : Tick} (ht : t ≠ .wait) :
    (p.advance nowMs count t).frame.Holds [] := by
  cases t with
  | wait => exact absurd rfl ht
  | boot | settle => exact CaptureBuffer.holds_startCapture _

theorem framesDecoded_advance {p : KissPoller} {nowMs count : Nat} {t : Tick}
    (ht : ∀ f, t ≠ .settle (.accept f)) :
    (p.advance nowMs count t).stats.framesDecoded = p.stats.framesDecoded := by
  cases t with
  | wait | boot => rfl
  | settle o =>
    cases o with
    | accept f => exact absurd rfl (ht f)
    | refuse | timeout => rfl

end KissPoller

/-! ## The loop -/

namespace Sensor

variable {π : Type} [SerialPort π]

/-- One turn of the closed loop at `now`: the bus moves on to `now` and hands what it delivers
to the receiver, then the sensor ticks. -/
def loopTurn (s : Sensor KissBus π) (now : UInt64) : Sensor KissBus π :=
  let (bus, bytes) := s.driver.step now
  ((bytes.foldl receive { s with driver := bus }).process now.toNat).1

/-- The sensor after a turn at each of `times`, in order. -/
def loop (s : Sensor KissBus π) (times : List UInt64) : Sensor KissBus π :=
  times.foldl loopTurn s

/-- How many of the turns at `times` the bus delivered a reply in. -/
def deliveries (s : Sensor KissBus π) : List UInt64 → Nat
  | [] => 0
  | now :: times => (if (s.driver.step now).2 = [] then 0 else 1) + (s.loopTurn now).deliveries times

/-- The turn at `now` from `s` to `s'` stored the reply the bus delivered in it: undamaged, in
the record of the motor it answers, with the frame that motor's ESC reports as of the step;
no other record changed. -/
def StoresReply (s s' : Sensor KissBus π) (now : UInt64) : Prop :=
  ∃ r f, s.driver.pending = some r ∧ r.corrupt = false ∧ (s.driver.step now).2 = f.toBytes.toList ∧
    (s.driver.step now).1.frame? r.motor = some f ∧ s'.store.get? r.motor = some f.reading.toSample ∧
    ∀ m ≠ r.motor, s'.store.get? m = s.store.get? m

theorem foldl_receive_of_kiss {δ : Type} [MotorDriver δ] {s : Sensor δ π} {p : KissPoller}
    (h : s.engine = .kiss p) (bytes : List UInt8) :
    bytes.foldl receive s = { s with engine := .kiss (bytes.foldl KissPoller.receive p) } := by
  induction bytes generalizing s p with
  | nil =>
    rcases s with ⟨engine, driver, port, store, debug⟩
    cases h
    rfl
  | cons b bytes ih => rw [List.foldl_cons, receive_of_kiss h, ih rfl]; rfl

theorem loopTurn_of_kiss {s : Sensor KissBus π} {p : KissPoller} (h : s.engine = .kiss p)
    (now : UInt64) :
    s.loopTurn now = (({ s with
        driver := (s.driver.step now).1,
        engine := .kiss ((s.driver.step now).2.foldl KissPoller.receive p) } :
      Sensor KissBus π).process now.toNat).1 := by
  rw [loopTurn]
  rcases s.driver.step now with ⟨bus, bytes⟩
  dsimp only
  rw [foldl_receive_of_kiss (by exact h)]

/-- Between turns of the loop: the sensor runs the KISS poller `p`, its store counts the bus's
motors, up to eight, and the motor in flight is one of them (or motor 0); while the poller waits
for the boot delay its buffer takes no bytes, and once a request is in flight the sensor runs
every turn, the buffer is armed and empty, and a reply on the wire answers the motor in flight. -/
structure Between (s : Sensor KissBus π) (p : KissPoller) : Prop where
  engine : s.engine = .kiss p
  count : s.store.motorCount = min s.driver.escs.size maxMotors
  motor : p.motor = 0 ∨ p.motor < s.store.motorCount
  idle : p.trigger = .startup → p.frame.length = 0
  armed : p.trigger = .pending → s.Processed ∧ p.frame.Holds [] ∧
    ∀ r, s.driver.pending = some r → r.motor = p.motor

theorem between_new (c : SensorConfig) (hc : c.protocol = .kiss) (bus : KissBus)
    (port : Option π) : Between (Sensor.new c bus port).1 {} where
  engine := by simp [Sensor.new, Engine.ofConfig, hc]
  count := rfl
  motor := .inl rfl
  idle _ := rfl
  armed := nofun

/-- Everything a turn does: the bytes the bus delivers reach the poller's buffer; a sensor that
runs then ticks the poller, which may ask the bus for the next reply, and the tick's record
change goes to the store. -/
theorem loopTurn_spec {s : Sensor KissBus π} {p : KissPoller} (h : s.engine = .kiss p)
    (now : UInt64) :
    let q : KissPoller := { p with frame := (s.driver.step now).2.foldl CaptureBuffer.push p.frame }
    let t := q.tick (now.toNat / 1000)
    let q' := if s.Processed then q.advance (now.toNat / 1000) s.store.motorCount t else q
    (s.loopTurn now).engine = .kiss q' ∧
      (s.loopTurn now).driver =
        (if s.Processed ∧ t ≠ .wait then (s.driver.step now).1.request q'.motor
          else (s.driver.step now).1) ∧
      (s.loopTurn now).store = (if s.Processed then t.record q.motor s.store else s.store) ∧
      (s.loopTurn now).port = s.port := by
  intro q t q'
  rw [loopTurn_of_kiss h, process_of_kiss rfl, KissPoller.foldl_receive]
  by_cases hrun : s.Processed
  · rw [if_pos (by simpa [Processed] using hrun)]
    let e := ({ s with driver := (s.driver.step now).1, engine := .kiss q } : Sensor KissBus π).effects
    obtain ⟨hq', hd, hs⟩ := q.process_spec now.toNat e
    have hq'' : q' = q.advance (now.toNat / 1000) s.store.motorCount t := if_pos hrun
    refine ⟨?_, ?_, ?_, rfl⟩
    · show Engine.kiss (q.process now.toNat e).1 = _
      rw [hq', hq'']
      rfl
    · show (q.process now.toNat e).2.driver = _
      rw [hd, hq', hq'']
      by_cases hw : t = .wait
      · simp [t, hw, e, effects]
      · simp [t, hw, hrun, e, effects, KissBus.requestTelemetry_eq]
    · show (q.process now.toNat e).2.store = _
      rw [hs, if_pos hrun]
      rfl
  · rw [if_neg (by simpa [Processed] using hrun)]
    have hq'' : q' = q := if_neg hrun
    exact ⟨by rw [hq''], by simp [hrun], by simp [hrun], rfl⟩

/-- With a request in flight, the buffer holds what the turn's step delivered. -/
theorem Between.holds_step {s : Sensor KissBus π} {p : KissPoller} (h : Between s p)
    (hp : p.trigger = .pending) (now : UInt64) :
    ((s.driver.step now).2.foldl CaptureBuffer.push p.frame).Holds (s.driver.step now).2 := by
  simpa using (h.armed hp).2.1.pushAll (s.driver.step now).2

/-- A frame the turn's tick accepts is the undamaged reply the step delivered, from the motor
in flight, which has a record. -/
theorem Between.accepted {s : Sensor KissBus π} {p : KissPoller} (h : Between s p)
    {now : UInt64} {f : KissFrame}
    (ht : ({ p with frame := (s.driver.step now).2.foldl CaptureBuffer.push p.frame } :
      KissPoller).tick (now.toNat / 1000) = .settle (.accept f)) :
    ∃ r, s.driver.pending = some r ∧ r.corrupt = false ∧ (s.driver.step now).2 = f.toBytes.toList ∧
      (s.driver.step now).1.frame? r.motor = some f ∧ r.motor = p.motor ∧
      p.motor < s.store.motorCount := by
  obtain ⟨-, hc, hf⟩ := KissPoller.tick_accept ht
  have hp := KissPoller.trigger_of_tick_settle ht
  obtain ⟨r, hr, hclean, hbytes, hframe⟩ := KissBus.accepted_of_step (h.holds_step hp now) hc hf
  have hmotor := (h.armed hp).2.2 r hr
  refine ⟨r, hr, hclean, hbytes, hframe, hmotor, ?_⟩
  have hlt := KissBus.lt_size_of_frame? hframe
  have hcount := h.count
  have hin := h.motor
  rw [KissBus.size_escs_step] at hlt
  unfold maxMotors at hcount
  omega

/-- A turn that does not run the sensor only moves the bus on: no request was ever made, so the
poller still waits for the boot delay and its buffer takes nothing. -/
theorem Between.turn_of_not_processed {s : Sensor KissBus π} {p : KissPoller} (h : Between s p)
    (hrun : ¬ s.Processed) (now : UInt64) : Between (s.loopTurn now) p := by
  obtain ⟨heng, hdrv, hstore, -⟩ := loopTurn_spec h.engine now
  have hstart : p.trigger = .startup := by
    cases hp : p.trigger
    · rfl
    · exact absurd (h.armed hp).1 hrun
  rw [if_neg hrun, CaptureBuffer.foldl_push_of_length_zero (h.idle hstart)] at heng
  rw [if_neg hrun] at hstore
  rw [if_neg fun hc => hrun hc.1] at hdrv
  refine ⟨heng, ?_, by rw [hstore]; exact h.motor, h.idle, fun hp => ?_⟩
  · rw [hstore, hdrv, KissBus.size_escs_step, h.count]
  · rw [hstart] at hp
    cases hp

/-- After a turn that ran the sensor, a request in flight has an empty buffer, and a reply on the
wire answers it: either the tick waited, and then nothing was delivered, or it made the request. -/
theorem Between.armed_of_processed {s : Sensor KissBus π} {p : KissPoller} (h : Between s p)
    (hrun : s.Processed) (now : UInt64) :
    let q : KissPoller := { p with frame := (s.driver.step now).2.foldl CaptureBuffer.push p.frame }
    let q' := q.advance (now.toNat / 1000) s.store.motorCount (q.tick (now.toNat / 1000))
    q'.trigger = .pending → q'.frame.Holds [] ∧
      ∀ r, (s.loopTurn now).driver.pending = some r → r.motor = q'.motor := by
  intro q q' hpend
  obtain ⟨-, hdrv, -, -⟩ := loopTurn_spec h.engine now
  rw [if_pos hrun] at hdrv
  by_cases hw : q.tick (now.toNat / 1000) = .wait
  · have hq' : q' = q := by simp only [q', hw]; rfl
    rw [hq'] at hpend ⊢
    have hbuf := h.holds_step hpend now
    have hnone := KissBus.eq_nil_of_incomplete hbuf (KissPoller.isComplete_of_tick_wait hpend hw)
    rw [if_neg fun hc => hc.2 hw] at hdrv
    refine ⟨hnone ▸ hbuf, fun r hr => ?_⟩
    rw [hdrv] at hr
    exact (h.armed hpend).2.2 r (KissBus.pending_step hr)
  · rw [if_pos ⟨hrun, hw⟩] at hdrv
    refine ⟨KissPoller.holds_advance _ _ _ hw, fun r hr => ?_⟩
    rw [hdrv] at hr
    exact KissBus.motor_of_pending_request hr

/-- A turn that runs the sensor keeps the invariant; its tick either decodes no frame or stores
the reply the bus delivered in the turn. -/
theorem Between.turn_of_processed {s : Sensor KissBus π} {p : KissPoller} (h : Between s p)
    (hrun : s.Processed) (now : UInt64) :
    ∃ p', Between (s.loopTurn now) p' ∧
      (p'.stats.framesDecoded = p.stats.framesDecoded ∨
        p'.stats.framesDecoded = p.stats.framesDecoded + 1 ∧ StoresReply s (s.loopTurn now) now) := by
  obtain ⟨heng, hdrv, hstore, hport⟩ := loopTurn_spec h.engine now
  set q : KissPoller := { p with frame := (s.driver.step now).2.foldl CaptureBuffer.push p.frame }
  set t := q.tick (now.toNat / 1000) with ht
  rw [if_pos hrun] at heng hstore hdrv
  have hsize : (s.loopTurn now).driver.escs.size = s.driver.escs.size := by
    rw [hdrv]
    split <;> simp
  have hon : MotorDriver.motorsEnabled (s.loopTurn now).driver =
      MotorDriver.motorsEnabled s.driver := by
    rw [hdrv]
    split <;> simp
  refine ⟨_, ⟨heng, ?_, ?_, ?_, fun hpend => ?_⟩, ?_⟩
  · rw [hstore, KissPoller.motorCount_record, hsize, h.count]
  · rw [hstore, KissPoller.motorCount_record]
    exact KissPoller.motor_advance (p := q) h.motor _ _
  · intro hs
    rw [KissPoller.trigger_advance] at hs
    split at hs
    · rename_i hw
      rw [hw]
      show ((s.driver.step now).2.foldl CaptureBuffer.push p.frame).length = 0
      rw [CaptureBuffer.foldl_push_of_length_zero (h.idle hs)]
      exact h.idle hs
    · cases hs
  · exact ⟨⟨by rw [hport]; exact hrun.1, by rw [hon]; exact hrun.2⟩,
      h.armed_of_processed hrun now hpend⟩
  · by_cases hacc : ∃ f, t = .settle (.accept f)
    · obtain ⟨f, hf⟩ := hacc
      obtain ⟨r, hr, hclean, hbytes, hframe, hrm, hm⟩ := h.accepted (hf ▸ ht.symm)
      refine .inr ⟨by rw [hf]; rfl, r, f, hr, hclean, hbytes, hframe, ?_, fun m hne => ?_⟩
      · rw [hstore, hf, hrm, KissPoller.Tick.record, Store.get?_update_self hm]
      · rw [hstore, hf, KissPoller.Tick.record, Store.get?_update_of_ne (hrm ▸ Ne.symm hne)]
    · exact .inl (KissPoller.framesDecoded_advance fun f hf => hacc ⟨f, hf⟩)

/-- One turn keeps the invariant; the poller's count of decoded frames either stays or grows by
one in a turn that stored the reply the bus delivered in it. -/
theorem Between.turn {s : Sensor KissBus π} {p : KissPoller} (h : Between s p) (now : UInt64) :
    ∃ p', Between (s.loopTurn now) p' ∧
      (p'.stats.framesDecoded = p.stats.framesDecoded ∨
        p'.stats.framesDecoded = p.stats.framesDecoded + 1 ∧ StoresReply s (s.loopTurn now) now) := by
  by_cases hrun : s.Processed
  · exact h.turn_of_processed hrun now
  · exact ⟨p, h.turn_of_not_processed hrun now, .inl rfl⟩

/-- Over every run of the loop the invariant holds, and the poller decodes at most one frame in
each turn in which the bus delivered a reply. -/
theorem Between.loop {s : Sensor KissBus π} {p : KissPoller} (h : Between s p) (times : List UInt64) :
    ∃ p', Between (s.loop times) p' ∧
      p'.stats.framesDecoded.toNat ≤ p.stats.framesDecoded.toNat + s.deliveries times := by
  induction times generalizing s p with
  | nil => exact ⟨p, h, by simp [deliveries]⟩
  | cons now times ih =>
    obtain ⟨p₁, h₁, hturn⟩ := h.turn now
    obtain ⟨p', h', hle⟩ := ih h₁
    refine ⟨p', h', ?_⟩
    have hstep : p₁.stats.framesDecoded.toNat ≤
        p.stats.framesDecoded.toNat + if (s.driver.step now).2 = [] then 0 else 1 := by
      rcases hturn with hsame | ⟨hsucc, r, f, -, -, hbytes, -⟩
      · rw [hsame]
        omega
      · rw [hsucc, if_neg (by simp [hbytes]), UInt32.toNat_add]
        exact Nat.mod_le _ _
    simp only [deliveries] at hle ⊢
    omega

/-- In the closed loop of a KISS sensor and a simulated bus, over any times and whatever the
bus's faults, latency and generator: a turn that decodes a frame has stored the reply the bus
delivered in that turn, which was not damaged, in the record of the motor it answers, as the
frame that motor's ESC reports as of the turn's step, and changed no other record; and the
frames decoded never outnumber the turns that delivered a reply. -/
theorem loop_decodes_only_delivered_replies (c : SensorConfig) (hc : c.protocol = .kiss)
    (bus : KissBus) (port : Option π) (times : List UInt64) (now : UInt64) :
    let s₀ := (Sensor.new c bus port).1
    let s := s₀.loop times
    let s' := s.loopTurn now
    (s'.stats.framesDecoded = s.stats.framesDecoded + 1 →
      ∃ r f, s.driver.pending = some r ∧ r.corrupt = false ∧
        (s.driver.step now).2 = f.toBytes.toList ∧
        (s.driver.step now).1.frame? r.motor = some f ∧
        s'.store.get? r.motor = some f.reading.toSample ∧
        ∀ m ≠ r.motor, s'.store.get? m = s.store.get? m) ∧
    s.stats.framesDecoded.toNat ≤ s₀.deliveries times := by
  intro s₀ s s'
  obtain ⟨p, hp, hcount⟩ := (between_new c hc bus port).loop times
  obtain ⟨p', hp', hturn⟩ := hp.turn now
  have hstats : s.stats = p.stats := by simp [s, s₀, stats, Engine.stats, hp.engine]
  have hstats' : s'.stats = p'.stats := by simp [s', s, s₀, stats, Engine.stats, hp'.engine]
  refine ⟨fun hsucc => ?_, ?_⟩
  · rcases hturn with hsame | ⟨-, hstores⟩
    · rw [hstats', hstats, hsame] at hsucc
      have := congrArg UInt32.toNat hsucc
      rw [UInt32.toNat_add] at this
      simp at this
      omega
    · exact hstores
  · rw [hstats]
    simpa using hcount

/-- Four motors on a bus that drops a fifth of the requests and damages three replies in ten,
answering after 2 ms, with ticks every millisecond from the end of the boot delay. -/
theorem loop_decodes_only_delivered_replies_lossy_bus :
    ({} : SensorConfig).protocol = .kiss ∧
    let s₀ := (Sensor.new {} (((KissBus.new 4).withFaults ⟨0.2, 0.3⟩ 7).withLatencyUs 2000).attach
      (some CallbackOnlyPort.mk)).1
    let s := s₀.loop [5000000, 5001000, 5002000, 5003000]
    let s' := s.loopTurn 5004000
    (s'.stats.framesDecoded = s.stats.framesDecoded + 1 →
      ∃ r f, s.driver.pending = some r ∧ r.corrupt = false ∧
        (s.driver.step 5004000).2 = f.toBytes.toList ∧
        (s.driver.step 5004000).1.frame? r.motor = some f ∧
        s'.store.get? r.motor = some f.reading.toSample ∧
        ∀ m ≠ r.motor, s'.store.get? m = s.store.get? m) ∧
    s.stats.framesDecoded.toNat ≤ s₀.deliveries [5000000, 5001000, 5002000, 5003000] :=
  ⟨rfl, loop_decodes_only_delivered_replies {} rfl _ _ _ _⟩

end Sensor

/-- A bench tick is a turn of the loop at the clock's new time. -/
theorem KissBench.sensor_tick (b : KissBench) (tickMs : UInt64) :
    (b.tick tickMs).1.sensor = b.sensor.loopTurn (b.clock.advanceMs tickMs).1 := rfl

end EscTelemetry
