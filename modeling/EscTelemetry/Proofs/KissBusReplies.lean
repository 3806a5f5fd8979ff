import EscTelemetry.Proofs.KissLoop

/-!
# What the simulated KISS bus delivers

The bus is driven by two calls (`BusCall`): a telemetry request to a motor, and a step of
simulated time. Over every sequence of calls:

* every delivery answers the last request before it, which was not dropped, comes at the first
  step since that delivers anything, and carries the asked motor's frame as of that step, whole
  or, when the request marked it, with exactly one bit flipped in one of its first nine bytes
  (`KissBus.delivered_ne_nil`); so a dropped or superseded request is never answered;
* a request made at clock `t` that is not dropped is answered by the first step at or after
  `t + latencyUs`, provided no request comes first, the bus is attached and the motor exists
  (`KissBus.delivered_of_due`), whenever that sum fits in 64 bits: the due time is a wrapping
  64-bit sum;
* the count of each of the eight motors goes up by one per request to it, and the log holds
  the requested motors in order, up to its first 4096 entries (`KissBus.requestCount_afterCalls`,
  `KissBus.requestLog_afterCalls`).

The bus holds one reply slot, so at most one reply is ever on the wire. What a step does to
the slot is said once, in `KissBus.step_cases`; the run lemmas follow the calls one by one, the
attribution through the invariant `KissBus.PutBy`.
-/

namespace EscTelemetry

/-- A call on the bus: a telemetry request, or simulated time moving on. -/
inductive BusCall where
  | request (motor : Nat)
  | step (nowUs : UInt64)
deriving DecidableEq

/-- The motor a call asks for, if it is a request. -/
def BusCall.motor? : BusCall → Option Nat
  | .request m => some m
  | .step _ => none

namespace KissBus

/-- A call, with the bytes it hands to the receiver. -/
def call (b : KissBus) : BusCall → KissBus × List UInt8
  | .request m => (b.request m, [])
  | .step now => b.step now

/-- The bus after calls, in order. -/
def afterCalls (b : KissBus) (calls : List BusCall) : KissBus :=
  calls.foldl (fun b c => (b.call c).1) b

/-- The bytes call number `j` hands to the receiver. -/
def delivered (b : KissBus) (calls : List BusCall) (j : Nat) : List UInt8 :=
  match calls[j]? with
  | some c => ((b.afterCalls (calls.take j)).call c).2
  | none => []

/-- `bytes` are the frame `f` as a reply carries it: whole, or, when the reply was marked to be
damaged, with exactly one bit flipped: bit `k` of byte `spot`, one of the first nine bytes. -/
def Carries (f : KissFrame) (corrupt : Bool) (bytes : List UInt8) : Prop :=
  if corrupt then
    ∃ spot < 9, ∃ k : UInt8, k.toNat < 8 ∧
      bytes = (KissFrame.corrupt f.toBytes (bitFlip spot k)).toList
  else bytes = f.toBytes.toList

/-- When a reply to a request made now falls due, in exact arithmetic. -/
def replyDue (b : KissBus) : Nat := b.nowUs.toNat + b.latencyUs.toNat

/-! ## One call -/

/-- A request counts itself (for the eight motors), logs itself while the log has room, and
replaces what was on the wire by nothing, when it is dropped, or by its own reply, due
`latencyUs` after the bus clock in wrapping 64-bit arithmetic. -/
theorem request_eq (b : KissBus) (m : Nat) : ∃ reply g, b.request m =
    { b with
      requests := if h : m < maxMotors then b.requests.set m (b.requests[m] + 1) else b.requests,
      requestLog := if b.requestLog.size < requestLogLimit then b.requestLog.push m
        else b.requestLog,
      pending := reply, rng := g } ∧
    (reply = none ∨ ∃ c, reply = some ⟨m, b.nowUs + b.latencyUs, c⟩) := by
  unfold request
  dsimp only
  split
  · exact ⟨_, _, rfl, .inl rfl⟩
  · exact ⟨_, _, rfl, .inr ⟨_, rfl⟩⟩

@[simp]
theorem attached_request (b : KissBus) (m : Nat) : (b.request m).attached = b.attached := by
  obtain ⟨reply, g, h, -⟩ := b.request_eq m
  rw [h]

theorem pending_request {b : KissBus} {m : Nat} {r : PendingReply}
    (h : (b.request m).pending = some r) :
    r = ⟨m, b.nowUs + b.latencyUs, r.corrupt⟩ := by
  obtain ⟨reply, g, hb, hreply⟩ := b.request_eq m
  rw [hb] at h
  rcases hreply with rfl | ⟨c, rfl⟩
  · cases h
  · cases h
    rfl

@[simp]
theorem attached_step (b : KissBus) (now : UInt64) : (b.step now).1.attached = b.attached := by
  obtain ⟨dtH, reply, g, hbus, -⟩ := b.step_fst now
  rw [hbus]

/-- A reply made from an ESC's frame carries it as marked. -/
theorem carries_reply (f : KissFrame) (corrupt : Bool) (g : XorShift) :
    Carries f corrupt (if corrupt then damage f.toBytes g else (f.toBytes, g)).1.toList := by
  cases corrupt with
  | false => rfl
  | true =>
    obtain ⟨spot, hspot, k, hk, hdamage⟩ := damage_eq_corrupt_bitFlip f.toBytes g
    exact ⟨spot, hspot, k, hk, by simp [hdamage]⟩

/-- What a step does with the wire: a reply that is not yet due stays and nothing is delivered;
a due one is taken off, and delivered as marked when the bus is attached and its motor exists. -/
theorem step_cases (b : KissBus) (now : UInt64) :
    ((b.step now).1.pending = b.pending ∧ (b.step now).2 = [] ∧
        ∀ r, b.pending = some r → now < r.dueUs) ∨
    ∃ r, b.pending = some r ∧ ¬ now < r.dueUs ∧ (b.step now).1.pending = none ∧
      (((b.attached = false ∨ b.escs.size ≤ r.motor) ∧ (b.step now).2 = []) ∨
        (b.attached = true ∧ r.motor < b.escs.size ∧
          ∃ f, (b.step now).1.frame? r.motor = some f ∧
            Carries f r.corrupt (b.step now).2)) := by
  unfold step
  dsimp only
  split
  · rename_i hnone
    exact .inl ⟨rfl, rfl, by simp [hnone]⟩
  · rename_i r hr
    by_cases hlt : now < r.dueUs
    · exact .inl ⟨by simp [hlt], by simp [hlt], by simp [hr, hlt]⟩
    · refine .inr ⟨r, hr, hlt, ?_⟩
      simp only [hlt, if_false]
      split
      · rename_i esc hesc
        split
        · rename_i hatt
          exact ⟨rfl, .inl ⟨.inl (by simpa using hatt), rfl⟩⟩
        · rename_i hatt
          have hm : r.motor < b.escs.size := by
            simpa using (Array.getElem?_eq_some_iff.mp hesc).1
          exact ⟨rfl, .inr ⟨by simpa using hatt, hm, esc.frame, by simp [frame?, hesc],
            carries_reply _ _ _⟩⟩
      · rename_i hesc
        exact ⟨rfl, .inl ⟨.inr (by simpa using hesc), rfl⟩⟩

/-- A step before the reply is due leaves it on the wire and delivers nothing. -/
theorem step_of_lt_due {b : KissBus} {now : UInt64} {r : PendingReply} (hp : b.pending = some r)
    (hlt : now < r.dueUs) : (b.step now).1.pending = some r ∧ (b.step now).2 = [] := by
  rcases step_cases b now with ⟨hsame, hnil, -⟩ | ⟨r', hr', hge, -, -⟩
  · exact ⟨hsame.trans hp, hnil⟩
  · rw [hp] at hr'
    cases hr'
    exact absurd hlt hge

/-! ## Runs of calls -/

theorem afterCalls_take_succ (b : KissBus) {calls : List BusCall} {j : Nat} {c : BusCall}
    (hj : calls[j]? = some c) :
    b.afterCalls (calls.take (j + 1)) = ((b.afterCalls (calls.take j)).call c).1 := by
  rw [List.take_add_one, hj]
  simp [afterCalls, List.foldl_append]

theorem delivered_of_getElem? (b : KissBus) {calls : List BusCall} {j : Nat} {c : BusCall}
    (hj : calls[j]? = some c) :
    b.delivered calls j = ((b.afterCalls (calls.take j)).call c).2 := by
  rw [delivered, hj]

/-- What every call keeps, a run keeps. -/
theorem afterCalls_keeps {α : Type} (field : KissBus → α)
    (hkeep : ∀ b c, field (b.call c).1 = field b) (b : KissBus) (calls : List BusCall) :
    field (b.afterCalls calls) = field b := by
  induction calls generalizing b with
  | nil => rfl
  | cons c calls ih => exact (ih _).trans (hkeep b c)

@[simp]
theorem attached_afterCalls (b : KissBus) (calls : List BusCall) :
    (b.afterCalls calls).attached = b.attached :=
  afterCalls_keeps attached (fun b c => by cases c <;> simp [call]) b calls

@[simp]
theorem size_escs_afterCalls (b : KissBus) (calls : List BusCall) :
    (b.afterCalls calls).escs.size = b.escs.size :=
  afterCalls_keeps (·.escs.size) (fun b c => by cases c <;> simp [call]) b calls

/-- The reply `r` on the wire after the first `p` calls was put there by call `i`, a request
that was not dropped, and every call since is a step that delivered nothing. -/
def PutBy (b : KissBus) (calls : List BusCall) (p i : Nat) (r : PendingReply) : Prop :=
  i < p ∧ ∃ m, calls[i]? = some (.request m) ∧
    ((b.afterCalls (calls.take i)).request m).pending = some r ∧
    ∀ k, i < k → k < p → (∃ now, calls[k]? = some (.step now)) ∧ b.delivered calls k = []

/-- On a bus that starts with nothing on the wire, a reply on the wire was put there by the last
request, and no step since has delivered anything. -/
theorem putBy_of_pending {b : KissBus} (hb : b.pending = none) (calls : List BusCall) :
    ∀ p, p ≤ calls.length → ∀ r, (b.afterCalls (calls.take p)).pending = some r →
      ∃ i, b.PutBy calls p i r := by
  intro p
  induction p with
  | zero => simp [afterCalls, hb]
  | succ p ih =>
    intro hp r hr
    have hget : calls[p]? = some calls[p] := List.getElem?_eq_getElem (by omega)
    rw [afterCalls_take_succ b hget] at hr
    cases hc : calls[p] with
    | request m =>
      rw [hc] at hget hr
      exact ⟨p, by omega, m, hget, hr, fun k hk hk' => absurd hk' (by omega)⟩
    | step now =>
      rw [hc] at hget hr
      rcases step_cases (b.afterCalls (calls.take p)) now with
        ⟨hsame, hnil, -⟩ | ⟨r', -, -, hnone, -⟩
      · obtain ⟨i, hi, m, hm, hput, hsince⟩ := ih (by omega) r (by rw [← hsame]; exact hr)
        refine ⟨i, by omega, m, hm, hput, fun k hk hk' => ?_⟩
        rcases Nat.lt_or_ge k p with hkp | hkp
        · exact hsince k hk hkp
        · have hkeq : k = p := by omega
          subst hkeq
          exact ⟨⟨now, hget⟩, by rw [delivered_of_getElem? b hget]; exact hnil⟩
      · simp [call, hnone] at hr

/-- Every delivery answers the last request before it, which was not dropped: it comes at the
first step since that delivers anything, and carries the asked motor's frame as of that step,
whole or damaged as the request marked it. -/
theorem delivered_ne_nil {b : KissBus} (hb : b.pending = none) {calls : List BusCall} {j : Nat}
    (h : b.delivered calls j ≠ []) :
    ∃ i < j, ∃ m r, calls[i]? = some (.request m) ∧
      ((b.afterCalls (calls.take i)).request m).pending = some r ∧
      (∀ k, i < k → k < j →
        (∃ now, calls[k]? = some (.step now)) ∧ b.delivered calls k = []) ∧
      (∃ now, calls[j]? = some (.step now)) ∧
      ∃ f, (b.afterCalls (calls.take (j + 1))).frame? m = some f ∧
        Carries f r.corrupt (b.delivered calls j) := by
  cases hc : calls[j]? with
  | none => simp [delivered, hc] at h
  | some c =>
    cases c with
    | request m => simp [delivered, hc, call] at h
    | step now =>
      have hj : j < calls.length := (List.getElem?_eq_some_iff.mp hc).1
      rw [delivered_of_getElem? b hc] at h ⊢
      rw [afterCalls_take_succ b hc]
      simp only [call] at h ⊢
      rcases step_cases (b.afterCalls (calls.take j)) now with
        ⟨-, hnil, -⟩ | ⟨r, hr, -, -, ⟨-, hnil⟩ | ⟨-, -, f, hf, hcarry⟩⟩
      · exact absurd hnil h
      · exact absurd hnil h
      · obtain ⟨i, hi, m, hm, hput, hsince⟩ := putBy_of_pending hb calls j hj.le r hr
        have hmotor : r.motor = m := by rw [pending_request hput]
        exact ⟨i, hi, m, r, hm, hput, hsince, ⟨now, rfl⟩, f, hmotor ▸ hf, hcarry⟩

/-- A reply stays on the wire through steps before it is due. -/
theorem pending_of_steps_before_due {b : KissBus} {calls : List BusCall} {i j : Nat}
    {r : PendingReply} (hput : (b.afterCalls (calls.take (i + 1))).pending = some r)
    (hsince : ∀ k, i < k → k < j → ∃ now, calls[k]? = some (.step now) ∧ now < r.dueUs) :
    ∀ p, i < p → p ≤ j → (b.afterCalls (calls.take p)).pending = some r := by
  intro p hip hpj
  induction p with
  | zero => omega
  | succ p ih =>
    rcases Nat.lt_or_ge i p with hip' | hip'
    · obtain ⟨now, hk, hlt⟩ := hsince p hip' (by omega)
      rw [afterCalls_take_succ b hk]
      exact (step_of_lt_due (ih hip' (by omega)) hlt).1
    · have hpi : p = i := by omega
      subst hpi
      exact hput

/-- The due time of a request made at clock `t`, when `t + latencyUs` fits in 64 bits. -/
theorem toNat_dueUs_request {b : KissBus} {m : Nat} {r : PendingReply}
    (hput : (b.request m).pending = some r) (hfit : b.replyDue < 2 ^ 64) :
    r.dueUs.toNat = b.replyDue := by
  rw [pending_request hput]
  simp only [UInt64.toNat_add]
  exact Nat.mod_eq_of_lt hfit

/-- A request that is not dropped, made at clock `t` when `t + latencyUs` fits in 64 bits, is
answered by the first step at or after `t + latencyUs` if no other call comes between: on an
attached bus, and for a motor the bus has, that step delivers the motor's frame as of the step,
whole or damaged as the request marked it. -/
theorem delivered_of_due {b : KissBus} {calls : List BusCall} {i j m : Nat} {now : UInt64}
    {r : PendingReply} (hij : i < j) (hi : calls[i]? = some (.request m))
    (hj : calls[j]? = some (.step now))
    (hput : ((b.afterCalls (calls.take i)).request m).pending = some r)
    (hfit : (b.afterCalls (calls.take i)).replyDue < 2 ^ 64)
    (hsince : ∀ k, i < k → k < j → ∃ now', calls[k]? = some (.step now') ∧
      now'.toNat < (b.afterCalls (calls.take i)).replyDue)
    (hdue : (b.afterCalls (calls.take i)).replyDue ≤ now.toNat)
    (hatt : b.attached = true) (hm : m < b.escs.size) :
    ∃ f, (b.afterCalls (calls.take (j + 1))).frame? m = some f ∧
      Carries f r.corrupt (b.delivered calls j) := by
  have hdueNat := toNat_dueUs_request hput hfit
  have hmotor : r.motor = m := by rw [pending_request hput]
  have hwire := pending_of_steps_before_due (j := j)
    (by rw [afterCalls_take_succ b hi]; exact hput)
    (fun k hk hk' => by
      obtain ⟨now', hk, hlt⟩ := hsince k hk hk'
      exact ⟨now', hk, UInt64.lt_iff_toNat_lt.mpr (by omega)⟩) j hij le_rfl
  rw [delivered_of_getElem? b hj, afterCalls_take_succ b hj]
  simp only [call]
  rcases step_cases (b.afterCalls (calls.take j)) now with
    ⟨-, -, hlt⟩ | ⟨r', hr', -, -, ⟨hgone, -⟩ | ⟨-, -, f, hf, hcarry⟩⟩
  · have := UInt64.lt_iff_toNat_lt.mp (hlt r hwire)
    omega
  · rw [hwire] at hr'
    cases hr'
    rw [attached_afterCalls, size_escs_afterCalls, hatt, hmotor] at hgone
    rcases hgone with hno | hno
    · cases hno
    · omega
  · rw [hwire] at hr'
    cases hr'
    exact ⟨f, hmotor ▸ hf, hcarry⟩

/-! ## Counting requests -/

theorem requestCount_call (b : KissBus) (c : BusCall) (m : Nat) :
    (b.call c).1.requestCount m =
      b.requestCount m + if c = .request m ∧ m < maxMotors then 1 else 0 := by
  cases c with
  | step now =>
    obtain ⟨dtH, reply, g, hbus, -⟩ := b.step_fst now
    simp [call, hbus, requestCount]
  | request m' =>
    obtain ⟨reply, g, hbus, -⟩ := b.request_eq m'
    simp only [call, hbus, requestCount, BusCall.request.injEq]
    by_cases hm' : m' < maxMotors <;> by_cases hm : m < maxMotors <;> by_cases he : m' = m
    all_goals simp [hm, hm', he]

theorem requestLog_call (b : KissBus) (c : BusCall) :
    (b.call c).1.requestLog = match c.motor? with
      | some m => if b.requestLog.size < requestLogLimit then b.requestLog.push m else b.requestLog
      | none => b.requestLog := by
  cases c with
  | step now =>
    obtain ⟨dtH, reply, g, hbus, -⟩ := b.step_fst now
    simp [call, hbus, BusCall.motor?]
  | request m =>
    obtain ⟨reply, g, hbus, -⟩ := b.request_eq m
    simp [call, hbus, BusCall.motor?]

/-- Every request to one of the eight motors is counted; a request to any other index is not. -/
theorem requestCount_afterCalls (b : KissBus) (calls : List BusCall) (m : Nat) :
    (b.afterCalls calls).requestCount m =
      b.requestCount m + if m < maxMotors then calls.count (.request m) else 0 := by
  induction calls generalizing b with
  | nil => simp [afterCalls]
  | cons c calls ih =>
    show ((b.call c).1.afterCalls calls).requestCount m = _
    rw [ih, requestCount_call, List.count_cons]
    by_cases hm : m < maxMotors
    · by_cases hc : c = .request m
      · simp [hm, hc]
        omega
      · simp [hm, hc]
    · simp [hm]

/-- The log keeps the requested motors in order, up to the first 4096 requests. -/
theorem requestLog_afterCalls (b : KissBus) (calls : List BusCall) :
    (b.afterCalls calls).requestLog.toList =
      (b.requestLog.toList ++ calls.filterMap BusCall.motor?).take
        (max requestLogLimit b.requestLog.size) := by
  induction calls generalizing b with
  | nil => simp [afterCalls, List.take_of_length_le]
  | cons c calls ih =>
    show ((b.call c).1.afterCalls calls).requestLog.toList = _
    rw [ih, requestLog_call]
    cases hc : c.motor? with
    | none => simp [hc]
    | some m =>
      by_cases hsize : b.requestLog.size < requestLogLimit
      · simp [hc, hsize]
        omega
      · have hmax : max requestLogLimit b.requestLog.size = b.requestLog.toList.length := by
          simp only [Array.length_toList]
          omega
        simp [hc, hsize, hmax]

/-! ## Over every sequence of calls -/

/-- Over every sequence of requests and steps: a request that is not dropped is answered, when
its due time fits in 64 bits, by the first step at or after it unless another request comes
first, with the asked motor's frame, whole or with one bit flipped in its first nine bytes as
marked; every delivery answers the last request before it, at the first step since that
delivers anything; the counts of the eight motors count every request to them, and the log
keeps the first 4096 requests in order. -/
theorem replies_follow_requests (b : KissBus) (calls : List BusCall) :
    (∀ i j m now r, i < j → calls[i]? = some (.request m) → calls[j]? = some (.step now) →
      ((b.afterCalls (calls.take i)).request m).pending = some r →
      (b.afterCalls (calls.take i)).replyDue < 2 ^ 64 →
      (∀ k, i < k → k < j → ∃ now', calls[k]? = some (.step now') ∧
        now'.toNat < (b.afterCalls (calls.take i)).replyDue) →
      (b.afterCalls (calls.take i)).replyDue ≤ now.toNat →
      b.attached = true → m < b.escs.size →
      ∃ f, (b.afterCalls (calls.take (j + 1))).frame? m = some f ∧
        Carries f r.corrupt (b.delivered calls j)) ∧
    (b.pending = none → ∀ j, b.delivered calls j ≠ [] →
      ∃ i < j, ∃ m r, calls[i]? = some (.request m) ∧
        ((b.afterCalls (calls.take i)).request m).pending = some r ∧
        (∀ k, i < k → k < j →
        (∃ now, calls[k]? = some (.step now)) ∧ b.delivered calls k = []) ∧
        (∃ now, calls[j]? = some (.step now)) ∧
        ∃ f, (b.afterCalls (calls.take (j + 1))).frame? m = some f ∧
          Carries f r.corrupt (b.delivered calls j)) ∧
    (∀ m, (b.afterCalls calls).requestCount m =
      b.requestCount m + if m < maxMotors then calls.count (.request m) else 0) ∧
    (b.afterCalls calls).requestLog.toList =
      (b.requestLog.toList ++ calls.filterMap BusCall.motor?).take
        (max requestLogLimit b.requestLog.size) :=
  ⟨fun _ _ _ _ _ hij hi hj hput hfit hsince hdue hatt hm =>
      delivered_of_due hij hi hj hput hfit hsince hdue hatt hm,
    fun hb _ h => delivered_ne_nil hb h, requestCount_afterCalls b calls,
    requestLog_afterCalls b calls⟩

theorem filterMap_motor?_replicate (n m : Nat) :
    (List.replicate n (BusCall.request m)).filterMap BusCall.motor? = List.replicate n m := by
  induction n with
  | zero => rfl
  | succ n ih => simp [List.replicate_succ, BusCall.motor?, ih]

/-- The log does not keep every request: after 4097 requests to motor 0 of a new bus it holds
4096. -/
theorem requestLog_full_after_limit :
    ((List.replicate 4097 (BusCall.request 0)).filterMap BusCall.motor?).length = 4097 ∧
      ((KissBus.new 1).afterCalls (List.replicate 4097 (.request 0))).requestLog.size = 4096 := by
  have hlog := requestLog_afterCalls (KissBus.new 1) (List.replicate 4097 (.request 0))
  have hnew : (KissBus.new 1).requestLog = #[] := rfl
  refine ⟨by rw [filterMap_motor?_replicate, List.length_replicate], ?_⟩
  rw [← Array.length_toList, hlog, filterMap_motor?_replicate, hnew, Array.toList_empty,
    List.nil_append, List.length_take, List.length_replicate]
  rfl

end KissBus

end EscTelemetry
