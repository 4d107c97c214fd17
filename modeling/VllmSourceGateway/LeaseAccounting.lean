import VllmSourceGateway.GatewaySystem
import VllmSourceGateway.RequestSlot

set_option autoImplicit false

/-! The active counters and the in-flight gauge against the leases that requests
really hold, over every interleaving. -/
namespace VllmSourceGateway.LeaseAccounting
open PyText PyValues UsageExtractors Metrics Config AdmissionControl Routing GatewayEffects
open StreamBytes ProxyEndpoint RequestSegments RequestSlot GatewaySystem TransitionRuns

/-- The request holds a lease of the kind: acquired and not yet released. -/
def holds (kind : AdmissionLease → Bool) (slot : Slot) : Bool :=
  match slot.lease with
  | some lease => kind lease
  | none => false

def exchanges (kind : Key → Bool) (slot : Slot) : Bool :=
  match slot.exchange with
  | some key => kind key
  | none => false

def outstandingLeases (kind : AdmissionLease → Bool) (s : System) : ℕ :=
  s.tasks.countP fun task => holds kind (slotOf task.trace)

def openExchanges (kind : Key → Bool) (s : System) : ℕ :=
  s.tasks.countP fun task => exchanges kind (slotOf task.trace)

def ofModel (modelName : String) (lease : AdmissionLease) : Bool := lease.modelName = modelName

def ofKey (key : Key) (lease : AdmissionLease) : Bool := lease.key = key

def gaugeKind (labels : String → String → Endpoint → Bool) (lease : AdmissionLease) : Bool :=
  labels lease.department lease.modelName lease.endpoint

/-! ## Calls that leave the counters alone -/

section
variable {config : AdmissionControlConfig} {now : ℚ} {c : AdmissionController}

def SameActive (c c' : AdmissionController) : Prop :=
  c'.activeByModel = c.activeByModel ∧ c'.activeByDepartmentModel = c.activeByDepartmentModel

theorem settle_active (config : AdmissionControlConfig) (now : ℚ) (key : Key)
    (c : AdmissionController) : SameActive c (settle config now key c) := by
  simp only [settle]
  split <;> exact ⟨rfl, rfl⟩

theorem recordTokens_active (department modelName : String) (tokens : ℤ) :
    SameActive c (recordTokens config now department modelName tokens c) := by
  simp only [recordTokens]
  split
  · exact ⟨rfl, rfl⟩
  · split <;> exact ⟨rfl, rfl⟩

theorem recordRetryEvent_active (department modelName : String) :
    SameActive c (recordRetryEvent config now department modelName c).1 := by
  simp only [recordRetryEvent]
  split_ifs <;> exact ⟨rfl, rfl⟩

theorem recordRetryEvent_gauge (labels : String → String → Endpoint → Bool)
    (department modelName : String) :
    inflight labels (recordRetryEvent config now department modelName c).2 = 0 := by
  simp only [recordRetryEvent]
  split_ifs <;> rfl

theorem checkRequestShape_gauge (labels : String → String → Endpoint → Bool)
    (department modelName : String) (endpoint : Endpoint) (bodySize : ℕ) (payload : JsonObject) :
    inflight labels
      (checkRequestShape config department modelName endpoint bodySize payload).2 = 0 := by
  simp only [checkRequestShape]
  repeat' split
  all_goals rfl

end

/-- The counters and the gauge show `count` leases of each kind. -/
structure Balanced (g : Gateway) (count : (AdmissionLease → Bool) → ℕ) : Prop where
  model : ∀ modelName, g.admission.activeByModel modelName = count (ofModel modelName)
  departmentModel : ∀ key, g.admission.activeByDepartmentModel key = count (ofKey key)
  gauge : ∀ labels, inflight labels g.metrics = count (gaugeKind labels)

theorem Balanced.same {g g' : Gateway} {count : (AdmissionLease → Bool) → ℕ}
    {events : GatewayMetrics} (h : Balanced g count) (hactive : SameActive g.admission g'.admission)
    (hmetrics : g'.metrics = g.metrics ++ events) (hevents : ∀ labels, inflight labels events = 0) :
    Balanced g' count := by
  refine ⟨fun modelName => ?_, fun key => ?_, fun labels => ?_⟩
  · rw [hactive.1]
    exact h.model modelName
  · rw [hactive.2]
    exact h.departmentModel key
  · rw [hmetrics, inflight_append, hevents, add_zero]
    exact h.gauge labels

section
variable {config : AdmissionControlConfig} {now : ℚ} {g : Gateway} {slot : Slot}
  {base : (AdmissionLease → Bool) → ℕ}

/-- The leases of the other requests and that of the one running. -/
def withSlot (base : (AdmissionLease → Bool) → ℕ) (slot : Slot) (kind : AdmissionLease → Bool) :
    ℕ := base kind + (holds kind slot).toNat

theorem acquire_balanced {department modelName : String} {endpoint : Endpoint}
    {result : Except Rejection (Option AdmissionLease)} (h : Balanced g (withSlot base slot))
    (hgenuine : (acquire config now department modelName endpoint g.admission).1 = result)
    (hdisciplined : (slot.observe (.acquire department modelName endpoint result)).disciplined =
      true) :
    Balanced (perform config now g (.acquire department modelName endpoint result))
      (withSlot base (slot.observe (.acquire department modelName endpoint result))) := by
  subst hgenuine
  obtain ⟨_, heq⟩ | ⟨reason, detail, after, c₁, extra, hc₁, hextra, heq⟩ | ⟨_, heq⟩ :=
    acquire_cases config now department modelName endpoint g.admission
  · simp only [heq, perform, Effect.admissionOp?, AdmissionControl.apply]
    exact h.same ⟨rfl, rfl⟩ rfl fun _ => rfl
  · simp only [heq, perform, Effect.admissionOp?, AdmissionControl.apply]
    refine h.same ?_ rfl ?_
    · rcases hc₁ with rfl | rfl
      · exact ⟨rfl, rfl⟩
      · exact settle_active _ _ _ _
    · intro labels
      rcases hextra with rfl | rfl <;> rfl
  · rw [heq] at hdisciplined
    have hnone : slot.lease = none := by
      simp only [grantLease, Slot.observe, Bool.and_eq_true, Option.isNone_iff_eq_none] at hdisciplined
      exact hdisciplined.2
    have hbase (kind : AdmissionLease → Bool) : withSlot base slot kind = base kind := by
      simp only [withSlot, holds, hnone, Bool.toNat_false, Nat.add_zero]
    obtain ⟨hmodel, hdepartment⟩ :=
      settle_active config now (department, modelName) g.admission
    simp only [heq, perform, Effect.admissionOp?, AdmissionControl.apply, grantLease,
      Slot.observe]
    refine ⟨fun m => ?_, fun key => ?_, fun labels => ?_⟩
    · have hold := h.model m
      rw [hbase] at hold
      by_cases hm : m = modelName
      · subst hm
        simp [withSlot, holds, ofModel, hmodel, hold]
      · simp [withSlot, holds, ofModel, hmodel, hold, Function.update_of_ne hm, Ne.symm hm]
    · have hold := h.departmentModel key
      rw [hbase] at hold
      by_cases hk : key = (department, modelName)
      · subst hk
        simp [withSlot, holds, ofKey, AdmissionLease.key, hdepartment, hold]
      · simp [withSlot, holds, ofKey, AdmissionLease.key, hdepartment, hold,
          Function.update_of_ne hk, Ne.symm hk]
    · have hold := h.gauge labels
      rw [hbase] at hold
      rw [inflight_append, hold]
      by_cases hlabels : labels department modelName endpoint = true
      · simp [withSlot, holds, gaugeKind, inflight, inflightDelta, hlabels]
      · simp [withSlot, holds, gaugeKind, inflight, inflightDelta, hlabels]

/-- A lease that is held is counted, so the clamp of its release is idle. -/
theorem Balanced.counted {lease : AdmissionLease} (h : Balanced g (withSlot base slot))
    (hlease : slot.lease = some lease) :
    1 ≤ g.admission.activeByModel lease.modelName ∧
      1 ≤ g.admission.activeByDepartmentModel lease.key := by
  refine ⟨?_, ?_⟩
  · rw [h.model]
    simp [withSlot, holds, hlease, ofModel]
  · rw [h.departmentModel]
    simp [withSlot, holds, hlease, ofKey]

theorem release_balanced {lease : AdmissionLease} (h : Balanced g (withSlot base slot))
    (hdisciplined : (slot.observe (.release (some lease))).disciplined = true) :
    Balanced (perform config now g (.release (some lease)))
      (withSlot base (slot.observe (.release (some lease)))) := by
  have hlease : slot.lease = some lease := by
    simp only [Slot.observe, Bool.and_eq_true, decide_eq_true_eq] at hdisciplined
    exact hdisciplined.2
  obtain ⟨hmodelPos, hdepartmentPos⟩ := h.counted hlease
  simp only [perform, Effect.admissionOp?, AdmissionControl.apply, release, Slot.observe]
  refine ⟨fun m => ?_, fun key => ?_, fun labels => ?_⟩
  · have hold := h.model m
    by_cases hm : m = lease.modelName
    · subst hm
      simp only [withSlot, holds, hlease, ofModel, decide_true, Bool.toNat_true] at hold ⊢
      simp only [Function.update_self, hold, Bool.toNat_false]
      omega
    · simp only [withSlot, holds, hlease, ofModel, Ne.symm hm, decide_false, Bool.toNat_false]
        at hold ⊢
      simp only [Function.update_of_ne hm, hold]
  · have hold := h.departmentModel key
    by_cases hk : key = lease.key
    · subst hk
      simp only [withSlot, holds, hlease, ofKey, decide_true, Bool.toNat_true] at hold ⊢
      simp only [Function.update_self, hold, Bool.toNat_false]
      omega
    · simp only [withSlot, holds, hlease, ofKey, Ne.symm hk, decide_false, Bool.toNat_false]
        at hold ⊢
      simp only [Function.update_of_ne hk, hold]
  · have hold := h.gauge labels
    rw [inflight_append, hold]
    by_cases hlabels : labels lease.department lease.modelName lease.endpoint = true
    · simp [withSlot, holds, hlease, gaugeKind, inflight, inflightDelta, hlabels]
    · simp [withSlot, holds, hlease, gaugeKind, inflight, inflightDelta, hlabels]

theorem perform_balanced {effect : Effect} (h : Balanced g (withSlot base slot))
    (hgenuine : effect.Genuine config now g)
    (hdisciplined : (slot.observe effect).disciplined = true) :
    Balanced (perform config now g effect) (withSlot base (slot.observe effect)) := by
  cases effect with
  | checkRequestShape =>
    exact h.same ⟨rfl, rfl⟩ rfl fun labels => checkRequestShape_gauge labels _ _ _ _ _
  | acquire => exact acquire_balanced h hgenuine hdisciplined
  | release lease =>
    cases lease with
    | none => exact h.same ⟨rfl, rfl⟩ rfl fun _ => rfl
    | some lease => exact release_balanced h hdisciplined
  | recordTokens department modelName tokens =>
    exact h.same (recordTokens_active department modelName tokens) rfl fun _ => rfl
  | recordRetryEvent department modelName =>
    exact h.same (recordRetryEvent_active department modelName) rfl
      fun labels => recordRetryEvent_gauge labels department modelName
  | selectUpstream =>
    exact h.same ⟨rfl, rfl⟩ (List.append_nil g.metrics).symm fun _ => rfl
  | metric event =>
    cases event with
    | inflightInc | inflightDec => cases hdisciplined
    | _ => exact h.same ⟨rfl, rfl⟩ rfl fun _ => rfl
  | requestMetrics | contact | attemptEnded | exchangeClosed =>
    exact h.same ⟨rfl, rfl⟩ (List.append_nil g.metrics).symm fun _ => rfl

end

/-! ## The clamps of `release` never fire -/

/-- Wherever a history releases a lease, both of its counters are above zero. -/
def ClampsIdle (config : AdmissionControlConfig) (history : History) : Prop :=
  ∀ past now lease later, history = past ++ (now, .release (some lease)) :: later →
    1 ≤ (replay config past).activeByModel lease.modelName ∧
      1 ≤ (replay config past).activeByDepartmentModel lease.key

section
variable {config : AdmissionControlConfig} {history : History} {now : ℚ}

theorem ClampsIdle.snoc (h : ClampsIdle config history) {op : AdmissionOp}
    (hop : ∀ lease, op = .release (some lease) →
      1 ≤ (replay config history).activeByModel lease.modelName ∧
        1 ≤ (replay config history).activeByDepartmentModel lease.key) :
    ClampsIdle config (history ++ [(now, op)]) := by
  intro past at_ lease later heq
  rcases List.eq_nil_or_concat later with rfl | ⟨rest, last, rfl⟩
  · obtain ⟨rfl, hlast⟩ := List.append_inj' heq rfl
    exact hop lease (by simp_all)
  · refine h past at_ lease rest ?_
    rw [List.concat_eq_append, ← List.cons_append, ← List.append_assoc] at heq
    exact (List.append_inj' heq rfl).1

/-- A gateway whose counters are right after a history of calls whose clamps
were idle. -/
structure Accounted (config : AdmissionControlConfig) (g : Gateway) (history : History)
    (count : (AdmissionLease → Bool) → ℕ) : Prop where
  balanced : Balanced g count
  replayed : g.admission = replay config history
  clampsIdle : ClampsIdle config history

variable {g : Gateway} {slot : Slot} {base : (AdmissionLease → Bool) → ℕ}

theorem perform_accounted {effect : Effect} (h : Accounted config g history (withSlot base slot))
    (hgenuine : effect.Genuine config now g)
    (hdisciplined : (slot.observe effect).disciplined = true) :
    Accounted config (perform config now g effect) (history ++ callsAt now [effect])
      (withSlot base (slot.observe effect)) := by
  refine ⟨perform_balanced h.balanced hgenuine hdisciplined,
    performAll_admission config now g [effect] history h.replayed, ?_⟩
  rw [callsAt_cons]
  rcases Option.eq_none_or_eq_some effect.admissionOp? with hop | ⟨op, hop⟩
  · simpa [hop, callsAt, admissionCalls] using h.clampsIdle
  · have hcalls : (effect.admissionOp?.map fun op => (now, op)).toList ++ callsAt now [] =
        [(now, op)] := by simp [hop, callsAt, admissionCalls]
    rw [hcalls]
    refine h.clampsIdle.snoc ?_
    rintro lease rfl
    obtain rfl : effect = .release (some lease) := by
      cases effect <;> simp_all [Effect.admissionOp?]
    rw [← h.replayed]
    refine h.balanced.counted ?_
    simp only [Slot.observe, Bool.and_eq_true, decide_eq_true_eq] at hdisciplined
    exact hdisciplined.2

theorem disciplined_of_observe {effect : Effect} (h : (slot.observe effect).disciplined = true) :
    slot.disciplined = true := by
  unfold Slot.observe at h
  split at h <;> simp_all

theorem disciplined_of_observeAll {effects : List Effect} :
    (slot.observeAll effects).disciplined = true → slot.disciplined = true := by
  induction effects generalizing slot with
  | nil => exact id
  | cons effect effects ih => exact fun h => disciplined_of_observe (ih h)

theorem performAll_accounted {effects : List Effect}
    (h : Accounted config g history (withSlot base slot))
    (hgenuine : AllGenuine config now g effects)
    (hdisciplined : (slot.observeAll effects).disciplined = true) :
    Accounted config (performAll config now g effects) (history ++ callsAt now effects)
      (withSlot base (slot.observeAll effects)) := by
  induction effects generalizing g slot history with
  | nil => simpa [performAll, callsAt, admissionCalls] using h
  | cons effect effects ih =>
    have hfirst := perform_accounted h hgenuine.1 (disciplined_of_observeAll hdisciplined)
    have hcalls : callsAt now (effect :: effects) = callsAt now [effect] ++ callsAt now effects := by
      rw [callsAt_cons, callsAt_cons, List.append_assoc]
      rfl
    rw [hcalls, ← List.append_assoc]
    exact ih hfirst hgenuine.2 hdisciplined

end

/-! ## The slots of the requests of a reachable system -/

section
variable {P : Platform} {config : AppConfig} {s : System}

/-- A step of the request left its lease or its exchange behind. -/
def taskLeaked (P : Platform) (task : Task) : Bool :=
  task.steps.any fun taken => leaks P taken.1 taken.2

theorem task_slots (h : Reachable (step P config) (initial config) s) : ∀ task ∈ s.tasks,
    SlotAt P config task.request (taskLeaked P task) (slotOf task.trace) task.point := by
  refine task_invariant
    (fun task => SlotAt P config task.request (taskLeaked P task) (slotOf task.trace) task.point)
    (fun request => startRequest_slot) ?_ h
  intro task g now input effects point _ hslot hsegment
  have hnext := segment_slot hsegment hslot
  have hleaked : taskLeaked P (task.continue input effects point) =
      (taskLeaked P task || leaks P task.point input) := by
    simp [taskLeaked, Task.continue]
  have hslotOf : slotOf (task.trace ++ effects) = (slotOf task.trace).observeAll effects :=
    observeAll_append _ _ _
  rw [hleaked]
  simp only [Task.continue, hslotOf]
  exact hnext

theorem slotAt_disciplined {request : ProxyRequest} {leaked : Bool} {slot : Slot} {point : Point}
    (h : SlotAt P config request leaked slot point) : slot.disciplined = true := by
  have hover {slot : Slot} (h : OverSlot P config request leaked slot) :
      slot.disciplined = true := by
    cases h <;> rfl
  cases point with
  | awaitBody =>
    obtain ⟨_, rfl⟩ := h
    rfl
  | awaitSend flight | awaitPost flight =>
    obtain ⟨_, _, rfl⟩ := h
    rfl
  | finished outcome => exact hover h
  | streaming ctx point =>
    obtain ⟨_, _, hpoint⟩ := h
    cases point with
    | finished outcome => exact hover hpoint
    | created | awaitChunk | awaitDisconnect | yielded | awaitClose =>
      obtain ⟨_, rfl⟩ := hpoint
      rfl

def othersHold (before after : List Task) (kind : AdmissionLease → Bool) : ℕ :=
  (before ++ after).countP fun task => holds kind (slotOf task.trace)

theorem outstandingLeases_split (before after : List Task) (task : Task)
    (htasks : s.tasks = before ++ task :: after) :
    (outstandingLeases · s) = withSlot (othersHold before after) (slotOf task.trace) := by
  funext kind
  simp only [outstandingLeases, htasks, withSlot, othersHold, List.countP_append, List.countP_cons]
  cases holds kind (slotOf task.trace) <;> simp only [Bool.toNat_true, Bool.toNat_false, if_true,
    Bool.false_eq_true, if_false] <;> omega

theorem startRequest_plain (request : ProxyRequest) :
    (startRequest config request).1.all plain = true := by
  rw [startRequest_effects]
  rfl

/-- The shared state accounts for the leases of all requests, at all times. -/
theorem accounted (h : Reachable (step P config) (initial config) s) :
    Accounted config.admissionControl s.gateway (admissionCalls s.history)
      (outstandingLeases · s) := by
  refine h.invariant (fun s => Accounted config.admissionControl s.gateway
    (admissionCalls s.history) (outstandingLeases · s)) ?_ ?_
  · refine ⟨⟨fun _ => rfl, fun _ => rfl, fun _ => rfl⟩, rfl, ?_⟩
    intro past now lease later heq
    exact absurd heq (by simp [GatewaySystem.initial, admissionCalls])
  · intro s event s' hreach hinv hstep
    have hreach' := hreach.next hstep
    cases step_cases hstep with
    | @arrive request now hclock =>
      let task := Task.start config request
      have hsplit := outstandingLeases_split (s := s.run config now task.trace (s.tasks ++ [task]))
        s.tasks [] task rfl
      have hbase : othersHold s.tasks [] = (outstandingLeases · s) := by
        funext kind
        simp [othersHold, outstandingLeases]
      have hidle : withSlot (othersHold s.tasks []) (holding none none) =
          (outstandingLeases · s) := by
        funext kind
        simp [hbase, withSlot, holds, holding]
      rw [← hidle] at hinv
      rw [hsplit]
      simp only [System.run, admissionCalls_append]
      exact performAll_accounted hinv (genuine_of_plain (startRequest_plain request) _)
        (slotAt_disciplined (P := P) startRequest_slot)
    | @resume i input now before after task effects point hclock htasks hindex hsegment =>
      have hslot := task_slots hreach task (by simp [htasks])
      have hnext := segment_slot hsegment hslot
      have hsplit := outstandingLeases_split
        (s := s.run config now effects (before ++ task.continue input effects point :: after))
        before after (task.continue input effects point) rfl
      have hslotOf : slotOf (task.continue input effects point).trace =
          (slotOf task.trace).observeAll effects := observeAll_append _ _ _
      rw [outstandingLeases_split before after task htasks] at hinv
      rw [hsplit, hslotOf]
      simp only [System.run, admissionCalls_append]
      exact performAll_accounted hinv (segment_genuine hsegment) (slotAt_disciplined hnext)
    | setHealth hset => exact ⟨⟨hinv.balanced.model, hinv.balanced.departmentModel,
        hinv.balanced.gauge⟩, hinv.replayed, hinv.clampsIdle⟩

end

section
variable {config : AdmissionControlConfig} {now : ℚ} {c : AdmissionController}

theorem modelLimit_pos {modelName : String} {limit : ℤ}
    (h : modelLimit config modelName = some limit) : 0 < limit := by
  obtain ⟨entry, _, rfl⟩ := Option.map_eq_some_iff.mp h
  exact entry.maxActiveRequests_pos

theorem departmentModelLimit_pos {department modelName : String} {limit : ℤ}
    (h : departmentModelLimit config department modelName = some limit) : 0 < limit := by
  obtain ⟨entry, _, rfl⟩ := Option.map_eq_some_iff.mp h
  exact entry.maxActiveRequests_pos

theorem lt_of_not_atLimit {bound : Option ℤ} {active limit : ℤ} (h : atLimit bound active = false)
    (hbound : bound = some limit) : active < limit := by
  subst hbound
  simpa [atLimit] using h

structure WithinLimits (config : AdmissionControlConfig) (c : AdmissionController) : Prop where
  model : ∀ modelName limit, modelLimit config modelName = some limit →
    c.activeByModel modelName ≤ limit
  departmentModel : ∀ department modelName limit,
    departmentModelLimit config department modelName = some limit →
    c.activeByDepartmentModel (department, modelName) ≤ limit

theorem WithinLimits.same {c' : AdmissionController} (h : WithinLimits config c)
    (hactive : SameActive c c') : WithinLimits config c' := by
  refine ⟨?_, ?_⟩
  · rw [hactive.1]
    exact h.model
  · rw [hactive.2]
    exact h.departmentModel

/-- Only an admission adds to a counter, and it has just seen it below the limit. -/
theorem acquire_withinLimits (h : WithinLimits config c) (department modelName : String)
    (endpoint : Endpoint) :
    WithinLimits config (acquire config now department modelName endpoint c).2.1 := by
  obtain ⟨_, heq⟩ | ⟨_, _, _, c₁, _, hc₁, _, heq⟩ | ⟨hreaches, heq⟩ :=
    acquire_cases config now department modelName endpoint c
  · rw [heq]
    exact h
  · rw [heq]
    rcases hc₁ with rfl | rfl
    · exact h
    · exact h.same (settle_active _ _ _ _)
  · rw [heq]
    obtain ⟨hmodel, hdepartment⟩ :=
      settle_active config now (department, modelName) c
    refine ⟨fun m limit hlimit => ?_, fun d m limit hlimit => ?_⟩
    · simp only [grantLease, hmodel]
      by_cases hm : m = modelName
      · subst hm
        have hfree := lt_of_not_atLimit hreaches.modelFree hlimit
        simp only [Function.update_self] at hfree ⊢
        omega
      · simp only [Function.update_of_ne hm]
        exact h.model m limit hlimit
    · simp only [grantLease, hdepartment]
      by_cases hk : (d, m) = (department, modelName)
      · obtain ⟨rfl, rfl⟩ := Prod.mk.inj hk
        have hfree := lt_of_not_atLimit hreaches.departmentModelFree hlimit
        simp only [Function.update_self] at hfree ⊢
        omega
      · simp only [Function.update_of_ne hk]
        exact h.departmentModel d m limit hlimit

theorem release_withinLimits (h : WithinLimits config c) (lease : Option AdmissionLease) :
    WithinLimits config (release lease c).1 := by
  cases lease with
  | none => exact h
  | some lease =>
    refine ⟨fun m limit hlimit => ?_, fun d m limit hlimit => ?_⟩
    · have hpos := modelLimit_pos hlimit
      have hold := h.model m limit hlimit
      simp only [release, Function.update_apply]
      split
      · rename_i hm
        rw [← hm]
        omega
      · exact hold
    · have hpos := departmentModelLimit_pos hlimit
      have hold := h.departmentModel d m limit hlimit
      simp only [release, Function.update_apply]
      split
      · rename_i hk
        rw [← hk]
        omega
      · exact hold

theorem apply_withinLimits (h : WithinLimits config c) (op : AdmissionOp) :
    WithinLimits config (AdmissionControl.apply config now c op).1 := by
  cases op with
  | checkRequestShape => exact h
  | acquire department modelName endpoint => exact acquire_withinLimits h department modelName endpoint
  | release lease => exact release_withinLimits h lease
  | recordTokens department modelName tokens =>
    exact h.same (recordTokens_active department modelName tokens)
  | recordRetryEvent department modelName =>
    exact h.same (recordRetryEvent_active department modelName)

theorem replay_withinLimits (history : History) : WithinLimits config (replay config history) := by
  induction history using List.reverseRecOn with
  | nil =>
    exact ⟨fun _ _ hlimit => (modelLimit_pos hlimit).le,
      fun _ _ _ hlimit => (departmentModelLimit_pos hlimit).le⟩
  | append_singleton history call ih =>
    obtain ⟨now, op⟩ := call
    rw [replay_append]
    exact apply_withinLimits ih op

theorem limit_of_atLimit {bound : Option ℤ} {active : ℤ} (h : atLimit bound active = true) :
    ∃ limit, bound = some limit ∧ limit ≤ active := by
  cases bound with
  | none => cases h
  | some limit => exact ⟨limit, rfl, by simpa [atLimit] using h⟩

/-- A refusal for concurrency has seen the counter it names at its limit. -/
theorem acquire_concurrency {department modelName : String} {endpoint : Endpoint}
    {rejection : Rejection}
    (h : (acquire config now department modelName endpoint c).1 = .error rejection) :
    (rejection.reason = .modelConcurrency →
      atLimit (modelLimit config modelName) (c.activeByModel modelName) = true) ∧
    (rejection.reason = .departmentModelConcurrency →
      atLimit (departmentModelLimit config department modelName)
        (c.activeByDepartmentModel (department, modelName)) = true) := by
  by_cases hreaches : ReachesBudgetCheck config now (department, modelName) c
  · rw [acquire_of_reaches config now department modelName endpoint c hreaches] at h
    split at h
    · cases h
      exact ⟨by simp, by simp⟩
    · cases h
  · simp only [acquire] at h
    split_ifs at h with henabled hguard hmodel hdepartment
    · cases h
      exact ⟨by simp, by simp⟩
    · cases h
      exact ⟨fun _ => hmodel, by simp⟩
    · cases h
      exact ⟨by simp, fun _ => hdepartment⟩
    · exact absurd ⟨by simpa using henabled, not_lt.mp hguard, by simpa using hmodel,
        by simpa using hdepartment⟩ hreaches

end

section
variable {P : Platform} {config : AppConfig} {s : System}

theorem reachable_withinLimits (h : Reachable (step P config) (initial config) s) :
    WithinLimits config.admissionControl s.gateway.admission := by
  rw [(accounted h).replayed]
  exact replay_withinLimits _

theorem outstanding_le_modelLimit (h : Reachable (step P config) (initial config) s)
    {modelName : String} {limit : ℤ}
    (hlimit : modelLimit config.admissionControl modelName = some limit) :
    outstandingLeases (ofModel modelName) s ≤ limit := by
  rw [← (accounted h).balanced.model]
  exact (reachable_withinLimits h).model modelName limit hlimit

theorem outstanding_le_departmentModelLimit (h : Reachable (step P config) (initial config) s)
    {department modelName : String} {limit : ℤ}
    (hlimit : departmentModelLimit config.admissionControl department modelName = some limit) :
    outstandingLeases (ofKey (department, modelName)) s ≤ limit := by
  rw [← (accounted h).balanced.departmentModel]
  exact (reachable_withinLimits h).departmentModel department modelName limit hlimit

/-! ## Open exchanges are covered by leases -/

/-- Where every streaming response can be constructed, an open exchange is one
of a request that holds the lease for its key. -/
theorem exchange_under_lease (henabled : config.admissionControl.enabled = true)
    (hresponse : ∀ statusCode headers, P.streamingResponseInit statusCode headers = true)
    {request : ProxyRequest} {leaked : Bool} {slot : Slot} {point : Point} {key : Key}
    (h : SlotAt P config request leaked slot point) (hexchange : slot.exchange = some key) :
    ∃ lease, slot.lease = some lease ∧ lease.key = key := by
  have hleased (modelName : String) : leaseFor config request modelName =
      some ⟨request.department, modelName, request.endpoint⟩ := if_pos henabled
  have hover {slot : Slot} (h : OverSlot P config request leaked slot)
      (hexchange : slot.exchange = some key) : ∃ lease, slot.lease = some lease ∧ lease.key = key := by
    cases h with
    | clean | held => cases hexchange
    | unclosed modelName =>
      cases hexchange
      exact ⟨_, hleased modelName, rfl⟩
    | orphaned modelName horphaned => exact absurd hresponse horphaned
  cases point with
  | awaitBody =>
    obtain ⟨_, rfl⟩ := h
    cases hexchange
  | awaitSend flight | awaitPost flight =>
    obtain ⟨_, hlease, rfl⟩ := h
    cases hexchange
    exact ⟨_, hlease.trans (hleased _), rfl⟩
  | finished outcome => exact hover h hexchange
  | streaming ctx point =>
    obtain ⟨hdepartment, hlease, hpoint⟩ := h
    cases point with
    | finished outcome => exact hover hpoint hexchange
    | created | awaitChunk | awaitDisconnect | yielded | awaitClose =>
      obtain ⟨_, rfl⟩ := hpoint
      cases hexchange
      exact ⟨_, hlease.trans (hleased _), by rw [hdepartment]; rfl⟩

theorem openExchanges_le (henabled : config.admissionControl.enabled = true)
    (hresponse : ∀ statusCode headers, P.streamingResponseInit statusCode headers = true)
    (h : Reachable (step P config) (initial config) s) {kind : AdmissionLease → Bool}
    {keys : Key → Bool} (hkinds : ∀ lease, keys lease.key = kind lease) :
    openExchanges keys s ≤ outstandingLeases kind s := by
  refine List.countP_mono_left ?_
  intro task htask hopen
  simp only [exchanges] at hopen
  split at hopen
  · rename_i key hexchange
    obtain ⟨lease, hlease, rfl⟩ :=
      exchange_under_lease henabled hresponse (task_slots h task htask) hexchange
    simpa only [holds, hlease, ← hkinds] using hopen
  · cases hopen

/-- What the admission controller shows in a state of the running gateway, beside
what the requests hold there. -/
structure LeasesExact (config : AppConfig) (s : System) : Prop where
  /-- No request holds two leases, releases one it does not hold, or moves the gauge itself. -/
  disciplined : ∀ task ∈ s.tasks, (slotOf task.trace).disciplined = true
  model : ∀ modelName, s.gateway.admission.activeByModel modelName =
    outstandingLeases (ofModel modelName) s
  departmentModel : ∀ department modelName,
    s.gateway.admission.activeByDepartmentModel (department, modelName) =
      outstandingLeases (ofKey (department, modelName)) s
  gaugeModel : ∀ modelName, inflight (fun _ m _ => m = modelName) s.gateway.metrics =
    outstandingLeases (ofModel modelName) s
  gaugeDepartmentModel : ∀ department modelName,
    inflight (fun d m _ => (d, m) = (department, modelName)) s.gateway.metrics =
      outstandingLeases (ofKey (department, modelName)) s
  clampsIdle : ClampsIdle config.admissionControl (admissionCalls s.history)
  exchangesModel : ∀ modelName, openExchanges (fun key => key.2 = modelName) s ≤
    outstandingLeases (ofModel modelName) s
  exchangesDepartmentModel : ∀ department modelName,
    openExchanges (fun key => key = (department, modelName)) s ≤
      outstandingLeases (ofKey (department, modelName)) s
  limitModel : ∀ modelName limit, modelLimit config.admissionControl modelName = some limit →
    outstandingLeases (ofModel modelName) s ≤ limit
  limitDepartmentModel : ∀ department modelName limit,
    departmentModelLimit config.admissionControl department modelName = some limit →
    outstandingLeases (ofKey (department, modelName)) s ≤ limit
  refusedModel : ∀ now department modelName endpoint rejection,
    (acquire config.admissionControl now department modelName endpoint s.gateway.admission).1 =
      .error rejection → rejection.reason = .modelConcurrency →
    modelLimit config.admissionControl modelName =
      some (outstandingLeases (ofModel modelName) s : ℤ)
  refusedDepartmentModel : ∀ now department modelName endpoint rejection,
    (acquire config.admissionControl now department modelName endpoint s.gateway.admission).1 =
      .error rejection → rejection.reason = .departmentModelConcurrency →
    departmentModelLimit config.admissionControl department modelName =
      some (outstandingLeases (ofKey (department, modelName)) s : ℤ)

/-- With admission control on, every reachable state of the gateway counts its
leases exactly. -/
theorem leases_exact (henabled : config.admissionControl.enabled = true)
    (hresponse : ∀ statusCode headers, P.streamingResponseInit statusCode headers = true)
    (h : Reachable (step P config) (initial config) s) : LeasesExact config s := by
  have haccounted := accounted h
  have hmodel (modelName : String) := haccounted.balanced.model modelName
  have hdepartment (department modelName : String) :=
    haccounted.balanced.departmentModel (department, modelName)
  refine {
    disciplined := fun task htask => slotAt_disciplined (task_slots h task htask)
    model := hmodel
    departmentModel := hdepartment
    gaugeModel := fun modelName => haccounted.balanced.gauge _
    gaugeDepartmentModel := fun department modelName => haccounted.balanced.gauge _
    clampsIdle := haccounted.clampsIdle
    exchangesModel := fun modelName => openExchanges_le henabled hresponse h fun _ => rfl
    exchangesDepartmentModel := fun department modelName =>
      openExchanges_le henabled hresponse h fun _ => rfl
    limitModel := fun modelName limit hlimit => outstanding_le_modelLimit h hlimit
    limitDepartmentModel := fun department modelName limit hlimit =>
      outstanding_le_departmentModelLimit h hlimit
    refusedModel := fun now department modelName endpoint rejection herror hreason => ?_
    refusedDepartmentModel := fun now department modelName endpoint rejection herror hreason => ?_ }
  · obtain ⟨limit, hlimit, hle⟩ := limit_of_atLimit ((acquire_concurrency herror).1 hreason)
    rw [hmodel] at hle
    rw [hlimit, hle.antisymm (outstanding_le_modelLimit h hlimit)]
  · obtain ⟨limit, hlimit, hle⟩ := limit_of_atLimit ((acquire_concurrency herror).2 hreason)
    rw [hdepartment] at hle
    rw [hlimit, hle.antisymm (outstanding_le_departmentModelLimit h hlimit)]

end

/-! One request streams, one has posted and a third is refused. -/

def threeRequests : List Event :=
  [.arrive smallRequest 0, .arrive smallRequest 1, .arrive smallRequest 2,
    .resume 0 (.body streamBody) 3, .resume 1 (.body postBody) 4,
    .resume 0 (.opened 200 []) 5, .resume 2 (.body postBody) 6]

theorem threeRequests_runs : (smallRun threeRequests).isSome = true := by decide +kernel

theorem leases_exact_threeRequests :
    LeasesExact smallConfig ((smallRun threeRequests).get threeRequests_runs) ∧
      outstandingLeases (ofModel "llama") ((smallRun threeRequests).get threeRequests_runs) = 2 :=
  ⟨leases_exact rfl (fun _ _ => rfl) (exec_get_reachable threeRequests_runs), by decide +kernel⟩

end VllmSourceGateway.LeaseAccounting
