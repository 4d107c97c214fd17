import VllmSourceGateway.AdmissionTokenWindow
import VllmSourceGateway.LeaseAccounting

set_option autoImplicit false

/-! How far the tokens of a window can exceed the budget. Tokens are charged when
a request ends, so the requests admitted below the budget may still add theirs.
The argument is by a potential: the tokens in the window and, for every lease of
the pair, the most that its request may still charge. -/
namespace VllmSourceGateway.TokenOversubscription
open PyValues UsageExtractors Metrics Config AdmissionControl GatewayEffects SlidingWindow
open AdmissionTokenWindow StreamBytes ProxyEndpoint RequestSegments RequestSlot GatewaySystem
open LeaseAccounting TransitionRuns

def charge (key : Key) : Effect → ℤ
  | .recordTokens department modelName tokens =>
    if (department, modelName) = key ∧ 0 < tokens then tokens else 0
  | _ => 0

def charged (key : Key) (effects : List Effect) : ℤ := (effects.map (charge key)).sum

section
variable (key : Key)

@[simp] theorem charged_nil : charged key [] = 0 := rfl

@[simp] theorem charged_cons (effect : Effect) (effects : List Effect) :
    charged key (effect :: effects) = charge key effect + charged key effects := List.sum_cons

@[simp] theorem charged_append (xs ys : List Effect) :
    charged key (xs ++ ys) = charged key xs + charged key ys := by
  simp only [charged, List.map_append, List.sum_append]

theorem charge_nonneg (effect : Effect) : 0 ≤ charge key effect := by
  cases effect with
  | recordTokens department modelName tokens =>
    simp only [charge]
    split <;> omega
  | _ => exact le_rfl

theorem charged_nonneg (effects : List Effect) : 0 ≤ charged key effects := by
  refine List.sum_nonneg fun n hn => ?_
  obtain ⟨effect, _, rfl⟩ := List.mem_map.mp hn
  exact charge_nonneg key effect

/-- The accounting of a request for another pair charges nothing to this one. -/
theorem charged_accounted {accepts : ℤ → Bool} {department modelName : String}
    {endpoint : Endpoint} {status : ℕ} {usage : Option Usage} {effects : List Effect}
    {raised : Option Exn} (hother : (department, modelName) ≠ key)
    (h : Accounted accepts department modelName endpoint status usage effects raised) :
    charged key effects = 0 := by
  have hincrement (event : ℤ → MetricEvent) (amount : ℤ) :
      charged key (increment event amount) = 0 := by
    simp only [increment]
    split <;> rfl
  cases h with
  | missing | promptRefused => rfl
  | generationRefused => exact hincrement _ _
  | recorded => simp [hincrement, recordTokenAccounting, charge, hother]

@[simp] theorem charged_noteUpstreamStatus (request : ProxyRequest) (modelName : String)
    (status : ℕ) : charged key (noteUpstreamStatus request modelName status) = 0 := by
  simp only [noteUpstreamStatus]
  split <;> split <;> rfl

theorem charged_handleResponse (P : Platform) {request : ProxyRequest} {modelName : String}
    (h : (request.department, modelName) ≠ key) (status : ℕ) (headers : List (String × String))
    (content : List UInt8) :
    charged key (handleResponse P request modelName status headers content).1 = 0 := by
  simp only [handleResponse]
  split
  · split <;> rfl
  · split
    · rfl
    · exact charged_accounted key h (accountUsage_cases _ _ _ _ _ _)

theorem charged_finallyBlock {ctx : StreamContext} (h : (ctx.department, ctx.modelName) ≠ key)
    (exit : Exit) : charged key (finallyBlock ctx exit).1 = 0 := by
  simp only [finallyBlock]
  split
  · rfl
  · split
    · rfl
    · split
      · rfl
      · simp [charge, charged_accounted key h (accountUsage_cases _ _ _ _ _ _)]

end

/-! ## Charges and grants of one resumption -/

section
variable {P : Platform} {config : AppConfig} {request : ProxyRequest} {g : Gateway} {now : ℚ}
  {key : Key}

theorem holds_lease {slot : Slot} {modelName : String} (henabled : config.admissionControl.enabled = true)
    (hkey : (request.department, modelName) = key)
    (hlease : slot.lease = leaseFor config request modelName) : holds (ofKey key) slot = true := by
  have hleased : leaseFor config request modelName =
      some ⟨request.department, modelName, request.endpoint⟩ := if_pos henabled
  simp [holds, hlease, hleased, ofKey, AdmissionLease.key, hkey]

/-- A resumption that charges the pair gives up a lease for it. -/
theorem segment_charges (henabled : config.admissionControl.enabled = true) {point point' : Point}
    {input : Input} {effects : List Effect} {leaked : Bool} {slot : Slot}
    (h : Segment P config request g now point input effects point')
    (hslot : SlotAt P config request leaked slot point) :
    charged key effects = 0 ∨
      holds (ofKey key) slot = true ∧ holds (ofKey key) (slot.observeAll effects) = false := by
  cases h with
  | rejected | misshapen | refused | unroutable | started | retried | exhausted | failed | broken
  | cancelled =>
    left
    rfl
  | opened => exact .inl (by simp [charge])
  | unbuildable => exact .inl (by simp [charge])
  | @answered flight statusCode headers content =>
    obtain ⟨_, hlease, rfl⟩ := hslot
    by_cases hkey : (request.department, flight.modelName) = key
    · right
      refine ⟨holds_lease henabled hkey hlease, ?_⟩
      simp [endAttempt, holds, returned]
    · left
      simp [endAttempt, charge, charged_handleResponse key P hkey]
  | @streamed ctx point point' input effects hresume =>
    obtain hgoes | ⟨outcome, rfl, hfinishes⟩ := resume_cases _ _ _ _ hresume
    · left
      rcases hgoes.effects with heffects | heffects <;> rw [heffects] <;> rfl
    · cases hfinishes with
      | unstarted | closeRaised =>
        left
        rfl
      | completed exit =>
        obtain ⟨hdepartment, hlease, _, rfl⟩ := hslot
        by_cases hkey : (ctx.department, ctx.modelName) = key
        · right
          rw [hdepartment] at hkey
          refine ⟨holds_lease henabled hkey hlease, ?_⟩
          rw [finallyBlock_slot]
          rfl
        · exact .inl (charged_finallyBlock key hkey exit)

/-- A lease that is held was held before or acquired on the way. -/
theorem observeAll_lease {slot : Slot} {effects : List Effect} {lease : AdmissionLease}
    (h : (slot.observeAll effects).lease = some lease) :
    slot.lease = some lease ∨
      ∃ department modelName endpoint,
        Effect.acquire department modelName endpoint (.ok (some lease)) ∈ effects := by
  induction effects generalizing slot with
  | nil => exact .inl h
  | cons effect effects ih =>
    rcases ih h with hfirst | ⟨department, modelName, endpoint, hmem⟩
    · unfold Slot.observe at hfirst
      split at hfirst
      · cases hfirst
        exact .inr ⟨_, _, _, List.mem_cons_self⟩
      · cases hfirst
      all_goals exact .inl hfirst
    · exact .inr ⟨department, modelName, endpoint, List.mem_cons_of_mem _ hmem⟩

theorem plain_not_acquire {effects : List Effect} (h : effects.all plain = true)
    {department modelName : String} {endpoint : Endpoint}
    {result : Except Rejection (Option AdmissionLease)} :
    Effect.acquire department modelName endpoint result ∉ effects := by
  intro hmem
  cases List.all_eq_true.mp h _ hmem

/-- The one acquisition of a segment is made in the state the segment starts in. -/
theorem segment_acquires {point point' : Point} {input : Input} {effects : List Effect}
    {department modelName : String} {endpoint : Endpoint} {lease : Option AdmissionLease}
    (h : Segment P config request g now point input effects point')
    (hmem : Effect.acquire department modelName endpoint (.ok lease) ∈ effects) :
    (acquire config.admissionControl now department modelName endpoint g.admission).1 =
      .ok lease := by
  cases h with
  | rejected | misshapen | refused | exhausted | failed | broken | cancelled =>
    simp [admission, endAttempt, raiseUpstreamTransportError] at hmem
  | unroutable hshape hacquire =>
    simp only [admission, List.mem_append, List.mem_cons, reduceCtorEq, List.not_mem_nil, false_or,
      or_false, Effect.acquire.injEq, Except.ok.injEq] at hmem
    obtain ⟨rfl, rfl, rfl, rfl⟩ := hmem
    exact hacquire
  | started hshape hacquire =>
    simp only [admission, selectAndContact, contactUpstream, List.mem_append, List.mem_cons,
      reduceCtorEq, List.not_mem_nil, false_or, or_false, Effect.acquire.injEq,
      Except.ok.injEq] at hmem
    obtain ⟨rfl, rfl, rfl, rfl⟩ := hmem
    exact hacquire
  | retried => simp [endAttempt, selectAndContact, contactUpstream] at hmem
  | opened =>
    refine absurd hmem (plain_not_acquire ?_)
    simp [plain, noteUpstreamStatus_plain]
  | unbuildable =>
    refine absurd hmem (plain_not_acquire ?_)
    simp [plain, noteUpstreamStatus_plain]
  | answered =>
    refine absurd hmem (plain_not_acquire ?_)
    simp [plain, endAttempt, noteUpstreamStatus_plain,
      plain_of_bookkeeping (handleResponse_bookkeeping _ _ _ _)]
  | streamed hresume =>
    obtain hgoes | ⟨outcome, rfl, hfinishes⟩ := resume_cases _ _ _ _ hresume
    · rcases hgoes.effects with heffects | heffects <;> simp [heffects] at hmem
    · cases hfinishes with
      | unstarted | closeRaised => cases hmem
      | completed exit => exact absurd hmem (plain_not_acquire (finallyBlock_plain _ exit))

/-- A resumption that leaves the request with a lease for the pair found it with
one, or was granted one. -/
theorem segment_grants {point point' : Point} {input : Input} {effects : List Effect} {slot : Slot}
    (h : Segment P config request g now point input effects point')
    (hheld : holds (ofKey key) (slot.observeAll effects) = true) :
    holds (ofKey key) slot = true ∨ ∃ endpoint lease,
      (acquire config.admissionControl now key.1 key.2 endpoint g.admission).1 =
        .ok (some lease) := by
  simp only [holds] at hheld
  split at hheld
  · rename_i lease hlease
    rcases observeAll_lease hlease with hbefore | ⟨department, modelName, endpoint, hmem⟩
    · left
      simpa only [holds, hbefore] using hheld
    · right
      have hacquire := segment_acquires h hmem
      have hfor := acquire_lease hacquire
      split at hfor
      · cases hfor
        obtain rfl : (department, modelName) = key := of_decide_eq_true hheld
        exact ⟨endpoint, _, hacquire⟩
      · cases hfor
  · cases hheld

/-- A grant for the pair has found the window below the budget. -/
theorem granted_below_budget {config : AdmissionControlConfig} {budget : TokenBudgetConfig}
    (hbudget : tokenBudget config key.1 key.2 = some budget) {history : History}
    (hchrono : Chronological history) (hpast : ∀ call ∈ history, call.1 ≤ now)
    {endpoint : Endpoint} {lease : AdmissionLease}
    (h : (acquire config now key.1 key.2 endpoint (replay config history)).1 = .ok (some lease)) :
    recordedWithin key budget.windowSeconds now history < budget.maxTokens := by
  by_cases hreaches : ReachesBudgetCheck config now (key.1, key.2) (replay config history)
  · have htotal := settle_total hreaches.enabled hbudget history hchrono now hpast
    rw [acquire_of_reaches config now key.1 key.2 endpoint _ hreaches] at h
    split at h
    · cases h
    · rename_i hspent
      simp only [budgetSpent, hbudget, decide_eq_true_eq, not_le] at hspent
      rwa [htotal] at hspent
  · obtain ⟨_, heq⟩ | ⟨_, _, _, _, heq⟩ :=
      acquire_of_not_reaches config now key.1 key.2 endpoint _ hreaches
    · rw [heq] at h
      cases h
    · rw [heq] at h
      cases h

end

/-! ## The window as time passes and calls are made -/

section
variable {key : Key} {window : ℚ}

theorem recordedWithin_later (key : Key) (window : ℚ) {clock now : ℚ} (h : clock ≤ now) (history : History) :
    recordedWithin key window now history ≤ recordedWithin key window clock history := by
  refine List.Sublist.sum_le_sum ?_ ?_
  · refine (List.monotone_filter_right _ fun e he => ?_).map Prod.snd
    rw [decide_eq_true_eq] at he ⊢
    exact (sub_le_sub_right h _).trans he
  · intro n hn
    obtain ⟨e, he, rfl⟩ := List.mem_map.mp hn
    exact (tokenRecords_pos key history e (List.mem_of_mem_filter he)).le

theorem tokenSum_callsAt (now : ℚ) (effects : List Effect) :
    tokenSum (tokenRecords key (callsAt now effects)) = charged key effects := by
  induction effects with
  | nil => rfl
  | cons effect effects ih =>
    rw [callsAt_cons, tokenRecords_append, tokenSum_append, ih, charged_cons]
    congr 1
    cases effect with
    | recordTokens department modelName tokens =>
      by_cases hcounts : (department, modelName) = key ∧ 0 < tokens
      · simp [Effect.admissionOp?, tokenRecords, charge, hcounts, tokenSum]
      · simp [Effect.admissionOp?, tokenRecords, charge, hcounts, tokenSum]
    | _ => rfl

theorem recordedWithin_callsAt (hwindow : 0 ≤ window) (now : ℚ) (history : History)
    (effects : List Effect) :
    recordedWithin key window now (history ++ callsAt now effects) =
      recordedWithin key window now history + charged key effects := by
  have hfresh : within Prod.fst window now (tokenRecords key (callsAt now effects)) =
      tokenRecords key (callsAt now effects) := by
    refine List.filter_eq_self.mpr fun e he => ?_
    obtain ⟨call, hcall, hop⟩ := List.mem_filterMap.mp he
    have htime := callsAt_time now effects call hcall
    have heq : e.1 = now := by
      split at hop
      · simp only [Option.ite_none_right_eq_some, Option.some.injEq] at hop
        rw [← hop.2, htime]
      · cases hop
    simpa [heq] using hwindow
  simp only [recordedWithin, tokenRecords_append]
  rw [← tokenSum_callsAt now effects]
  conv_rhs => rw [← hfresh]
  rw [← tokenSum_append]
  exact congrArg tokenSum (List.filter_append _ _)

end

/-- The tokens that the controller has recorded for the pair at most `window`
before `now`; with admission control off it records none. -/
def spentWithin (config : AppConfig) (key : Key) (window now : ℚ) (history : History) : ℤ :=
  if config.admissionControl.enabled then recordedWithin key window now history else 0

section
variable {P : Platform} {config : AppConfig} {s : System} {key : Key} {budget : TokenBudgetConfig}
  {limit : ℤ} {T : ℕ}

/-- The tokens in the window and what the outstanding leases may still add. -/
def potential (key : Key) (window : ℚ) (T : ℕ) (s : System) : ℤ :=
  recordedWithin key window s.clock (admissionCalls s.history) +
    T * outstandingLeases (ofKey key) s

theorem outstanding_le_limit (h : Reachable (step P config) (initial config) s)
    (hlimit : departmentModelLimit config.admissionControl key.1 key.2 = some limit ∨
      modelLimit config.admissionControl key.2 = some limit) :
    (outstandingLeases (ofKey key) s : ℤ) ≤ limit := by
  rcases hlimit with hlimit | hlimit
  · exact outstanding_le_departmentModelLimit h hlimit
  · have hmodel := outstanding_le_modelLimit h hlimit
    have hle : outstandingLeases (ofKey key) s ≤ outstandingLeases (ofModel key.2) s := by
      refine List.countP_mono_left fun task _ hheld => ?_
      simp only [holds] at hheld ⊢
      split at hheld
      · rename_i lease hlease
        obtain rfl : lease.key = key := of_decide_eq_true hheld
        simp [ofModel, AdmissionLease.key]
      · cases hheld
    omega

theorem arrive_potential {window : ℚ} {now : ℚ} (hclock : s.clock ≤ now) {request : ProxyRequest} :
    potential key window T (s.run config now (Task.start config request).trace
      (s.tasks ++ [Task.start config request])) ≤ potential key window T s := by
  have hslot : slotOf (Task.start config request).trace = holding none none := by
    simp only [Task.start, startRequest_effects]
    rfl
  have hcalls : admissionCalls (s.run config now (Task.start config request).trace
      (s.tasks ++ [Task.start config request])).history = admissionCalls s.history := by
    simp only [System.run, Task.start, startRequest_effects, admissionCalls_append]
    exact List.append_nil _
  have hcount : outstandingLeases (ofKey key) (s.run config now (Task.start config request).trace
      (s.tasks ++ [Task.start config request])) = outstandingLeases (ofKey key) s := by
    simp [outstandingLeases, System.run, hslot, holds, holding]
  simp only [potential, hcalls, hcount]
  exact add_le_add_left (recordedWithin_later _ _ hclock _) _

/-- What a resumption does to the potential: its charges are added, and the lease
of its request may be taken or given up. -/
theorem resume_potential_eq (config : AppConfig) (key : Key) (T : ℕ) {window : ℚ}
    (hwindow : 0 ≤ window) (now : ℚ) {before after : List Task} {task : Task} (input : Input)
    (effects : List Effect) (point : Point) (htasks : s.tasks = before ++ task :: after) :
    let s' := s.run config now effects (before ++ task.continue input effects point :: after)
    potential key window T s' = recordedWithin key window now (admissionCalls s.history) +
        charged key effects + T * outstandingLeases (ofKey key) s' ∧
      outstandingLeases (ofKey key) s' + (holds (ofKey key) (slotOf task.trace)).toNat =
        outstandingLeases (ofKey key) s +
          (holds (ofKey key) ((slotOf task.trace).observeAll effects)).toNat := by
  intro s'
  constructor
  · have hhistory : admissionCalls s'.history =
        admissionCalls s.history ++ callsAt now effects := admissionCalls_append _ _
    have hclock : s'.clock = now := rfl
    rw [potential, hhistory, hclock, recordedWithin_callsAt hwindow]
  · have hslotOf : slotOf (task.continue input effects point).trace =
        (slotOf task.trace).observeAll effects := observeAll_append _ _ _
    have hbefore := congrFun (outstandingLeases_split before after task htasks) (ofKey key)
    have hafter := congrFun (outstandingLeases_split (s := s') before after
      (task.continue input effects point) rfl) (ofKey key)
    rw [hslotOf] at hafter
    dsimp only [withSlot] at hbefore hafter
    omega

/-- A resumption keeps the potential below the bound: a charge is covered by the
lease it comes with, and a grant has just seen the window below the budget. -/
theorem resume_potential (henabled : config.admissionControl.enabled = true)
    (hbudget : tokenBudget config.admissionControl key.1 key.2 = some budget)
    (hlimit : departmentModelLimit config.admissionControl key.1 key.2 = some limit ∨
      modelLimit config.admissionControl key.2 = some limit)
    (hreach : Reachable (step P config) (initial config) s) {now : ℚ} {before after : List Task}
    {task : Task} {input : Input} {effects : List Effect} {point : Point} (hclock : s.clock ≤ now)
    (htasks : s.tasks = before ++ task :: after)
    (hsegment : Segment P config task.request s.gateway now task.point input effects point)
    (hreach' : Reachable (step P config) (initial config)
      (s.run config now effects (before ++ task.continue input effects point :: after)))
    (hcharged : charged key (task.trace ++ effects) ≤ T)
    (hinv : potential key budget.windowSeconds T s ≤ budget.maxTokens - 1 + limit * T) :
    potential key budget.windowSeconds T
      (s.run config now effects (before ++ task.continue input effects point :: after)) ≤
      budget.maxTokens - 1 + limit * T := by
  have hkept := history_kept hreach
  have hlater := recordedWithin_later key budget.windowSeconds hclock (admissionCalls s.history)
  have hcount := outstanding_le_limit hreach' hlimit
  obtain ⟨hpotential, hleases⟩ := resume_potential_eq config key T budget.windowSeconds_pos.le now
    input effects point htasks
  rw [hpotential]
  simp only [potential] at hinv
  rcases segment_charges henabled hsegment
    (task_slots hreach task (by simp [htasks])) with hnone | ⟨hheld, hgiven⟩
  · by_cases hheld' : holds (ofKey key) ((slotOf task.trace).observeAll effects) = true
    · rcases segment_grants hsegment hheld' with hheld | ⟨endpoint, lease, hacquire⟩
      · rw [hheld, hheld'] at hleases
        rw [Nat.add_right_cancel hleases, hnone]
        omega
      · rw [hkept.admission] at hacquire
        have hbelow := granted_below_budget hbudget hkept.chronological
          (fun call hcall => (hkept.past call hcall).trans hclock) hacquire
        have hmul := mul_le_mul_of_nonneg_right hcount (Int.natCast_nonneg T)
        rw [mul_comm (outstandingLeases _ _ : ℤ)] at hmul
        omega
    · rw [Bool.not_eq_true] at hheld'
      rw [hheld', Bool.toNat_false, Nat.add_zero] at hleases
      have hfewer := Nat.le.intro hleases
      have hmul := mul_le_mul_of_nonneg_left (Int.ofNat_le.mpr hfewer) (Int.natCast_nonneg T)
      omega
  · have hearlier := charged_nonneg key task.trace
    rw [charged_append] at hcharged
    rw [hheld, hgiven, Bool.toNat_true, Bool.toNat_false, add_zero] at hleases
    rw [← hleases, Nat.cast_add, Nat.cast_one, mul_add, mul_one] at hinv
    omega

theorem bound_nonneg (key : Key)
    (hlimit : departmentModelLimit config.admissionControl key.1 key.2 = some limit ∨
      modelLimit config.admissionControl key.2 = some limit) :
    0 ≤ budget.maxTokens - 1 + limit * T := by
  have hpos := budget.maxTokens_pos
  have hlimitPos : 0 < limit := hlimit.elim departmentModelLimit_pos modelLimit_pos
  have hmul := mul_nonneg hlimitPos.le (Int.natCast_nonneg T)
  omega

theorem initial_potential {window : ℚ} :
    potential key window T (initial config : System) = 0 := by
  simp [potential, GatewaySystem.initial, admissionCalls, recordedWithin, tokenRecords, within,
    tokenSum, outstandingLeases]

/-- Charges only grow, so a bound on them in a later state holds in an earlier one. -/
theorem charged_earlier {before after : List Task} {task : Task} {input : Input}
    {effects : List Effect} {point : Point} (htasks : s.tasks = before ++ task :: after)
    (hcharged : ∀ other ∈ before ++ task.continue input effects point :: after,
      charged key other.trace ≤ T) :
    ∀ other ∈ s.tasks, charged key other.trace ≤ T := by
  intro other hother
  rw [htasks] at hother
  rcases List.mem_append.mp hother with hold | hrest
  · exact hcharged other (by simp [hold])
  · rcases List.mem_cons.mp hrest with rfl | hold
    · have hmine := hcharged (other.continue input effects point) (by simp)
      have hlater := charged_nonneg key effects
      simp only [Task.continue, charged_append] at hmine
      omega
    · exact hcharged other (by simp [hold])

theorem potential_bounded (key : Key)
    (henabled : config.admissionControl.enabled = true)
    (hbudget : tokenBudget config.admissionControl key.1 key.2 = some budget)
    (hlimit : departmentModelLimit config.admissionControl key.1 key.2 = some limit ∨
      modelLimit config.admissionControl key.2 = some limit)
    (h : Reachable (step P config) (initial config) s) :
    (∀ task ∈ s.tasks, charged key task.trace ≤ T) →
      potential key budget.windowSeconds T s ≤ budget.maxTokens - 1 + limit * T := by
  refine h.invariant (fun s => (∀ task ∈ s.tasks, charged key task.trace ≤ T) →
    potential key budget.windowSeconds T s ≤ budget.maxTokens - 1 + limit * T) (fun _ => ?_) ?_
  · rw [initial_potential]
    exact bound_nonneg key hlimit
  · intro s event s' hreach hinv hstep hcharged
    have hreach' := hreach.next hstep
    cases step_cases hstep with
    | arrive hclock =>
      refine (arrive_potential hclock).trans (hinv fun task htask => hcharged task ?_)
      exact List.mem_append_left _ htask
    | @resume i input now before after task effects point hclock htasks hindex hsegment =>
      have hmine := hcharged (task.continue input effects point) (by simp [System.run])
      exact resume_potential henabled hbudget hlimit hreach hclock htasks hsegment hreach' hmine
        (hinv (charged_earlier htasks hcharged))
    | setHealth hset => exact hinv hcharged

/-- If no request records more than `T` tokens for the pair, the tokens in the
window stay below the budget and `limit` times `T`. -/
theorem tokens_oversubscription_bounded (h : Reachable (step P config) (initial config) s)
    {department modelName : String}
    (hbudget : tokenBudget config.admissionControl department modelName = some budget)
    (hlimit : departmentModelLimit config.admissionControl department modelName = some limit ∨
      modelLimit config.admissionControl modelName = some limit)
    (hcharged : ∀ task ∈ s.tasks, charged (department, modelName) task.trace ≤ T) {now : ℚ}
    (hnow : s.clock ≤ now) :
    spentWithin config (department, modelName) budget.windowSeconds now
      (admissionCalls s.history) ≤ budget.maxTokens - 1 + limit * T := by
  by_cases henabled : config.admissionControl.enabled = true
  · have hpotential := potential_bounded (department, modelName) henabled hbudget hlimit h hcharged
    have hlater := recordedWithin_later (department, modelName) budget.windowSeconds hnow
      (admissionCalls s.history)
    have hcovered : (0 : ℤ) ≤ T * outstandingLeases (ofKey (department, modelName)) s :=
      mul_nonneg (Int.natCast_nonneg _) (Int.natCast_nonneg _)
    simp only [potential] at hpotential
    simp only [spentWithin, henabled, if_true]
    omega
  · simp only [spentWithin, henabled]
    exact bound_nonneg (department, modelName) hlimit

end

/-! Two requests are admitted together and each charges eight tokens. -/

def twoCharges : List Event :=
  [.arrive smallRequest 0, .arrive smallRequest 0, .resume 0 (.body postBody) 1,
    .resume 1 (.body postBody) 2, .resume 0 (.response 200 [] usageBody) 3,
    .resume 1 (.response 200 [] usageBody) 4]

theorem twoCharges_runs : (smallRun twoCharges).isSome = true := by decide +kernel

theorem tokens_oversubscription_twoCharges :
    let s := (smallRun twoCharges).get twoCharges_runs
    spentWithin smallConfig ("research", "llama") 60 4 (admissionCalls s.history) = 16 ∧
      spentWithin smallConfig ("research", "llama") 60 4 (admissionCalls s.history) ≤
        10 - 1 + 2 * (8 : ℕ) := by
  refine ⟨by decide +kernel, ?_⟩
  have hbudget : tokenBudget smallConfig.admissionControl "research" "llama" =
      some ⟨"research", "llama", 10, 60, by decide, by decide⟩ := rfl
  exact tokens_oversubscription_bounded (exec_get_reachable twoCharges_runs) hbudget (.inr rfl)
    (by decide +kernel) (by decide +kernel)

end VllmSourceGateway.TokenOversubscription
