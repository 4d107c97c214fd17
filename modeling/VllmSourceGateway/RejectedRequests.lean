import VllmSourceGateway.AdmissionTokenWindow
import VllmSourceGateway.LeaseAccounting

set_option autoImplicit false

/-! A request that never contacts an upstream leaves no trace on the others: without
it the same run goes through, step by step, with the same answers. What it may
leave behind is a pruned token window, which no later call can tell apart. -/
namespace VllmSourceGateway.RejectedRequests
open PyText PyValues UsageExtractors Metrics Config AdmissionControl AdmissionTokenWindow Routing
open GatewayEffects StreamBytes ProxyEndpoint RequestSegments GatewaySystem LeaseAccounting
open TransitionRuns

/-! ## Controllers that cannot be told apart -/

/-- The two differ in nothing but which expired token events they have dropped. -/
structure Alike (config : AdmissionControlConfig) (clock : ℚ) (c c' : AdmissionController) :
    Prop where
  model : c.activeByModel = c'.activeByModel
  departmentModel : c.activeByDepartmentModel = c'.activeByDepartmentModel
  retries : c.retryEvents = c'.retryEvents
  cooldown : c.cooldownUntil = c'.cooldownUntil
  tokens : config.enabled = true → ∀ key budget, tokenBudget config key.1 key.2 = some budget →
    ∃ records, TokenInv budget.windowSeconds clock records key c ∧
      TokenInv budget.windowSeconds clock records key c'

section
variable {config : AdmissionControlConfig} {clock now : ℚ} {c c' c₁ : AdmissionController}

theorem alike_initial (config : AdmissionControlConfig) (clock : ℚ) :
    Alike config clock AdmissionControl.initial AdmissionControl.initial := by
  refine ⟨rfl, rfl, rfl, rfl, fun _ key budget _ => ⟨[], ?_, ?_⟩⟩
  · exact ⟨.nil _ _ _, by simp [AdmissionControl.initial], rfl⟩
  · exact ⟨.nil _ _ _, by simp [AdmissionControl.initial], rfl⟩

theorem Alike.symm (h : Alike config clock c c') : Alike config clock c' c := by
  refine ⟨h.model.symm, h.departmentModel.symm, h.retries.symm, h.cooldown.symm, ?_⟩
  intro henabled key budget hbudget
  obtain ⟨records, hleft, hright⟩ := h.tokens henabled key budget hbudget
  exact ⟨records, hright, hleft⟩

theorem Alike.later (h : Alike config clock c c') (hc : clock ≤ now) : Alike config now c c' := by
  refine ⟨h.model, h.departmentModel, h.retries, h.cooldown, ?_⟩
  intro henabled key budget hbudget
  obtain ⟨records, hleft, hright⟩ := h.tokens henabled key budget hbudget
  exact ⟨records, hleft.later hc, hright.later hc⟩

/-- What does not touch the token events has to agree on the rest. -/
theorem Alike.same_tokens (h : Alike config clock c c') {d d' : AdmissionController}
    (hleft : d.tokenEvents = c.tokenEvents ∧ d.tokenTotals = c.tokenTotals)
    (hright : d'.tokenEvents = c'.tokenEvents ∧ d'.tokenTotals = c'.tokenTotals)
    (hmodel : d.activeByModel = d'.activeByModel)
    (hdepartment : d.activeByDepartmentModel = d'.activeByDepartmentModel)
    (hretries : d.retryEvents = d'.retryEvents) (hcooldown : d.cooldownUntil = d'.cooldownUntil) :
    Alike config clock d d' := by
  refine ⟨hmodel, hdepartment, hretries, hcooldown, ?_⟩
  intro henabled key budget hbudget
  obtain ⟨records, hinv, hinv'⟩ := h.tokens henabled key budget hbudget
  refine ⟨records, hinv.congr ?_ ?_, hinv'.congr ?_ ?_⟩
  · rw [hleft.1]
  · rw [hleft.2]
  · rw [hright.1]
  · rw [hright.2]

/-- Pruning one of them cannot be seen from then on. -/
theorem settle_left_alike (h : Alike config clock c c') (hc : clock ≤ now) (touched : Key) :
    Alike config now (settle config now touched c) c' := by
  have hfields : (settle config now touched c).activeByModel = c.activeByModel ∧
      (settle config now touched c).activeByDepartmentModel = c.activeByDepartmentModel ∧
      (settle config now touched c).retryEvents = c.retryEvents ∧
      (settle config now touched c).cooldownUntil = c.cooldownUntil := by
    simp only [settle]
    split <;> exact ⟨rfl, rfl, rfl, rfl⟩
  obtain ⟨hmodel, hdepartment, hretries, hcooldown⟩ := hfields
  refine ⟨hmodel.trans h.model, hdepartment.trans h.departmentModel, hretries.trans h.retries,
    hcooldown.trans h.cooldown, ?_⟩
  intro henabled key budget hbudget
  obtain ⟨records, hleft, hright⟩ := h.tokens henabled key budget hbudget
  exact ⟨records, settle_inv hbudget touched hleft hc, hright.later hc⟩

theorem settle_alike (h : Alike config clock c c') (hc : clock ≤ now) (touched : Key) :
    Alike config now (settle config now touched c) (settle config now touched c') := by
  have hleft := settle_left_alike h hc touched
  have hboth := settle_left_alike hleft.symm le_rfl touched
  exact hboth.symm

/-- Settled totals are those of the records, which the two share. -/
theorem budgetSpent_alike (h : Alike config clock c c') (henabled : config.enabled = true)
    (hc : clock ≤ now) (key : Key) :
    budgetSpent config key (settle config now key c) =
      budgetSpent config key (settle config now key c') := by
  cases hbudget : tokenBudget config key.1 key.2 with
  | none => simp only [budgetSpent, hbudget]
  | some budget =>
    obtain ⟨records, hleft, hright⟩ := h.tokens henabled key budget hbudget
    have htotal {c : AdmissionController} (hinv : TokenInv budget.windowSeconds clock records key c) :
        (pruneTokenEvents budget now key c).tokenTotals key =
          tokenSum (SlidingWindow.within Prod.fst budget.windowSeconds now records) := by
      rw [(hinv.prune budget hc).total, pruneTokenEvents_events, Function.update_self,
        hinv.retained.expire_eq hc]
    simp only [budgetSpent, settle, hbudget, htotal hleft,
      htotal hright]

theorem reaches_alike (h : Alike config clock c c') (key : Key) :
    ReachesBudgetCheck config now key c ↔ ReachesBudgetCheck config now key c' := by
  constructor
  · intro hreaches
    exact ⟨hreaches.enabled, h.cooldown ▸ hreaches.guardClosed, h.model ▸ hreaches.modelFree,
      h.departmentModel ▸ hreaches.departmentModelFree⟩
  · intro hreaches
    exact ⟨hreaches.enabled, h.cooldown ▸ hreaches.guardClosed, h.model ▸ hreaches.modelFree,
      h.departmentModel ▸ hreaches.departmentModelFree⟩

theorem acquire_alike (h : Alike config clock c c') (hc : clock ≤ now)
    (department modelName : String) (endpoint : Endpoint) :
    (acquire config now department modelName endpoint c).1 =
        (acquire config now department modelName endpoint c').1 ∧
      Alike config now (acquire config now department modelName endpoint c).2.1
        (acquire config now department modelName endpoint c').2.1 := by
  by_cases hreaches : ReachesBudgetCheck config now (department, modelName) c
  · have hsettled := settle_alike h hc (department, modelName)
    rw [acquire_of_reaches config now department modelName endpoint c hreaches,
      acquire_of_reaches config now department modelName endpoint c' ((reaches_alike h _).mp hreaches),
      budgetSpent_alike h hreaches.enabled hc]
    split
    · exact ⟨rfl, hsettled⟩
    · refine ⟨rfl, ?_⟩
      simp only [grantLease, hsettled.model, hsettled.departmentModel]
      exact hsettled.same_tokens ⟨rfl, rfl⟩ ⟨rfl, rfl⟩ rfl rfl hsettled.retries hsettled.cooldown
  · -- the call stops at a check that reads the shared fields only
    have hlater := h.later hc
    simp only [acquire, ← h.model, ← h.departmentModel, ← h.cooldown]
    split_ifs with henabled hguard hmodel hdepartment
    · exact ⟨rfl, hlater⟩
    · exact ⟨rfl, hlater⟩
    · exact ⟨rfl, hlater⟩
    · exact ⟨rfl, hlater⟩
    · exact absurd ⟨by simpa using henabled, not_lt.mp hguard, by simpa using hmodel,
        by simpa using hdepartment⟩ hreaches

theorem release_alike (h : Alike config clock c c') (lease : Option AdmissionLease) :
    Alike config clock (release lease c).1 (release lease c').1 := by
  cases lease with
  | none => exact h
  | some lease =>
    simp only [release, h.model, h.departmentModel]
    exact h.same_tokens ⟨rfl, rfl⟩ ⟨rfl, rfl⟩ rfl rfl h.retries h.cooldown

theorem recordTokens_alike (h : Alike config clock c c') (hc : clock ≤ now)
    (department modelName : String) (tokens : ℤ) :
    Alike config now (recordTokens config now department modelName tokens c)
      (recordTokens config now department modelName tokens c') := by
  have hfields (c : AdmissionController) :
      (recordTokens config now department modelName tokens c).retryEvents =
          c.retryEvents ∧
        (recordTokens config now department modelName tokens c).cooldownUntil =
          c.cooldownUntil := by
    simp only [recordTokens]
    split
    · exact ⟨rfl, rfl⟩
    · split <;> exact ⟨rfl, rfl⟩
  obtain ⟨hmodel, hdepartment⟩ : SameActive c
      (recordTokens config now department modelName tokens c) :=
    recordTokens_active department modelName tokens
  obtain ⟨hmodel', hdepartment'⟩ : SameActive c'
      (recordTokens config now department modelName tokens c') :=
    recordTokens_active department modelName tokens
  refine ⟨?_, ?_, ?_, ?_, ?_⟩
  · rw [hmodel, hmodel', h.model]
  · rw [hdepartment, hdepartment', h.departmentModel]
  · rw [(hfields c).1, (hfields c').1, h.retries]
  · rw [(hfields c).2, (hfields c').2, h.cooldown]
  · intro henabled key budget hbudget
    obtain ⟨records, hleft, hright⟩ := h.tokens henabled key budget hbudget
    exact ⟨_, recordTokens_inv henabled hbudget department modelName tokens hleft hc,
      recordTokens_inv henabled hbudget department modelName tokens hright hc⟩

theorem recordRetryEvent_alike (h : Alike config clock c c') (hc : clock ≤ now)
    (department modelName : String) :
    Alike config now (recordRetryEvent config now department modelName c).1
      (recordRetryEvent config now department modelName c').1 := by
  have hlater := h.later hc
  simp only [recordRetryEvent, h.retries, h.cooldown]
  split_ifs
  · exact hlater
  · exact hlater
  · exact hlater.same_tokens ⟨rfl, rfl⟩ ⟨rfl, rfl⟩ h.model h.departmentModel rfl rfl
  · exact hlater.same_tokens ⟨rfl, rfl⟩ ⟨rfl, rfl⟩ h.model h.departmentModel rfl rfl

/-- No call tells the two apart. -/
theorem apply_alike (h : Alike config clock c c') (hc : clock ≤ now) (op : AdmissionOp) :
    Alike config now (apply config now c op).1 (apply config now c' op).1 := by
  cases op with
  | checkRequestShape => exact h.later hc
  | acquire department modelName endpoint => exact (acquire_alike h hc department modelName endpoint).2
  | release lease => exact release_alike (h.later hc) lease
  | recordTokens department modelName tokens =>
    exact recordTokens_alike h hc department modelName tokens
  | recordRetryEvent department modelName => exact recordRetryEvent_alike h hc department modelName

theorem refused_alike (h : Alike config clock c c') (hc : clock ≤ now)
    {department modelName : String} {endpoint : Endpoint} {rejection : Rejection}
    (hrefused : (acquire config now department modelName endpoint c).1 = .error rejection) :
    Alike config now (acquire config now department modelName endpoint c).2.1 c' := by
  obtain ⟨_, heq⟩ | ⟨_, _, _, c₁, _, hstate, _, heq⟩ | ⟨_, heq⟩ :=
    acquire_cases config now department modelName endpoint c
  · rw [heq]
    exact h.later hc
  · rw [heq]
    rcases hstate with rfl | rfl
    · exact h.later hc
    · exact settle_left_alike h hc (department, modelName)
  · rw [heq] at hrefused
    cases hrefused

/-- The counters are never negative, so that giving a lease back undoes taking it. -/
structure Counting (c : AdmissionController) : Prop where
  model : ∀ modelName, 0 ≤ c.activeByModel modelName
  departmentModel : ∀ key, 0 ≤ c.activeByDepartmentModel key

/-- A lease that is given back at once leaves the counters as they were. -/
theorem returned_alike (h : Alike config clock c c') (hc : clock ≤ now)
    (hcounting : Counting c) {department modelName : String} {endpoint : Endpoint}
    {lease : Option AdmissionLease}
    (hgranted : (acquire config now department modelName endpoint c).1 = .ok lease) :
    Alike config now (release lease (acquire config now department modelName endpoint c).2.1).1
      c' := by
  obtain ⟨_, heq⟩ | ⟨_, _, _, _, _, _, _, heq⟩ | ⟨_, heq⟩ :=
    acquire_cases config now department modelName endpoint c
  · rw [heq] at hgranted ⊢
    cases hgranted
    exact h.later hc
  · rw [heq] at hgranted
    cases hgranted
  · rw [heq] at hgranted ⊢
    cases hgranted
    have hsettled := settle_left_alike h hc (department, modelName)
    obtain ⟨hsame, hsame'⟩ := settle_active config now (department, modelName) c
    have hback (active : ℤ) (hpos : 0 ≤ active) : max 0 (active + 1 - 1) = active := by omega
    refine hsettled.same_tokens ⟨rfl, rfl⟩ ⟨rfl, rfl⟩ ?_ ?_ hsettled.retries hsettled.cooldown
    · simp only [grantLease, release, Function.update_self, Function.update_idem,
        hsame, hback _ (hcounting.model modelName), Function.update_eq_self]
      exact h.model
    · simp only [grantLease, release, AdmissionLease.key, Function.update_self,
        Function.update_idem, hsame', hback _ (hcounting.departmentModel (department, modelName)),
        Function.update_eq_self]
      exact h.departmentModel

end

/-! ## One resumption on either of two gateways -/

/-- The gateways show the same to every request. -/
structure SameService (config : AppConfig) (clock : ℚ) (g g' : Gateway) : Prop where
  admission : Alike config.admissionControl clock g.admission g'.admission
  registry : g.registry = g'.registry

section
variable {P : Platform} {config : AppConfig} {clock now : ℚ} {g g' : Gateway}

theorem perform_service (h : SameService config clock g g') (hc : clock ≤ now) (effect : Effect) :
    SameService config now (perform config.admissionControl now g effect)
      (perform config.admissionControl now g' effect) := by
  cases hop : effect.admissionOp? with
  | some op =>
    simp only [perform, hop]
    exact ⟨apply_alike h.admission hc op, h.registry⟩
  | none =>
    have hlater := h.admission.later hc
    cases effect with
    | selectUpstream modelName excluded result =>
      exact ⟨hlater, by simp only [perform, Effect.admissionOp?, h.registry]⟩
    | metric | requestMetrics | contact | attemptEnded | exchangeClosed => exact ⟨hlater, h.registry⟩
    | checkRequestShape | acquire | release | recordTokens | recordRetryEvent => cases hop

theorem performAll_service (h : SameService config clock g g') (hc : clock ≤ now)
    (effects : List Effect) :
    SameService config now (performAll config.admissionControl now g effects)
      (performAll config.admissionControl now g' effects) := by
  induction effects generalizing g g' clock with
  | nil => exact ⟨h.admission.later hc, h.registry⟩
  | cons effect effects ih => exact ih (perform_service h hc effect) le_rfl

/-- What a request does next it does on both. -/
theorem advance_service (h : SameService config clock g g') (hc : clock ≤ now)
    (request : ProxyRequest) (point : Point) (input : Input) :
    advance P config request g now point input = advance P config request g' now point input := by
  have hacquire (department modelName : String) (endpoint : Endpoint) :=
    (acquire_alike h.admission hc department modelName endpoint).1
  have hselect (modelName : String) (excluded : List String) :
      selectUpstreamFor g modelName excluded = selectUpstreamFor g' modelName excluded := by
    simp only [selectUpstreamFor, h.registry]
  cases point with
  | awaitBody =>
    cases input with
    | body requestBody =>
      simp only [advance, afterBody, handleBody, admitRequest, startStreaming, startPosting,
        h.registry, hacquire, hselect]
    | opened | response | raised | stream => rfl
  | awaitSend flight =>
    cases input with
    | raised e => cases e <;> simp only [advance, afterSend, hselect]
    | body | opened | response | stream => rfl
  | awaitPost flight =>
    cases input with
    | raised e => cases e <;> simp only [advance, afterPost, hselect]
    | body | opened | response | stream => rfl
  | streaming ctx point => cases input <;> rfl
  | finished outcome => rfl

def contacts : Effect → Bool
  | .contact _ _ _ _ => true
  | _ => false

/-- So is every request that is refused before its first attempt. -/
def Uncontacted (task : Task) : Prop := ∀ effect ∈ task.trace, contacts effect = false

def NotUnderWay (point : Point) : Prop := point = .awaitBody ∨ ∃ outcome, point = .finished outcome

theorem selectAndContact_contacts (request : ProxyRequest) (excluded : List String)
    (flight : Flight) :
    ∃ effect ∈ selectAndContact request excluded flight, contacts effect = true :=
  ⟨contactUpstream request flight, by simp [selectAndContact], rfl⟩

/-- From the body on it is rejected at once, which no other request can see. -/
theorem uncontacted_segment {request : ProxyRequest} {point point' : Point} {input : Input}
    {effects : List Effect} (hpoint : NotUnderWay point)
    (hsegment : Segment P config request g now point input effects point')
    (hnone : ∀ effect ∈ effects, contacts effect = false) :
    (∃ outcome, point' = .finished outcome) ∧
      ∀ clock g', SameService config clock g g' → clock ≤ now → Counting g.admission →
        SameService config now (performAll config.admissionControl now g effects) g' := by
  cases hsegment with
  | rejected => exact ⟨⟨_, rfl⟩, fun clock g' h hc _ => ⟨h.admission.later hc, h.registry⟩⟩
  | misshapen => exact ⟨⟨_, rfl⟩, fun clock g' h hc _ => ⟨h.admission.later hc, h.registry⟩⟩
  | refused hshape hacquire =>
    refine ⟨⟨_, rfl⟩, fun clock g' h hc _ => ⟨?_, h.registry⟩⟩
    exact refused_alike h.admission hc hacquire
  | unroutable hshape hacquire hselect =>
    refine ⟨⟨_, rfl⟩, fun clock g' h hc hcounting => ⟨?_, ?_⟩⟩
    · exact returned_alike h.admission hc hcounting hacquire
    · exact (selectUpstream_error g.registry [] hselect).1.trans h.registry
  | started =>
    obtain ⟨effect, hmem, hcontacts⟩ := selectAndContact_contacts request [] _
    rw [hnone effect (List.mem_append_right _ hmem)] at hcontacts
    cases hcontacts
  | retried =>
    obtain ⟨effect, hmem, hcontacts⟩ := selectAndContact_contacts request _ _
    rw [hnone effect (List.mem_append_right _ hmem)] at hcontacts
    cases hcontacts
  | exhausted _ _ hflight => rcases hpoint with rfl | ⟨_, rfl⟩ <;> simp at hflight
  | failed _ hflight => rcases hpoint with rfl | ⟨_, rfl⟩ <;> simp at hflight
  | broken _ hflight => rcases hpoint with rfl | ⟨_, rfl⟩ <;> simp at hflight
  | cancelled => simp [NotUnderWay] at hpoint
  | opened => simp [NotUnderWay] at hpoint
  | unbuildable => simp [NotUnderWay] at hpoint
  | answered => simp [NotUnderWay] at hpoint
  | streamed => simp [NotUnderWay] at hpoint

theorem uncontacted_point {s : System} (h : Reachable (step P config) (initial config) s) :
    ∀ task ∈ s.tasks, Uncontacted task → NotUnderWay task.point := by
  refine task_invariant (fun task => Uncontacted task → NotUnderWay task.point) ?_ ?_ h
  · intro request _
    simp only [Task.start, startRequest]
    split
    · exact .inr ⟨_, rfl⟩
    · split
      · exact .inr ⟨_, rfl⟩
      · exact .inl rfl
  · intro task g now input effects point _ hinv hsegment hnone
    have hpast : Uncontacted task := fun effect hmem => hnone effect (List.mem_append_left _ hmem)
    have hnow : ∀ effect ∈ effects, contacts effect = false :=
      fun effect hmem => hnone effect (List.mem_append_right _ hmem)
    exact .inr (uncontacted_segment (hinv hpast) hsegment hnow).1

end

def concerns (j : ℕ) (v : System × Event) : Bool :=
  match v.2 with
  | .arrive _ _ => v.1.tasks.length = j
  | .resume i _ _ => i = j
  | .setHealth _ _ _ _ _ _ => false

def others (j : ℕ) (vs : List (System × Event)) : List (System × Event) :=
  vs.filter fun v => !concerns j v

def renumber (j : ℕ) : Event → Event
  | .resume i input now => .resume (if j < i then i - 1 else i) input now
  | event => event

section
variable (P : Platform) (config : AppConfig) (j : ℕ)

def answer (v : System × Event) : Option (ℚ × List Effect × Point) :=
  match v.2 with
  | .arrive request now => some (now, startRequest config request)
  | .resume i input now =>
    match v.1.tasks[i]? with
    | none => none
    | some task =>
      (advance P config task.request v.1.gateway now task.point input).map fun result =>
        (now, result)
  | .setHealth _ _ _ _ _ _ => none

/-- The second system is the first one without request `j`. -/
structure Without (s s' : System) : Prop where
  service : SameService config s.clock s.gateway s'.gateway
  tasks : s'.tasks = s.tasks.eraseIdx j
  clock : s'.clock ≤ s.clock

variable {P config j} {s s' t : System} {event : Event}

theorem append_eraseIdx {tasks : List Task} (h : tasks.length ≠ j) (task : Task) :
    (tasks ++ [task]).eraseIdx j = tasks.eraseIdx j ++ [task] := by
  rcases Nat.lt_or_gt_of_ne h with hlt | hgt
  · rw [List.eraseIdx_of_length_le hlt.le, List.eraseIdx_of_length_le]
    rw [List.length_append, List.length_singleton]
    exact hlt
  · exact List.eraseIdx_append_of_lt_length hgt [task]

/-- Where request `i` is found without request `j`. -/
theorem getElem?_without {tasks : List Task} {i : ℕ} (h : i ≠ j) :
    (tasks.eraseIdx j)[if j < i then i - 1 else i]? = tasks[i]? := by
  split
  · rename_i hlt
    rw [List.getElem?_eraseIdx_of_ge (by omega), Nat.sub_add_cancel (by omega)]
  · exact List.getElem?_eraseIdx_of_lt (by omega)

theorem set_without {tasks : List Task} {i : ℕ} (h : i ≠ j) (task : Task) :
    (tasks.set i task).eraseIdx j =
      (tasks.eraseIdx j).set (if j < i then i - 1 else i) task := by
  split
  · rename_i hlt
    exact List.eraseIdx_set_lt hlt
  · rename_i hle
    exact List.eraseIdx_set_gt (Nat.lt_of_le_of_ne (not_lt.mp hle) h)

theorem Without.run (h : Without config j s s') {now : ℚ} (hclock : s.clock ≤ now)
    (effects : List Effect) {tasks tasks' : List Task} (htasks : tasks' = tasks.eraseIdx j) :
    Without config j (s.run config now effects tasks) (s'.run config now effects tasks') :=
  ⟨performAll_service h.service hclock effects, htasks, le_rfl⟩

/-- Another request's step, or the health monitor's. -/
theorem step_other (h : Without config j s s') (hother : concerns j (s, event) = false)
    (hstep : step P config s event = some t) :
    ∃ t', step P config s' (renumber j event) = some t' ∧ Without config j t t' ∧
      answer P config (s', renumber j event) = answer P config (s, event) := by
  cases event with
  | arrive request now =>
    have hlength : s.tasks.length ≠ j := by simpa [concerns] using hother
    simp only [step] at hstep
    split at hstep
    · cases hstep
    · rename_i hclock
      cases hstep
      have hclock' : ¬ now < s'.clock := not_lt.mpr (h.clock.trans (not_lt.mp hclock))
      refine ⟨_, if_neg hclock', h.run (not_lt.mp hclock) _ ?_, rfl⟩
      rw [append_eraseIdx hlength, h.tasks]
  | resume i input now =>
    have hi : i ≠ j := by simpa [concerns] using hother
    simp only [step] at hstep
    split at hstep
    · cases hstep
    · rename_i hclock
      have hclock' : ¬ now < s'.clock := not_lt.mpr (h.clock.trans (not_lt.mp hclock))
      have hfound : s'.tasks[if j < i then i - 1 else i]? = s.tasks[i]? := by
        rw [h.tasks, getElem?_without hi]
      split at hstep
      · cases hstep
      · rename_i task htask
        have hadvance : advance P config task.request s.gateway now task.point input =
            advance P config task.request s'.gateway now task.point input :=
          advance_service h.service (not_lt.mp hclock) task.request task.point input
        split at hstep
        · cases hstep
        · rename_i effects point hsegment
          cases hstep
          refine ⟨s'.run config now effects (s'.tasks.set (if j < i then i - 1 else i)
            (task.continue input effects point)), ?_, h.run (not_lt.mp hclock) effects ?_, ?_⟩
          · simp only [renumber, step, hclock', if_false, hfound, htask, ← hadvance, hsegment]
          · rw [set_without hi, h.tasks]
          · simp only [answer, renumber, hfound, htask, hadvance]
  | setHealth upstreamName healthy lastProbeAt lastSuccessAt lastStatusCode lastError =>
    simp only [step] at hstep
    split at hstep
    · cases hstep
    · rename_i registry hset
      cases hstep
      refine ⟨{ s' with gateway := { s'.gateway with registry := registry } }, ?_, ?_, rfl⟩
      · simp only [renumber, step, ← h.service.registry, hset]
      · exact ⟨⟨h.service.admission, rfl⟩, h.tasks, h.clock⟩

def Quiet (j : ℕ) (s : System) : Prop := ∀ task, s.tasks[j]? = some task → Uncontacted task

/-- Traces only grow. -/
theorem quiet_before (h : Quiet j t) (hstep : step P config s event = some t) : Quiet j s := by
  intro task htask
  cases step_cases hstep with
  | arrive =>
    obtain ⟨hlt, _⟩ := List.getElem?_eq_some_iff.mp htask
    exact h task ((List.getElem?_append_left hlt).trans htask)
  | @resume i input now before after resumed effects point _ htasks hindex =>
    by_cases hi : j = i
    · have hsame : task = resumed := by
        rw [htasks, hi, ← hindex] at htask
        simpa using htask.symm
      have hquiet : Uncontacted (resumed.continue input effects point) :=
        h _ (by rw [hi, ← hindex]; simp [System.run])
      rw [hsame]
      exact fun effect hmem => hquiet effect (List.mem_append_left _ hmem)
    · refine h task (Eq.trans ?_ htask)
      simp only [System.run, htasks, ← hindex] at hi ⊢
      rcases Nat.lt_or_gt_of_ne hi with hlt | hgt
      · rw [List.getElem?_append_left hlt, List.getElem?_append_left hlt]
      · rw [List.getElem?_append_right hgt.le, List.getElem?_append_right hgt.le]
        obtain ⟨k, rfl⟩ := Nat.exists_eq_add_of_lt hgt
        simp [show before.length + k + 1 - before.length = k + 1 by omega]
  | setHealth => exact h task htask

theorem counting {s : System} (h : Reachable (step P config) (GatewaySystem.initial config) s) :
    Counting s.gateway.admission := by
  obtain ⟨hmodel, hdepartment, _⟩ := (accounted h).balanced
  refine ⟨fun modelName => ?_, fun key => ?_⟩
  · rw [hmodel]
    exact Int.natCast_nonneg _
  · rw [hdepartment]
    exact Int.natCast_nonneg _

/-- A step of request `j` itself, which contacts nobody. -/
theorem step_own (hreach : Reachable (step P config) (GatewaySystem.initial config) s)
    (h : Without config j s s') (hown : concerns j (s, event) = true) (hquiet : Quiet j t)
    (hstep : step P config s event = some t) : Without config j t s' := by
  have hbefore := quiet_before hquiet hstep
  cases step_cases hstep with
  | @arrive request now hclock =>
    have hlength : s.tasks.length = j := by simpa [concerns] using hown
    have heffects := startRequest_effects config request
    refine ⟨⟨?_, ?_⟩, ?_, h.clock.trans hclock⟩
    · simp only [System.run, Task.start, heffects]
      exact h.service.admission.later hclock
    · simp only [System.run, Task.start, heffects]
      exact h.service.registry
    · rw [h.tasks, List.eraseIdx_of_length_le hlength.le, ← hlength]
      simp [System.run, List.eraseIdx_append_of_length_le]
  | @resume i input now before after task effects point hclock htasks hindex hsegment =>
    obtain rfl : i = j := by simpa [concerns] using hown
    have hmine : s.tasks[i]? = some task := by simp [htasks, ← hindex]
    have hpoint := uncontacted_point hreach task (List.mem_of_getElem? hmine) (hbefore task hmine)
    have hnow : Uncontacted (task.continue input effects point) :=
      hquiet _ (by rw [← hindex]; simp [System.run])
    have hnone : ∀ effect ∈ effects, contacts effect = false :=
      fun effect hmem => hnow effect (List.mem_append_right _ hmem)
    obtain ⟨_, hservice⟩ := uncontacted_segment hpoint hsegment hnone
    refine ⟨hservice s.clock s'.gateway h.service hclock (counting hreach), ?_,
      h.clock.trans hclock⟩
    rw [h.tasks, htasks, ← hindex]
    simp [System.run, List.eraseIdx_append_of_length_le]
  | setHealth => cases hown

/-- By induction on the run: the steps of the others go through on what they leave. -/
theorem runs_without {vs : List (System × Event)}
    (run : Run (step P config) (GatewaySystem.initial config) vs s) : Quiet j s →
    ∃ vs' s', Run (step P config) (GatewaySystem.initial config) vs' s' ∧ Without config j s s' ∧
      vs'.map Prod.snd = (others j vs).map (fun v => renumber j v.2) ∧
      vs'.map (answer P config) = (others j vs).map (answer P config) := by
  refine run.invariant (fun vs s => Quiet j s → ∃ vs' s',
    Run (step P config) (GatewaySystem.initial config) vs' s' ∧ Without config j s s' ∧
      vs'.map Prod.snd = (others j vs).map (fun v => renumber j v.2) ∧
      vs'.map (answer P config) = (others j vs).map (answer P config)) ?_ ?_
  · intro _
    refine ⟨[], _, .refl, ⟨⟨alike_initial _ _, rfl⟩, rfl, le_rfl⟩, rfl, rfl⟩
  · intro vs s event t run ih hstep hquiet
    obtain ⟨vs', s', run', hwithout, hevents, hanswers⟩ := ih (quiet_before hquiet hstep)
    cases hconcerns : concerns j (s, event) with
    | true =>
      have hothers : others j (vs ++ [(s, event)]) = others j vs := by
        simp [others, hconcerns]
      rw [hothers]
      exact ⟨vs', s', run', step_own run.reachable hwithout hconcerns hquiet hstep, hevents,
        hanswers⟩
    | false =>
      have hothers : others j (vs ++ [(s, event)]) = others j vs ++ [(s, event)] := by
        simp [others, hconcerns]
      obtain ⟨t', hstep', hwithout', hanswer⟩ := step_other hwithout hconcerns hstep
      refine ⟨vs' ++ [(s', renumber j event)], t', run'.snoc hstep', hwithout', ?_, ?_⟩
      · simp only [hothers, List.map_append, hevents, List.map_cons, List.map_nil]
      · simp only [hothers, List.map_append, hanswers, List.map_cons, List.map_nil, hanswer]

end

/-- Take a request that has not contacted an upstream out of a run: the same steps of
the other requests go through and have the same answers, and the other requests,
the registry and everything a later call can see of the controller are the same. -/
theorem rejected_invisible {P : Platform} {config : AppConfig} {vs : List (System × Event)}
    {s : System} (run : Run (step P config) (GatewaySystem.initial config) vs s) {j : ℕ} {task : Task}
    (htask : s.tasks[j]? = some task) (hrejected : Uncontacted task) :
    ∃ vs' s', Run (step P config) (GatewaySystem.initial config) vs' s' ∧
      vs'.map Prod.snd = (others j vs).map (fun v => renumber j v.2) ∧
      vs'.map (answer P config) = (others j vs).map (answer P config) ∧
      s'.tasks = s.tasks.eraseIdx j ∧ s'.gateway.registry = s.gateway.registry ∧
      Alike config.admissionControl s.clock s.gateway.admission s'.gateway.admission := by
  have hquiet : Quiet j s := by
    intro other hother
    rw [htask] at hother
    cases hother
    exact hrejected
  obtain ⟨vs', s', run', hwithout, hevents, hanswers⟩ := runs_without run hquiet
  exact ⟨vs', s', run', hevents, hanswers, hwithout.tasks, hwithout.service.registry.symm,
    hwithout.service.admission⟩

/-! The third request is refused while the first streams; then the second is answered. -/

def refusedMidway : List Event :=
  threeRequests ++ [.resume 1 (.response 200 [] usageBody) 7]

theorem rejected_invisible_refusedMidway :
    ∃ s s', smallRun refusedMidway = some s ∧
      Reachable (step smallPlatform smallConfig) (GatewaySystem.initial smallConfig) s' ∧
      s'.tasks = s.tasks.eraseIdx 2 := by
  have hthird : (smallRun refusedMidway).any (fun s => s.tasks[2]?.any fun task =>
      task.trace.all fun effect => !contacts effect) = true := by decide +kernel
  obtain ⟨s, hs, hany⟩ := (Option.any_eq_true _ _).mp hthird
  obtain ⟨task, htask, htrace⟩ := (Option.any_eq_true _ _).mp hany
  have hrejected : Uncontacted task := fun effect hmem => by
    simpa using List.all_eq_true.mp htrace effect hmem
  obtain ⟨vs, run⟩ := exec_reachable hs
  obtain ⟨vs', s', run', _, _, htasks, _⟩ := rejected_invisible run htask hrejected
  exact ⟨s, s', hs, run'.reachable, htasks⟩

end VllmSourceGateway.RejectedRequests
