import VllmSourceGateway.DepartmentIsolation
import VllmSourceGateway.HealthHistory
import VllmSourceGateway.KeptEntries
import VllmSourceGateway.RequestEmissions
import VllmSourceGateway.RoundRobin

set_option autoImplicit false

/-! One model does not feel another. The requests for some models share nothing with those
for the others but the health of the upstreams, so a run goes through without the others,
each request making the same calls with the same results. -/
namespace VllmSourceGateway.ModelIsolation
open PyText PyValues UsageExtractors Metrics Config AdmissionControl Routing GatewayEffects
open StreamBytes ProxyEndpoint RequestSegments GatewaySystem LeaseAccounting DepartmentIsolation KeptEntries
open HealthHistory RoundRobin RequestEmissions TransitionRuns

/-! ## What a call reads and writes -/

def modelOf : Effect → Option String
  | .acquire _ modelName _ _ => some modelName
  | .release (some lease) => some lease.modelName
  | .recordTokens _ modelName _ => some modelName
  | .recordRetryEvent _ modelName => some modelName
  | .selectUpstream modelName _ _ => some modelName
  | _ => none

/-- The two agree on everything that calls for these models look at. -/
structure SameModels (models : String → Bool) (g g' : Gateway) : Prop where
  active : ∀ modelName, models modelName = true →
    g.admission.activeByModel modelName = g'.admission.activeByModel modelName
  pairs : ∀ department modelName, models modelName = true →
    SamePair (department, modelName) g.admission g'.admission
  upstreams : g.registry.upstreamsByName = g'.registry.upstreamsByName
  pools : g.registry.modelToUpstreams = g'.registry.modelToUpstreams
  health : g.registry.healthByName = g'.registry.healthByName
  pointer : ∀ modelName, models modelName = true →
    g.registry.roundRobinIndex modelName = g'.registry.roundRobinIndex modelName

section
variable {config : AdmissionControlConfig} {now : ℚ} {models : String → Bool} {g g' g₁ : Gateway}
  {c c' : AdmissionController}

theorem SameModels.refl (models : String → Bool) (g : Gateway) : SameModels models g g :=
  ⟨fun _ _ => rfl, fun _ _ _ => .refl _ _, rfl, rfl, rfl, fun _ _ => rfl⟩

theorem SameModels.trans (h : SameModels models g g') (h' : SameModels models g' g₁) :
    SameModels models g g₁ :=
  ⟨fun m hm => (h.active m hm).trans (h'.active m hm),
    fun d m hm => (h.pairs d m hm).trans (h'.pairs d m hm), h.upstreams.trans h'.upstreams,
    h.pools.trans h'.pools, h.health.trans h'.health,
    fun m hm => (h.pointer m hm).trans (h'.pointer m hm)⟩

/-! ## The number of active requests of a model -/

/-- What a call makes of the numbers; acquiring counts where a lease is granted. -/
theorem acquire_counts (department modelName : String) (endpoint : Endpoint)
    (c : AdmissionController) :
    (acquire config now department modelName endpoint c).2.1.activeByModel =
      match (acquire config now department modelName endpoint c).1 with
      | .ok (some _) => Function.update c.activeByModel modelName (c.activeByModel modelName + 1)
      | _ => c.activeByModel := by
  have hsettled := (settle_active config now (department, modelName) c).1
  obtain ⟨_, heq⟩ | ⟨_, _, _, c₁, _, hc₁, _, heq⟩ | ⟨_, heq⟩ :=
    acquire_cases config now department modelName endpoint c
  · rw [heq]
  · rw [heq]
    rcases hc₁ with rfl | rfl
    · rfl
    · exact hsettled
  · rw [heq]
    simp only [grantLease, hsettled]

theorem acquire_active_other {department modelName other : String} (endpoint : Endpoint)
    (hother : other ≠ modelName) :
    (acquire config now department modelName endpoint c).2.1.activeByModel other =
      c.activeByModel other := by
  rw [acquire_counts]
  split
  · exact Function.update_of_ne hother _ _
  · rfl

theorem release_active_other {lease : AdmissionLease} {other : String}
    (hother : other ≠ lease.modelName) :
    (release (some lease) c).1.activeByModel other = c.activeByModel other :=
  Function.update_of_ne hother _ _

theorem apply_active_other {op : AdmissionOp} {other : String}
    (hother : (pairOf op).map Prod.snd ≠ some other) :
    (AdmissionControl.apply config now c op).1.activeByModel other = c.activeByModel other := by
  cases op with
  | checkRequestShape => rfl
  | acquire department modelName endpoint =>
    apply acquire_active_other
    rintro rfl
    exact hother rfl
  | release lease =>
    cases lease with
    | none => rfl
    | some lease =>
      apply release_active_other
      rintro rfl
      exact hother rfl
  | recordTokens department modelName tokens =>
    exact congrFun (recordTokens_active department modelName tokens).1 other
  | recordRetryEvent department modelName =>
    exact congrFun (recordRetryEvent_active department modelName).1 other

theorem apply_active_same {op : AdmissionOp} {modelName : String}
    (hactive : c.activeByModel modelName = c'.activeByModel modelName)
    (hpairs : ∀ department, SamePair (department, modelName) c c') :
    (AdmissionControl.apply config now c op).1.activeByModel modelName =
      (AdmissionControl.apply config now c' op).1.activeByModel modelName := by
  by_cases hown : (pairOf op).map Prod.snd = some modelName
  · cases op with
    | checkRequestShape => exact hactive
    | acquire department acquired endpoint =>
      obtain rfl : acquired = modelName := Option.some.inj hown
      have hresult : (acquire config now department acquired endpoint c).1 =
          (acquire config now department acquired endpoint c').1 :=
        (acquire_same (hpairs department) (.inr hactive) now endpoint).1
      change (acquire config now department acquired endpoint c).2.1.activeByModel acquired =
        (acquire config now department acquired endpoint c').2.1.activeByModel acquired
      rw [acquire_counts, acquire_counts, hresult]
      split
      · rw [Function.update_self, Function.update_self, hactive]
      · exact hactive
    | release lease =>
      cases lease with
      | none => cases hown
      | some lease =>
        obtain rfl : lease.modelName = modelName := Option.some.inj hown
        simp only [AdmissionControl.apply, release, Function.update_self, hactive]
    | recordTokens department charged tokens =>
      have hkept (c : AdmissionController) :
          (recordTokens config now department charged tokens c).activeByModel modelName =
            c.activeByModel modelName :=
        congrFun (recordTokens_active department charged tokens).1 modelName
      exact (hkept c).trans (hactive.trans (hkept c').symm)
    | recordRetryEvent department failed =>
      have hkept (c : AdmissionController) :
          (recordRetryEvent config now department failed c).1.activeByModel modelName =
            c.activeByModel modelName :=
        congrFun (recordRetryEvent_active department failed).1 modelName
      exact (hkept c).trans (hactive.trans (hkept c').symm)
  · rw [apply_active_other hown, apply_active_other hown, hactive]

theorem apply_pair_same {op : AdmissionOp} {key : Key}
    (hactive : c.activeByModel key.2 = c'.activeByModel key.2) (hpair : SamePair key c c') :
    SamePair key (AdmissionControl.apply config now c op).1
      (AdmissionControl.apply config now c' op).1 := by
  by_cases hown : pairOf op = some key
  · let p : Position := ⟨c, []⟩
    let p' : Position := ⟨c', []⟩
    have hsame : SamePair key p.controller p'.controller := hpair
    exact (apply_same hsame hown fun _ _ _ _ => .inr hactive).2
  · exact (apply_other now hown).trans (hpair.trans (apply_other now hown).symm)

theorem selectUpstream_same {registry registry' : RoutingRegistry} {modelName : String}
    (excluded : List String) (hpools : registry.modelToUpstreams = registry'.modelToUpstreams)
    (hhealth : registry.healthByName = registry'.healthByName)
    (hpointer : registry.roundRobinIndex modelName = registry'.roundRobinIndex modelName) :
    (selectUpstream registry modelName excluded).1 =
        (selectUpstream registry' modelName excluded).1 ∧
      (selectUpstream registry modelName excluded).2.roundRobinIndex modelName =
        (selectUpstream registry' modelName excluded).2.roundRobinIndex modelName := by
  have hscan (pool : List UpstreamTarget) (startIndex : ℕ) :
      firstEligible registry excluded pool startIndex =
        firstEligible registry' excluded pool startIndex := by
    unfold firstEligible eligible RoutingRegistry.isHealthy
    rw [hhealth]
  unfold selectUpstream
  rw [hpools, hpointer]
  cases PyDict.get? registry'.modelToUpstreams modelName with
  | none => exact ⟨rfl, hpointer⟩
  | some pool =>
    dsimp only
    rw [hscan]
    cases firstEligible registry' excluded pool
        (registry'.roundRobinIndex modelName % pool.length) with
    | none => exact ⟨rfl, hpointer⟩
    | some found =>
      refine ⟨rfl, ?_⟩
      dsimp only
      rw [Function.update_self, Function.update_self]

theorem perform_admission_op (config : AdmissionControlConfig) (now : ℚ) (g : Gateway)
    {effect : Effect} {op : AdmissionOp} (hop : effect.admissionOp? = some op) :
    (perform config now g effect).admission = (AdmissionControl.apply config now g.admission op).1 ∧
      (perform config now g effect).registry = g.registry := by
  unfold perform
  rw [hop]
  exact ⟨rfl, rfl⟩

/-- A call for another model is not seen. -/
theorem perform_other (g : Gateway) {effect : Effect}
    (hother : ∀ modelName, modelOf effect = some modelName → models modelName = false) :
    SameModels models (perform config now g effect) g := by
  have hadmission {op : AdmissionOp} (hop : effect.admissionOp? = some op)
      (hmodel : ∀ modelName, (pairOf op).map Prod.snd = some modelName →
        models modelName = false) :
      SameModels models (perform config now g effect) g := by
    obtain ⟨hperformed, hregistry⟩ := perform_admission_op config now g hop
    refine ⟨?_, ?_, ?_, ?_, ?_, ?_⟩
    · intro modelName hmem
      rw [hperformed, apply_active_other]
      intro hown
      rw [hmodel modelName hown] at hmem
      cases hmem
    · intro department modelName hmem
      rw [hperformed]
      apply apply_other
      intro hown
      rw [hmodel modelName (by rw [hown]; rfl)] at hmem
      cases hmem
    · rw [hregistry]
    · rw [hregistry]
    · rw [hregistry]
    · intro modelName _
      rw [hregistry]
  cases effect with
  | checkRequestShape => exact hadmission rfl (by simp [pairOf])
  | acquire department acquired endpoint result =>
    exact hadmission rfl fun modelName hown => hother modelName hown
  | release lease =>
    cases lease with
    | none => exact hadmission rfl (by simp [pairOf])
    | some lease => exact hadmission rfl fun modelName hown => hother modelName hown
  | recordTokens department charged tokens =>
    exact hadmission rfl fun modelName hown => hother modelName hown
  | recordRetryEvent department failed =>
    exact hadmission rfl fun modelName hown => hother modelName hown
  | selectUpstream selected excluded result =>
    obtain ⟨hupstreams, hhealth⟩ := selectUpstream_maps g.registry selected excluded
    refine ⟨fun _ _ => rfl, fun _ _ _ => .refl _ _, hupstreams, selectUpstream_pools _ _ _,
      hhealth, ?_⟩
    intro modelName hmem
    apply selectUpstream_other_pointer
    rintro rfl
    rw [hother selected rfl] at hmem
    cases hmem
  | metric | requestMetrics | contact | attemptEnded | exchangeClosed =>
    exact ⟨fun _ _ => rfl, fun _ _ _ => .refl _ _, rfl, rfl, rfl, fun _ _ => rfl⟩

/-- A call does the same to both. -/
theorem perform_both (h : SameModels models g g') (effect : Effect) :
    SameModels models (perform config now g effect) (perform config now g' effect) := by
  cases hop : effect.admissionOp? with
  | some op =>
    obtain ⟨hleft, hregistry⟩ := perform_admission_op config now g hop
    obtain ⟨hright, hregistry'⟩ := perform_admission_op config now g' hop
    refine ⟨?_, ?_, ?_, ?_, ?_, ?_⟩
    · intro modelName hmem
      rw [hleft, hright]
      exact apply_active_same (h.active modelName hmem) fun department =>
        h.pairs department modelName hmem
    · intro department modelName hmem
      rw [hleft, hright]
      exact apply_pair_same (h.active modelName hmem) (h.pairs department modelName hmem)
    · rw [hregistry, hregistry', h.upstreams]
    · rw [hregistry, hregistry', h.pools]
    · rw [hregistry, hregistry', h.health]
    · intro modelName hmem
      rw [hregistry, hregistry', h.pointer modelName hmem]
  | none =>
    cases effect with
    | selectUpstream selected excluded result =>
      obtain ⟨hupstreams, hhealth⟩ := selectUpstream_maps g.registry selected excluded
      obtain ⟨hupstreams', hhealth'⟩ := selectUpstream_maps g'.registry selected excluded
      have hpools := selectUpstream_pools g.registry excluded selected
      have hpools' := selectUpstream_pools g'.registry excluded selected
      refine ⟨h.active, h.pairs, hupstreams.trans (h.upstreams.trans hupstreams'.symm),
        hpools.trans (h.pools.trans hpools'.symm), hhealth.trans (h.health.trans hhealth'.symm), ?_⟩
      intro modelName hmem
      by_cases hown : selected = modelName
      · subst hown
        exact (selectUpstream_same excluded h.pools h.health (h.pointer selected hmem)).2
      · have hleft := selectUpstream_other_pointer g.registry excluded hown
        have hright := selectUpstream_other_pointer g'.registry excluded hown
        exact hleft.trans ((h.pointer modelName hmem).trans hright.symm)
    | metric | requestMetrics | contact | attemptEnded | exchangeClosed =>
      exact ⟨h.active, h.pairs, h.upstreams, h.pools, h.health, h.pointer⟩
    | checkRequestShape | acquire | release | recordTokens | recordRetryEvent => cases hop

theorem performAll_other (g : Gateway) {effects : List Effect}
    (hother : ∀ effect ∈ effects, ∀ modelName, modelOf effect = some modelName →
      models modelName = false) :
    SameModels models (performAll config now g effects) g := by
  induction effects generalizing g with
  | nil => exact .refl models g
  | cons effect effects ih =>
    obtain ⟨hfirst, hrest⟩ := List.forall_mem_cons.mp hother
    exact (ih (perform config now g effect) hrest).trans (perform_other g hfirst)

theorem performAll_both (h : SameModels models g g') (effects : List Effect) :
    SameModels models (performAll config now g effects) (performAll config now g' effects) := by
  induction effects generalizing g g' with
  | nil => exact h
  | cons effect effects ih => exact ih (perform_both h effect)

end

/-- All calls are for these models, as far as they are for any. -/
def CallsFor (models : String → Bool) (effects : List Effect) : Prop :=
  ∀ effect ∈ effects, ∀ modelName, modelOf effect = some modelName → models modelName = true

section
variable {P : Platform} {config : AppConfig} {request : ProxyRequest} {now : ℚ}
  {models : String → Bool} {g g' : Gateway} {effects : List Effect} {point : Point}

theorem selectUpstreamFor_same (h : SameModels models g g') {modelName : String}
    (hmem : models modelName = true) (excluded : List String) :
    selectUpstreamFor g modelName excluded = selectUpstreamFor g' modelName excluded := by
  have hresult := (selectUpstream_same excluded h.pools h.health (h.pointer modelName hmem)).1
  unfold selectUpstreamFor
  rw [hresult]

/-- A request gets past the shape check only to ask for a lease of its model. -/
theorem admitRequest_same (h : SameModels models g g') {modelName : String} {bodySize : ℕ}
    {payload : JsonObject}
    (hown : CallsFor models (admitRequest config request g now modelName bodySize payload).1) :
    admitRequest config request g' now modelName bodySize payload =
      admitRequest config request g now modelName bodySize payload := by
  cases hshape : (checkRequestShape config.admissionControl request.department modelName
      request.endpoint bodySize payload).1 with
  | error rejection => simp only [admitRequest, hshape]
  | ok shaped =>
    have hacquired : .acquire request.department modelName request.endpoint
        (acquire config.admissionControl now request.department modelName request.endpoint
          g.admission).1 ∈ (admitRequest config request g now modelName bodySize payload).1 := by
      simp only [admitRequest, hshape]
      split <;> simp
    have hmem : models modelName = true := hown _ hacquired modelName rfl
    have hacquire : (acquire config.admissionControl now request.department modelName
        request.endpoint g.admission).1 = (acquire config.admissionControl now request.department
          modelName request.endpoint g'.admission).1 :=
      (acquire_same (h.pairs request.department modelName hmem) (.inr (h.active modelName hmem)) now
        request.endpoint).1
    have hselect := selectUpstreamFor_same h hmem []
    simp only [admitRequest, startStreaming, startPosting, hacquire, hselect]

theorem afterBody_same (h : SameModels models g g') {input : Input}
    (hadvance : afterBody P config request g now input = some (effects, point))
    (hown : CallsFor models effects) :
    afterBody P config request g' now input = some (effects, point) := by
  cases input with
  | body requestBody =>
    have hbody : handleBody P config request g now requestBody = (effects, point) :=
      Option.some.inj hadvance
    have hpools (modelName : String) :
        unknownModelError g'.registry modelName = unknownModelError g.registry modelName := by
      unfold unknownModelError getModelUpstreams
      rw [h.pools]
    refine congrArg some (Eq.trans ?_ hbody)
    rw [show effects = (handleBody P config request g now requestBody).1 by rw [hbody]] at hown
    unfold handleBody at hown ⊢
    cases hread : readJsonRequestBody P config requestBody with
    | error e => rfl
    | ok json =>
      dsimp only
      cases hparse : parseJsonPayload json with
      | error error => rfl
      | ok parsed =>
        simp only [hread, hparse] at hown
        dsimp only
        rw [hpools]
        cases hknown : unknownModelError g.registry parsed.2 with
        | some error => rfl
        | none =>
          rw [hknown] at hown
          exact admitRequest_same h hown
  | raised e => exact hadvance
  | opened | response | stream => cases hadvance

/-- A loop that may go round again asks for an upstream of its model. -/
theorem retry_selects {before : Point} {flight : Flight} {e : HttpxError}
    (hpoint : before = .awaitSend flight ∨ before = .awaitPost flight)
    (hconnect : isConnectStageRetryableError e = true)
    (h : Segment P config request g now before (.raised (.httpx e)) effects point) :
    ∃ excluded result, .selectUpstream flight.modelName excluded result ∈ effects := by
  have hflight {other : Flight} (h : before = .awaitSend other ∨ before = .awaitPost other) :
      other = flight := by
    rcases hpoint with rfl | rfl <;> simpa [eq_comm] using h
  cases h with
  | rejected | misshapen | refused | unroutable | started => simp at hpoint
  | @retried _ _ other again _ _ _ hagain hfrom =>
    obtain rfl : other = flight := hflight (hfrom.imp And.left And.left)
    have hmodel : again.modelName = other.modelName := by rw [hagain]
    refine ⟨other.attemptedUpstreamNames, .ok again.upstream, List.mem_append_right _ ?_⟩
    unfold selectAndContact
    rw [hmodel]
    exact List.mem_cons_self
  | @exhausted _ other _ error _ _ hfrom =>
    obtain rfl : other = flight := hflight hfrom
    refine ⟨other.attemptedUpstreamNames, .error error, ?_⟩
    refine List.mem_append_left _ (List.mem_append_left _ (List.mem_append_right _ ?_))
    exact List.mem_cons_self
  | failed hfinal => simp [hfinal] at hconnect
  | broken hhttpx | cancelled hhttpx => cases hhttpx

/-- What a request does next it does on both, if it calls for these models only. -/
theorem advance_same (h : SameModels models g g') {before : Point} {input : Input}
    (hadvance : advance P config request g now before input = some (effects, point))
    (hown : CallsFor models effects) :
    advance P config request g' now before input = some (effects, point) := by
  have hretried {flight : Flight} {e : HttpxError}
      (hpoint : before = .awaitSend flight ∨ before = .awaitPost flight)
      (hinput : input = .raised (.httpx e)) (hconnect : isConnectStageRetryableError e = true) :
      selectUpstreamFor g flight.modelName flight.attemptedUpstreamNames =
        selectUpstreamFor g' flight.modelName flight.attemptedUpstreamNames := by
    have hsegment := advance_segment hadvance
    rw [hinput] at hsegment
    obtain ⟨excluded, result, hmem⟩ := retry_selects hpoint hconnect hsegment
    exact selectUpstreamFor_same h (hown _ hmem flight.modelName rfl) _
  cases before with
  | awaitBody => exact afterBody_same h hadvance hown
  | awaitSend flight =>
    cases input with
    | raised e =>
      cases e with
      | httpx e =>
        cases hconnect : isConnectStageRetryableError e with
        | false =>
          simpa only [advance, afterSend, hconnect, Bool.false_eq_true, if_false] using hadvance
        | true =>
          simpa only [advance, afterSend, hretried (.inl rfl) rfl hconnect] using hadvance
      | _ => exact hadvance
    | opened | body | response | stream => exact hadvance
  | awaitPost flight =>
    cases input with
    | raised e =>
      cases e with
      | httpx e =>
        cases hconnect : isConnectStageRetryableError e with
        | false =>
          simpa only [advance, afterPost, hconnect, Bool.false_eq_true, if_false] using hadvance
        | true =>
          simpa only [advance, afterPost, hretried (.inr rfl) rfl hconnect] using hadvance
      | _ => exact hadvance
    | opened | body | response | stream => exact hadvance
  | streaming ctx point => cases input <;> exact hadvance
  | finished outcome => cases hadvance

theorem setUpstreamHealth_same (h : SameModels models g g') {upstreamName : String}
    {healthy : Bool} {lastProbeAt lastSuccessAt : Option String} {lastStatusCode : Option ℕ}
    {lastError : Option String} {registry : RoutingRegistry}
    (hset : setUpstreamHealth g.registry upstreamName healthy lastProbeAt lastSuccessAt
      lastStatusCode lastError = .ok registry) :
    ∃ registry', setUpstreamHealth g'.registry upstreamName healthy lastProbeAt lastSuccessAt
        lastStatusCode lastError = .ok registry' ∧
      SameModels models { g with registry := registry } { g' with registry := registry' } := by
  unfold setUpstreamHealth at hset ⊢
  rw [← h.upstreams]
  rw [h.health] at hset
  split at hset
  · cases hset
    exact ⟨_, rfl, h.active, h.pairs, rfl, h.pools, rfl, h.pointer⟩
  · cases hset

end

/-! ## The run without the requests for other models -/

def keptEvents (keep : ℕ → Bool) (vs : List (System × Event)) : List Event :=
  vs.flatMap fun v =>
    match v.2 with
    | .arrive request now =>
      if keep v.1.tasks.length then [.arrive request now] else []
    | .resume i input now => if keep i then [.resume (rank keep i) input now] else []
    | event => [event]

/-- The requests that are kept call for these models, and the others do not. -/
def Split (models : String → Bool) (keep : ℕ → Bool) (s : System) : Prop :=
  ∀ i task, s.tasks[i]? = some task → ∀ effect ∈ task.trace, ∀ modelName,
    modelOf effect = some modelName → models modelName = keep i

/-- The second system is the first one without the requests that are not kept. -/
structure Apart (models : String → Bool) (keep : ℕ → Bool) (s s' : System) : Prop where
  service : SameModels models s.gateway s'.gateway
  tasks : s'.tasks = kept keep s.tasks
  clock : s'.clock ≤ s.clock

section
variable {P : Platform} {config : AppConfig} {models : String → Bool} {keep : ℕ → Bool}
  {s s' t : System} {event : Event}

theorem resume_inv {i : ℕ} {input : Input} {now : ℚ}
    (hstep : step P config s (.resume i input now) = some t) :
    ∃ task effects point, s.clock ≤ now ∧ s.tasks[i]? = some task ∧
      advance P config task.request s.gateway now task.point input = some (effects, point) ∧
      t = s.run config now effects (s.tasks.set i (task.continue input effects point)) := by
  simp only [step] at hstep
  split at hstep
  · cases hstep
  · rename_i hclock
    split at hstep
    · cases hstep
    · rename_i task htask
      split at hstep
      · cases hstep
      · rename_i effects point hadvance
        cases hstep
        exact ⟨task, effects, point, not_lt.mp hclock, htask, hadvance, rfl⟩

/-- Traces only grow. -/
theorem trace_grows {i : ℕ} {task : Task} (hstep : step P config s event = some t)
    (htask : s.tasks[i]? = some task) :
    ∃ later, t.tasks[i]? = some later ∧ ∀ effect ∈ task.trace, effect ∈ later.trace := by
  obtain ⟨hlt, _⟩ := List.getElem?_eq_some_iff.mp htask
  cases event with
  | arrive request now =>
    simp only [step] at hstep
    split at hstep
    · cases hstep
    · cases hstep
      exact ⟨task, (List.getElem?_append_left hlt).trans htask, fun _ heffect => heffect⟩
  | resume j input now =>
    obtain ⟨resumed, effects, point, _, hresumed, _, rfl⟩ := resume_inv hstep
    by_cases hown : j = i
    · subst hown
      have hsame : resumed = task := Option.some.inj (hresumed.symm.trans htask)
      subst hsame
      refine ⟨resumed.continue input effects point, List.getElem?_set_self hlt, ?_⟩
      exact fun effect heffect => List.mem_append_left _ heffect
    · exact ⟨task, (List.getElem?_set_ne hown).trans htask, fun _ heffect => heffect⟩
  | setHealth upstreamName healthy lastProbeAt lastSuccessAt lastStatusCode lastError =>
    simp only [step] at hstep
    split at hstep
    · cases hstep
    · cases hstep
      exact ⟨task, htask, fun _ heffect => heffect⟩

theorem split_before (h : Split models keep t) (hstep : step P config s event = some t) :
    Split models keep s := by
  intro i task htask effect heffect
  obtain ⟨later, hlater, hgrows⟩ := trace_grows hstep htask
  exact h i later hlater effect (hgrows effect heffect)

/-- Only the steps of the requests that are kept are taken on the other side. -/
theorem step_apart (h : Apart models keep s s') (hsplit : Split models keep t)
    (hstep : step P config s event = some t) :
    Apart models keep t s' ∧ keptEvents keep [(s, event)] = [] ∨
      ∃ event' t', keptEvents keep [(s, event)] = [event'] ∧ step P config s' event' = some t' ∧
        Apart models keep t t' := by
  cases event with
  | arrive request now =>
    simp only [step] at hstep
    split at hstep
    · cases hstep
    · rename_i hclock
      cases hstep
      have hclock' : ¬ now < s'.clock := not_lt.mpr (h.clock.trans (not_lt.mp hclock))
      cases hkeep : keep s.tasks.length with
      | false =>
        refine .inl ⟨⟨?_, ?_, h.clock.trans (not_lt.mp hclock)⟩, ?_⟩
        · refine SameModels.trans (performAll_other s.gateway ?_) h.service
          rw [show (Task.start config request).trace = (startRequest config request).1 from rfl,
            startRequest_effects]
          simp [modelOf]
        · simp [System.run, kept_snoc, hkeep, h.tasks]
        · simp [keptEvents, hkeep]
      | true =>
        refine .inr ⟨.arrive request now, _, by simp [keptEvents, hkeep], if_neg hclock', ?_, ?_,
          le_rfl⟩
        · exact performAll_both h.service _
        · simp [System.run, kept_snoc, hkeep, h.tasks]
  | resume i input now =>
    obtain ⟨task, effects, point, hclock, htask, hadvance, rfl⟩ := resume_inv hstep
    obtain ⟨hlt, _⟩ := List.getElem?_eq_some_iff.mp htask
    have hcalls : ∀ effect ∈ effects, ∀ modelName, modelOf effect = some modelName →
        models modelName = keep i := fun effect heffect =>
      hsplit i (task.continue input effects point) (List.getElem?_set_self hlt) effect
        (List.mem_append_right _ heffect)
    cases hkeep : keep i with
    | false =>
      rw [hkeep] at hcalls
      refine .inl ⟨⟨?_, ?_, h.clock.trans hclock⟩, by simp [keptEvents, hkeep]⟩
      · exact SameModels.trans (performAll_other s.gateway hcalls) h.service
      · simp only [System.run, kept_set_other hkeep, h.tasks]
    | true =>
      rw [hkeep] at hcalls
      have hfound : s'.tasks[rank keep i]? = some task := by rw [h.tasks, kept_get hkeep, htask]
      have hadvance' := advance_same h.service hadvance hcalls
      refine .inr ⟨.resume (rank keep i) input now,
        s'.run config now effects (s'.tasks.set (rank keep i) (task.continue input effects point)),
        by simp [keptEvents, hkeep], ?_, performAll_both h.service effects, ?_, le_rfl⟩
      · simp only [step, not_lt.mpr (h.clock.trans hclock), if_false, hfound, hadvance']
      · simp only [System.run, kept_set hkeep, h.tasks]
  | setHealth upstreamName healthy lastProbeAt lastSuccessAt lastStatusCode lastError =>
    simp only [step] at hstep
    split at hstep
    · cases hstep
    · rename_i registry hset
      cases hstep
      obtain ⟨registry', hset', hservice⟩ := setUpstreamHealth_same h.service hset
      refine .inr ⟨_, { s' with gateway := { s'.gateway with registry := registry' } }, rfl, ?_,
        hservice, h.tasks, h.clock⟩
      simp only [step, hset']

/-- By induction on the run: what is left out never changes what the others see. -/
theorem runs_apart {vs : List (System × Event)}
    (run : Run (step P config) (initial config) vs s) : Split models keep s →
    ∃ ws s', Run (step P config) (initial config) ws s' ∧ ws.map Prod.snd = keptEvents keep vs ∧
      Apart models keep s s' := by
  apply run.invariant fun vs s => Split models keep s →
    ∃ ws s', Run (step P config) (initial config) ws s' ∧ ws.map Prod.snd = keptEvents keep vs ∧
      Apart models keep s s'
  · intro _
    exact ⟨[], _, .refl, rfl, .refl models _, rfl, le_rfl⟩
  · intro vs s event t _ ih hstep hsplit
    obtain ⟨ws, s', run', hevents, hapart⟩ := ih (split_before hsplit hstep)
    have happend : keptEvents keep (vs ++ [(s, event)]) =
        keptEvents keep vs ++ keptEvents keep [(s, event)] := List.flatMap_append
    rcases step_apart hapart hsplit hstep with ⟨hstill, hnone⟩ | ⟨event', t', hown, hstep', hnext⟩
    · exact ⟨ws, s', run', by rw [happend, hnone, List.append_nil, hevents], hstill⟩
    · refine ⟨ws ++ [(s', event')], t', run'.snoc hstep', ?_, hnext⟩
      rw [happend, hown, List.map_append, hevents]
      rfl

/-! ## A request calls for one model -/

theorem emits_model {request : ProxyRequest} {modelName called : String} {effect : Effect}
    (h : Emits config request modelName effect) (hcalled : modelOf effect = some called) :
    called = modelName := by
  cases h with
  | release =>
    unfold RequestSlot.leaseFor at hcalled
    split at hcalled
    · exact (Option.some.inj hcalled).symm
    · cases hcalled
  | acquire | recordTokens | recordRetryEvent | selectUpstream =>
    exact (Option.some.inj hcalled).symm
  | _ => cases hcalled

theorem task_model {task : Task} (h : TaskEmits config task) :
    ∃ modelName, ∀ effect ∈ task.trace, ∀ called, modelOf effect = some called →
      called = modelName := by
  obtain ⟨effects, htrace, hemits⟩ := h
  have harrival {modelName : String} (hlater : ∀ effect ∈ effects, ∀ called,
      modelOf effect = some called → called = modelName) :
      ∀ effect ∈ task.trace, ∀ called, modelOf effect = some called → called = modelName := by
    rw [htrace, startRequest_effects]
    simp only [List.cons_append, List.nil_append, List.forall_mem_cons]
    refine ⟨?_, ?_, hlater⟩
    · intro _ hcalled
      cases hcalled
    · intro _ hcalled
      cases hcalled
  cases hemits with
  | arrived => exact ⟨"", harrival (by simp)⟩
  | concerned modelName _ hall _ =>
    exact ⟨modelName, harrival fun effect heffect _ => emits_model (hall effect heffect)⟩

end

def callsAny (models : String → Bool) (task : Task) : Bool :=
  task.trace.any fun effect => (modelOf effect).any models

def callers (models : String → Bool) (s : System) (i : ℕ) : Bool :=
  s.tasks[i]?.any (callsAny models)

/-- Take the requests that have made no call for any of these models out of a run: the
others take the same steps with the same calls and results, and the gateway shows
these models the same limits, windows, guards, pools and pointers. -/
theorem models_isolated {P : Platform} {config : AppConfig} (models : String → Bool)
    {vs : List (System × Event)} {s : System}
    (run : Run (step P config) (initial config) vs s) :
    ∃ ws t, Run (step P config) (initial config) ws t ∧
      ws.map Prod.snd = keptEvents (callers models s) vs ∧
      t.tasks = s.tasks.filter (callsAny models) ∧
      SameModels models s.gateway t.gateway := by
  have hsplit : Split models (callers models s) s := by
    intro i task htask effect heffect called hcalled
    obtain ⟨modelName, hmodel⟩ := task_model (task_emits run.reachable task
      (List.mem_of_getElem? htask))
    obtain rfl : called = modelName := hmodel effect heffect called hcalled
    have hcallers : callers models s i = callsAny models task := by
      unfold callers
      rw [htask]
      rfl
    rw [hcallers, Bool.eq_iff_iff]
    constructor
    · intro hmem
      exact List.any_eq_true.mpr ⟨effect, heffect, by rw [hcalled]; exact hmem⟩
    · intro hany
      obtain ⟨other, hother, hmem⟩ := List.any_eq_true.mp hany
      obtain ⟨named, hnamed, hmem⟩ := (Option.any_eq_true _ _).mp hmem
      rw [hmodel other hother named hnamed] at hmem
      exact hmem
  obtain ⟨ws, t, run', hevents, hapart⟩ := runs_apart run hsplit
  exact ⟨ws, t, run', hevents, by rw [hapart.tasks]; exact kept_filter _ _, hapart.service⟩

/-! Two models share an upstream; the request for the one fails over to it while the
other is answered from it. -/

def pairConfig : AppConfig where
  server := smallConfig.server
  security := smallConfig.security
  admissionControl := smallConfig.admissionControl
  upstreams := [⟨"a", "http://a/", ["llama"], none⟩, ⟨"b", "http://b/", ["llama", "phi"], none⟩]
  upstreamNames_nodup := by decide

def phiBody : List UInt8 := asciiBytes "\x7b\"model\":\"phi\"\x7d".toList

def pairPlatform : Platform where
  loads := smallPlatform.loads
  loadsBytes content :=
    if content = phiBody then .ok (.obj [("model", .str "phi")]) else smallLoads content
  responseInit := smallPlatform.responseInit
  streamingResponseInit := smallPlatform.streamingResponseInit
  counterAccepts := smallPlatform.counterAccepts

def twoModels : List Event :=
  [.arrive smallRequest 0, .arrive smallRequest 1, .resume 1 (.body phiBody) 2,
    .resume 0 (.body postBody) 3, .resume 0 (.raised (.httpx .connectError)) 4,
    .resume 1 (.response 200 [] usageBody) 5, .resume 0 (.response 200 [] usageBody) 6]

theorem models_isolated_twoModels :
    ∃ s t, exec (step pairPlatform pairConfig) (initial pairConfig) twoModels = some s ∧
      Reachable (step pairPlatform pairConfig) (initial pairConfig) t ∧
      t.tasks = s.tasks.filter (callsAny fun modelName => modelName = "llama") ∧
      s.tasks.length = 2 ∧ t.tasks.length = 1 := by
  have hruns : (exec (step pairPlatform pairConfig) (initial pairConfig) twoModels).any (fun s =>
      s.tasks.length = 2 ∧
        (s.tasks.filter (callsAny fun modelName => modelName = "llama")).length = 1) = true := by
    decide +kernel
  obtain ⟨s, hs, hlengths⟩ := (Option.any_eq_true _ _).mp hruns
  obtain ⟨hboth, hone⟩ := of_decide_eq_true hlengths
  obtain ⟨vs, run⟩ := exec_reachable hs
  obtain ⟨ws, t, run', _, htasks, _⟩ :=
    models_isolated (fun modelName => modelName = "llama") run
  exact ⟨s, t, hs, run'.reachable, htasks, hboth, by rw [htasks, hone]⟩

end VllmSourceGateway.ModelIsolation
