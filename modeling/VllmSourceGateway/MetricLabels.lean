import VllmSourceGateway.RequestEmissions
import VllmSourceGateway.RequestMetrics

set_option autoImplicit false

/-! The label space is that of the configuration: no text of a client or of an
upstream gets into a label of any metric. -/
namespace VllmSourceGateway.MetricLabels
open PyValues UsageExtractors Metrics Config AdmissionControl Routing GatewayEffects
open StreamBytes ProxyEndpoint RequestSegments RequestSlot GatewaySystem RequestEmissions
open SourceResolution RequestMetrics TransitionRuns

def labelSpace (config : GatewayConfig) : List (String × List String) :=
  [("department", unknownDepartment :: config.departmentNames),
    ("model_name", config.upstreams.flatMap UpstreamConfig.models),
    ("upstream_name", config.upstreams.map UpstreamConfig.name),
    ("endpoint", ["chat_completions", "responses", "messages"]),
    ("method", ["POST"]),
    ("status_class", ["2xx", "4xx", "5xx"]),
    ("reason", ["request_body_too_large", "max_output_tokens", "n_greater_than_one",
      "retry_guard_open", "model_concurrency", "department_model_concurrency", "token_budget"]),
    ("accounting_status", ["recorded", "missing_usage", "parse_error"]),
    ("failure_origin", ["gateway", "upstream"]),
    ("resolution_source", ["api_key", "unknown"])]

def InSpace (config : GatewayConfig) (label : String × String) : Prop :=
  ∃ values, PyDict.get? (labelSpace config) label.1 = some values ∧ label.2 ∈ values

def Bounded (config : GatewayConfig) (labels : Labels) : Prop :=
  ∀ label ∈ labels, InSpace config label

section
variable {config : GatewayConfig} {department modelName upstreamName : String}

theorem department_inSpace (h : department ∈ unknownDepartment :: config.departmentNames) :
    InSpace config ("department", department) := ⟨_, rfl, h⟩

theorem model_inSpace (h : ∃ upstream ∈ config.upstreams, modelName ∈ upstream.models) :
    InSpace config ("model_name", modelName) := by
  obtain ⟨upstream, hupstream, hmodel⟩ := h
  exact ⟨_, rfl, List.mem_flatMap.mpr ⟨upstream, hupstream, hmodel⟩⟩

theorem upstream_inSpace {upstream : UpstreamTarget}
    (h : upstream ∈ modelPool config.toAppConfig modelName) :
    InSpace config ("upstream_name", upstream.name) := by
  obtain ⟨u, hu, rfl⟩ := List.mem_map.mp (fromConfig_pool config.toAppConfig modelName _ h).1
  exact ⟨_, rfl, List.mem_map_of_mem hu⟩

theorem endpoint_inSpace (config : GatewayConfig) (endpoint : Endpoint) :
    InSpace config ("endpoint", endpoint.name) := ⟨_, rfl, by cases endpoint <;> decide⟩

theorem method_inSpace (config : GatewayConfig) : InSpace config ("method", "POST".toUpper) :=
  ⟨_, rfl, by decide +kernel⟩

theorem class_inSpace (config : GatewayConfig) (status : StatusClass) :
    InSpace config ("status_class", classText status) := ⟨_, rfl, by cases status <;> decide⟩

theorem reason_inSpace (config : GatewayConfig) (reason : RejectionReason) :
    InSpace config ("reason", reasonText reason) := ⟨_, rfl, by cases reason <;> decide⟩

theorem status_inSpace (config : GatewayConfig) (status : AccountingStatus) :
    InSpace config ("accounting_status", statusText status) := ⟨_, rfl, by cases status <;> decide⟩

theorem origin_inSpace (config : GatewayConfig) (origin : FailureOrigin) :
    InSpace config ("failure_origin", originText origin) := ⟨_, rfl, by cases origin <;> decide⟩

theorem source_inSpace (config : GatewayConfig) (source : ResolutionSource) :
    InSpace config ("resolution_source", sourceText source) := ⟨_, rfl, by cases source <;> decide⟩

theorem bounded_cons {label : String × String} {labels : Labels} (hlabel : InSpace config label)
    (h : Bounded config labels) : Bounded config (label :: labels) :=
  List.forall_mem_cons.mpr ⟨hlabel, h⟩

theorem bounded_nil (config : GatewayConfig) : Bounded config [] := List.forall_mem_nil _

/-- The labels that most metrics begin with. -/
theorem bounded_pair (hdepartment : department ∈ unknownDepartment :: config.departmentNames)
    (hmodel : ∃ upstream ∈ config.upstreams, modelName ∈ upstream.models) {labels : Labels}
    (h : Bounded config labels) :
    Bounded config (("department", department) :: ("model_name", modelName) :: labels) :=
  bounded_cons (department_inSpace hdepartment) (bounded_cons (model_inSpace hmodel) h)

theorem bounded_endpoint (endpoint : Endpoint) {labels : Labels} (h : Bounded config labels) :
    Bounded config (("endpoint", endpoint.name) :: labels) :=
  bounded_cons (endpoint_inSpace config endpoint) h

theorem bounded_reason (reason : RejectionReason) : Bounded config [("reason", reasonText reason)] :=
  bounded_cons (reason_inSpace config reason) (bounded_nil config)

theorem bounded_status (status : AccountingStatus) :
    Bounded config [("accounting_status", statusText status)] :=
  bounded_cons (status_inSpace config status) (bounded_nil config)

end

/-! ## The metrics of the admission controller -/

theorem pairEvent_bounded {config : GatewayConfig} {department modelName : String}
    {endpoint : Endpoint} {event : MetricEvent}
    (hdepartment : department ∈ unknownDepartment :: config.departmentNames)
    (hmodel : ∃ upstream ∈ config.upstreams, modelName ∈ upstream.models)
    (h : PairEvent department modelName endpoint event) : Bounded config (eventLabels event) := by
  cases h with
  | admissionRejection reason => exact bounded_pair hdepartment hmodel (bounded_reason reason)
  | tokenBudgetRejection | retryGuardOpen =>
    exact bounded_pair hdepartment hmodel (bounded_nil config)
  | inflightInc =>
    exact bounded_pair hdepartment hmodel (bounded_endpoint endpoint (bounded_nil config))

section
variable {config : GatewayConfig} {request : ProxyRequest} {modelName : String}

theorem emits_bounded
    (hdepartment : request.department ∈ unknownDepartment :: config.departmentNames)
    (hmodel : ∃ upstream ∈ config.upstreams, modelName ∈ upstream.models) {effect : Effect}
    (h : Emits config.toAppConfig request modelName effect) (now : ℚ) (g : Gateway) :
    ∀ event ∈ emitted config.admissionControl now g effect,
      Bounded config (eventLabels event) := by
  have hpair := bounded_pair hdepartment hmodel (bounded_nil config)
  have htriple := bounded_pair hdepartment hmodel
    (bounded_endpoint request.endpoint (bounded_nil config))
  cases h with
  | model | statusOverride | failureOrigin | recordTokens | selectUpstream | contact
  | attemptEnded | exchangeClosed => exact List.forall_mem_nil _
  | checkRequestShape =>
    exact fun event hevent =>
      pairEvent_bounded hdepartment hmodel (checkRequestShape_events _ _ _ _ _ _ event hevent)
  | acquire =>
    exact fun event hevent =>
      pairEvent_bounded hdepartment hmodel (acquire_events _ _ _ _ _ _ event hevent)
  | recordRetryEvent =>
    exact fun event hevent =>
      pairEvent_bounded hdepartment hmodel
        (recordRetryEvent_events _ _ _ _ request.endpoint _ event hevent)
  | release =>
    simp only [leaseFor]
    split
    · exact List.forall_mem_singleton.mpr htriple
    · exact List.forall_mem_nil _
  | promptTokens | generationTokens => exact List.forall_mem_singleton.mpr hpair
  | streamFirstChunk => exact List.forall_mem_singleton.mpr htriple
  | upstreamSelection hpool =>
    exact List.forall_mem_singleton.mpr
      (bounded_cons (model_inSpace hmodel) (bounded_cons (upstream_inSpace hpool) (bounded_nil config)))
  | upstreamRequestDuration hpool =>
    exact List.forall_mem_singleton.mpr
      (bounded_cons (model_inSpace hmodel) (bounded_cons (upstream_inSpace hpool)
        (bounded_endpoint request.endpoint (bounded_nil config))))
  | tokenAccounting status =>
    exact List.forall_mem_singleton.mpr (bounded_endpoint request.endpoint (bounded_status status))
  | modelTokenAccounting status =>
    exact List.forall_mem_singleton.mpr (bounded_pair hdepartment hmodel
      (bounded_endpoint request.endpoint (bounded_status status)))

theorem known_listed (h : unknownModelError (.fromConfig config.toAppConfig) modelName = none) :
    ∃ upstream ∈ config.upstreams, modelName ∈ upstream.models := by
  simp only [unknownModelError] at h
  split at h
  · rename_i pool hpool
    exact fromConfig_known hpool
  · cases h

/-- Every call of a task, with the names it can have. -/
theorem task_bounded {task : Task} (h : TaskEmits config.toAppConfig task)
    (hdepartment : task.request.department ∈ unknownDepartment :: config.departmentNames) (now : ℚ)
    (g : Gateway) : ∀ effect ∈ task.trace, ∀ event ∈ emitted config.admissionControl now g effect,
      Bounded config (eventLabels event) := by
  intro effect hmem
  obtain rfl | rfl | ⟨modelName, hknown, hemits⟩ := h.cases hmem
  · exact List.forall_mem_nil _
  · refine List.forall_mem_singleton.mpr ?_
    exact bounded_cons (department_inSpace hdepartment)
      (bounded_cons (source_inSpace config _) (bounded_nil config))
  · exact emits_bounded hdepartment (known_listed hknown) hemits now g

/-- What a request notes about itself: its own department and endpoint, and its
model once that is known. -/
structure Noted (config : GatewayConfig) (state : RequestState) : Prop where
  department : ∀ department ∈ state.department,
    department ∈ unknownDepartment :: config.departmentNames
  model : ∀ modelName ∈ state.modelName,
    ∃ upstream ∈ config.upstreams, modelName ∈ upstream.models

theorem emits_noted {state : RequestState} {effect : Effect}
    (hmodel : ∃ upstream ∈ config.upstreams, modelName ∈ upstream.models)
    (h : Emits config.toAppConfig request modelName effect) (hnoted : Noted config state) :
    Noted config (state.observe effect) := by
  cases h with
  | model => exact ⟨hnoted.department, fun name hname => Option.some.inj hname ▸ hmodel⟩
  | _ => exact ⟨hnoted.department, hnoted.model⟩

/-- What the arrival notes and no later call gives up. -/
theorem stateOf_kept {appConfig : AppConfig} {task : Task} (h : TaskEmits appConfig task)
    (I : RequestState → Prop) (harrived : I (stateOf (startRequest appConfig task.request).1))
    (hlater : ∀ modelName, unknownModelError (.fromConfig appConfig) modelName = none →
      ∀ state effect, Emits appConfig task.request modelName effect → I state →
        I (state.observe effect)) : I (stateOf task.trace) := by
  obtain ⟨effects, htrace, hemits⟩ := h
  rw [htrace, stateOf, List.foldl_append]
  cases hemits with
  | arrived => exact harrived
  | concerned modelName hknown hall =>
    exact List.foldlRecOn effects _ harrived fun state hstate effect hmem =>
      hlater modelName hknown state effect (hall effect hmem) hstate

theorem task_noted {task : Task} (h : TaskEmits config.toAppConfig task)
    (hdepartment : task.request.department ∈ unknownDepartment :: config.departmentNames) :
    Noted config (stateOf task.trace) := by
  refine stateOf_kept h (Noted config) ?_ fun modelName hknown state effect hemits =>
    emits_noted (known_listed hknown) hemits
  rw [startRequest_effects]
  exact ⟨fun name hname => Option.some.inj hname ▸ hdepartment, fun _ hname => by cases hname⟩

theorem finalize_bounded {state : RequestState} (h : Noted config state) (defaultStatusCode : ℕ) :
    ∀ event ∈ (finalizeRequestMetrics state "POST" defaultStatusCode).1,
      Bounded config (requestEventLabels event) := by
  have hmethod {labels : Labels} (hrest : Bounded config labels) :
      Bounded config (("method", "POST".toUpper) :: labels) :=
    bounded_cons (method_inSpace config) hrest
  have hclass (status : StatusClass) : Bounded config [("status_class", classText status)] :=
    bounded_cons (class_inSpace config status) (bounded_nil config)
  have hfailure (status : StatusClass) (origin : FailureOrigin) :
      Bounded config [("status_class", classText status), ("failure_origin", originText origin)] :=
    bounded_cons (class_inSpace config status)
      (bounded_cons (origin_inSpace config origin) (bounded_nil config))
  have hrequest {department : String} (hmem : department ∈ state.department) (endpoint : Endpoint)
      {labels : Labels} (hrest : Bounded config labels) :
      Bounded config (("department", department) :: ("endpoint", endpoint.name) :: labels) :=
    bounded_cons (department_inSpace (h.department department hmem)) (bounded_endpoint endpoint hrest)
  simp only [finalizeRequestMetrics, buildRequestMetricsSnapshot]
  split
  · exact List.forall_mem_nil _
  · dsimp only
    split
    · rename_i department endpoint hstate _
      rw [List.forall_mem_append, List.forall_mem_append]
      refine ⟨⟨?_, ?_⟩, ?_⟩
      · simp only [observeRequest, List.forall_mem_cons, List.not_mem_nil, false_implies,
          implies_true, and_true]
        exact ⟨hrequest hstate endpoint (hmethod (hclass _)),
          hrequest hstate endpoint (hmethod (bounded_nil config))⟩
      · split
        · rename_i modelName hmodel
          have hpair {labels : Labels} (hrest : Bounded config labels) :=
            bounded_pair (h.department department hstate) (h.model modelName hmodel) hrest
          simp only [observeModelRequest, List.forall_mem_cons, List.not_mem_nil, false_implies,
            implies_true, and_true]
          exact ⟨hpair (bounded_endpoint endpoint (hmethod (hclass _))),
            hpair (bounded_endpoint endpoint (hmethod (bounded_nil config)))⟩
        · exact List.forall_mem_nil _
      · split
        · simp only [recordRequestFailure]
          split
          · exact List.forall_mem_nil _
          · exact List.forall_mem_singleton.mpr
              (hrequest hstate endpoint (hmethod (hfailure _ _)))
        · exact List.forall_mem_nil _
    · exact List.forall_mem_nil _

end

/-- Whatever clients send and upstreams answer, every label of every metric has
one of the values that the configuration and the code fix for it. -/
theorem label_space_bounded {P : Platform} {config : GatewayConfig}
    {steps : List (System × Event)} {s : System}
    (run : Run (step P config.toAppConfig) (initial config.toAppConfig) steps s)
    (hclients : ∀ taken ∈ steps, FromClient config taken.2) :
    (∀ event ∈ s.gateway.metrics, Bounded config (eventLabels event)) ∧
      ∀ task ∈ s.tasks, ∀ defaultStatusCode,
        ∀ event ∈ (finalizeRequestMetrics (stateOf task.trace) "POST" defaultStatusCode).1,
          Bounded config (requestEventLabels event) := by
  have hemits := task_emits run.reachable
  have hdepartment : ∀ task ∈ s.tasks,
      task.request.department ∈ unknownDepartment :: config.departmentNames := by
    intro task htask
    obtain ⟨headers, endpoint, hrequest⟩ := run_requests run hclients task htask
    rw [hrequest]
    exact receive_department config headers endpoint
  refine ⟨?_, ?_⟩
  · intro event hevent
    obtain ⟨task, htask, effect, heffect, now, g, hemitted⟩ :=
      metrics_emitted run.reachable event hevent
    exact task_bounded (hemits task htask) (hdepartment task htask) now g effect heffect event hemitted
  · intro task htask defaultStatusCode
    exact finalize_bounded (task_noted (hemits task htask) (hdepartment task htask)) defaultStatusCode

def sampleGateway : GatewayConfig :=
  { smallConfig with
    departments := [(" research ", ⟨["key"], by decide⟩)]
    apiKeyToDepartment := [("key", "research")]
    departments_accepted := by decide +kernel }

def knownClient : ProxyRequest := receive sampleGateway [("x-api-key", "key")] .chatCompletions

def oneClient : List Event := [.arrive knownClient 0, .resume 0 (.body postBody) 0]

theorem oneClient_runs : (smallRun oneClient).isSome = true := by decide +kernel

theorem label_space_bounded_oneClient :
    ((smallRun oneClient).get oneClient_runs).gateway.metrics.length = 3 ∧
      ∀ event ∈ ((smallRun oneClient).get oneClient_runs).gateway.metrics,
        Bounded sampleGateway (eventLabels event) := by
  have hexec : exec (step smallPlatform smallConfig) (initial smallConfig) oneClient =
      some ((smallRun oneClient).get oneClient_runs) := (Option.some_get oneClient_runs).symm
  obtain ⟨steps, run, hevents⟩ := exec_run .refl hexec
  have hclients : ∀ taken ∈ steps, FromClient sampleGateway taken.2 := by
    intro taken htaken
    have hmem : taken.2 ∈ oneClient := hevents ▸ List.mem_map_of_mem htaken
    simp only [oneClient, List.mem_cons, List.not_mem_nil, or_false] at hmem
    rintro request now hrequest
    rcases hmem with heq | heq
    · rw [hrequest, Event.arrive.injEq] at heq
      exact ⟨_, _, heq.1⟩
    · rw [hrequest] at heq
      cases heq
  exact ⟨by decide +kernel, (label_space_bounded run hclients).1⟩

end VllmSourceGateway.MetricLabels
