import VllmSourceGateway.GatewaySystem
import VllmSourceGateway.RequestSlot

set_option autoImplicit false

/-! Which calls one request can make. Until its model is known to the registry it
makes none but the two of its arrival; from then on each names its department,
its endpoint and that model, and upstreams of the model's pool. -/
namespace VllmSourceGateway.RequestEmissions
open PyValues UsageExtractors Metrics Config AdmissionControl Routing GatewayEffects
open StreamBytes UpstreamHeaders ProxyEndpoint RequestSegments RequestSlot GatewaySystem
open TransitionRuns

def modelPool (config : AppConfig) (modelName : String) : List UpstreamTarget :=
  (RoutingRegistry.fromConfig config).pool modelName

inductive Emits (config : AppConfig) (request : ProxyRequest) (modelName : String) : Effect → Prop where
  | model : Emits config request modelName (.requestMetrics (.model modelName))
  | statusOverride (statusCode : ℕ) :
      Emits config request modelName (.requestMetrics (.statusOverride statusCode))
  | failureOrigin (origin : FailureOrigin) :
      Emits config request modelName (.requestMetrics (.failureOrigin origin))
  | checkRequestShape (bodySize : ℕ) (payload : JsonObject) (result : Except Rejection JsonObject) :
      Emits config request modelName (.checkRequestShape request.department modelName
        request.endpoint bodySize payload result)
  | acquire (result : Except Rejection (Option AdmissionLease)) :
      Emits config request modelName (.acquire request.department modelName request.endpoint result)
  | release : Emits config request modelName (.release (leaseFor config request modelName))
  | recordTokens (tokens : ℤ) :
      Emits config request modelName (.recordTokens request.department modelName tokens)
  | recordRetryEvent :
      Emits config request modelName (.recordRetryEvent request.department modelName)
  | selectUpstream (excluded : List String) (result : Except RoutingError UpstreamTarget) :
      Emits config request modelName (.selectUpstream modelName excluded result)
  | upstreamSelection {upstream : UpstreamTarget} (hpool : upstream ∈ modelPool config modelName) :
      Emits config request modelName (.metric (.upstreamSelection modelName upstream.name))
  | upstreamRequestDuration {upstream : UpstreamTarget}
      (hpool : upstream ∈ modelPool config modelName) :
      Emits config request modelName
        (.metric (.upstreamRequestDuration modelName upstream.name request.endpoint))
  | streamFirstChunk : Emits config request modelName
      (.metric (.streamFirstChunk request.department modelName request.endpoint))
  | promptTokens (amount : ℤ) : Emits config request modelName
      (.metric (.promptTokens request.department modelName amount))
  | generationTokens (amount : ℤ) : Emits config request modelName
      (.metric (.generationTokens request.department modelName amount))
  | tokenAccounting (status : AccountingStatus) :
      Emits config request modelName (.metric (.tokenAccounting request.endpoint status))
  | modelTokenAccounting (status : AccountingStatus) : Emits config request modelName
      (.metric (.modelTokenAccounting request.department modelName request.endpoint status))
  | contact {flight : Flight} (hmodel : flight.modelName = modelName)
      (hpool : flight.upstream ∈ modelPool config modelName) :
      Emits config request modelName (contactUpstream request flight)
  | attemptEnded (outcome : Except Exn ℕ) :
      Emits config request modelName (.attemptEnded request.department modelName outcome)
  | exchangeClosed :
      Emits config request modelName (.exchangeClosed request.department modelName)

/-- The names that a suspended request of the model goes on with. -/
def ConcernedWith (config : AppConfig) (request : ProxyRequest) (modelName : String) :
    Point → Prop
  | .awaitBody => False
  | .awaitSend flight | .awaitPost flight =>
    flight.modelName = modelName ∧ flight.upstream ∈ modelPool config modelName ∧
      flight.lease = leaseFor config request modelName
  | .streaming ctx _ =>
    ctx.department = request.department ∧ ctx.modelName = modelName ∧
      ctx.endpoint = request.endpoint ∧ ctx.lease = leaseFor config request modelName
  | .finished _ => True

section
variable {P : Platform} {config : AppConfig} {request : ProxyRequest} {g : Gateway} {now : ℚ}
  {modelName : String}

/-! ## The calls of each piece of handler code -/

theorem calls_emits {effects : List Effect}
    (h : ∀ effect ∈ effects, AccountingCall request.department modelName request.endpoint effect) :
    ∀ effect ∈ effects, Emits config request modelName effect := by
  intro effect hmem
  cases h effect hmem with
  | promptTokens amount => exact .promptTokens amount
  | generationTokens amount => exact .generationTokens amount
  | tokenAccounting status => exact .tokenAccounting status
  | modelTokenAccounting status => exact .modelTokenAccounting status
  | recordTokens tokens => exact .recordTokens tokens

theorem recordTokenAccounting_emits (status : AccountingStatus) :
    ∀ effect ∈ recordTokenAccounting request.department modelName request.endpoint status,
      Emits config request modelName effect := calls_emits (recordTokenAccounting_calls status)

theorem noteUpstreamStatus_emits (statusCode : ℕ) :
    ∀ effect ∈ noteUpstreamStatus request modelName statusCode,
      Emits config request modelName effect := by
  intro effect hmem
  simp only [noteUpstreamStatus, List.mem_append] at hmem
  rcases hmem with hmem | hmem
  · split at hmem
    · rw [List.mem_singleton.mp hmem]
      exact .failureOrigin .upstream
    · cases hmem
  · split at hmem
    · rw [List.mem_singleton.mp hmem]
      exact .recordRetryEvent
    · cases hmem

theorem endAttempt_emits (outcome : Except Exn ℕ) :
    ∀ effect ∈ endAttempt request modelName outcome, Emits config request modelName effect := by
  simp only [endAttempt, List.forall_mem_cons, List.not_mem_nil, false_implies,
    implies_true, and_true]
  exact ⟨.attemptEnded outcome, .exchangeClosed⟩

theorem raiseUpstreamTransportError_emits (e : HttpxError) :
    ∀ effect ∈ (raiseUpstreamTransportError request modelName e).1,
      Emits config request modelName effect := by
  simp only [raiseUpstreamTransportError, List.forall_mem_cons, List.not_mem_nil, false_implies,
    implies_true, and_true]
  exact ⟨.recordRetryEvent, .tokenAccounting .missingUsage⟩

theorem admission_emits (bodySize : ℕ) (payload shaped : JsonObject)
    (result : Except Rejection (Option AdmissionLease)) :
    ∀ effect ∈ admission request modelName bodySize payload shaped result,
      Emits config request modelName effect := by
  simp only [admission, List.forall_mem_cons, List.not_mem_nil, false_implies,
    implies_true, and_true]
  exact ⟨.model, .checkRequestShape bodySize payload _, .acquire result⟩

theorem selectAndContact_emits (excluded : List String) {flight : Flight}
    (hmodel : flight.modelName = modelName)
    (hpool : flight.upstream ∈ modelPool config modelName) :
    ∀ effect ∈ selectAndContact request excluded flight, Emits config request modelName effect := by
  subst hmodel
  simp only [selectAndContact, List.forall_mem_cons, List.not_mem_nil, false_implies,
    implies_true, and_true]
  exact ⟨.selectUpstream excluded _, .upstreamSelection hpool, .contact rfl hpool⟩

theorem handleResponse_emits (statusCode : ℕ) (headers : List (String × String))
    (content : List UInt8) :
    ∀ effect ∈ (handleResponse P request modelName statusCode headers content).1,
      Emits config request modelName effect :=
  calls_emits (handleResponse_calls modelName statusCode headers content)

theorem finallyBlock_emits {ctx : StreamContext} {point : StreamPoint} (exit : Exit)
    (h : ConcernedWith config request modelName (.streaming ctx point)) :
    ∀ effect ∈ (finallyBlock ctx exit).1, Emits config request modelName effect := by
  obtain ⟨hdepartment, hmodel, hendpoint, hlease⟩ := h
  have hopening : ∀ effect ∈ [Effect.exchangeClosed request.department modelName,
      .release (leaseFor config request modelName)], Emits config request modelName effect := by
    simp only [List.forall_mem_cons, List.not_mem_nil, false_implies,
    implies_true, and_true]
    exact ⟨.exchangeClosed, .release⟩
  have hnoted (statusCode : ℕ) : ∀ effect ∈ [Effect.requestMetrics (.statusOverride statusCode),
      .requestMetrics (.failureOrigin .gateway)], Emits config request modelName effect := by
    simp only [List.forall_mem_cons, List.not_mem_nil, false_implies,
    implies_true, and_true]
    exact ⟨.statusOverride statusCode, .failureOrigin .gateway⟩
  simp only [finallyBlock, hdepartment, hmodel, hendpoint, hlease]
  split
  · rw [List.forall_mem_append, List.forall_mem_append]
    exact ⟨⟨hopening, hnoted 499⟩, recordTokenAccounting_emits .missingUsage⟩
  · split
    · rw [List.forall_mem_append, List.forall_mem_append]
      exact ⟨⟨hopening, hnoted 502⟩, recordTokenAccounting_emits .missingUsage⟩
    · split
      · rw [List.forall_mem_append]
        exact ⟨hopening, recordTokenAccounting_emits _⟩
      · rw [List.forall_mem_append]
        exact ⟨hopening, calls_emits (accountUsage_cases _ _ _ _ _ _).calls⟩

theorem flight_concerned {point : Point} {flight : Flight}
    (hpoint : point = .awaitSend flight ∨ point = .awaitPost flight)
    (h : ConcernedWith config request modelName point) :
    flight.modelName = modelName ∧ flight.upstream ∈ modelPool config modelName ∧
      flight.lease = leaseFor config request modelName := by
  rcases hpoint with rfl | rfl <;> exact h

/-- A request that has read its body makes no call, or a model has become known
and from now on all its calls are about that model. -/
theorem body_emits {point : Point} {input : Input} {effects : List Effect}
    (hpools : PoolsKept config g)
    (h : Segment P config request g now .awaitBody input effects point) :
    (effects = [] ∧ ∃ e, point = .finished (.raised e)) ∨
      ∃ modelName, unknownModelError g.registry modelName = none ∧
        (∀ effect ∈ effects, Emits config request modelName effect) ∧
        ConcernedWith config request modelName point := by
  cases h with
  | rejected => exact .inl ⟨rfl, _, rfl⟩
  | @misshapen _ modelName bodySize payload rejection _ _ hknown =>
    refine .inr ⟨modelName, hknown, ?_, trivial⟩
    simp only [List.forall_mem_cons, List.not_mem_nil, false_implies,
    implies_true, and_true]
    exact ⟨.model, .checkRequestShape bodySize payload _⟩
  | @refused _ modelName _ _ _ _ _ _ _ hknown =>
    exact .inr ⟨modelName, hknown, admission_emits _ _ _ _, trivial⟩
  | @unroutable _ modelName _ _ _ lease error _ hshape hacquire _ _ hknown =>
    refine .inr ⟨modelName, hknown, ?_, trivial⟩
    have hlease : lease = leaseFor config request modelName := acquire_lease hacquire
    rw [List.forall_mem_append, hlease]
    refine ⟨admission_emits _ _ _ _, ?_⟩
    simp only [List.forall_mem_cons, List.not_mem_nil, false_implies,
    implies_true, and_true]
    exact ⟨.selectUpstream [] _, .release⟩
  | @started _ _ _ flight _ hshape hacquire hselect _ hpoint hknown =>
    have hlease : flight.lease = leaseFor config request flight.modelName := acquire_lease hacquire
    have hpool := (selectUpstream_ok _ _ hselect).1
    rw [hpools.pool] at hpool
    refine .inr ⟨flight.modelName, hknown, ?_, ?_⟩
    · rw [List.forall_mem_append]
      exact ⟨admission_emits _ _ _ _, selectAndContact_emits [] rfl hpool⟩
    · rcases hpoint with rfl | rfl <;> exact ⟨rfl, hpool, hlease⟩
  | retried _ _ _ hpoint => simp at hpoint
  | exhausted _ _ hpoint | failed _ hpoint | broken _ hpoint => simp at hpoint

theorem finished_stuck {outcome : Outcome} {point : Point} {input : Input} {effects : List Effect}
    (h : Segment P config request g now (.finished outcome) input effects point) : False := by
  cases h with
  | retried _ _ _ hpoint => simp at hpoint
  | exhausted _ _ hpoint | failed _ hpoint | broken _ hpoint => simp at hpoint

/-- A request that is concerned with a model stays so. -/
theorem segment_emits {point point' : Point} {input : Input} {effects : List Effect}
    (hpools : PoolsKept config g)
    (h : Segment P config request g now point input effects point')
    (hconcerned : ConcernedWith config request modelName point) :
    (∀ effect ∈ effects, Emits config request modelName effect) ∧
      ConcernedWith config request modelName point' := by
  cases h with
  | rejected | misshapen | refused | unroutable | started => exact absurd hconcerned not_false
  | @retried _ _ flight flight' e _ hselect hflight hpoint =>
    obtain ⟨hmodel, _, hlease⟩ := flight_concerned (hpoint.imp And.left And.left) hconcerned
    have hpool := (selectUpstream_ok _ _ hselect).1
    rw [hpools.pool, hmodel] at hpool
    have hmodel' : flight'.modelName = modelName := by rw [hflight]; exact hmodel
    have hlease' : flight'.lease = leaseFor config request modelName := by rw [hflight]; exact hlease
    refine ⟨?_, ?_⟩
    · rw [List.forall_mem_append, hmodel]
      exact ⟨endAttempt_emits _, selectAndContact_emits _ hmodel' hpool⟩
    · rcases hpoint with ⟨_, rfl⟩ | ⟨_, rfl⟩ <;> exact ⟨hmodel', hpool, hlease'⟩
  | @exhausted _ flight e error _ _ hpoint =>
    obtain ⟨hmodel, _, hlease⟩ := flight_concerned hpoint hconcerned
    refine ⟨?_, trivial⟩
    simp only [List.forall_mem_append, List.forall_mem_singleton, hmodel, hlease]
    exact ⟨⟨⟨endAttempt_emits _, .selectUpstream _ _⟩, raiseUpstreamTransportError_emits e⟩,
      .release⟩
  | @failed _ flight e _ hpoint =>
    obtain ⟨hmodel, _, hlease⟩ := flight_concerned hpoint hconcerned
    refine ⟨?_, trivial⟩
    simp only [List.forall_mem_append, List.forall_mem_singleton, hmodel, hlease]
    exact ⟨⟨endAttempt_emits _, raiseUpstreamTransportError_emits e⟩, .release⟩
  | @broken _ flight e _ hpoint =>
    obtain ⟨hmodel, _, hlease⟩ := flight_concerned (hpoint.imp And.left id) hconcerned
    refine ⟨?_, trivial⟩
    simp only [List.forall_mem_append, List.forall_mem_singleton, hmodel, hlease]
    exact ⟨endAttempt_emits _, .release⟩
  | @cancelled flight e =>
    obtain ⟨hmodel, _, _⟩ := hconcerned
    rw [hmodel]
    exact ⟨endAttempt_emits _, trivial⟩
  | @opened flight statusCode =>
    obtain ⟨hmodel, _, hlease⟩ := hconcerned
    rw [hmodel, List.forall_mem_cons]
    exact ⟨⟨.attemptEnded _, noteUpstreamStatus_emits statusCode⟩, rfl, rfl, rfl, hlease⟩
  | @unbuildable flight statusCode =>
    obtain ⟨hmodel, _, hlease⟩ := hconcerned
    refine ⟨?_, trivial⟩
    simp only [List.cons_append, List.forall_mem_cons, List.forall_mem_append, List.not_mem_nil,
      false_implies, implies_true, and_true, hmodel, hlease]
    exact ⟨.attemptEnded _, noteUpstreamStatus_emits statusCode, .release⟩
  | @answered flight statusCode headers content =>
    obtain ⟨hmodel, hpool, hlease⟩ := hconcerned
    refine ⟨?_, trivial⟩
    simp only [List.forall_mem_append, List.forall_mem_singleton, hmodel, hlease]
    exact ⟨⟨⟨⟨endAttempt_emits _, .upstreamRequestDuration hpool⟩,
      noteUpstreamStatus_emits statusCode⟩, handleResponse_emits _ _ _⟩, .release⟩
  | @streamed ctx point point' input effects hresume =>
    refine ⟨?_, hconcerned⟩
    obtain hgoes | ⟨outcome, rfl, hfinishes⟩ := resume_cases _ _ _ _ hresume
    · obtain ⟨hdepartment, hmodel, hendpoint, _⟩ := hconcerned
      rcases hgoes.effects with rfl | rfl
      · exact List.forall_mem_nil _
      · rw [hdepartment, hmodel, hendpoint, List.forall_mem_singleton]
        exact .streamFirstChunk
    · cases hfinishes with
      | unstarted | closeRaised => exact List.forall_mem_nil _
      | completed exit => exact finallyBlock_emits exit hconcerned

inductive EmitsOf (config : AppConfig) (request : ProxyRequest) : List Effect → Point → Prop where
  | arrived {point : Point} (hpoint : point = .awaitBody ∨ ∃ e, point = .finished (.raised e)) :
      EmitsOf config request [] point
  | concerned {effects : List Effect} {point : Point} (modelName : String)
      (hknown : unknownModelError (.fromConfig config) modelName = none)
      (hemits : ∀ effect ∈ effects, Emits config request modelName effect)
      (hpoint : ConcernedWith config request modelName point) : EmitsOf config request effects point

/-- The two calls of the arrival come first, then those about one known model. -/
def TaskEmits (config : AppConfig) (task : Task) : Prop :=
  ∃ effects, task.trace = (startRequest config task.request).1 ++ effects ∧
    EmitsOf config task.request effects task.point

theorem TaskEmits.cases {task : Task} (h : TaskEmits config task) {effect : Effect}
    (hmem : effect ∈ task.trace) :
    effect = .requestMetrics (.context task.request.department task.request.endpoint) ∨
      effect = .metric (.sourceResolution task.request.department
        task.request.sourceResolution.resolutionSource) ∨
      ∃ modelName, unknownModelError (.fromConfig config) modelName = none ∧
        Emits config task.request modelName effect := by
  obtain ⟨effects, htrace, hemits⟩ := h
  rw [htrace, startRequest_effects] at hmem
  simp only [List.cons_append, List.nil_append, List.mem_cons] at hmem
  obtain harrival | harrival | hlater := hmem
  · exact .inl harrival
  · exact .inr (.inl harrival)
  · cases hemits with
    | arrived => cases hlater
    | concerned modelName hknown hall => exact .inr (.inr ⟨modelName, hknown, hall effect hlater⟩)

theorem startRequest_point (config : AppConfig) (request : ProxyRequest) :
    (startRequest config request).2 = .awaitBody ∨
      ∃ e, (startRequest config request).2 = .finished (.raised e) := by
  simp only [startRequest]
  split
  · exact .inr ⟨_, rfl⟩
  · split
    · exact .inr ⟨_, rfl⟩
    · exact .inl rfl

theorem known_kept (h : PoolsKept config g) (modelName : String) :
    unknownModelError g.registry modelName = unknownModelError (.fromConfig config) modelName := by
  simp only [unknownModelError, getModelUpstreams, h.symm]

theorem segment_emitsOf {point point' : Point} {input : Input} {before effects : List Effect}
    (hpools : PoolsKept config g)
    (h : Segment P config request g now point input effects point')
    (hemits : EmitsOf config request before point) :
    EmitsOf config request (before ++ effects) point' := by
  cases hemits with
  | arrived hpoint =>
    rcases hpoint with rfl | ⟨e, rfl⟩
    · rw [List.nil_append]
      obtain ⟨rfl, hraised⟩ | ⟨modelName, hknown, hall, hconcerned⟩ := body_emits hpools h
      · exact .arrived (.inr hraised)
      · exact .concerned modelName ((known_kept hpools modelName).symm.trans hknown) hall hconcerned
    · exact (finished_stuck h).elim
  | concerned modelName hknown hbefore hpoint =>
    obtain ⟨hall, hconcerned⟩ := segment_emits hpools h hpoint
    exact .concerned modelName hknown (List.forall_mem_append.mpr ⟨hbefore, hall⟩) hconcerned

theorem task_emits {s : System} (h : Reachable (step P config) (initial config) s) :
    ∀ task ∈ s.tasks, TaskEmits config task := by
  refine task_invariant (TaskEmits config) ?_ ?_ h
  · exact fun request => ⟨[], (List.append_nil _).symm, .arrived (startRequest_point config request)⟩
  · rintro task g now input effects point hpools ⟨before, htrace, hemits⟩ hsegment
    refine ⟨before ++ effects, ?_, segment_emitsOf hpools hsegment hemits⟩
    simp only [Task.continue, htrace, List.append_assoc]

end

end VllmSourceGateway.RequestEmissions
