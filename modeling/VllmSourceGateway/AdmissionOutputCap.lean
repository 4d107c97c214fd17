import VllmSourceGateway.RequestEmissions

set_option autoImplicit false

/-! When a request carries an output cap that its endpoint reads. The shape check
looks at both cap keys, whatever the endpoint, and adds the endpoint's own key
only where neither is present. -/
namespace VllmSourceGateway.AdmissionOutputCap
open PyValues UsageExtractors Metrics Config AdmissionControl Routing GatewayEffects
open StreamBytes ProxyEndpoint RequestSegments GatewaySystem RequestEmissions TransitionRuns

/-- The cap key that the gateway uses for other endpoints. -/
def otherOutputKey : Endpoint → String
  | .responses => "max_tokens"
  | .chatCompletions | .messages => "max_output_tokens"

/-- The endpoint's own key holds an integer, no boolean, between 1 and the limit. -/
def CapInForce (endpoint : Endpoint) (limit : ℤ) (payload : JsonObject) : Prop :=
  ∃ n, PyDict.get? payload (outputKey endpoint) = some (.int n) ∧ 1 ≤ n ∧ n ≤ limit

/-! ## The two keys of a payload -/

theorem hasOutputCap_iff (endpoint : Endpoint) (payload : JsonObject) :
    (extractValidMaxOutputTokens payload).1 = true ↔
      (PyDict.get? payload (outputKey endpoint)).isSome = true ∨
        (PyDict.get? payload (otherOutputKey endpoint)).isSome = true := by
  have hkeys : (extractValidMaxOutputTokens payload).1 = true ↔
      (PyDict.get? payload "max_tokens").isSome = true ∨
        (PyDict.get? payload "max_output_tokens").isSome = true := by
    simp only [extractValidMaxOutputTokens]
    split <;> simp [*]
    split <;> rfl
  cases endpoint with
  | responses => exact hkeys.trans or_comm
  | chatCompletions | messages => exact hkeys

theorem positiveInt?_eq_some {v : Json} {n : ℤ} (h : positiveInt? v = some n) :
    v = .int n ∧ 1 ≤ n := by
  cases v <;> simp only [positiveInt?, reduceCtorEq] at h
  split at h
  · rename_i hpos
    cases h
    exact ⟨rfl, hpos⟩
  · cases h

/-- A key that is present when all are valid holds a positive integer, at most the
value that is compared with the limit. -/
theorem extracted_bounds {payload : JsonObject} {greatest : ℤ}
    (h : (extractValidMaxOutputTokens payload).2 = some greatest) (endpoint : Endpoint) {v : Json}
    (hv : PyDict.get? payload (outputKey endpoint) = some v) :
    ∃ n, v = .int n ∧ 1 ≤ n ∧ n ≤ greatest := by
  simp only [extractValidMaxOutputTokens] at h
  split at h
  · cases h
  · rename_i w hfirst hsecond
    obtain ⟨rfl, hpos⟩ := positiveInt?_eq_some h
    cases endpoint with
    | responses => cases hsecond.symm.trans hv
    | chatCompletions | messages =>
      cases hfirst.symm.trans hv
      exact ⟨greatest, rfl, hpos, le_refl greatest⟩
  · rename_i w hfirst hsecond
    obtain ⟨rfl, hpos⟩ := positiveInt?_eq_some h
    cases endpoint with
    | responses =>
      cases hsecond.symm.trans hv
      exact ⟨greatest, rfl, hpos, le_refl greatest⟩
    | chatCompletions | messages => cases hfirst.symm.trans hv
  · rename_i w w' hfirst hsecond
    split at h
    · rename_i a b ha hb
      obtain ⟨rfl, hapos⟩ := positiveInt?_eq_some ha
      obtain ⟨rfl, hbpos⟩ := positiveInt?_eq_some hb
      cases h
      cases endpoint with
      | responses =>
        cases hsecond.symm.trans hv
        exact ⟨b, rfl, hbpos, le_max_right a b⟩
      | chatCompletions | messages =>
        cases hfirst.symm.trans hv
        exact ⟨a, rfl, hapos, le_max_left a b⟩
    · cases h

section
variable {config : AdmissionControlConfig} {department modelName : String} {endpoint : Endpoint}
  {bodySize : ℕ} {payload accepted : JsonObject} {limit : RequestShapeLimitConfig} {cap : ℤ}

theorem accepted_cases (henabled : config.enabled = true)
    (hlimit : PyDict.get? config.requestShapeLimits modelName = some limit)
    (hcap : limit.maxOutputTokens = some cap)
    (haccepted : (checkRequestShape config department modelName endpoint bodySize payload).1 =
      .ok accepted) :
    ((extractValidMaxOutputTokens payload).1 = false ∧
        accepted = PyDict.set payload (outputKey endpoint) (.int cap)) ∨
      ((extractValidMaxOutputTokens payload).1 = true ∧ accepted = payload ∧
        ∃ greatest ≤ cap, (extractValidMaxOutputTokens payload).2 = some greatest) := by
  simp only [checkRequestShape, henabled, hlimit, hcap, Bool.not_true, Bool.false_eq_true,
    if_false] at haccepted
  generalize extractValidMaxOutputTokens payload = extracted at haccepted ⊢
  obtain ⟨hasOutputCap, maxOutputTokens⟩ := extracted
  split at haccepted
  · cases haccepted
  · split at haccepted
    · cases haccepted
    · rename_i hkept
      split at haccepted
      · cases haccepted
      · cases hasOutputCap with
        | false =>
          cases haccepted
          exact .inl ⟨rfl, rfl⟩
        | true =>
          cases haccepted
          refine .inr ⟨rfl, rfl, ?_⟩
          cases maxOutputTokens with
          | none => exact absurd rfl hkept
          | some greatest =>
            refine ⟨greatest, ?_, rfl⟩
            simpa [outputCapRejected] using hkept

/-- An accepted payload is capped where its endpoint looks, unless the client has
put its cap under the other endpoints' key only. -/
theorem accepted_capped_iff (henabled : config.enabled = true)
    (hlimit : PyDict.get? config.requestShapeLimits modelName = some limit)
    (hcap : limit.maxOutputTokens = some cap)
    (haccepted : (checkRequestShape config department modelName endpoint bodySize payload).1 =
      .ok accepted) :
    CapInForce endpoint cap accepted ↔
      (PyDict.get? payload (otherOutputKey endpoint)).isSome = true →
        (PyDict.get? payload (outputKey endpoint)).isSome = true := by
  obtain ⟨habsent, rfl⟩ | ⟨hpresent, rfl, greatest, hle, hgreatest⟩ :=
    accepted_cases henabled hlimit hcap haccepted
  · have hnone := mt (hasOutputCap_iff endpoint payload).mpr (by simp [habsent])
    rw [not_or] at hnone
    refine iff_of_true ⟨cap, PyDict.get?_set_self _ _ _, ?_, le_refl cap⟩ fun hother =>
      absurd hother hnone.2
    exact limit.maxOutputTokens_pos cap hcap
  · constructor
    · rintro ⟨n, hown, _⟩ _
      rw [hown]
      rfl
    · intro hown
      have hsome : (PyDict.get? accepted (outputKey endpoint)).isSome = true :=
        ((hasOutputCap_iff endpoint accepted).mp hpresent).elim id hown
      obtain ⟨v, hv⟩ := Option.isSome_iff_exists.mp hsome
      obtain ⟨n, rfl, hpos, hn⟩ := extracted_bounds hgreatest endpoint hv
      exact ⟨n, hv, hpos, hn.trans hle⟩

end

/-! ## What reaches an upstream has passed the check -/

def sentPayloads (effects : List Effect) : List (String × JsonObject) :=
  effects.filterMap fun effect =>
    match effect with
    | .contact _ modelName _ sent => some (modelName, sent.payload)
    | _ => none

theorem sentPayloads_append (xs ys : List Effect) :
    sentPayloads (xs ++ ys) = sentPayloads xs ++ sentPayloads ys := List.filterMap_append

theorem sentPayloads_bookkeeping {effects : List Effect} (h : effects.all bookkeeping = true) :
    sentPayloads effects = [] := by
  refine List.filterMap_eq_nil_iff.mpr fun effect heffect => ?_
  have hkept := List.all_eq_true.mp h effect heffect
  cases effect <;> first | rfl | cases hkept

theorem sentPayloads_noteUpstreamStatus (request : ProxyRequest) (modelName : String)
    (status : ℕ) : sentPayloads (noteUpstreamStatus request modelName status) = [] := by
  simp only [noteUpstreamStatus]
  split <;> split <;> rfl

theorem sentPayloads_stream {ctx : StreamContext} {point : StreamPoint}
    {input : StreamInput} {effects : List Effect} {outcome : StreamOutcome}
    (h : Finishes ctx point input effects outcome) : sentPayloads effects = [] := by
  cases h with
  | unstarted | closeRaised => rfl
  | completed exit =>
    obtain ⟨accounting, heffects, haccounting⟩ := finallyBlock_effects ctx exit
    rw [heffects]
    change sentPayloads accounting = []
    exact sentPayloads_bookkeeping haccounting

def flightOf? : Point → Option Flight
  | .awaitSend flight | .awaitPost flight => some flight
  | _ => none

theorem flightOf?_eq {point : Point} {flight : Flight}
    (h : point = .awaitSend flight ∨ point = .awaitPost flight) :
    flightOf? point = some flight := by
  rcases h with rfl | rfl <;> rfl

section
variable {P : Platform} {config : AppConfig} {request : ProxyRequest} {g : Gateway} {now : ℚ}

/-- What a resumption sends is the payload of the flight that it then awaits. -/
theorem segment_sent {point point' : Point} {input : Input} {effects : List Effect}
    (h : Segment P config request g now point input effects point') :
    ∀ item ∈ sentPayloads effects, ∃ flight ∈ flightOf? point',
      item = (flight.modelName, flight.payload) := by
  have hnone (hsent : sentPayloads effects = []) : ∀ item ∈ sentPayloads effects,
      ∃ flight ∈ flightOf? point', item = (flight.modelName, flight.payload) := by
    rw [hsent]
    exact List.forall_mem_nil _
  cases h with
  | rejected | misshapen | refused | unroutable => exact hnone rfl
  | exhausted | failed | broken | cancelled => exact hnone rfl
  | @started _ _ _ flight _ _ _ _ _ hpoint =>
    exact List.forall_mem_singleton.mpr ⟨flight, flightOf?_eq hpoint, rfl⟩
  | @retried _ _ _ flight' _ _ _ _ hpoint =>
    exact List.forall_mem_singleton.mpr
      ⟨flight', flightOf?_eq (hpoint.imp And.right And.right), rfl⟩
  | opened => exact hnone (sentPayloads_noteUpstreamStatus _ _ _)
  | unbuildable =>
    refine hnone ?_
    rw [sentPayloads_append]
    exact List.append_eq_nil_iff.mpr ⟨sentPayloads_noteUpstreamStatus _ _ _, rfl⟩
  | answered =>
    refine hnone ?_
    rw [sentPayloads_append, sentPayloads_append, sentPayloads_append,
      sentPayloads_noteUpstreamStatus,
      sentPayloads_bookkeeping (handleResponse_bookkeeping _ _ _ _)]
    rfl
  | streamed hresume =>
    refine hnone ?_
    obtain hgoes | ⟨outcome, rfl, hfinishes⟩ := resume_cases _ _ _ _ hresume
    · rcases hgoes.effects with rfl | rfl <;> rfl
    · exact sentPayloads_stream hfinishes

def Checked (config : AppConfig) (request : ProxyRequest) (trace : List Effect)
    (modelName : String) (shaped : JsonObject) : Prop :=
  ∃ bodySize payload,
    .checkRequestShape request.department modelName request.endpoint bodySize payload (.ok shaped) ∈
        trace ∧
      (checkRequestShape config.admissionControl request.department modelName request.endpoint
        bodySize payload).1 = .ok shaped

theorem Checked.mono {trace trace' : List Effect} {modelName : String} {shaped : JsonObject}
    (hsub : ∀ effect ∈ trace, effect ∈ trace') (h : Checked config request trace modelName shaped) :
    Checked config request trace' modelName shaped := by
  obtain ⟨bodySize, payload, hmem, hshaped⟩ := h
  exact ⟨bodySize, payload, hsub _ hmem, hshaped⟩

/-- The flight of a loop keeps the payload that was checked before the loop. -/
theorem segment_flight {point point' : Point} {input : Input} {effects : List Effect}
    (h : Segment P config request g now point input effects point') :
    ∀ flight ∈ flightOf? point', Checked config request effects flight.modelName flight.payload ∨
      ∃ before ∈ flightOf? point, before.modelName = flight.modelName ∧
        before.payload = flight.payload := by
  intro flight hflight
  cases h with
  | rejected | misshapen | refused | unroutable => cases hflight
  | exhausted | failed | broken | cancelled => cases hflight
  | opened | unbuildable | answered | streamed => cases hflight
  | @started _ bodySize payload _ _ hshape _ _ _ hpoint =>
    cases (flightOf?_eq hpoint).symm.trans hflight
    exact .inl ⟨bodySize, payload, List.mem_append_left _ (by simp [admission]), hshape⟩
  | @retried _ _ before after _ _ _ heq hpoint =>
    cases (flightOf?_eq (hpoint.imp And.right And.right)).symm.trans hflight
    exact .inr ⟨before, flightOf?_eq (hpoint.imp And.left And.left), by rw [heq], by rw [heq]⟩

structure OnlyChecked (config : AppConfig) (task : Task) : Prop where
  sent : ∀ item ∈ sentPayloads task.trace, Checked config task.request task.trace item.1 item.2
  flight : ∀ flight ∈ flightOf? task.point,
    Checked config task.request task.trace flight.modelName flight.payload

/-- Nothing is sent, nor being sent, when a request has just arrived. -/
theorem start_unsent (config : AppConfig) (request : ProxyRequest) :
    sentPayloads (Task.start config request).trace = [] ∧
      flightOf? (Task.start config request).point = none := by
  constructor
  · rw [Task.start, startRequest_effects]
    rfl
  · rw [Task.start]
    rcases startRequest_point config request with hpoint | ⟨e, hpoint⟩
    · rw [hpoint]
      rfl
    · rw [hpoint]
      rfl

theorem only_checked {s : System} (h : Reachable (step P config) (initial config) s) :
    ∀ task ∈ s.tasks, OnlyChecked config task := by
  refine task_invariant (OnlyChecked config) (fun request => ⟨?_, ?_⟩) ?_ h
  · rw [(start_unsent config request).1]
    exact List.forall_mem_nil _
  · rw [(start_unsent config request).2]
    exact fun _ hflight => by cases hflight
  · intro task g now input effects point _ hinv hsegment
    have hold : ∀ effect ∈ task.trace, effect ∈ task.trace ++ effects :=
      fun _ hmem => List.mem_append_left _ hmem
    have hflights : ∀ flight ∈ flightOf? point,
        Checked config task.request (task.trace ++ effects) flight.modelName flight.payload := by
      intro flight hflight
      obtain hnew | ⟨before, hbefore, hmodel, hpayload⟩ := segment_flight hsegment flight hflight
      · exact hnew.mono fun _ hmem => List.mem_append_right _ hmem
      · rw [← hmodel, ← hpayload]
        exact (hinv.flight before hbefore).mono hold
    refine ⟨?_, hflights⟩
    simp only [Task.continue, sentPayloads_append, List.forall_mem_append]
    refine ⟨fun item hitem => (hinv.sent item hitem).mono hold, fun item hitem => ?_⟩
    obtain ⟨flight, hflight, rfl⟩ := segment_sent hsegment item hitem
    exact hflights flight hflight

end

/-- The client has not put its cap under the other endpoints' key alone. Admission
control that is disabled checks nothing and adds nothing. -/
def CapApplies (config : AdmissionControlConfig) (endpoint : Endpoint) (cap : ℤ)
    (payload : JsonObject) : Prop :=
  if config.enabled = true then
    (PyDict.get? payload (otherOutputKey endpoint)).isSome = true →
      (PyDict.get? payload (outputKey endpoint)).isSome = true
  else CapInForce endpoint cap payload

theorem capInForce_iff_applies {config : AdmissionControlConfig} {department modelName : String}
    {endpoint : Endpoint} {bodySize : ℕ} {payload accepted : JsonObject}
    {limit : RequestShapeLimitConfig} {cap : ℤ}
    (hlimit : PyDict.get? config.requestShapeLimits modelName = some limit)
    (hcap : limit.maxOutputTokens = some cap)
    (haccepted : (checkRequestShape config department modelName endpoint bodySize payload).1 =
      .ok accepted) :
    CapInForce endpoint cap accepted ↔ CapApplies config endpoint cap payload := by
  simp only [CapApplies]
  split
  · rename_i henabled
    exact accepted_capped_iff henabled hlimit hcap haccepted
  · rename_i hdisabled
    simp only [checkRequestShape, hdisabled, Bool.not_false, if_true, Except.ok.injEq] at haccepted
    rw [haccepted]

/-- For a model with an output limit: which payloads the check lets through carry a
cap in force, and so which of those that ever reach an upstream. -/
theorem output_cap_iff {P : Platform} {config : AppConfig} {modelName : String}
    {limit : RequestShapeLimitConfig} {cap : ℤ}
    (hlimit : PyDict.get? config.admissionControl.requestShapeLimits modelName = some limit)
    (hcap : limit.maxOutputTokens = some cap) :
    (∀ department endpoint bodySize payload accepted,
      (checkRequestShape config.admissionControl department modelName endpoint bodySize payload).1 =
          .ok accepted →
        (CapInForce endpoint cap accepted ↔
          CapApplies config.admissionControl endpoint cap payload)) ∧
      ∀ s, Reachable (step P config) (initial config) s → ∀ task ∈ s.tasks, ∀ sent,
        (modelName, sent) ∈ sentPayloads task.trace →
          ∃ bodySize payload, .checkRequestShape task.request.department modelName
              task.request.endpoint bodySize payload (.ok sent) ∈ task.trace ∧
            (CapInForce task.request.endpoint cap sent ↔
              CapApplies config.admissionControl task.request.endpoint cap payload) := by
  refine ⟨fun _ _ _ _ _ haccepted => capInForce_iff_applies hlimit hcap haccepted, ?_⟩
  intro s hreach task htask sent hsent
  obtain ⟨bodySize, payload, hmem, hshaped⟩ := (only_checked hreach task htask).sent _ hsent
  exact ⟨bodySize, payload, hmem, capInForce_iff_applies hlimit hcap hshaped⟩

def cappedConfig : AppConfig :=
  { smallConfig with
    admissionControl := { sampleAdmission with
      requestShapeLimits := [("llama", sampleShapeLimit)] } }

/-- A request of the Responses API with a cap that only other endpoints read. -/
def otherKeyPayload : JsonObject := [("model", .str "llama"), ("max_tokens", .int 5)]

theorem output_cap_iff_otherKey :
    ¬ CapInForce .responses 16 otherKeyPayload ∧ CapInForce .messages 16 otherKeyPayload := by
  have hcapped := (@output_cap_iff smallPlatform cappedConfig "llama" _ 16 rfl rfl).1 "research"
  constructor
  · rw [hcapped .responses 40 otherKeyPayload otherKeyPayload (by rfl)]
    exact fun happlies => Bool.false_ne_true (happlies rfl)
  · rw [hcapped .messages 40 otherKeyPayload otherKeyPayload (by rfl)]
    exact fun _ => rfl

/-- The shape check lets it through as it is. -/
theorem output_cap_missed :
    ¬ ∀ (config : AdmissionControlConfig) (department modelName : String) (endpoint : Endpoint)
        (bodySize : ℕ) (payload accepted : JsonObject) (limit : RequestShapeLimitConfig) (cap : ℤ),
        config.enabled = true → PyDict.get? config.requestShapeLimits modelName = some limit →
        limit.maxOutputTokens = some cap →
        (checkRequestShape config department modelName endpoint bodySize payload).1 =
          .ok accepted →
        CapInForce endpoint cap accepted := by
  intro h
  obtain ⟨n, hget, _⟩ := h cappedConfig.admissionControl "research" "llama" .responses 40
    otherKeyPayload otherKeyPayload _ 16 rfl rfl rfl (by rfl)
  simp [otherKeyPayload, outputKey, PyDict.get?] at hget

end VllmSourceGateway.AdmissionOutputCap
