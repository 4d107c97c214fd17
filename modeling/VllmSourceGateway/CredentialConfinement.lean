import VllmSourceGateway.RequestEmissions

set_option autoImplicit false

/-! Who gets to see whose credentials. An upstream is sent its own token and no
other, and what a client puts into headers that are not forwarded has no part in
what any upstream is sent. -/
namespace VllmSourceGateway.CredentialConfinement
open PyValues UsageExtractors Metrics Config AdmissionControl Routing GatewayEffects
open StreamBytes UpstreamHeaders ProxyEndpoint RequestSegments GatewaySystem RequestEmissions
open TransitionRuns

/-- The request goes to the upstream and shows it its own token at most. -/
structure Confined (request : ProxyRequest) (u : UpstreamConfig) (sent : UpstreamRequest) : Prop where
  name : sent.upstreamName = u.name
  target : sent.url = rstripSlash u.baseUrl ++ request.endpoint.upstreamPath
  unique : PyDict.Unique sent.headers
  authorization : PyDict.get? sent.headers "authorization" =
    u.authorizationToken.map ("Bearer " ++ ·)
  blocked : ∀ item ∈ sent.headers, item.1.toLower ∈ blockedUpstreamHeaders →
    ∃ token ∈ u.authorizationToken, item = ("authorization", "Bearer " ++ token)

section
variable {P : Platform} {config : AppConfig} {s : System}

theorem contactUpstream_confined {request : ProxyRequest} {flight : Flight}
    {department modelName : String} {upstream : UpstreamTarget} {sent : UpstreamRequest}
    (h : contactUpstream request flight = .contact department modelName upstream sent)
    (hpool : flight.upstream ∈ modelPool config modelName) :
    ∃ u ∈ config.upstreams, Confined request u sent := by
  obtain ⟨u, hu, htarget⟩ := List.mem_map.mp (fromConfig_pool config modelName _ hpool).1
  simp only [contactUpstream, Effect.contact.injEq] at h
  obtain ⟨_, _, _, rfl⟩ := h
  rw [← htarget]
  exact ⟨u, hu, rfl, rfl, buildUpstreamHeaders_unique _ _, buildUpstreamHeaders_authorization _ _,
    fun item => buildUpstreamHeaders_blocked _ _⟩

theorem contacts_confined (h : Reachable (step P config) (initial config) s) :
    ∀ task ∈ s.tasks, ∀ department modelName upstream sent,
      .contact department modelName upstream sent ∈ task.trace →
      ∃ u ∈ config.upstreams, Confined task.request u sent := by
  intro task htask department modelName upstream sent hmem
  obtain harrival | harrival | ⟨model, _, hcontact⟩ := (task_emits h task htask).cases hmem
  · cases harrival
  · cases harrival
  · generalize heffect : Effect.contact department modelName upstream sent = effect at hcontact
    cases hcontact with
    | @contact flight hmodel hpool =>
      have hsame : flight.modelName = modelName := by
        simp only [contactUpstream, Effect.contact.injEq] at heffect
        exact heffect.2.1.symm
      exact contactUpstream_confined heffect.symm (by rwa [← hsame, hmodel])
    | _ => cases heffect

end

/-! ## What is not forwarded does not matter -/

/-- The requests differ only in headers that are not forwarded. -/
structure SameForwarded (request request' : ProxyRequest) : Prop where
  endpoint : request'.endpoint = request.endpoint
  department : request'.department = request.department
  resolutionSource :
    request'.sourceResolution.resolutionSource = request.sourceResolution.resolutionSource
  forwarded : (request'.headers.filter fun item => shouldForwardUpstreamHeader item.1) =
    request.headers.filter fun item => shouldForwardUpstreamHeader item.1

/-- They also pass the check of the content length alike. -/
structure Interchangeable (config : AppConfig) (request request' : ProxyRequest) : Prop extends
    SameForwarded request request' where
  contentLength : contentLengthExceedsLimit request' config.server.maxRequestBodyBytes =
    contentLengthExceedsLimit request config.server.maxRequestBodyBytes

theorem Interchangeable.refl (config : AppConfig) (request : ProxyRequest) :
    Interchangeable config request request := ⟨⟨rfl, rfl, rfl, rfl⟩, rfl⟩

section
variable {P : Platform} {config : AppConfig} {request request' : ProxyRequest}

theorem contactUpstream_same (h : SameForwarded request request') :
    contactUpstream request' = contactUpstream request := by
  funext flight
  simp only [contactUpstream, buildUpstreamHeaders, h.department, h.endpoint, h.forwarded]

theorem raiseUpstreamTransportError_same (h : SameForwarded request request') :
    raiseUpstreamTransportError request' = raiseUpstreamTransportError request := by
  funext modelName e
  simp only [raiseUpstreamTransportError, h.department, h.endpoint]

theorem noteUpstreamStatus_same (h : SameForwarded request request') :
    noteUpstreamStatus request' = noteUpstreamStatus request := by
  funext modelName statusCode
  simp only [noteUpstreamStatus, h.department]

theorem endAttempt_same (h : SameForwarded request request') :
    endAttempt request' = endAttempt request := by
  funext modelName outcome
  simp only [endAttempt, h.department]

theorem handleResponse_same (h : SameForwarded request request') (P : Platform) :
    handleResponse P request' = handleResponse P request := by
  funext modelName statusCode headers content
  simp only [handleResponse, h.department, h.endpoint]

theorem afterSend_same (h : SameForwarded request request') (g : Gateway) (flight : Flight)
    (input : Input) : afterSend P request' g flight input = afterSend P request g flight input := by
  unfold afterSend
  rw [contactUpstream_same h, raiseUpstreamTransportError_same h, noteUpstreamStatus_same h,
    endAttempt_same h, h.department, h.endpoint]

theorem afterPost_same (h : SameForwarded request request') (g : Gateway) (flight : Flight)
    (input : Input) : afterPost P request' g flight input = afterPost P request g flight input := by
  unfold afterPost
  rw [contactUpstream_same h, raiseUpstreamTransportError_same h, noteUpstreamStatus_same h,
    endAttempt_same h, handleResponse_same h, h.endpoint]

theorem afterBody_same (h : SameForwarded request request') (g : Gateway) (now : ℚ)
    (input : Input) :
    afterBody P config request' g now input = afterBody P config request g now input := by
  unfold afterBody handleBody admitRequest startStreaming startPosting
  rw [contactUpstream_same h, h.department, h.endpoint]

/-- From its arrival on, a request is handled by what is forwarded of it. -/
theorem advance_same (h : SameForwarded request request') (g : Gateway) (now : ℚ) (point : Point)
    (input : Input) :
    advance P config request' g now point input = advance P config request g now point input := by
  cases point with
  | awaitBody => exact afterBody_same h g now input
  | awaitSend flight => exact afterSend_same h g flight input
  | awaitPost flight => exact afterPost_same h g flight input
  | streaming ctx point => cases input <;> rfl
  | finished => rfl

/-- Points with the same future: equal ones, and refusals before the body. -/
def SameFuture (point point' : Point) : Prop :=
  point' = point ∨ ∃ e e', point = .finished (.raised e) ∧ point' = .finished (.raised e')

/-- A refused client may be told `missing` or `unknown` for its key. -/
theorem startRequest_same (h : Interchangeable config request request') :
    (startRequest config request').1 = (startRequest config request).1 ∧
      SameFuture (startRequest config request).2 (startRequest config request').2 := by
  refine ⟨?_, ?_⟩
  · rw [startRequest_effects, startRequest_effects, h.department, h.endpoint, h.resolutionSource]
  · simp only [startRequest, enforceSourceResolutionPolicy, h.resolutionSource, h.contentLength]
    split_ifs
    all_goals first | exact .inl rfl | exact .inr ⟨_, _, rfl, rfl⟩

end

inductive SameEvent (R : ProxyRequest → ProxyRequest → Prop) : Event → Event → Prop where
  | same (event : Event) : SameEvent R event event
  | arrive {request request' : ProxyRequest} (now : ℚ) (h : R request request') :
      SameEvent R (.arrive request now) (.arrive request' now)

structure TwinTask (config : AppConfig) (task task' : Task) : Prop where
  request : Interchangeable config task.request task'.request
  trace : task'.trace = task.trace
  point : SameFuture task.point task'.point

structure Twin (config : AppConfig) (s s' : System) : Prop where
  gateway : s'.gateway = s.gateway
  clock : s'.clock = s.clock
  tasks : List.Forall₂ (TwinTask config) s.tasks s'.tasks

section
variable {P : Platform} {config : AppConfig}

theorem Twin.refl (config : AppConfig) (s : System) : Twin config s s :=
  ⟨rfl, rfl, List.forall₂_same.mpr fun task _ => ⟨.refl config task.request, rfl, .inl rfl⟩⟩

theorem twin_arrive {s s' t : System} {request request' : ProxyRequest} {now : ℚ}
    (h : Twin config s s') (hrequest : Interchangeable config request request')
    (hstep : step P config s (.arrive request now) = some t) :
    ∃ t', step P config s' (.arrive request' now) = some t' ∧ Twin config t t' := by
  obtain ⟨heffects, hpoint⟩ := startRequest_same hrequest
  simp only [step] at hstep ⊢
  rw [h.clock]
  split at hstep
  · cases hstep
  · rename_i hclock
    cases hstep
    rw [if_neg hclock]
    refine ⟨_, rfl, ?_, rfl, ?_⟩
    · simp only [System.run, Task.start, heffects, h.gateway]
    · exact List.rel_append h.tasks (.cons ⟨hrequest, heffects, hpoint⟩ .nil)

theorem twin_resume {s s' t : System} {i : ℕ} {input : Input} {now : ℚ} (h : Twin config s s')
    (hstep : step P config s (.resume i input now) = some t) :
    ∃ t', step P config s' (.resume i input now) = some t' ∧ Twin config t t' := by
  simp only [step] at hstep ⊢
  rw [h.clock, h.gateway]
  split at hstep
  · cases hstep
  · rename_i hclock
    rw [if_neg hclock]
    split at hstep
    · cases hstep
    · rename_i task htask
      obtain ⟨task', htask', htwin⟩ := forall₂_getElem? h.tasks htask
      split at hstep
      · cases hstep
      · rename_i effects point hadvance
        cases hstep
        -- a refused request takes no input
        have hpoint : task'.point = task.point := by
          rcases htwin.point with hsame | ⟨e, _, hraised, _⟩
          · exact hsame
          · rw [hraised] at hadvance
            cases hadvance
        simp only [htask', hpoint, advance_same htwin.request.toSameForwarded, hadvance]
        have hcontinued : TwinTask config (task.continue input effects point)
            (task'.continue input effects point) :=
          ⟨htwin.request, by simp only [Task.continue, htwin.trace], .inl rfl⟩
        refine ⟨_, rfl, ?_, rfl, forall₂_set h.tasks hcontinued i⟩
        simp only [System.run, h.gateway]

theorem twin_step {s s' t : System} {event event' : Event} (h : Twin config s s')
    (hevent : SameEvent (Interchangeable config) event event')
    (hstep : step P config s event = some t) :
    ∃ t', step P config s' event' = some t' ∧ Twin config t t' := by
  cases hevent with
  | arrive now hrequest => exact twin_arrive h hrequest hstep
  | same event =>
    cases event with
    | arrive request now => exact twin_arrive h (.refl config request) hstep
    | resume i input now => exact twin_resume h hstep
    | setHealth upstreamName healthy lastProbeAt lastSuccessAt lastStatusCode lastError =>
      simp only [step] at hstep ⊢
      rw [h.gateway]
      cases hset : setUpstreamHealth s.gateway.registry upstreamName healthy lastProbeAt
          lastSuccessAt lastStatusCode lastError with
      | error =>
        rw [hset] at hstep
        cases hstep
      | ok registry =>
        rw [hset] at hstep
        cases hstep
        exact ⟨_, rfl, rfl, h.clock, h.tasks⟩

theorem Twin.traces {s s' : System} (h : Twin config s s') :
    s'.tasks.map Task.trace = s.tasks.map Task.trace := by
  have hmap : List.Forall₂ Eq (s.tasks.map Task.trace) (s'.tasks.map Task.trace) :=
    List.rel_map (fun _ _ htwin => htwin.trace.symm) h.tasks
  rw [List.forall₂_eq_eq_eq] at hmap
  exact hmap.symm

end

/-- Every upstream request carries its upstream's own token or none, and nothing
else of what is blocked; and requests that are interchangeable have all upstreams
sent the same, from any state of the gateway. -/
theorem credentials_confined (P : Platform) (config : AppConfig) :
    (∀ s, Reachable (step P config) (initial config) s → ∀ task ∈ s.tasks,
      ∀ department modelName upstream sent,
        .contact department modelName upstream sent ∈ task.trace →
        ∃ u ∈ config.upstreams, Confined task.request u sent) ∧
    ∀ s t events events', List.Forall₂ (SameEvent (Interchangeable config)) events events' →
      exec (step P config) s events = some t →
      ∃ t', exec (step P config) s events' = some t' ∧
        t'.tasks.map Task.trace = t.tasks.map Task.trace := by
  refine ⟨fun s h => contacts_confined h, ?_⟩
  intro s t events events' hevents hexec
  have hsimulates (s s' : System) (event event' : Event) (t : System) (h : Twin config s s')
      (hevent : SameEvent (Interchangeable config) event event')
      (hstep : step P config s event = some t) :
      ∃ t', step P config s' event' = some t' ∧ Twin config t t' := twin_step h hevent hstep
  obtain ⟨t', hexec', htwin⟩ := exec_simulates hsimulates hevents (.refl config s) hexec
  exact ⟨t', hexec', htwin.traces⟩

def smallArrival (request : ProxyRequest) : List Event :=
  [.arrive request 0, .resume 0 (.body postBody) 0]

def cookieRequest : ProxyRequest := { smallRequest with headers := [("cookie", "secret")] }

theorem smallArrival_runs : (smallRun (smallArrival smallRequest)).isSome = true := by
  decide +kernel

/-- The cookie of a client makes no difference. -/
theorem credentials_confined_cookie :
    ∃ t', smallRun (smallArrival cookieRequest) = some t' ∧
      t'.tasks.map Task.trace =
        ((smallRun (smallArrival smallRequest)).get smallArrival_runs).tasks.map Task.trace := by
  have hsame : Interchangeable smallConfig smallRequest cookieRequest :=
    ⟨⟨rfl, rfl, rfl, by decide +kernel⟩, by decide +kernel⟩
  exact (credentials_confined smallPlatform smallConfig).2 _ _ (smallArrival smallRequest) _
    (.cons (.arrive 0 hsame) (.cons (.same _) .nil)) (Option.some_get smallArrival_runs).symm

/-! ## The content length is not forwarded, and matters -/

def longRequest : ProxyRequest := { smallRequest with headers := [("content-length", "1001")] }

/-- A blocked header alone can keep a request from its upstream. -/
theorem content_length_matters :
    ¬ ∀ (request request' : ProxyRequest), SameForwarded request request' →
      ∀ t, smallRun (smallArrival request) = some t →
        ∃ t', smallRun (smallArrival request') = some t' ∧
          t'.tasks.map Task.trace = t.tasks.map Task.trace := by
  intro h
  have hsame : SameForwarded smallRequest longRequest := ⟨rfl, rfl, rfl, by decide +kernel⟩
  have hstuck : smallRun (smallArrival longRequest) = none := by
    have hnone : (smallRun (smallArrival longRequest)).isNone = true := by decide +kernel
    exact Option.isNone_iff_eq_none.mp hnone
  obtain ⟨t, ht⟩ := Option.isSome_iff_exists.mp smallArrival_runs
  obtain ⟨t', ht', _⟩ := h smallRequest longRequest hsame t ht
  rw [hstuck] at ht'
  cases ht'

end VllmSourceGateway.CredentialConfinement
