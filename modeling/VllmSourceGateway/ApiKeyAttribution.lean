import VllmSourceGateway.AcceptedConfig
import VllmSourceGateway.FailoverDiscipline

set_option autoImplicit false

/-! Whom a request is attributed to. The keys of an accepted configuration and the
key of a request are stripped alike, so a listed key leads to its department and
to no other, and every other key to none. -/
namespace VllmSourceGateway.ApiKeyAttribution
open PyText PyValues UsageExtractors Metrics Config AdmissionControl Routing GatewayEffects
open StreamBytes ProxyEndpoint RequestSegments GatewaySystem FailoverDiscipline TransitionRuns
open SourceResolution ConfigValidation AcceptedConfig Validation

def presentedKey (headers : List (String × String)) : Option String :=
  extractApiKey (PyDict.get? headers "authorization") (PyDict.get? headers "x-api-key")

theorem strippedOrNone_eq_some {value key : String} :
    strippedOrNone value = some key ↔ stripString value = key ∧ key ≠ "" := by
  simp only [strippedOrNone]
  split
  · rename_i hempty
    simp only [reduceCtorEq, hempty, false_iff, not_and, not_not]
    exact Eq.symm
  · rename_i hne
    rw [Option.some.injEq]
    exact ⟨fun heq => ⟨heq, heq ▸ hne⟩, And.left⟩

theorem presentedKey_ne {headers : List (String × String)} {key : String}
    (h : presentedKey headers = some key) : key ≠ "" := by
  simp only [presentedKey, extractApiKey, bearerKey] at h
  split at h
  · exact (strippedOrNone_eq_some.mp h).2
  · split at h
    · exact (strippedOrNone_eq_some.mp h).2
    · cases h
  · cases h

section
variable {headers : List (String × String)} {key : String} (hstripped : stripString key = key)
  (hne : key ≠ "")
include hstripped hne

theorem presentedKey_header (h : PyDict.get? headers "x-api-key" = some key) :
    presentedKey headers = some key := by
  have hkept : nonEmpty (some key) = some key := by simp [nonEmpty, hne]
  simp only [presentedKey, extractApiKey, h, hkept]
  exact strippedOrNone_eq_some.mpr ⟨hstripped, hne⟩

theorem bearerKey_eq {scheme : String} (hscheme : scheme.toLower = "bearer") :
    bearerKey (scheme ++ " " ++ key) = some key := by
  have hspace : ∀ c ∈ scheme.toList, (c ≠ ' ') := by
    rintro c hc rfl
    have hlower : ' '.toLower ∈ scheme.toLower.toList := by
      rw [String.toLower, String.toList_map]
      exact List.mem_map_of_mem hc
    rw [hscheme] at hlower
    exact absurd hlower (by decide)
  have hparts : partitionSpace (scheme ++ " " ++ key).toList = (scheme.toList, key.toList) := by
    have hall : ∀ c ∈ scheme.toList, decide (c ≠ ' ') = true := fun c hc =>
      decide_eq_true (hspace c hc)
    simp only [partitionSpace, String.toList_append, List.append_assoc]
    rw [List.takeWhile_append_of_pos hall, List.dropWhile_append_of_pos hall]
    simp
  simp only [bearerKey, hparts, String.ofList_toList, hscheme, if_true]
  exact strippedOrNone_eq_some.mpr ⟨hstripped, hne⟩

theorem presentedKey_bearer {scheme : String} (hscheme : scheme.toLower = "bearer")
    (hmissing : PyDict.get? headers "x-api-key" = none)
    (h : PyDict.get? headers "authorization" = some (scheme ++ " " ++ key)) :
    presentedKey headers = some key := by
  have hkept : nonEmpty (some (scheme ++ " " ++ key)) = some (scheme ++ " " ++ key) := by
    simp [nonEmpty, hne]
  simp only [presentedKey, extractApiKey, hmissing, h, hkept]
  exact bearerKey_eq hstripped hne hscheme

end

/-- The request has no key, or one that no department lists. -/
def Unattributed (env : Environment) (raw : RawAppConfig) (headers : List (String × String)) :
    Prop :=
  ∀ key ∈ presentedKey headers, ∀ entry ∈ raw.departments, ∀ listed ∈ listedApiKeys env entry.2,
    stripString listed ≠ key

section
variable {env : Environment} {raw : RawAppConfig} {config : GatewayConfig}

theorem unattributed_iff (haccepted : validateAppConfig env raw = .ok config)
    (headers : List (String × String)) : Unattributed env raw headers ↔
      ∀ key ∈ presentedKey headers, PyDict.get? config.apiKeyToDepartment key = none := by
  refine forall₂_congr fun key hkey => ?_
  have hne := presentedKey_ne hkey
  constructor
  · intro hunlisted
    rw [Option.eq_none_iff_forall_not_mem]
    intro department hget
    obtain ⟨entry, hentry, _, hlisted⟩ := (apiKeyToDepartment_get?_iff haccepted).mp hget
    obtain ⟨_, listed, hmem, hstrip⟩ := mem_strippedNonEmpty.mp hlisted
    exact hunlisted entry hentry listed hmem hstrip
  · intro hnone entry hentry listed hmem hstrip
    have hget := (apiKeyToDepartment_get?_iff haccepted).mpr ⟨entry, hentry, rfl,
      mem_strippedNonEmpty.mpr ⟨hne, listed, hmem, hstrip⟩⟩
    rw [hnone] at hget
    cases hget

theorem resolved_unattributed (haccepted : validateAppConfig env raw = .ok config)
    {headers : List (String × String)} (h : Unattributed env raw headers) (endpoint : Endpoint) :
    (receive config headers endpoint).sourceResolution =
      ⟨"unknown", presentedKey headers, .unknown⟩ := by
  have hnone := (unattributed_iff haccepted headers).mp h
  change resolveDepartmentForApiKey config (presentedKey headers) = _
  cases hkey : presentedKey headers with
  | none => rfl
  | some key =>
    have hkept : nonEmpty (some key) = some key := by simp [nonEmpty, presentedKey_ne hkey]
    simp only [resolveDepartmentForApiKey, hkept, hnone key hkey, unknownDepartment]

theorem resolved_key (haccepted : validateAppConfig env raw = .ok config)
    {headers : List (String × String)} {key department : String}
    (hkey : presentedKey headers = some key)
    (hget : PyDict.get? config.apiKeyToDepartment key = some department) (endpoint : Endpoint) :
    (receive config headers endpoint).sourceResolution = ⟨department, some key, .apiKey⟩ := by
  change resolveDepartmentForApiKey config (presentedKey headers) = _
  rw [hkey]
  exact resolves_of_get? haccepted hget

theorem source_unknown_iff (haccepted : validateAppConfig env raw = .ok config)
    (headers : List (String × String)) (endpoint : Endpoint) :
    (receive config headers endpoint).sourceResolution.resolutionSource = .unknown ↔
      Unattributed env raw headers := by
  constructor
  · intro hsource
    rw [unattributed_iff haccepted]
    intro key hkey
    rw [Option.eq_none_iff_forall_not_mem]
    intro department hget
    rw [resolved_key haccepted hkey hget endpoint] at hsource
    cases hsource
  · intro h
    rw [resolved_unattributed haccepted h]

/-- No key is listed by two departments. -/
theorem departments_apart (haccepted : validateAppConfig env raw = .ok config) :
    raw.departments.Pairwise fun a b =>
      ∀ key ∈ strippedNonEmpty (listedApiKeys env a.2),
        key ∉ strippedNonEmpty (listedApiKeys env b.2) := by
  refine pairwise_sources (validateAppConfig_ok haccepted).departments (keysIndexed config).apart ?_
  intro a a' b b' hvalid hvalid' hapart
  rw [← validateApiKeys_ok hvalid.2, ← validateApiKeys_ok hvalid'.2]
  exact hapart

end

def unauthorizedError (resolution : SourceResolutionResult) : HttpException :=
  ⟨401, if resolution.apiKey.isNone then "missing api key" else "unknown api key", none⟩

section
variable {P : Platform} {config : AppConfig} {request : ProxyRequest} {g : Gateway} {now : ℚ}

theorem start_policy (h : config.security.rejectUnknownApiKeys = true) (request : ProxyRequest) :
    enforceSourceResolutionPolicy config request.sourceResolution =
      if request.sourceResolution.resolutionSource = .unknown then
        some (unauthorizedError request.sourceResolution)
      else none := by
  simp only [enforceSourceResolutionPolicy, h, Bool.not_true, Bool.false_eq_true, if_false, ne_eq,
    ite_not, unauthorizedError]

theorem admitRequest_status {modelName : String} {bodySize : ℕ} {payload : JsonObject}
    {error : HttpException}
    (h : (admitRequest config request g now modelName bodySize payload).2 =
      .finished (.raised (.http error))) : error.statusCode ≠ 401 := by
  have hrouting {e : RoutingError} (hstatus : error.statusCode = routingErrorStatus e) :
      error.statusCode ≠ 401 := by
    rw [hstatus]
    cases e <;> simp [routingErrorStatus]
  simp only [admitRequest] at h
  split at h
  · rename_i rejection hshape
    cases h
    have hstatus := checkRequestShape_status hshape
    omega
  · split at h
    · rename_i rejection hacquire
      cases h
      have hstatus := acquire_status hacquire
      omega
    · obtain ⟨e, _, hfor⟩ | ⟨upstream, _, hfor⟩ := selectUpstreamFor_cases g modelName []
      · split at h
        · simp only [startStreaming, hfor] at h
          cases h
          exact hrouting rfl
        · simp only [startPosting, hfor] at h
          cases h
          exact hrouting rfl
      · split at h
        · simp only [startStreaming, hfor] at h
          cases h
        · simp only [startPosting, hfor] at h
          cases h

theorem handleBody_status {requestBody : List UInt8} {error : HttpException}
    (h : (handleBody P config request g now requestBody).2 = .finished (.raised (.http error))) :
    error.statusCode ≠ 401 := by
  simp only [handleBody] at h
  split at h
  · rename_i e hread
    cases h
    simp only [readJsonRequestBody] at hread
    split at hread
    · cases hread
      simp [requestBodyTooLargeError]
    · split at hread
      · cases hread
      · rename_i loadsError _
        split at hread
        · cases hread
          decide
        · cases loadsError <;> cases hread
  · split at h
    · rename_i httpError hparse
      cases h
      simp only [parseJsonPayload] at hparse
      repeat' split at hparse
      all_goals cases hparse
      all_goals decide
    · split at h
      · rename_i httpError hunknown
        cases h
        simp only [unknownModelError] at hunknown
        split at hunknown
        · cases hunknown
        · cases hunknown
          simp
      · exact admitRequest_status h

theorem segment_status {point point' : Point} {input : Input} {effects : List Effect}
    {flight : Flight} {error : HttpException}
    (h : Segment P config request g now point input effects point')
    (hpoint : point = .awaitSend flight ∨ point = .awaitPost flight)
    (hpoint' : point' = .finished (.raised (.http error))) (hstatus : error.statusCode = 401) :
    input = .raised (.http error) := by
  have htransport (modelName : String) (e : HttpxError) (hraised : Point.finished (.raised
      (raiseUpstreamTransportError request modelName e).2) = .finished (.raised (.http error))) :
      False := by
    simp only [raiseUpstreamTransportError, Point.finished.injEq, Outcome.raised.injEq,
      Exn.http.injEq] at hraised
    split at hraised <;> cases hraised <;> cases hstatus
  cases h with
  | rejected | misshapen | refused | unroutable | started => rcases hpoint with h | h <;> cases h
  | retried _ _ _ hretried => rcases hretried with ⟨_, rfl⟩ | ⟨_, rfl⟩ <;> cases hpoint'
  | exhausted | failed => exact (htransport _ _ hpoint').elim
  | broken | cancelled =>
    cases hpoint'
    rfl
  | opened | unbuildable | streamed => cases hpoint'
  | @answered _ statusCode headers content =>
    have hraised := Point.finished.inj hpoint'
    obtain ⟨mediaType, houtcome⟩ | ⟨e, houtcome, hother⟩ := handleResponse_outcome P request
      _ statusCode headers content
    · rw [houtcome] at hraised
      cases hraised
    · rw [houtcome] at hraised
      exact absurd (Outcome.raised.inj hraised) (hother error)

/-- After its first await a request ends with a raised 401 only if what it awaited
raised it. -/
theorem advance_status {point : Point} {input : Input} {effects : List Effect}
    {error : HttpException}
    (h : advance P config request g now point input =
      some (effects, .finished (.raised (.http error)))) (hstatus : error.statusCode = 401) :
    input = .raised (.http error) := by
  cases point with
  | awaitBody =>
    cases input with
    | body requestBody =>
      have hpoint := congrArg Prod.snd (Option.some.inj h)
      exact absurd hstatus (handleBody_status hpoint)
    | raised e =>
      simp only [advance, afterBody, Option.some.injEq, Prod.mk.injEq, Point.finished.injEq,
        Outcome.raised.injEq] at h
      obtain ⟨_, herror⟩ := h
      split at herror
      · cases herror
        cases hstatus
      · rw [herror]
    | opened | response | stream => cases h
  | awaitSend flight => exact segment_status (advance_segment h) (.inl rfl) rfl hstatus
  | awaitPost flight => exact segment_status (advance_segment h) (.inr rfl) rfl hstatus
  | streaming ctx point =>
    cases input with
    | stream input =>
      simp only [advance] at h
      split at h <;> cases h
    | body | opened | response | raised => cases h
  | finished outcome => cases h

/-- The gateway itself has answered 401: nothing that the request awaited raised it. -/
def OwnUnauthorized (task : Task) : Prop :=
  ∃ error : HttpException, task.point = .finished (.raised (.http error)) ∧
    error.statusCode = 401 ∧ ∀ taken ∈ task.steps, taken.2 ≠ .raised (.http error)

/-- A request of unknown source stays where its arrival has left it; of the others
only what they await raises 401. -/
structure PolicyKept (config : AppConfig) (task : Task) : Prop where
  refused : task.request.sourceResolution.resolutionSource = .unknown →
    task = .start config task.request ∧ OwnUnauthorized task
  passed : task.request.sourceResolution.resolutionSource ≠ .unknown → ¬ OwnUnauthorized task

theorem start_kept (hreject : config.security.rejectUnknownApiKeys = true)
    (request : ProxyRequest) : PolicyKept config (.start config request) := by
  constructor
  · intro hsource
    have hsource' : request.sourceResolution.resolutionSource = .unknown := hsource
    have hpolicy := start_policy hreject request
    rw [if_pos hsource'] at hpolicy
    refine ⟨rfl, unauthorizedError request.sourceResolution, ?_, rfl, List.forall_mem_nil _⟩
    simp only [Task.start, startRequest, hpolicy]
  · rintro hsource ⟨error, hpoint, hstatus, _⟩
    have hsource' : request.sourceResolution.resolutionSource ≠ .unknown := hsource
    simp only [Task.start, startRequest, start_policy hreject, hsource', if_false] at hpoint
    split at hpoint
    · cases hpoint
      cases hstatus
    · cases hpoint

theorem policy_kept (hreject : config.security.rejectUnknownApiKeys = true) {s : System}
    {steps : List (System × Event)} (run : Run (step P config) (initial config) steps s) :
    ∀ task ∈ s.tasks, PolicyKept config task := by
  refine run_task_advance (fun _ _ => True) (PolicyKept config) (start_kept hreject) ?_ run
    fun _ _ => trivial
  intro s i task now input effects point _ _ _ hinv hadvance
  constructor
  · intro hsource
    obtain ⟨_, error, hpoint, _⟩ := hinv.refused hsource
    rw [hpoint] at hadvance
    cases hadvance
  · rintro hsource ⟨error, hpoint, hstatus, hown⟩
    have hpoint' : point = .finished (.raised (.http error)) := hpoint
    rw [hpoint'] at hadvance
    exact hown (task.point, input) (List.mem_append_right _ List.mem_cons_self)
      (advance_status hadvance hstatus)

end

/-- Every listed key leads to its department from either header, no key to two, and
a request with any other key or none is of unknown source; where those are rejected,
they are the requests that the gateway itself answers with 401, and it has then made
no calls for them but the two of their arrival. -/
theorem api_key_attribution_exact {env : Environment} {raw : RawAppConfig} {config : GatewayConfig}
    (haccepted : validateAppConfig env raw = .ok config) :
    (∀ entry ∈ raw.departments, ∀ listed ∈ listedApiKeys env entry.2, stripString listed ≠ "" →
      ∀ headers endpoint,
        PyDict.get? headers "x-api-key" = some (stripString listed) ∨
            (PyDict.get? headers "x-api-key" = none ∧ ∃ scheme : String,
              scheme.toLower = "bearer" ∧
                PyDict.get? headers "authorization" = some (scheme ++ " " ++ stripString listed)) →
        (receive config headers endpoint).sourceResolution =
          ⟨stripString entry.1, some (stripString listed), .apiKey⟩) ∧
      (raw.departments.Pairwise fun a b => ∀ key ∈ strippedNonEmpty (listedApiKeys env a.2),
        key ∉ strippedNonEmpty (listedApiKeys env b.2)) ∧
      (∀ headers endpoint, Unattributed env raw headers →
        (receive config headers endpoint).sourceResolution =
          ⟨"unknown", presentedKey headers, .unknown⟩) ∧
      (config.security.rejectUnknownApiKeys = true →
        ∀ (P : Platform) (steps : List (System × Event)) (s : System),
          Run (step P config.toAppConfig) (initial config.toAppConfig) steps s →
          (∀ taken ∈ steps, FromClient config taken.2) →
          ∀ task ∈ s.tasks, ∃ headers endpoint, task.request = receive config headers endpoint ∧
            (OwnUnauthorized task ↔ Unattributed env raw headers) ∧
            (Unattributed env raw headers → task.steps = [] ∧
              task.trace = [.requestMetrics (.context "unknown" endpoint),
                .metric (.sourceResolution "unknown" .unknown)])) := by
  refine ⟨?_, departments_apart haccepted, fun headers endpoint h =>
    resolved_unattributed haccepted h endpoint, ?_⟩
  · intro entry hentry listed hlisted hne headers endpoint hheaders
    have hstripped := stripString_stripString listed
    have hkey : presentedKey headers = some (stripString listed) := by
      rcases hheaders with hheader | ⟨hmissing, scheme, hscheme, hauthorization⟩
      · exact presentedKey_header hstripped hne hheader
      · exact presentedKey_bearer hstripped hne hscheme hmissing hauthorization
    exact resolved_key haccepted hkey ((apiKeyToDepartment_get?_iff haccepted).mpr
      ⟨entry, hentry, rfl, mem_strippedNonEmpty.mpr ⟨hne, listed, hlisted, rfl⟩⟩) endpoint
  · intro hreject P steps s run hclients task htask
    obtain ⟨headers, endpoint, hrequest⟩ := run_requests run hclients task htask
    have hkept := policy_kept hreject run task htask
    have hsource := source_unknown_iff haccepted headers endpoint
    rw [← hrequest] at hsource
    refine ⟨headers, endpoint, hrequest, ?_, ?_⟩
    · rw [← hsource]
      exact ⟨fun hown => not_not.mp fun hknown => hkept.passed hknown hown,
        fun hunknown => (hkept.refused hunknown).2⟩
    · intro hunattributed
      obtain ⟨hstart, _⟩ := hkept.refused (hsource.mpr hunattributed)
      have hresolved := resolved_unattributed haccepted hunattributed endpoint
      rw [hstart, hrequest]
      refine ⟨rfl, ?_⟩
      simp only [Task.start, startRequest_effects, ProxyRequest.department, hresolved]
      rfl

def keylessRun : Option System :=
  exec (step smallPlatform sampleConfig.toAppConfig) (initial sampleConfig.toAppConfig)
    [.arrive (receive sampleConfig [] .responses) 0]

theorem keylessRun_runs : keylessRun.isSome = true := by decide +kernel

theorem api_key_attribution_exact_sample :
    (receive sampleConfig [("authorization", "BEARER key-4")] .messages).sourceResolution =
        ⟨"legal", some "key-4", .apiKey⟩ ∧
      ∀ task ∈ (keylessRun.get keylessRun_runs).tasks, OwnUnauthorized task ∧ task.steps = [] := by
  obtain ⟨hlisted, _, _, hrejected⟩ := api_key_attribution_exact sampleRaw_accepted
  have hstrip : stripString "key-4 " = "key-4" ∧ stripString "legal" = "legal" := by decide +kernel
  constructor
  · have hkey := hlisted ("legal", ⟨none, some "LEGAL_KEYS"⟩) (by simp [sampleRaw]) "key-4 "
      (by decide +kernel) (by decide +kernel)
    rw [hstrip.1, hstrip.2] at hkey
    exact hkey _ _ (.inr ⟨rfl, "BEARER", by decide +kernel, rfl⟩)
  · obtain ⟨steps, run, hevents⟩ := exec_run .refl (Option.some_get keylessRun_runs).symm
    have hclients : ∀ taken ∈ steps, FromClient sampleConfig taken.2 := by
      intro taken htaken
      have hmem : taken.2 ∈ [Event.arrive (receive sampleConfig [] .responses) 0] :=
        hevents ▸ List.mem_map_of_mem htaken
      rw [List.mem_singleton.mp hmem]
      rintro request now hrequest
      cases hrequest
      exact ⟨_, _, rfl⟩
    intro task htask
    obtain ⟨headers, endpoint, hrequest, hown, hnone⟩ :=
      hrejected (by decide +kernel) _ _ _ run hclients task htask
    have hheaders : ∀ task ∈ (keylessRun.get keylessRun_runs).tasks, task.request.headers = [] := by
      decide +kernel
    have hempty : headers = [] := by
      rw [← hheaders task htask, hrequest]
      rfl
    have hunattributed : Unattributed sampleEnvironment sampleRaw headers := by
      rw [hempty]
      exact fun key hkey => by cases hkey
    exact ⟨hown.mpr hunattributed, (hnone hunattributed).1⟩

end VllmSourceGateway.ApiKeyAttribution
