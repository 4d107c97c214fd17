import VllmSourceGateway.RequestMetrics

set_option autoImplicit false

/-! The counters of requests and of failures, added up over the requests that the
middleware finalizes. -/
namespace VllmSourceGateway.FailureCounters
open UsageExtractors Metrics RequestMetrics

deriving instance DecidableEq for StatusClass

structure RequestLabels where
  department : String
  endpoint : Endpoint
  method : String
  status : StatusClass
  deriving DecidableEq

def httpRequestsTotal (labels : RequestLabels) (events : List RequestMetricEvent) : ℕ :=
  events.countP fun event =>
    match event with
    | .httpRequest department endpoint method status =>
      decide (labels = ⟨department, endpoint, method, status⟩)
    | _ => false

def modelHttpRequestsTotal (labels : RequestLabels) (modelName : String)
    (events : List RequestMetricEvent) : ℕ :=
  events.countP fun event =>
    match event with
    | .modelHttpRequest department model endpoint method status =>
      decide (modelName = model ∧ labels = ⟨department, endpoint, method, status⟩)
    | _ => false

def httpRequestFailuresTotal (labels : RequestLabels) (origin : FailureOrigin)
    (events : List RequestMetricEvent) : ℕ :=
  events.countP fun event =>
    match event with
    | .httpRequestFailure department endpoint method status failureOrigin =>
      decide (origin = failureOrigin ∧ labels = ⟨department, endpoint, method, status⟩)
    | _ => false

/-- The sum over `failure_origin`. -/
def failuresTotal (labels : RequestLabels) (events : List RequestMetricEvent) : ℕ :=
  httpRequestFailuresTotal labels .gateway events +
    httpRequestFailuresTotal labels .upstream events

structure Finalization where
  state : RequestState
  method : String
  defaultStatusCode : ℕ

def Finalization.events (call : Finalization) : List RequestMetricEvent :=
  (finalizeRequestMetrics call.state call.method call.defaultStatusCode).1

def Finalization.statusCode (call : Finalization) : ℕ :=
  call.state.statusCodeOverride.getD call.defaultStatusCode

/-- The labels a request is counted under, if it is counted. -/
def Finalization.labels (call : Finalization) : Option RequestLabels :=
  if call.state.recorded then none
  else
    match call.state.department, call.state.endpoint with
    | some department, some endpoint =>
      some ⟨department, endpoint, call.method.toUpper, statusClass call.statusCode⟩
    | _, _ => none

/-- What a request that is counted emits: one request, one of its model if that is
known, and one failure from status 400 on. -/
theorem Finalization.events_cases (call : Finalization) :
    call.labels = none ∧ call.events = [] ∨
      ∃ labels model failure, call.labels = some labels ∧
        call.events = observeRequest labels.department labels.endpoint call.method call.statusCode ++
          model ++ failure ∧
        labels.method = call.method.toUpper ∧ labels.status = statusClass call.statusCode ∧
        (model = [] ∨ ∃ modelName, model = observeModelRequest labels.department modelName
          labels.endpoint call.method call.statusCode) ∧
        (call.statusCode < 400 ∧ failure = [] ∨
          400 ≤ call.statusCode ∧ ∃ origin, failure = [.httpRequestFailure labels.department
            labels.endpoint labels.method labels.status origin]) := by
  obtain ⟨⟨recorded, endpoint, department, modelName, override, origin⟩, method, default⟩ := call
  cases recorded with
  | true => exact .inl ⟨rfl, rfl⟩
  | false =>
    cases department with
    | none => exact .inl ⟨rfl, rfl⟩
    | some department =>
      cases endpoint with
      | none => exact .inl ⟨rfl, rfl⟩
      | some endpoint =>
        refine .inr ⟨_, _, _, rfl, rfl, rfl, rfl, ?_, ?_⟩
        · cases modelName with
          | none => exact .inl rfl
          | some modelName => exact .inr ⟨modelName, rfl⟩
        · by_cases hfailed : override.getD default < 400
          · refine .inl ⟨hfailed, ?_⟩
            cases origin <;>
              simp [buildRequestMetricsSnapshot, recordRequestFailure, hfailed, Nat.not_le.mpr hfailed]
          · refine .inr ⟨Nat.le_of_not_lt hfailed, ?_⟩
            cases origin with
            | none =>
              refine ⟨.gateway, ?_⟩
              simp [buildRequestMetricsSnapshot, recordRequestFailure, hfailed,
                Nat.le_of_not_lt hfailed, Finalization.statusCode]
            | some origin =>
              refine ⟨origin, ?_⟩
              simp [buildRequestMetricsSnapshot, recordRequestFailure, hfailed,
                Finalization.statusCode]

section
variable (labels : RequestLabels) (call : Finalization)

theorem httpRequestsTotal_events :
    httpRequestsTotal labels call.events = if call.labels = some labels then 1 else 0 := by
  obtain ⟨hlabels, hevents⟩ | ⟨counted, model, failure, hlabels, hevents, hmethod, hstatus, hmodel,
    hfailure⟩ := call.events_cases
  · rw [hlabels, hevents, if_neg (by simp)]
    rfl
  · obtain ⟨department, endpoint, method, status⟩ := counted
    dsimp only at hmethod hstatus hevents hmodel hfailure
    subst hmethod hstatus
    have hmodel' : httpRequestsTotal labels model = 0 := by
      rcases hmodel with rfl | ⟨modelName, rfl⟩ <;> rfl
    have hfailure' : httpRequestsTotal labels failure = 0 := by
      rcases hfailure with ⟨_, rfl⟩ | ⟨_, origin, rfl⟩ <;> rfl
    simp only [httpRequestsTotal] at hmodel' hfailure' ⊢
    rw [hevents, List.countP_append, List.countP_append, hmodel', hfailure', hlabels]
    simp only [observeRequest, List.countP_cons, List.countP_nil, decide_eq_true_eq,
      Option.some.injEq, Bool.false_eq_true, if_false, add_zero, Nat.zero_add]
    simp only [eq_comm]

theorem failuresTotal_append (events events' : List RequestMetricEvent) :
    failuresTotal labels (events ++ events') =
      failuresTotal labels events + failuresTotal labels events' := by
  simp only [failuresTotal, httpRequestFailuresTotal, List.countP_append]
  omega

theorem failuresTotal_events :
    failuresTotal labels call.events =
      if call.labels = some labels ∧ 400 ≤ call.statusCode then 1 else 0 := by
  obtain ⟨hlabels, hevents⟩ | ⟨counted, model, failure, hlabels, hevents, _, _, hmodel,
    hfailure⟩ := call.events_cases
  · rw [hlabels, hevents, if_neg (by simp)]
    rfl
  · have hrequest : failuresTotal labels (observeRequest counted.department counted.endpoint
        call.method call.statusCode) = 0 := rfl
    have hmodel' : failuresTotal labels model = 0 := by
      rcases hmodel with rfl | ⟨modelName, rfl⟩ <;> rfl
    rw [hevents, failuresTotal_append, failuresTotal_append, hrequest, hmodel']
    simp only [hlabels, Option.some.injEq, Nat.zero_add]
    rcases hfailure with ⟨hbelow, rfl⟩ | ⟨hfailed, origin, rfl⟩
    · rw [if_neg fun h => absurd h.2 (Nat.not_le.mpr hbelow)]
      rfl
    · simp only [failuresTotal, httpRequestFailuresTotal, List.countP_singleton, hfailed, and_true,
        decide_eq_true_eq, eq_comm (a := counted)]
      cases origin <;> simp

theorem modelHttpRequestsTotal_events (modelNames : Finset String) :
    ∑ modelName ∈ modelNames, modelHttpRequestsTotal labels modelName call.events ≤
      if call.labels = some labels then 1 else 0 := by
  obtain ⟨_, hevents⟩ | ⟨counted, model, failure, hlabels, hevents, hmethod, hstatus, hmodel,
    hfailure⟩ := call.events_cases
  · simp [hevents, modelHttpRequestsTotal]
  · have hother (modelName : String) : modelHttpRequestsTotal labels modelName call.events =
        modelHttpRequestsTotal labels modelName model := by
      have hfailure' : modelHttpRequestsTotal labels modelName failure = 0 := by
        rcases hfailure with ⟨_, rfl⟩ | ⟨_, origin, rfl⟩ <;> rfl
      simp only [modelHttpRequestsTotal] at hfailure' ⊢
      rw [hevents, List.countP_append, List.countP_append, hfailure']
      simp [observeRequest]
    simp only [hother, hlabels, Option.some.injEq]
    rcases hmodel with rfl | ⟨seen, rfl⟩
    · simp [modelHttpRequestsTotal]
    · have hone (modelName : String) : modelHttpRequestsTotal labels modelName
          (observeModelRequest counted.department seen counted.endpoint call.method
            call.statusCode) = if modelName = seen ∧ counted = labels then 1 else 0 := by
        obtain ⟨department, endpoint, method, status⟩ := counted
        dsimp only at hmethod hstatus
        subst hmethod hstatus
        simp only [modelHttpRequestsTotal, observeModelRequest, List.countP_cons, List.countP_nil,
          decide_eq_true_eq, Bool.false_eq_true, if_false, add_zero, Nat.zero_add,
          eq_comm (a := labels)]
      simp only [hone]
      by_cases hsame : counted = labels
      · simp only [hsame, and_true, if_true]
        rw [Finset.sum_ite_eq']
        split <;> omega
      · simp [hsame]

end

def emittedEvents (run : List Finalization) : List RequestMetricEvent :=
  run.flatMap Finalization.events

section
variable (labels : RequestLabels) (run : List Finalization)

theorem httpRequestsTotal_run : httpRequestsTotal labels (emittedEvents run) =
    run.countP fun call => call.labels = some labels := by
  induction run with
  | nil => rfl
  | cons call run ih =>
    have hcall := httpRequestsTotal_events labels call
    simp only [httpRequestsTotal, emittedEvents] at ih hcall ⊢
    rw [List.flatMap_cons, List.countP_append, ih, hcall, List.countP_cons]
    simp only [decide_eq_true_eq]
    omega

theorem failuresTotal_run : failuresTotal labels (emittedEvents run) =
    run.countP fun call => call.labels = some labels ∧ 400 ≤ call.statusCode := by
  induction run with
  | nil => rfl
  | cons call run ih =>
    have hcall := failuresTotal_events labels call
    rw [emittedEvents, List.flatMap_cons, failuresTotal_append, hcall, List.countP_cons, ← ih]
    simp only [emittedEvents, decide_eq_true_eq]
    omega

theorem modelHttpRequestsTotal_run (modelNames : Finset String) :
    ∑ modelName ∈ modelNames, modelHttpRequestsTotal labels modelName (emittedEvents run) ≤
      run.countP fun call => call.labels = some labels := by
  induction run with
  | nil => simp [emittedEvents, modelHttpRequestsTotal]
  | cons call run ih =>
    have hcall := modelHttpRequestsTotal_events labels call modelNames
    have hsplit (modelName : String) :
        modelHttpRequestsTotal labels modelName (emittedEvents (call :: run)) =
          modelHttpRequestsTotal labels modelName call.events +
            modelHttpRequestsTotal labels modelName (emittedEvents run) := by
      simp only [modelHttpRequestsTotal, emittedEvents, List.flatMap_cons, List.countP_append]
    simp only [hsplit, Finset.sum_add_distrib, List.countP_cons, decide_eq_true_eq]
    omega

/-- Every request from status 400 on is one failure. The counters of a class that
is not 2xx agree exactly if no other request was counted in it. -/
theorem counters_reconcile_iff (modelNames : Finset String) :
    (failuresTotal labels (emittedEvents run) = httpRequestsTotal labels (emittedEvents run) ↔
        ∀ call ∈ run, call.labels = some labels → 400 ≤ call.statusCode) ∧
      ∑ modelName ∈ modelNames, modelHttpRequestsTotal labels modelName (emittedEvents run) ≤
        httpRequestsTotal labels (emittedEvents run) := by
  rw [failuresTotal_run, httpRequestsTotal_run]
  refine ⟨?_, modelHttpRequestsTotal_run labels run modelNames⟩
  induction run with
  | nil => simp
  | cons call run ih =>
    have hle : (run.countP fun call => call.labels = some labels ∧ 400 ≤ call.statusCode) ≤
        run.countP fun call => call.labels = some labels :=
      List.countP_mono_left fun call _ h => by simpa using (by simpa using h : _ ∧ _).1
    simp only [List.countP_cons, decide_eq_true_eq, List.forall_mem_cons, ← ih]
    simp only [Bool.decide_and] at hle
    by_cases hlabels : call.labels = some labels <;> by_cases hstatus : 400 ≤ call.statusCode <;>
      (simp [hlabels, hstatus]; try omega)

end

/-- A redirect that an upstream answered with and the gateway passed through. -/
def redirected : Finalization where
  state := ⟨false, some .messages, some "research", some "llama", none, none⟩
  method := "POST"
  defaultStatusCode := 302

/-- A redirect is counted as 5xx, and is no failure. -/
theorem redirected_unbalanced :
    httpRequestsTotal ⟨"research", .messages, "POST".toUpper, .serverError⟩
        (emittedEvents [redirected]) = 1 ∧
      failuresTotal ⟨"research", .messages, "POST".toUpper, .serverError⟩
        (emittedEvents [redirected]) = 0 := by
  decide +kernel

end VllmSourceGateway.FailureCounters
