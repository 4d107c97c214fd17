import VllmSourceGateway.GatewaySystem

set_option autoImplicit false

/-! Totals over a run: what the metrics and the history add up to is what the
requests add up to, one by one. -/
namespace VllmSourceGateway.RequestTotals
open PyValues UsageExtractors Metrics Config AdmissionControl Routing GatewayEffects
open ProxyEndpoint GatewaySystem TransitionRuns

section
variable {M : Type} [AddCommMonoid M]

def traceTotal (weight : Effect → M) (trace : List Effect) : M := (trace.map weight).sum

def taskTotal (weight : Effect → M) (s : System) : M :=
  (s.tasks.map fun task => traceTotal weight task.trace).sum

theorem traceTotal_append (weight : Effect → M) (xs ys : List Effect) :
    traceTotal weight (xs ++ ys) = traceTotal weight xs + traceTotal weight ys := by
  simp only [traceTotal, List.map_append, List.sum_append]

/-- A task that goes on adds what it goes on with. -/
theorem total_continued (weight : Effect → M) (before after : List Task) (task : Task)
    (input : Input) (effects : List Effect) (point : Point) :
    ((before ++ task.continue input effects point :: after).map
      fun task => traceTotal weight task.trace).sum =
      ((before ++ task :: after).map fun task => traceTotal weight task.trace).sum +
        traceTotal weight effects := by
  simp only [List.map_append, List.map_cons, List.sum_append, List.sum_cons, Task.continue,
    traceTotal_append]
  abel

/-- What a system carries along all its runs adds up as its requests do. -/
theorem total_kept {P : Platform} {config : AppConfig} (weight : Effect → M) (value : System → M)
    (hinit : value (initial config) = 0)
    (hrun : ∀ s now effects tasks,
      value (s.run config now effects tasks) = value s + traceTotal weight effects)
    (hhealth : ∀ s registry,
      value { s with gateway := { s.gateway with registry := registry } } = value s)
    {s : System} (h : Reachable (step P config) (initial config) s) :
    value s = taskTotal weight s := by
  refine h.invariant (fun s => value s = taskTotal weight s) hinit ?_
  intro s event s' _ hinv hstep
  cases step_cases hstep with
  | arrive =>
    rw [hrun, hinv]
    simp only [taskTotal, System.run, List.map_append, List.sum_append, List.map_cons,
      List.map_nil, List.sum_singleton]
  | resume _ htasks =>
    rw [hrun, hinv, taskTotal, taskTotal, htasks]
    exact (total_continued weight _ _ _ _ _ _).symm
  | setHealth =>
    rw [hhealth, hinv]
    rfl

theorem history_total {P : Platform} {config : AppConfig} (weight : Effect → M) {s : System}
    (h : Reachable (step P config) (initial config) s) :
    traceTotal weight (s.history.map Prod.snd) = taskTotal weight s := by
  refine total_kept weight (fun s => traceTotal weight (s.history.map Prod.snd)) rfl ?_
    (fun _ _ => rfl) h
  intro s now effects tasks
  have heffects : (effects.map fun effect => (now, effect)).map Prod.snd = effects := by
    simp only [List.map_map, Function.comp_def, List.map_id']
  simp only [System.run, List.map_append, traceTotal_append, heffects]

def fromAdmission : MetricEvent → Bool
  | .admissionRejection _ _ _ | .inflightInc _ _ _ | .inflightDec _ _ _
  | .tokenBudgetRejection _ _ | .retryGuardOpen _ _ => true
  | _ => false

theorem pairEvent_fromAdmission {department modelName : String} {endpoint : Endpoint}
    {event : MetricEvent} (h : PairEvent department modelName endpoint event) :
    fromAdmission event = true := by
  cases h <;> rfl

theorem apply_fromAdmission (config : AdmissionControlConfig) (now : ℚ) (c : AdmissionController)
    (op : AdmissionOp) : ∀ event ∈ (AdmissionControl.apply config now c op).2,
      fromAdmission event = true := by
  intro event hevent
  cases op with
  | checkRequestShape =>
    exact pairEvent_fromAdmission (checkRequestShape_events _ _ _ _ _ _ event hevent)
  | acquire => exact pairEvent_fromAdmission (acquire_events _ _ _ _ _ _ event hevent)
  | release lease =>
    cases lease with
    | none => cases hevent
    | some lease =>
      cases List.mem_singleton.mp hevent
      rfl
  | recordTokens => cases hevent
  | recordRetryEvent =>
    exact pairEvent_fromAdmission (recordRetryEvent_events _ _ _ _ .messages _ event hevent)

def metricWeight (weight : MetricEvent → M) : Effect → M
  | .metric event => weight event
  | _ => 0

section
variable {weight : MetricEvent → M} (hsilent : ∀ event, fromAdmission event = true → weight event = 0)
include hsilent

theorem emitted_total (config : AdmissionControlConfig) (now : ℚ) (g : Gateway) (effect : Effect) :
    ((emitted config now g effect).map weight).sum = metricWeight weight effect := by
  have hadmission (op : AdmissionOp) :
      ((AdmissionControl.apply config now g.admission op).2.map weight).sum = 0 := by
    refine List.sum_eq_zero ?_
    intro x hx
    obtain ⟨event, hevent, rfl⟩ := List.mem_map.mp hx
    exact hsilent event (apply_fromAdmission config now g.admission op event hevent)
  cases effect with
  | metric event => exact List.sum_singleton
  | checkRequestShape | acquire | release | recordTokens | recordRetryEvent => exact hadmission _
  | _ => rfl

theorem performAll_total (config : AdmissionControlConfig) (now : ℚ) (g : Gateway)
    (effects : List Effect) :
    ((performAll config now g effects).metrics.map weight).sum =
      (g.metrics.map weight).sum + traceTotal (metricWeight weight) effects := by
  induction effects generalizing g with
  | nil => exact (add_zero _).symm
  | cons effect effects ih =>
    have hnext := ih (perform config now g effect)
    rw [perform_metrics, List.map_append, List.sum_append, emitted_total hsilent] at hnext
    rw [traceTotal, List.map_cons, List.sum_cons, ← add_assoc]
    exact hnext

/-- A metric that the admission controller does not emit adds up to what the
requests have emitted. -/
theorem metrics_total {P : Platform} {config : AppConfig} {s : System}
    (h : Reachable (step P config) (initial config) s) :
    (s.gateway.metrics.map weight).sum = taskTotal (metricWeight weight) s :=
  total_kept _ (fun s => (s.gateway.metrics.map weight).sum) rfl
    (fun _ _ _ _ => performAll_total hsilent _ _ _ _) (fun _ _ => rfl) h

end

end

end VllmSourceGateway.RequestTotals
