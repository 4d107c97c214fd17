import VllmSourceGateway.FailoverDiscipline
import VllmSourceGateway.LeaseLifecycle
import VllmSourceGateway.RequestEmissions

set_option autoImplicit false

/-! Requests come to an end: each await of a request goes on with whatever answers it, and
what a request can still do is paid for when it arrives and by the chunks it is sent. -/
namespace VllmSourceGateway.RequestProgress
open PyValues UsageExtractors Metrics Config AdmissionControl Routing GatewayEffects
open StreamBytes ProxyEndpoint RequestSegments RequestSlot GatewaySystem RequestTrail
open FailoverDiscipline LeaseAccounting LeaseLifecycle TransitionRuns

/-! ## What an await can be answered with -/

def answersStream : StreamPoint → StreamInput → Bool
  | .created, .next | .created, .close => true
  | .awaitChunk _, .chunk _ | .awaitChunk _, .streamEnd | .awaitChunk _, .raised _ => true
  | .awaitDisconnect _ _, .disconnected _ | .awaitDisconnect _ _, .raised _ => true
  | .yielded _ _, .next | .yielded _ _, .close => true
  | .awaitClose _, .closed | .awaitClose _, .raised _ => true
  | _, _ => false

def answers : Point → Input → Bool
  | .awaitBody, .body _ | .awaitBody, .raised _ => true
  | .awaitSend _, .opened _ _ | .awaitSend _, .raised _ => true
  | .awaitPost _, .response _ _ _ | .awaitPost _, .raised _ => true
  | .streaming _ point, .stream input => answersStream point input
  | _, _ => false

/-- An answer that brings the request nearer to its end: not another chunk. -/
def lastAnswer : Point → Input
  | .streaming _ .created => .stream .close
  | .streaming _ (.awaitChunk _) => .stream .streamEnd
  | .streaming _ (.awaitDisconnect _ _) => .stream (.disconnected true)
  | .streaming _ (.yielded _ _) => .stream .close
  | .streaming _ (.awaitClose _) => .stream .closed
  | _ => .raised .value

def chunkInput : Input → Bool
  | .stream (.chunk _) => true
  | _ => false

section
variable {P : Platform} {config : AppConfig} {request : ProxyRequest} {g : Gateway} {now : ℚ}

theorem resume_answers (loads : PyText.Text → Except LoadsError Json) (extract : UsageExtractor)
    (maxSseDecodeBufferBytes : ℕ) (ctx : StreamContext) (point : StreamPoint)
    (input : StreamInput) :
    (resume loads extract maxSseDecodeBufferBytes ctx point input).isSome =
      answersStream point input := by
  cases point <;> cases input <;> try rfl
  rename_i isDisconnected
  cases isDisconnected <;> rfl

theorem afterSend_answers (flight : Flight) (input : Input) :
    (afterSend P request g flight input).isSome = answers (.awaitSend flight) input := by
  cases input with
  | opened =>
    unfold afterSend
    dsimp only
    split <;> rfl
  | raised e =>
    cases e with
    | httpx e =>
      unfold afterSend
      dsimp only
      split
      · split <;> rfl
      · rfl
    | _ => rfl
  | _ => rfl

theorem afterPost_answers (flight : Flight) (input : Input) :
    (afterPost P request g flight input).isSome = answers (.awaitPost flight) input := by
  cases input with
  | raised e =>
    cases e with
    | httpx e =>
      unfold afterPost
      dsimp only
      split
      · split <;> rfl
      · rfl
    | _ => rfl
  | _ => rfl

/-- An await goes on with every answer, and a request that is over with none. -/
theorem advance_answers (point : Point) (input : Input) :
    (advance P config request g now point input).isSome = answers point input := by
  cases point with
  | awaitBody => cases input <;> rfl
  | awaitSend flight => exact afterSend_answers flight input
  | awaitPost flight => exact afterPost_answers flight input
  | streaming ctx point =>
    cases input with
    | stream input =>
      rw [answers, ← resume_answers P.loads ctx.endpoint.extractUsage
        config.server.maxSseDecodeBufferBytes ctx point input]
      unfold advance
      dsimp only
      split <;> simp_all
    | _ => rfl
  | finished => rfl

theorem lastAnswer_answers {point : Point} (h : isOver point = false) :
    answers point (lastAnswer point) = true ∧ chunkInput (lastAnswer point) = false := by
  cases point with
  | finished => cases h
  | streaming ctx point =>
    cases point with
    | finished => cases h
    | _ => exact ⟨rfl, rfl⟩
  | _ => exact ⟨rfl, rfl⟩

theorem unfinished_iff (point : Point) :
    isOver point = false ↔ ∃ input, answers point input = true := by
  constructor
  · intro hunfinished
    exact ⟨_, (lastAnswer_answers hunfinished).1⟩
  · rintro ⟨input, hanswer⟩
    cases point with
    | finished => cases hanswer
    | streaming ctx point =>
      cases point with
      | finished => cases input <;> cases hanswer
      | _ => rfl
    | _ => rfl

/-! ## What a request can still do -/

def streamWork : StreamPoint → ℕ
  | .finished _ => 0
  | .awaitClose _ => 1
  | .awaitChunk _ => 2
  | .created | .yielded _ _ => 3
  | .awaitDisconnect _ _ => 4

/-- The resumptions that are left, chunks aside, where there are so many upstreams. -/
def workLeft (upstreams : ℕ) : Point → ℕ
  | .awaitBody => upstreams + 4
  | .awaitSend flight | .awaitPost flight =>
    upstreams + 4 - flight.attemptedUpstreamNames.length
  | .streaming _ point => streamWork point
  | .finished _ => 0

def WithinUpstreams (upstreams : ℕ) (point : Point) : Prop :=
  ∀ flight, point = .awaitSend flight ∨ point = .awaitPost flight →
    flight.attemptedUpstreamNames.length ≤ upstreams

theorem workLeft_loop {upstreams : ℕ} {point : Point} {flight : Flight}
    (h : point = .awaitSend flight ∨ point = .awaitPost flight) :
    workLeft upstreams point = upstreams + 4 - flight.attemptedUpstreamNames.length := by
  rcases h with rfl | rfl <;> rfl

theorem workLeft_zero {upstreams : ℕ} {point : Point} (hwithin : WithinUpstreams upstreams point) :
    workLeft upstreams point = 0 ↔ isOver point = true := by
  cases point with
  | awaitBody => simp [workLeft, isOver]
  | awaitSend flight =>
    have hbound := hwithin flight (.inl rfl)
    simp only [workLeft, isOver, Bool.false_eq_true, iff_false]
    omega
  | awaitPost flight =>
    have hbound := hwithin flight (.inr rfl)
    simp only [workLeft, isOver, Bool.false_eq_true, iff_false]
    omega
  | streaming ctx point => cases point <;> simp [workLeft, streamWork, isOver]
  | finished => simp [workLeft, isOver]

theorem resume_work {loads : PyText.Text → Except LoadsError Json} {extract : UsageExtractor}
    {maxSseDecodeBufferBytes : ℕ} {ctx : StreamContext} {point point' : StreamPoint}
    {input : StreamInput} {effects : List Effect}
    (h : resume loads extract maxSseDecodeBufferBytes ctx point input = some (effects, point')) :
    streamWork point' + 1 ≤
      streamWork point + 3 * (chunkInput (.stream input)).toNat := by
  cases point with
  | awaitDisconnect locals chunk =>
    cases input with
    | disconnected isDisconnected =>
      cases isDisconnected with
      | true =>
        cases h
        simp [streamWork, chunkInput]
      | false =>
        have hhandled : streamWork
            (handleChunk loads extract maxSseDecodeBufferBytes ctx locals chunk).2 ≤ 3 := by
          unfold handleChunk
          dsimp only
          split <;> simp [streamWork]
        simp only [resume, Option.some.injEq] at h
        rw [h] at hhandled
        exact Nat.succ_le_succ hhandled
    | raised e =>
      cases h
      simp [streamWork, chunkInput]
    | _ => cases h
  | _ => cases input <;> cases h <;> simp [streamWork, chunkInput]

/-- One resumption leaves less to do, unless it takes a chunk. -/
theorem segment_work {point point' : Point} {input : Input} {effects : List Effect}
    {upstreams : ℕ} (h : Segment P config request g now point input effects point')
    (hwithin : WithinUpstreams upstreams point) (hwithin' : WithinUpstreams upstreams point') :
    workLeft upstreams point' + 1 ≤
      workLeft upstreams point + 3 * (chunkInput input).toNat := by
  have hends {flight : Flight} (hpoint : point = .awaitSend flight ∨ point = .awaitPost flight) :
      4 ≤ workLeft upstreams point := by
    rw [workLeft_loop hpoint]
    have hbound := hwithin flight hpoint
    omega
  cases h with
  | rejected | misshapen | refused | unroutable =>
    simp only [workLeft]
    omega
  | started _ _ _ hattempted hpoint =>
    rw [workLeft_loop hpoint, hattempted]
    simp only [workLeft, List.length_singleton]
    omega
  | @retried point point' flight flight' e hconnect hselect hflight hpoint =>
    have hnext := hpoint.imp And.right And.right
    have hlonger : flight'.attemptedUpstreamNames.length =
        flight.attemptedUpstreamNames.length + 1 := by
      rw [hflight, List.length_append, List.length_singleton]
    have hbound := hwithin' flight' hnext
    rw [workLeft_loop hnext, workLeft_loop (hpoint.imp And.left And.left)]
    omega
  | exhausted _ _ hpoint | failed _ hpoint =>
    have hleft := hends hpoint
    change 0 + 1 ≤ _
    omega
  | broken _ hpoint =>
    have hleft := hends (hpoint.imp And.left id)
    change 0 + 1 ≤ _
    omega
  | cancelled | opened | unbuildable =>
    have hleft := hends (.inl rfl)
    simp only [workLeft, streamWork] at hleft ⊢
    omega
  | answered =>
    have hleft := hends (.inr rfl)
    simp only [workLeft] at hleft ⊢
    omega
  | streamed hresume => exact resume_work hresume

/-! ## What all requests can still do -/

def workOf (config : AppConfig) (s : System) : ℕ :=
  (s.tasks.map fun task => workLeft config.upstreams.length task.point).sum

def resumptions : Event → ℕ
  | .resume _ _ _ => 1
  | _ => 0

def granted (config : AppConfig) : Event → ℕ
  | .arrive _ _ => config.upstreams.length + 4
  | .resume _ input _ => 3 * (chunkInput input).toNat
  | .setHealth _ _ _ _ _ _ => 0

/-- The names tried are different ones of configured upstreams. -/
theorem orderly_within {modelName : String} {trail : Trail} (h : Orderly config modelName trail) :
    trail.names.length ≤ config.upstreams.length := by
  have hsubset : trail.names ⊆ config.upstreams.map UpstreamConfig.name := by
    intro name hname
    obtain ⟨attempt, hmem, rfl⟩ := List.mem_map.mp hname
    obtain ⟨hconfigured, _⟩ := fromConfig_pool config modelName _ (h.model attempt hmem).2
    obtain ⟨upstream, hupstream, htarget⟩ := List.mem_map.mp hconfigured
    rw [← htarget]
    exact List.mem_map_of_mem hupstream
  have hlength := (h.once.subperm hsubset).length_le
  rwa [List.length_map] at hlength

theorem trailAt_within {trail : Trail} {point : Point} (h : TrailAt config trail point) :
    WithinUpstreams config.upstreams.length point := by
  intro flight hpoint
  obtain ⟨horderly, hnames, _⟩ := flight_trail hpoint h
  rw [← hnames]
  exact orderly_within horderly

theorem tasks_within {s : System} (h : Reachable (step P config) (initial config) s) :
    ∀ task ∈ s.tasks, WithinUpstreams config.upstreams.length task.point :=
  fun task htask => trailAt_within (requests_trailing h task htask).trail

theorem step_work {s s' : System} {event : Event}
    (h : Reachable (step P config) (initial config) s) (hstep : step P config s event = some s') :
    resumptions event + workOf config s' ≤ workOf config s + granted config event := by
  have hwithin := tasks_within h
  have hwithin' := tasks_within (h.next hstep)
  unfold workOf
  cases step_cases hstep with
  | @arrive request now hclock =>
    have hstart : workLeft config.upstreams.length (Task.start config request).point ≤
        config.upstreams.length + 4 := by
      obtain hpoint | ⟨e, hpoint⟩ := RequestEmissions.startRequest_point config request
      · rw [Task.start, hpoint, workLeft]
      · rw [Task.start, hpoint]
        exact Nat.zero_le _
    simp only [System.run, List.map_append, List.sum_append, List.map_cons, List.map_nil,
      List.sum_singleton, resumptions, granted]
    omega
  | @resume i input now before after task effects point hclock htasks hindex hsegment =>
    have hmem : task ∈ s.tasks := by
      rw [htasks]
      exact List.mem_append_right _ List.mem_cons_self
    have hone := segment_work hsegment (hwithin task hmem)
      (hwithin' (task.continue input effects point)
        (List.mem_append_right _ List.mem_cons_self))
    simp only [htasks, System.run, Task.continue, List.map_append, List.map_cons, List.sum_append,
      List.sum_cons, resumptions, granted]
    omega
  | setHealth => exact (Nat.zero_add _).le

theorem workOf_zero {s : System} (h : Reachable (step P config) (initial config) s) :
    workOf config s = 0 ↔ ∀ task ∈ s.tasks, isOver task.point = true := by
  unfold workOf
  rw [List.sum_eq_zero_iff]
  constructor
  · intro hzero task htask
    exact (workLeft_zero (tasks_within h task htask)).mp (hzero _ (List.mem_map_of_mem htask))
  · intro hover work hwork
    obtain ⟨task, htask, rfl⟩ := List.mem_map.mp hwork
    exact (workLeft_zero (tasks_within h task htask)).mpr (hover task htask)

theorem resume_answers_task {s : System} {i : ℕ} {task : Task} (hget : s.tasks[i]? = some task)
    {now : ℚ} (hclock : s.clock ≤ now) (input : Input) :
    (step P config s (.resume i input now)).isSome = answers task.point input := by
  have hadvance : (advance P config task.request s.gateway now task.point input).isSome =
      answers task.point input := advance_answers task.point input
  rw [← hadvance]
  simp only [step, not_lt.mpr hclock, if_false, hget]
  cases advance P config task.request s.gateway now task.point input <;> rfl

/-- Where something is left to do, some answer that is no chunk leaves less. -/
theorem step_less {s : System} (h : Reachable (step P config) (initial config) s)
    (hleft : 0 < workOf config s) : ∃ event t, step P config s event = some t ∧
      (resumptions event = 1 ∧ granted config event = 0) ∧ workOf config t < workOf config s := by
  obtain ⟨task, htask, hunfinished⟩ : ∃ task ∈ s.tasks, isOver task.point = false := by
    by_contra hnone
    push Not at hnone
    apply hleft.ne'
    rw [workOf_zero h]
    intro task htask
    exact Bool.not_eq_false _ ▸ hnone task htask
  obtain ⟨i, hget⟩ := List.mem_iff_getElem?.mp htask
  obtain ⟨hanswer, hchunk⟩ := lastAnswer_answers hunfinished
  obtain ⟨t, ht⟩ : ∃ t, step P config s (.resume i (lastAnswer task.point) s.clock) = some t := by
    rw [← Option.isSome_iff_exists, resume_answers_task hget le_rfl, hanswer]
  have hgranted : granted config (.resume i (lastAnswer task.point) s.clock) = 0 := by
    rw [granted, hchunk, Bool.toNat_false]
  have hresumption : resumptions (.resume i (lastAnswer task.point) s.clock) = 1 := rfl
  have hwork := step_work h ht
  refine ⟨_, t, ht, ⟨hresumption, hgranted⟩, ?_⟩
  omega

/-- Nothing of a run that is over without a leak is left in the controller. -/
theorem idle_of_over {s : System} (h : Reachable (step P config) (initial config) s)
    (hover : ∀ task ∈ s.tasks, isOver task.point = true)
    (hkept : ∀ task ∈ s.tasks, taskLeaked P task = false) :
    (∀ modelName, s.gateway.admission.activeByModel modelName = 0) ∧
      ∀ key, s.gateway.admission.activeByDepartmentModel key = 0 := by
  have hnone (kind : AdmissionLease → Bool) : outstandingLeases kind s = 0 := by
    apply List.countP_eq_zero.mpr
    intro task htask
    have hslot := overSlot_of_over (hover task htask) (task_slots h task htask)
    rw [hkept task htask] at hslot
    simp [holds, overSlot_released hslot]
  obtain ⟨hmodel, hdepartment, _⟩ := (accounted h).balanced
  constructor
  · intro modelName
    rw [hmodel, hnone]
    rfl
  · intro key
    rw [hdepartment, hnone]
    rfl

/-- The gateway drains. An unfinished request goes on with each answer of its await, at any
later time; the resumptions of a run, with those that are left, are paid for by its
arrivals and chunks; from every state some resumptions without new arrivals or chunks, no
more than are left, end all requests; and where all have ended and none has leaked, the
controller counts nobody as active. -/
theorem gateway_drains {vs : List (System × Event)} {s : System}
    (run : Run (step P config) (initial config) vs s) :
    (∀ i task, s.tasks[i]? = some task → ∀ input now, s.clock ≤ now →
      (step P config s (.resume i input now)).isSome = answers task.point input) ∧
    (∀ task ∈ s.tasks, isOver task.point = false ↔ ∃ input, answers task.point input = true) ∧
    (vs.map fun v => resumptions v.2).sum + workOf config s ≤
      (vs.map fun v => granted config v.2).sum ∧
    (∃ ws t, Run (step P config) (initial config) (vs ++ ws) t ∧ ws.length ≤ workOf config s ∧
      (∀ w ∈ ws, resumptions w.2 = 1 ∧ granted config w.2 = 0) ∧
      ∀ task ∈ t.tasks, isOver task.point = true) ∧
    ((∀ task ∈ s.tasks, isOver task.point = true ∧ taskLeaked P task = false) →
      (∀ modelName, s.gateway.admission.activeByModel modelName = 0) ∧
        ∀ key, s.gateway.admission.activeByDepartmentModel key = 0) := by
  refine ⟨?_, ?_, ?_, ?_, ?_⟩
  · intro i task hget input now hclock
    exact resume_answers_task hget hclock input
  · exact fun task _ => unfinished_iff task.point
  · have hpaid := run.paid resumptions (granted config) (workOf config)
      fun _ _ _ hreach hstep => step_work hreach hstep
    have hnone : workOf config (initial config) = 0 := rfl
    rwa [hnone, Nat.zero_add] at hpaid
  · obtain ⟨ws, t, hrun, hlength, hall, hdone⟩ := run.exhaust
      (fun _ event => resumptions event = 1 ∧ granted config event = 0) (workOf config)
      fun _ hreach hleft => step_less hreach hleft
    exact ⟨ws, t, hrun, hlength, hall, (workOf_zero hrun.reachable).mp hdone⟩
  · intro hall
    exact idle_of_over run.reachable (fun task htask => (hall task htask).1)
      fun task htask => (hall task htask).2

end

/-! The first attempt fails to connect, the second one is still under way: of the six
resumptions an arrival pays for, two are made and at most four are left. -/

theorem failedOverOnce_runs :
    (smallRun (failedOver.take 3)).isSome = true := by decide +kernel

def failedOverOnce : System := (smallRun (failedOver.take 3)).get failedOverOnce_runs

theorem gateway_drains_failedOverOnce :
    ∃ vs ws t, Run (step smallPlatform smallConfig) (initial smallConfig) vs failedOverOnce ∧
      (vs.map fun v => resumptions v.2).sum + 4 ≤ 6 ∧
      Run (step smallPlatform smallConfig) (initial smallConfig) (vs ++ ws) t ∧ ws.length ≤ 4 ∧
      ∀ task ∈ t.tasks, isOver task.point = true := by
  obtain ⟨vs, run, hevents⟩ := exec_run .refl (Option.some_get failedOverOnce_runs).symm
  rw [List.nil_append] at run
  change Run _ _ vs failedOverOnce at run
  obtain ⟨_, _, hpaid, ⟨ws, t, hrun, hlength, _, hover⟩, _⟩ := gateway_drains run
  have hleft : workOf smallConfig failedOverOnce = 4 := by decide +kernel
  have hgranted : (vs.map fun v => granted smallConfig v.2).sum = 6 := by
    change (vs.map (granted smallConfig ∘ Prod.snd)).sum = 6
    rw [← List.map_map, hevents]
    rfl
  rw [hgranted, hleft] at hpaid
  rw [hleft] at hlength
  exact ⟨vs, ws, t, run, hpaid, hrun, hlength, hover⟩

end VllmSourceGateway.RequestProgress
