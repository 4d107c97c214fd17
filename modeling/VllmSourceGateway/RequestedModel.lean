import VllmSourceGateway.RequestEmissions
import VllmSourceGateway.RequestTrail

set_option autoImplicit false

/-! Which model a request is about: the one that its body names. Every call that is made
for the request names that model, and so does whatever it waits for. -/
namespace VllmSourceGateway.RequestedModel
open PyText PyValues UsageExtractors Metrics Config AdmissionControl Routing GatewayEffects
open StreamBytes ProxyEndpoint RequestSegments GatewaySystem RequestEmissions RequestTrail
open TransitionRuns

/-- The body is within the limit, a JSON object, and names a model. -/
structure ReadsAs (P : Platform) (config : AppConfig) (content : List UInt8) (fields : JsonObject)
    (modelName : String) : Prop where
  size : content.length ≤ config.server.maxRequestBodyBytes
  json : P.loadsBytes content = .ok (.obj fields)
  model : PyDict.get? fields "model" = some (.str modelName)
  named : strip modelName.toList ≠ []

/-- The body that the request came with names the model. -/
def Requests (P : Platform) (config : AppConfig) (task : Task) (modelName : String) : Prop :=
  ∃ content fields, task.steps.head? = some (.awaitBody, .body content) ∧
    ReadsAs P config content fields modelName

def namedModel? : Effect → Option String
  | .checkRequestShape _ modelName _ _ _ _ | .acquire _ modelName _ _
  | .recordTokens _ modelName _ | .recordRetryEvent _ modelName | .selectUpstream modelName _ _
  | .requestMetrics (.model modelName) | .contact _ modelName _ _ | .attemptEnded _ modelName _
  | .exchangeClosed _ modelName => some modelName
  | _ => none

def pointModel? : Point → Option String
  | .awaitSend flight | .awaitPost flight => some flight.modelName
  | .streaming ctx _ => some ctx.modelName
  | _ => none

/-- Until its body has been read a request is about no model, from then on about the one
that the body names. -/
inductive About (P : Platform) (config : AppConfig) (task : Task) : Prop where
  | unread (htrace : task.trace = (startRequest config task.request).1)
      (hpoint : task.point = .awaitBody ∧ task.steps = [] ∨
        ∃ e, task.point = .finished (.raised e)) : About P config task
  | model {modelName : String} {effects : List Effect}
      (hrequests : Requests P config task modelName)
      (htrace : task.trace = (startRequest config task.request).1 ++ effects)
      (hemits : ∀ effect ∈ effects, Emits config task.request modelName effect)
      (hpoint : ConcernedWith config task.request modelName task.point) : About P config task

section
variable {P : Platform} {config : AppConfig} {request : ProxyRequest} {g : Gateway} {now : ℚ}

theorem readJsonRequestBody_ok {content : List UInt8} {json : Json}
    (h : readJsonRequestBody P config content = .ok json) :
    content.length ≤ config.server.maxRequestBodyBytes ∧ P.loadsBytes content = .ok json := by
  simp only [readJsonRequestBody] at h
  split at h
  · cases h
  · rename_i hsize
    split at h
    · rename_i payload hloads
      cases h
      exact ⟨not_lt.mp hsize, hloads⟩
    · split at h <;> cases h

theorem parseJsonPayload_ok {json : Json} {fields : JsonObject} {modelName : String}
    (h : parseJsonPayload json = .ok (fields, modelName)) :
    json = .obj fields ∧ PyDict.get? fields "model" = some (.str modelName) ∧
      strip modelName.toList ≠ [] := by
  simp only [parseJsonPayload] at h
  split at h
  · split at h
    · rename_i modelName' hmodel
      split at h
      · cases h
      · rename_i hnamed
        cases h
        exact ⟨rfl, hmodel, hnamed⟩
    · cases h
  · cases h

theorem readsAs_iff {content : List UInt8} {fields : JsonObject} {modelName : String} :
    (∃ json, readJsonRequestBody P config content = .ok json ∧
      parseJsonPayload json = .ok (fields, modelName)) ↔
      ReadsAs P config content fields modelName := by
  constructor
  · rintro ⟨json, hread, hparse⟩
    obtain ⟨rfl, hmodel, hnamed⟩ := parseJsonPayload_ok hparse
    obtain ⟨hsize, hjson⟩ := readJsonRequestBody_ok hread
    exact ⟨hsize, hjson, hmodel, hnamed⟩
  · rintro ⟨hsize, hjson, hmodel, hnamed⟩
    refine ⟨.obj fields, ?_, ?_⟩
    · simp only [readJsonRequestBody, not_lt.mpr hsize, if_false, hjson]
    · simp only [parseJsonPayload, hmodel, hnamed, if_false]

/-- A body is turned away without a call, or it names the model that is noted. -/
theorem afterBody_reads {input : Input} {effects : List Effect} {point : Point}
    (h : afterBody P config request g now input = some (effects, point)) :
    (effects = [] ∧ ∃ e, point = .finished (.raised e)) ∨
      ∃ content fields modelName, input = .body content ∧
        ReadsAs P config content fields modelName ∧
        .requestMetrics (.model modelName) ∈ effects := by
  cases input with
  | body content =>
    simp only [afterBody, Option.some.injEq] at h
    obtain rfl : (handleBody P config request g now content).1 = effects := congrArg Prod.fst h
    obtain rfl : (handleBody P config request g now content).2 = point := congrArg Prod.snd h
    simp only [handleBody]
    split
    · exact .inl ⟨rfl, _, rfl⟩
    · rename_i json hread
      split
      · exact .inl ⟨rfl, _, rfl⟩
      · rename_i fields modelName hparse
        split
        · exact .inl ⟨rfl, _, rfl⟩
        · refine .inr ⟨content, fields, modelName, rfl, readsAs_iff.mp ⟨json, hread, hparse⟩, ?_⟩
          simp only [admitRequest]
          repeat' split
          all_goals simp
  | raised e =>
    simp only [afterBody, Option.some.injEq, Prod.mk.injEq] at h
    exact .inl ⟨h.1.symm, _, h.2.symm⟩
  | opened | response | stream => cases h

theorem Requests.continue {task : Task} {modelName : String} (h : Requests P config task modelName)
    (input : Input) (effects : List Effect) (point : Point) :
    Requests P config (task.continue input effects point) modelName := by
  obtain ⟨content, fields, hfirst, hreads⟩ := h
  refine ⟨content, fields, ?_, hreads⟩
  rw [Task.continue, List.head?_append, hfirst, Option.some_or]

theorem About.advance {task : Task} (h : About P config task) (hpools : PoolsKept config g)
    {input : Input} {effects : List Effect} {point : Point}
    (hadvance : advance P config task.request g now task.point input = some (effects, point)) :
    About P config (task.continue input effects point) := by
  have hsegment := advance_segment hadvance
  cases h with
  | unread htrace hpoint =>
    rcases hpoint with ⟨hbody, hsteps⟩ | ⟨e, hfinished⟩
    · rw [hbody] at hsegment hadvance
      obtain ⟨rfl, hraised⟩ | ⟨content, fields, modelName, rfl, hreads, hnoted⟩ :=
        afterBody_reads hadvance
      · refine .unread ?_ (.inr hraised)
        rw [Task.continue, List.append_nil, htrace]
      · obtain ⟨rfl, _⟩ | ⟨known, _, hemits, hconcerned⟩ := body_emits hpools hsegment
        · cases hnoted
        · cases hemits _ hnoted with
          | model =>
            refine .model ⟨content, fields, ?_, hreads⟩ ?_ hemits hconcerned
            · simp only [Task.continue, hsteps, hbody, List.nil_append, List.head?_cons]
            · rw [Task.continue, htrace]
    · rw [hfinished] at hsegment
      exact (finished_stuck hsegment).elim
  | model hrequests htrace hemits hpoint =>
    obtain ⟨hlater, hconcerned⟩ := segment_emits hpools hsegment hpoint
    refine .model (hrequests.continue input effects point) ?_
      (List.forall_mem_append.mpr ⟨hemits, hlater⟩) hconcerned
    rw [Task.continue, htrace, List.append_assoc]

theorem requests_about {s : System} (h : Reachable (step P config) (initial config) s) :
    ∀ task ∈ s.tasks, About P config task := by
  obtain ⟨vs, run⟩ := h
  refine run_task_advance (fun _ _ => True) (About P config) ?_ ?_ run fun _ _ => trivial
  · intro request
    exact .unread rfl ((startRequest_point config request).imp_left fun hbody => ⟨hbody, rfl⟩)
  · intro s i task now input effects point hreach _ _ hinv hadvance
    exact hinv.advance (pools_kept hreach) hadvance

theorem emits_named {modelName named : String} {effect : Effect}
    (h : Emits config request modelName effect) (hnamed : namedModel? effect = some named) :
    named = modelName := by
  cases h with
  | contact hmodel => exact (Option.some.inj hnamed).symm.trans hmodel
  | model | checkRequestShape | acquire | recordTokens | recordRetryEvent | selectUpstream
  | attemptEnded | exchangeClosed => exact (Option.some.inj hnamed).symm
  | _ => cases hnamed

/-- Every call is made for the model that the body names. -/
theorem About.call {task : Task} (h : About P config task) {effect : Effect}
    (hmem : effect ∈ task.trace) {modelName : String}
    (hnamed : namedModel? effect = some modelName) : Requests P config task modelName := by
  have harrival : effect ∉ (startRequest config task.request).1 := by
    intro hearly
    rw [startRequest_effects] at hearly
    simp only [List.mem_cons, List.not_mem_nil, or_false] at hearly
    rcases hearly with rfl | rfl <;> cases hnamed
  cases h with
  | unread htrace =>
    rw [htrace] at hmem
    exact absurd hmem harrival
  | model hrequests htrace hemits =>
    rw [htrace] at hmem
    rw [emits_named (hemits effect ((List.mem_append.mp hmem).resolve_left harrival)) hnamed]
    exact hrequests

/-- What a request waits for is for the model that the body names. -/
theorem About.point {task : Task} (h : About P config task) {modelName : String}
    (hnamed : pointModel? task.point = some modelName) : Requests P config task modelName := by
  cases h with
  | unread _ hpoint =>
    rcases hpoint with ⟨hbody, _⟩ | ⟨e, hfinished⟩
    · rw [hbody] at hnamed
      cases hnamed
    · rw [hfinished] at hnamed
      cases hnamed
  | @model requested _ hrequests _ _ hpoint =>
    obtain rfl : modelName = requested := by
      generalize task.point = point at hnamed hpoint
      cases point with
      | awaitSend | awaitPost => exact (Option.some.inj hnamed).symm.trans hpoint.1
      | streaming => exact (Option.some.inj hnamed).symm.trans hpoint.2.1
      | awaitBody | finished => cases hnamed
    exact hrequests

/-- Every attempt is for the model that the body names. -/
theorem About.attempt {task : Task} (h : About P config task) :
    ∀ attempt ∈ (trailOf task.trace).attempts, Requests P config task attempt.modelName := by
  intro attempt hattempt
  obtain ⟨department, sent, hcontact⟩ := attempts_contacted hattempt
  exact h.call hcontact rfl

end

end VllmSourceGateway.RequestedModel
