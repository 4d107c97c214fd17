import VllmSourceGateway.AdmissionOutputCap
import VllmSourceGateway.ObjectHeap
import VllmSourceGateway.RequestedModel

set_option autoImplicit false

/-! What happens to a client's JSON body on its way to an upstream. The shape check
is the only code that can change it, and a payload that it has changed passes it
unchanged. -/
namespace VllmSourceGateway.PayloadFidelity
open PyValues UsageExtractors Metrics Config AdmissionControl Routing GatewayEffects ObjectHeap
open StreamBytes ProxyEndpoint RequestSegments GatewaySystem RequestEmissions AdmissionOutputCap
open RequestedModel TransitionRuns

structure AddsCap (config : AdmissionControlConfig) (modelName : String) (body : JsonObject)
    (cap : ℤ) : Prop where
  enabled : config.enabled = true
  limited : ∃ limit, PyDict.get? config.requestShapeLimits modelName = some limit ∧
    limit.maxOutputTokens = some cap
  noMaxTokens : PyDict.get? body "max_tokens" = none
  noMaxOutputTokens : PyDict.get? body "max_output_tokens" = none

/-- A body and what is sent of it: the same items, and the cap where it is added. -/
inductive Forwarded (config : AdmissionControlConfig) (modelName : String) (endpoint : Endpoint)
    (body : JsonObject) : JsonObject → Prop where
  | unchanged (habsent : ∀ cap, ¬ AddsCap config modelName body cap) :
      Forwarded config modelName endpoint body body
  | capped {cap : ℤ} (hadds : AddsCap config modelName body cap) :
      Forwarded config modelName endpoint body (body ++ [(outputKey endpoint, .int cap)])

theorem AddsCap.unique {config : AdmissionControlConfig} {modelName : String} {body : JsonObject}
    {cap cap' : ℤ} (h : AddsCap config modelName body cap)
    (h' : AddsCap config modelName body cap') : cap = cap' := by
  obtain ⟨limit, hlimit, hcap⟩ := h.limited
  obtain ⟨limit', hlimit', hcap'⟩ := h'.limited
  cases hlimit.symm.trans hlimit'
  exact Option.some.inj (hcap.symm.trans hcap')

theorem Forwarded.unique {config : AdmissionControlConfig} {modelName : String}
    {endpoint : Endpoint} {body sent sent' : JsonObject}
    (h : Forwarded config modelName endpoint body sent)
    (h' : Forwarded config modelName endpoint body sent') : sent = sent' := by
  cases h with
  | unchanged habsent =>
    cases h' with
    | unchanged => rfl
    | capped hadds => exact absurd hadds (habsent _)
  | capped hadds =>
    cases h' with
    | unchanged habsent => exact absurd hadds (habsent _)
    | capped hadds' => rw [hadds.unique hadds']

def withCap (limit : RequestShapeLimitConfig) (endpoint : Endpoint) (payload : JsonObject) :
    JsonObject :=
  match limit.maxOutputTokens, (extractValidMaxOutputTokens payload).1 with
  | some cap, false => PyDict.set payload (outputKey endpoint) (.int cap)
  | _, _ => payload

inductive Accepts (config : AdmissionControlConfig) (modelName : String) (endpoint : Endpoint)
    (bodySize : ℕ) (payload : JsonObject) : JsonObject → Prop where
  | unchecked (h : config.enabled = false ∨
        PyDict.get? config.requestShapeLimits modelName = none) :
      Accepts config modelName endpoint bodySize payload payload
  | checked {limit : RequestShapeLimitConfig} (henabled : config.enabled = true)
      (hlimit : PyDict.get? config.requestShapeLimits modelName = some limit)
      (hsize : exceeds limit.maxRequestBodyBytes bodySize = false)
      (hcap : outputCapRejected limit.maxOutputTokens (extractValidMaxOutputTokens payload).1
        (extractValidMaxOutputTokens payload).2 = false)
      (hn : nRejected limit.rejectNGreaterThanOne payload = false) :
      Accepts config modelName endpoint bodySize payload (withCap limit endpoint payload)

section
variable {config : AdmissionControlConfig} {department modelName : String} {endpoint : Endpoint}
  {bodySize : ℕ} {payload accepted : JsonObject} {limit : RequestShapeLimitConfig} {cap : ℤ}

/-- The check of a model that has a limit. -/
theorem checkRequestShape_limited (henabled : config.enabled = true)
    (hlimit : PyDict.get? config.requestShapeLimits modelName = some limit) :
    checkRequestShape config department modelName endpoint bodySize payload =
      if exceeds limit.maxRequestBodyBytes bodySize then
        rejectShape department modelName .requestBodyTooLarge
      else if outputCapRejected limit.maxOutputTokens (extractValidMaxOutputTokens payload).1
          (extractValidMaxOutputTokens payload).2 then
        rejectShape department modelName .maxOutputTokens
      else if nRejected limit.rejectNGreaterThanOne payload then
        rejectShape department modelName .nGreaterThanOne
      else (.ok (withCap limit endpoint payload), []) := by
  simp only [checkRequestShape, henabled, hlimit, Bool.not_true, Bool.false_eq_true, if_false,
    withCap]
  cases limit.maxOutputTokens with
  | none => rfl
  | some cap => cases (extractValidMaxOutputTokens payload).1 <;> rfl

theorem checkRequestShape_unchecked (h : config.enabled = false ∨
    PyDict.get? config.requestShapeLimits modelName = none) :
    checkRequestShape config department modelName endpoint bodySize payload =
      (.ok payload, []) := by
  rcases h with hdisabled | hnone
  · simp only [checkRequestShape, hdisabled, Bool.not_false, if_true]
  · simp only [checkRequestShape, hnone, ite_self]

theorem checked_or_not (config : AdmissionControlConfig) (modelName : String) :
    (config.enabled = false ∨ PyDict.get? config.requestShapeLimits modelName = none) ∨
      config.enabled = true ∧
        ∃ limit, PyDict.get? config.requestShapeLimits modelName = some limit := by
  cases config.enabled with
  | false => exact .inl (.inl rfl)
  | true =>
    cases PyDict.get? config.requestShapeLimits modelName with
    | none => exact .inl (.inr rfl)
    | some limit => exact .inr ⟨rfl, limit, rfl⟩

theorem accepts_of_ok
    (h : (checkRequestShape config department modelName endpoint bodySize payload).1 =
      .ok accepted) : Accepts config modelName endpoint bodySize payload accepted := by
  obtain hunchecked | ⟨henabled, limit, hlimit⟩ := checked_or_not config modelName
  · rw [checkRequestShape_unchecked hunchecked] at h
    cases h
    exact .unchecked hunchecked
  · rw [checkRequestShape_limited henabled hlimit] at h
    split at h
    · cases h
    · rename_i hsize
      split at h
      · cases h
      · rename_i hcap
        split at h
        · cases h
        · rename_i hn
          cases h
          exact .checked henabled hlimit (Bool.eq_false_of_not_eq_true hsize)
            (Bool.eq_false_of_not_eq_true hcap) (Bool.eq_false_of_not_eq_true hn)

theorem Accepts.ok (h : Accepts config modelName endpoint bodySize payload accepted)
    (department : String) :
    checkRequestShape config department modelName endpoint bodySize payload =
      (.ok accepted, []) := by
  cases h with
  | unchecked hunchecked => exact checkRequestShape_unchecked hunchecked
  | checked henabled hlimit hsize hcap hn =>
    rw [checkRequestShape_limited henabled hlimit, hsize, hcap, hn]
    rfl

theorem hasOutputCap_eq_false :
    (extractValidMaxOutputTokens payload).1 = false ↔
      PyDict.get? payload "max_tokens" = none ∧
        PyDict.get? payload "max_output_tokens" = none := by
  rw [← Bool.not_eq_true, hasOutputCap_iff .messages payload, not_or, Bool.not_eq_true,
    Option.isSome_eq_false_iff, Option.isNone_iff_eq_none, Bool.not_eq_true,
    Option.isSome_eq_false_iff, Option.isNone_iff_eq_none]
  rfl

/-- The key of the endpoint is one of the two that the check looks for. -/
theorem outputKey_absent (endpoint : Endpoint)
    (habsent : (extractValidMaxOutputTokens payload).1 = false) :
    PyDict.get? payload (outputKey endpoint) = none := by
  obtain ⟨hmax, hmaxOutput⟩ := hasOutputCap_eq_false.mp habsent
  cases endpoint with
  | responses => exact hmaxOutput
  | chatCompletions | messages => exact hmax

theorem Accepts.forwarded (h : Accepts config modelName endpoint bodySize payload accepted) :
    Forwarded config modelName endpoint payload accepted := by
  cases h with
  | unchecked hunchecked =>
    refine .unchanged fun cap hadds => ?_
    obtain ⟨limit, hlimit, _⟩ := hadds.limited
    rcases hunchecked with hdisabled | hnone
    · exact Bool.false_ne_true (hdisabled.symm.trans hadds.enabled)
    · cases hnone.symm.trans hlimit
  | @checked limit henabled hlimit _ _ _ =>
    have hadds (cap : ℤ) : AddsCap config modelName payload cap ↔
        limit.maxOutputTokens = some cap ∧ (extractValidMaxOutputTokens payload).1 = false := by
      constructor
      · intro hadds
        obtain ⟨other, hother, hcap⟩ := hadds.limited
        cases hlimit.symm.trans hother
        exact ⟨hcap, hasOutputCap_eq_false.mpr ⟨hadds.noMaxTokens, hadds.noMaxOutputTokens⟩⟩
      · rintro ⟨hcap, habsent⟩
        obtain ⟨hmax, hmaxOutput⟩ := hasOutputCap_eq_false.mp habsent
        exact ⟨henabled, ⟨limit, hlimit, hcap⟩, hmax, hmaxOutput⟩
    simp only [withCap]
    split
    · rename_i cap hcap habsent
      rw [PyDict.set_fresh (outputKey_absent endpoint habsent)]
      exact .capped ((hadds cap).mpr ⟨hcap, habsent⟩)
    · rename_i hother
      exact .unchanged fun cap hcap => hother cap ((hadds cap).mp hcap).1 ((hadds cap).mp hcap).2

theorem extracted_capped (endpoint : Endpoint) (hpos : 0 < cap)
    (habsent : (extractValidMaxOutputTokens payload).1 = false) :
    extractValidMaxOutputTokens (PyDict.set payload (outputKey endpoint) (.int cap)) =
      (true, some cap) := by
  obtain ⟨hmax, hmaxOutput⟩ := hasOutputCap_eq_false.mp habsent
  have hvalid : positiveInt? (.int cap) = some cap := by simp only [positiveInt?, hpos, if_true]
  cases endpoint <;>
    simp [extractValidMaxOutputTokens, outputKey, PyDict.get?_set, hmax, hmaxOutput, hvalid]

theorem nRejected_capped (reject : Bool) (endpoint : Endpoint) (payload : JsonObject) (cap : Json) :
    nRejected reject (PyDict.set payload (outputKey endpoint) cap) = nRejected reject payload := by
  have hother : PyDict.get? (PyDict.set payload (outputKey endpoint) cap) "n" =
      PyDict.get? payload "n" := by
    cases endpoint <;> exact PyDict.get?_set_of_ne _ _ (by decide)
  simp only [nRejected, hother]

theorem Accepts.again (h : Accepts config modelName endpoint bodySize payload accepted) :
    Accepts config modelName endpoint bodySize accepted accepted := by
  cases h with
  | unchecked hunchecked => exact .unchecked hunchecked
  | @checked limit henabled hlimit hsize hcap hn =>
    by_cases hadds : ∃ cap, limit.maxOutputTokens = some cap ∧
        (extractValidMaxOutputTokens payload).1 = false
    · obtain ⟨cap, hsome, habsent⟩ := hadds
      have hcapped : withCap limit endpoint payload =
          PyDict.set payload (outputKey endpoint) (.int cap) := by
        simp only [withCap, hsome, habsent]
      have hextracted := extracted_capped endpoint (limit.maxOutputTokens_pos cap hsome) habsent
      have hkept : withCap limit endpoint (PyDict.set payload (outputKey endpoint) (.int cap)) =
          PyDict.set payload (outputKey endpoint) (.int cap) := by
        simp only [withCap, hsome, hextracted]
      have hagain : Accepts config modelName endpoint bodySize
          (PyDict.set payload (outputKey endpoint) (.int cap))
          (withCap limit endpoint (PyDict.set payload (outputKey endpoint) (.int cap))) :=
        .checked henabled hlimit hsize (by simp [hextracted, hsome, outputCapRejected])
          (by rwa [nRejected_capped])
      rwa [hkept, ← hcapped] at hagain
    · have hkept : withCap limit endpoint payload = payload := by
        simp only [withCap]
        split
        · rename_i cap hsome habsent
          exact absurd ⟨cap, hsome, habsent⟩ hadds
        · rfl
      have hagain : Accepts config modelName endpoint bodySize payload
          (withCap limit endpoint payload) := .checked henabled hlimit hsize hcap hn
      rw [hkept] at hagain ⊢
      exact hagain

end

/-! ## The client's object

`payload` names an object here; `dict(payload)` makes another one, and only that one
is written to. -/

section
variable (config : AdmissionControlConfig) (modelName : String) (endpoint : Endpoint)
  (bodySize : ℕ)

/-- `payload[key] = value` -/
def setItem (heap : List JsonObject) (ref : ℕ) (key : String) (value : Json) : List JsonObject :=
  write heap ref (PyDict.set (heap.getD ref []) key value)

/-- `_reject_shape`, which touches no payload. -/
def rejectShapeAt (reason : RejectionReason) (heap : List JsonObject) :
    Except Rejection ℕ × List JsonObject :=
  (.error ⟨reason, ⟨shapeErrorStatus reason, shapeErrorDetail reason, none⟩⟩, heap)

/-- `check_request_shape` on a reference. -/
def checkRequestShapeAt (payload : ℕ) (heap : List JsonObject) :
    Except Rejection ℕ × List JsonObject :=
  if !config.enabled then (.ok payload, heap)
  else
    match PyDict.get? config.requestShapeLimits modelName with
    | none => (.ok payload, heap)
    | some limit =>
      if exceeds limit.maxRequestBodyBytes bodySize then
        rejectShapeAt .requestBodyTooLarge heap
      else
        let (hasOutputCap, maxOutputTokens) := extractValidMaxOutputTokens (heap.getD payload [])
        if outputCapRejected limit.maxOutputTokens hasOutputCap maxOutputTokens then
          rejectShapeAt .maxOutputTokens heap
        else if nRejected limit.rejectNGreaterThanOne (heap.getD payload []) then
          rejectShapeAt .nGreaterThanOne heap
        else
          match limit.maxOutputTokens, hasOutputCap with
          | some cap, false =>
            let (payload, heap) := alloc heap (heap.getD payload [])
            (.ok payload, setItem heap payload (outputKey endpoint) (.int cap))
          | _, _ => (.ok payload, heap)

end

/-- A check by reference has the result of one by value, in an object of its own or
in the client's, and every object that was there is as it was. -/
structure Agrees (heap : List JsonObject) (byValue : Except Rejection JsonObject)
    (byReference : Except Rejection ℕ × List JsonObject) : Prop where
  result : byReference.1.map (fun ref => byReference.2[ref]?) = byValue.map some
  unmutated : Unmutated heap byReference.2

section
variable {config : AdmissionControlConfig} {department modelName : String} {endpoint : Endpoint}
  {bodySize : ℕ} {heap : List JsonObject} {ref : ℕ} {payload : JsonObject}

theorem Agrees.kept (hread : heap[ref]? = some payload) :
    Agrees heap (.ok payload) (.ok ref, heap) :=
  ⟨by simp only [Except.map, hread], .refl heap⟩

theorem Agrees.rejected (reason : RejectionReason) :
    Agrees heap (rejectShape department modelName reason).1
      (rejectShapeAt reason heap) := ⟨rfl, .refl heap⟩

theorem Agrees.copied (payload : JsonObject) (key : String) (value : Json) :
    Agrees heap (.ok (PyDict.set payload key value))
      (.ok (alloc heap payload).1,
        setItem (alloc heap payload).2 (alloc heap payload).1 key value) := by
  have hread := alloc_read heap payload
  refine ⟨?_, (alloc_unmutated heap payload).write_fresh (le_refl _)⟩
  simp only [Except.map, setItem, write_read hread, List.getD_eq_getElem?_getD, hread,
    Option.getD_some]

theorem checkRequestShapeAt_agrees (hread : heap[ref]? = some payload) :
    Agrees heap (checkRequestShape config department modelName endpoint bodySize payload).1
      (checkRequestShapeAt config modelName endpoint bodySize ref heap) := by
  have hpayload : heap.getD ref [] = payload := by
    rw [List.getD_eq_getElem?_getD, hread, Option.getD_some]
  simp only [checkRequestShape, checkRequestShapeAt, hpayload]
  cases config.enabled with
  | false => exact .kept hread
  | true =>
    simp only [Bool.not_true, Bool.false_eq_true, if_false]
    cases PyDict.get? config.requestShapeLimits modelName with
    | none => exact .kept hread
    | some limit =>
      dsimp only
      split
      · exact .rejected _
      · split
        · exact .rejected _
        · split
          · exact .rejected _
          · cases limit.maxOutputTokens with
            | none => exact .kept hread
            | some cap =>
              cases (extractValidMaxOutputTokens payload).1 with
              | false => exact .copied payload _ _
              | true => exact .kept hread

end

/-! ## On the way to the upstreams -/

section
variable {P : Platform} {config : AppConfig} {request : ProxyRequest} {g : Gateway} {now : ℚ}

def Delivers (P : Platform) (config : AppConfig) (task : Task) (modelName : String)
    (sent : JsonObject) : Prop :=
  ∃ content body, task.steps.head? = some (.awaitBody, .body content) ∧
    P.loadsBytes content = .ok (.obj body) ∧
    PyDict.get? body "model" = some (.str modelName) ∧
    Forwarded config.admissionControl modelName task.request.endpoint body sent

/-- There is one first step, so there is one body, and one thing to send. -/
theorem Delivers.unique {task : Task} {modelName modelName' : String} {sent sent' : JsonObject}
    (h : Delivers P config task modelName sent) (h' : Delivers P config task modelName' sent') :
    (modelName, sent) = (modelName', sent') := by
  obtain ⟨content, body, hfirst, hloads, hmodel, hforwarded⟩ := h
  obtain ⟨content', body', hfirst', hloads', hmodel', hforwarded'⟩ := h'
  cases hfirst.symm.trans hfirst'
  cases hloads.symm.trans hloads'
  cases hmodel.symm.trans hmodel'
  rw [hforwarded.unique hforwarded']

theorem startStreaming_flight {modelName : String} {payload : JsonObject}
    {lease : Option AdmissionLease} :
    ∀ flight ∈ flightOf? (startStreaming request g modelName payload lease).2,
      flight.modelName = modelName ∧ flight.payload = payload := by
  intro flight hflight
  simp only [startStreaming] at hflight
  split at hflight
  · cases hflight
  · cases hflight
    exact ⟨rfl, rfl⟩

theorem startPosting_flight {modelName : String} {payload : JsonObject}
    {lease : Option AdmissionLease} :
    ∀ flight ∈ flightOf? (startPosting request g modelName payload lease).2,
      flight.modelName = modelName ∧ flight.payload = payload := by
  intro flight hflight
  simp only [startPosting] at hflight
  split at hflight
  · cases hflight
  · cases hflight
    exact ⟨rfl, rfl⟩

theorem admitRequest_flight {modelName : String} {bodySize : ℕ} {payload : JsonObject} :
    ∀ flight ∈ flightOf? (admitRequest config request g now modelName bodySize payload).2,
      flight.modelName = modelName ∧
        Forwarded config.admissionControl modelName request.endpoint payload flight.payload := by
  intro flight hflight
  simp only [admitRequest] at hflight
  split at hflight
  · cases hflight
  · rename_i shaped hshape
    split at hflight
    · cases hflight
    · have hstarted : flight.modelName = modelName ∧ flight.payload = shaped := by
        split at hflight
        · exact startStreaming_flight flight hflight
        · exact startPosting_flight flight hflight
      exact ⟨hstarted.1, hstarted.2 ▸ (accepts_of_ok hshape).forwarded⟩

/-- A first attempt is for a body that was read as an object with a model. -/
theorem afterBody_flight {input : Input} {effects : List Effect} {point : Point}
    (h : afterBody P config request g now input = some (effects, point)) :
    ∀ flight ∈ flightOf? point, ∃ content body, input = .body content ∧
      P.loadsBytes content = .ok (.obj body) ∧
      PyDict.get? body "model" = some (.str flight.modelName) ∧
      Forwarded config.admissionControl flight.modelName request.endpoint body flight.payload := by
  intro flight hflight
  cases input with
  | body content =>
    simp only [afterBody, Option.some.injEq] at h
    obtain rfl : (handleBody P config request g now content).2 = point := congrArg Prod.snd h
    simp only [handleBody] at hflight
    split at hflight
    · cases hflight
    · rename_i json hread
      split at hflight
      · cases hflight
      · rename_i body modelName hparse
        split at hflight
        · cases hflight
        · obtain ⟨rfl, hforwarded⟩ := admitRequest_flight flight hflight
          obtain ⟨rfl, hmodel, _⟩ := parseJsonPayload_ok hparse
          exact ⟨content, body, rfl, (readJsonRequestBody_ok hread).2, hmodel, hforwarded⟩
  | raised e =>
    simp only [afterBody, Option.some.injEq, Prod.mk.injEq] at h
    rw [← h.2] at hflight
    cases hflight
  | opened | response | stream => cases h

/-- After that a loop keeps the payload and the model that it started with. -/
theorem segment_flight_kept {point point' : Point} {input : Input} {effects : List Effect}
    (h : Segment P config request g now point input effects point') (hpoint : point ≠ .awaitBody) :
    ∀ flight ∈ flightOf? point', ∃ before ∈ flightOf? point,
      before.modelName = flight.modelName ∧ before.payload = flight.payload := by
  intro flight hflight
  cases h with
  | rejected | misshapen | refused | unroutable | started => exact absurd rfl hpoint
  | exhausted | failed | broken | cancelled => cases hflight
  | opened | unbuildable | answered | streamed => cases hflight
  | @retried _ _ before after _ _ _ heq hpoint =>
    cases (flightOf?_eq (hpoint.imp And.right And.right)).symm.trans hflight
    exact ⟨before, flightOf?_eq (hpoint.imp And.left And.left), by rw [heq], by rw [heq]⟩

/-- What is sent, and what a loop is about to send again, is what the request delivers. -/
structure Delivering (P : Platform) (config : AppConfig) (task : Task) : Prop where
  sent : ∀ item ∈ sentPayloads task.trace, Delivers P config task item.1 item.2
  flight : ∀ flight ∈ flightOf? task.point,
    Delivers P config task flight.modelName flight.payload
  first : task.point = .awaitBody → task.steps = []

theorem segment_leaves_body {point point' : Point} {input : Input} {effects : List Effect}
    (h : Segment P config request g now point input effects point') : point' ≠ .awaitBody := by
  cases h with
  | rejected | misshapen | refused | unroutable => exact Point.noConfusion
  | exhausted | failed | broken | cancelled => exact Point.noConfusion
  | opened | unbuildable | answered | streamed => exact Point.noConfusion
  | started _ _ _ _ hpoint => rcases hpoint with rfl | rfl <;> exact Point.noConfusion
  | retried _ _ _ hpoint => rcases hpoint with ⟨_, rfl⟩ | ⟨_, rfl⟩ <;> exact Point.noConfusion

theorem Delivers.continue {task : Task} {modelName : String} {sent : JsonObject}
    (h : Delivers P config task modelName sent) (input : Input) (effects : List Effect)
    (point : Point) : Delivers P config (task.continue input effects point) modelName sent := by
  obtain ⟨content, body, hfirst, hrest⟩ := h
  refine ⟨content, body, ?_, hrest⟩
  rw [Task.continue, List.head?_append, hfirst, Option.some_or]

theorem advance_flight {task : Task} (hinv : Delivering P config task) {input : Input}
    {effects : List Effect} {point : Point}
    (h : advance P config task.request g now task.point input = some (effects, point)) :
    ∀ flight ∈ flightOf? point,
      Delivers P config (task.continue input effects point) flight.modelName flight.payload := by
  intro flight hflight
  by_cases hbody : task.point = .awaitBody
  · have hsteps := hinv.first hbody
    rw [hbody] at h
    simp only [advance] at h
    obtain ⟨content, body, rfl, hrest⟩ := afterBody_flight h flight hflight
    refine ⟨content, body, ?_, hrest⟩
    simp only [Task.continue, hsteps, hbody, List.nil_append, List.head?_cons]
  · obtain ⟨before, hbefore, hmodel, hpayload⟩ :=
      segment_flight_kept (advance_segment h) hbody flight hflight
    rw [← hmodel, ← hpayload]
    exact (hinv.flight before hbefore).continue input effects point

theorem task_delivering {s : System} (h : Reachable (step P config) (initial config) s) :
    ∀ task ∈ s.tasks, Delivering P config task := by
  obtain ⟨vs, run⟩ := h
  refine run_task_advance (fun _ _ => True) (Delivering P config) (fun request => ⟨?_, ?_, ?_⟩)
    ?_ run fun _ _ => trivial
  · rw [(start_unsent config request).1]
    exact List.forall_mem_nil _
  · rw [(start_unsent config request).2]
    exact fun _ hflight => by cases hflight
  · exact fun _ => rfl
  · intro s i task now input effects point _ _ _ hinv hadvance
    have hflights := advance_flight hinv hadvance
    refine ⟨?_, hflights, fun hbody => ?_⟩
    · simp only [Task.continue, sentPayloads_append, List.forall_mem_append]
      refine ⟨fun item hitem => (hinv.sent item hitem).continue input effects point,
        fun item hitem => ?_⟩
      obtain ⟨flight, hflight, rfl⟩ := segment_sent (advance_segment hadvance) item hitem
      exact hflights flight hflight
    · exact absurd hbody (segment_leaves_body (advance_segment hadvance))

end

/-- All attempts for a request send one payload, which is its body with at most the
cap added. -/
structure Faithful (P : Platform) (config : AppConfig) (task : Task) : Prop where
  delivers : ∀ item ∈ sentPayloads task.trace, Delivers P config task item.1 item.2
  same : ∀ item ∈ sentPayloads task.trace, ∀ other ∈ sentPayloads task.trace, item = other

theorem payload_fidelity {P : Platform} {config : AppConfig} :
    (∀ s, Reachable (step P config) (initial config) s →
      ∀ task ∈ s.tasks, Faithful P config task) ∧
    ∀ (admission : AdmissionControlConfig) department modelName endpoint bodySize,
      (∀ (heap : List JsonObject) (ref : ℕ) payload, heap[ref]? = some payload →
        Agrees heap
          (checkRequestShape admission department modelName endpoint bodySize payload).1
          (checkRequestShapeAt admission modelName endpoint bodySize ref heap)) ∧
      ∀ payload accepted,
        (checkRequestShape admission department modelName endpoint bodySize payload).1 =
          .ok accepted →
        checkRequestShape admission department modelName endpoint bodySize accepted =
          (.ok accepted, []) := by
  refine ⟨fun s hreach task htask => ?_, fun _ department _ _ _ => ⟨?_, ?_⟩⟩
  · have hdelivering := task_delivering hreach task htask
    exact ⟨hdelivering.sent, fun item hitem other hother =>
      (hdelivering.sent item hitem).unique (hdelivering.sent other hother)⟩
  · exact fun _ _ _ hread => checkRequestShapeAt_agrees hread
  · exact fun _ _ hok => (accepts_of_ok hok).again.ok department

/-! The first upstream refuses the connection, so the body is sent twice, with the cap
of its model. -/

def cappedTwice : Option System :=
  exec (step smallPlatform cappedConfig) (initial cappedConfig)
    [.arrive smallRequest 0, .resume 0 (.body postBody) 1,
      .resume 0 (.raised (.httpx .connectError)) 2]

theorem cappedTwice_runs : cappedTwice.isSome = true := by decide +kernel

def plainBody : JsonObject := [("model", .str "llama")]

def cappedBody : JsonObject := [("model", .str "llama"), ("max_tokens", .int 16)]

theorem payload_fidelity_cappedTwice :
    (∀ task ∈ (cappedTwice.get cappedTwice_runs).tasks,
      Faithful smallPlatform cappedConfig task) ∧
    (cappedTwice.get cappedTwice_runs).tasks.map (fun task => sentPayloads task.trace) =
      [[("llama", cappedBody), ("llama", cappedBody)]] ∧
    Agrees [plainBody] (.ok cappedBody) (.ok 1, [plainBody, cappedBody]) ∧
    checkRequestShape cappedConfig.admissionControl "research" "llama" .chatCompletions 40
      cappedBody = (.ok cappedBody, []) := by
  have hcheck := (@payload_fidelity smallPlatform cappedConfig).2 cappedConfig.admissionControl
    "research" "llama" .chatCompletions 40
  exact ⟨payload_fidelity.1 _ (exec_get_reachable cappedTwice_runs), rfl,
    hcheck.1 [plainBody] 0 plainBody rfl, hcheck.2 plainBody cappedBody rfl⟩

end VllmSourceGateway.PayloadFidelity
