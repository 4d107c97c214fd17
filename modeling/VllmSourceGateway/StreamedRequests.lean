import VllmSourceGateway.ParserInvariant
import VllmSourceGateway.RequestProgress

set_option autoImplicit false

/-! The streams of the running gateway. Each is a run of the generator on what its own
request was given, whatever else goes on, so what every run of the generator keeps is kept
by every stream. -/
namespace VllmSourceGateway.StreamedRequests
open PyText PyValues UsageExtractors Metrics Config AdmissionControl Routing GatewayEffects
open SseParser StreamBytes StreamBytesRuns StreamBytesOutcomes ParserInvariant
open ProxyEndpoint RequestSegments GatewaySystem RequestedModel RequestProgress TransitionRuns

/-! ## What a request's generator is given and gives -/

def streamInput? : Input → Option StreamInput
  | .stream input => some input
  | _ => none

def handedOn : Point → List Chunk
  | .streaming _ point => deliveredChunk point
  | _ => []

def streamInputs (task : Task) : List StreamInput :=
  task.steps.filterMap fun taken => streamInput? taken.2

def receivedOf (task : Task) : List Chunk := (streamInputs task).flatMap receivedChunk

def deliveredOf (task : Task) : List Chunk :=
  (task.steps.flatMap fun taken => handedOn taken.1) ++ handedOn task.point

section
variable {task : Task} {input : Input} {effects : List Effect} {point : Point}

theorem streamInputs_continue : streamInputs (task.continue input effects point) =
    streamInputs task ++ (streamInput? input).toList := by
  simp only [streamInputs, Task.continue, List.filterMap_append, List.filterMap_cons,
    List.filterMap_nil]
  cases streamInput? input <;> rfl

theorem deliveredOf_continue : deliveredOf (task.continue input effects point) =
    deliveredOf task ++ handedOn point := by
  simp only [deliveredOf, Task.continue, List.flatMap_append, List.flatMap_cons, List.flatMap_nil,
    List.append_nil]

end

/-- The stream of a request, for the model that its body names, is a run of the generator; the
calls before it has opened count no tokens. -/
structure StreamOf (P : Platform) (config : AppConfig) (task : Task) (ctx : StreamContext)
    (before : List Effect) (r : StreamRun) : Prop where
  run : Reachable (StreamRun.step P.loads config.server.maxSseDecodeBufferBytes ctx) .start r
  inputs : r.inputs = streamInputs task
  received : r.received = receivedOf task
  delivered : r.delivered = deliveredOf task
  trace : task.trace = before ++ r.effects
  uncounted : ∀ effect ∈ before, countsTokens effect = false
  department : ctx.department = task.request.department
  endpoint : ctx.endpoint = task.request.endpoint
  model : Requests P config task ctx.modelName

def StreamKept (P : Platform) (config : AppConfig) (task : Task) : Prop :=
  match task.point with
  | .awaitBody | .awaitSend _ | .awaitPost _ =>
    streamInputs task = [] ∧ deliveredOf task = [] ∧
      ∀ effect ∈ task.trace, countsTokens effect = false
  | .streaming ctx point => ∃ before r, StreamOf P config task ctx before r ∧ r.point = point
  | .finished _ => True

section
variable {P : Platform} {config : AppConfig} {request : ProxyRequest} {g : Gateway} {now : ℚ}

def beforeAnswer : Point → Bool
  | .awaitBody | .awaitSend _ | .awaitPost _ => true
  | _ => false

theorem streamInput_none {point : Point} {input : Input} (hpoint : beforeAnswer point = true)
    (hanswer : answers point input = true) : streamInput? input = none := by
  cases point with
  | streaming | finished => cases hpoint
  | _ => cases input <;> first | rfl | cases hanswer

theorem noteUpstreamStatus_uncounted (modelName : String) (statusCode : ℕ) :
    ∀ effect ∈ noteUpstreamStatus request modelName statusCode, countsTokens effect = false := by
  unfold noteUpstreamStatus
  split <;> split <;> simp [countsTokens]

/-- What a resumption does to the streams: it goes on before the answer of an upstream
without counting tokens, opens a stream, takes one further, or ends the request. -/
inductive Streams (P : Platform) (config : AppConfig) (request : ProxyRequest) :
    Point → Input → List Effect → Point → Prop where
  | waiting {point point' : Point} {input : Input} {effects : List Effect}
      (hpoint : beforeAnswer point = true) (hpoint' : beforeAnswer point' = true)
      (huncounted : ∀ effect ∈ effects, countsTokens effect = false) :
      Streams P config request point input effects point'
  | opened {point : Point} {input : Input} {effects : List Effect} {ctx : StreamContext}
      (hpoint : beforeAnswer point = true)
      (huncounted : ∀ effect ∈ effects, countsTokens effect = false)
      (hdepartment : ctx.department = request.department)
      (hendpoint : ctx.endpoint = request.endpoint) :
      Streams P config request point input effects (.streaming ctx .created)
  | resumed {ctx : StreamContext} {point point' : StreamPoint} {input : StreamInput}
      {effects : List Effect}
      (hresume : resume P.loads ctx.endpoint.extractUsage config.server.maxSseDecodeBufferBytes ctx
        point input = some (effects, point')) :
      Streams P config request (.streaming ctx point) (.stream input) effects
        (.streaming ctx point')
  | ended {point : Point} {input : Input} {effects : List Effect} {outcome : Outcome} :
      Streams P config request point input effects (.finished outcome)

theorem segment_streams {point point' : Point} {input : Input} {effects : List Effect}
    (h : Segment P config request g now point input effects point') :
    Streams P config request point input effects point' := by
  cases h with
  | rejected | misshapen | refused | unroutable | exhausted | failed | broken | cancelled
  | unbuildable | answered => exact .ended
  | @started input bodySize payload flight point _ _ _ _ hpoint =>
    have huncounted : ∀ effect ∈ admission request flight.modelName bodySize payload
        flight.payload (.ok flight.lease) ++ selectAndContact request [] flight,
          countsTokens effect = false := by
      simp [admission, selectAndContact, contactUpstream, countsTokens]
    rcases hpoint with rfl | rfl <;> exact .waiting rfl rfl huncounted
  | @retried point point' flight flight' e _ _ _ hpoint =>
    have huncounted : ∀ effect ∈ endAttempt request flight.modelName (.error (.httpx e)) ++
        selectAndContact request flight.attemptedUpstreamNames flight',
          countsTokens effect = false := by
      simp [endAttempt, selectAndContact, contactUpstream, countsTokens]
    rcases hpoint with ⟨rfl, rfl⟩ | ⟨rfl, rfl⟩ <;> exact .waiting rfl rfl huncounted
  | opened =>
    exact .opened rfl
      (List.forall_mem_cons.mpr ⟨rfl, noteUpstreamStatus_uncounted _ _⟩) rfl rfl
  | streamed hresume => exact .resumed hresume

theorem streamKept_before {task : Task} (hpoint : beforeAnswer task.point = true) :
    StreamKept P config task ↔ streamInputs task = [] ∧ deliveredOf task = [] ∧
      ∀ effect ∈ task.trace, countsTokens effect = false := by
  unfold StreamKept
  split
  · exact Iff.rfl
  · exact Iff.rfl
  · exact Iff.rfl
  · rename_i hstreaming
    rw [hstreaming] at hpoint
    cases hpoint
  · rename_i hfinished
    rw [hfinished] at hpoint
    cases hpoint

/-- The step of a run of the generator that a resumption is. -/
theorem StreamOf.resumed {task : Task} {ctx : StreamContext} {before : List Effect} {r : StreamRun}
    {point : StreamPoint} {input : StreamInput} {effects : List Effect}
    (h : StreamOf P config task ctx before r)
    (hresume : resume P.loads ctx.endpoint.extractUsage config.server.maxSseDecodeBufferBytes ctx
      r.point input = some (effects, point)) :
    StreamOf P config (task.continue (.stream input) effects (.streaming ctx point)) ctx before
      ⟨point, r.inputs ++ [input], r.received ++ receivedChunk input,
        r.delivered ++ deliveredChunk point, r.effects ++ effects⟩ where
  run := by
    apply h.run.next
    rw [StreamRun.step, hresume]
  inputs := by
    rw [streamInputs_continue, h.inputs]
    rfl
  received := by
    rw [receivedOf, streamInputs_continue, List.flatMap_append, h.received, receivedOf]
    simp only [streamInput?, Option.toList_some, List.flatMap_cons, List.flatMap_nil,
      List.append_nil]
  delivered := by
    rw [deliveredOf_continue, h.delivered]
    rfl
  trace := by
    rw [Task.continue, h.trace, List.append_assoc]
  uncounted := h.uncounted
  department := h.department
  endpoint := h.endpoint
  model := h.model.continue (.stream input) effects (.streaming ctx point)

theorem streamKept_continue {task : Task} {input : Input} {effects : List Effect} {point : Point}
    (h : StreamKept P config task)
    (hstreams : Streams P config task.request task.point input effects point)
    (hanswer : answers task.point input = true)
    (habout : About P config (task.continue input effects point)) :
    StreamKept P config (task.continue input effects point) := by
  generalize hat : task.point = at_ at hstreams hanswer
  cases hstreams with
  | waiting hpoint hpoint' huncounted =>
    obtain ⟨hinputs, hdelivered, htrace⟩ := (streamKept_before (by rwa [hat])).mp h
    refine (streamKept_before hpoint').mpr ⟨?_, ?_, List.forall_mem_append.mpr ⟨htrace, huncounted⟩⟩
    · rw [streamInputs_continue, hinputs, streamInput_none hpoint hanswer]
      rfl
    · rw [deliveredOf_continue, hdelivered]
      cases point with
      | streaming => cases hpoint'
      | _ => rfl
  | @opened _ _ _ ctx hpoint huncounted hdepartment hendpoint =>
    obtain ⟨hinputs, hdelivered, htrace⟩ := (streamKept_before (by rwa [hat])).mp h
    have hnone : streamInputs (task.continue input effects (.streaming ctx .created)) = [] := by
      rw [streamInputs_continue, hinputs, streamInput_none hpoint hanswer]
      rfl
    refine ⟨task.trace ++ effects, .start, ?_, rfl⟩
    exact {
      run := .refl
      inputs := hnone.symm
      received := by
        rw [receivedOf, hnone]
        rfl
      delivered := by
        rw [deliveredOf_continue, hdelivered]
        rfl
      trace := (List.append_nil _).symm
      uncounted := List.forall_mem_append.mpr ⟨htrace, huncounted⟩
      department := hdepartment
      endpoint := hendpoint
      model := habout.point rfl }
  | resumed hresume =>
    unfold StreamKept at h
    rw [hat] at h
    obtain ⟨before, r, hof, rfl⟩ := h
    exact ⟨before, _, hof.resumed hresume, rfl⟩
  | ended => trivial

theorem streams_kept {s : System} (h : Reachable (step P config) (initial config) s) :
    ∀ task ∈ s.tasks, StreamKept P config task := by
  obtain ⟨vs, run⟩ := h
  refine run_task_advance (fun _ _ => True) (StreamKept P config) ?_ ?_ run fun _ _ => trivial
  · intro request
    unfold StreamKept
    obtain hpoint | ⟨e, hpoint⟩ := RequestEmissions.startRequest_point config request
    · rw [Task.start, hpoint, startRequest_effects]
      exact ⟨rfl, rfl, by simp [countsTokens]⟩
    · rw [Task.start, hpoint]
      trivial
  · intro s i task now input effects point hreach hget _ hinv hadvance
    have hanswer := congrArg Option.isSome hadvance
    rw [advance_answers] at hanswer
    have habout := requests_about hreach task (List.mem_of_getElem? hget)
    exact streamKept_continue hinv (segment_streams (advance_segment hadvance)) hanswer
      (habout.advance (pools_kept hreach) hadvance)

end

/-! ## What every run of the generator keeps -/

section
variable {loads : Text → Except LoadsError Json} {maxSseDecodeBufferBytes : ℕ}
  {ctx : StreamContext} {r : StreamRun}

def HeldAt : StreamPoint → List Chunk → Prop
  | .created, held | .awaitChunk _, held | .yielded _ _, held => held = []
  | .awaitDisconnect _ chunk, held => held = [chunk]
  | .awaitClose _, held | .finished _, held => held.length ≤ 1

theorem HeldAt.few {point : StreamPoint} {held : List Chunk} (h : HeldAt point held) :
    held.length ≤ 1 := by
  cases point with
  | created | awaitChunk | yielded =>
    rw [show held = [] from h]
    exact Nat.zero_le _
  | awaitDisconnect _ chunk =>
    rw [show held = [chunk] from h]
    exact le_rfl
  | awaitClose | finished => exact h

theorem resume_held {point point' : StreamPoint} {input : StreamInput} {effects : List Effect}
    {extract : UsageExtractor} {held : List Chunk}
    (h : resume loads extract maxSseDecodeBufferBytes ctx point input = some (effects, point'))
    (hheld : HeldAt point held) : ∃ held', HeldAt point' held' ∧
      held ++ receivedChunk input = deliveredChunk point' ++ held' := by
  have hfew := hheld.few
  cases point with
  | awaitDisconnect locals chunk =>
    cases input with
    | disconnected isDisconnected =>
      cases isDisconnected with
      | true =>
        cases h
        exact ⟨held, hfew, by simp [receivedChunk, deliveredChunk]⟩
      | false =>
        simp only [resume, handleChunk, Option.some.injEq] at h
        split at h
        · cases h
          exact ⟨held, hfew, by simp [receivedChunk, deliveredChunk]⟩
        · cases h
          refine ⟨[], rfl, ?_⟩
          rw [show held = [chunk] from hheld]
          rfl
    | raised e =>
      cases h
      exact ⟨held, hfew, by simp [receivedChunk, deliveredChunk]⟩
    | _ => cases h
  | awaitChunk locals =>
    rw [show held = [] from hheld]
    cases input with
    | chunk chunk =>
      cases h
      exact ⟨[chunk], rfl, rfl⟩
    | streamEnd | raised =>
      cases h
      exact ⟨[], Nat.zero_le _, rfl⟩
    | _ => cases h
  | created | yielded =>
    rw [show held = [] from hheld]
    cases input <;> cases h
    · exact ⟨[], rfl, rfl⟩
    · exact ⟨[], Nat.zero_le _, rfl⟩
  | awaitClose exit =>
    cases input <;> cases h <;> exact ⟨held, hfew, by simp [receivedChunk, deliveredChunk]⟩
  | finished => cases input <;> cases h

/-- In every run what is delivered is what has been received, but for one chunk at most. -/
theorem run_held (h : Reachable (StreamRun.step loads maxSseDecodeBufferBytes ctx) .start r) :
    ∃ held, HeldAt r.point held ∧ r.received = r.delivered ++ held := by
  refine h.invariant (fun r => ∃ held, HeldAt r.point held ∧ r.received = r.delivered ++ held)
    ?_ ?_
  · exact ⟨[], rfl, rfl⟩
  rintro r input r' _ ⟨held, hheld, hreceived⟩ hstep
  unfold StreamRun.step at hstep
  split at hstep
  · cases hstep
  · rename_i effects point hresume
    cases hstep
    obtain ⟨held', hheld', heq⟩ := resume_held hresume hheld
    refine ⟨held', hheld', ?_⟩
    dsimp only
    rw [hreceived, List.append_assoc, heq, List.append_assoc]

/-- In every run the parser keeps to its limit. -/
theorem run_sound (h : Reachable (StreamRun.step loads maxSseDecodeBufferBytes ctx) .start r) :
    ∀ parse ∈ parserOf r.point, Sound maxSseDecodeBufferBytes parse := by
  refine h.invariant (fun r => ∀ parse ∈ parserOf r.point, Sound maxSseDecodeBufferBytes parse)
    (by simp [parserOf, StreamRun.start]) ?_
  intro r input r' _ hinv hstep
  unfold StreamRun.step at hstep
  split at hstep
  · cases hstep
  · rename_i effects point hresume
    cases hstep
    obtain ⟨outcome, rfl⟩ | ⟨parse, hparse, hparses⟩ := resume_parses hresume
    · simp [parserOf]
    · intro other hother
      rw [hparse] at hother
      cases hother
      exact hparses.sound hinv

theorem received_of_streamEnd (h : RunInv loads maxSseDecodeBufferBytes ctx r)
    (hended : .streamEnd ∈ r.inputs) : r.received = r.delivered := by
  have hloop {parse : ParseState} {pending : Option Chunk}
      (hin : InLoop loads maxSseDecodeBufferBytes ctx r parse pending) : False := by
    cases hin.inputs _ hended
  have hleft {s : StreamRun} {cause : Cause} {parse : ParseState}
      (left : Left loads maxSseDecodeBufferBytes ctx s cause parse)
      (hmem : .streamEnd ∈ s.inputs) : s.received = s.delivered := by
    have hcause := (left_mem_inputs left rfl).mp hmem
    cases cause with
    | streamEnd => exact left.complete
    | _ => cases hcause
  unfold RunInv at h
  split at h
  · rw [h]
    rfl
  · exact (hloop h).elim
  · exact (hloop h).elim
  · exact (hloop h).elim
  · obtain ⟨cause, parse, left, _⟩ := h
    exact hleft left hended
  · cases h with
    | unstarted _ hreceived hdelivered => rw [hreceived, hdelivered]
    | completed left hinputs hreceived hdelivered =>
      rw [hreceived, hdelivered]
      apply hleft left
      rw [hinputs] at hended
      simpa using hended
    | closeRaised left hinputs hreceived hdelivered =>
      rw [hreceived, hdelivered]
      apply hleft left
      rw [hinputs] at hended
      simpa using hended

theorem not_charge_of_increment {event : ℤ → MetricEvent} {amount tokens : ℤ}
    {department modelName : String} :
    Effect.recordTokens department modelName tokens ∉ increment event amount := by
  unfold increment
  split <;> simp

/-- The `finally` block charges the usage that the parser has, of a success. -/
theorem finallyBlock_charge {exit : Exit} {department modelName : String} {tokens : ℤ}
    (h : .recordTokens department modelName tokens ∈ (finallyBlock ctx exit).1) :
    (department, modelName) = (ctx.department, ctx.modelName) ∧
      (200 ≤ ctx.statusCode ∧ ctx.statusCode < 300) ∧
      ∃ usage, exit.parse.latestUsage = some usage ∧
        tokens = usage.1.value + usage.2.value := by
  unfold finallyBlock at h
  dsimp only at h
  split at h
  · simp [recordTokenAccounting] at h
  · split at h
    · simp [recordTokenAccounting] at h
    · split at h
      · simp [recordTokenAccounting] at h
      · have hmem : .recordTokens department modelName tokens ∈ (accountUsage ctx.counterAccepts
            ctx.department ctx.modelName ctx.endpoint ctx.statusCode exit.parse.latestUsage).1 := by
          simpa using h
        generalize exit.parse.latestUsage = latest at hmem ⊢
        have haccounted := accountUsage_cases ctx.counterAccepts ctx.department ctx.modelName
          ctx.endpoint ctx.statusCode latest
        generalize accountUsage ctx.counterAccepts ctx.department ctx.modelName ctx.endpoint
          ctx.statusCode latest = accounting at hmem haccounted
        obtain ⟨effects, raised⟩ := accounting
        dsimp only at hmem haccounted
        cases haccounted with
        | missing => simp [recordTokenAccounting] at hmem
        | promptRefused => cases hmem
        | generationRefused => exact absurd hmem not_charge_of_increment
        | recorded hsuccess =>
          simp only [List.mem_append, not_charge_of_increment, false_or, recordTokenAccounting,
            List.mem_cons, List.not_mem_nil, or_false, reduceCtorEq, Effect.recordTokens.injEq]
            at hmem
          obtain ⟨rfl, rfl, rfl⟩ := hmem
          exact ⟨rfl, hsuccess, _, rfl, rfl⟩

/-- What a run charges, it charges after the stream has been closed, for usage that the
parser has read in the delivered chunks. -/
theorem run_charge (h : RunInv loads maxSseDecodeBufferBytes ctx r) {department modelName : String}
    {tokens : ℤ} (hcharge : .recordTokens department modelName tokens ∈ r.effects) :
    (department, modelName) = (ctx.department, ctx.modelName) ∧
      (200 ≤ ctx.statusCode ∧ ctx.statusCode < 300) ∧ .closed ∈ r.inputs ∧
      ∃ parse usage, parseOf loads maxSseDecodeBufferBytes ctx r.delivered = .ok parse ∧
        (parse.latestUsage = some usage ∨ (afterLoop loads ctx.endpoint.extractUsage
          maxSseDecodeBufferBytes parse).parse.latestUsage = some usage) ∧
        tokens = usage.1.value + usage.2.value := by
  have hquiet {effects : List Effect} (hquiet : ∀ effect ∈ effects, effect = firstChunkEffect ctx) :
      .recordTokens department modelName tokens ∉ effects := by
    intro hmem
    cases hquiet _ hmem
  unfold RunInv at h
  split at h
  · rw [h] at hcharge
    cases hcharge
  · exact absurd hcharge (hquiet h.quiet)
  · exact absurd hcharge (hquiet h.quiet)
  · exact absurd hcharge (hquiet h.quiet)
  · obtain ⟨_, _, left, _⟩ := h
    exact absurd hcharge (hquiet left.quiet)
  · cases h with
    | unstarted _ _ _ heffects =>
      rw [heffects] at hcharge
      cases hcharge
    | closeRaised left _ _ _ heffects =>
      rw [heffects] at hcharge
      exact absurd hcharge (hquiet left.quiet)
    | @completed s cause parse left hinputs hreceived hdelivered heffects =>
      rw [heffects] at hcharge
      have hblock := (List.mem_append.mp hcharge).resolve_left (hquiet left.quiet)
      obtain ⟨hpair, hsuccess, usage, husage, htokens⟩ := finallyBlock_charge hblock
      refine ⟨hpair, hsuccess, ?_, parse, usage, ?_, ?_, htokens⟩
      · rw [hinputs]
        exact List.mem_append_right _ (List.mem_singleton_self _)
      · rw [hdelivered]
        exact left.parsed
      · cases cause with
        | streamEnd => exact .inr husage
        | disconnected | raised | unparsable | closed => exact .inl husage

end

/-! ## The streams of the running gateway -/

section
variable {P : Platform} {config : AppConfig} {s : System}

/-- Streams are delivered faithfully and within bounds, whatever else goes on. In every
reachable state each stream is a run of the generator on its own request's inputs; its
client has been handed what the upstream has sent, chunk by chunk and in order, but for one
chunk at most, and all of it once the upstream has ended; the text kept for usage parsing is
within the limit; and its tokens are charged only after it has been closed, for a success,
to its own pair, with the usage that was read in the chunks its client was handed. -/
theorem streams_delivered (h : Reachable (step P config) (initial config) s) {task : Task}
    (htask : task ∈ s.tasks) {ctx : StreamContext} {point : StreamPoint}
    (hpoint : task.point = .streaming ctx point) :
    (∃ before r, StreamOf P config task ctx before r ∧ r.point = point) ∧
    (∃ held, receivedOf task = deliveredOf task ++ held ∧ HeldAt point held ∧ held.length ≤ 1) ∧
    (.streamEnd ∈ streamInputs task → receivedOf task = deliveredOf task) ∧
    (∀ parse ∈ parserOf point, Bounded config.server.maxSseDecodeBufferBytes parse) ∧
    ∀ department modelName tokens, .recordTokens department modelName tokens ∈ task.trace →
      department = task.request.department ∧ Requests P config task modelName ∧
      (200 ≤ ctx.statusCode ∧ ctx.statusCode < 300) ∧ .closed ∈ streamInputs task ∧
      ∃ parse usage,
        parseOf P.loads config.server.maxSseDecodeBufferBytes ctx (deliveredOf task) = .ok parse ∧
        (parse.latestUsage = some usage ∨ (afterLoop P.loads ctx.endpoint.extractUsage
          config.server.maxSseDecodeBufferBytes parse).parse.latestUsage = some usage) ∧
        tokens = usage.1.value + usage.2.value := by
  have hkept := streams_kept h task htask
  unfold StreamKept at hkept
  rw [hpoint] at hkept
  obtain ⟨before, r, hof, rfl⟩ := hkept
  have hinv := runInv_of_reachable hof.run
  obtain ⟨held, hheld, hreceived⟩ := run_held hof.run
  refine ⟨⟨before, r, hof, rfl⟩, ⟨held, ?_, hheld, hheld.few⟩, ?_, ?_, ?_⟩
  · rw [← hof.received, ← hof.delivered]
    exact hreceived
  · intro hended
    rw [← hof.inputs] at hended
    rw [← hof.received, ← hof.delivered]
    exact received_of_streamEnd hinv hended
  · intro parse hparse
    exact (run_sound hof.run parse hparse).1
  · intro department modelName tokens hcharge
    rw [hof.trace] at hcharge
    have hcharged := (List.mem_append.mp hcharge).resolve_left
      fun hmem => by cases hof.uncounted _ hmem
    obtain ⟨hpair, hsuccess, hclosed, hparsed⟩ := run_charge hinv hcharged
    obtain ⟨rfl, rfl⟩ := Prod.mk.inj hpair
    rw [← hof.inputs, ← hof.delivered]
    exact ⟨hof.department, hof.model, hsuccess, hclosed, hparsed⟩

end

/-! A stream that is open while another request comes and goes. -/

def sseChunk : Chunk := asciiBytes "data: x\n\n".toList

def interleaved : List Event :=
  [.arrive smallRequest 0, .resume 0 (.body streamBody) 1, .resume 0 (.opened 200 []) 2,
    .resume 0 (.stream .next) 3, .arrive smallRequest 4, .resume 0 (.stream (.chunk sseChunk)) 5,
    .resume 1 (.body postBody) 6, .resume 0 (.stream (.disconnected false)) 7,
    .resume 0 (.stream .next) 8, .resume 1 (.response 200 [] usageBody) 9,
    .resume 0 (.stream (.chunk sseChunk)) 10]

theorem interleaved_runs : (smallRun interleaved).isSome = true := by decide +kernel

def isStreaming : Point → Bool
  | .streaming _ _ => true
  | _ => false

theorem streams_delivered_interleaved :
    ∃ task ∈ ((smallRun interleaved).get interleaved_runs).tasks, ∃ held,
      [sseChunk, sseChunk] = deliveredOf task ++ held ∧ held.length ≤ 1 := by
  obtain ⟨task, htask, hstreaming, hreceived⟩ :
      ∃ task ∈ ((smallRun interleaved).get interleaved_runs).tasks,
        isStreaming task.point = true ∧ receivedOf task = [sseChunk, sseChunk] := by
    decide +kernel
  obtain ⟨ctx, point, hpoint⟩ : ∃ ctx point, task.point = .streaming ctx point := by
    cases hat : task.point with
    | streaming ctx point => exact ⟨ctx, point, rfl⟩
    | _ =>
      rw [hat] at hstreaming
      cases hstreaming
  obtain ⟨_, ⟨held, hheld, _, hfew⟩, _⟩ :=
    streams_delivered (exec_get_reachable interleaved_runs) htask hpoint
  rw [hreceived] at hheld
  exact ⟨task, htask, held, hheld, hfew⟩

end VllmSourceGateway.StreamedRequests
