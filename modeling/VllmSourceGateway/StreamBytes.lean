import VllmSourceGateway.GatewayEffects
import VllmSourceGateway.SseParser

set_option autoImplicit false

/-! The streaming body generator `_stream_bytes` as a step function: it is
suspended at an await, at a `yield` or before its first statement, and an input
takes it to its next suspension. -/
namespace VllmSourceGateway.StreamBytes
open PyText PyValues UsageExtractors Metrics AdmissionControl GatewayEffects SseParser

def recordTokenAccounting (department modelName : String) (endpoint : Endpoint)
    (status : AccountingStatus) : List Effect :=
  [.metric (.tokenAccounting endpoint status),
    .metric (.modelTokenAccounting department modelName endpoint status)]

/-- What `_record_usage` emits, and the usage it returns unless a counter raises. -/
def recordUsage (accepts : ℤ → Bool) (department modelName : String) (endpoint : Endpoint)
    (upstreamStatusCode : ℕ) (usage : Option Usage) : List Effect × Except Exn (Option Usage) :=
  if 200 ≤ upstreamStatusCode ∧ upstreamStatusCode < 300 then
    match usage with
    | none => (recordTokenAccounting department modelName endpoint .missingUsage, .ok none)
    | some (promptTokens, generationTokens) =>
      match recordPromptTokens accepts department modelName promptTokens.value with
      | .error e => ([], .error e)
      | .ok prompt =>
        match recordGenerationTokens accepts department modelName generationTokens.value with
        | .error e => (prompt.map Effect.metric, .error e)
        | .ok generation =>
          (prompt.map Effect.metric ++ generation.map Effect.metric ++
              recordTokenAccounting department modelName endpoint .recorded,
            .ok (some (promptTokens, generationTokens)))
  else (recordTokenAccounting department modelName endpoint .missingUsage, .ok none)

/-- `record_tokens` of `sum(recorded_usage)`, when there is one. -/
def chargeUsage (department modelName : String) (usage : Option Usage) : List Effect :=
  match usage with
  | none => []
  | some (promptTokens, generationTokens) =>
    [.recordTokens department modelName (promptTokens.value + generationTokens.value)]

/-- `_record_usage` and then the charge, and what came out of a counter, as in
both response paths. -/
def accountUsage (accepts : ℤ → Bool) (department modelName : String) (endpoint : Endpoint)
    (upstreamStatusCode : ℕ) (usage : Option Usage) : List Effect × Option Exn :=
  match recordUsage accepts department modelName endpoint upstreamStatusCode usage with
  | (recording, .error e) => (recording, some e)
  | (recording, .ok recordedUsage) =>
    (recording ++ chargeUsage department modelName recordedUsage, none)

def UsageTaken (accepts : ℤ → Bool) (upstreamStatusCode : ℕ) (usage : Option Usage) : Prop :=
  200 ≤ upstreamStatusCode ∧ upstreamStatusCode < 300 →
    ∀ pair ∈ usage, takes accepts pair.1.value = true ∧ takes accepts pair.2.value = true

def increment (event : ℤ → MetricEvent) (amount : ℤ) : List Effect :=
  if 0 < amount then [.metric (event amount)] else []

section
variable (accepts : ℤ → Bool) (department modelName : String) (endpoint : Endpoint)
  (upstreamStatusCode : ℕ)

/-- Everything that the accounting can do: note that there is no usage, stop at
the first counter that does not take its amount, or record and charge it all. -/
inductive Accounted : Option Usage → List Effect → Option Exn → Prop where
  | missing {usage : Option Usage}
      (hmissing : 200 ≤ upstreamStatusCode ∧ upstreamStatusCode < 300 → usage = none) :
      Accounted usage (recordTokenAccounting department modelName endpoint .missingUsage) none
  | promptRefused {promptTokens generationTokens : PyInt}
      (hsuccess : 200 ≤ upstreamStatusCode ∧ upstreamStatusCode < 300)
      (hprompt : takes accepts promptTokens.value = false) :
      Accounted (some (promptTokens, generationTokens)) [] (some .other)
  | generationRefused {promptTokens generationTokens : PyInt}
      (hsuccess : 200 ≤ upstreamStatusCode ∧ upstreamStatusCode < 300)
      (hprompt : takes accepts promptTokens.value = true)
      (hgeneration : takes accepts generationTokens.value = false) :
      Accounted (some (promptTokens, generationTokens))
        (increment (.promptTokens department modelName) promptTokens.value) (some .other)
  | recorded {promptTokens generationTokens : PyInt}
      (hsuccess : 200 ≤ upstreamStatusCode ∧ upstreamStatusCode < 300)
      (hprompt : takes accepts promptTokens.value = true)
      (hgeneration : takes accepts generationTokens.value = true) :
      Accounted (some (promptTokens, generationTokens))
        (increment (.promptTokens department modelName) promptTokens.value ++
          increment (.generationTokens department modelName) generationTokens.value ++
          recordTokenAccounting department modelName endpoint .recorded ++
          [.recordTokens department modelName (promptTokens.value + generationTokens.value)])
        none

variable {accepts department modelName endpoint upstreamStatusCode}

theorem recordPromptTokens_cases (accepts : ℤ → Bool) (department modelName : String)
    (amount : ℤ) :
    takes accepts amount = false ∧
        recordPromptTokens accepts department modelName amount = .error .other ∨
      takes accepts amount = true ∧ ∃ events,
        recordPromptTokens accepts department modelName amount = .ok events ∧
          events.map Effect.metric = increment (.promptTokens department modelName) amount := by
  simp only [recordPromptTokens, takes, increment, ← not_le]
  split_ifs <;> simp_all

theorem recordGenerationTokens_cases (accepts : ℤ → Bool) (department modelName : String)
    (amount : ℤ) :
    takes accepts amount = false ∧
        recordGenerationTokens accepts department modelName amount = .error .other ∨
      takes accepts amount = true ∧ ∃ events,
        recordGenerationTokens accepts department modelName amount = .ok events ∧
          events.map Effect.metric = increment (.generationTokens department modelName) amount := by
  simp only [recordGenerationTokens, takes, increment, ← not_le]
  split_ifs <;> simp_all

theorem accountUsage_cases (accepts : ℤ → Bool) (department modelName : String)
    (endpoint : Endpoint) (upstreamStatusCode : ℕ) (usage : Option Usage) :
    let accounted := accountUsage accepts department modelName endpoint upstreamStatusCode usage
    Accounted accepts department modelName endpoint upstreamStatusCode usage accounted.1
      accounted.2 := by
  intro accounted
  by_cases hsuccess : 200 ≤ upstreamStatusCode ∧ upstreamStatusCode < 300
  · cases usage with
    | none =>
      simp only [accounted, accountUsage, recordUsage, hsuccess, and_self, if_true, chargeUsage,
        List.append_nil]
      exact .missing fun _ => rfl
    | some pair =>
      obtain ⟨promptTokens, generationTokens⟩ := pair
      simp only [accounted, accountUsage, recordUsage, hsuccess, and_self, if_true]
      obtain ⟨hprompt, heq⟩ | ⟨hprompt, events, heq, hevents⟩ :=
        recordPromptTokens_cases accepts department modelName promptTokens.value
      · simp only [heq]
        exact .promptRefused hsuccess hprompt
      · obtain ⟨hgeneration, heq'⟩ | ⟨hgeneration, events', heq', hevents'⟩ :=
          recordGenerationTokens_cases accepts department modelName generationTokens.value
        · simp only [heq, heq', hevents]
          exact .generationRefused hsuccess hprompt hgeneration
        · simp only [heq, heq', hevents, hevents', chargeUsage]
          exact .recorded hsuccess hprompt hgeneration
  · simp only [accounted, accountUsage, recordUsage, hsuccess, if_false, chargeUsage,
      List.append_nil]
    exact .missing fun h => absurd h hsuccess

theorem Accounted.quiet_iff {usage : Option Usage} {effects : List Effect} {raised : Option Exn}
    (h : Accounted accepts department modelName endpoint upstreamStatusCode usage effects raised) :
    raised = none ↔ UsageTaken accepts upstreamStatusCode usage := by
  cases h with
  | missing hmissing =>
    simp only [UsageTaken, true_iff]
    intro hsuccess pair hpair
    rw [hmissing hsuccess] at hpair
    cases hpair
  | promptRefused hsuccess hprompt => simp [UsageTaken, hsuccess, hprompt]
  | generationRefused hsuccess hprompt hgeneration => simp [UsageTaken, hsuccess, hgeneration]
  | recorded hsuccess hprompt hgeneration => simp [UsageTaken, hprompt, hgeneration]

inductive AccountingCall (department modelName : String) (endpoint : Endpoint) : Effect → Prop where
  | promptTokens (amount : ℤ) :
      AccountingCall department modelName endpoint (.metric (.promptTokens department modelName amount))
  | generationTokens (amount : ℤ) : AccountingCall department modelName endpoint
      (.metric (.generationTokens department modelName amount))
  | tokenAccounting (status : AccountingStatus) :
      AccountingCall department modelName endpoint (.metric (.tokenAccounting endpoint status))
  | modelTokenAccounting (status : AccountingStatus) : AccountingCall department modelName endpoint
      (.metric (.modelTokenAccounting department modelName endpoint status))
  | recordTokens (tokens : ℤ) :
      AccountingCall department modelName endpoint (.recordTokens department modelName tokens)

theorem recordTokenAccounting_calls (status : AccountingStatus) :
    ∀ effect ∈ recordTokenAccounting department modelName endpoint status,
      AccountingCall department modelName endpoint effect := by
  simp only [recordTokenAccounting, List.forall_mem_cons, List.not_mem_nil, false_implies,
    implies_true, and_true]
  exact ⟨.tokenAccounting status, .modelTokenAccounting status⟩

theorem increment_calls {event : ℤ → MetricEvent} (amount : ℤ)
    (h : ∀ amount, AccountingCall department modelName endpoint (.metric (event amount))) :
    ∀ effect ∈ increment event amount, AccountingCall department modelName endpoint effect := by
  intro effect hmem
  simp only [increment] at hmem
  split at hmem
  · rw [List.mem_singleton.mp hmem]
    exact h amount
  · cases hmem

theorem Accounted.calls {usage : Option Usage} {effects : List Effect} {raised : Option Exn}
    (h : Accounted accepts department modelName endpoint upstreamStatusCode usage effects raised) :
    ∀ effect ∈ effects, AccountingCall department modelName endpoint effect := by
  have hprompt (amount : ℤ) : ∀ effect ∈ increment (.promptTokens department modelName) amount,
      AccountingCall department modelName endpoint effect := increment_calls amount .promptTokens
  have hgeneration (amount : ℤ) :
      ∀ effect ∈ increment (.generationTokens department modelName) amount,
        AccountingCall department modelName endpoint effect :=
    increment_calls amount .generationTokens
  cases h with
  | missing => exact recordTokenAccounting_calls .missingUsage
  | promptRefused => exact List.forall_mem_nil _
  | generationRefused => exact hprompt _
  | recorded =>
    simp only [List.forall_mem_append, List.forall_mem_singleton]
    exact ⟨⟨⟨hprompt _, hgeneration _⟩, recordTokenAccounting_calls .recorded⟩, .recordTokens _⟩

theorem Accounted.raised {usage : Option Usage} {effects : List Effect} {e : Exn}
    (h : Accounted accepts department modelName endpoint upstreamStatusCode usage effects
      (some e)) : e = .other := by
  cases h <;> rfl

end

/-- What the closure captures; of its `metrics`, which amounts the token counters
take. -/
structure StreamContext where
  department : String
  modelName : String
  endpoint : Endpoint
  lease : Option AdmissionLease
  statusCode : ℕ
  counterAccepts : ℤ → Bool

structure StreamLocals where
  parse : ParseState
  firstChunkRecorded : Bool
  deriving DecidableEq

/-- The state at the top of the `finally` block. `inFlight` is the exception that
entered it; `closing` says that it was `GeneratorExit`, raised at the `yield`. -/
structure Exit where
  clientDisconnected : Bool
  streamFailed : Bool
  parse : ParseState
  inFlight : Option Exn
  closing : Bool
  deriving DecidableEq

inductive StreamOutcome where
  | exhausted
  | raised (e : Exn)
  | closed
  deriving DecidableEq

inductive StreamPoint where
  | created
  | awaitChunk (locals : StreamLocals)
  | awaitDisconnect (locals : StreamLocals) (chunk : Chunk)
  | yielded (locals : StreamLocals) (chunk : Chunk)
  | awaitClose (exit : Exit)
  | finished (outcome : StreamOutcome)
  deriving DecidableEq

/-- `next` and `close` come from the consumer, `chunk` and `streamEnd` from the
byte iterator, `disconnected` from `is_disconnected()`, `closed` from
`aclose()`; `raised` is an await that raises. -/
inductive StreamInput where
  | next
  | close
  | chunk (chunk : Chunk)
  | streamEnd
  | disconnected (isDisconnected : Bool)
  | closed
  | raised (e : Exn)
  deriving DecidableEq

/-- The two `except` clauses set a flag and re-raise. -/
def onException (e : Exn) (parse : ParseState) : Exit :=
  ⟨decide (e = .cancelled), e.isHttpxError, parse, some e, false⟩

inductive FinallyEnd where
  | returns
  | completes
  | raises (e : Exn)
  deriving DecidableEq

/-- The `finally` block after its await. -/
def finallyBlock (ctx : StreamContext) (exit : Exit) : List Effect × FinallyEnd :=
  let accounting := recordTokenAccounting ctx.department ctx.modelName ctx.endpoint
  let opening := [.exchangeClosed ctx.department ctx.modelName, .release ctx.lease]
  if exit.clientDisconnected then
    (opening ++ [.requestMetrics (.statusOverride 499),
      .requestMetrics (.failureOrigin .gateway)] ++ accounting .missingUsage, .returns)
  else if exit.streamFailed then
    (opening ++ [.requestMetrics (.statusOverride 502),
      .requestMetrics (.failureOrigin .gateway)] ++ accounting .missingUsage, .returns)
  else
    match exit.parse.accountingStatusOverride with
    | some status => (opening ++ accounting status, .returns)
    | none =>
      let (recording, raised) := accountUsage ctx.counterAccepts ctx.department ctx.modelName
        ctx.endpoint ctx.statusCode exit.parse.latestUsage
      (opening ++ recording,
        match raised with
        | none => .completes
        | some e => .raises e)

/-- A `return` in `finally` discards the exception in flight, and an exception of
the block replaces it. A generator that was being closed is closed either way. -/
def outcomeAfter (exit : Exit) : FinallyEnd → StreamOutcome
  | .raises e => .raised e
  | .returns => if exit.closing then .closed else .exhausted
  | .completes =>
    if exit.closing then .closed
    else
      match exit.inFlight with
      | none => .exhausted
      | some e => .raised e

section
variable (loads : Text → Except LoadsError Json) (extract : UsageExtractor)
  (maxSseDecodeBufferBytes : ℕ) (ctx : StreamContext)

/-- The loop body after the client was found connected. -/
def handleChunk (locals : StreamLocals) (chunk : Chunk) : List Effect × StreamPoint :=
  let isFirst := !chunk.isEmpty && !locals.firstChunkRecorded
  let effects : List Effect :=
    if isFirst then [.metric (.streamFirstChunk ctx.department ctx.modelName ctx.endpoint)] else []
  match feedChunk loads extract maxSseDecodeBufferBytes locals.parse chunk with
  | .error e => (effects, .awaitClose (onException e locals.parse))
  | .ok parse => (effects, .yielded ⟨parse, isFirst || locals.firstChunkRecorded⟩ chunk)

/-- What follows the loop when the byte iterator is exhausted. -/
def afterLoop (parse : ParseState) : Exit :=
  match flush loads extract maxSseDecodeBufferBytes parse with
  | .error e => onException e parse
  | .ok parse => ⟨false, false, parse, none, false⟩

/-- One resumption; none where the generator does not wait for such an input. -/
def resume : StreamPoint → StreamInput → Option (List Effect × StreamPoint)
  | .created, .next => some ([], .awaitChunk ⟨.initial, false⟩)
  | .created, .close => some ([], .finished .closed)
  | .awaitChunk locals, .chunk chunk => some ([], .awaitDisconnect locals chunk)
  | .awaitChunk locals, .streamEnd =>
    some ([], .awaitClose (afterLoop loads extract maxSseDecodeBufferBytes locals.parse))
  | .awaitChunk locals, .raised e => some ([], .awaitClose (onException e locals.parse))
  | .awaitDisconnect locals _, .disconnected true =>
    some ([], .awaitClose ⟨true, false, locals.parse, none, false⟩)
  | .awaitDisconnect locals chunk, .disconnected false =>
    some (handleChunk loads extract maxSseDecodeBufferBytes ctx locals chunk)
  | .awaitDisconnect locals _, .raised e => some ([], .awaitClose (onException e locals.parse))
  | .yielded locals _, .next => some ([], .awaitChunk locals)
  | .yielded locals _, .close =>
    some ([], .awaitClose ⟨false, false, locals.parse, none, true⟩)
  | .awaitClose exit, .closed =>
    let (effects, ended) := finallyBlock ctx exit
    some (effects, .finished (outcomeAfter exit ended))
  | .awaitClose _, .raised e => some ([], .finished (.raised e))
  | _, _ => none

theorem handleChunk_cases (locals : StreamLocals) (chunk : Chunk) :
    let handled := handleChunk loads extract maxSseDecodeBufferBytes ctx locals chunk
    (handled.1 = [] ∨
      handled.1 = [.metric (.streamFirstChunk ctx.department ctx.modelName ctx.endpoint)]) ∧
    ∀ outcome, handled.2 ≠ .finished outcome := by
  simp only [handleChunk]
  cases feedChunk loads extract maxSseDecodeBufferBytes locals.parse chunk with
  | error e =>
    refine ⟨?_, by simp⟩
    dsimp only
    split
    · exact .inr rfl
    · exact .inl rfl
  | ok parse =>
    refine ⟨?_, by simp⟩
    dsimp only
    split
    · exact .inr rfl
    · exact .inl rfl

/-- A resumption that goes on: at most the first chunk is noted. -/
structure GoesOn (point : StreamPoint) (input : StreamInput) (effects : List Effect)
    (point' : StreamPoint) : Prop where
  notClosed : point = .created → input = .next
  notClosing : ∀ exit, point ≠ .awaitClose exit
  effects : effects = [] ∨
    effects = [.metric (.streamFirstChunk ctx.department ctx.modelName ctx.endpoint)]
  live : ∀ outcome, point' ≠ .finished outcome

/-- The ways to finish: closed before the start, through the `finally` block, or
out of `aclose()` with an exception. -/
inductive Finishes : StreamPoint → StreamInput → List Effect → StreamOutcome → Prop where
  | unstarted : Finishes .created .close [] .closed
  | completed (exit : Exit) : Finishes (.awaitClose exit) .closed (finallyBlock ctx exit).1
      (outcomeAfter exit (finallyBlock ctx exit).2)
  | closeRaised (exit : Exit) (e : Exn) :
      Finishes (.awaitClose exit) (.raised e) [] (.raised e)

theorem resume_cases {point point' : StreamPoint} {input : StreamInput} {effects : List Effect}
    (h : resume loads extract maxSseDecodeBufferBytes ctx point input = some (effects, point')) :
    GoesOn ctx point input effects point' ∨
      ∃ outcome, point' = .finished outcome ∧ Finishes ctx point input effects outcome := by
  cases point with
  | created =>
    cases input <;> cases h
    · exact .inl ⟨fun _ => rfl, by simp, .inl rfl, by simp⟩
    · exact .inr ⟨_, rfl, .unstarted⟩
  | awaitChunk locals =>
    cases input <;> cases h <;> exact .inl ⟨by simp, by simp, .inl rfl, by simp⟩
  | awaitDisconnect locals chunk =>
    cases input with
    | disconnected isDisconnected =>
      cases isDisconnected with
      | true =>
        cases h
        exact .inl ⟨by simp, by simp, .inl rfl, by simp⟩
      | false =>
        simp only [resume, Option.some.injEq] at h
        obtain ⟨heffects, hlive⟩ :=
          handleChunk_cases loads extract maxSseDecodeBufferBytes ctx locals chunk
        rw [h] at heffects hlive
        exact .inl ⟨by simp, by simp, heffects, hlive⟩
    | raised e =>
      cases h
      exact .inl ⟨by simp, by simp, .inl rfl, by simp⟩
    | next | close | chunk | streamEnd | closed => cases h
  | yielded locals chunk =>
    cases input <;> cases h <;> exact .inl ⟨by simp, by simp, .inl rfl, by simp⟩
  | awaitClose exit =>
    cases input <;> cases h
    · exact .inr ⟨_, rfl, .completed exit⟩
    · exact .inr ⟨_, rfl, .closeRaised exit _⟩
  | finished outcome => cases input <;> cases h

end

end VllmSourceGateway.StreamBytes
