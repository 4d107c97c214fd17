import VllmSourceGateway.StreamBytesOutcomes

set_option autoImplicit false

/-! A connected client and an upstream that ends normally: which streams pass
through the generator unchanged. -/
namespace VllmSourceGateway.StreamPassThrough
open PyText PyValues UsageExtractors Metrics AdmissionControl GatewayEffects SseParser StreamBytes
open StreamBytesRuns StreamBytesOutcomes

/-- What an upstream that sends `chunks` and then ends, and a client that stays
and reads, answer to the generator. -/
def connectedInput (chunks : List Chunk) (r : StreamRun) : Option StreamInput :=
  match r.point with
  | .created | .yielded _ _ => some .next
  | .awaitChunk _ =>
    match chunks[r.received.length]? with
    | some chunk => some (.chunk chunk)
    | none => some .streamEnd
  | .awaitDisconnect _ _ => some (.disconnected false)
  | .awaitClose _ => some .closed
  | .finished _ => none

section
variable (loads : Text → Except LoadsError Json) (maxSseDecodeBufferBytes : ℕ)
  (ctx : StreamContext) (chunks : List Chunk)

def serve : ℕ → StreamRun → StreamRun
  | 0, r => r
  | fuel + 1, r =>
    match connectedInput chunks r with
    | none => r
    | some input =>
      match r.step loads maxSseDecodeBufferBytes ctx input with
      | none => r
      | some r => serve fuel r

theorem serve_step {r r' : StreamRun} {input : StreamInput}
    (hinput : connectedInput chunks r = some input)
    (hstep : r.step loads maxSseDecodeBufferBytes ctx input = some r') (fuel : ℕ) :
    serve loads maxSseDecodeBufferBytes ctx chunks (fuel + 1) r =
      serve loads maxSseDecodeBufferBytes ctx chunks fuel r' := by
  simp only [serve, hinput, hstep]

theorem serve_finished {r : StreamRun} {outcome : StreamOutcome}
    (h : r.point = .finished outcome) (fuel : ℕ) :
    serve loads maxSseDecodeBufferBytes ctx chunks fuel r = r := by
  cases fuel with
  | zero => rfl
  | succ fuel => simp only [serve, connectedInput, h]

/-- From the `finally` block on: one more input, nothing more delivered. -/
theorem serve_close {r : StreamRun} {exit : Exit} (h : r.point = .awaitClose exit) (fuel : ℕ) :
    let t := serve loads maxSseDecodeBufferBytes ctx chunks (fuel + 1) r
    t.point = .finished (outcomeAfter exit (finallyBlock ctx exit).2) ∧
      t.delivered = r.delivered := by
  obtain ⟨point, inputs, received, delivered, effects⟩ := r
  dsimp only at h
  subst h
  have hstep : StreamRun.step loads maxSseDecodeBufferBytes ctx
      ⟨.awaitClose exit, inputs, received, delivered, effects⟩ .closed =
        some ⟨.finished (outcomeAfter exit (finallyBlock ctx exit).2), inputs ++ [.closed],
          received, delivered, effects ++ (finallyBlock ctx exit).1⟩ := by
    simp only [StreamRun.step, resume, receivedChunk, deliveredChunk, List.append_nil]
  rw [serve_step loads maxSseDecodeBufferBytes ctx chunks rfl hstep, serve_finished (h := rfl)]
  exact ⟨rfl, rfl⟩

end

section
variable {loads : Text → Except LoadsError Json} {maxSseDecodeBufferBytes : ℕ}
  {ctx : StreamContext}

theorem flush_error {s : ParseState} {e : Exn}
    (h : flush loads ctx.endpoint.extractUsage maxSseDecodeBufferBytes s = .error e) :
    fromParsing e ∧ s.parsingEnabled = true := by
  have hscan := flush_scan loads ctx.endpoint.extractUsage maxSseDecodeBufferBytes s
  rw [h] at hscan
  cases hscan with
  | raised hconsume =>
    refine ⟨consumePayloads_error hconsume, ?_⟩
    by_contra hdisabled
    simp [flush, hdisabled] at h

/-- Where the parser raises, so does the generator. -/
theorem unparsable_outcome {parse : ParseState} {e : Exn} (hflags : FlagsAgree parse)
    (h : fromParsing e ∧ parse.parsingEnabled = true) :
    outcomeAfter (onException e parse) (finallyBlock ctx (onException e parse)).2 ≠
      .exhausted := by
  have hnone : parse.accountingStatusOverride = none := by rw [hflags, h.2, if_pos rfl]
  obtain ⟨e', hraised⟩ := (if_pos hnone).mp (finallyBlock_flagless ctx parse h.1.flags)
  rw [hraised]
  simp

/-- The usage that the `finally` block records, where no exception set a flag. -/
def recordable (parse : ParseState) : Option Usage :=
  if parse.accountingStatusOverride = none then parse.latestUsage else none

/-- Without an exception in flight the block raises only where a counter does. -/
theorem finallyBlock_exhausted_iff (ctx : StreamContext) (parse : ParseState) :
    let exit : Exit := ⟨false, false, parse, none, false⟩
    outcomeAfter exit (finallyBlock ctx exit).2 = .exhausted ↔
      UsageTaken ctx.counterAccepts ctx.statusCode (recordable parse) := by
  cases hoverride : parse.accountingStatusOverride with
  | some status => simp [finallyBlock, hoverride, outcomeAfter, recordable, UsageTaken]
  | none =>
    have haccounted := accountUsage_cases ctx.counterAccepts ctx.department ctx.modelName
      ctx.endpoint ctx.statusCode parse.latestUsage
    simp only [recordable, hoverride, if_true]
    rw [← haccounted.quiet_iff]
    simp only [finallyBlock, hoverride, Bool.false_eq_true, if_false]
    cases (accountUsage ctx.counterAccepts ctx.department ctx.modelName ctx.endpoint
        ctx.statusCode parse.latestUsage).2 with
    | none => simp [outcomeAfter]
    | some e => simp [outcomeAfter]

/-- After the last chunk only the final flush and the counters can make a
difference. -/
theorem afterLoop_exhausted_iff (loads : Text → Except LoadsError Json) (ctx : StreamContext)
    {parse : ParseState} (hflags : FlagsAgree parse) :
    let exit := afterLoop loads ctx.endpoint.extractUsage maxSseDecodeBufferBytes parse
    outcomeAfter exit (finallyBlock ctx exit).2 = .exhausted ↔
      (∀ payload ∈ scanEnd maxSseDecodeBufferBytes parse.scanned, Harmless loads payload) ∧
        UsageTaken ctx.counterAccepts ctx.statusCode (recordable exit.parse) := by
  rw [← flush_ok_iff]
  cases hflush : flush loads ctx.endpoint.extractUsage maxSseDecodeBufferBytes parse with
  | error e =>
    simp [afterLoop, hflush, unparsable_outcome hflags (flush_error hflush)]
  | ok t =>
    simp only [afterLoop, hflush, finallyBlock_exhausted_iff]
    simp

def payloadsFrom (maxSseDecodeBufferBytes : ℕ) (s : ScanState) (chunks : List Chunk) : List Text :=
  (scanChunks maxSseDecodeBufferBytes s chunks).1 ++
    scanEnd maxSseDecodeBufferBytes (scanChunks maxSseDecodeBufferBytes s chunks).2

theorem payloadsFrom_cons (s : ScanState) (chunk : Chunk) (chunks : List Chunk) :
    payloadsFrom maxSseDecodeBufferBytes s (chunk :: chunks) =
      (scanChunk maxSseDecodeBufferBytes s chunk).1 ++
        payloadsFrom maxSseDecodeBufferBytes (scanChunk maxSseDecodeBufferBytes s chunk).2
          chunks := by
  simp only [payloadsFrom, scanChunks, List.append_assoc]

variable (loads maxSseDecodeBufferBytes ctx) in
/-- The usage to be recorded when these chunks have been parsed, too. -/
def usageFrom (parse : ParseState) (chunks : List Chunk) : Option Usage :=
  match feedChunks loads ctx.endpoint.extractUsage maxSseDecodeBufferBytes parse chunks with
  | .error _ => none
  | .ok parse =>
    recordable (afterLoop loads ctx.endpoint.extractUsage maxSseDecodeBufferBytes parse).parse

variable (loads maxSseDecodeBufferBytes ctx) in
/-- Every payload still looked at is harmless, and the counters take the usage. -/
def PassableFrom (parse : ParseState) (chunks : List Chunk) : Prop :=
  (∀ payload ∈ payloadsFrom maxSseDecodeBufferBytes parse.scanned chunks,
      Harmless loads payload) ∧
    UsageTaken ctx.counterAccepts ctx.statusCode
      (usageFrom loads maxSseDecodeBufferBytes ctx parse chunks)

/-- The run is over, and it has passed `chunks` through unchanged exactly if
`passable`. -/
def Served (chunks : List Chunk) (passable : Prop) (t : StreamRun) : Prop :=
  (∃ outcome, t.point = .finished outcome) ∧
    ((t.point = .finished .exhausted ∧ t.delivered = chunks) ↔ passable)

theorem served_of_close {chunks : List Chunk} {passable : Prop} {r : StreamRun} {exit : Exit}
    (hpoint : r.point = .awaitClose exit)
    (h : (outcomeAfter exit (finallyBlock ctx exit).2 = .exhausted ∧ r.delivered = chunks) ↔
      passable) (fuel : ℕ) :
    Served chunks passable (serve loads maxSseDecodeBufferBytes ctx chunks (fuel + 1) r) := by
  obtain ⟨hfinished, hdelivered⟩ :=
    serve_close loads maxSseDecodeBufferBytes ctx chunks hpoint fuel
  rw [Served, hfinished, hdelivered, StreamPoint.finished.injEq]
  exact ⟨⟨_, rfl⟩, h⟩

/-- From the top of the loop, with `done` behind it and `rest` to come. -/
theorem serve_loop (done rest : List Chunk) (locals : StreamLocals) (inputs : List StreamInput)
    (effects : List Effect) (hflags : FlagsAgree locals.parse) (spare : ℕ) :
    Served (done ++ rest) (PassableFrom loads maxSseDecodeBufferBytes ctx locals.parse rest)
      (serve loads maxSseDecodeBufferBytes ctx (done ++ rest) (3 * rest.length + 2 + spare)
        ⟨.awaitChunk locals, inputs, done, done, effects⟩) := by
  induction rest generalizing done locals inputs effects with
  | nil =>
    have hinput : connectedInput (done ++ [])
        ⟨.awaitChunk locals, inputs, done, done, effects⟩ = some .streamEnd := by
      simp [connectedInput]
    have hstep : StreamRun.step loads maxSseDecodeBufferBytes ctx
        ⟨.awaitChunk locals, inputs, done, done, effects⟩ .streamEnd =
          some ⟨.awaitClose (afterLoop loads ctx.endpoint.extractUsage maxSseDecodeBufferBytes
            locals.parse), inputs ++ [.streamEnd], done, done, effects⟩ := by
      simp only [StreamRun.step, resume, receivedChunk, deliveredChunk, List.append_nil]
    have hfuel : 3 * ([] : List Chunk).length + 2 + spare = spare + 1 + 1 := by
      rw [List.length_nil]
      omega
    rw [hfuel, serve_step loads maxSseDecodeBufferBytes ctx _ hinput hstep]
    apply served_of_close rfl
    simpa [PassableFrom, payloadsFrom, scanChunks, usageFrom, feedChunks] using
      afterLoop_exhausted_iff loads ctx hflags
  | cons chunk rest ih =>
    have hinput : connectedInput (done ++ chunk :: rest)
        ⟨.awaitChunk locals, inputs, done, done, effects⟩ = some (.chunk chunk) := by
      simp [connectedInput]
    have hstep : StreamRun.step loads maxSseDecodeBufferBytes ctx
        ⟨.awaitChunk locals, inputs, done, done, effects⟩ (.chunk chunk) =
          some ⟨.awaitDisconnect locals chunk, inputs ++ [.chunk chunk], done ++ [chunk], done,
            effects⟩ := by
      simp only [StreamRun.step, resume, receivedChunk, deliveredChunk, List.append_nil]
    have hfuel : 3 * (chunk :: rest).length + 2 + spare =
        3 * rest.length + 2 + spare + 1 + 1 + 1 := by
      rw [List.length_cons]
      omega
    have hlook : StreamRun.step loads maxSseDecodeBufferBytes ctx
        ⟨.awaitDisconnect locals chunk, inputs ++ [.chunk chunk], done ++ [chunk], done, effects⟩
        (.disconnected false) =
          some ⟨(handleChunk loads ctx.endpoint.extractUsage maxSseDecodeBufferBytes ctx locals
              chunk).2, inputs ++ [.chunk chunk] ++ [.disconnected false], done ++ [chunk],
            done ++ deliveredChunk (handleChunk loads ctx.endpoint.extractUsage
              maxSseDecodeBufferBytes ctx locals chunk).2,
            effects ++ (handleChunk loads ctx.endpoint.extractUsage maxSseDecodeBufferBytes ctx
              locals chunk).1⟩ := by
      simp only [StreamRun.step, resume, receivedChunk, List.append_nil]
    rw [hfuel, serve_step loads maxSseDecodeBufferBytes ctx _ hinput hstep,
      serve_step loads maxSseDecodeBufferBytes ctx _ rfl hlook]
    have hharmless := feedChunk_ok_iff loads maxSseDecodeBufferBytes ctx.endpoint locals.parse chunk
    cases hfeed : feedChunk loads ctx.endpoint.extractUsage maxSseDecodeBufferBytes
        locals.parse chunk with
    | error e =>
      simp only [handleChunk, hfeed]
      apply served_of_close rfl
      rw [PassableFrom, payloadsFrom_cons, List.forall_mem_append, ← hharmless, hfeed]
      simp [unparsable_outcome hflags (feedChunk_error hfeed)]
    | ok parse =>
      simp only [handleChunk, hfeed]
      rw [serve_step loads maxSseDecodeBufferBytes ctx _ rfl rfl]
      simp only [receivedChunk, deliveredChunk, List.append_nil, List.append_cons done chunk rest]
      obtain ⟨hfinished, hrest⟩ := ih (done ++ [chunk])
        ⟨parse, (!chunk.isEmpty && !locals.firstChunkRecorded) || locals.firstChunkRecorded⟩
        (inputs ++ [.chunk chunk] ++ [.disconnected false] ++ [.next]) _
        (feedChunk_flags hfeed hflags)
      refine ⟨hfinished, hrest.trans ?_⟩
      have husage : usageFrom loads maxSseDecodeBufferBytes ctx locals.parse (chunk :: rest) =
          usageFrom loads maxSseDecodeBufferBytes ctx parse rest := by
        simp only [usageFrom, feedChunks, hfeed]
      rw [PassableFrom, PassableFrom, husage, payloadsFrom_cons, List.forall_mem_append, ← hharmless,
        feedChunk_scanned loads maxSseDecodeBufferBytes hfeed, hfeed]
      simp

/-- For every chunk sequence the generator comes to an end, and it passes the
stream through unchanged exactly when no payload that it looks at decodes to
something other than an object or makes `json.loads` fail otherwise than with
`JSONDecodeError`, and the token counters take the usage of the last event that
has one. -/
theorem stream_passes_through_iff (loads : Text → Except LoadsError Json)
    (maxSseDecodeBufferBytes : ℕ) (ctx : StreamContext) (chunks : List Chunk) :
    let t := serve loads maxSseDecodeBufferBytes ctx chunks (3 * chunks.length + 3) .start
    (∃ outcome, t.point = .finished outcome) ∧
      ((t.point = .finished .exhausted ∧ t.delivered = chunks) ↔
        (∀ payload ∈ streamPayloads maxSseDecodeBufferBytes chunks, Harmless loads payload) ∧
          UsageTaken ctx.counterAccepts ctx.statusCode
            (usageFrom loads maxSseDecodeBufferBytes ctx .initial chunks)) := by
  have hstep : StreamRun.step loads maxSseDecodeBufferBytes ctx .start .next =
      some ⟨.awaitChunk ⟨.initial, false⟩, [.next], [], [], []⟩ := rfl
  have hfuel : 3 * chunks.length + 3 = 3 * chunks.length + 2 + 0 + 1 := rfl
  rw [hfuel, serve_step loads maxSseDecodeBufferBytes ctx chunks rfl hstep]
  exact serve_loop [] chunks ⟨.initial, false⟩ [.next] [] rfl 0

end

def arrayEvent : Chunk := asciiBytes "data: []\n\n".toList

theorem arrayEvent_truncated :
    (serve sampleLoads 1000 sampleContext [arrayEvent] 6 .start).delivered ≠ [arrayEvent] := by
  decide +kernel

/-- An event whose payload is a JSON array ends the client's stream. -/
theorem stream_not_passed_through :
    ¬ ∀ (loads : Text → Except LoadsError Json) (maxSseDecodeBufferBytes : ℕ)
        (ctx : StreamContext) (chunks : List Chunk),
      let t := serve loads maxSseDecodeBufferBytes ctx chunks (3 * chunks.length + 3) .start
      t.point = .finished .exhausted ∧ t.delivered = chunks := by
  intro h
  exact arrayEvent_truncated (h sampleLoads 1000 sampleContext [arrayEvent]).2

end VllmSourceGateway.StreamPassThrough
