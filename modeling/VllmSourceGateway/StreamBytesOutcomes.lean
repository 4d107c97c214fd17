import VllmSourceGateway.StreamBytesRuns

set_option autoImplicit false

/-! What a finished stream is accounted as, and how it ends for its consumer.
Both depend on flags that only some of the ways out of the loop set. -/
namespace VllmSourceGateway.StreamBytesOutcomes
open PyText PyValues UsageExtractors Metrics AdmissionControl GatewayEffects SseParser StreamBytes
open StreamBytesRuns TransitionRuns

/-- What `json.loads` and the three extractors let through. -/
def fromParsing (e : Exn) : Prop := e = .value ∨ e = .other ∨ e = .attribute

theorem fromParsing.flags {e : Exn} (h : fromParsing e) : e ≠ .cancelled ∧ e.isHttpxError = false := by
  rcases h with rfl | rfl | rfl <;> exact ⟨by decide, rfl⟩

section
variable {loads : Text → Except LoadsError Json} {endpoint : Endpoint} {limit : ℕ}

theorem consumePayloads_error {latestUsage : Option Usage} {payloads : List Text} {e : Exn}
    (h : consumePayloads loads endpoint.extractUsage latestUsage payloads = .error e) :
    fromParsing e := by
  induction payloads generalizing latestUsage with
  | nil => cases h
  | cons payload payloads ih =>
    simp only [consumePayloads] at h
    split at h
    · rename_i e' hconsume
      simp only [Except.error.injEq] at h
      subst h
      simp only [consumePayload] at hconsume
      split at hconsume
      · cases hconsume
      · rename_i loadsError hnot _
        simp only [Except.error.injEq] at hconsume
        subst hconsume
        cases loadsError with
        | jsonDecode => exact absurd rfl hnot
        | value => exact .inl rfl
        | other => exact .inr (.inl rfl)
      · split at hconsume
        · rename_i hextract
          simp only [Except.error.injEq] at hconsume
          subst hconsume
          exact .inr (.inr (extractUsage_error hextract))
        · cases hconsume
    · exact ih h

theorem feedChunk_error {s : ParseState} {chunk : Chunk} {e : Exn}
    (h : feedChunk loads endpoint.extractUsage limit s chunk = .error e) :
    fromParsing e ∧ s.parsingEnabled = true := by
  have hscan := feedChunk_scan loads endpoint.extractUsage limit s chunk
  rw [h] at hscan
  cases hscan with
  | raised hconsume =>
    refine ⟨consumePayloads_error hconsume, ?_⟩
    by_contra hdisabled
    simp [feedChunk, hdisabled] at h

/-- In the loop parsing is disabled and accounted `parse_error` together. -/
def FlagsAgree (s : ParseState) : Prop :=
  s.accountingStatusOverride = if s.parsingEnabled then none else some .parseError

theorem feedChunk_flags {extract : UsageExtractor} {s t : ParseState} {chunk : Chunk}
    (h : feedChunk loads extract limit s chunk = .ok t) (hs : FlagsAgree s) : FlagsAgree t := by
  simp only [feedChunk] at h
  split at h
  · split at h
    · cases h
      rfl
    · split at h
      · cases h
      · cases h
        rfl
      · cases h
        exact hs
  · cases h
    exact hs

theorem feedChunks_flags {extract : UsageExtractor} {s t : ParseState} {chunks : List Chunk}
    (h : feedChunks loads extract limit s chunks = .ok t) (hs : FlagsAgree s) : FlagsAgree t := by
  induction chunks generalizing s with
  | nil =>
    cases h
    exact hs
  | cons chunk chunks ih =>
    simp only [feedChunks] at h
    split at h
    · cases h
    · rename_i u hfeed
      exact ih h (feedChunk_flags hfeed hs)

theorem FlagsAgree.override {s : ParseState} (h : FlagsAgree s) :
    s.accountingStatusOverride = none ∨ s.accountingStatusOverride = some .parseError := by
  rw [h]
  split
  · exact .inl rfl
  · exact .inr rfl

theorem afterLoop_override {extract : UsageExtractor} {s : ParseState} (h : FlagsAgree s) :
    (afterLoop loads extract limit s).parse.accountingStatusOverride = none ∨
      (afterLoop loads extract limit s).parse.accountingStatusOverride = some .parseError := by
  simp only [afterLoop, flush]
  by_cases henabled : s.parsingEnabled = true
  · simp only [henabled, if_true]
    cases Utf8Decoder.finish s.held with
    | none => exact .inr rfl
    | some fragment =>
      dsimp only
      cases consumeSseEvents loads extract limit s.decodeBuffer fragment s.latestUsage with
      | error e => exact h.override
      | ok result =>
        obtain ⟨buffer, usage, overflowed⟩ := result
        cases overflowed with
        | true => exact .inr rfl
        | false => exact h.override
  · simp only [henabled, Bool.false_eq_true, if_false]
    exact h.override

end

/-! ## Parsing as far as it goes -/

section
variable (loads : Text → Except LoadsError Json) (maxSseDecodeBufferBytes : ℕ)
  (ctx : StreamContext)

/-- The parser after the chunks before the first one that makes it raise. -/
def parseWhile : ParseState → List Chunk → ParseState
  | s, [] => s
  | s, chunk :: chunks =>
    match feedChunk loads ctx.endpoint.extractUsage maxSseDecodeBufferBytes s chunk with
    | .error _ => s
    | .ok s => parseWhile s chunks

/-- The parser over the chunks that arrived while the client was connected. -/
def parsedInput (inputs : List StreamInput) : ParseState :=
  parseWhile loads maxSseDecodeBufferBytes ctx .initial (acceptedChunks inputs)

theorem parseWhile_append {s t : ParseState} {chunks : List Chunk}
    (h : feedChunks loads ctx.endpoint.extractUsage maxSseDecodeBufferBytes s chunks = .ok t)
    (more : List Chunk) :
    parseWhile loads maxSseDecodeBufferBytes ctx s (chunks ++ more) =
      parseWhile loads maxSseDecodeBufferBytes ctx t more := by
  induction chunks generalizing s with
  | nil =>
    cases h
    rfl
  | cons chunk chunks ih =>
    cases hfeed : feedChunk loads ctx.endpoint.extractUsage maxSseDecodeBufferBytes s chunk with
    | error e =>
      simp only [feedChunks, hfeed] at h
      cases h
    | ok u =>
      simp only [feedChunks, hfeed] at h
      simp only [List.cons_append, parseWhile, hfeed]
      exact ih h

variable {loads maxSseDecodeBufferBytes ctx} {r : StreamRun} {cause : Cause} {parse : ParseState}

theorem left_parsedInput (h : Left loads maxSseDecodeBufferBytes ctx r cause parse) :
    parsedInput loads maxSseDecodeBufferBytes ctx r.inputs = parse := by
  have haccepted := h.accepted
  cases cause with
  | unparsable e =>
    obtain ⟨chunk, hchunks, hfeed⟩ := haccepted
    rw [parsedInput, hchunks, parseWhile_append _ _ _ h.parsed]
    simp only [parseWhile, hfeed]
  | streamEnd | disconnected | raised | closed =>
    dsimp only at haccepted
    rw [parsedInput, haccepted, ← List.append_nil r.delivered, parseWhile_append _ _ _ h.parsed]
    rfl

theorem left_flags (h : Left loads maxSseDecodeBufferBytes ctx r cause parse) :
    FlagsAgree parse := feedChunks_flags h.parsed rfl

/-- The inputs of a run that has left the loop: one cause, then at most `aclose`. -/
theorem left_mem_inputs (h : Left loads maxSseDecodeBufferBytes ctx r cause parse)
    {input : StreamInput} (hinput : ordinary input = false) :
    input ∈ r.inputs ↔ input = cause.input := by
  obtain ⟨prior, hinputs, hprior⟩ := h.inputs
  rw [hinputs, List.mem_append, List.mem_singleton, or_iff_right]
  intro hmem
  rw [hprior input hmem] at hinput
  cases hinput

end

/-- The effects that count tokens: the two counters, the budget, and the status
`recorded`. -/
def countsTokens : Effect → Bool
  | .recordTokens _ _ _ | .metric (.promptTokens _ _ _) | .metric (.generationTokens _ _ _)
  | .metric (.tokenAccounting _ .recorded) | .metric (.modelTokenAccounting _ _ _ .recorded) => true
  | _ => false

def Charged (effects : List Effect) : Prop := ∃ effect ∈ effects, countsTokens effect = true

@[simp] theorem charged_nil : ¬ Charged [] := by simp [Charged]

@[simp] theorem charged_cons (effect : Effect) (effects : List Effect) :
    Charged (effect :: effects) ↔ countsTokens effect = true ∨ Charged effects := by
  simp only [Charged, List.mem_cons, or_and_right, exists_or, exists_eq_left]

@[simp] theorem charged_append (xs ys : List Effect) :
    Charged (xs ++ ys) ↔ Charged xs ∨ Charged ys := by
  simp only [Charged, List.mem_append, or_and_right, exists_or]

theorem recordTokenAccounting_charged (department modelName : String) (endpoint : Endpoint)
    (status : AccountingStatus) :
    Charged (recordTokenAccounting department modelName endpoint status) ↔ status = .recorded := by
  cases status <;> simp [recordTokenAccounting, countsTokens]

/-- Some of the usage is counted: the first counter with an amount to add takes
it, or there is no amount at all and the status `recorded` is. -/
def countedFirst (accepts : ℤ → Bool) : Option Usage → Bool
  | none => false
  | some (promptTokens, generationTokens) =>
    if 0 < promptTokens.value then accepts promptTokens.value
    else takes accepts generationTokens.value

theorem countedFirst_isSome {accepts : ℤ → Bool} {usage : Option Usage}
    (h : countedFirst accepts usage = true) : usage.isSome = true := by
  cases usage with
  | none => cases h
  | some pair => rfl

theorem accounted_charged_iff {accepts : ℤ → Bool} {department modelName : String}
    {endpoint : Endpoint} {status : ℕ} {usage : Option Usage} {effects : List Effect}
    {raised : Option Exn}
    (h : Accounted accepts department modelName endpoint status usage effects raised) :
    Charged effects ↔ (200 ≤ status ∧ status < 300) ∧ countedFirst accepts usage = true := by
  cases h with
  | missing hmissing =>
    rw [recordTokenAccounting_charged]
    refine iff_of_false (by decide) ?_
    rintro ⟨hsuccess, hcounted⟩
    rw [hmissing hsuccess] at hcounted
    cases hcounted
  | @promptRefused promptTokens generationTokens hsuccess hprompt =>
    refine iff_of_false charged_nil ?_
    rintro ⟨_, hcounted⟩
    simp only [takes, Bool.or_eq_false_iff, decide_eq_false_iff_not, not_le] at hprompt
    rw [countedFirst, if_pos hprompt.1, hprompt.2] at hcounted
    cases hcounted
  | @generationRefused promptTokens generationTokens hsuccess hprompt hgeneration =>
    by_cases hpositive : 0 < promptTokens.value
    · have haccepts : accepts promptTokens.value = true := by
        simpa [takes, not_le.mpr hpositive] using hprompt
      simp [increment, hpositive, countsTokens, hsuccess, countedFirst, haccepts]
    · simp [increment, hpositive, countedFirst, hgeneration]
  | @recorded promptTokens generationTokens hsuccess hprompt hgeneration =>
    refine iff_of_true (by simp [countsTokens]) ⟨hsuccess, ?_⟩
    by_cases hpositive : 0 < promptTokens.value
    · simpa [countedFirst, hpositive, takes, not_le.mpr hpositive] using hprompt
    · simpa [countedFirst, hpositive] using hgeneration

/-- Everything the `finally` block asks for before it counts tokens. -/
theorem finallyBlock_charged_iff (ctx : StreamContext) {exit : Exit}
    (h : exit.parse.accountingStatusOverride = none ∨
      exit.parse.accountingStatusOverride = some .parseError) :
    Charged (finallyBlock ctx exit).1 ↔
      exit.clientDisconnected = false ∧ exit.streamFailed = false ∧
        exit.parse.accountingStatusOverride = none ∧
        (200 ≤ ctx.statusCode ∧ ctx.statusCode < 300) ∧
        countedFirst ctx.counterAccepts exit.parse.latestUsage = true := by
  by_cases hdisconnected : exit.clientDisconnected = true
  · simp [finallyBlock, hdisconnected, countsTokens, recordTokenAccounting_charged]
  · by_cases hfailed : exit.streamFailed = true
    · simp [finallyBlock, hdisconnected, hfailed, countsTokens, recordTokenAccounting_charged]
    · rcases h with hnone | hparse
      · simp [finallyBlock, hdisconnected, hfailed, hnone, countsTokens,
          accounted_charged_iff (accountUsage_cases _ _ _ _ _ _)]
      · simp [finallyBlock, hdisconnected, hfailed, hparse, countsTokens,
          recordTokenAccounting_charged]

/-- Tokens are counted only for a complete and understood success. -/
structure Conservative (loads : Text → Except LoadsError Json) (maxSseDecodeBufferBytes : ℕ)
    (ctx : StreamContext) (r : StreamRun) : Prop where
  success : 200 ≤ ctx.statusCode ∧ ctx.statusCode < 300
  streamEnded : .streamEnd ∈ r.inputs
  allDelivered : r.delivered = r.received
  usageParsed : ∃ parse, parseOf loads maxSseDecodeBufferBytes ctx r.received = .ok parse ∧
    let final := (afterLoop loads ctx.endpoint.extractUsage maxSseDecodeBufferBytes parse).parse
    final.accountingStatusOverride = none ∧ final.latestUsage.isSome = true

/-- The runs in which nothing but a regular end can count tokens. -/
def AccountedAtEnd (loads : Text → Except LoadsError Json) (maxSseDecodeBufferBytes : ℕ)
    (ctx : StreamContext) (inputs : List StreamInput) : Prop :=
  .streamEnd ∈ inputs ∨ .disconnected true ∈ inputs ∨
    (∃ e, .raised e ∈ inputs ∧ (e = .cancelled ∨ e.isHttpxError = true)) ∨
    .closed ∉ inputs ∨ ¬ (200 ≤ ctx.statusCode ∧ ctx.statusCode < 300) ∨
    ¬ ((parsedInput loads maxSseDecodeBufferBytes ctx inputs).accountingStatusOverride = none ∧
      countedFirst ctx.counterAccepts
        (parsedInput loads maxSseDecodeBufferBytes ctx inputs).latestUsage = true)

section
variable {loads : Text → Except LoadsError Json} {maxSseDecodeBufferBytes : ℕ}
  {ctx : StreamContext} {r s : StreamRun} {cause : Cause} {parse : ParseState}

theorem not_charged_of_quiet {effects : List Effect}
    (h : ∀ effect ∈ effects, effect = firstChunkEffect ctx) : ¬ Charged effects := by
  rintro ⟨effect, hmem, hcounts⟩
  rw [h effect hmem] at hcounts
  cases hcounts

theorem left_closed_notMem (h : Left loads maxSseDecodeBufferBytes ctx r cause parse) :
    .closed ∉ r.inputs := by
  rw [left_mem_inputs h rfl]
  cases cause <;> simp [Cause.input]

theorem left_override (left : Left loads maxSseDecodeBufferBytes ctx s cause parse) :
    (cause.exit loads maxSseDecodeBufferBytes ctx parse).parse.accountingStatusOverride = none ∨
      (cause.exit loads maxSseDecodeBufferBytes ctx parse).parse.accountingStatusOverride =
        some .parseError := by
  cases cause with
  | streamEnd => exact afterLoop_override (left_flags left)
  | disconnected | raised | unparsable | closed => exact (left_flags left).override

theorem completed_parsedInput (left : Left loads maxSseDecodeBufferBytes ctx s cause parse)
    (hinputs : r.inputs = s.inputs ++ [.closed]) :
    parsedInput loads maxSseDecodeBufferBytes ctx r.inputs = parse := by
  rw [← left_parsedInput left]
  simp only [parsedInput, acceptedChunks, hinputs, noted_snoc, note]

/-- A completed run has, beside ordinary inputs, the cause and the end of `aclose()`. -/
theorem completed_mem_inputs (left : Left loads maxSseDecodeBufferBytes ctx s cause parse)
    (hinputs : r.inputs = s.inputs ++ [.closed]) {input : StreamInput}
    (hinput : ordinary input = false) :
    input ∈ r.inputs ↔ input = cause.input ∨ input = .closed := by
  rw [hinputs, List.mem_append, List.mem_singleton, left_mem_inputs left hinput]

/-- What a completed run charges, it charges in its `finally` block. -/
theorem completed_charged_iff (left : Left loads maxSseDecodeBufferBytes ctx s cause parse)
    (heffects : r.effects = s.effects ++
      (finallyBlock ctx (cause.exit loads maxSseDecodeBufferBytes ctx parse)).1) :
    let exit := cause.exit loads maxSseDecodeBufferBytes ctx parse
    Charged r.effects ↔ exit.clientDisconnected = false ∧ exit.streamFailed = false ∧
      exit.parse.accountingStatusOverride = none ∧
      (200 ≤ ctx.statusCode ∧ ctx.statusCode < 300) ∧
      countedFirst ctx.counterAccepts exit.parse.latestUsage = true := by
  rw [heffects, charged_append, or_iff_right (not_charged_of_quiet left.quiet)]
  exact finallyBlock_charged_iff ctx (left_override left)

/-- Where the loop is left by a cause that sets no flag and is no regular end,
tokens are counted exactly if the parser saw usage in a success. -/
theorem flagless_charged_iff (left : Left loads maxSseDecodeBufferBytes ctx s cause parse)
    (hinputs : r.inputs = s.inputs ++ [.closed])
    (heffects : r.effects = s.effects ++
      (finallyBlock ctx (cause.exit loads maxSseDecodeBufferBytes ctx parse)).1)
    (hcause : match cause with
      | .raised e | .unparsable e => e ≠ .cancelled ∧ e.isHttpxError = false
      | .closed => True
      | .streamEnd | .disconnected => False) :
    (Charged r.effects → Conservative loads maxSseDecodeBufferBytes ctx r) ↔
      AccountedAtEnd loads maxSseDecodeBufferBytes ctx r.inputs := by
  have hmem {input : StreamInput} (hinput : ordinary input = false) :=
    completed_mem_inputs left hinputs hinput
  have hparsed := completed_parsedInput left hinputs
  have hexit : (cause.exit loads maxSseDecodeBufferBytes ctx parse).clientDisconnected = false ∧
      (cause.exit loads maxSseDecodeBufferBytes ctx parse).streamFailed = false ∧
      (cause.exit loads maxSseDecodeBufferBytes ctx parse).parse = parse := by
    cases cause with
    | raised e | unparsable e => simpa [Cause.exit, onException] using hcause
    | closed => exact ⟨rfl, rfl, rfl⟩
    | streamEnd | disconnected => exact hcause.elim
  have hcharged : Charged r.effects ↔
      parse.accountingStatusOverride = none ∧
        (200 ≤ ctx.statusCode ∧ ctx.statusCode < 300) ∧
        countedFirst ctx.counterAccepts parse.latestUsage = true := by
    refine (completed_charged_iff left heffects).trans ?_
    simp only [hexit.1, hexit.2.1, hexit.2.2, true_and]
  have hnoEnd : .streamEnd ∉ r.inputs := by
    rw [hmem rfl]
    cases cause <;> simp_all [Cause.input]
  have hnotConservative : ¬ Conservative loads maxSseDecodeBufferBytes ctx r :=
    fun h => hnoEnd h.streamEnded
  have hnoDisconnect : .disconnected true ∉ r.inputs := by
    rw [hmem rfl]
    cases cause <;> simp_all [Cause.input]
  have hnoFlag : ¬ ∃ e, .raised e ∈ r.inputs ∧ (e = .cancelled ∨ e.isHttpxError = true) := by
    rintro ⟨e, he, hflag⟩
    rw [hmem rfl] at he
    cases cause <;> simp_all [Cause.input]
  have hclosed : .closed ∈ r.inputs := (hmem rfl).mpr (.inr rfl)
  simp only [AccountedAtEnd, hnoEnd, hnoDisconnect, hnoFlag, hclosed, not_true, false_or, hparsed,
    hnotConservative, imp_false, hcharged]
  tauto

/-- The completed runs, by the cause that took them to the `finally` block. -/
theorem completed_conservative_iff (left : Left loads maxSseDecodeBufferBytes ctx s cause parse)
    (hinputs : r.inputs = s.inputs ++ [.closed]) (hreceived : r.received = s.received)
    (hdelivered : r.delivered = s.delivered)
    (heffects : r.effects = s.effects ++
      (finallyBlock ctx (cause.exit loads maxSseDecodeBufferBytes ctx parse)).1) :
    (Charged r.effects → Conservative loads maxSseDecodeBufferBytes ctx r) ↔
      AccountedAtEnd loads maxSseDecodeBufferBytes ctx r.inputs := by
  have hcause : cause.input ∈ r.inputs := by
    obtain ⟨prior, hprior, _⟩ := left.inputs
    simp [hinputs, hprior]
  cases cause with
  | closed => exact flagless_charged_iff left hinputs heffects trivial
  | unparsable e =>
    obtain ⟨_, _, hfeed⟩ := left.accepted
    exact flagless_charged_iff left hinputs heffects (feedChunk_error hfeed).1.flags
  | raised e =>
    by_cases hflag : e = .cancelled ∨ e.isHttpxError = true
    · refine ⟨fun _ => .inr (.inr (.inl ⟨e, hcause, hflag⟩)), fun _ hcharged => ?_⟩
      obtain ⟨hdisconnected, hfailed, _⟩ := (completed_charged_iff left heffects).mp hcharged
      rcases hflag with rfl | hhttpx
      · cases hdisconnected
      · exact absurd (hfailed.symm.trans hhttpx) (by decide)
    · rw [not_or, Bool.not_eq_true] at hflag
      exact flagless_charged_iff left hinputs heffects hflag
  | disconnected =>
    refine ⟨fun _ => .inr (.inl hcause), fun _ hcharged => ?_⟩
    obtain ⟨hdisconnected, _⟩ := (completed_charged_iff left heffects).mp hcharged
    cases hdisconnected
  | streamEnd =>
    refine ⟨fun _ => .inl hcause, fun _ hcharged => ?_⟩
    obtain ⟨_, _, hnone, hsuccess, husage⟩ := (completed_charged_iff left heffects).mp hcharged
    have hall : r.received = r.delivered := hreceived.trans (left.complete.trans hdelivered.symm)
    have hparsed : parseOf loads maxSseDecodeBufferBytes ctx r.received = .ok parse := by
      rw [hreceived, left.complete]
      exact left.parsed
    exact ⟨hsuccess, hcause, hall.symm, parse, hparsed, hnone, countedFirst_isSome husage⟩

/-- Tokens are counted conservatively in every run, except those that were
closed at a `yield` or left by an exception that sets no flag, after usage had
been seen in a success. -/
theorem streaming_accounting_conservative_iff
    (h : Reachable (StreamRun.step loads maxSseDecodeBufferBytes ctx) .start r) :
    (Charged r.effects → Conservative loads maxSseDecodeBufferBytes ctx r) ↔
      AccountedAtEnd loads maxSseDecodeBufferBytes ctx r.inputs := by
  have hinv := runInv_of_reachable h
  obtain ⟨point, inputs, received, delivered, effects⟩ := r
  have hquiet (hnone : ¬ Charged effects) (hopen : .closed ∉ inputs) :
      (Charged effects → Conservative loads maxSseDecodeBufferBytes ctx
        ⟨point, inputs, received, delivered, effects⟩) ↔
        AccountedAtEnd loads maxSseDecodeBufferBytes ctx inputs :=
    ⟨fun _ => .inr (.inr (.inr (.inl hopen))), fun _ hcharged => absurd hcharged hnone⟩
  have hloop {parse : ParseState} {pending : Option Chunk}
      (hin : InLoop loads maxSseDecodeBufferBytes ctx
        ⟨point, inputs, received, delivered, effects⟩ parse pending) :
      ¬ Charged effects ∧ .closed ∉ inputs :=
    ⟨not_charged_of_quiet hin.quiet, fun hmem => by simpa [ordinary] using hin.inputs _ hmem⟩
  cases point with
  | created =>
    cases hinv
    exact hquiet charged_nil (by simp)
  | awaitChunk locals => exact hquiet (hloop hinv).1 (hloop hinv).2
  | awaitDisconnect locals chunk => exact hquiet (hloop hinv).1 (hloop hinv).2
  | yielded locals chunk => exact hquiet (hloop hinv).1 (hloop hinv).2
  | awaitClose exit =>
    obtain ⟨cause, parse, left, _⟩ := hinv
    exact hquiet (not_charged_of_quiet left.quiet) (left_closed_notMem left)
  | finished outcome =>
    cases hinv with
    | unstarted hinputs _ _ heffects =>
      dsimp only at hinputs heffects
      subst hinputs heffects
      exact hquiet charged_nil (by simp)
    | closeRaised left hinputs _ _ heffects =>
      dsimp only at hinputs heffects
      subst hinputs heffects
      refine hquiet (not_charged_of_quiet left.quiet) ?_
      simpa using left_closed_notMem left
    | completed left hinputs hreceived hdelivered heffects =>
      exact completed_conservative_iff left hinputs hreceived hdelivered heffects

end

/-! A client that has read the usage event and closes the body. -/

def samplePayload : Text :=
  "\x7b\"usage\":\x7b\"prompt_tokens\":3,\"completion_tokens\":5\x7d\x7d".toList

/-- `json.loads` on the payloads of the samples. -/
def sampleLoads (payload : Text) : Except LoadsError Json :=
  if payload = samplePayload then
    .ok (.obj [("usage", .obj [("prompt_tokens", .int 3), ("completion_tokens", .int 5)])])
  else if payload = "[]".toList then .ok (.arr [])
  else .error .jsonDecode

def sampleChunk : Chunk := asciiBytes ("data: ".toList ++ samplePayload ++ "\n\n".toList)

def sampleContext : StreamContext :=
  ⟨"research", "llama", .chatCompletions, some ⟨"research", "llama", .chatCompletions⟩, 200,
    fitsDouble⟩

def sampleRun (inputs : List StreamInput) : Option StreamRun :=
  exec (StreamRun.step sampleLoads 1000 sampleContext) .start inputs

def closedMidway : List StreamInput :=
  [.next, .chunk sampleChunk, .disconnected false, .close, .closed]

theorem closedMidway_runs : (sampleRun closedMidway).isSome = true := by decide +kernel

theorem closedMidway_charged :
    ∃ effect ∈ ((sampleRun closedMidway).get closedMidway_runs).effects,
      countsTokens effect = true := by decide +kernel

theorem closedMidway_not_ended :
    .streamEnd ∉ ((sampleRun closedMidway).get closedMidway_runs).inputs := by decide +kernel

/-- Usage seen before the consumer closed the body is recorded. -/
theorem streaming_accounting_not_conservative :
    ¬ ∀ (loads : Text → Except LoadsError Json) (maxSseDecodeBufferBytes : ℕ)
        (ctx : StreamContext) (r : StreamRun),
      Reachable (StreamRun.step loads maxSseDecodeBufferBytes ctx) .start r →
      Charged r.effects → Conservative loads maxSseDecodeBufferBytes ctx r := by
  intro h
  have hconservative := h sampleLoads 1000 sampleContext _
    (exec_get_reachable closedMidway_runs) closedMidway_charged
  exact closedMidway_not_ended hconservative.streamEnded

theorem streaming_accounting_closed_midway :
    ¬ AccountedAtEnd sampleLoads 1000 sampleContext
      ((sampleRun closedMidway).get closedMidway_runs).inputs := by
  intro h
  have hiff := streaming_accounting_conservative_iff (exec_get_reachable closedMidway_runs)
  exact closedMidway_not_ended (hiff.mpr h closedMidway_charged).streamEnded

/-! ## How the stream ends for its consumer -/

/-- An upstream failure or a cancellation comes out of the generator, and only a
finished upstream or a vanished client lets it end normally. -/
structure Truthful (inputs : List StreamInput) (outcome : StreamOutcome) : Prop where
  failure : ∀ e, e.isHttpxError = true → .raised e ∈ inputs → ∃ e', outcome = .raised e'
  cancellation : .raised .cancelled ∈ inputs → outcome = .raised .cancelled
  normalEnd : outcome = .exhausted → .streamEnd ∈ inputs ∨ .disconnected true ∈ inputs

/-- No `return` of the `finally` block runs over an exception, and none that
`aclose()` raises takes the place of a cancellation. -/
def ExceptionKept (loads : Text → Except LoadsError Json) (maxSseDecodeBufferBytes : ℕ)
    (ctx : StreamContext) (inputs : List StreamInput) : Prop :=
  (.closed ∈ inputs → ∀ e, .raised e ∈ inputs → e.isHttpxError = false ∧ e ≠ .cancelled ∧
    (parsedInput loads maxSseDecodeBufferBytes ctx inputs).accountingStatusOverride = none) ∧
  ∀ prior e, inputs = prior ++ [.raised .cancelled, .raised e] → e = .cancelled

section
variable {loads : Text → Except LoadsError Json} {maxSseDecodeBufferBytes : ℕ}
  {ctx : StreamContext} {r s : StreamRun} {cause : Cause} {parse : ParseState}

theorem outcomeAfter_closing {exit : Exit} (h : exit.closing = true) (ended : FinallyEnd) :
    outcomeAfter exit ended ≠ .exhausted := by
  cases ended <;> simp [outcomeAfter, h]

/-- A block entered with an exception that sets no flag raises, this exception or
one of a counter, exactly when no parse error is pending. -/
theorem finallyBlock_flagless (ctx : StreamContext) (parse : ParseState) {e : Exn}
    (h : e ≠ .cancelled ∧ e.isHttpxError = false) :
    let outcome := outcomeAfter (onException e parse) (finallyBlock ctx (onException e parse)).2
    if parse.accountingStatusOverride = none then ∃ e', outcome = .raised e'
    else outcome = .exhausted := by
  obtain ⟨hcancelled, hhttpx⟩ := h
  cases hoverride : parse.accountingStatusOverride with
  | none =>
    simp only [if_true, finallyBlock, onException, hcancelled, hhttpx, hoverride, decide_false,
      Bool.false_eq_true, if_false]
    cases (accountUsage ctx.counterAccepts ctx.department ctx.modelName ctx.endpoint
        ctx.statusCode parse.latestUsage).2 with
    | none => exact ⟨e, rfl⟩
    | some e' => exact ⟨e', rfl⟩
  | some status => simp [outcomeAfter, finallyBlock, onException, hcancelled, hhttpx, hoverride]

theorem finallyBlock_flagged {e : Exn} (h : e = .cancelled ∨ e.isHttpxError = true) :
    outcomeAfter (onException e parse) (finallyBlock ctx (onException e parse)).2 = .exhausted := by
  rcases h with rfl | hhttpx
  · simp [outcomeAfter, finallyBlock, onException]
  · by_cases hcancelled : e = .cancelled
    · simp [outcomeAfter, finallyBlock, onException, hcancelled]
    · simp [outcomeAfter, finallyBlock, onException, hcancelled, hhttpx]

theorem Truthful.of_quiet {inputs : List StreamInput} {outcome : StreamOutcome}
    (h : ∀ e, .raised e ∉ inputs)
    (hend : outcome = .exhausted → .streamEnd ∈ inputs ∨ .disconnected true ∈ inputs) :
    Truthful inputs outcome :=
  ⟨fun e _ he => absurd he (h e), fun he => absurd he (h _), hend⟩

/-- An exception out of `aclose()` is untruthful only where it replaces a cancellation. -/
theorem closeRaised_truthful_iff (left : Left loads maxSseDecodeBufferBytes ctx s cause parse)
    {e : Exn} (hinputs : r.inputs = s.inputs ++ [.raised e]) :
    Truthful r.inputs (.raised e) ↔ ExceptionKept loads maxSseDecodeBufferBytes ctx r.inputs := by
  constructor
  · intro htruthful
    refine ⟨fun hclosed => ?_, fun prior e' heq => ?_⟩
    · rw [hinputs, List.mem_append, List.mem_singleton] at hclosed
      rcases hclosed with hclosed | hclosed
      · exact absurd hclosed (left_closed_notMem left)
      · cases hclosed
    · have hcancelled := htruthful.cancellation (by simp [heq])
      rw [hinputs, List.append_cons prior] at heq
      obtain ⟨_, hlast⟩ := List.append_inj' heq rfl
      simp only [List.cons.injEq, StreamInput.raised.injEq, and_true] at hlast
      rw [← hlast]
      exact StreamOutcome.raised.inj hcancelled
  · intro hkept
    refine ⟨fun _ _ _ => ⟨e, rfl⟩, fun hmem => ?_, fun houtcome => by cases houtcome⟩
    rw [hinputs, List.mem_append, List.mem_singleton] at hmem
    rcases hmem with hmem | hlast
    · obtain ⟨prior, hprior, _⟩ := left.inputs
      rw [left_mem_inputs left rfl] at hmem
      rw [hkept.2 prior e (by rw [hinputs, hprior, ← hmem, List.append_assoc]; rfl)]
    · rw [StreamInput.raised.inj hlast]

/-- The last input is the end of `aclose()`, so only the first clause can fail. -/
theorem completed_kept_iff (left : Left loads maxSseDecodeBufferBytes ctx s cause parse)
    (hinputs : r.inputs = s.inputs ++ [.closed]) :
    ExceptionKept loads maxSseDecodeBufferBytes ctx r.inputs ↔
      ∀ e, .raised e = cause.input → e.isHttpxError = false ∧ e ≠ .cancelled ∧
        parse.accountingStatusOverride = none := by
  have hclosed : .closed ∈ r.inputs := (completed_mem_inputs left hinputs rfl).mpr (.inr rfl)
  have hlast : ∀ prior e, r.inputs = prior ++ [.raised .cancelled, .raised e] →
      e = .cancelled := by
    intro prior e heq
    rw [hinputs, List.append_cons prior] at heq
    obtain ⟨_, hlast⟩ := List.append_inj' heq rfl
    simp at hlast
  have hraised (e : Exn) : .raised e ∈ r.inputs ↔ .raised e = cause.input := by
    rw [completed_mem_inputs left hinputs rfl, or_iff_left (by simp)]
  simp only [ExceptionKept, hclosed, forall_const, completed_parsedInput left hinputs, hraised]
  exact and_iff_left hlast

/-- A completed run that no await's exception took to its `finally` block. -/
theorem completed_quiet_iff (left : Left loads maxSseDecodeBufferBytes ctx s cause parse)
    (hinputs : r.inputs = s.inputs ++ [.closed]) (hcause : ∀ e, .raised e ≠ cause.input)
    {outcome : StreamOutcome} (hend : outcome = .exhausted →
      cause.input = .streamEnd ∨ cause.input = .disconnected true) :
    Truthful r.inputs outcome ↔ ExceptionKept loads maxSseDecodeBufferBytes ctx r.inputs := by
  refine iff_of_true (Truthful.of_quiet (fun e => ?_) fun houtcome => ?_) ?_
  · rw [completed_mem_inputs left hinputs rfl, not_or]
    exact ⟨hcause e, by simp⟩
  · refine (hend houtcome).imp (fun hinput => ?_) fun hinput => ?_
    · exact (completed_mem_inputs left hinputs rfl).mpr (.inl hinput.symm)
    · exact (completed_mem_inputs left hinputs rfl).mpr (.inl hinput.symm)
  · rw [completed_kept_iff left hinputs]
    exact fun e he => absurd he (hcause e)

/-- A completed run that an await's exception took there: the exception comes out
unless the block returns over it. -/
theorem completed_raised_iff {e : Exn}
    (left : Left loads maxSseDecodeBufferBytes ctx s (.raised e) parse)
    (hinputs : r.inputs = s.inputs ++ [.closed]) :
    Truthful r.inputs
        (outcomeAfter (onException e parse) (finallyBlock ctx (onException e parse)).2) ↔
      ExceptionKept loads maxSseDecodeBufferBytes ctx r.inputs := by
  have hmem {input : StreamInput} (hinput : ordinary input = false) :=
    completed_mem_inputs left hinputs hinput
  have hin : .raised e ∈ r.inputs := (hmem rfl).mpr (.inl rfl)
  rw [completed_kept_iff left hinputs]
  simp only [Cause.input, StreamInput.raised.injEq, forall_eq]
  by_cases hflag : e = .cancelled ∨ e.isHttpxError = true
  · rw [finallyBlock_flagged hflag]
    refine ⟨fun htruthful => ?_, ?_⟩
    · rcases hflag with rfl | hhttpx
      · cases htruthful.cancellation hin
      · obtain ⟨_, houtcome⟩ := htruthful.failure e hhttpx hin
        cases houtcome
    · rintro ⟨hhttpx, hcancelled, _⟩
      rcases hflag with rfl | htrue
      · exact absurd rfl hcancelled
      · exact absurd (htrue.symm.trans hhttpx) (by decide)
  · rw [not_or, Bool.not_eq_true] at hflag
    have hends := finallyBlock_flagless ctx parse hflag
    by_cases hnone : parse.accountingStatusOverride = none
    · obtain ⟨e', houtcome⟩ := (if_pos hnone).mp hends
      rw [houtcome]
      refine ⟨fun _ => ⟨hflag.2, hflag.1, hnone⟩, fun _ => ⟨fun _ _ _ => ⟨e', rfl⟩, ?_, by simp⟩⟩
      intro he
      rcases (hmem rfl).mp he with he | he
      · exact absurd (StreamInput.raised.inj he).symm hflag.1
      · cases he
    · rw [(if_neg hnone).mp hends]
      refine ⟨fun htruthful => ?_, fun hkept => absurd hkept.2.2 hnone⟩
      rcases htruthful.normalEnd rfl with he | he
      · rcases (hmem rfl).mp he with he | he <;> cases he
      · rcases (hmem rfl).mp he with he | he <;> cases he

/-- A finished stream ends truthfully exactly when no pending exception was
discarded. -/
theorem stream_end_truthful_iff {outcome : StreamOutcome}
    (h : Reachable (StreamRun.step loads maxSseDecodeBufferBytes ctx) .start r)
    (hfinished : r.point = .finished outcome) :
    Truthful r.inputs outcome ↔ ExceptionKept loads maxSseDecodeBufferBytes ctx r.inputs := by
  have hinv := runInv_of_reachable h
  simp only [RunInv, hfinished] at hinv
  cases hinv with
  | unstarted hinputs _ _ _ =>
    rw [hinputs]
    refine ⟨fun _ => ⟨by simp, ?_⟩, fun _ => ⟨by simp, by simp, by simp⟩⟩
    intro prior e heq
    have hlength := congrArg List.length heq
    simp at hlength
  | closeRaised left hinputs _ _ _ => exact closeRaised_truthful_iff left hinputs
  | @completed s cause parse left hinputs hreceived hdelivered heffects =>
    cases cause with
    | streamEnd =>
      exact completed_quiet_iff left hinputs (by simp [Cause.input]) fun _ => .inl rfl
    | disconnected =>
      exact completed_quiet_iff left hinputs (by simp [Cause.input]) fun _ => .inr rfl
    | closed =>
      refine completed_quiet_iff left hinputs (by simp [Cause.input]) fun houtcome => ?_
      exact absurd houtcome (outcomeAfter_closing rfl _)
    | unparsable e =>
      obtain ⟨_, _, hfeed⟩ := left.accepted
      obtain ⟨hparsing, henabled⟩ := feedChunk_error hfeed
      have hnone : parse.accountingStatusOverride = none := by
        rw [left_flags left, henabled, if_pos rfl]
      refine completed_quiet_iff left hinputs (by simp [Cause.input]) fun houtcome => ?_
      obtain ⟨e', hraised⟩ := (if_pos hnone).mp (finallyBlock_flagless ctx parse hparsing.flags)
      rw [Cause.exit, hraised] at houtcome
      cases houtcome
    | raised e => exact completed_raised_iff left hinputs

end

/-! An upstream that breaks off after one chunk. -/

def brokenMidway : List StreamInput :=
  [.next, .chunk sampleChunk, .disconnected false, .next, .raised (.httpx .transport), .closed]

theorem brokenMidway_runs : (sampleRun brokenMidway).isSome = true := by decide +kernel

theorem brokenMidway_finished :
    ((sampleRun brokenMidway).get brokenMidway_runs).point = .finished .exhausted := by
  decide +kernel

theorem brokenMidway_raised : .raised (.httpx .transport) ∈
    ((sampleRun brokenMidway).get brokenMidway_runs).inputs := by decide +kernel

/-- The broken stream is presented as a complete one. -/
theorem stream_end_not_truthful :
    ¬ ∀ (loads : Text → Except LoadsError Json) (maxSseDecodeBufferBytes : ℕ)
        (ctx : StreamContext) (r : StreamRun) (outcome : StreamOutcome),
      Reachable (StreamRun.step loads maxSseDecodeBufferBytes ctx) .start r →
      r.point = .finished outcome → Truthful r.inputs outcome := by
  intro h
  have htruthful := h sampleLoads 1000 sampleContext _ _ (exec_get_reachable brokenMidway_runs)
    brokenMidway_finished
  obtain ⟨e, he⟩ := htruthful.failure _ rfl brokenMidway_raised
  cases he

theorem stream_end_broken_midway :
    ¬ ExceptionKept sampleLoads 1000 sampleContext
      ((sampleRun brokenMidway).get brokenMidway_runs).inputs := by
  intro h
  have hiff := stream_end_truthful_iff (exec_get_reachable brokenMidway_runs) brokenMidway_finished
  obtain ⟨e, he⟩ := (hiff.mpr h).failure _ rfl brokenMidway_raised
  cases he

end VllmSourceGateway.StreamBytesOutcomes
