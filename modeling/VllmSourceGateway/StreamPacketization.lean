import VllmSourceGateway.SseStreams
import VllmSourceGateway.StreamBytesOutcomes

set_option autoImplicit false

/-! One byte stream cut into chunks in different ways. As long as no call of
`_consume_sse_events` finds its buffer too long, what the generator holds at the
end is a function of the decoded text. -/
namespace VllmSourceGateway.StreamPacketization
open PyText PyValues UsageExtractors Metrics AdmissionControl GatewayEffects SseParser StreamBytes
open StreamBytesOutcomes EventReader SseStreams

/-- `json.loads` where it returns a value or raises `JSONDecodeError`. -/
def jsonLoads (decodeJson : Text → Option Json) (payload : Text) : Except LoadsError Json :=
  match decodeJson payload with
  | none => .error .jsonDecode
  | some parsed => .ok parsed

def totalExtractor (extract : Json → Option Usage) : UsageExtractor :=
  fun parsed => .ok (extract parsed)

section
variable (loads : Text → Except LoadsError Json) (extract : UsageExtractor) (maxBufferBytes : ℕ)

/-- The third component of what a call returns. -/
def callOverflows (buffer fragment : Text) (latestUsage : Option Usage) : Bool :=
  match consumeSseEvents loads extract maxBufferBytes buffer fragment latestUsage with
  | .error _ => false
  | .ok (_, _, overflowed) => overflowed

def chunkOverflows (s : ParseState) (chunk : Chunk) : Bool :=
  s.parsingEnabled && !chunk.isEmpty &&
    match Utf8Decoder.decode s.held chunk with
    | none => false
    | some (fragment, _) =>
      callOverflows loads extract maxBufferBytes s.decodeBuffer fragment s.latestUsage

def endOverflows (s : ParseState) : Bool :=
  s.parsingEnabled &&
    match Utf8Decoder.finish s.held with
    | none => false
    | some fragment =>
      callOverflows loads extract maxBufferBytes s.decodeBuffer fragment s.latestUsage

/-- Whether some call for these chunks or for the end of the stream overflows. -/
def reportsOverflow : ParseState → List Chunk → Bool
  | s, [] => endOverflows loads extract maxBufferBytes s
  | s, chunk :: chunks =>
    chunkOverflows loads extract maxBufferBytes s chunk ||
      match feedChunk loads extract maxBufferBytes s chunk with
      | .error _ => false
      | .ok s => reportsOverflow s chunks

def parseStream : ParseState → List Chunk → Except Exn ParseState
  | s, [] => flush loads extract maxBufferBytes s
  | s, chunk :: chunks =>
    match feedChunk loads extract maxBufferBytes s chunk with
    | .error e => .error e
    | .ok s => parseStream s chunks

variable (ctx : StreamContext)

def drive : StreamPoint → List StreamInput → Option (List Effect × StreamPoint)
  | point, [] => some ([], point)
  | point, input :: inputs =>
    match resume loads extract maxBufferBytes ctx point input with
    | none => none
    | some (effects, point) =>
      (drive point inputs).map fun result => (effects ++ result.1, result.2)

def turn (chunk : Chunk) : List StreamInput := [.chunk chunk, .disconnected false, .next]

def connectedInputs (chunks : List Chunk) : List StreamInput :=
  .next :: (chunks.flatMap turn ++ [.streamEnd])

def firstChunkEffects (recorded : Bool) (bytes : List UInt8) : List Effect :=
  if !bytes.isEmpty && !recorded then
    [.metric (.streamFirstChunk ctx.department ctx.modelName ctx.endpoint)]
  else []

variable {loads extract maxBufferBytes}

theorem drive_turns {parse t : ParseState} {recorded : Bool} {chunks : List Chunk}
    (h : parseStream loads extract maxBufferBytes parse chunks = .ok t) :
    drive loads extract maxBufferBytes ctx (.awaitChunk ⟨parse, recorded⟩)
        (chunks.flatMap turn ++ [.streamEnd]) =
      some (firstChunkEffects ctx recorded chunks.flatten,
        .awaitClose ⟨false, false, t, none, false⟩) := by
  induction chunks generalizing parse recorded with
  | nil =>
    simp only [parseStream] at h
    simp [drive, resume, afterLoop, h, firstChunkEffects]
  | cons chunk chunks ih =>
    simp only [parseStream] at h
    cases hfeed : feedChunk loads extract maxBufferBytes parse chunk with
    | error e => simp [hfeed] at h
    | ok u =>
      rw [hfeed] at h
      have hrest := @ih u (!chunk.isEmpty && !recorded || recorded) h
      simp only [List.flatMap_cons, turn, List.cons_append, List.nil_append, drive, resume,
        handleChunk, hfeed, hrest, Option.map_some]
      cases recorded <;> cases chunk <;> simp [firstChunkEffects]

theorem drive_connected {t : ParseState} {chunks : List Chunk}
    (h : parseStream loads extract maxBufferBytes .initial chunks = .ok t) :
    drive loads extract maxBufferBytes ctx .created (connectedInputs chunks) =
      some (firstChunkEffects ctx false chunks.flatten,
        .awaitClose ⟨false, false, t, none, false⟩) := by
  simp only [connectedInputs, drive, resume, drive_turns ctx h, Option.map_some, List.nil_append]

/-- A drive is one resumption and the rest of it. -/
theorem drive_cons {point point' : StreamPoint} {input : StreamInput} {inputs : List StreamInput}
    {effects : List Effect}
    (h : drive loads extract maxBufferBytes ctx point (input :: inputs) = some (effects, point')) :
    ∃ now next later, resume loads extract maxBufferBytes ctx point input = some (now, next) ∧
      drive loads extract maxBufferBytes ctx next inputs = some (later, point') ∧
      effects = now ++ later := by
  simp only [drive] at h
  cases hresume : resume loads extract maxBufferBytes ctx point input with
  | none => simp [hresume] at h
  | some result =>
    obtain ⟨now, next⟩ := result
    simp only [hresume, Option.map_eq_some_iff, Prod.mk.injEq, Prod.exists] at h
    obtain ⟨later, _, hlater, rfl, rfl⟩ := h
    exact ⟨now, next, later, rfl, hlater, rfl⟩

theorem drive_append {point point' : StreamPoint} {xs : List StreamInput} {effects : List Effect}
    (h : drive loads extract maxBufferBytes ctx point xs = some (effects, point'))
    (ys : List StreamInput) :
    drive loads extract maxBufferBytes ctx point (xs ++ ys) =
      (drive loads extract maxBufferBytes ctx point' ys).map fun result =>
        (effects ++ result.1, result.2) := by
  induction xs generalizing point effects with
  | nil =>
    cases h
    simp
  | cons input xs ih =>
    obtain ⟨now, next, later, hresume, hxs, rfl⟩ := drive_cons ctx h
    simp only [List.cons_append, drive, hresume, ih hxs]
    cases drive loads extract maxBufferBytes ctx _ ys <;> simp

/-- `aclose()` returns and the `finally` block runs. -/
theorem drive_closed {inputs : List StreamInput} {effects : List Effect} {exit : Exit}
    (h : drive loads extract maxBufferBytes ctx .created inputs =
      some (effects, .awaitClose exit)) :
    drive loads extract maxBufferBytes ctx .created (inputs ++ [.closed]) =
      some (effects ++ (finallyBlock ctx exit).1,
        .finished (outcomeAfter exit (finallyBlock ctx exit).2)) := by
  simp only [drive_append ctx h, drive, resume, Option.map_some, List.append_nil]

end

section
variable (decodeJson : Text → Option Json) (extract : Json → Option Usage) (maxBufferBytes : ℕ)

def payloadUsage (payload : Text) : Option Usage := (decodeJson payload).bind extract

def usageAfter (latestUsage : Option Usage) (rawEvents : List Text) : Option Usage :=
  ((rawEvents.filterMap eventPayload).filterMap (payloadUsage decodeJson extract)).getLast?.or
    latestUsage

theorem usageAfter_append (latestUsage : Option Usage) (xs ys : List Text) :
    usageAfter decodeJson extract latestUsage (xs ++ ys) =
      usageAfter decodeJson extract (usageAfter decodeJson extract latestUsage xs) ys := by
  simp only [usageAfter, List.filterMap_append, List.getLast?_append, Option.or_assoc]

theorem consumePayloads_total (latestUsage : Option Usage) (payloads : List Text) :
    consumePayloads (jsonLoads decodeJson) (totalExtractor extract) latestUsage payloads =
      .ok ((payloads.filterMap (payloadUsage decodeJson extract)).getLast?.or latestUsage) := by
  induction payloads generalizing latestUsage with
  | nil => rfl
  | cons payload payloads ih =>
    have hconsume : consumePayload (jsonLoads decodeJson) (totalExtractor extract) latestUsage
        payload = .ok ((payloadUsage decodeJson extract payload).or latestUsage) := by
      simp only [consumePayload, jsonLoads, totalExtractor, payloadUsage]
      cases decodeJson payload <;> rfl
    simp only [consumePayloads, hconsume, ih, List.filterMap_cons]
    cases payloadUsage decodeJson extract payload with
    | none => rfl
    | some usage =>
      rw [List.getLast?_cons]
      cases (payloads.filterMap (payloadUsage decodeJson extract)).getLast? <;> rfl

theorem consumeSseEvents_total (buffer fragment : Text) (latestUsage : Option Usage) :
    consumeSseEvents (jsonLoads decodeJson) (totalExtractor extract) maxBufferBytes buffer fragment
        latestUsage =
      if maxBufferBytes < utf8Size (replaceCrlf (buffer ++ fragment)) then
        .ok ([], latestUsage, true)
      else .ok ((splitEvents (replaceCrlf (buffer ++ fragment))).2,
        usageAfter decodeJson extract latestUsage
          (splitEvents (replaceCrlf (buffer ++ fragment))).1, false) := by
  simp only [consumeSseEvents, consumePayloads_total, usageAfter]

variable {decodeJson extract maxBufferBytes}

/-- A call that does not overflow reads on from what the buffer holds. -/
theorem consumeSseEvents_takeText {line fragment : Text} {latestUsage : Option Usage}
    (hline : Settled line) (hclean : Clean line fragment)
    (hfits : callOverflows (jsonLoads decodeJson) (totalExtractor extract) maxBufferBytes
      line.reverse fragment latestUsage = false) :
    consumeSseEvents (jsonLoads decodeJson) (totalExtractor extract) maxBufferBytes line.reverse
        fragment latestUsage =
      .ok ((takeText line fragment).2.reverse,
        usageAfter decodeJson extract latestUsage (takeText line fragment).1, false) := by
  rw [callOverflows, consumeSseEvents_total] at hfits
  rw [consumeSseEvents_total]
  split_ifs at hfits ⊢
  rw [(splitEvents_takeText hline hclean).1]

theorem consumes_total {latestUsage : Option Usage} {payloads : List Text}
    {After : Option Usage → ParseState → Prop} {parsed : Except Exn ParseState}
    (h : Consumes (jsonLoads decodeJson) (totalExtractor extract) latestUsage payloads After parsed) :
    ∃ t, parsed = .ok t := by
  cases h with
  | raised hconsume =>
    rw [consumePayloads_total] at hconsume
    cases hconsume
  | parsed => exact ⟨_, rfl⟩

theorem parseStream_total (s : ParseState) (chunks : List Chunk) :
    ∃ t, parseStream (jsonLoads decodeJson) (totalExtractor extract) maxBufferBytes s chunks =
      .ok t := by
  induction chunks generalizing s with
  | nil => exact consumes_total (flush_scan _ _ maxBufferBytes s)
  | cons chunk chunks ih =>
    obtain ⟨u, hu⟩ := consumes_total
      (feedChunk_scan (jsonLoads decodeJson) (totalExtractor extract) maxBufferBytes s chunk)
    simp only [parseStream, hu]
    exact ih u

/-- A chunk whose text follows on what the buffer holds. -/
theorem feedChunk_takeText {s : ParseState} {line fragment : Text} {held : List ℕ} {chunk : Chunk}
    (hbuffer : s.decodeBuffer = line.reverse) (henabled : s.parsingEnabled = true)
    (hdecode : Utf8Decoder.decode s.held chunk = some (fragment, held)) (hline : Settled line)
    (hclean : Clean line fragment)
    (hfits : chunkOverflows (jsonLoads decodeJson) (totalExtractor extract) maxBufferBytes s chunk =
      false) :
    feedChunk (jsonLoads decodeJson) (totalExtractor extract) maxBufferBytes s chunk =
      .ok { s with
        latestUsage := usageAfter decodeJson extract s.latestUsage (takeText line fragment).1
        decodeBuffer := (takeText line fragment).2.reverse
        held := held } := by
  cases chunk with
  | nil =>
    simp only [Utf8Decoder.decode, Option.some.injEq, Prod.mk.injEq] at hdecode
    obtain ⟨rfl, rfl⟩ := hdecode
    simp [feedChunk, takeText, usageAfter, ← hbuffer]
  | cons b bytes =>
    simp only [chunkOverflows, henabled, hdecode, hbuffer, List.isEmpty_cons, Bool.not_false,
      Bool.true_and] at hfits
    simp only [feedChunk, henabled, hdecode, hbuffer, List.isEmpty_cons, Bool.not_false,
      Bool.and_self, if_true, consumeSseEvents_takeText hline hclean hfits]

/-- By induction on the chunks: the buffer holds the text since the last event. -/
theorem parseStream_takeText {s : ParseState} {line text : Text} {chunks : List Chunk}
    (hbuffer : s.decodeBuffer = line.reverse) (henabled : s.parsingEnabled = true)
    (hdecode : Utf8Decoder.decode s.held chunks.flatten = some (text, [])) (hline : Settled line)
    (hclean : Clean line text)
    (hfits : reportsOverflow (jsonLoads decodeJson) (totalExtractor extract) maxBufferBytes s
      chunks = false) :
    parseStream (jsonLoads decodeJson) (totalExtractor extract) maxBufferBytes s chunks =
      .ok { s with
        latestUsage := usageAfter decodeJson extract s.latestUsage (takeText line text).1
        decodeBuffer := (takeText line text).2.reverse
        held := [] } := by
  induction chunks generalizing s line text with
  | nil =>
    simp only [List.flatten_nil, Utf8Decoder.decode, Option.some.injEq, Prod.mk.injEq] at hdecode
    obtain ⟨rfl, hheld⟩ := hdecode
    simp only [reportsOverflow, endOverflows, henabled, hheld, hbuffer, Utf8Decoder.finish,
      if_true, Bool.true_and] at hfits
    have hcall := consumeSseEvents_takeText hline hclean hfits
    simp only [parseStream, flush, henabled, hheld, hbuffer, Utf8Decoder.finish, if_true, hcall,
      Bool.false_eq_true, if_false]
  | cons chunk chunks ih =>
    rw [List.flatten_cons] at hdecode
    obtain ⟨fragment, held, rest, hchunk, hrest, rfl⟩ := Utf8Decoder.decode_append_some hdecode
    obtain ⟨hhere, hlater⟩ := (clean_append line fragment rest).mp hclean
    simp only [reportsOverflow, Bool.or_eq_false_iff] at hfits
    have hfeed := feedChunk_takeText hbuffer henabled hchunk hline hhere hfits.1
    rw [hfeed] at hfits
    let u : ParseState := { s with
      latestUsage := usageAfter decodeJson extract s.latestUsage (takeText line fragment).1
      decodeBuffer := (takeText line fragment).2.reverse
      held := held }
    have hsettled := (splitEvents_takeText hline hhere).2
    have hread := ih (s := u) rfl henabled hrest hsettled hlater hfits.2
    simp only [parseStream, hfeed]
    rw [hread, takeText_append, usageAfter_append]

/-- The payload that the parser looks at and the event's own come to the same usage. -/
theorem event_usage (event : SseEvent) :
    (eventPayload event.raw).bind (payloadUsage decodeJson extract) =
      event.usage decodeJson extract := by
  rw [eventPayload_raw, SseEvent.usage]
  cases event.payload with
  | none => rfl
  | some payload =>
    dsimp only
    split_ifs <;> rfl

theorem usageAfter_stream (stream : SseStream) :
    usageAfter decodeJson extract none (stream.map SseEvent.raw) =
      streamUsage decodeJson extract stream := by
  rw [usageAfter, Option.or_none, List.filterMap_filterMap, List.filterMap_map, streamUsage]
  congr 2
  funext event
  exact event_usage event

/-- However a well-formed stream is cut, the generator ends up with the last usage
that one of its events has. -/
theorem wellFormed_usage (ctx : StreamContext) (stream : SseStream) (chunks : List Chunk)
    (hbytes : chunks.flatten = streamBytes stream)
    (hfits : reportsOverflow (jsonLoads decodeJson) (totalExtractor extract) maxBufferBytes .initial
      chunks = false) :
    ∃ effects exit, drive (jsonLoads decodeJson) (totalExtractor extract) maxBufferBytes ctx
        .created (connectedInputs chunks) = some (effects, .awaitClose exit) ∧
      exit.parse.latestUsage = streamUsage decodeJson extract stream ∧
      exit.parse.accountingStatusOverride = none := by
  obtain ⟨hread, hclean⟩ := takeText_stream stream
  have hsettled : Settled [] := trivial
  have hparse := parseStream_takeText rfl rfl (decode_stream hbytes) hsettled hclean hfits
  refine ⟨_, _, drive_connected ctx hparse, ?_, rfl⟩
  rw [hread]
  exact usageAfter_stream stream

end

/-! A stream cut after every byte. -/

def sampleDecode (payload : Text) : Option Json :=
  if payload = "\x7b\x7d".toList then some (.obj []) else none

def sampleExtract (_ : Json) : Option Usage := some (.int 3, .int 5)

/-- One event: `data: {}` ended by a CRLF, then a blank line. -/
def shortStream : SseStream :=
  [⟨[⟨"data: \x7b\x7d".toList, true, by simp, by simp⟩], false, by simp⟩]

theorem wellFormed_usage_bytewise :
    ∃ effects exit, drive (jsonLoads sampleDecode) (totalExtractor sampleExtract) 100 sampleContext
        .created (connectedInputs ((streamBytes shortStream).map fun b => [b])) =
          some (effects, .awaitClose exit) ∧
      exit.parse.latestUsage = some (.int 3, .int 5) ∧
      exit.parse.accountingStatusOverride = none := by
  have husage : streamUsage sampleDecode sampleExtract shortStream = some (.int 3, .int 5) := by
    decide +kernel
  have hbytes : ((streamBytes shortStream).map fun b => [b]).flatten = streamBytes shortStream := by
    rw [← List.flatMap_def, List.flatMap_singleton']
  rw [← husage]
  exact wellFormed_usage sampleContext shortStream _ hbytes (by decide +kernel)

/-! ## What does not fit, or is not text -/

section
variable {loads : Text → Except LoadsError Json} {extract : UsageExtractor} {maxBufferBytes : ℕ}
  {s t : ParseState}

/-- The bytes from here on end inside a character, or are not UTF-8 at all. -/
def Undecodable (held : List ℕ) (bytes : List UInt8) : Prop :=
  ∀ text, Utf8Decoder.decode held bytes ≠ some (text, [])

theorem callOverflows_iff {buffer fragment : Text} {latestUsage : Option Usage} :
    callOverflows loads extract maxBufferBytes buffer fragment latestUsage = true ↔
      ∃ buffer' usage, consumeSseEvents loads extract maxBufferBytes buffer fragment latestUsage =
        .ok (buffer', usage, true) := by
  cases hcall : consumeSseEvents loads extract maxBufferBytes buffer fragment latestUsage with
  | error e => simp [callOverflows, hcall]
  | ok result =>
    obtain ⟨buffer', usage, overflowed⟩ := result
    simp [callOverflows, hcall]

theorem flush_parseError (h : flush loads extract maxBufferBytes s = .ok t) (hs : FlagsAgree s)
    (hbad : s.parsingEnabled = false ∨ endOverflows loads extract maxBufferBytes s = true ∨
      Undecodable s.held []) : t.accountingStatusOverride = some .parseError := by
  by_cases henabled : s.parsingEnabled = true
  · simp only [henabled, Bool.true_eq_false, false_or] at hbad
    simp only [flush, henabled, if_true] at h
    cases hfinish : Utf8Decoder.finish s.held with
    | none =>
      rw [hfinish] at h
      cases h
      rfl
    | some fragment =>
      have hheld : s.held = [] := by
        by_contra hheld
        simp [Utf8Decoder.finish, hheld] at hfinish
      have hdecodes : ¬ Undecodable s.held [] := by
        intro hbroken
        exact hbroken [] (by rw [hheld]; rfl)
      have hover := hbad.resolve_right hdecodes
      simp only [endOverflows, henabled, hfinish, Bool.true_and] at hover
      obtain ⟨buffer, usage, hcall⟩ := callOverflows_iff.mp hover
      simp only [hfinish, hcall] at h
      cases h
      rfl
  · simp only [flush, henabled, Bool.false_eq_true, if_false, Except.ok.injEq] at h
    subst h
    rw [hs, if_neg henabled]

theorem feedChunk_disables {chunk : Chunk} (h : feedChunk loads extract maxBufferBytes s chunk = .ok t)
    (hbad : s.parsingEnabled = false ∨
      chunkOverflows loads extract maxBufferBytes s chunk = true ∨
      Utf8Decoder.decode s.held chunk = none) : t.parsingEnabled = false := by
  by_cases hlooks : (s.parsingEnabled && !chunk.isEmpty) = true
  · obtain ⟨henabled, hchunk⟩ := Bool.and_eq_true_iff.mp hlooks
    simp only [henabled, Bool.true_eq_false, false_or] at hbad
    simp only [feedChunk, hlooks, if_true] at h
    cases hdecode : Utf8Decoder.decode s.held chunk with
    | none =>
      rw [hdecode] at h
      cases h
      rfl
    | some result =>
      obtain ⟨fragment, held⟩ := result
      simp only [hdecode, reduceCtorEq, or_false, chunkOverflows, hlooks, Bool.true_and] at hbad
      obtain ⟨buffer, usage, hcall⟩ := callOverflows_iff.mp hbad
      simp only [hdecode, hcall] at h
      cases h
      rfl
  · simp only [feedChunk, hlooks, Bool.false_eq_true, if_false, Except.ok.injEq] at h
    subst h
    simp only [chunkOverflows, hlooks, Bool.false_and, Bool.false_eq_true, false_or] at hbad
    obtain hdisabled | hbroken := hbad
    · exact hdisabled
    · by_contra henabled
      rw [Bool.not_eq_false] at henabled
      cases chunk with
      | nil => simp [Utf8Decoder.decode] at hbroken
      | cons b bytes => simp [henabled] at hlooks

/-- What a chunk that is decoded leaves in the decoder. -/
theorem feedChunk_held {chunk : Chunk} {fragment : Text} {held : List ℕ}
    (h : feedChunk loads extract maxBufferBytes s chunk = .ok t) (henabled : s.parsingEnabled = true)
    (hdecode : Utf8Decoder.decode s.held chunk = some (fragment, held)) : t.held = held := by
  cases chunk with
  | nil =>
    simp only [Utf8Decoder.decode, Option.some.injEq, Prod.mk.injEq] at hdecode
    simp only [feedChunk, List.isEmpty_nil, Bool.not_true, Bool.and_false, Bool.false_eq_true,
      if_false, Except.ok.injEq] at h
    rw [← h, hdecode.2]
  | cons b bytes =>
    simp only [feedChunk, henabled, hdecode, List.isEmpty_cons, Bool.not_false, Bool.and_self,
      if_true] at h
    split at h
    · cases h
    · cases h
      rfl
    · cases h
      rfl

theorem parseStream_parseError {chunks : List Chunk}
    (h : parseStream loads extract maxBufferBytes s chunks = .ok t) (hs : FlagsAgree s)
    (hbad : s.parsingEnabled = false ∨
      reportsOverflow loads extract maxBufferBytes s chunks = true ∨
      Undecodable s.held chunks.flatten) : t.accountingStatusOverride = some .parseError := by
  induction chunks generalizing s with
  | nil => exact flush_parseError h hs hbad
  | cons chunk chunks ih =>
    simp only [parseStream] at h
    cases hfeed : feedChunk loads extract maxBufferBytes s chunk with
    | error e => simp [hfeed] at h
    | ok u =>
      simp only [hfeed] at h
      refine ih h (feedChunk_flags hfeed hs) ?_
      simp only [reportsOverflow, hfeed, Bool.or_eq_true] at hbad
      obtain hdisabled | (hhere | hlater) | hbroken := hbad
      · exact .inl (feedChunk_disables hfeed (.inl hdisabled))
      · exact .inl (feedChunk_disables hfeed (.inr (.inl hhere)))
      · exact .inr (.inl hlater)
      · by_cases henabled : s.parsingEnabled = true
        · cases hdecode : Utf8Decoder.decode s.held chunk with
          | none => exact .inl (feedChunk_disables hfeed (.inr (.inr hdecode)))
          | some result =>
            obtain ⟨fragment, held⟩ := result
            refine .inr (.inr fun text hrest => hbroken (fragment ++ text) ?_)
            rw [feedChunk_held hfeed henabled hdecode] at hrest
            rw [List.flatten_cons, Utf8Decoder.decode_append, hdecode]
            simp only [hrest, Option.map_some]
        · have hdisabled : s.parsingEnabled = false := by simpa using henabled
          exact .inl (feedChunk_disables hfeed (.inl hdisabled))

end

inductive AccountingOutcome where
  | recorded (usage : Usage)
  | missingUsage
  | parseError
  deriving DecidableEq

section
variable (ctx : StreamContext)

/-- What the `finally` block finds the stream to be, by its branches. -/
def accountingOutcome (exit : Exit) : AccountingOutcome :=
  if exit.clientDisconnected || exit.streamFailed then .missingUsage
  else if exit.parse.accountingStatusOverride.isSome then .parseError
  else if 200 ≤ ctx.statusCode ∧ ctx.statusCode < 300 then
    match exit.parse.latestUsage with
    | none => .missingUsage
    | some usage => .recorded usage
  else .missingUsage

def accountAs : AccountingOutcome → List Effect × Option Exn
  | .recorded usage => accountUsage ctx.counterAccepts ctx.department ctx.modelName ctx.endpoint
      ctx.statusCode (some usage)
  | .missingUsage =>
    (recordTokenAccounting ctx.department ctx.modelName ctx.endpoint .missingUsage, none)
  | .parseError =>
    (recordTokenAccounting ctx.department ctx.modelName ctx.endpoint .parseError, none)

theorem finallyBlock_outcome {parse : ParseState}
    (hoverride : parse.accountingStatusOverride = none ∨
      parse.accountingStatusOverride = some .parseError) :
    let exit : Exit := ⟨false, false, parse, none, false⟩
    (finallyBlock ctx exit).1 = [.exchangeClosed ctx.department ctx.modelName, .release ctx.lease] ++
        (accountAs ctx (accountingOutcome ctx exit)).1 ∧
      outcomeAfter exit (finallyBlock ctx exit).2 =
        match (accountAs ctx (accountingOutcome ctx exit)).2 with
        | none => .exhausted
        | some e => .raised e := by
  intro exit
  obtain hnone | herror := hoverride
  · by_cases hsuccess : 200 ≤ ctx.statusCode ∧ ctx.statusCode < 300
    · cases husage : parse.latestUsage with
      | none =>
        simp [exit, finallyBlock, accountingOutcome, accountAs, hnone, hsuccess, husage,
          accountUsage, recordUsage, chargeUsage, outcomeAfter]
      | some usage =>
        simp only [exit, finallyBlock, accountingOutcome, hnone, hsuccess, husage, accountAs,
          Bool.or_self, Bool.false_eq_true, if_false, Option.isSome_none, and_self, if_true]
        refine ⟨trivial, ?_⟩
        cases (accountUsage ctx.counterAccepts ctx.department ctx.modelName ctx.endpoint
            ctx.statusCode (some usage)).2 <;> rfl
    · simp [exit, finallyBlock, accountingOutcome, accountAs, hnone, hsuccess, accountUsage,
        recordUsage, chargeUsage, outcomeAfter]
  · simp [exit, finallyBlock, accountingOutcome, accountAs, herror, outcomeAfter]

/-- What the generator finds a stream to be that ends normally with the client
connected. -/
def streamOutcome (loads : Text → Except LoadsError Json) (extract : UsageExtractor)
    (maxBufferBytes : ℕ) (chunks : List Chunk) : Option AccountingOutcome :=
  match drive loads extract maxBufferBytes ctx .created (connectedInputs chunks) with
  | some (_, .awaitClose exit) => some (accountingOutcome ctx exit)
  | _ => none

/-- Two ways of cutting bytes that are text: a call overflows in both of them, or in
neither and the text has no CR before a CRLF. -/
def Comparable (loads : Text → Except LoadsError Json) (extract : UsageExtractor)
    (maxBufferBytes : ℕ) (chunks₁ chunks₂ : List Chunk) : Prop :=
  ∀ text, Utf8Decoder.decode [] chunks₁.flatten = some (text, []) →
    reportsOverflow loads extract maxBufferBytes .initial chunks₁ =
        reportsOverflow loads extract maxBufferBytes .initial chunks₂ ∧
      (reportsOverflow loads extract maxBufferBytes .initial chunks₁ = false →
        ¬ ['\r', '\r', '\n'] <:+: text)

variable {decodeJson : Text → Option Json} {extract : Json → Option Usage} {maxBufferBytes : ℕ}
  {chunks₁ chunks₂ : List Chunk}

/-- The accounting looks at the parser's override and, where there is none, its usage. -/
theorem parse_agree (hbytes : chunks₁.flatten = chunks₂.flatten)
    (hcomparable : Comparable (jsonLoads decodeJson) (totalExtractor extract) maxBufferBytes
      chunks₁ chunks₂) {t₁ t₂ : ParseState}
    (h₁ : parseStream (jsonLoads decodeJson) (totalExtractor extract) maxBufferBytes .initial
      chunks₁ = .ok t₁)
    (h₂ : parseStream (jsonLoads decodeJson) (totalExtractor extract) maxBufferBytes .initial
      chunks₂ = .ok t₂) :
    t₁.accountingStatusOverride = some .parseError ∧
        t₂.accountingStatusOverride = some .parseError ∨
      t₁.accountingStatusOverride = none ∧ t₂.accountingStatusOverride = none ∧
        t₁.latestUsage = t₂.latestUsage := by
  have hflags : FlagsAgree .initial := rfl
  by_cases hbroken : Undecodable [] chunks₁.flatten
  · refine .inl ⟨?_, ?_⟩
    · exact parseStream_parseError h₁ hflags (.inr (.inr hbroken))
    · exact parseStream_parseError h₂ hflags (.inr (.inr (hbytes ▸ hbroken)))
  · simp only [Undecodable, not_forall, not_not] at hbroken
    obtain ⟨text, hdecode⟩ := hbroken
    obtain ⟨hsame, hcrs⟩ := hcomparable text hdecode
    cases hover : reportsOverflow (jsonLoads decodeJson) (totalExtractor extract) maxBufferBytes
        .initial chunks₁ with
    | true =>
      refine .inl ⟨?_, ?_⟩
      · exact parseStream_parseError h₁ hflags (.inr (.inl hover))
      · exact parseStream_parseError h₂ hflags (.inr (.inl (hsame ▸ hover)))
    | false =>
      have hclean : Clean [] text := clean_of_infix (hcrs hover)
      have hsettled : Settled [] := trivial
      have hread₁ := parseStream_takeText rfl rfl hdecode hsettled hclean hover
      have hread₂ := parseStream_takeText rfl rfl (hbytes ▸ hdecode) hsettled hclean (hsame ▸ hover)
      rw [h₁, Except.ok.injEq] at hread₁
      rw [h₂, Except.ok.injEq] at hread₂
      subst hread₁
      subst hread₂
      exact .inr ⟨rfl, rfl, rfl⟩

/-- The accounting of a stream does not depend on how the network cuts it, among
comparable ways; nor does anything else that the generator does. -/
theorem comparable_outcome (ctx : StreamContext) (hbytes : chunks₁.flatten = chunks₂.flatten)
    (hcomparable : Comparable (jsonLoads decodeJson) (totalExtractor extract) maxBufferBytes
      chunks₁ chunks₂) :
    (∃ outcome,
      streamOutcome ctx (jsonLoads decodeJson) (totalExtractor extract) maxBufferBytes chunks₁ =
          some outcome ∧
        streamOutcome ctx (jsonLoads decodeJson) (totalExtractor extract) maxBufferBytes chunks₂ =
          some outcome) ∧
      ∃ effects ended,
        drive (jsonLoads decodeJson) (totalExtractor extract) maxBufferBytes ctx .created
            (connectedInputs chunks₁ ++ [.closed]) = some (effects, .finished ended) ∧
          drive (jsonLoads decodeJson) (totalExtractor extract) maxBufferBytes ctx .created
            (connectedInputs chunks₂ ++ [.closed]) = some (effects, .finished ended) := by
  obtain ⟨t₁, h₁⟩ : ∃ t, parseStream (jsonLoads decodeJson) (totalExtractor extract) maxBufferBytes
      .initial chunks₁ = .ok t := parseStream_total .initial chunks₁
  obtain ⟨t₂, h₂⟩ : ∃ t, parseStream (jsonLoads decodeJson) (totalExtractor extract) maxBufferBytes
      .initial chunks₂ = .ok t := parseStream_total .initial chunks₂
  have hagree := parse_agree hbytes hcomparable h₁ h₂
  have hrun₁ := drive_connected ctx h₁
  have hrun₂ := drive_connected ctx h₂
  have houtcome : accountingOutcome ctx ⟨false, false, t₁, none, false⟩ =
      accountingOutcome ctx ⟨false, false, t₂, none, false⟩ := by
    obtain ⟨herror₁, herror₂⟩ | ⟨hnone₁, hnone₂, husage⟩ := hagree
    · simp only [accountingOutcome, herror₁, herror₂, Option.isSome_some, if_true]
    · simp only [accountingOutcome, hnone₁, hnone₂, husage]
  refine ⟨⟨accountingOutcome ctx ⟨false, false, t₁, none, false⟩, ?_, ?_⟩, ?_⟩
  · simp only [streamOutcome, hrun₁]
  · simp only [streamOutcome, hrun₂, houtcome]
  · have hoverride₁ : t₁.accountingStatusOverride = none ∨
        t₁.accountingStatusOverride = some .parseError :=
      hagree.elim (fun h => .inr h.1) (fun h => .inl h.1)
    have hoverride₂ : t₂.accountingStatusOverride = none ∨
        t₂.accountingStatusOverride = some .parseError :=
      hagree.elim (fun h => .inr h.2) (fun h => .inl h.2.1)
    obtain ⟨hblock₁, hended₁⟩ := finallyBlock_outcome ctx hoverride₁
    obtain ⟨hblock₂, hended₂⟩ := finallyBlock_outcome ctx hoverride₂
    have hclose₁ := drive_closed ctx hrun₁
    have hclose₂ := drive_closed ctx hrun₂
    rw [hblock₁, hended₁, hbytes, houtcome] at hclose₁
    rw [hblock₂, hended₂] at hclose₂
    exact ⟨_, _, hclose₁, hclose₂⟩

end

/-! Two events in one chunk or in two; and a chunk that ends after lines that are
ended by a CR and a CRLF. -/

def sampleEvent : Chunk := asciiBytes "data: \x7b\x7d\n\n".toList

def doubledEvent : Chunk := asciiBytes "data: \x7b\x7d\r\r\n\r\r\n".toList

theorem outcome_depends_on_packets :
    (¬ ∀ (decodeJson : Text → Option Json) (extract : Json → Option Usage) (maxBufferBytes : ℕ)
      (ctx : StreamContext) (chunks₁ chunks₂ : List Chunk),
      0 < maxBufferBytes → 200 ≤ ctx.statusCode ∧ ctx.statusCode < 300 →
      (∀ chunk ∈ chunks₁, chunk ≠ []) → (∀ chunk ∈ chunks₂, chunk ≠ []) →
      chunks₁.flatten = chunks₂.flatten →
      streamOutcome ctx (jsonLoads decodeJson) (totalExtractor extract) maxBufferBytes chunks₁ =
        streamOutcome ctx (jsonLoads decodeJson) (totalExtractor extract) maxBufferBytes chunks₂) ∧
    ¬ ∀ (decodeJson : Text → Option Json) (extract : Json → Option Usage) (maxBufferBytes : ℕ)
      (ctx : StreamContext) (chunks₁ chunks₂ : List Chunk),
      0 < maxBufferBytes → 200 ≤ ctx.statusCode ∧ ctx.statusCode < 300 →
      (∀ chunk ∈ chunks₁, chunk ≠ []) → (∀ chunk ∈ chunks₂, chunk ≠ []) →
      chunks₁.flatten = chunks₂.flatten →
      reportsOverflow (jsonLoads decodeJson) (totalExtractor extract) maxBufferBytes .initial
        chunks₁ = false →
      reportsOverflow (jsonLoads decodeJson) (totalExtractor extract) maxBufferBytes .initial
        chunks₂ = false →
      streamOutcome ctx (jsonLoads decodeJson) (totalExtractor extract) maxBufferBytes chunks₁ =
        streamOutcome ctx (jsonLoads decodeJson) (totalExtractor extract) maxBufferBytes
          chunks₂ := by
  constructor
  · intro h
    have hsame := h sampleDecode sampleExtract 12 sampleContext [sampleEvent ++ sampleEvent]
      [sampleEvent, sampleEvent] (by decide) (by decide) (by decide) (by decide) (by decide)
    revert hsame
    decide +kernel
  · intro h
    have hsame := h sampleDecode sampleExtract 100 sampleContext [doubledEvent ++ sampleEvent]
      [doubledEvent, sampleEvent] (by decide) (by decide) (by decide) (by decide) (by decide)
      (by decide +kernel) (by decide +kernel)
    revert hsame
    decide +kernel

/-- `data: {}` and the end of a line, a comment with a euro sign in it and two CRLFs. -/
def euroEvent : Chunk :=
  asciiBytes "data: \x7b\x7d\r\n:".toList ++ [0xE2, 0x82, 0xAC] ++ asciiBytes "\r\n\r\n".toList

theorem comparable_outcome_euro :
    streamOutcome sampleContext (jsonLoads sampleDecode) (totalExtractor sampleExtract) 100
        [euroEvent.take 13, euroEvent.drop 13] = some (.recorded (.int 3, .int 5)) ∧
      streamOutcome sampleContext (jsonLoads sampleDecode) (totalExtractor sampleExtract) 100
        (euroEvent.map fun b => [b]) = some (.recorded (.int 3, .int 5)) := by
  have hcomparable : Comparable (jsonLoads sampleDecode) (totalExtractor sampleExtract) 100
      [euroEvent.take 13, euroEvent.drop 13] (euroEvent.map fun b => [b]) := by
    intro text htext
    have hdecoded : Utf8Decoder.decode [] [euroEvent.take 13, euroEvent.drop 13].flatten =
        some ("data: \x7b\x7d\r\n:€\r\n\r\n".toList, []) := by decide +kernel
    rw [hdecoded] at htext
    cases htext
    exact ⟨by decide +kernel, fun _ => by decide +kernel⟩
  obtain ⟨⟨outcome, h₁, h₂⟩, _⟩ := comparable_outcome sampleContext (by decide) hcomparable
  have hrecorded : streamOutcome sampleContext (jsonLoads sampleDecode)
      (totalExtractor sampleExtract) 100 [euroEvent.take 13, euroEvent.drop 13] =
        some (.recorded (.int 3, .int 5)) := by decide +kernel
  rw [h₁] at hrecorded
  exact ⟨h₁.trans hrecorded, h₂.trans hrecorded⟩

end VllmSourceGateway.StreamPacketization
