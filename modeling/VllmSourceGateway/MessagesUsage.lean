import VllmSourceGateway.StreamPacketization

set_option autoImplicit false

/-! The two places of a messages payload where usage is reported, and what a
stream of such payloads is accounted as. The extractor gets to the second place
only past a top-level `usage` object. -/
namespace VllmSourceGateway.MessagesUsage
open PyText PyValues UsageExtractors Metrics AdmissionControl GatewayEffects SseParser StreamBytes
open StreamBytesOutcomes EventReader SseStreams StreamPacketization

def objectAt (fields : JsonObject) (key : String) : Option JsonObject :=
  match PyDict.get? fields key with
  | some (.obj value) => some value
  | _ => none

def usagePair (fields : JsonObject) : Option Usage :=
  (objectAt fields "usage").bind inputOutputPair

def messagePair (fields : JsonObject) : Option Usage :=
  (objectAt fields "message").bind usagePair

/-- The top-level pair, otherwise the message's. -/
def reportedUsage (fields : JsonObject) : Option Usage :=
  (usagePair fields).or (messagePair fields)

def hasUsageObject (fields : JsonObject) : Bool := (objectAt fields "usage").isSome

def foundUsage (fields : JsonObject) : Option Usage :=
  if hasUsageObject fields then reportedUsage fields else none

theorem objectAt_eq_some {fields value : JsonObject} {key : String} :
    objectAt fields key = some value ↔ PyDict.get? fields key = some (.obj value) := by
  unfold objectAt
  split
  · rename_i found hfound
    simp [hfound]
  · rename_i hother
    simp only [reduceCtorEq, false_iff]
    exact hother value

theorem objectAt_eq_none {fields : JsonObject} {key : String} :
    objectAt fields key = none ↔ ∀ value, PyDict.get? fields key ≠ some (.obj value) := by
  rw [Option.eq_none_iff_forall_ne_some]
  exact forall_congr' fun value => not_congr objectAt_eq_some

/-- By the guards in their order. -/
theorem extractMessagesUsage_object (fields : JsonObject) :
    extractMessagesUsage (.obj fields) = .ok (foundUsage fields) := by
  cases husage : objectAt fields "usage" with
  | none =>
    have hnot := objectAt_eq_none.mp husage
    simp only [extractMessagesUsage, foundUsage, hasUsageObject, husage, Option.isSome_none,
      Bool.false_eq_true, if_false]
  | some usage =>
    simp only [extractMessagesUsage, objectAt_eq_some.mp husage, foundUsage, hasUsageObject,
      husage, Option.isSome_some, if_true, reportedUsage, usagePair, Option.bind_some]
    cases inputOutputPair usage with
    | some pair => rfl
    | none =>
      cases hmessage : objectAt fields "message" with
      | none =>
        have hnot := objectAt_eq_none.mp hmessage
        simp only [messagePair, hmessage, Option.bind_none, Option.none_or]
      | some message =>
        simp only [messagePair, hmessage, objectAt_eq_some.mp hmessage, Option.bind_some,
          Option.none_or, usagePair]
        cases hnested : objectAt message "usage" with
        | none =>
          have hnot := objectAt_eq_none.mp hnested
          simp only [Option.bind_none]
        | some nested =>
          simp only [objectAt_eq_some.mp hnested, Option.bind_some]

/-- The extractor misses a pair exactly in a message without a top-level object. -/
theorem foundUsage_iff (fields : JsonObject) :
    foundUsage fields = reportedUsage fields ↔
      hasUsageObject fields = true ∨ messagePair fields = none := by
  cases husage : objectAt fields "usage" with
  | some usage => simp [foundUsage, hasUsageObject, husage]
  | none =>
    simp only [foundUsage, hasUsageObject, husage, reportedUsage, usagePair, Option.isSome_none,
      Option.bind_none, Option.none_or, Bool.false_eq_true, if_false, false_or]
    exact eq_comm

/-! ## Two readings of one stream

Parsing is a function of how each payload is read, and only of the payloads that
the stream's events have. -/

section
variable {loads loads' : Text → Except LoadsError Json} {extract extract' : UsageExtractor}
  {maxBufferBytes : ℕ}

/-- A payload does the same to the latest usage in both readings. -/
def ReadAlike (loads loads' : Text → Except LoadsError Json) (extract extract' : UsageExtractor)
    (payload : Text) : Prop :=
  ∀ latestUsage, consumePayload loads extract latestUsage payload =
    consumePayload loads' extract' latestUsage payload

theorem consumePayloads_congr {payloads : List Text}
    (h : ∀ payload ∈ payloads, ReadAlike loads loads' extract extract' payload)
    (latestUsage : Option Usage) :
    consumePayloads loads extract latestUsage payloads =
      consumePayloads loads' extract' latestUsage payloads := by
  induction payloads generalizing latestUsage with
  | nil => rfl
  | cons payload payloads ih =>
    obtain ⟨hpayload, hpayloads⟩ := List.forall_mem_cons.mp h
    simp only [consumePayloads, hpayload latestUsage]
    cases consumePayload loads' extract' latestUsage payload with
    | error e => rfl
    | ok usage => exact ih hpayloads usage

def completedPayloads (line text : Text) : List Text :=
  (takeText line text).1.filterMap eventPayload

theorem completedPayloads_append (line fragment rest : Text) :
    completedPayloads line (fragment ++ rest) =
      completedPayloads line fragment ++ completedPayloads (takeText line fragment).2 rest := by
  simp only [completedPayloads, takeText_append, List.filterMap_append]

theorem consumeSseEvents_congr (maxBufferBytes : ℕ) {line fragment : Text} (hline : Settled line)
    (hclean : Clean line fragment)
    (h : ∀ payload ∈ completedPayloads line fragment,
      ReadAlike loads loads' extract extract' payload) (latestUsage : Option Usage) :
    consumeSseEvents loads extract maxBufferBytes line.reverse fragment latestUsage =
      consumeSseEvents loads' extract' maxBufferBytes line.reverse fragment latestUsage := by
  have hsame := consumePayloads_congr h latestUsage
  rw [completedPayloads] at hsame
  simp only [consumeSseEvents, (splitEvents_takeText hline hclean).1, hsame]

theorem parseStream_disabled {s : ParseState} (h : s.parsingEnabled = false)
    (chunks : List Chunk) : parseStream loads extract maxBufferBytes s chunks = .ok s := by
  induction chunks with
  | nil => simp [parseStream, flush, h]
  | cons chunk chunks ih => simpa [parseStream, feedChunk, h] using ih

/-- A chunk that is decoded disables parsing or leaves the text since the last event. -/
theorem feedChunk_leaves {s u : ParseState} {line fragment : Text} {held : List ℕ} {chunk : Chunk}
    (hbuffer : s.decodeBuffer = line.reverse) (henabled : s.parsingEnabled = true)
    (hdecode : Utf8Decoder.decode s.held chunk = some (fragment, held)) (hline : Settled line)
    (hclean : Clean line fragment) (h : feedChunk loads extract maxBufferBytes s chunk = .ok u) :
    u.parsingEnabled = false ∨
      u.parsingEnabled = true ∧ u.decodeBuffer = (takeText line fragment).2.reverse ∧
        u.held = held := by
  have hscan := feedChunk_scanned loads maxBufferBytes h
  cases chunk with
  | nil =>
    simp only [Utf8Decoder.decode, Option.some.injEq, Prod.mk.injEq] at hdecode
    obtain ⟨rfl, rfl⟩ := hdecode
    simp only [scanChunk, ParseState.scanned, List.isEmpty_nil, Bool.not_true, Bool.and_false,
      Bool.false_eq_true, if_false, ScanState.mk.injEq, hbuffer, henabled] at hscan
    exact .inr ⟨hscan.2.1, hscan.1, hscan.2.2⟩
  | cons b bytes =>
    simp only [scanChunk, ParseState.scanned, henabled, hdecode, List.isEmpty_cons, Bool.not_false,
      Bool.and_self, if_true, scanFragment, hbuffer, (splitEvents_takeText hline hclean).1] at hscan
    split_ifs at hscan
    · exact .inl (congrArg ScanState.enabled hscan)
    · exact .inr ⟨congrArg ScanState.enabled hscan, congrArg ScanState.buffer hscan,
        congrArg ScanState.held hscan⟩

/-- By induction on the chunks, as long as parsing is enabled. -/
theorem parseStream_congr (maxBufferBytes : ℕ) {s : ParseState} {line text : Text}
    {chunks : List Chunk} (hbuffer : s.decodeBuffer = line.reverse)
    (henabled : s.parsingEnabled = true)
    (hdecode : Utf8Decoder.decode s.held chunks.flatten = some (text, [])) (hline : Settled line)
    (hclean : Clean line text)
    (h : ∀ payload ∈ completedPayloads line text, ReadAlike loads loads' extract extract' payload) :
    parseStream loads extract maxBufferBytes s chunks =
      parseStream loads' extract' maxBufferBytes s chunks := by
  induction chunks generalizing s line text with
  | nil =>
    simp only [List.flatten_nil, Utf8Decoder.decode, Option.some.injEq, Prod.mk.injEq] at hdecode
    obtain ⟨rfl, hheld⟩ := hdecode
    have hcall := consumeSseEvents_congr maxBufferBytes hline hclean h s.latestUsage
    simp only [parseStream, flush, henabled, hheld, hbuffer, Utf8Decoder.finish, if_true, hcall]
  | cons chunk chunks ih =>
    rw [List.flatten_cons] at hdecode
    obtain ⟨fragment, held, rest, hchunk, hrest, rfl⟩ := Utf8Decoder.decode_append_some hdecode
    obtain ⟨hhere, hlater⟩ := (clean_append line fragment rest).mp hclean
    rw [completedPayloads_append, List.forall_mem_append] at h
    obtain ⟨hfirst, hothers⟩ := h
    have hfeed : feedChunk loads extract maxBufferBytes s chunk =
        feedChunk loads' extract' maxBufferBytes s chunk := by
      simp only [feedChunk, hchunk, hbuffer,
        consumeSseEvents_congr maxBufferBytes hline hhere hfirst]
    simp only [parseStream, hfeed]
    cases hnext : feedChunk loads' extract' maxBufferBytes s chunk with
    | error e => rfl
    | ok u =>
      dsimp only
      obtain hdisabled | ⟨hon, hleft, hbytes⟩ :=
        feedChunk_leaves hbuffer henabled hchunk hline hhere hnext
      · rw [parseStream_disabled hdisabled, parseStream_disabled hdisabled]
      · have hsettled := (splitEvents_takeText hline hhere).2
        exact ih hleft hon (hbytes ▸ hrest) hsettled hlater hothers

end

/-! ## The decode buffer over a stream -/

/-- Whether some call finds its buffer too long: that is a matter of the text alone. -/
def scanOverflows (maxBufferBytes : ℕ) : ScanState → List Chunk → Bool
  | s, [] =>
    s.enabled &&
      match Utf8Decoder.finish s.held with
      | none => false
      | some fragment => (scanFragment maxBufferBytes s.buffer fragment).isNone
  | s, chunk :: chunks =>
    (s.enabled && !chunk.isEmpty &&
        match Utf8Decoder.decode s.held chunk with
        | none => false
        | some (fragment, _) => (scanFragment maxBufferBytes s.buffer fragment).isNone) ||
      scanOverflows maxBufferBytes (scanChunk maxBufferBytes s chunk).2 chunks

section
variable (decodeJson : Text → Option Json) (extract : Json → Option Usage) (maxBufferBytes : ℕ)

theorem callOverflows_scan (buffer fragment : Text) (latestUsage : Option Usage) :
    callOverflows (jsonLoads decodeJson) (totalExtractor extract) maxBufferBytes buffer fragment
        latestUsage =
      (scanFragment maxBufferBytes buffer fragment).isNone := by
  rw [callOverflows, consumeSseEvents_total, scanFragment]
  split_ifs <;> rfl

theorem reportsOverflow_scan (s : ParseState) (chunks : List Chunk) :
    reportsOverflow (jsonLoads decodeJson) (totalExtractor extract) maxBufferBytes s chunks =
      scanOverflows maxBufferBytes s.scanned chunks := by
  induction chunks generalizing s with
  | nil =>
    simp only [reportsOverflow, endOverflows, scanOverflows, callOverflows_scan]
    rfl
  | cons chunk chunks ih =>
    obtain ⟨u, hu⟩ := consumes_total
      (feedChunk_scan (jsonLoads decodeJson) (totalExtractor extract) maxBufferBytes s chunk)
    simp only [reportsOverflow, chunkOverflows, scanOverflows, callOverflows_scan, hu, ih,
      feedChunk_scanned (jsonLoads decodeJson) maxBufferBytes hu]
    rfl

end

section
variable (loads : Text → Except LoadsError Json)

/-- Each event has no data, the end marker, something that is not JSON or an object. -/
def MessagesStream (stream : SseStream) : Prop :=
  ∀ event ∈ stream, ∀ payload, event.payload = some payload →
    payload = "[DONE]".toList ∨ Harmless loads payload

def loadsObject (payload : Text) : Option JsonObject :=
  match loads payload with
  | .ok (.obj fields) => some fields
  | _ => none

def eventFields (event : SseEvent) : Option JsonObject :=
  match event.payload with
  | none => none
  | some payload => if payload = "[DONE]".toList then none else loadsObject loads payload

def streamFields (stream : SseStream) : List JsonObject := stream.filterMap (eventFields loads)

def lastReported (stream : SseStream) : Option Usage :=
  ((streamFields loads stream).filterMap reportedUsage).getLast?

/-- The pair comes from an object with a top-level `usage` object, and no such
object after it has a pair. -/
def FoundLast (payloads : List JsonObject) (usage : Usage) : Prop :=
  ∃ before fields after, payloads = before ++ fields :: after ∧ hasUsageObject fields = true ∧
    reportedUsage fields = some usage ∧
    ∀ later ∈ after, hasUsageObject later = true → reportedUsage later = none

theorem getLast?_filterMap_iff {α β : Type} {f : α → Option β} {xs : List α} {b : β} :
    (xs.filterMap f).getLast? = some b ↔
      ∃ before a after, xs = before ++ a :: after ∧ f a = some b ∧ ∀ x ∈ after, f x = none := by
  rw [List.getLast?_filterMap, List.findSome?_eq_some_iff]
  constructor
  · rintro ⟨after, a, before, hreverse, ha, hafter⟩
    refine ⟨before.reverse, a, after.reverse, ?_, ha, fun x hx => hafter x (by simpa using hx)⟩
    rw [← List.reverse_reverse xs, hreverse]
    simp
  · rintro ⟨before, a, after, rfl, ha, hafter⟩
    exact ⟨after.reverse, a, before.reverse, by simp, ha, fun x hx => hafter x (by simpa using hx)⟩

theorem foundUsage_eq_some {fields : JsonObject} {usage : Usage} :
    foundUsage fields = some usage ↔
      hasUsageObject fields = true ∧ reportedUsage fields = some usage := by
  simp [foundUsage]

theorem foundLast_iff (payloads : List JsonObject) (usage : Usage) :
    (payloads.filterMap foundUsage).getLast? = some usage ↔ FoundLast payloads usage := by
  simp only [getLast?_filterMap_iff, FoundLast, foundUsage_eq_some, and_assoc]
  simp only [foundUsage, ite_eq_right_iff]

/-! The stream read by the extractor, and by one that never raises. -/

def objectJson (payload : Text) : Option Json := (loadsObject loads payload).map .obj

def foundIn : Json → Option Usage
  | .obj fields => foundUsage fields
  | _ => none

variable {loads}

theorem readAlike_object {payload : Text} (h : Harmless loads payload) :
    ReadAlike loads (jsonLoads (objectJson loads)) extractMessagesUsage (totalExtractor foundIn)
      payload := by
  intro latestUsage
  obtain hloads | ⟨fields, hloads⟩ := h
  · simp [consumePayload, jsonLoads, objectJson, loadsObject, hloads]
  · simp [consumePayload, jsonLoads, objectJson, loadsObject, hloads, totalExtractor, foundIn,
      extractMessagesUsage_object]

theorem streamUsage_found (stream : SseStream) :
    streamUsage (objectJson loads) foundIn stream =
      ((streamFields loads stream).filterMap foundUsage).getLast? := by
  rw [streamUsage, streamFields, List.filterMap_filterMap]
  congr 2
  funext event
  simp only [SseEvent.usage, eventFields, objectJson]
  cases event.payload with
  | none => rfl
  | some payload =>
    dsimp only
    split_ifs with hdone
    · rfl
    · cases loadsObject loads payload <;> rfl

theorem completedPayloads_stream {stream : SseStream} (h : MessagesStream loads stream) :
    ∀ payload ∈ completedPayloads [] (renderStream stream), Harmless loads payload := by
  intro payload hpayload
  rw [completedPayloads, (takeText_stream stream).1, List.filterMap_map, List.mem_filterMap]
    at hpayload
  obtain ⟨event, hevent, hraw⟩ := hpayload
  rw [Function.comp_apply, eventPayload_raw] at hraw
  cases hdata : event.payload with
  | none => simp [hdata] at hraw
  | some data =>
    simp only [hdata] at hraw
    split_ifs at hraw with hdone
    cases hraw
    exact (h event hevent payload hdata).resolve_left hdone

/-- What the parser ends with. Where no call overflows it holds the last pair that the
extractor finds. -/
theorem parseStream_messages {stream : SseStream} {chunks : List Chunk} (maxBufferBytes : ℕ)
    (hmessages : MessagesStream loads stream) (hbytes : chunks.flatten = streamBytes stream) :
    ∃ t, parseStream loads extractMessagesUsage maxBufferBytes .initial chunks = .ok t ∧
      if scanOverflows maxBufferBytes .initial chunks then
        t.accountingStatusOverride = some .parseError
      else t.accountingStatusOverride = none ∧
        t.latestUsage = ((streamFields loads stream).filterMap foundUsage).getLast? := by
  obtain ⟨hread, hclean⟩ := takeText_stream stream
  have hsettled : Settled [] := trivial
  have hdecode : Utf8Decoder.decode ParseState.initial.held chunks.flatten =
      some (renderStream stream, []) := decode_stream hbytes
  have halike := fun payload hpayload =>
    readAlike_object (completedPayloads_stream hmessages payload hpayload)
  have hsame := parseStream_congr maxBufferBytes rfl rfl hdecode hsettled hclean halike
  obtain ⟨t, ht⟩ : ∃ t, parseStream (jsonLoads (objectJson loads)) (totalExtractor foundIn)
      maxBufferBytes .initial chunks = .ok t := parseStream_total .initial chunks
  refine ⟨t, hsame.trans ht, ?_⟩
  have hscan := reportsOverflow_scan (objectJson loads) foundIn maxBufferBytes .initial chunks
  split_ifs with hover
  · exact parseStream_parseError ht rfl (.inr (.inl (hscan.trans hover)))
  · have hfits := hscan.trans (Bool.eq_false_of_not_eq_true hover)
    have hparsed := parseStream_takeText rfl rfl hdecode hsettled hclean hfits
    rw [ht, Except.ok.injEq] at hparsed
    subst hparsed
    refine ⟨rfl, ?_⟩
    rw [← streamUsage_found, hread]
    exact usageAfter_stream stream

theorem accountingOutcome_recorded {ctx : StreamContext} {parse : ParseState} {usage : Usage}
    (hsuccess : 200 ≤ ctx.statusCode ∧ ctx.statusCode < 300) :
    accountingOutcome ctx ⟨false, false, parse, none, false⟩ = .recorded usage ↔
      parse.accountingStatusOverride = none ∧ parse.latestUsage = some usage := by
  simp only [accountingOutcome, Bool.or_self, Bool.false_eq_true, if_false, hsuccess, and_self,
    if_true]
  cases parse.accountingStatusOverride with
  | some status => simp
  | none => cases parse.latestUsage <;> simp

theorem streamOutcome_recorded_iff {stream : SseStream} {chunks : List Chunk} (ctx : StreamContext)
    (maxBufferBytes : ℕ) (usage : Usage) (hsuccess : 200 ≤ ctx.statusCode ∧ ctx.statusCode < 300)
    (hmessages : MessagesStream loads stream) (hbytes : chunks.flatten = streamBytes stream) :
    streamOutcome ctx loads extractMessagesUsage maxBufferBytes chunks = some (.recorded usage) ↔
      scanOverflows maxBufferBytes .initial chunks = false ∧
        FoundLast (streamFields loads stream) usage := by
  obtain ⟨t, ht, hends⟩ := parseStream_messages maxBufferBytes hmessages hbytes
  simp only [streamOutcome, drive_connected ctx ht, Option.some.injEq,
    accountingOutcome_recorded hsuccess]
  split_ifs at hends with hover
  · simp [hends, hover]
  · rw [← foundLast_iff, hends.2]
    simp [hends.1, hover]

def recordedEffects (ctx : StreamContext) (usage : Usage) : List Effect :=
  increment (.promptTokens ctx.department ctx.modelName) usage.1.value ++
    increment (.generationTokens ctx.department ctx.modelName) usage.2.value ++
    recordTokenAccounting ctx.department ctx.modelName ctx.endpoint .recorded ++
    [.recordTokens ctx.department ctx.modelName (usage.1.value + usage.2.value)]

theorem accountAs_recorded_iff {ctx : StreamContext} (usage : Usage)
    (hsuccess : 200 ≤ ctx.statusCode ∧ ctx.statusCode < 300) :
    (accountAs ctx (.recorded usage)).1 = recordedEffects ctx usage ↔
      takes ctx.counterAccepts usage.1.value = true ∧
        takes ctx.counterAccepts usage.2.value = true := by
  have haccounted := accountUsage_cases ctx.counterAccepts ctx.department ctx.modelName
    ctx.endpoint ctx.statusCode (some usage)
  dsimp only at haccounted
  simp only [accountAs]
  generalize accountUsage ctx.counterAccepts ctx.department ctx.modelName ctx.endpoint
    ctx.statusCode (some usage) = accounted at haccounted ⊢
  obtain ⟨effects, raised⟩ := accounted
  cases haccounted with
  | missing hmissing => cases hmissing hsuccess
  | promptRefused _ hprompt => simp [recordedEffects, hprompt]
  | @generationRefused promptTokens _ _ _ hgeneration =>
    have hlonger (xs ys : List Effect) (hys : ys ≠ []) : xs ≠ xs ++ ys := by simpa using hys
    simp only [recordedEffects, hgeneration, Bool.false_eq_true, and_false, iff_false,
      List.append_assoc]
    exact hlonger _ _ (by simp)
  | recorded _ hprompt hgeneration => exact iff_of_true rfl ⟨hprompt, hgeneration⟩

/-- The stream is accounted `recorded` with this pair: the generator finds it to be
so, and counts, records and charges the pair before it ends. -/
structure RecordedWith (ctx : StreamContext) (loads : Text → Except LoadsError Json)
    (maxBufferBytes : ℕ) (chunks : List Chunk) (usage : Usage) : Prop where
  outcome : streamOutcome ctx loads extractMessagesUsage maxBufferBytes chunks =
    some (.recorded usage)
  run : ∃ ended, drive loads extractMessagesUsage maxBufferBytes ctx .created
      (connectedInputs chunks ++ [.closed]) =
    some (firstChunkEffects ctx false chunks.flatten ++
      ([.exchangeClosed ctx.department ctx.modelName, .release ctx.lease] ++
        recordedEffects ctx usage), .finished ended)

theorem drive_recorded {stream : SseStream} {chunks : List Chunk} {ctx : StreamContext}
    {maxBufferBytes : ℕ} {usage : Usage} (hmessages : MessagesStream loads stream)
    (hbytes : chunks.flatten = streamBytes stream)
    (h : streamOutcome ctx loads extractMessagesUsage maxBufferBytes chunks =
      some (.recorded usage)) :
    ∃ ended, drive loads extractMessagesUsage maxBufferBytes ctx .created
        (connectedInputs chunks ++ [.closed]) =
      some (firstChunkEffects ctx false chunks.flatten ++
        ([.exchangeClosed ctx.department ctx.modelName, .release ctx.lease] ++
          (accountAs ctx (.recorded usage)).1), .finished ended) := by
  obtain ⟨t, ht, hends⟩ := parseStream_messages maxBufferBytes hmessages hbytes
  have hrun := drive_connected ctx ht
  simp only [streamOutcome, hrun, Option.some.injEq] at h
  have hoverride : t.accountingStatusOverride = none ∨
      t.accountingStatusOverride = some .parseError := by
    split_ifs at hends
    · exact .inr hends
    · exact .inl hends.1
  have hclosed := drive_closed ctx hrun
  rw [(finallyBlock_outcome ctx hoverride).1, h] at hclosed
  exact ⟨_, hclosed⟩

theorem recordedWith_iff {stream : SseStream} {chunks : List Chunk} {ctx : StreamContext}
    (maxBufferBytes : ℕ) (usage : Usage) (hsuccess : 200 ≤ ctx.statusCode ∧ ctx.statusCode < 300)
    (hmessages : MessagesStream loads stream) (hbytes : chunks.flatten = streamBytes stream) :
    RecordedWith ctx loads maxBufferBytes chunks usage ↔
      (scanOverflows maxBufferBytes .initial chunks = false ∧
        FoundLast (streamFields loads stream) usage) ∧
      takes ctx.counterAccepts usage.1.value = true ∧
        takes ctx.counterAccepts usage.2.value = true := by
  rw [← streamOutcome_recorded_iff ctx maxBufferBytes usage hsuccess hmessages hbytes,
    ← accountAs_recorded_iff usage hsuccess]
  constructor
  · rintro ⟨houtcome, _, hrun⟩
    obtain ⟨_, hends⟩ := drive_recorded hmessages hbytes houtcome
    rw [hrun, Option.some.injEq, Prod.mk.injEq] at hends
    exact ⟨houtcome, (List.append_cancel_left (List.append_cancel_left hends.1)).symm⟩
  · rintro ⟨houtcome, heffects⟩
    refine ⟨houtcome, ?_⟩
    rw [← heffects]
    exact drive_recorded hmessages hbytes houtcome

/-- The extractor returns the reported pair exactly where the payload has a top-level
`usage` object or its message no pair. A stream whose events report a pair is accounted
`recorded` with the last one exactly where no call overflows, that pair is the last one
found and the counters take it. -/
theorem messages_usage_iff (loads : Text → Except LoadsError Json) :
    (∀ fields, extractMessagesUsage (.obj fields) = .ok (reportedUsage fields) ↔
      hasUsageObject fields = true ∨ messagePair fields = none) ∧
    ∀ (ctx : StreamContext) (maxBufferBytes : ℕ) (stream : SseStream) (chunks : List Chunk)
      (usage : Usage), 200 ≤ ctx.statusCode ∧ ctx.statusCode < 300 →
      MessagesStream loads stream → chunks.flatten = streamBytes stream →
      lastReported loads stream = some usage →
      (RecordedWith ctx loads maxBufferBytes chunks usage ↔
        (scanOverflows maxBufferBytes .initial chunks = false ∧
          FoundLast (streamFields loads stream) usage) ∧
        takes ctx.counterAccepts usage.1.value = true ∧
          takes ctx.counterAccepts usage.2.value = true) := by
  refine ⟨fun fields => ?_, ?_⟩
  · rw [extractMessagesUsage_object, Except.ok.injEq]
    exact foundUsage_iff fields
  · intro ctx maxBufferBytes stream chunks usage hsuccess hmessages hbytes _
    exact recordedWith_iff maxBufferBytes usage hsuccess hmessages hbytes

end

/-! A stream that reports usage when its message starts and again when it changes. -/

def startFields : JsonObject :=
  [("message", .obj [("usage", .obj [("input_tokens", .int 3), ("output_tokens", .int 0)])])]

def deltaFields : JsonObject :=
  [("usage", .obj [("input_tokens", .int 3), ("output_tokens", .int 5)])]

def startPayload : Text :=
  "\x7b\"message\":\x7b\"usage\":\x7b\"input_tokens\":3,\"output_tokens\":0\x7d\x7d\x7d".toList

def deltaPayload : Text :=
  "\x7b\"usage\":\x7b\"input_tokens\":3,\"output_tokens\":5\x7d\x7d".toList

def messagesLoads (payload : Text) : Except LoadsError Json :=
  if payload = startPayload then .ok (.obj startFields)
  else if payload = deltaPayload then .ok (.obj deltaFields)
  else .error .jsonDecode

def dataEvent (payload : Text) (h : payload.all fun c => c != '\r' && c != '\n') : SseEvent :=
  ⟨[⟨"data: ".toList ++ payload, false, by simp, by simpa using h⟩], false, by simp⟩

def startEvent : SseEvent := dataEvent startPayload (by decide +kernel)

def deltaEvent : SseEvent := dataEvent deltaPayload (by decide +kernel)

def messagesContext : StreamContext := { sampleContext with endpoint := .messages }

theorem messagesStream_sample (stream : SseStream) : MessagesStream messagesLoads stream := by
  intro event _ payload _
  refine .inr ?_
  unfold Harmless messagesLoads
  split_ifs
  · exact .inr ⟨startFields, rfl⟩
  · exact .inr ⟨deltaFields, rfl⟩
  · exact .inl rfl

/-- The pair of the message alone is not found, neither in the payload nor in a stream
whose only event carries it. -/
theorem start_usage_missed :
    (¬ ∀ fields, extractMessagesUsage (.obj fields) = .ok (reportedUsage fields)) ∧
    ¬ ∀ (loads : Text → Except LoadsError Json) (ctx : StreamContext) (maxBufferBytes : ℕ)
      (stream : SseStream) (chunks : List Chunk) (usage : Usage),
      200 ≤ ctx.statusCode ∧ ctx.statusCode < 300 → MessagesStream loads stream →
      chunks.flatten = streamBytes stream →
      scanOverflows maxBufferBytes .initial chunks = false →
      takes ctx.counterAccepts usage.1.value = true →
      takes ctx.counterAccepts usage.2.value = true → lastReported loads stream = some usage →
      RecordedWith ctx loads maxBufferBytes chunks usage := by
  constructor
  · intro h
    have hstart := h startFields
    revert hstart
    decide
  · intro h
    have hrecorded := h messagesLoads messagesContext 1000 [startEvent] [streamBytes [startEvent]]
      (.int 3, .int 0) (by decide) (messagesStream_sample _) (by simp) (by decide +kernel)
      (by decide +kernel) (by decide +kernel) (by decide +kernel)
    have houtcome := hrecorded.outcome
    revert houtcome
    decide +kernel

theorem streamFields_sample :
    streamFields messagesLoads [startEvent, deltaEvent] = [startFields, deltaFields] := by
  have hstart : startEvent.payload = some startPayload := by decide +kernel
  have hdelta : deltaEvent.payload = some deltaPayload := by decide +kernel
  have hdone : startPayload ≠ "[DONE]".toList ∧ deltaPayload ≠ "[DONE]".toList := by decide +kernel
  have hdistinct : deltaPayload ≠ startPayload := by decide +kernel
  simp only [streamFields, List.filterMap_cons, List.filterMap_nil, eventFields, hstart, hdelta,
    hdone, if_false, loadsObject, messagesLoads, hdistinct, if_true]

/-- A pair at the top level after it is found, here in two chunks. -/
theorem messages_usage_iff_delta :
    RecordedWith messagesContext messagesLoads 1000
      [streamBytes [startEvent], streamBytes [deltaEvent]] (.int 3, .int 5) := by
  refine ((messages_usage_iff messagesLoads).2 messagesContext 1000 [startEvent, deltaEvent]
    [streamBytes [startEvent], streamBytes [deltaEvent]] (.int 3, .int 5) (by decide)
    (messagesStream_sample _) (by decide +kernel) (by decide +kernel)).mpr
    ⟨⟨by decide +kernel, ?_⟩, by decide +kernel, by decide +kernel⟩
  exact ⟨[startFields], deltaFields, [], streamFields_sample, by decide, by decide, by simp⟩

end VllmSourceGateway.MessagesUsage
