import VllmSourceGateway.Metrics
import VllmSourceGateway.Utf8Decoder

set_option autoImplicit false

/-! Usage parsing of a server-sent event stream: `_consume_sse_events` and the
part of the body generator's loop around it. -/
namespace VllmSourceGateway.SseParser
open PyText PyValues UsageExtractors Metrics

abbrev Chunk := List UInt8

def dataLines (rawEvent : Text) : List Text :=
  (rawEvent.splitOn '\n').filterMap fun line => (afterPrefix? "data:".toList line).map lstrip

/-- What of an event goes to `json.loads`. -/
def eventPayload (rawEvent : Text) : Option Text :=
  match dataLines rawEvent with
  | [] => none
  | lines =>
    let payload := List.intercalate ['\n'] lines
    if payload = "[DONE]".toList then none else some payload

section
variable (loads : Text → Except LoadsError Json) (extract : UsageExtractor) (maxBufferBytes : ℕ)

/-- Only `JSONDecodeError` is caught. -/
def consumePayload (latestUsage : Option Usage) (payload : Text) : Except Exn (Option Usage) :=
  match loads payload with
  | .error .jsonDecode => .ok latestUsage
  | .error e => .error e.exn
  | .ok parsed =>
    match extract parsed with
    | .error e => .error e
    | .ok usage => .ok (usage.or latestUsage)

def consumePayloads : Option Usage → List Text → Except Exn (Option Usage)
  | latestUsage, [] => .ok latestUsage
  | latestUsage, payload :: payloads =>
    match consumePayload loads extract latestUsage payload with
    | .error e => .error e
    | .ok latestUsage => consumePayloads latestUsage payloads

/-- The buffer left, the latest usage and whether the buffer overflowed. -/
def consumeSseEvents (buffer fragment : Text) (latestUsage : Option Usage) :
    Except Exn (Text × Option Usage × Bool) :=
  let normalizedBuffer := replaceCrlf (buffer ++ fragment)
  if maxBufferBytes < utf8Size normalizedBuffer then .ok ([], latestUsage, true)
  else
    let (rawEvents, rest) := splitEvents normalizedBuffer
    match consumePayloads loads extract latestUsage (rawEvents.filterMap eventPayload) with
    | .error e => .error e
    | .ok latestUsage => .ok (rest, latestUsage, false)

/-- The generator's parsing variables; `held` is the decoder's. -/
structure ParseState where
  latestUsage : Option Usage
  decodeBuffer : Text
  parsingEnabled : Bool
  accountingStatusOverride : Option AccountingStatus
  held : List ℕ
  deriving DecidableEq

def ParseState.initial : ParseState := ⟨none, [], true, none, []⟩

def feedChunk (s : ParseState) (chunk : Chunk) : Except Exn ParseState :=
  if s.parsingEnabled && !chunk.isEmpty then
    match Utf8Decoder.decode s.held chunk with
    | none =>
      .ok { s with parsingEnabled := false, accountingStatusOverride := some .parseError }
    | some (fragment, held) =>
      match consumeSseEvents loads extract maxBufferBytes s.decodeBuffer fragment s.latestUsage with
      | .error e => .error e
      | .ok (_, latestUsage, true) => .ok ⟨latestUsage, [], false, some .parseError, held⟩
      | .ok (decodeBuffer, latestUsage, false) =>
        .ok { s with latestUsage := latestUsage, decodeBuffer := decodeBuffer, held := held }
  else .ok s

def flush (s : ParseState) : Except Exn ParseState :=
  if s.parsingEnabled then
    match Utf8Decoder.finish s.held with
    | none =>
      .ok { s with parsingEnabled := false, accountingStatusOverride := some .parseError }
    | some fragment =>
      match consumeSseEvents loads extract maxBufferBytes s.decodeBuffer fragment s.latestUsage with
      | .error e => .error e
      | .ok (decodeBuffer, latestUsage, overflowed) =>
        .ok { s with
          latestUsage := latestUsage
          decodeBuffer := decodeBuffer
          accountingStatusOverride :=
            if overflowed then some .parseError else s.accountingStatusOverride }
  else .ok s

def feedChunks : ParseState → List Chunk → Except Exn ParseState
  | s, [] => .ok s
  | s, chunk :: chunks =>
    match feedChunk loads extract maxBufferBytes s chunk with
    | .error e => .error e
    | .ok s => feedChunks s chunks

end

/-! ## Which payloads are looked at

The scanner is the parser without `json.loads` and the extractor: it keeps the
text and lists the payloads that the parser hands on. -/

structure ScanState where
  buffer : Text
  enabled : Bool
  held : List ℕ
  deriving DecidableEq

def ScanState.initial : ScanState := ⟨[], true, []⟩

def ParseState.scanned (s : ParseState) : ScanState := ⟨s.decodeBuffer, s.parsingEnabled, s.held⟩

/-- The payloads completed by a fragment and the text left; none on overflow. -/
def scanFragment (maxBufferBytes : ℕ) (buffer fragment : Text) : Option (List Text × Text) :=
  let normalizedBuffer := replaceCrlf (buffer ++ fragment)
  if maxBufferBytes < utf8Size normalizedBuffer then none
  else
    let (rawEvents, rest) := splitEvents normalizedBuffer
    some (rawEvents.filterMap eventPayload, rest)

def scanChunk (maxBufferBytes : ℕ) (s : ScanState) (chunk : Chunk) : List Text × ScanState :=
  if s.enabled && !chunk.isEmpty then
    match Utf8Decoder.decode s.held chunk with
    | none => ([], { s with enabled := false })
    | some (fragment, held) =>
      match scanFragment maxBufferBytes s.buffer fragment with
      | none => ([], ⟨[], false, held⟩)
      | some (payloads, rest) => (payloads, { s with buffer := rest, held := held })
  else ([], s)

def scanEnd (maxBufferBytes : ℕ) (s : ScanState) : List Text :=
  if s.enabled then
    match Utf8Decoder.finish s.held with
    | none => []
    | some fragment =>
      match scanFragment maxBufferBytes s.buffer fragment with
      | none => []
      | some (payloads, _) => payloads
  else []

def scanChunks (maxBufferBytes : ℕ) : ScanState → List Chunk → List Text × ScanState
  | s, [] => ([], s)
  | s, chunk :: chunks =>
    let (payloads, s) := scanChunk maxBufferBytes s chunk
    let (more, s) := scanChunks maxBufferBytes s chunks
    (payloads ++ more, s)

def streamPayloads (maxBufferBytes : ℕ) (chunks : List Chunk) : List Text :=
  let (payloads, s) := scanChunks maxBufferBytes .initial chunks
  payloads ++ scanEnd maxBufferBytes s

/-- A payload that cannot make the parser raise: not JSON, or a JSON object. -/
def Harmless (loads : Text → Except LoadsError Json) (payload : Text) : Prop :=
  loads payload = .error .jsonDecode ∨ ∃ fields, loads payload = .ok (.obj fields)

section
variable (loads : Text → Except LoadsError Json) (maxBufferBytes : ℕ) (endpoint : Endpoint)

theorem consumePayload_ok_iff (latestUsage : Option Usage) (payload : Text) :
    (∃ usage, consumePayload loads endpoint.extractUsage latestUsage payload = .ok usage) ↔
      Harmless loads payload := by
  cases hloads : loads payload with
  | error e => cases e <;> simp [consumePayload, Harmless, hloads]
  | ok parsed =>
    have hharmless : Harmless loads payload ↔ ∃ fields, parsed = .obj fields := by
      simp [Harmless, hloads]
    rw [hharmless]
    constructor
    · rintro ⟨usage, husage⟩
      by_contra hnot
      have hraise := extractUsage_other endpoint parsed fun fields hfields => hnot ⟨fields, hfields⟩
      simp [consumePayload, hloads, hraise] at husage
    · rintro ⟨fields, rfl⟩
      obtain ⟨usage, husage⟩ := extractUsage_object endpoint fields
      exact ⟨usage.or latestUsage, by simp [consumePayload, hloads, husage]⟩

theorem consumePayloads_ok_iff (latestUsage : Option Usage) (payloads : List Text) :
    (∃ usage, consumePayloads loads endpoint.extractUsage latestUsage payloads = .ok usage) ↔
      ∀ payload ∈ payloads, Harmless loads payload := by
  induction payloads generalizing latestUsage with
  | nil => simp [consumePayloads]
  | cons payload payloads ih =>
    have hhead := consumePayload_ok_iff loads endpoint latestUsage payload
    rw [List.forall_mem_cons]
    cases hconsume : consumePayload loads endpoint.extractUsage latestUsage payload with
    | error e =>
      have hnot : ¬ Harmless loads payload := by simpa [hconsume] using hhead.not
      simp [consumePayloads, hconsume, hnot]
    | ok usage =>
      have hharmless : Harmless loads payload := hhead.mp ⟨usage, hconsume⟩
      simp only [consumePayloads, hconsume, ih, hharmless, true_and]

end

section
variable (loads : Text → Except LoadsError Json) (extract : UsageExtractor) (maxBufferBytes : ℕ)

theorem consumeSseEvents_scan (buffer fragment : Text) (latestUsage : Option Usage) :
    consumeSseEvents loads extract maxBufferBytes buffer fragment latestUsage =
      match scanFragment maxBufferBytes buffer fragment with
      | none => .ok ([], latestUsage, true)
      | some (payloads, rest) =>
        match consumePayloads loads extract latestUsage payloads with
        | .error e => .error e
        | .ok usage => .ok (rest, usage, false) := by
  simp only [consumeSseEvents, scanFragment]
  split_ifs <;> rfl

/-- Parsing consumes the payloads: it raises where one of them does, and otherwise
leaves a parser that `After` describes. -/
inductive Consumes (latestUsage : Option Usage) (payloads : List Text)
    (After : Option Usage → ParseState → Prop) : Except Exn ParseState → Prop where
  | raised {e : Exn} (hconsume : consumePayloads loads extract latestUsage payloads = .error e) :
      Consumes latestUsage payloads After (.error e)
  | parsed {usage : Option Usage} {t : ParseState}
      (hconsume : consumePayloads loads extract latestUsage payloads = .ok usage)
      (hafter : After usage t) : Consumes latestUsage payloads After (.ok t)

/-- One chunk: the parser consumes the scanner's payloads and nothing else. -/
theorem feedChunk_scan (s : ParseState) (chunk : Chunk) :
    Consumes loads extract s.latestUsage (scanChunk maxBufferBytes s.scanned chunk).1
      (fun usage t => t.latestUsage = usage ∧
        t.scanned = (scanChunk maxBufferBytes s.scanned chunk).2)
      (feedChunk loads extract maxBufferBytes s chunk) := by
  by_cases hskip : (s.parsingEnabled && !chunk.isEmpty) = true
  · simp only [feedChunk, scanChunk, ParseState.scanned, hskip, if_true]
    rcases Option.eq_none_or_eq_some (Utf8Decoder.decode s.held chunk) with
      hdecode | ⟨⟨fragment, held⟩, hdecode⟩
    · simp only [hdecode]
      exact .parsed rfl ⟨rfl, rfl⟩
    · simp only [hdecode, consumeSseEvents_scan]
      rcases Option.eq_none_or_eq_some (scanFragment maxBufferBytes s.decodeBuffer fragment) with
        hscan | ⟨⟨payloads, rest⟩, hscan⟩
      · simp only [hscan]
        exact .parsed rfl ⟨rfl, rfl⟩
      · simp only [hscan]
        cases hconsume : consumePayloads loads extract s.latestUsage payloads with
        | error e => exact .raised hconsume
        | ok usage => exact .parsed hconsume ⟨rfl, rfl⟩
  · simp only [feedChunk, scanChunk, ParseState.scanned, hskip, Bool.false_eq_true, if_false]
    exact .parsed rfl ⟨rfl, rfl⟩

theorem flush_scan (s : ParseState) :
    Consumes loads extract s.latestUsage (scanEnd maxBufferBytes s.scanned)
      (fun usage t => t.latestUsage = usage) (flush loads extract maxBufferBytes s) := by
  by_cases henabled : s.parsingEnabled = true
  · simp only [flush, scanEnd, ParseState.scanned, henabled, if_true]
    rcases Option.eq_none_or_eq_some (Utf8Decoder.finish s.held) with hfinish | ⟨fragment, hfinish⟩
    · simp only [hfinish]
      exact .parsed rfl rfl
    · simp only [hfinish, consumeSseEvents_scan]
      rcases Option.eq_none_or_eq_some (scanFragment maxBufferBytes s.decodeBuffer fragment) with
        hscan | ⟨⟨payloads, rest⟩, hscan⟩
      · simp only [hscan]
        exact .parsed rfl rfl
      · simp only [hscan]
        cases hconsume : consumePayloads loads extract s.latestUsage payloads with
        | error e => exact .raised hconsume
        | ok usage => exact .parsed hconsume rfl
  · simp only [flush, scanEnd, ParseState.scanned, henabled, Bool.false_eq_true, if_false]
    exact .parsed rfl rfl

end

section
variable (loads : Text → Except LoadsError Json) (maxBufferBytes : ℕ) (endpoint : Endpoint)

theorem Consumes.ok_iff {latestUsage : Option Usage} {payloads : List Text}
    {After : Option Usage → ParseState → Prop} {parsed : Except Exn ParseState}
    (h : Consumes loads endpoint.extractUsage latestUsage payloads After parsed) :
    (∃ t, parsed = .ok t) ↔ ∀ payload ∈ payloads, Harmless loads payload := by
  rw [← consumePayloads_ok_iff loads endpoint latestUsage]
  cases h with
  | raised hconsume => simp [hconsume]
  | parsed hconsume => simp [hconsume]

theorem feedChunk_ok_iff (s : ParseState) (chunk : Chunk) :
    (∃ t, feedChunk loads endpoint.extractUsage maxBufferBytes s chunk = .ok t) ↔
      ∀ payload ∈ (scanChunk maxBufferBytes s.scanned chunk).1, Harmless loads payload :=
  (feedChunk_scan loads endpoint.extractUsage maxBufferBytes s chunk).ok_iff

theorem feedChunk_scanned {extract : UsageExtractor} {s t : ParseState} {chunk : Chunk}
    (h : feedChunk loads extract maxBufferBytes s chunk = .ok t) :
    t.scanned = (scanChunk maxBufferBytes s.scanned chunk).2 := by
  have hscan := feedChunk_scan loads extract maxBufferBytes s chunk
  rw [h] at hscan
  cases hscan with
  | parsed _ hafter => exact hafter.2

theorem flush_ok_iff (s : ParseState) :
    (∃ t, flush loads endpoint.extractUsage maxBufferBytes s = .ok t) ↔
      ∀ payload ∈ scanEnd maxBufferBytes s.scanned, Harmless loads payload :=
  (flush_scan loads endpoint.extractUsage maxBufferBytes s).ok_iff

end

end VllmSourceGateway.SseParser
