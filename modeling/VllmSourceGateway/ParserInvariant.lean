import VllmSourceGateway.StreamPacketization

set_option autoImplicit false

/-! The memory bound of usage parsing. What the generator retains between chunks
is the text after the last blank line of a buffer that was within the limit, so
normalising it once more at the end of the stream cannot take it over the limit. -/
namespace VllmSourceGateway.ParserInvariant
open PyText PyValues UsageExtractors Metrics AdmissionControl GatewayEffects SseParser StreamBytes
open StreamBytesOutcomes StreamPacketization

@[simp] theorem utf8Size_cons (c : Char) (t : Text) :
    utf8Size (c :: t) = c.utf8Size + utf8Size t := List.sum_cons

theorem utf8Size_append (s t : Text) : utf8Size (s ++ t) = utf8Size s + utf8Size t := by
  rw [utf8Size, List.map_append, List.sum_append]
  rfl

theorem utf8Size_replaceCrlf_le (t : Text) : utf8Size (replaceCrlf t) ≤ utf8Size t := by
  induction t using replaceCrlf.induct with
  | case1 t ih =>
    rw [replaceCrlf]
    simp only [utf8Size_cons]
    omega
  | case2 c t hcrlf ih =>
    rw [replaceCrlf]
    · simp only [utf8Size_cons]
      omega
    · exact hcrlf
  | case3 => exact le_rfl

/-- Nothing is read twice: what is left is a suffix of the text since the last cut. -/
theorem splitEventsFrom_suffix (line t : Text) :
    (splitEventsFrom line t).2 <:+ line.reverse ++ t := by
  induction line, t using splitEventsFrom.induct with
  | case1 line t events rest hsplit ih =>
    rw [splitEventsFrom, hsplit]
    rw [hsplit] at ih
    exact ih.trans ⟨line.reverse ++ ['\n', '\n'], by simp⟩
  | case2 line c t hblank ih =>
    rw [splitEventsFrom]
    · simpa using ih
    · exact hblank
  | case3 line => simp [splitEventsFrom]

/-- The text since the last cut has no blank line, nor has it one with the
character after it. -/
theorem splitEventsFrom_unfinished (line t : Text) (hline : ¬ ['\n', '\n'] <:+: line)
    (hnext : line.head? = some '\n' → t.head? ≠ some '\n') :
    ¬ ['\n', '\n'] <:+: (splitEventsFrom line t).2 := by
  induction line, t using splitEventsFrom.induct with
  | case1 line t events rest hsplit ih =>
    rw [splitEventsFrom, hsplit]
    rw [hsplit] at ih
    exact ih (by simp) (by simp)
  | case2 line c t hblank ih =>
    rw [splitEventsFrom]
    · refine ih ?_ ?_
      · rw [List.infix_cons_iff]
        rintro (hstart | hlater)
        · obtain ⟨hc, hrest⟩ := List.cons_prefix_cons.mp hstart
          obtain ⟨after, rfl⟩ := hrest
          exact hnext rfl (by rw [← hc]; rfl)
        · exact hline hlater
      · intro hc ht
        obtain ⟨u, rfl⟩ := List.head?_eq_some_iff.mp ht
        exact hblank u (Option.some.inj hc) rfl
    · exact hblank
  | case3 line =>
    intro hinfix
    rw [splitEventsFrom] at hinfix
    exact hline (List.reverse_infix.mp hinfix)

/-- The retained text is within the limit and has no complete event in it. -/
structure Retained (maxBufferBytes : ℕ) (buffer : Text) : Prop where
  size : utf8Size buffer ≤ maxBufferBytes
  unfinished : ¬ ['\n', '\n'] <:+: buffer

section
variable {loads : Text → Except LoadsError Json} {extract : UsageExtractor} {maxBufferBytes : ℕ}
  {s t : ParseState}

theorem consumeSseEvents_retained {buffer fragment buffer' : Text} {usage usage' : Option Usage}
    (h : consumeSseEvents loads extract maxBufferBytes buffer fragment usage =
      .ok (buffer', usage', false)) : Retained maxBufferBytes buffer' := by
  simp only [consumeSseEvents] at h
  split at h
  · cases h
  · rename_i hfits
    split at h
    · cases h
    · cases h
      have hsuffix := splitEventsFrom_suffix [] (replaceCrlf (buffer ++ fragment))
      obtain ⟨before, hbefore⟩ := hsuffix
      have hsize := utf8Size_append before (splitEvents (replaceCrlf (buffer ++ fragment))).2
      rw [splitEvents, hbefore, List.reverse_nil, List.nil_append] at hsize
      refine ⟨?_, splitEventsFrom_unfinished [] _ (by simp) (by simp)⟩
      rw [splitEvents]
      omega

/-- Either parsing is disabled or the buffer is as small as the limit says. -/
def Bounded (maxBufferBytes : ℕ) (s : ParseState) : Prop :=
  s.parsingEnabled = false ∨ Retained maxBufferBytes s.decodeBuffer

theorem initial_bounded : Bounded maxBufferBytes .initial :=
  .inr ⟨Nat.zero_le _, by simp [ParseState.initial]⟩

theorem feedChunk_bounded {chunk : Chunk} (h : feedChunk loads extract maxBufferBytes s chunk = .ok t)
    (hs : Bounded maxBufferBytes s) : Bounded maxBufferBytes t := by
  simp only [feedChunk] at h
  split at h
  · split at h
    · cases h
      exact .inl rfl
    · split at h
      · cases h
      · cases h
        exact .inl rfl
      · rename_i hconsume
        cases h
        exact .inr (consumeSseEvents_retained hconsume)
  · cases h
    exact hs

/-- The decoder's last fragment is empty and the retained text fits. -/
theorem Bounded.end_fits (hs : Bounded maxBufferBytes s) :
    endOverflows loads extract maxBufferBytes s = false := by
  obtain hdisabled | hretained := hs
  · simp [endOverflows, hdisabled]
  · have hfits : ¬ maxBufferBytes < utf8Size (replaceCrlf (s.decodeBuffer ++ [])) := by
      rw [List.append_nil, not_lt]
      exact (utf8Size_replaceCrlf_le _).trans hretained.size
    simp only [endOverflows, Utf8Decoder.finish]
    by_cases hheld : s.held = []
    · rw [if_pos hheld, Bool.and_eq_false_iff]
      right
      simp only [callOverflows, consumeSseEvents, if_neg hfits]
      cases consumePayloads loads extract s.latestUsage _ <;> rfl
    · simp [hheld]

theorem flush_bounded (h : flush loads extract maxBufferBytes s = .ok t)
    (hs : Bounded maxBufferBytes s) (hflags : FlagsAgree s) :
    Bounded maxBufferBytes t ∧ FlagsAgree t := by
  have hfits : endOverflows loads extract maxBufferBytes s = false := hs.end_fits
  simp only [flush] at h
  split at h
  · rename_i henabled
    split at h
    · cases h
      exact ⟨.inl rfl, rfl⟩
    · rename_i fragment hfinish
      split at h
      · cases h
      · rename_i buffer usage overflowed hconsume
        have hover : overflowed = false := by
          simpa [endOverflows, henabled, hfinish, callOverflows, hconsume] using hfits
        subst hover
        cases h
        exact ⟨.inr (consumeSseEvents_retained hconsume), hflags⟩
  · cases h
    exact ⟨hs, hflags⟩

/-- A disabled parser looks at nothing any more. -/
theorem feedChunk_disabled (hs : s.parsingEnabled = false) (chunk : Chunk) :
    feedChunk loads extract maxBufferBytes s chunk = .ok s := by
  simp [feedChunk, hs]

theorem flush_disabled (hs : s.parsingEnabled = false) :
    flush loads extract maxBufferBytes s = .ok s := by
  simp [flush, hs]

end

/-- The parser's variables, from the first resumption until the generator is over. -/
def parserOf : StreamPoint → Option ParseState
  | .created | .finished _ => none
  | .awaitChunk locals | .awaitDisconnect locals _ | .yielded locals _ => some locals.parse
  | .awaitClose exit => some exit.parse

def accountedStatus : Effect → Option AccountingStatus
  | .metric (.tokenAccounting _ status) => some status
  | .metric (.modelTokenAccounting _ _ _ status) => some status
  | _ => none

section
variable {loads : Text → Except LoadsError Json} {extract : UsageExtractor} {maxBufferBytes : ℕ}
  {ctx : StreamContext} {point point' : StreamPoint} {effects : List Effect} {s : ParseState}

inductive Parses (loads : Text → Except LoadsError Json) (extract : UsageExtractor)
    (maxBufferBytes : ℕ) : Option ParseState → ParseState → Prop where
  | started : Parses loads extract maxBufferBytes none .initial
  | kept (s : ParseState) : Parses loads extract maxBufferBytes (some s) s
  | fed {s t : ParseState} {chunk : Chunk}
      (hfeed : feedChunk loads extract maxBufferBytes s chunk = .ok t) :
      Parses loads extract maxBufferBytes (some s) t
  | flushed {s t : ParseState} (hflush : flush loads extract maxBufferBytes s = .ok t) :
      Parses loads extract maxBufferBytes (some s) t

/-- A resumption ends the generator or takes its parser one move further. -/
theorem resume_parses {input : StreamInput}
    (h : resume loads extract maxBufferBytes ctx point input = some (effects, point')) :
    (∃ outcome, point' = .finished outcome) ∨
      ∃ t, parserOf point' = some t ∧ Parses loads extract maxBufferBytes (parserOf point) t := by
  cases point with
  | created =>
    cases input <;> cases h
    · exact .inr ⟨_, rfl, .started⟩
    · exact .inl ⟨_, rfl⟩
  | awaitChunk locals =>
    cases input with
    | chunk | raised =>
      cases h
      exact .inr ⟨_, rfl, .kept locals.parse⟩
    | streamEnd =>
      cases h
      refine .inr ⟨_, rfl, ?_⟩
      simp only [afterLoop]
      split
      · exact .kept locals.parse
      · rename_i hflush
        exact .flushed hflush
    | next | close | disconnected | closed => cases h
  | awaitDisconnect locals chunk =>
    cases input with
    | disconnected isDisconnected =>
      cases isDisconnected with
      | true =>
        cases h
        exact .inr ⟨_, rfl, .kept locals.parse⟩
      | false =>
        simp only [resume, handleChunk, Option.some.injEq] at h
        split at h
        · cases h
          exact .inr ⟨_, rfl, .kept locals.parse⟩
        · rename_i hfeed
          cases h
          exact .inr ⟨_, rfl, .fed hfeed⟩
    | raised e =>
      cases h
      exact .inr ⟨_, rfl, .kept locals.parse⟩
    | next | close | chunk | streamEnd | closed => cases h
  | yielded locals chunk => cases input <;> cases h <;> exact .inr ⟨_, rfl, .kept locals.parse⟩
  | awaitClose exit => cases input <;> cases h <;> exact .inl ⟨_, rfl⟩
  | finished outcome => cases input <;> cases h

/-- The parser's invariant: the bound, and `parse_error` with disabled parsing only. -/
def Sound (maxBufferBytes : ℕ) (s : ParseState) : Prop := Bounded maxBufferBytes s ∧ FlagsAgree s

theorem Parses.sound {before : Option ParseState} {t : ParseState}
    (h : Parses loads extract maxBufferBytes before t)
    (hbefore : ∀ s ∈ before, Sound maxBufferBytes s) : Sound maxBufferBytes t := by
  cases h with
  | started => exact ⟨initial_bounded, rfl⟩
  | kept => exact hbefore t rfl
  | fed hfeed =>
    obtain ⟨hbounded, hflags⟩ := hbefore _ rfl
    exact ⟨feedChunk_bounded hfeed hbounded, feedChunk_flags hfeed hflags⟩
  | flushed hflush =>
    obtain ⟨hbounded, hflags⟩ := hbefore _ rfl
    exact flush_bounded hflush hbounded hflags

theorem Parses.disabled {t : ParseState} (h : Parses loads extract maxBufferBytes (some s) t)
    (hs : s.parsingEnabled = false) : t = s := by
  cases h with
  | kept => rfl
  | fed hfeed =>
    rw [feedChunk_disabled hs] at hfeed
    cases hfeed
    rfl
  | flushed hflush =>
    rw [flush_disabled hs] at hflush
    cases hflush
    rfl

theorem drive_sound {inputs : List StreamInput}
    (h : drive loads extract maxBufferBytes ctx point inputs = some (effects, point'))
    (hpoint : ∀ s ∈ parserOf point, Sound maxBufferBytes s) :
    ∀ s ∈ parserOf point', Sound maxBufferBytes s := by
  induction inputs generalizing point effects with
  | nil =>
    cases h
    exact hpoint
  | cons input inputs ih =>
    obtain ⟨now, next, later, hresume, hlater, -⟩ := drive_cons ctx h
    refine ih hlater fun t ht => ?_
    obtain ⟨outcome, rfl⟩ | ⟨u, hu, hparses⟩ := resume_parses hresume
    · cases ht
    · rw [hu] at ht
      cases ht
      exact hparses.sound hpoint

/-- Until it finishes the generator accounts nothing. -/
theorem goesOn_unaccounted {input : StreamInput} (h : GoesOn ctx point input effects point') :
    ∀ effect ∈ effects, accountedStatus effect = none := by
  obtain hnone | hfirst := h.effects
  · simp [hnone]
  · simp [hfirst, accountedStatus]

theorem drive_finished {outcome : StreamOutcome} {inputs : List StreamInput}
    (h : drive loads extract maxBufferBytes ctx (.finished outcome) inputs =
      some (effects, point')) : effects = [] ∧ point' = .finished outcome := by
  cases inputs with
  | nil =>
    cases h
    exact ⟨rfl, rfl⟩
  | cons input inputs => cases input <;> cases h

theorem drive_unaccounted {inputs : List StreamInput}
    (h : drive loads extract maxBufferBytes ctx point inputs = some (effects, point'))
    (hlive : ∀ outcome, point' ≠ .finished outcome) :
    ∀ effect ∈ effects, accountedStatus effect = none := by
  induction inputs generalizing point effects with
  | nil =>
    cases h
    exact List.forall_mem_nil _
  | cons input inputs ih =>
    obtain ⟨now, next, later, hresume, hlater, rfl⟩ := drive_cons ctx h
    obtain hgoes | ⟨outcome, rfl, -⟩ := resume_cases loads extract maxBufferBytes ctx hresume
    · rw [List.forall_mem_append]
      exact ⟨goesOn_unaccounted hgoes, ih hlater⟩
    · exact absurd (drive_finished hlater).2 (hlive outcome)

/-- The statuses of a request whose usage was not parsed to the end. -/
def Unrecorded (effects : List Effect) : Prop :=
  ∀ effect ∈ effects, ∀ status ∈ accountedStatus effect,
    status = .parseError ∨ status = .missingUsage

theorem unrecorded_of_unaccounted (h : ∀ effect ∈ effects, accountedStatus effect = none) :
    Unrecorded effects := by
  intro effect heffect status hstatus
  rw [h effect heffect] at hstatus
  cases hstatus

theorem recordTokenAccounting_unrecorded {department modelName : String} {endpoint : Endpoint}
    {status : AccountingStatus} (h : status = .parseError ∨ status = .missingUsage) :
    Unrecorded (recordTokenAccounting department modelName endpoint status) := by
  simpa [Unrecorded, recordTokenAccounting, accountedStatus] using h

/-- The `finally` block of a generator whose parser is disabled. -/
theorem finallyBlock_unrecorded {exit : Exit} (hdisabled : exit.parse.parsingEnabled = false)
    (hflags : FlagsAgree exit.parse) : Unrecorded (finallyBlock ctx exit).1 := by
  have hoverride : exit.parse.accountingStatusOverride = some .parseError := by
    rw [hflags, hdisabled]
    rfl
  have happend (xs : List Effect) (hxs : ∀ effect ∈ xs, accountedStatus effect = none)
      {status : AccountingStatus} (hstatus : status = .parseError ∨ status = .missingUsage) :
      Unrecorded (xs ++ recordTokenAccounting ctx.department ctx.modelName ctx.endpoint status) := by
    rw [Unrecorded, List.forall_mem_append]
    exact ⟨unrecorded_of_unaccounted hxs, recordTokenAccounting_unrecorded hstatus⟩
  simp only [finallyBlock]
  split
  · exact happend _ (by simp [accountedStatus]) (.inr rfl)
  · split
    · exact happend _ (by simp [accountedStatus]) (.inr rfl)
    · rw [hoverride]
      exact happend _ (by simp [accountedStatus]) (.inl rfl)

/-- From a disabled parser on, nothing is parsed and nothing is recorded. -/
theorem drive_disabled {inputs : List StreamInput} (hs : parserOf point = some s)
    (hdisabled : s.parsingEnabled = false) (hflags : FlagsAgree s)
    (h : drive loads extract maxBufferBytes ctx point inputs = some (effects, point')) :
    (∀ t ∈ parserOf point', t = s) ∧ Unrecorded effects := by
  induction inputs generalizing point effects with
  | nil =>
    cases h
    rw [hs]
    exact ⟨fun t ht => (Option.some.inj ht).symm, List.forall_mem_nil _⟩
  | cons input inputs ih =>
    obtain ⟨now, next, later, hresume, hlater, rfl⟩ := drive_cons ctx h
    obtain hgoes | ⟨outcome, rfl, hfinishes⟩ :=
      resume_cases loads extract maxBufferBytes ctx hresume
    · have hnext : parserOf next = some s := by
        obtain ⟨outcome, rfl⟩ | ⟨t, ht, hparses⟩ := resume_parses hresume
        · exact absurd rfl (hgoes.live outcome)
        · rw [hs] at hparses
          rw [ht, hparses.disabled hdisabled]
      obtain ⟨hkept, hrest⟩ := ih hnext hlater
      refine ⟨hkept, ?_⟩
      rw [Unrecorded, List.forall_mem_append]
      exact ⟨unrecorded_of_unaccounted (goesOn_unaccounted hgoes), hrest⟩
    · obtain ⟨hlater, hpoint'⟩ := drive_finished hlater
      subst hlater hpoint'
      refine ⟨by simp [parserOf], ?_⟩
      rw [List.append_nil]
      cases hfinishes with
      | unstarted => exact List.forall_mem_nil _
      | completed exit =>
        cases hs
        exact finallyBlock_unrecorded hdisabled hflags
      | closeRaised exit e => exact List.forall_mem_nil _

end

section
variable (decodeJson : Text → Option Json) (extract : Json → Option Usage) (maxBufferBytes : ℕ)
  (ctx : StreamContext)

/-- Every sequence of chunks is fed to the parser by some run. -/
theorem drive_fed (locals : StreamLocals) (chunks : List Chunk) :
    ∃ effects locals', drive (jsonLoads decodeJson) (totalExtractor extract) maxBufferBytes ctx
        (.awaitChunk locals) (chunks.flatMap turn) = some (effects, .awaitChunk locals') ∧
      feedChunks (jsonLoads decodeJson) (totalExtractor extract) maxBufferBytes locals.parse
        chunks = .ok locals'.parse := by
  induction chunks generalizing locals with
  | nil => exact ⟨[], locals, rfl, rfl⟩
  | cons chunk chunks ih =>
    obtain ⟨t, hfeed⟩ := consumes_total
      (feedChunk_scan (jsonLoads decodeJson) (totalExtractor extract) maxBufferBytes locals.parse
        chunk)
    obtain ⟨effects, locals', hdrive, hfeeds⟩ :=
      ih ⟨t, !chunk.isEmpty && !locals.firstChunkRecorded || locals.firstChunkRecorded⟩
    refine ⟨(handleChunk (jsonLoads decodeJson) (totalExtractor extract) maxBufferBytes ctx locals
      chunk).1 ++ effects, locals', ?_, ?_⟩
    · simp only [List.flatMap_cons, turn, List.cons_append, List.nil_append, drive, resume,
        handleChunk, hfeed, hdrive, Option.map_some]
    · simp only [feedChunks, hfeed, hfeeds]

theorem parser_state_invariant :
    (∀ chunks, ∃ effects locals,
      drive (jsonLoads decodeJson) (totalExtractor extract) maxBufferBytes ctx .created
          (.next :: chunks.flatMap turn) = some (effects, .awaitChunk locals) ∧
        feedChunks (jsonLoads decodeJson) (totalExtractor extract) maxBufferBytes .initial chunks =
          .ok locals.parse) ∧
    ∀ inputs effects point s,
      drive (jsonLoads decodeJson) (totalExtractor extract) maxBufferBytes ctx .created inputs =
        some (effects, point) → s ∈ parserOf point →
      (s.parsingEnabled = false ∨
        utf8Size s.decodeBuffer ≤ maxBufferBytes ∧ ¬ ['\n', '\n'] <:+: s.decodeBuffer) ∧
      endOverflows (jsonLoads decodeJson) (totalExtractor extract) maxBufferBytes s = false ∧
      (s.parsingEnabled = false → ∀ more effects' point',
        drive (jsonLoads decodeJson) (totalExtractor extract) maxBufferBytes ctx .created
            (inputs ++ more) = some (effects', point') →
        (∀ t ∈ parserOf point', t.parsingEnabled = false ∧ t.latestUsage = s.latestUsage) ∧
        ∀ effect ∈ effects', ∀ status ∈ accountedStatus effect,
          status = .parseError ∨ status = .missingUsage) := by
  constructor
  · intro chunks
    obtain ⟨effects, locals, hdrive, hfeeds⟩ :=
      drive_fed decodeJson extract maxBufferBytes ctx ⟨.initial, false⟩ chunks
    refine ⟨effects, locals, ?_, hfeeds⟩
    simp only [drive, resume, hdrive, Option.map_some, List.nil_append]
  · intro inputs effects point s h hs
    obtain ⟨hbounded, hflags⟩ := drive_sound h (by simp [parserOf]) s hs
    refine ⟨hbounded.imp_right fun hretained => ⟨hretained.size, hretained.unfinished⟩,
      hbounded.end_fits, ?_⟩
    intro hdisabled more effects' point' hmore
    rw [drive_append ctx h, Option.map_eq_some_iff] at hmore
    obtain ⟨⟨later, last⟩, hlater, hresult⟩ := hmore
    cases hresult
    obtain ⟨hkept, hunrecorded⟩ := drive_disabled hs hdisabled hflags hlater
    have hlive : ∀ outcome, point ≠ .finished outcome := by
      rintro outcome rfl
      cases hs
    constructor
    · intro t ht
      rw [hkept t ht]
      exact ⟨hdisabled, rfl⟩
    · rw [List.forall_mem_append]
      exact ⟨unrecorded_of_unaccounted (drive_unaccounted h hlive), hunrecorded⟩

example : (feedChunks (jsonLoads decodeJson) (totalExtractor extract) 4 .initial
    [asciiBytes "data".toList, asciiBytes ":".toList]).toOption.map ParseState.parsingEnabled =
      some false := by rfl

end

end VllmSourceGateway.ParserInvariant
