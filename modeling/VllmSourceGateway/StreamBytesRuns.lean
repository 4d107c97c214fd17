import VllmSourceGateway.StreamBytes
import VllmSourceGateway.TransitionRuns

set_option autoImplicit false

/-! Whole runs of the body generator. Every run is some number of full turns of
the loop, then one cause that takes it to the `finally` block, then the end of
`aclose()`; the results about the generator are read off this shape. -/
namespace VllmSourceGateway.StreamBytesRuns
open PyText PyValues UsageExtractors Metrics AdmissionControl GatewayEffects SseParser StreamBytes
open TransitionRuns

structure StreamRun where
  point : StreamPoint
  inputs : List StreamInput
  received : List Chunk
  delivered : List Chunk
  effects : List Effect

def StreamRun.start : StreamRun := ⟨.created, [], [], [], []⟩

def receivedChunk : StreamInput → List Chunk
  | .chunk chunk => [chunk]
  | _ => []

def deliveredChunk : StreamPoint → List Chunk
  | .yielded _ chunk => [chunk]
  | _ => []

/-- An input that keeps the generator in its loop, unless parsing raises. -/
def ordinary : StreamInput → Bool
  | .next | .chunk _ | .disconnected false => true
  | _ => false

/-- The chunk last received, while nobody has looked for the client, and the
chunks after which the client was found connected. -/
def note (s : Option Chunk × List Chunk) : StreamInput → Option Chunk × List Chunk
  | .chunk chunk => (some chunk, s.2)
  | .disconnected false => (none, s.2 ++ s.1.toList)
  | _ => s

def noted (inputs : List StreamInput) : Option Chunk × List Chunk := inputs.foldl note (none, [])

def acceptedChunks (inputs : List StreamInput) : List Chunk := (noted inputs).2

theorem noted_snoc (inputs : List StreamInput) (input : StreamInput) :
    noted (inputs ++ [input]) = note (noted inputs) input := by
  simp only [noted, List.foldl_append, List.foldl_cons, List.foldl_nil]

section
variable (loads : Text → Except LoadsError Json) (maxSseDecodeBufferBytes : ℕ)
  (ctx : StreamContext)

def StreamRun.step (r : StreamRun) (input : StreamInput) : Option StreamRun :=
  match resume loads ctx.endpoint.extractUsage maxSseDecodeBufferBytes ctx r.point input with
  | none => none
  | some (effects, point) =>
    some ⟨point, r.inputs ++ [input], r.received ++ receivedChunk input,
      r.delivered ++ deliveredChunk point, r.effects ++ effects⟩

abbrev parseOf (chunks : List Chunk) : Except Exn ParseState :=
  feedChunks loads ctx.endpoint.extractUsage maxSseDecodeBufferBytes .initial chunks

def firstChunkEffect : Effect :=
  .metric (.streamFirstChunk ctx.department ctx.modelName ctx.endpoint)

inductive Cause where
  | streamEnd
  | disconnected
  | raised (e : Exn)
  | unparsable (e : Exn)
  | closed

def Cause.input : Cause → StreamInput
  | .streamEnd => .streamEnd
  | .disconnected => .disconnected true
  | .raised e => .raised e
  | .unparsable _ => .disconnected false
  | .closed => .close

def Cause.exit (parse : ParseState) : Cause → Exit
  | .streamEnd => afterLoop loads ctx.endpoint.extractUsage maxSseDecodeBufferBytes parse
  | .disconnected => ⟨true, false, parse, none, false⟩
  | .raised e | .unparsable e => onException e parse
  | .closed => ⟨false, false, parse, none, true⟩

/-- The generator is in its loop; `pending` is a chunk not looked at yet. -/
structure InLoop (r : StreamRun) (parse : ParseState) (pending : Option Chunk) : Prop where
  inputs : ∀ input ∈ r.inputs, ordinary input = true
  notes : noted r.inputs = (pending, r.delivered)
  received : r.received = r.delivered ++ pending.toList
  parsed : parseOf loads maxSseDecodeBufferBytes ctx r.delivered = .ok parse
  quiet : ∀ effect ∈ r.effects, effect = firstChunkEffect ctx

/-- The generator has left its loop; `parse` is the parser after the delivered
chunks. -/
structure Left (r : StreamRun) (cause : Cause) (parse : ParseState) : Prop where
  inputs : ∃ prior, r.inputs = prior ++ [cause.input] ∧ ∀ input ∈ prior, ordinary input = true
  parsed : parseOf loads maxSseDecodeBufferBytes ctx r.delivered = .ok parse
  accepted : match cause with
    | .unparsable e => ∃ chunk, acceptedChunks r.inputs = r.delivered ++ [chunk] ∧
        feedChunk loads ctx.endpoint.extractUsage maxSseDecodeBufferBytes parse chunk = .error e
    | _ => acceptedChunks r.inputs = r.delivered
  complete : match cause with
    | .streamEnd => r.received = r.delivered
    | _ => True
  quiet : ∀ effect ∈ r.effects, effect = firstChunkEffect ctx

/-- The three ways a run is over: closed before it started, through the whole
`finally` block, or out of `aclose()` with an exception. -/
inductive Ended (r : StreamRun) : StreamOutcome → Prop where
  | unstarted (inputs : r.inputs = [.close]) (received : r.received = [])
      (delivered : r.delivered = []) (effects : r.effects = []) : Ended r .closed
  | completed {s : StreamRun} {cause : Cause} {parse : ParseState}
      (left : Left loads maxSseDecodeBufferBytes ctx s cause parse)
      (inputs : r.inputs = s.inputs ++ [.closed]) (received : r.received = s.received)
      (delivered : r.delivered = s.delivered)
      (effects : r.effects = s.effects ++
        (finallyBlock ctx (cause.exit loads maxSseDecodeBufferBytes ctx parse)).1) :
      Ended r (outcomeAfter (cause.exit loads maxSseDecodeBufferBytes ctx parse)
        (finallyBlock ctx (cause.exit loads maxSseDecodeBufferBytes ctx parse)).2)
  | closeRaised {s : StreamRun} {cause : Cause} {parse : ParseState} {e : Exn}
      (left : Left loads maxSseDecodeBufferBytes ctx s cause parse)
      (inputs : r.inputs = s.inputs ++ [.raised e]) (received : r.received = s.received)
      (delivered : r.delivered = s.delivered) (effects : r.effects = s.effects) :
      Ended r (.raised e)

def RunInv (r : StreamRun) : Prop :=
  match r.point with
  | .created => r = .start
  | .awaitChunk locals => InLoop loads maxSseDecodeBufferBytes ctx r locals.parse none
  | .awaitDisconnect locals chunk =>
    InLoop loads maxSseDecodeBufferBytes ctx r locals.parse (some chunk)
  | .yielded locals _ => InLoop loads maxSseDecodeBufferBytes ctx r locals.parse none
  | .awaitClose exit => ∃ cause parse, Left loads maxSseDecodeBufferBytes ctx r cause parse ∧
      exit = cause.exit loads maxSseDecodeBufferBytes ctx parse
  | .finished outcome => Ended loads maxSseDecodeBufferBytes ctx r outcome

end

section
variable {loads : Text → Except LoadsError Json} {maxSseDecodeBufferBytes : ℕ}
  {ctx : StreamContext} {r : StreamRun} {parse : ParseState} {pending : Option Chunk}

theorem feedChunks_snoc {extract : UsageExtractor} {limit : ℕ} {s t : ParseState}
    {chunks : List Chunk} (h : feedChunks loads extract limit s chunks = .ok t) (chunk : Chunk) :
    feedChunks loads extract limit s (chunks ++ [chunk]) = feedChunk loads extract limit t chunk := by
  induction chunks generalizing s with
  | nil =>
    simp only [feedChunks, Except.ok.injEq] at h
    subst h
    simp only [List.nil_append, feedChunks]
    split <;> simp_all
  | cons first chunks ih =>
    simp only [feedChunks, List.cons_append] at h ⊢
    split at h
    · cases h
    · exact ih h

/-- A turn of the loop's awaits: an ordinary input that delivers nothing. -/
theorem InLoop.stay {r' : StreamRun} {input : StreamInput} {pending' : Option Chunk}
    (h : InLoop loads maxSseDecodeBufferBytes ctx r parse pending)
    (hordinary : ordinary input = true)
    (hnote : note (pending, r.delivered) input = (pending', r.delivered))
    (hinputs : r'.inputs = r.inputs ++ [input])
    (hreceived : r'.received = r.delivered ++ pending'.toList)
    (hdelivered : r'.delivered = r.delivered) (heffects : r'.effects = r.effects) :
    InLoop loads maxSseDecodeBufferBytes ctx r' parse pending' := by
  refine ⟨?_, ?_, ?_, ?_, ?_⟩
  · rw [hinputs]
    intro i hi
    rw [List.mem_append, List.mem_singleton] at hi
    rcases hi with hi | rfl
    · exact h.inputs i hi
    · exact hordinary
  · rw [hinputs, noted_snoc, h.notes, hnote, hdelivered]
  · rw [hreceived, hdelivered]
  · rw [hdelivered]
    exact h.parsed
  · rw [heffects]
    exact h.quiet

theorem InLoop.leave {r' : StreamRun} {cause : Cause}
    (h : InLoop loads maxSseDecodeBufferBytes ctx r parse pending)
    (hcause : match cause with
      | .unparsable _ => False
      | .streamEnd => pending = none
      | _ => True)
    (hinputs : r'.inputs = r.inputs ++ [cause.input]) (hreceived : r'.received = r.received)
    (hdelivered : r'.delivered = r.delivered) (heffects : r'.effects = r.effects) :
    Left loads maxSseDecodeBufferBytes ctx r' cause parse := by
  refine ⟨⟨r.inputs, hinputs, h.inputs⟩, hdelivered ▸ h.parsed, ?_, ?_, heffects ▸ h.quiet⟩
  · cases cause with
    | unparsable e => exact hcause.elim
    | streamEnd | disconnected | raised | closed =>
      simp only [acceptedChunks, hinputs, noted_snoc, h.notes, Cause.input, note, hdelivered]
  · cases cause with
    | streamEnd =>
      dsimp only at hcause ⊢
      rw [hreceived, hdelivered, h.received, hcause, Option.toList_none, List.append_nil]
    | disconnected | raised | unparsable | closed => trivial

/-- The turn in which a chunk is parsed and then delivered, or makes the parser
raise. -/
theorem InLoop.handle {locals : StreamLocals} {chunk : Chunk}
    (h : InLoop loads maxSseDecodeBufferBytes ctx r locals.parse (some chunk)) :
    RunInv loads maxSseDecodeBufferBytes ctx
      ⟨(handleChunk loads ctx.endpoint.extractUsage maxSseDecodeBufferBytes ctx locals chunk).2,
        r.inputs ++ [.disconnected false], r.received,
        r.delivered ++ deliveredChunk
          (handleChunk loads ctx.endpoint.extractUsage maxSseDecodeBufferBytes ctx locals chunk).2,
        r.effects ++
          (handleChunk loads ctx.endpoint.extractUsage maxSseDecodeBufferBytes ctx locals chunk).1⟩ := by
  have hquiet : ∀ effect ∈ r.effects ++
      (handleChunk loads ctx.endpoint.extractUsage maxSseDecodeBufferBytes ctx locals chunk).1,
      effect = firstChunkEffect ctx := by
    intro effect heffect
    rw [List.mem_append] at heffect
    rcases heffect with hold | hnew
    · exact h.quiet effect hold
    · simp only [handleChunk] at hnew
      split at hnew <;> split at hnew <;> simp_all [firstChunkEffect]
  have hnoted : noted (r.inputs ++ [.disconnected false]) = (none, r.delivered ++ [chunk]) := by
    rw [noted_snoc, h.notes]
    rfl
  have hordinary : ∀ input ∈ r.inputs ++ [.disconnected false],
      ordinary input = true := by
    intro input hinput
    rw [List.mem_append, List.mem_singleton] at hinput
    rcases hinput with hold | rfl
    · exact h.inputs input hold
    · rfl
  have hparsed := feedChunks_snoc h.parsed chunk
  revert hquiet
  simp only [handleChunk]
  cases hfeed : feedChunk loads ctx.endpoint.extractUsage maxSseDecodeBufferBytes
      locals.parse chunk with
  | error e =>
    intro hquiet
    refine ⟨.unparsable e, locals.parse, ⟨⟨r.inputs, rfl, h.inputs⟩, ?_, ?_, trivial, hquiet⟩, rfl⟩
    · simpa only [deliveredChunk, List.append_nil] using h.parsed
    · refine ⟨chunk, ?_, hfeed⟩
      simp only [acceptedChunks, hnoted, deliveredChunk, List.append_nil]
  | ok parse =>
    intro hquiet
    rw [hfeed] at hparsed
    refine ⟨hordinary, hnoted, ?_, hparsed, hquiet⟩
    rw [h.received]
    simp only [deliveredChunk, Option.toList_none, Option.toList_some, List.append_nil]

theorem RunInv.step {input : StreamInput} {r' : StreamRun}
    (h : RunInv loads maxSseDecodeBufferBytes ctx r)
    (hstep : r.step loads maxSseDecodeBufferBytes ctx input = some r') :
    RunInv loads maxSseDecodeBufferBytes ctx r' := by
  obtain ⟨point, inputs, received, delivered, effects⟩ := r
  cases point with
  | created =>
    simp only [RunInv, StreamRun.start, StreamRun.mk.injEq, true_and] at h
    obtain ⟨rfl, rfl, rfl, rfl⟩ := h
    cases input <;> simp only [StreamRun.step, resume, Option.some.injEq, reduceCtorEq] at hstep
    case next =>
      subst hstep
      exact ⟨by simp [ordinary], rfl, rfl, rfl, by simp⟩
    case close =>
      subst hstep
      exact .unstarted rfl rfl rfl rfl
  | awaitChunk locals =>
    have hloop : InLoop loads maxSseDecodeBufferBytes ctx _ locals.parse none := h
    cases input <;> simp only [StreamRun.step, resume, Option.some.injEq, reduceCtorEq] at hstep
    case chunk chunk =>
      subst hstep
      refine hloop.stay rfl rfl rfl ?_ ?_ ?_
      · simpa [receivedChunk] using hloop.received
      · simp [deliveredChunk]
      · simp
    case streamEnd =>
      subst hstep
      refine ⟨.streamEnd, locals.parse, ?_, rfl⟩
      exact hloop.leave rfl rfl (by simp [receivedChunk]) (by simp [deliveredChunk]) (by simp)
    case raised e =>
      subst hstep
      refine ⟨.raised e, locals.parse, ?_, rfl⟩
      exact hloop.leave trivial rfl (by simp [receivedChunk]) (by simp [deliveredChunk]) (by simp)
  | awaitDisconnect locals chunk =>
    have hloop : InLoop loads maxSseDecodeBufferBytes ctx _ locals.parse (some chunk) := h
    cases input
    case disconnected isDisconnected =>
      cases isDisconnected <;> simp only [StreamRun.step, resume, Option.some.injEq] at hstep
      case false =>
        subst hstep
        simpa only [receivedChunk, List.append_nil] using hloop.handle
      case true =>
        subst hstep
        refine ⟨.disconnected, locals.parse, ?_, rfl⟩
        exact hloop.leave trivial rfl (by simp [receivedChunk]) (by simp [deliveredChunk]) (by simp)
    case raised e =>
      simp only [StreamRun.step, resume, Option.some.injEq] at hstep
      subst hstep
      refine ⟨.raised e, locals.parse, ?_, rfl⟩
      exact hloop.leave trivial rfl (by simp [receivedChunk]) (by simp [deliveredChunk]) (by simp)
    all_goals simp [StreamRun.step, resume] at hstep
  | yielded locals chunk =>
    have hloop : InLoop loads maxSseDecodeBufferBytes ctx _ locals.parse none := h
    cases input <;> simp only [StreamRun.step, resume, Option.some.injEq, reduceCtorEq] at hstep
    case next =>
      subst hstep
      refine hloop.stay rfl rfl rfl ?_ ?_ ?_
      · simpa [receivedChunk] using hloop.received
      · simp [deliveredChunk]
      · simp
    case close =>
      subst hstep
      refine ⟨.closed, locals.parse, ?_, rfl⟩
      exact hloop.leave trivial rfl (by simp [receivedChunk]) (by simp [deliveredChunk]) (by simp)
  | awaitClose exit =>
    obtain ⟨cause, parse, hleft, rfl⟩ := h
    cases input <;> simp only [StreamRun.step, resume, Option.some.injEq, reduceCtorEq] at hstep
    case closed =>
      subst hstep
      exact .completed hleft rfl (by simp [receivedChunk]) (by simp [deliveredChunk]) rfl
    case raised e =>
      subst hstep
      exact .closeRaised hleft rfl (by simp [receivedChunk]) (by simp [deliveredChunk]) (by simp)
  | finished outcome => simp [StreamRun.step, resume] at hstep

theorem runInv_of_reachable
    (h : Reachable (StreamRun.step loads maxSseDecodeBufferBytes ctx) .start r) :
    RunInv loads maxSseDecodeBufferBytes ctx r := by
  refine h.invariant (RunInv loads maxSseDecodeBufferBytes ctx) ?_ ?_
  · exact (rfl : StreamRun.start = .start)
  · exact fun _ _ _ _ hinv hstep => RunInv.step hinv hstep

end

end VllmSourceGateway.StreamBytesRuns
