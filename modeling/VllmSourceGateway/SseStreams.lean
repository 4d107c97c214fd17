import VllmSourceGateway.EventReader
import VllmSourceGateway.SseParser

set_option autoImplicit false

/-! Well-formed event streams: what their bytes are and what usage they report,
said without a parser. -/
namespace VllmSourceGateway.SseStreams
open PyText PyValues UsageExtractors SseParser EventReader

structure SseLine where
  text : Text
  crlf : Bool
  nonempty : text ≠ []
  unbroken : ∀ c ∈ text, c ≠ '\r' ∧ c ≠ '\n'

structure SseEvent where
  lines : List SseLine
  crlf : Bool
  nonempty : lines ≠ []

abbrev SseStream := List SseEvent

def lineEnd (crlf : Bool) : Text := if crlf then ['\r', '\n'] else ['\n']

def SseLine.render (line : SseLine) : Text := line.text ++ lineEnd line.crlf

def SseEvent.render (event : SseEvent) : Text :=
  event.lines.flatMap SseLine.render ++ lineEnd event.crlf

def renderStream (stream : SseStream) : Text := stream.flatMap SseEvent.render

def streamBytes (stream : SseStream) : List UInt8 := Utf8Decoder.encode (renderStream stream)

/-- The LF-join of the left-stripped texts after `data:`, if there are any. -/
def SseEvent.payload (event : SseEvent) : Option Text :=
  match event.lines.filterMap fun line => (afterPrefix? "data:".toList line.text).map lstrip with
  | [] => none
  | values => some (List.intercalate ['\n'] values)

def SseEvent.usage (decodeJson : Text → Option Json) (extract : Json → Option Usage)
    (event : SseEvent) : Option Usage :=
  match event.payload with
  | none => none
  | some payload => if payload = "[DONE]".toList then none else (decodeJson payload).bind extract

def streamUsage (decodeJson : Text → Option Json) (extract : Json → Option Usage)
    (stream : SseStream) : Option Usage :=
  (stream.filterMap (SseEvent.usage decodeJson extract)).getLast?

def SseEvent.raw (event : SseEvent) : Text :=
  List.intercalate ['\n'] (event.lines.map SseLine.text)

theorem takeText_unbroken {t : Text} (h : ∀ c ∈ t, c ≠ '\r' ∧ c ≠ '\n') (line : Text) :
    takeText line t = ([], t.reverse ++ line) ∧ Clean line t := by
  induction t generalizing line with
  | nil => exact ⟨rfl, trivial⟩
  | cons c t ih =>
    obtain ⟨hc, ht⟩ := List.forall_mem_cons.mp h
    have htake : takeChar line c = (none, c :: line) := if_neg hc.2
    obtain ⟨hread, hclean⟩ := ih ht (c :: line)
    refine ⟨?_, fun hlf => absurd hlf hc.2, by rwa [htake]⟩
    simp only [takeText, htake, hread, List.reverse_cons, List.append_assoc]
    rfl

/-- Both line ends end the line. -/
theorem takeText_lineEnd {line : Text} (h : line.head? ≠ some '\r') (crlf : Bool) :
    takeText line (lineEnd crlf) = ((endLine line).1.toList, (endLine line).2) ∧
      Clean line (lineEnd crlf) := by
  have hsame : dropCr line = line := by
    cases line with
    | nil => rfl
    | cons c rest =>
      rw [dropCr]
      intro rest' heq
      exact h (congrArg List.head? heq)
  cases crlf with
  | false =>
    simp only [lineEnd, takeText, takeChar, hsame, Clean, Bool.false_eq_true, if_false, if_true,
      List.append_nil]
    exact ⟨trivial, fun _ => h, trivial⟩
  | true =>
    simp only [lineEnd, takeText, takeChar, dropCr, Clean, if_true, List.append_nil]
    exact ⟨rfl, fun hlf => absurd hlf (by decide), fun _ => h, trivial⟩

/-- A line behind the reversed lines `before` of its event. -/
theorem takeText_line (line : SseLine) (before : Text) :
    takeText before line.render = ([], '\n' :: (line.text.reverse ++ before)) ∧
      Clean before line.render := by
  obtain ⟨htext, hclean⟩ := takeText_unbroken line.unbroken before
  have hlast : ∃ c rest, line.text.reverse ++ before = c :: rest ∧ c ≠ '\r' ∧ c ≠ '\n' := by
    obtain ⟨c, rest, hreverse⟩ := List.exists_cons_of_ne_nil
      (List.reverse_ne_nil_iff.mpr line.nonempty)
    refine ⟨c, rest ++ before, by rw [hreverse]; rfl, line.unbroken c ?_⟩
    exact List.mem_reverse.mp (hreverse ▸ List.mem_cons_self)
  obtain ⟨c, rest, hheld, hcr, hlf⟩ := hlast
  have hhead : (line.text.reverse ++ before).head? ≠ some '\r' := by
    rw [hheld]
    simpa using hcr
  obtain ⟨hend, hendClean⟩ := takeText_lineEnd hhead line.crlf
  have hopen : endLine (line.text.reverse ++ before) =
      (none, '\n' :: (line.text.reverse ++ before)) := by
    rw [hheld, endLine]
    intro rest' heq
    exact hlf (List.cons.inj heq).1
  rw [SseLine.render, takeText_append, clean_append, htext, hend, hopen]
  exact ⟨rfl, hclean, hendClean⟩

def heldLines (lines : List SseLine) : Text :=
  (lines.flatMap fun line => line.text ++ ['\n']).reverse

theorem takeText_lines (lines : List SseLine) (before : Text) :
    takeText before (lines.flatMap SseLine.render) = ([], heldLines lines ++ before) ∧
      Clean before (lines.flatMap SseLine.render) := by
  induction lines generalizing before with
  | nil => exact ⟨rfl, trivial⟩
  | cons line lines ih =>
    obtain ⟨hline, hclean⟩ := takeText_line line before
    obtain ⟨hrest, hrestClean⟩ := ih ('\n' :: (line.text.reverse ++ before))
    rw [List.flatMap_cons, takeText_append, clean_append, hline]
    refine ⟨?_, hclean, hrestClean⟩
    simp only [hrest, heldLines, List.flatMap_cons, List.reverse_append, List.reverse_cons,
      List.nil_append, List.append_assoc, List.cons_append]

theorem heldLines_raw {lines : List SseLine} (h : lines ≠ []) :
    heldLines lines = '\n' :: (List.intercalate ['\n'] (lines.map SseLine.text)).reverse := by
  induction lines with
  | nil => exact absurd rfl h
  | cons line lines ih =>
    cases lines with
    | nil => simp [heldLines]
    | cons next lines =>
      have hnext := ih (by simp)
      have hheld : heldLines (line :: next :: lines) =
          heldLines (next :: lines) ++ '\n' :: line.text.reverse := by
        simp [heldLines]
      rw [hheld, hnext]
      simp [List.intercalate]

theorem takeText_event (event : SseEvent) :
    takeText [] event.render = ([event.raw], []) ∧ Clean [] event.render := by
  obtain ⟨hlines, hclean⟩ := takeText_lines event.lines []
  have hheld : heldLines event.lines ++ [] = '\n' :: event.raw.reverse := by
    rw [List.append_nil, heldLines_raw event.nonempty, SseEvent.raw]
  rw [hheld] at hlines
  have hhead : ('\n' :: event.raw.reverse).head? ≠ some '\r' := by simp
  obtain ⟨hend, hendClean⟩ := takeText_lineEnd hhead event.crlf
  rw [SseEvent.render, takeText_append, clean_append, hlines, hend]
  refine ⟨?_, hclean, hendClean⟩
  simp [endLine]

theorem takeText_stream (stream : SseStream) :
    takeText [] (renderStream stream) = (stream.map SseEvent.raw, []) ∧
      Clean [] (renderStream stream) := by
  induction stream with
  | nil => exact ⟨rfl, trivial⟩
  | cons event stream ih =>
    obtain ⟨hevent, hclean⟩ := takeText_event event
    have hcons : renderStream (event :: stream) = event.render ++ renderStream stream :=
      List.flatMap_cons
    rw [hcons, takeText_append, clean_append, hevent]
    exact ⟨by rw [ih.1]; rfl, hclean, ih.2⟩

/-- However its bytes are cut, they decode to the rendered text. -/
theorem decode_stream {stream : SseStream} {chunks : List Chunk}
    (hbytes : chunks.flatten = streamBytes stream) :
    Utf8Decoder.decode [] chunks.flatten = some (renderStream stream, []) := by
  rw [hbytes]
  exact Utf8Decoder.decode_encode (renderStream stream)

/-- The parser finds the event's data lines. -/
theorem eventPayload_raw (event : SseEvent) : eventPayload event.raw =
    match event.payload with
    | none => none
    | some payload => if payload = "[DONE]".toList then none else some payload := by
  have hsplit : event.raw.splitOn '\n' = event.lines.map SseLine.text := by
    refine List.splitOn_intercalate '\n' ?_ ?_
    · intro text htext hlf
      obtain ⟨line, _, rfl⟩ := List.mem_map.mp htext
      exact (line.unbroken '\n' hlf).2 rfl
    · simpa using event.nonempty
  have hlines : dataLines event.raw =
      event.lines.filterMap fun line => (afterPrefix? "data:".toList line.text).map lstrip := by
    rw [dataLines, hsplit, List.filterMap_map]
    rfl
  simp only [eventPayload, hlines, SseEvent.payload]
  cases event.lines.filterMap fun line => (afterPrefix? "data:".toList line.text).map lstrip <;> rfl

end VllmSourceGateway.SseStreams
