import VllmSourceGateway.GatewaySystem

set_option autoImplicit false

/-! Which upstream responses a non-streaming request hands on as they came. -/
namespace VllmSourceGateway.ResponsePassThrough
open PyText PyValues UsageExtractors Config Routing GatewayEffects
open StreamBytes ProxyEndpoint RequestSegments GatewaySystem TransitionRuns

def carries (outcome : Outcome) (statusCode : ℕ) (content : List UInt8) : Prop :=
  ∃ mediaType, outcome = .responded ⟨statusCode, content, mediaType⟩

/-- The body fails to decode with a `ValueError`, or decodes to an object whose
usage the token counters take; and Starlette can build the response with the
content type that goes with it. -/
def Presentable (P : Platform) (endpoint : Endpoint) (statusCode : ℕ)
    (headers : List (String × String)) (content : List UInt8) : Prop :=
  let contentType := PyDict.get? headers "content-type"
  match P.loadsBytes content with
  | .error e => e.isValueError = true ∧ P.responseInit statusCode contentType = true
  | .ok (.obj fields) =>
    (∀ usage, endpoint.extractUsage (.obj fields) = .ok usage →
        UsageTaken P.counterAccepts statusCode usage) ∧
      P.responseInit statusCode (some (contentType.getD "application/json")) = true
  | .ok _ => False

section
variable {P : Platform} {config : AppConfig} {request : ProxyRequest} {g : Gateway} {now : ℚ}

theorem makeResponse_carries {statusCode : ℕ} {content : List UInt8} {mediaType : Option String} :
    carries (makeResponse P statusCode content mediaType) statusCode content ↔
      P.responseInit statusCode mediaType = true := by
  simp only [carries, makeResponse]
  split <;> simp_all

theorem raised_carries {e : Exn} {statusCode : ℕ} {content : List UInt8} :
    ¬ carries (.raised e) statusCode content := by
  rintro ⟨mediaType, h⟩
  cases h

theorem handleResponse_carries (modelName : String) (statusCode : ℕ)
    (headers : List (String × String)) (content : List UInt8) :
    carries (handleResponse P request modelName statusCode headers content).2
        statusCode content ↔
      Presentable P request.endpoint statusCode headers content := by
  simp only [handleResponse, Presentable]
  cases P.loadsBytes content with
  | error e =>
    dsimp only
    split
    · rename_i hvalue
      simp only [makeResponse_carries, hvalue, true_and]
    · rename_i hvalue
      exact iff_of_false raised_carries fun h => hvalue h.1
  | ok payload =>
    dsimp only
    cases payload with
    | obj fields =>
      obtain ⟨usage, husage⟩ := extractUsage_object request.endpoint fields
      have haccounted := accountUsage_cases P.counterAccepts request.department modelName
        request.endpoint statusCode usage
      simp only [husage, Except.ok.injEq, forall_eq']
      rw [← haccounted.quiet_iff]
      cases (accountUsage P.counterAccepts request.department modelName request.endpoint
          statusCode usage).2 with
      | none => simp only [true_and, makeResponse_carries]
      | some e => simp only [raised_carries, reduceCtorEq, false_and]
    | null | bool b | int n | float x | str s | arr items =>
      rw [extractUsage_other request.endpoint _ (by simp)]
      exact iff_of_false raised_carries id

/-- The handler always comes to its end on a response, and what it returns has
the upstream's status and body if and only if the response is presentable. -/
theorem response_passes_through_iff (P : Platform) (config : AppConfig) (request : ProxyRequest)
    (g : Gateway) (now : ℚ) (flight : Flight) (statusCode : ℕ) (headers : List (String × String))
    (content : List UInt8) :
    ∃ effects outcome, advance P config request g now (.awaitPost flight)
        (.response statusCode headers content) = some (effects, .finished outcome) ∧
      (carries outcome statusCode content ↔ Presentable P request.endpoint statusCode headers content) :=
  ⟨_, _, rfl, handleResponse_carries flight.modelName statusCode headers content⟩

/-! A JSON array as the body of a response. -/

def sampleFlight : Flight :=
  ⟨"llama", [("model", .str "llama")], none, ⟨"a", "http://a", ["llama"], none⟩, ["a"]⟩

theorem arrayBody_raises :
    (handleResponse smallPlatform smallRequest "llama" 200 [] (asciiBytes "[]".toList)).2 =
      .raised .attribute := by
  decide +kernel

/-- The extractor raises on a JSON array, so that the client gets an error of the
gateway in place of the response. -/
theorem response_not_passed_through :
    ¬ ∀ (P : Platform) (config : AppConfig) (request : ProxyRequest) (g : Gateway) (now : ℚ)
        (flight : Flight) (statusCode : ℕ) (headers : List (String × String))
        (content : List UInt8),
      ∃ effects outcome, advance P config request g now (.awaitPost flight)
          (.response statusCode headers content) = some (effects, .finished outcome) ∧
        carries outcome statusCode content := by
  intro h
  obtain ⟨effects, outcome, hadvance, hcarries⟩ := h smallPlatform smallConfig smallRequest
    (.init smallConfig) 0 sampleFlight 200 [] (asciiBytes "[]".toList)
  simp only [advance, afterPost, Option.some.injEq, Prod.mk.injEq, Point.finished.injEq]
    at hadvance
  rw [← hadvance.2, sampleFlight, arrayBody_raises] at hcarries
  exact raised_carries hcarries

/-- In every run, a request that has been given a response is over, with the
upstream's status and body exactly when the response is presentable. -/
theorem answered_requests {s : System} (h : Reachable (step P config) (initial config) s) :
    ∀ task ∈ s.tasks, ∀ flight statusCode headers content,
      (.awaitPost flight, .response statusCode headers content) ∈ task.steps →
      ∃ outcome, task.point = .finished outcome ∧
        (carries outcome statusCode content ↔ Presentable P task.request.endpoint statusCode headers content) := by
  refine task_invariant (fun task => ∀ flight statusCode headers content,
    (.awaitPost flight, .response statusCode headers content) ∈ task.steps →
    ∃ outcome, task.point = .finished outcome ∧
      (carries outcome statusCode content ↔ Presentable P task.request.endpoint statusCode headers content))
    (fun request flight statusCode headers content hstep => by simp [Task.start] at hstep) ?_ h
  intro task g now input effects point _ hinv hsegment flight statusCode headers content hstep
  simp only [Task.continue, List.mem_append, List.mem_singleton] at hstep ⊢
  rcases hstep with hold | hnew
  · obtain ⟨outcome, hpoint, _⟩ := hinv flight statusCode headers content hold
    rw [hpoint] at hsegment
    cases hsegment <;> rename_i hpoint <;> simp at hpoint
  · obtain ⟨hpoint, rfl⟩ := Prod.mk.inj hnew
    rw [← hpoint] at hsegment
    cases hsegment with
    | answered => exact ⟨_, rfl, handleResponse_carries _ _ _ _⟩

end

end VllmSourceGateway.ResponsePassThrough
