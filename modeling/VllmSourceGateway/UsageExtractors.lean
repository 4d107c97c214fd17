import VllmSourceGateway.PyValues

set_option autoImplicit false

/-! The three proxy routes and their `_extract_usage` functions. -/
namespace VllmSourceGateway.UsageExtractors
open PyValues

inductive Endpoint where
  | chatCompletions
  | responses
  | messages
  deriving DecidableEq

def Endpoint.name : Endpoint → String
  | .chatCompletions => "chat_completions"
  | .responses => "responses"
  | .messages => "messages"

def Endpoint.upstreamPath : Endpoint → String
  | .chatCompletions => "/v1/chat/completions"
  | .responses => "/v1/responses"
  | .messages => "/v1/messages"

abbrev Usage := PyInt × PyInt

abbrev UsageExtractor := Json → Except Exn (Option Usage)

def intPair (prompt generation : Option Json) : Option Usage :=
  match prompt.bind Json.asInt?, generation.bind Json.asInt? with
  | some p, some g => some (p, g)
  | _, _ => none

def getOr (usage : JsonObject) (key fallback : String) : Option Json :=
  match PyDict.get? usage key with
  | some v => some v
  | none => PyDict.get? usage fallback

def inputOutputPair (usage : JsonObject) : Option Usage :=
  intPair (getOr usage "input_tokens" "prompt_tokens")
    (getOr usage "output_tokens" "completion_tokens")

/-- `payload.get` raises `AttributeError` on everything but a `dict`. -/
def extractChatUsage : UsageExtractor
  | .obj payload =>
    match PyDict.get? payload "usage" with
    | some (.obj usage) =>
      .ok (intPair (PyDict.get? usage "prompt_tokens") (PyDict.get? usage "completion_tokens"))
    | _ => .ok none
  | _ => .error .attribute

def extractResponsesUsage : UsageExtractor
  | .obj payload =>
    match PyDict.get? payload "usage" with
    | some (.obj usage) => .ok (inputOutputPair usage)
    | _ => .ok none
  | _ => .error .attribute

/-- `message.usage` is looked at only after a top-level `usage` object without a
pair; a payload with no such object returns before it. -/
def extractMessagesUsage : UsageExtractor
  | .obj payload =>
    match PyDict.get? payload "usage" with
    | some (.obj usage) =>
      match inputOutputPair usage with
      | some pair => .ok (some pair)
      | none =>
        match PyDict.get? payload "message" with
        | some (.obj message) =>
          match PyDict.get? message "usage" with
          | some (.obj messageUsage) => .ok (inputOutputPair messageUsage)
          | _ => .ok none
        | _ => .ok none
    | _ => .ok none
  | _ => .error .attribute

def Endpoint.extractUsage : Endpoint → UsageExtractor
  | .chatCompletions => extractChatUsage
  | .responses => extractResponsesUsage
  | .messages => extractMessagesUsage

/-- Each extractor is total on JSON objects. -/
theorem extractUsage_object (endpoint : Endpoint) (fields : JsonObject) :
    ∃ usage, endpoint.extractUsage (.obj fields) = .ok usage := by
  cases endpoint with
  | chatCompletions =>
    simp only [Endpoint.extractUsage, extractChatUsage]
    split <;> exact ⟨_, rfl⟩
  | responses =>
    simp only [Endpoint.extractUsage, extractResponsesUsage]
    split <;> exact ⟨_, rfl⟩
  | messages =>
    simp only [Endpoint.extractUsage, extractMessagesUsage]
    repeat' split
    all_goals exact ⟨_, rfl⟩

/-- On every other JSON value each extractor raises. -/
theorem extractUsage_other (endpoint : Endpoint) (payload : Json)
    (h : ∀ fields, payload ≠ .obj fields) :
    endpoint.extractUsage payload = .error .attribute := by
  cases payload with
  | obj fields => exact absurd rfl (h fields)
  | null | bool b | int n | float x | str s | arr items => cases endpoint <;> rfl

theorem extractUsage_error {endpoint : Endpoint} {payload : Json} {e : Exn}
    (h : endpoint.extractUsage payload = .error e) : e = .attribute := by
  cases payload with
  | obj fields =>
    obtain ⟨usage, husage⟩ := extractUsage_object endpoint fields
    rw [husage] at h
    cases h
  | null | bool b | int n | float x | str s | arr items =>
    rw [extractUsage_other endpoint _ (by simp)] at h
    exact (Except.error.inj h).symm

end VllmSourceGateway.UsageExtractors
