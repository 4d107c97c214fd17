import VllmSourceGateway.PyText
import VllmSourceGateway.PyDict

set_option autoImplicit false

/-! Which headers the proxy passes on, in both directions. The names it compares
with are ASCII, so lowering ASCII letters is enough. -/
namespace VllmSourceGateway.UpstreamHeaders

def hopByHopHeaders : List String :=
  ["connection", "keep-alive", "proxy-authenticate", "proxy-authorization", "te", "trailer",
    "transfer-encoding", "upgrade"]

def allowedUpstreamHeaders : List String :=
  ["accept", "accept-language", "content-type", "user-agent", "openai-organization",
    "openai-project", "openai-beta", "idempotency-key", "traceparent", "tracestate", "baggage",
    "x-request-id", "x-correlation-id", "x-trace-id", "x-openai-client-user-agent"]

def allowedUpstreamHeaderPrefix : String := "x-stainless-"

def blockedUpstreamHeaders : List String :=
  hopByHopHeaders ++ ["authorization", "accept-encoding", "content-length", "cookie", "host",
    "x-api-key"]

def excludedDownstreamHeaders : List String :=
  hopByHopHeaders ++ ["content-encoding", "content-length"]

def shouldForwardUpstreamHeader (headerName : String) : Bool :=
  let normalized := headerName.toLower
  if normalized ∈ blockedUpstreamHeaders then false
  else if normalized ∈ allowedUpstreamHeaders then true
  else (PyText.afterPrefix? allowedUpstreamHeaderPrefix.toList normalized.toList).isSome

/-- A `dict` comprehension over the items: of equal keys the last value stays. -/
def dictOf (items : List (String × String)) : List (String × String) :=
  items.foldl (fun headers item => PyDict.set headers item.1 item.2) []

def buildUpstreamHeaders (headers : List (String × String)) (authorizationToken : Option String) :
    List (String × String) :=
  let forwarded := dictOf (headers.filter fun item => shouldForwardUpstreamHeader item.1)
  match authorizationToken with
  | none => forwarded
  | some token => PyDict.set forwarded "authorization" ("Bearer " ++ token)

def buildDownstreamHeaders (headers : List (String × String)) : List (String × String) :=
  dictOf (headers.filter fun item => decide (item.1.toLower ∉ excludedDownstreamHeaders))

/-! ## What an upstream gets to see -/

theorem mem_dictOf {items : List (String × String)} : ∀ item ∈ dictOf items, item ∈ items := by
  have hfold : ∀ (xs d : List (String × String)) (item : String × String),
      item ∈ xs.foldl (fun headers x => PyDict.set headers x.1 x.2) d → item ∈ d ∨ item ∈ xs := by
    intro xs
    induction xs with
    | nil => exact fun d item h => .inl h
    | cons x xs ih =>
      intro d item h
      rcases ih _ item h with hset | hmem
      · rcases PyDict.mem_set hset with rfl | hd
        · exact .inr List.mem_cons_self
        · exact .inl hd
      · exact .inr (List.mem_cons_of_mem _ hmem)
  intro item h
  exact (hfold items [] item h).resolve_left List.not_mem_nil

theorem dictOf_unique (items : List (String × String)) : PyDict.Unique (dictOf items) := by
  unfold dictOf
  exact List.foldlRecOn items _ List.nodup_nil fun d hd item _ => PyDict.set_unique hd item.1 item.2

theorem not_blocked_of_forwarded {headerName : String}
    (h : shouldForwardUpstreamHeader headerName = true) :
    headerName.toLower ∉ blockedUpstreamHeaders := by
  intro hblocked
  simp only [shouldForwardUpstreamHeader, hblocked, if_true, Bool.false_eq_true] at h

theorem authorization_blocked : "authorization".toLower ∈ blockedUpstreamHeaders := by decide +kernel

section
variable (headers : List (String × String)) (authorizationToken : Option String)

theorem buildUpstreamHeaders_unique :
    PyDict.Unique (buildUpstreamHeaders headers authorizationToken) := by
  simp only [buildUpstreamHeaders]
  split
  · exact dictOf_unique _
  · exact PyDict.set_unique (dictOf_unique _) _ _

/-- Of the blocked names an upstream gets to see its own authorization only. -/
theorem buildUpstreamHeaders_blocked {item : String × String}
    (hmem : item ∈ buildUpstreamHeaders headers authorizationToken)
    (hblocked : item.1.toLower ∈ blockedUpstreamHeaders) :
    ∃ token ∈ authorizationToken, item = ("authorization", "Bearer " ++ token) := by
  have hforwarded : item ∉ dictOf (headers.filter fun item => shouldForwardUpstreamHeader item.1) := by
    intro hforwarded
    exact not_blocked_of_forwarded (List.mem_filter.mp (mem_dictOf item hforwarded)).2 hblocked
  simp only [buildUpstreamHeaders] at hmem
  split at hmem
  · exact absurd hmem hforwarded
  · rename_i token
    exact ⟨token, rfl, (PyDict.mem_set hmem).resolve_right hforwarded⟩

theorem buildUpstreamHeaders_authorization :
    PyDict.get? (buildUpstreamHeaders headers authorizationToken) "authorization" =
      authorizationToken.map ("Bearer " ++ ·) := by
  cases authorizationToken with
  | none =>
    rcases Option.eq_none_or_eq_some
      (PyDict.get? (buildUpstreamHeaders headers none) "authorization") with hnone | ⟨value, hvalue⟩
    · exact hnone
    · obtain ⟨token, htoken, _⟩ :=
        buildUpstreamHeaders_blocked headers none (PyDict.mem_of_get? hvalue) authorization_blocked
      cases htoken
  | some token => exact PyDict.get?_set_self _ _ _

end

end VllmSourceGateway.UpstreamHeaders
