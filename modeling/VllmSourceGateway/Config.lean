import VllmSourceGateway.PyValues

set_option autoImplicit false

/-! The validated configuration, as far as request handling reads it. The bounds
that the validators enforce are fields, so a value is an accepted one. -/
namespace VllmSourceGateway.Config

structure ServerConfig where
  maxRequestBodyBytes : ℕ
  maxSseDecodeBufferBytes : ℕ
  maxRequestBodyBytes_pos : 0 < maxRequestBodyBytes
  maxSseDecodeBufferBytes_pos : 0 < maxSseDecodeBufferBytes

structure SecurityConfig where
  rejectUnknownApiKeys : Bool

structure ModelConcurrencyLimitConfig where
  maxActiveRequests : ℤ
  maxActiveRequests_pos : 0 < maxActiveRequests

structure DepartmentModelConcurrencyLimitConfig where
  department : String
  modelName : String
  maxActiveRequests : ℤ
  maxActiveRequests_pos : 0 < maxActiveRequests

structure TokenBudgetConfig where
  department : String
  modelName : String
  maxTokens : ℤ
  windowSeconds : ℚ
  maxTokens_pos : 0 < maxTokens
  windowSeconds_pos : 0 < windowSeconds

structure RequestShapeLimitConfig where
  maxRequestBodyBytes : Option ℤ
  maxOutputTokens : Option ℤ
  rejectNGreaterThanOne : Bool
  maxRequestBodyBytes_pos : ∀ n ∈ maxRequestBodyBytes, 0 < n
  maxOutputTokens_pos : ∀ n ∈ maxOutputTokens, 0 < n

structure RetryGuardConfig where
  enabled : Bool
  windowSeconds : ℚ
  maxEvents : ℤ
  cooldownSeconds : ℚ
  windowSeconds_pos : 0 < windowSeconds
  maxEvents_pos : 0 < maxEvents
  cooldownSeconds_pos : 0 < cooldownSeconds

structure AdmissionControlConfig where
  enabled : Bool
  defaultRetryAfterSeconds : ℤ
  globalModelLimits : List (String × ModelConcurrencyLimitConfig)
  departmentModelLimits : List DepartmentModelConcurrencyLimitConfig
  tokenBudgets : List TokenBudgetConfig
  requestShapeLimits : List (String × RequestShapeLimitConfig)
  retryGuard : RetryGuardConfig
  defaultRetryAfterSeconds_pos : 0 < defaultRetryAfterSeconds

/-- `baseUrl` is `str(base_url)`, `authorizationToken` the resolved token. -/
structure UpstreamConfig where
  name : String
  baseUrl : String
  models : List String
  authorizationToken : Option String
  deriving DecidableEq

structure AppConfig where
  server : ServerConfig
  security : SecurityConfig
  admissionControl : AdmissionControlConfig
  upstreams : List UpstreamConfig
  upstreamNames_nodup : (upstreams.map UpstreamConfig.name).Nodup

/-- Every admission control is configured for one pair. -/
def sampleAdmission : AdmissionControlConfig where
  enabled := true
  defaultRetryAfterSeconds := 5
  globalModelLimits := [("llama", ⟨2, by decide⟩)]
  departmentModelLimits := [⟨"research", "llama", 2, by decide⟩]
  tokenBudgets := [⟨"research", "llama", 10, 60, by decide, by decide⟩]
  requestShapeLimits := []
  retryGuard := ⟨true, 60, 3, 30, by decide, by decide, by decide⟩
  defaultRetryAfterSeconds_pos := by decide

def sampleShapeLimit : RequestShapeLimitConfig := ⟨none, some 16, true, by simp, by simp⟩

end VllmSourceGateway.Config
