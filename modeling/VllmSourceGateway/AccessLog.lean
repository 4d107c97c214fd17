import VllmSourceGateway.JsonLines
import VllmSourceGateway.MetricsMiddleware

set_option autoImplicit false

/-! The log, a JSON object on each line, and what the middleware logs about a request that
is over. -/
namespace VllmSourceGateway.AccessLog
open PyText UsageExtractors Metrics GatewayEffects RequestMetrics FailureCounters
open MetricsMiddleware (Middleware Signal requestsOf)
open JsonText JsonLines TransitionRuns

/-- A value in a log record; a key of a `dict` is its `str`, and so is any `other` object. -/
inductive PyObject where
  | none
  | bool (b : Bool)
  | int (n : ℤ)
  | float (x : FloatText)
  | str (s : String)
  | dict (items : List (String × PyObject))
  | sequence (items : List PyObject)
  | other (text : String)

/-- A dict comprehension over these items. -/
def dictOf (items : List (String × Value)) : List (String × Value) :=
  items.foldl (fun fields item => PyDict.set fields item.1 item.2) []

mutual

def normalizeJsonValue : PyObject → Value
  | .none => .null
  | .bool b => .bool b
  | .int n => .int n
  | .float x => .float x
  | .str s => .str s
  | .dict items => .dict (dictOf (normalizeFields items))
  | .sequence items => .list (normalizeItems items)
  | .other text => .str text

def normalizeItems : List PyObject → List Value
  | [] => []
  | item :: items => normalizeJsonValue item :: normalizeItems items

def normalizeFields : List (String × PyObject) → List (String × Value)
  | [] => []
  | (key, value) :: items => (key, normalizeJsonValue value) :: normalizeFields items

end

def standardLogRecordFields : List String :=
  ["name", "msg", "args", "levelname", "levelno", "pathname", "filename", "module", "exc_info",
    "exc_text", "stack_info", "lineno", "funcName", "created", "msecs", "relativeCreated",
    "thread", "threadName", "processName", "process", "taskName"]

/-- `created` is the time of the record in ISO format, `attributes` its `__dict__`. -/
structure LogRecord where
  created : String
  levelname : String
  name : String
  message : String
  attributes : List (String × PyObject)
  excInfo : Option String
  attributes_unique : PyDict.Unique attributes

def isLogged (key : String) : Bool :=
  !(key.toList.head? == some '_') && !decide (key ∈ standardLogRecordFields)

def addAttribute (payload : List (String × Value)) (item : String × PyObject) :
    List (String × Value) :=
  if isLogged item.1 then
    PyDict.set payload item.1 (normalizeJsonValue item.2)
  else payload

def basePayload (record : LogRecord) : List (String × Value) :=
  [("timestamp", .str record.created), ("level", .str record.levelname),
    ("logger", .str record.name), ("message", .str record.message)]

def payloadOf (record : LogRecord) : List (String × Value) :=
  let payload := record.attributes.foldl addAttribute (basePayload record)
  match record.excInfo with
  | some text => PyDict.set payload "exception" (.str text)
  | none => payload

def format (record : LogRecord) : Text := dumps (.dict (payloadOf record))

def logText (records : List LogRecord) : Text := records.flatMap fun record => format record ++ ['\n']

def readLog (t : Text) : List (Option Value) := (linesOf t).map readLine

/-! ## The log of a finished request -/

structure HttpRequest where
  method : String
  path : String
  headers : List (String × String)

def optionalField (key : String) (value : Option String) : List (String × PyObject) :=
  match value with
  | some value => [(key, .str value)]
  | none => []

def buildAccessLogFields (request : HttpRequest) (snapshot : RequestMetricsSnapshot)
    (durationSeconds : FloatText) : List (String × PyObject) :=
  [("method", .str snapshot.method), ("path", .str request.path),
      ("status_code", .int snapshot.statusCode), ("duration_seconds", .float durationSeconds),
      ("endpoint", .str ((snapshot.endpoint.map Endpoint.name).getD request.path))] ++
    optionalField "department" snapshot.department ++
    optionalField "failure_origin" (snapshot.failureOrigin.map originText) ++
    optionalField "request_id" (PyDict.get? request.headers "x-request-id") ++
    optionalField "trace_id" (PyDict.get? request.headers "x-trace-id")

def accessLoggerName : String := "vllm_source_gateway.access"

/-- A record as `logging` makes one: its standard attributes, then the extra ones. -/
structure RecordStart where
  created : String
  attributes : List (String × PyObject)
  attributes_unique : PyDict.Unique attributes
  attributes_standard : ∀ item ∈ attributes, item.1 ∈ standardLogRecordFields

/-! ### The keys of the record -/

def accessKeys : List String :=
  ["method", "path", "status_code", "duration_seconds", "endpoint"] ++ ["department"] ++
    ["failure_origin"] ++ ["request_id"] ++ ["trace_id"]

theorem accessKeys_logged : ∀ key ∈ accessKeys, isLogged key = true := by decide

theorem not_standard_of_logged {key : String} (h : isLogged key = true) :
    key ∉ standardLogRecordFields := by
  simp only [isLogged, Bool.and_eq_true, Bool.not_eq_true', decide_eq_false_iff_not] at h
  exact h.2

theorem optionalField_keys (key : String) (value : Option String) :
    ((optionalField key value).map Prod.fst).Sublist [key] := by
  cases value with
  | none => exact List.nil_sublist _
  | some value => exact List.Sublist.refl _

section
variable (request : HttpRequest) (snapshot : RequestMetricsSnapshot) (durationSeconds : FloatText)

theorem accessFields_keys :
    ((buildAccessLogFields request snapshot durationSeconds).map Prod.fst).Sublist accessKeys := by
  simp only [buildAccessLogFields, List.map_append]
  exact ((((List.Sublist.refl _).append (optionalField_keys _ _)).append
    (optionalField_keys _ _)).append (optionalField_keys _ _)).append (optionalField_keys _ _)

theorem accessFields_logged {item : String × PyObject}
    (hitem : item ∈ buildAccessLogFields request snapshot durationSeconds) :
    isLogged item.1 = true :=
  accessKeys_logged _ ((accessFields_keys request snapshot durationSeconds).subset
    (List.mem_map_of_mem hitem))

theorem accessAttributes_unique (start : RecordStart) : PyDict.Unique
    (start.attributes ++ buildAccessLogFields request snapshot durationSeconds) := by
  have hfields := (accessFields_keys request snapshot durationSeconds).nodup (by decide)
  unfold PyDict.Unique
  rw [List.map_append]
  refine List.nodup_append.mpr ⟨start.attributes_unique, hfields, ?_⟩
  rintro key hstart other hfield rfl
  obtain ⟨item, hitem, rfl⟩ := List.mem_map.mp hstart
  obtain ⟨field, hmem, heq⟩ := List.mem_map.mp hfield
  have hlogged := accessFields_logged request snapshot durationSeconds hmem
  rw [heq] at hlogged
  exact not_standard_of_logged hlogged (start.attributes_standard item hitem)

end

def levelName (statusCode : ℕ) : String := if 500 ≤ statusCode then "WARNING" else "INFO"

def completionRecord (start : RecordStart) (request : HttpRequest)
    (snapshot : RequestMetricsSnapshot) (durationSeconds : FloatText) : LogRecord where
  created := start.created
  levelname := levelName snapshot.statusCode
  name := accessLoggerName
  message := "request completed"
  attributes := start.attributes ++ buildAccessLogFields request snapshot durationSeconds
  excInfo := none
  attributes_unique := accessAttributes_unique request snapshot durationSeconds start

def logRequestCompletion (start : RecordStart) (request : HttpRequest)
    (snapshot : Option RequestMetricsSnapshot) (durationSeconds : FloatText) : Option LogRecord :=
  match snapshot with
  | none => none
  | some snapshot =>
    if snapshot.endpoint.isNone && decide (snapshot.statusCode < 500) then none
    else some (completionRecord start request snapshot durationSeconds)

def snapshotOf (call : Finalization) : Option RequestMetricsSnapshot :=
  if call.state.recorded then none
  else some (buildRequestMetricsSnapshot call.state call.method call.defaultStatusCode)

/-- A request in the middleware, whatever it noted and however it ended. -/
structure Served where
  request : HttpRequest
  start : RecordStart
  durationSeconds : FloatText
  steps : List (Middleware × Signal)
  middleware : Middleware
  run : Run (MetricsMiddleware.step request.method) .start steps middleware

def Served.records (served : Served) : List LogRecord :=
  served.middleware.finalizations.filterMap fun call =>
    logRequestCompletion served.start served.request (snapshotOf call) served.durationSeconds

/-- What is logged in turn: finished requests, and records of other loggers. -/
inductive Entry where
  | served (s : Served)
  | other (record : LogRecord) (hname : record.name ≠ accessLoggerName)
      (hkeys : ∀ item ∈ record.attributes, item.1 ≠ "logger")

def Entry.records : Entry → List LogRecord
  | .served s => s.records
  | .other record _ _ => [record]

def Entry.events : Entry → List RequestMetricEvent
  | .served s => s.middleware.events
  | .other _ _ _ => []

/-- The values that the formatter writes of an item. -/
theorem get?_addAttributes {attributes : List (String × PyObject)}
    (hunique : PyDict.Unique attributes) (payload : List (String × Value)) (key : String) :
    PyDict.get? (attributes.foldl addAttribute payload) key =
      if isLogged key then
        ((PyDict.get? attributes key).map normalizeJsonValue).or (PyDict.get? payload key)
      else PyDict.get? payload key := by
  induction attributes generalizing payload with
  | nil => simp [PyDict.get?]
  | cons item attributes ih =>
    obtain ⟨name, value⟩ := item
    obtain ⟨hfresh, hrest⟩ := List.nodup_cons.mp hunique
    rw [List.foldl_cons, ih hrest]
    by_cases hkey : name = key
    · subst hkey
      have hnone : PyDict.get? attributes name = none := by
        rw [← Option.not_isSome_iff_eq_none, PyDict.get?_isSome_iff]
        exact hfresh
      by_cases hlogged : isLogged name = true
      · simp [addAttribute, hlogged, hnone, PyDict.get?, PyDict.get?_set_self]
      · simp [addAttribute, hlogged]
    · have hsame : PyDict.get? (addAttribute payload (name, value)) key =
          PyDict.get? payload key := by
        unfold addAttribute
        split
        · exact PyDict.get?_set_of_ne _ _ (Ne.symm hkey)
        · rfl
      rw [hsame, PyDict.get?, if_neg hkey]

theorem addAttributes_unique (attributes : List (String × PyObject))
    {payload : List (String × Value)} (h : PyDict.Unique payload) :
    PyDict.Unique (attributes.foldl addAttribute payload) := by
  refine List.foldlRecOn attributes _ h fun payload hpayload item _ => ?_
  unfold addAttribute
  split
  · exact PyDict.set_unique hpayload _ _
  · exact hpayload

theorem payloadOf_unique (record : LogRecord) : PyDict.Unique (payloadOf record) := by
  have hbase : PyDict.Unique (basePayload record) := by
    simp [PyDict.Unique, basePayload]
  have hadded := addAttributes_unique record.attributes hbase
  unfold payloadOf
  dsimp only
  split
  · exact PyDict.set_unique hadded _ _
  · exact hadded

theorem linesOf_logText (records : List LogRecord) :
    linesOf (logText records) = records.map format := by
  have hflat : logText records = (records.map format).flatMap fun line => line ++ ['\n'] := by
    rw [logText, List.flatMap_map]
  rw [hflat]
  refine linesOf_flatMap fun line hline => ?_
  obtain ⟨record, _, rfl⟩ := List.mem_map.mp hline
  exact newline_not_mem_dumps _

theorem readLog_logText (records : List LogRecord) :
    readLog (logText records) = records.map fun record => some (.dict (payloadOf record)) := by
  rw [readLog, linesOf_logText, List.map_map]
  exact List.map_congr_left fun record _ => readLine_dumps _

/-- Whatever clients send, the log has one line of printable ASCII for each record, which
reads back as what was logged, with no key twice. -/
theorem log_reads_back (records : List LogRecord) :
    readLog (logText records) = records.map (fun record => some (.dict (payloadOf record))) ∧
      (∀ line ∈ linesOf (logText records), line.all isPrintable = true) ∧
      ∀ record ∈ records, PyDict.Unique (payloadOf record) := by
  refine ⟨readLog_logText records, fun line hline => ?_, fun record _ => payloadOf_unique record⟩
  rw [linesOf_logText] at hline
  obtain ⟨record, _, rfl⟩ := List.mem_map.mp hline
  exact dumps_printable _

/-! ## What the log says about requests -/

def strField? (fields : List (String × Value)) (key : String) : Option String :=
  match PyDict.get? fields key with
  | some (.str s) => some s
  | _ => none

def intField? (fields : List (String × Value)) (key : String) : Option ℤ :=
  match PyDict.get? fields key with
  | some (.int n) => some n
  | _ => none

def endpointOf? (name : String) : Option Endpoint :=
  [.chatCompletions, .responses, .messages].find? fun endpoint => endpoint.name == name

def originOf? (text : String) : Option FailureOrigin :=
  [.gateway, .upstream].find? fun origin => originText origin == text

/-- The request that a line of the access log is about, if it belongs to a department. -/
def loggedRequest (fields : List (String × Value)) : Option RequestLabels := do
  let logger ← strField? fields "logger"
  let department ← strField? fields "department"
  let endpoint ← (strField? fields "endpoint").bind endpointOf?
  let method ← strField? fields "method"
  let statusCode ← intField? fields "status_code"
  if logger = accessLoggerName then
    some ⟨department, endpoint, method.toUpper, statusClass statusCode.toNat⟩
  else none

def loggedFailure (fields : List (String × Value)) : Option (RequestLabels × FailureOrigin) := do
  let labels ← loggedRequest fields
  let statusCode ← intField? fields "status_code"
  let origin ← (strField? fields "failure_origin").bind originOf?
  if 400 ≤ statusCode then some (labels, origin) else none

def objectsOf (t : Text) : List (List (String × Value)) :=
  (readLog t).filterMap fun line =>
    match line with
    | some (.dict fields) => some fields
    | _ => none

def failuresOf (events : List RequestMetricEvent) : List (RequestLabels × FailureOrigin) :=
  events.filterMap fun event =>
    match event with
    | .httpRequestFailure department endpoint method status origin =>
      some (⟨department, endpoint, method, status⟩, origin)
    | _ => none

theorem objectsOf_logText (records : List LogRecord) :
    objectsOf (logText records) = records.map payloadOf := by
  rw [objectsOf, readLog_logText, List.filterMap_map]
  exact congrFun (List.filterMap_eq_map (f := payloadOf)) records

theorem get?_append (xs ys : List (String × PyObject)) (key : String) :
    PyDict.get? (xs ++ ys) key = (PyDict.get? xs key).or (PyDict.get? ys key) := by
  induction xs with
  | nil => rfl
  | cons item xs ih =>
    obtain ⟨name, value⟩ := item
    rw [List.cons_append, PyDict.get?, PyDict.get?]
    split
    · rfl
    · exact ih

theorem get?_optionalField (name : String) (value : Option String) (key : String) :
    PyDict.get? (optionalField name value) key =
      if name = key then value.map PyObject.str else none := by
  cases value with
  | none => simp [optionalField, PyDict.get?]
  | some value => simp [optionalField, PyDict.get?]

section
variable (start : RecordStart) (request : HttpRequest) (snapshot : RequestMetricsSnapshot)
  (durationSeconds : FloatText)

/-- A logged key that is none of the first four has the value of its field. -/
theorem get?_completion {key : String} (hkey : isLogged key = true)
    (hbase : key ∉ ["timestamp", "level", "logger", "message"]) :
    PyDict.get? (payloadOf (completionRecord start request snapshot durationSeconds)) key =
      (PyDict.get? (buildAccessLogFields request snapshot durationSeconds) key).map
        normalizeJsonValue := by
  have hstart : PyDict.get? start.attributes key = none := by
    rw [← Option.not_isSome_iff_eq_none, PyDict.get?_isSome_iff]
    intro hmem
    obtain ⟨item, hitem, rfl⟩ := List.mem_map.mp hmem
    exact not_standard_of_logged hkey (start.attributes_standard item hitem)
  have hnone : PyDict.get? (basePayload
      (completionRecord start request snapshot durationSeconds)) key = none := by
    rw [← Option.not_isSome_iff_eq_none, PyDict.get?_isSome_iff]
    exact hbase
  change PyDict.get? ((start.attributes ++ buildAccessLogFields request snapshot
    durationSeconds).foldl addAttribute _) key = _
  rw [get?_addAttributes (accessAttributes_unique request snapshot durationSeconds start),
    if_pos hkey, get?_append, hstart, Option.none_or, hnone, Option.or_none]

theorem completion_logger :
    PyDict.get? (payloadOf (completionRecord start request snapshot durationSeconds)) "logger" =
      some (.str accessLoggerName) := by
  have hnone : PyDict.get? (start.attributes ++
      buildAccessLogFields request snapshot durationSeconds) "logger" = none := by
    rw [← Option.not_isSome_iff_eq_none, PyDict.get?_isSome_iff, List.map_append]
    intro hmem
    rcases List.mem_append.mp hmem with hstart | hfield
    · obtain ⟨item, hitem, heq⟩ := List.mem_map.mp hstart
      have hstandard := start.attributes_standard item hitem
      rw [heq] at hstandard
      exact absurd hstandard (by decide)
    · exact absurd ((accessFields_keys request snapshot durationSeconds).subset hfield) (by decide)
  change PyDict.get? ((start.attributes ++ buildAccessLogFields request snapshot
    durationSeconds).foldl addAttribute _) "logger" = _
  rw [get?_addAttributes (accessAttributes_unique request snapshot durationSeconds start), hnone]
  rfl

structure Shows (fields : List (String × Value)) : Prop where
  logger : strField? fields "logger" = some accessLoggerName
  department : strField? fields "department" = snapshot.department
  endpoint : strField? fields "endpoint" =
    some ((snapshot.endpoint.map Endpoint.name).getD request.path)
  method : strField? fields "method" = some snapshot.method
  statusCode : intField? fields "status_code" = some (snapshot.statusCode : ℤ)
  failureOrigin : strField? fields "failure_origin" = snapshot.failureOrigin.map originText

theorem strField?_of_get? {fields : List (String × Value)} {key : String} {value : Option String}
    (h : PyDict.get? fields key = (value.map PyObject.str).map normalizeJsonValue) :
    strField? fields key = value := by
  rw [strField?, h]
  cases value <;> rfl

theorem completion_shows :
    Shows request snapshot (payloadOf (completionRecord start request snapshot durationSeconds)) := by
  have hstr {key : String} {value : Option String} (hkey : isLogged key = true)
      (hbase : key ∉ ["timestamp", "level", "logger", "message"])
      (hfield : PyDict.get? (buildAccessLogFields request snapshot durationSeconds) key =
        value.map PyObject.str) :
      strField? (payloadOf (completionRecord start request snapshot durationSeconds)) key = value :=
    strField?_of_get? ((get?_completion start request snapshot durationSeconds hkey hbase).trans
      (congrArg _ hfield))
  refine ⟨?_, hstr (by decide) (by decide) ?_, hstr (by decide) (by decide) ?_,
    hstr (by decide) (by decide) ?_, ?_, hstr (by decide) (by decide) ?_⟩
  · rw [strField?, completion_logger]
  · simp [buildAccessLogFields, get?_append, get?_optionalField, PyDict.get?]
  · simp [buildAccessLogFields, PyDict.get?]
  · simp [buildAccessLogFields, PyDict.get?]
  · rw [intField?, get?_completion start request snapshot durationSeconds (by decide) (by decide)]
    simp [buildAccessLogFields, PyDict.get?, normalizeJsonValue]
  · simp [buildAccessLogFields, get?_append, get?_optionalField, PyDict.get?]

end

theorem endpointOf?_name (endpoint : Endpoint) : endpointOf? endpoint.name = some endpoint := by
  cases endpoint <;> decide

theorem originOf?_text (origin : FailureOrigin) : originOf? (originText origin) = some origin := by
  cases origin <;> decide

/-- The department and the endpoint are noted together. -/
def Paired (state : RequestState) : Prop := state.department.isSome = state.endpoint.isSome

section
variable (start : RecordStart) (request : HttpRequest) (durationSeconds : FloatText)
  {call : Finalization}

def loggedOf (call : Finalization) : Option (List (String × Value)) :=
  (logRequestCompletion start request (snapshotOf call) durationSeconds).map payloadOf

theorem loggedOf_cases (hrecorded : call.state.recorded = false) :
    (loggedOf start request durationSeconds call = none ∧ call.state.endpoint = none) ∨
      ∃ fields, loggedOf start request durationSeconds call = some fields ∧
        Shows request (buildRequestMetricsSnapshot call.state call.method call.defaultStatusCode)
          fields := by
  have hsnapshot : snapshotOf call =
      some (buildRequestMetricsSnapshot call.state call.method call.defaultStatusCode) := by
    rw [snapshotOf, hrecorded]
    rfl
  unfold loggedOf logRequestCompletion
  rw [hsnapshot]
  dsimp only
  split
  · rename_i hquiet
    simp only [Bool.and_eq_true, Option.isNone_iff_eq_none] at hquiet
    exact .inl ⟨rfl, hquiet.1⟩
  · exact .inr ⟨_, rfl, completion_shows _ _ _ _⟩

theorem Shows.loggedRequest_eq {snapshot : RequestMetricsSnapshot} {fields : List (String × Value)}
    (h : Shows request snapshot fields) :
    loggedRequest fields = (match snapshot.department, snapshot.endpoint with
      | some department, some endpoint =>
        some ⟨department, endpoint, snapshot.method.toUpper, statusClass snapshot.statusCode⟩
      | some department, none => (endpointOf? request.path).map fun endpoint =>
        ⟨department, endpoint, snapshot.method.toUpper, statusClass snapshot.statusCode⟩
      | none, _ => none) := by
  unfold loggedRequest
  rw [h.logger, h.department, h.endpoint, h.method, h.statusCode]
  cases snapshot.department with
  | none => rfl
  | some department =>
    cases snapshot.endpoint with
    | none =>
      simp only [Option.map_none, Option.getD_none, Option.bind_eq_bind, Option.bind_some]
      cases endpointOf? request.path <;> rfl
    | some endpoint =>
      simp only [Option.map_some, Option.getD_some, Option.bind_eq_bind, Option.bind_some,
        endpointOf?_name, if_true]
      rfl

theorem Shows.loggedFailure_eq {snapshot : RequestMetricsSnapshot}
    {fields : List (String × Value)} (h : Shows request snapshot fields) :
    loggedFailure fields = (loggedRequest fields).bind fun labels =>
      snapshot.failureOrigin.bind fun origin =>
        if 400 ≤ snapshot.statusCode then some (labels, origin) else none := by
  unfold loggedFailure
  rw [h.statusCode, h.failureOrigin]
  cases loggedRequest fields with
  | none => rfl
  | some labels =>
    cases snapshot.failureOrigin with
    | none => rfl
    | some origin =>
      simp only [Option.map_some, Option.bind_eq_bind, Option.bind_some, originOf?_text]
      norm_cast

theorem loggedRequest_call (hrecorded : call.state.recorded = false) (hpaired : Paired call.state) :
    (loggedOf start request durationSeconds call).bind loggedRequest = call.labels := by
  unfold Paired at hpaired
  unfold Finalization.labels
  rw [hrecorded, if_neg (by decide)]
  obtain ⟨hnone, hendpoint⟩ | ⟨fields, hsome, hshows⟩ :=
    loggedOf_cases start request durationSeconds hrecorded
  · have hdepartment : call.state.department = none := by
      rw [hendpoint] at hpaired
      simpa using hpaired
    rw [hnone, hendpoint, hdepartment]
    rfl
  · rw [hsome, Option.bind_some, hshows.loggedRequest_eq]
    unfold buildRequestMetricsSnapshot Finalization.statusCode
    dsimp only
    cases hdepartment : call.state.department with
    | none => rfl
    | some department =>
      cases hendpoint : call.state.endpoint with
      | none =>
        rw [hdepartment, hendpoint] at hpaired
        cases hpaired
      | some endpoint => rfl

/-- A counted request is one failure, with the origin of its snapshot, from status 400 on. -/
theorem failuresOf_events (call : Finalization) : failuresOf call.events =
    (call.labels.bind fun labels =>
      (buildRequestMetricsSnapshot call.state call.method
        call.defaultStatusCode).failureOrigin.bind fun origin =>
          if 400 ≤ call.statusCode then some (labels, origin) else none).toList := by
  unfold Finalization.events Finalization.labels finalizeRequestMetrics
  split
  · rfl
  · unfold buildRequestMetricsSnapshot
    dsimp only
    cases call.state.department with
    | none => rfl
    | some department =>
      cases call.state.endpoint with
      | none => rfl
      | some endpoint =>
        generalize (if call.state.failureOrigin.isNone &&
          decide (400 ≤ call.state.statusCodeOverride.getD call.defaultStatusCode) then
            some FailureOrigin.gateway else call.state.failureOrigin) = origin
        simp only [Option.bind_some, Finalization.statusCode]
        cases call.state.modelName
        all_goals
          cases origin with
          | none => rfl
          | some origin =>
            by_cases hfailed : call.state.statusCodeOverride.getD call.defaultStatusCode < 400
            · simp [failuresOf, observeRequest, observeModelRequest, recordRequestFailure, hfailed,
                Nat.not_le.mpr hfailed]
            · simp [failuresOf, observeRequest, observeModelRequest, recordRequestFailure, hfailed,
                Nat.le_of_not_lt hfailed]

theorem loggedFailure_call (hrecorded : call.state.recorded = false) (hpaired : Paired call.state) :
    ((loggedOf start request durationSeconds call).bind loggedFailure).toList =
      failuresOf call.events := by
  have hrequest := loggedRequest_call start request durationSeconds hrecorded hpaired
  rw [failuresOf_events]
  obtain ⟨hnone, _⟩ | ⟨fields, hsome, hshows⟩ :=
    loggedOf_cases start request durationSeconds hrecorded
  · rw [hnone] at hrequest ⊢
    rw [← hrequest]
    rfl
  · rw [hsome, Option.bind_some] at hrequest ⊢
    rw [hshows.loggedFailure_eq, hrequest]
    rfl

end

theorem paired_update {state : RequestState} (h : Paired state) (update : RequestMetricsUpdate) :
    Paired (state.update update) := by
  cases update with
  | context => rfl
  | _ => exact h

theorem paired_note {m : Middleware} (h : Paired m.state) (update : RequestMetricsUpdate) :
    Paired (m.note update).state := paired_update h update

theorem paired_step {method : String} {m m' : Middleware} {signal : Signal} (h : Paired m.state)
    (hstep : MetricsMiddleware.Step method m signal m') : Paired m'.state := by
  cases hstep with
  | noted => exact paired_note h _
  | streaming | turned | lost => exact h
  | finalized _ hnoted =>
    have hstate (noted : Middleware) (defaultStatusCode : ℕ) (hnoted : Paired noted.state) :
        Paired (noted.finalize method defaultStatusCode).state := by
      unfold Paired
      rw [Middleware.finalize, MetricsMiddleware.finalizeRequestMetrics_recorded]
      exact hnoted
    rcases hnoted with rfl | rfl
    · exact hstate _ _ h
    · exact hstate _ _ (paired_note h _)

theorem paired_run {method : String} {vs : List (Middleware × Signal)} {m : Middleware}
    (run : Run (MetricsMiddleware.step method) .start vs m) : Paired m.state := by
  have hstart : Paired Middleware.start.state := rfl
  refine run.invariant (fun _ m => Paired m.state) hstart ?_
  intro _ _ _ _ _ h hstep
  exact paired_step h (MetricsMiddleware.step_cases hstep)

/-- A request was finalized once at most, with what it had noted. -/
theorem Served.finalizations_cases (served : Served) :
    served.middleware.finalizations = [] ∨
      ∃ call, served.middleware.finalizations = [call] ∧ call.state.recorded = false ∧
        Paired call.state := by
  have hinv := MetricsMiddleware.run_inv served.run
  have hpaired := paired_run served.run
  by_cases hphase : served.middleware.phase = .finished
  · cases hinv.2 hphase with
    | finalized state hrecorded hstate hfinalizations =>
      rw [hstate] at hpaired
      exact .inr ⟨_, hfinalizations, hrecorded, hpaired⟩
    | lost hfinalizations => exact .inl hfinalizations
  · exact .inl (hinv.1 hphase).finalizations

theorem Served.records_counted (served : Served) :
    served.records.length ≤ 1 ∧
      (served.records.map payloadOf).filterMap loggedRequest =
        requestsOf served.middleware.events ∧
      (served.records.map payloadOf).filterMap loggedFailure =
        failuresOf served.middleware.events := by
  obtain hnone | ⟨call, hone, hrecorded, hpaired⟩ := served.finalizations_cases
  · unfold Served.records Middleware.events
    rw [hnone]
    exact ⟨Nat.zero_le _, rfl, rfl⟩
  · have hrequest := loggedRequest_call served.start served.request served.durationSeconds
      hrecorded hpaired
    have hfailure := loggedFailure_call served.start served.request served.durationSeconds
      hrecorded hpaired
    have hlogged : served.records.map payloadOf =
        (loggedOf served.start served.request served.durationSeconds call).toList := by
      unfold Served.records loggedOf
      rw [hone, List.filterMap_cons]
      cases logRequestCompletion served.start served.request (snapshotOf call)
        served.durationSeconds <;> rfl
    have hlist {α : Type} (f : List (String × Value) → Option α)
        (logged : Option (List (String × Value))) :
        logged.toList.filterMap f = (logged.bind f).toList := by
      cases logged with
      | none => rfl
      | some fields => cases hf : f fields <;> simp [hf]
    refine ⟨?_, ?_, ?_⟩
    · unfold Served.records
      rw [hone]
      exact List.length_filterMap_le _ _
    · rw [hlogged, hlist, hrequest, Middleware.events, hone,
        MetricsMiddleware.emittedEvents_singleton, MetricsMiddleware.requestsOf_events]
    · rw [hlogged, hlist, hfailure, Middleware.events, hone,
        MetricsMiddleware.emittedEvents_singleton]

theorem other_unlogged {record : LogRecord} (hname : record.name ≠ accessLoggerName)
    (hkeys : ∀ item ∈ record.attributes, item.1 ≠ "logger") :
    loggedRequest (payloadOf record) = none := by
  have hnone : PyDict.get? record.attributes "logger" = none := by
    rw [← Option.not_isSome_iff_eq_none, PyDict.get?_isSome_iff]
    intro hmem
    obtain ⟨item, hitem, heq⟩ := List.mem_map.mp hmem
    exact hkeys item hitem heq
  have hadded : PyDict.get? (record.attributes.foldl addAttribute (basePayload record)) "logger" =
      some (.str record.name) := by
    rw [get?_addAttributes record.attributes_unique, hnone]
    rfl
  have hpayload : PyDict.get? (payloadOf record) "logger" = some (.str record.name) := by
    unfold payloadOf
    cases record.excInfo with
    | none => exact hadded
    | some text => exact (PyDict.get?_set_of_ne _ _ (by decide)).trans hadded
  have hlogger : strField? (payloadOf record) "logger" = some record.name := by
    rw [strField?, hpayload]
  unfold loggedRequest
  simp [hlogger, hname]

theorem Entry.records_counted (entry : Entry) :
    (entry.records.map payloadOf).filterMap loggedRequest = requestsOf entry.events ∧
      (entry.records.map payloadOf).filterMap loggedFailure = failuresOf entry.events := by
  cases entry with
  | served s => exact s.records_counted.2
  | other record hname hkeys =>
    have hrequest := other_unlogged hname hkeys
    have hfailure : loggedFailure (payloadOf record) = none := by
      unfold loggedFailure
      rw [hrequest]
      rfl
    constructor
    · simp only [Entry.records, List.map_cons, List.map_nil, List.filterMap_cons, hrequest]
      rfl
    · simp only [Entry.records, List.map_cons, List.map_nil, List.filterMap_cons, hfailure]
      rfl

/-- Each request is logged once at most; and from the text of the log, whatever clients send
and whatever else is logged in between, the counters of requests and of failures can be
counted again. -/
theorem log_reconciles (entries : List Entry) :
    let logged := objectsOf (logText (entries.flatMap Entry.records))
    let events := entries.flatMap Entry.events
    logged.filterMap loggedRequest = requestsOf events ∧
      logged.filterMap loggedFailure = failuresOf events ∧
      ∀ served : Served, served.records.length ≤ 1 := by
  intro logged events
  have hlogged : logged = entries.flatMap fun entry => entry.records.map payloadOf := by
    rw [show logged = _ from objectsOf_logText _, List.map_flatMap]
  have hflat {α β : Type} (f : α → Option β) (xs : Entry → List α) :
      (entries.flatMap xs).filterMap f = entries.flatMap fun entry => (xs entry).filterMap f := by
    rw [List.filterMap_flatMap]
  refine ⟨?_, ?_, fun served => served.records_counted.1⟩
  · rw [hlogged, requestsOf, hflat, hflat]
    exact List.flatMap_congr fun entry _ => entry.records_counted.1
  · rw [hlogged, failuresOf, hflat, hflat]
    exact List.flatMap_congr fun entry _ => entry.records_counted.2

end VllmSourceGateway.AccessLog
