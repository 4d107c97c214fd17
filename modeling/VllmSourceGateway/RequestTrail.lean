import VllmSourceGateway.GatewaySystem

set_option autoImplicit false

/-! The attempts of one request: which upstreams it contacted, how each attempt
ended, and what was counted for them. -/
namespace VllmSourceGateway.RequestTrail
open PyValues UsageExtractors Metrics Config AdmissionControl Routing GatewayEffects
open StreamBytes ProxyEndpoint RequestSegments GatewaySystem

/-- An attempt in progress has no outcome. -/
structure Attempt where
  modelName : String
  upstream : UpstreamTarget
  outcome : Option (Except Exn ℕ)

def Attempt.ended (outcome : Except Exn ℕ) (attempt : Attempt) : Attempt :=
  { attempt with outcome := some outcome }

def Attempt.connectFailed (attempt : Attempt) : Bool :=
  match attempt.outcome with
  | some (.error (.httpx e)) => isConnectStageRetryableError e
  | _ => false

/-- `selections` are the labels of the selection counter's increments. -/
structure Trail where
  attempts : List Attempt
  selections : List (String × String)
  retryEvents : ℕ

def Trail.names (trail : Trail) : List String := trail.attempts.map (·.upstream.name)

def Trail.observe (trail : Trail) : Effect → Trail
  | .contact _ modelName upstream _ =>
    { trail with attempts := trail.attempts ++ [⟨modelName, upstream, none⟩] }
  | .attemptEnded _ _ outcome =>
    { trail with attempts := trail.attempts.modifyLast (Attempt.ended outcome) }
  | .metric (.upstreamSelection modelName upstreamName) =>
    { trail with selections := trail.selections ++ [(modelName, upstreamName)] }
  | .recordRetryEvent _ _ => { trail with retryEvents := trail.retryEvents + 1 }
  | _ => trail

def Trail.observeAll (trail : Trail) (effects : List Effect) : Trail :=
  effects.foldl Trail.observe trail

def emptyTrail : Trail := ⟨[], [], 0⟩

def trailOf (trace : List Effect) : Trail := emptyTrail.observeAll trace

section
variable (trail : Trail)

@[simp] theorem trail_nil : trail.observeAll [] = trail := rfl

@[simp] theorem trail_cons (effect : Effect) (effects : List Effect) :
    trail.observeAll (effect :: effects) = (trail.observe effect).observeAll effects := rfl

@[simp] theorem trail_append (xs ys : List Effect) :
    trail.observeAll (xs ++ ys) = (trail.observeAll xs).observeAll ys := List.foldl_append

theorem trail_bookkeeping {effects : List Effect} (h : effects.all bookkeeping = true) :
    trail.observeAll effects = trail := by
  induction effects with
  | nil => rfl
  | cons effect effects ih =>
    simp only [List.all_cons, Bool.and_eq_true] at h
    have hsame : trail.observe effect = trail := by
      cases effect with
      | metric event => cases event <;> first | rfl | cases h.1
      | requestMetrics | recordTokens => rfl
      | _ => cases h.1
    rw [trail_cons, hsame, ih h.2]

theorem trail_admission (request : ProxyRequest) (modelName : String) (bodySize : ℕ)
    (payload shaped : JsonObject) (result : Except Rejection (Option AdmissionLease)) :
    trail.observeAll (admission request modelName bodySize payload shaped result) = trail := rfl

theorem trail_endAttempt (request : ProxyRequest) (modelName : String) (outcome : Except Exn ℕ) :
    trail.observeAll (endAttempt request modelName outcome) =
      { trail with attempts := trail.attempts.modifyLast (Attempt.ended outcome) } := rfl

theorem trail_selectAndContact (request : ProxyRequest) (excluded : List String)
    (flight : Flight) :
    trail.observeAll (selectAndContact request excluded flight) =
      { trail with
        attempts := trail.attempts ++ [⟨flight.modelName, flight.upstream, none⟩]
        selections := trail.selections ++ [(flight.modelName, flight.upstream.name)] } := rfl

theorem trail_noteUpstreamStatus (request : ProxyRequest) (modelName : String) (status : ℕ) :
    trail.observeAll (noteUpstreamStatus request modelName status) =
      { trail with retryEvents := trail.retryEvents + if 500 ≤ status then 1 else 0 } := by
  simp only [noteUpstreamStatus]
  split <;> split <;> rfl

theorem trail_handleResponse (P : Platform) (request : ProxyRequest) (modelName : String)
    (status : ℕ) (headers : List (String × String)) (content : List UInt8) :
    trail.observeAll (handleResponse P request modelName status headers content).1 = trail :=
  trail_bookkeeping trail (handleResponse_bookkeeping _ _ _ _)

theorem trail_release (lease : Option AdmissionLease) :
    trail.observeAll [.release lease] = trail := rfl

/-- The streaming body makes no attempts and records no retry events. -/
theorem trail_stream {ctx : StreamContext} {point point' : StreamPoint} {input : StreamInput}
    {effects : List Effect}
    (h : GoesOn ctx point input effects point' ∨
      ∃ outcome, point' = .finished outcome ∧ Finishes ctx point input effects outcome) :
    trail.observeAll effects = trail := by
  obtain hgoes | ⟨outcome, rfl, hfinishes⟩ := h
  · rcases hgoes.effects with heffects | heffects <;> rw [heffects] <;> rfl
  · cases hfinishes with
    | unstarted | closeRaised => rfl
    | completed exit =>
      obtain ⟨accounting, heffects, haccounting⟩ := finallyBlock_effects ctx exit
      rw [heffects, trail_cons, trail_cons, trail_bookkeeping _ haccounting]
      rfl

end

/-- An attempt has been made by contacting its upstream. -/
theorem attempts_contacted {trace : List Effect} {attempt : Attempt}
    (h : attempt ∈ (trailOf trace).attempts) :
    ∃ department sent,
      Effect.contact department attempt.modelName attempt.upstream sent ∈ trace := by
  induction trace using List.reverseRecOn generalizing attempt with
  | nil => cases h
  | append_singleton trace effect ih =>
    have hsnoc : trailOf (trace ++ [effect]) = (trailOf trace).observe effect :=
      trail_append _ _ _
    have hearlier {attempt : Attempt} (hold : attempt ∈ (trailOf trace).attempts) :
        ∃ department sent, Effect.contact department attempt.modelName attempt.upstream sent ∈
          trace ++ [effect] := by
      obtain ⟨department, sent, hmem⟩ := ih hold
      exact ⟨department, sent, List.mem_append_left _ hmem⟩
    rw [hsnoc] at h
    cases effect with
    | contact department modelName upstream sent =>
      rcases List.mem_append.mp h with hold | hnew
      · exact hearlier hold
      · rw [List.mem_singleton.mp hnew]
        exact ⟨department, sent, by simp⟩
    | attemptEnded =>
      obtain hnone | ⟨before, last, hattempts⟩ := List.eq_nil_or_concat (trailOf trace).attempts
      · rw [Trail.observe, hnone] at h
        cases h
      · rw [List.concat_eq_append] at hattempts
        have hlast : last ∈ (trailOf trace).attempts := by simp [hattempts]
        simp only [Trail.observe, hattempts, List.modifyLast_concat, List.mem_append,
          List.mem_singleton] at h
        rcases h with hold | hended
        · exact hearlier (hattempts ▸ List.mem_append_left _ hold)
        · rw [hended]
          exact @hearlier last hlast
    | metric event =>
      cases event <;> exact hearlier h
    | _ => exact hearlier h

/-- The attempts are for one model and on upstreams of its pool, on none twice,
and all but the last failed at the connect stage; each was counted once. -/
structure Orderly (config : AppConfig) (modelName : String) (trail : Trail) : Prop where
  model : ∀ attempt ∈ trail.attempts, attempt.modelName = modelName ∧
    attempt.upstream ∈ (RoutingRegistry.fromConfig config).pool modelName
  once : trail.names.Nodup
  connectStage : ∀ attempt ∈ trail.attempts.dropLast, attempt.connectFailed = true
  selections : trail.selections =
    trail.attempts.map fun attempt => (attempt.modelName, attempt.upstream.name)

section
variable {config : AppConfig} {modelName : String} {trail : Trail}

theorem orderly_empty (config : AppConfig) (modelName : String) :
    Orderly config modelName emptyTrail :=
  ⟨by simp [emptyTrail], by simp [emptyTrail, Trail.names], by simp [emptyTrail],
    by simp [emptyTrail]⟩

/-- Ending the last attempt keeps the order. -/
theorem Orderly.ended (h : Orderly config modelName trail) {failed : List Attempt}
    {current : Attempt} (hattempts : trail.attempts = failed ++ [current])
    (outcome : Except Exn ℕ) (retryEvents : ℕ) :
    Orderly config modelName
      ⟨failed ++ [current.ended outcome], trail.selections, retryEvents⟩ := by
  obtain ⟨hmodel, honce, hconnect, hselections⟩ := h
  rw [hattempts] at hmodel hconnect hselections
  simp only [Trail.names, hattempts] at honce
  refine ⟨?_, ?_, ?_, ?_⟩
  · intro attempt hmem
    rcases List.mem_append.mp hmem with hold | hlast
    · exact hmodel attempt (List.mem_append_left _ hold)
    · rw [List.mem_singleton.mp hlast]
      exact hmodel current (by simp)
  · simpa [Trail.names, Attempt.ended] using honce
  · simpa only [List.dropLast_concat] using hconnect
  · simpa [Attempt.ended] using hselections

/-- A further attempt, after one that failed at the connect stage, on an upstream
of the pool that has not been tried. -/
theorem Orderly.retried (h : Orderly config modelName trail) {upstream : UpstreamTarget}
    (hfailed : ∀ attempt ∈ trail.attempts, attempt.connectFailed = true)
    (hpool : upstream ∈ (RoutingRegistry.fromConfig config).pool modelName)
    (hfresh : upstream.name ∉ trail.names) :
    Orderly config modelName
      ⟨trail.attempts ++ [⟨modelName, upstream, none⟩],
        trail.selections ++ [(modelName, upstream.name)], trail.retryEvents⟩ := by
  refine ⟨?_, ?_, ?_, ?_⟩
  · intro attempt hmem
    rcases List.mem_append.mp hmem with hold | hnew
    · exact h.model attempt hold
    · rw [List.mem_singleton.mp hnew]
      exact ⟨rfl, hpool⟩
  · simp only [Trail.names, List.map_append, List.map_cons, List.map_nil]
    exact List.nodup_append'.mpr ⟨h.once, List.nodup_singleton _,
      List.disjoint_singleton.mpr hfresh⟩
  · simpa only [List.dropLast_concat] using hfailed
  · simp [h.selections]

/-- There are no more attempts than names in the pool. -/
theorem Orderly.bounded (h : Orderly config modelName trail) :
    trail.attempts.length ≤
      (((RoutingRegistry.fromConfig config).pool modelName).map (·.name)).dedup.length := by
  have hsubset : trail.names ⊆
      (((RoutingRegistry.fromConfig config).pool modelName).map (·.name)).dedup := by
    intro name hname
    obtain ⟨attempt, hmem, rfl⟩ := List.mem_map.mp hname
    exact List.mem_dedup.mpr (List.mem_map_of_mem (h.model attempt hmem).2)
  have hlength := (h.once.subperm hsubset).length_le
  rwa [Trail.names, List.length_map] at hlength

end

structure OverTrail (config : AppConfig) (trail : Trail) : Prop where
  orderly : ∃ modelName, Orderly config modelName trail
  retryOnce : trail.retryEvents ≤ 1
  retryNone : ∀ attempt status, trail.attempts.getLast? = some attempt →
    attempt.outcome = some (.ok status) → status < 500 → trail.retryEvents = 0

def TrailAt (config : AppConfig) (trail : Trail) : Point → Prop
  | .awaitBody => trail = emptyTrail
  | .awaitSend flight | .awaitPost flight =>
    Orderly config flight.modelName trail ∧ trail.names = flight.attemptedUpstreamNames ∧
      trail.retryEvents = 0 ∧
      ∃ failed, trail.attempts = failed ++ [⟨flight.modelName, flight.upstream, none⟩]
  | .finished _ | .streaming _ _ => OverTrail config trail

def inLoop : Point → Bool
  | .awaitSend _ | .awaitPost _ => true
  | _ => false

section
variable {P : Platform} {config : AppConfig} {request : ProxyRequest} {g : Gateway} {now : ℚ}
  {trail : Trail}

theorem over_empty (config : AppConfig) : OverTrail config emptyTrail :=
  ⟨⟨"", orderly_empty config ""⟩, by simp [emptyTrail], by simp [emptyTrail]⟩

theorem flight_trail {point : Point} {flight : Flight}
    (hpoint : point = .awaitSend flight ∨ point = .awaitPost flight)
    (h : TrailAt config trail point) :
    Orderly config flight.modelName trail ∧ trail.names = flight.attemptedUpstreamNames ∧
      trail.retryEvents = 0 ∧
      ∃ failed, trail.attempts = failed ++ [⟨flight.modelName, flight.upstream, none⟩] := by
  rcases hpoint with rfl | rfl <;> exact h

/-- The loop is left with the outcome of its last attempt. -/
theorem ended_over {point : Point} {flight : Flight}
    (hpoint : point = .awaitSend flight ∨ point = .awaitPost flight)
    (h : TrailAt config trail point) (outcome : Except Exn ℕ) (retryEvents : ℕ)
    (honce : retryEvents ≤ 1)
    (hnone : ∀ status, outcome = .ok status → status < 500 → retryEvents = 0) :
    OverTrail config
      ⟨trail.attempts.modifyLast (Attempt.ended outcome), trail.selections, retryEvents⟩ := by
  obtain ⟨horderly, _, _, failed, hattempts⟩ := flight_trail hpoint h
  rw [hattempts, List.modifyLast_concat]
  refine ⟨⟨_, horderly.ended hattempts outcome retryEvents⟩, honce, ?_⟩
  intro attempt status hlast hstatus
  rw [List.getLast?_concat, Option.some.injEq] at hlast
  subst hlast
  exact hnone status (Option.some.inj hstatus)

/-- A response is counted as a retry event when its status is 500 or more. -/
theorem answered_over {point : Point} {flight : Flight}
    (hpoint : point = .awaitSend flight ∨ point = .awaitPost flight)
    (h : TrailAt config trail point) (statusCode : ℕ) :
    OverTrail config ⟨trail.attempts.modifyLast (Attempt.ended (.ok statusCode)), trail.selections,
      trail.retryEvents + if 500 ≤ statusCode then 1 else 0⟩ := by
  have hzero := (flight_trail hpoint h).2.2.1
  refine ended_over hpoint h (.ok statusCode) _ ?_ ?_
  · rw [hzero]
    split <;> omega
  · rintro status ⟨⟩ hlow
    rw [hzero, if_neg (by omega)]

/-- The next turn of the loop, after the current attempt failed at the connect stage. -/
theorem retried_trail {point : Point} {flight : Flight} {upstream : UpstreamTarget} {e : HttpxError}
    (hpools : PoolsKept config g)
    (hpoint : point = .awaitSend flight ∨ point = .awaitPost flight)
    (h : TrailAt config trail point) (hconnect : isConnectStageRetryableError e = true)
    (hselect : (selectUpstream g.registry flight.modelName flight.attemptedUpstreamNames).1 =
      .ok upstream) :
    let next : Trail :=
      ⟨trail.attempts.modifyLast (Attempt.ended (.error (.httpx e))) ++
        [⟨flight.modelName, upstream, none⟩],
        trail.selections ++ [(flight.modelName, upstream.name)], trail.retryEvents⟩
    Orderly config flight.modelName next ∧
      next.names = flight.attemptedUpstreamNames ++ [upstream.name] ∧ next.retryEvents = 0 ∧
      ∃ failed, next.attempts = failed ++ [⟨flight.modelName, upstream, none⟩] := by
  obtain ⟨horderly, hnames, hzero, failed, hattempts⟩ := flight_trail hpoint h
  obtain ⟨hpool, hfresh, _⟩ := selectUpstream_ok _ _ hselect
  rw [hpools.pool] at hpool
  let current : Attempt := ⟨flight.modelName, flight.upstream, none⟩
  have hended := horderly.ended hattempts (.error (.httpx e)) trail.retryEvents
  have hallFailed : ∀ attempt ∈ failed ++ [current.ended (.error (.httpx e))],
      attempt.connectFailed = true := by
    intro attempt hmem
    rcases List.mem_append.mp hmem with hold | hlast
    · exact horderly.connectStage attempt (by simpa [hattempts] using hold)
    · rw [List.mem_singleton.mp hlast]
      exact hconnect
  have hsameNames : (failed ++ [current.ended (.error (.httpx e))]).map (·.upstream.name) =
      flight.attemptedUpstreamNames := by
    rw [← hnames, Trail.names, hattempts]
    simp [current, Attempt.ended]
  have hnext := hended.retried hallFailed hpool
    (by rw [Trail.names, hsameNames]; exact hfresh)
  rw [hattempts, List.modifyLast_concat]
  refine ⟨hnext, ?_, hzero, _, rfl⟩
  rw [Trail.names, List.map_append, hsameNames]
  rfl

/-- One resumption: the trail stays what the point says. -/
theorem segment_trail {point point' : Point} {input : Input} {effects : List Effect}
    (hpools : PoolsKept config g)
    (h : Segment P config request g now point input effects point')
    (htrail : TrailAt config trail point) :
    TrailAt config (trail.observeAll effects) point' := by
  cases h with
  | rejected | misshapen | refused =>
    obtain rfl := htrail
    exact over_empty config
  | unroutable =>
    obtain rfl := htrail
    exact over_empty config
  | @started input bodySize payload flight point hshape hacquire hselect hattempted hpoint =>
    obtain rfl := htrail
    have hpool := (selectUpstream_ok _ _ hselect).1
    rw [hpools.pool] at hpool
    have horderly := (orderly_empty config flight.modelName).retried (by simp [emptyTrail]) hpool
      (by simp [emptyTrail, Trail.names])
    rw [trail_append, trail_admission, trail_selectAndContact]
    rcases hpoint with rfl | rfl
    · exact ⟨horderly, by simp [Trail.names, emptyTrail, hattempted], rfl, [], rfl⟩
    · exact ⟨horderly, by simp [Trail.names, emptyTrail, hattempted], rfl, [], rfl⟩
  | @retried point point' flight flight' e hconnect hselect hflight hpoint =>
    obtain ⟨modelName, payload, lease, upstream, attempted⟩ := flight'
    simp only [Flight.mk.injEq, true_and] at hflight
    obtain ⟨rfl, rfl, rfl, rfl⟩ := hflight
    have hnext := retried_trail hpools (hpoint.imp And.left And.left) htrail hconnect hselect
    rw [trail_append, trail_endAttempt, trail_selectAndContact]
    rcases hpoint with ⟨rfl, rfl⟩ | ⟨rfl, rfl⟩
    · exact hnext
    · exact hnext
  | @exhausted point flight e error hconnect hselect hpoint =>
    have hzero := (flight_trail hpoint htrail).2.2.1
    exact ended_over hpoint htrail (.error (.httpx e)) (trail.retryEvents + 1)
      (by omega) (by simp)
  | @failed point flight e hconnect hpoint =>
    have hzero := (flight_trail hpoint htrail).2.2.1
    exact ended_over hpoint htrail (.error (.httpx e)) (trail.retryEvents + 1)
      (by omega) (by simp)
  | @broken point flight e hhttpx hpoint =>
    have hloop : point = .awaitSend flight ∨ point = .awaitPost flight :=
      hpoint.imp And.left id
    have hzero := (flight_trail hloop htrail).2.2.1
    exact ended_over hloop htrail (.error e) _ (by omega) (by simp)
  | @cancelled flight e hhttpx hcancelled =>
    have hzero := (flight_trail (.inl rfl) htrail).2.2.1
    exact ended_over (.inl rfl) htrail (.error e) _ (by omega) (by simp)
  | @opened flight statusCode headers hinit =>
    rw [trail_cons, trail_noteUpstreamStatus]
    exact answered_over (.inl rfl) htrail statusCode
  | @unbuildable flight statusCode headers hinit =>
    rw [List.cons_append, trail_cons, trail_append, trail_noteUpstreamStatus, trail_release]
    exact answered_over (.inl rfl) htrail statusCode
  | @answered flight statusCode headers content =>
    rw [trail_append, trail_append, trail_append, trail_append, trail_endAttempt,
      trail_handleResponse, trail_noteUpstreamStatus, trail_release]
    exact answered_over (.inr rfl) htrail statusCode
  | streamed hresume =>
    rw [trail_stream trail (resume_cases _ _ _ _ hresume)]
    exact htrail

theorem length_ended (attempts : List Attempt) (outcome : Except Exn ℕ) :
    (attempts.modifyLast (Attempt.ended outcome)).length = attempts.length := by
  rcases List.eq_nil_or_concat attempts with rfl | ⟨failed, current, rfl⟩
  · rfl
  · rw [List.concat_eq_append, List.modifyLast_concat, List.length_append, List.length_append]
    rfl

/-- One resumption adds an attempt exactly when it ends at a loop's await. -/
theorem segment_attempts {point point' : Point} {input : Input} {effects : List Effect}
    (h : Segment P config request g now point input effects point') :
    (trail.observeAll effects).attempts.length =
      trail.attempts.length + (inLoop point').toNat := by
  cases h with
  | rejected | misshapen | refused | unroutable => rfl
  | started hshape hacquire hselect hattempted hpoint =>
    rw [trail_append, trail_admission, trail_selectAndContact]
    rcases hpoint with rfl | rfl <;> simp [inLoop]
  | retried hconnect hselect hflight hpoint =>
    rw [trail_append, trail_endAttempt, trail_selectAndContact]
    rcases hpoint with ⟨rfl, rfl⟩ | ⟨rfl, rfl⟩ <;> simp [inLoop, length_ended]
  | exhausted | failed | broken | cancelled => exact length_ended _ _
  | opened =>
    rw [trail_cons, trail_noteUpstreamStatus]
    exact length_ended _ _
  | unbuildable =>
    rw [List.cons_append, trail_cons, trail_append, trail_noteUpstreamStatus, trail_release]
    exact length_ended _ _
  | answered =>
    rw [trail_append, trail_append, trail_append, trail_append, trail_endAttempt,
      trail_handleResponse, trail_noteUpstreamStatus, trail_release]
    exact length_ended _ _
  | streamed hresume =>
    rw [trail_stream trail (resume_cases _ _ _ _ hresume)]
    rfl

end

end VllmSourceGateway.RequestTrail
