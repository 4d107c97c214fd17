import VllmSourceGateway.FailoverLoops
import VllmSourceGateway.RoundRobinShares
import VllmSourceGateway.AdmissionOutputCap

set_option autoImplicit false

/-! A failover loop is a scan. As long as nobody's health changes and no other request
selects in between, the turns of either loop go once around the pool, from where the
pointer of the model stands, and stop at the first upstream that does not fail to connect. -/
namespace VllmSourceGateway.FailoverScan
open PyText PyValues UsageExtractors Metrics Config AdmissionControl Routing GatewayEffects
open StreamBytes ProxyEndpoint RequestSegments GatewaySystem RoundRobinShares FailoverLoops
open AdmissionOutputCap

def pointAt (registry : RoutingRegistry) (modelName : String) (index : ℕ) : RoutingRegistry :=
  { registry with roundRobinIndex := Function.update registry.roundRobinIndex modelName index }

theorem fromPointer_pointAt (registry : RoutingRegistry) (modelName : String) (index : ℕ)
    (pool : List UpstreamTarget) :
    fromPointer (pointAt registry modelName index) modelName pool = pool.rotate index := by
  simp only [fromPointer, pointAt, Function.update_self]

/-! ## What is left of a pool -/

/-- Who a loop would still try, in this order: each healthy upstream of the pool once,
as the pool reads from the pointer, without those that it has tried. -/
def remaining (registry : RoutingRegistry) (modelName : String) (attempted : List String) :
    List String :=
  (((fromPointer registry modelName (registry.pool modelName)).filter
    (eligible registry attempted)).map UpstreamTarget.name).eraseDups

section
variable {registry : RoutingRegistry} {modelName : String} {attempted : List String}

theorem eligible_snoc (name : String) (upstream : UpstreamTarget) :
    eligible registry (attempted ++ [name]) upstream =
      (eligible registry attempted upstream && !(upstream.name == name)) := by
  have hname : (upstream.name == name) = decide (upstream.name = name) := rfl
  simp only [eligible, List.mem_append, List.mem_singleton, Bool.decide_or, Bool.not_or, hname]
  cases decide (upstream.name ∈ attempted) <;> cases decide (upstream.name = name) <;> simp

theorem nodup_eraseDups {α : Type*} [DecidableEq α] (xs : List α) : xs.eraseDups.Nodup := by
  induction hlength : xs.length using Nat.strong_induction_on generalizing xs with
  | _ length ih =>
    cases xs with
    | nil => exact List.nodup_nil
    | cons x xs =>
      rw [List.eraseDups_cons]
      refine List.nodup_cons.mpr ⟨by simp, ih _ ?_ _ rfl⟩
      rw [← hlength]
      exact Nat.lt_succ_of_le (List.length_filter_le _ _)

/-- With nobody tried, these are the healthy upstreams of the pool. -/
theorem mem_remaining {name : String} :
    name ∈ remaining registry modelName [] ↔
      (∃ upstream ∈ registry.pool modelName, upstream.name = name) ∧
        registry.isHealthy name = true := by
  simp only [remaining, List.mem_eraseDups, List.mem_map, List.mem_filter, fromPointer,
    List.mem_rotate, eligible, List.not_mem_nil, decide_false, Bool.not_false, Bool.true_and]
  constructor
  · rintro ⟨upstream, ⟨hmem, hhealthy⟩, rfl⟩
    exact ⟨⟨upstream, hmem, rfl⟩, hhealthy⟩
  · rintro ⟨⟨upstream, hmem, rfl⟩, hhealthy⟩
    exact ⟨upstream, ⟨hmem, hhealthy⟩, rfl⟩

/-- A selection takes the first of those that are left. -/
theorem select_remaining {name : String} {names : List String}
    (h : remaining registry modelName attempted = name :: names) :
    ∃ upstream, (selectUpstream registry modelName attempted).1 = .ok upstream ∧
      upstream.name = name ∧
      remaining (selectUpstream registry modelName attempted).2 modelName (attempted ++ [name]) =
        names := by
  obtain ⟨error, _, hnone⟩ | ⟨pool, index, selected, hpool, hscan, heq⟩ :=
    selectUpstream_cases registry attempted modelName
  · have hempty : (fromPointer registry modelName (registry.pool modelName)).filter
        (eligible registry attempted) = [] := by
      refine List.filter_eq_nil_iff.mpr fun upstream hmem => ?_
      rw [hnone upstream (List.mem_rotate.mp hmem)]
      decide
    rw [remaining, hempty] at h
    cases h
  · obtain ⟨before, after, hstart, hbefore, hnext⟩ := CyclicScan.scan_rotate hscan
    have heligible := (CyclicScan.scan_some hscan).2.1
    have hskipped (q : UpstreamTarget → Bool) :
        before.filter (fun upstream => eligible registry attempted upstream && q upstream) = [] :=
      List.filter_eq_nil_iff.mpr fun upstream hmem => by simp [hbefore upstream hmem]
    have hgot : registry.pool modelName = pool := by rw [RoutingRegistry.pool, hpool]; rfl
    -- the scan has passed over `before` and stops at `selected`
    have hfirst : remaining registry modelName attempted = selected.name ::
        (((after.filter (eligible registry attempted)).map UpstreamTarget.name).filter
          fun name => !(name == selected.name)).eraseDups := by
      have hbare := hskipped fun _ => true
      simp only [Bool.and_true] at hbare
      rw [remaining, hgot, fromPointer, ← List.rotate_mod, hstart, List.filter_append, hbare,
        List.nil_append, List.filter_cons_of_pos heligible, List.map_cons, List.eraseDups_cons]
    rw [hfirst] at h
    obtain ⟨rfl, rfl⟩ := List.cons.inj h
    refine ⟨selected, by rw [heq], rfl, ?_⟩
    have hafter : (selectUpstream registry modelName attempted).2 =
        pointAt registry modelName ((index + 1) % pool.length) := by
      rw [heq]
      rfl
    have hpool' : (pointAt registry modelName ((index + 1) % pool.length)).pool modelName = pool :=
      hgot
    have hleft : (pool.rotate (index + 1)).filter (eligible registry (attempted ++ [selected.name])) =
        (after.filter (eligible registry attempted)).filter
          fun upstream => !(upstream.name == selected.name) := by
      have hself : eligible registry (attempted ++ [selected.name]) selected = false := by
        simp [eligible_snoc]
      rw [hnext, List.filter_append, List.filter_append, List.filter_cons_of_neg (by simp [hself]),
        List.filter_nil, List.append_nil, List.filter_filter,
        funext (eligible_snoc selected.name), hskipped, List.append_nil]
      exact List.filter_congr fun upstream _ => Bool.and_comm _ _
    have hsame : eligible (pointAt registry modelName ((index + 1) % pool.length)) =
        eligible registry := rfl
    rw [hafter, remaining, hpool', fromPointer_pointAt, List.rotate_mod, hsame, hleft,
      List.filter_map]
    rfl

/-- With nobody left a selection fails. -/
theorem select_exhausted (h : remaining registry modelName attempted = []) :
    ∃ error, (selectUpstream registry modelName attempted).1 = .error error := by
  obtain ⟨error, heq, _⟩ | ⟨pool, index, selected, hpool, hscan, _⟩ :=
    selectUpstream_cases registry attempted modelName
  · exact ⟨error, by rw [heq]⟩
  · obtain ⟨before, after, hstart, _, _⟩ := CyclicScan.scan_rotate hscan
    have heligible := (CyclicScan.scan_some hscan).2.1
    have hgot : registry.pool modelName = pool := by rw [RoutingRegistry.pool, hpool]; rfl
    rw [remaining, hgot, fromPointer, ← List.rotate_mod, hstart, List.filter_append,
      List.filter_cons_of_pos heligible, List.map_append, List.map_cons] at h
    have hmem : selected.name ∈ ((before.filter (eligible registry attempted)).map
        UpstreamTarget.name ++ selected.name :: (after.filter (eligible registry attempted)).map
        UpstreamTarget.name).eraseDups := by simp
    rw [h] at hmem
    cases hmem

end

def contactedNames (effects : List Effect) : List String :=
  effects.filterMap fun effect =>
    match effect with
    | .contact _ _ upstream _ => some upstream.name
    | _ => none

theorem contactedNames_append (xs ys : List Effect) :
    contactedNames (xs ++ ys) = contactedNames xs ++ contactedNames ys := List.filterMap_append

def connectFailed (failed : FailedAttempt) : Bool :=
  match failed.error with
  | .httpx e => isConnectStageRetryableError e
  | _ => false

structure Waiting (run : LoopRun) (names : List String) : Prop where
  waits : ∃ flight, (run.point = .awaitSend flight ∨ run.point = .awaitPost flight) ∧
    remaining run.gateway.registry flight.modelName flight.attemptedUpstreamNames = names

def Ended (run : LoopRun) : Prop := ∃ outcome, run.point = .finished outcome

section
variable (P : Platform) (config : AppConfig) (request : ProxyRequest)

theorem advance_failed (g : Gateway) (now : ℚ) {point : Point} {flight : Flight} {e : Exn}
    (hpoint : point = .awaitSend flight ∨ point = .awaitPost flight)
    (he : e.isException = true) :
    ∃ await : Flight → Point, (∀ next, await next = .awaitSend next ∨ await next = .awaitPost next) ∧
      advance P config request g now point (.raised e) =
        some ((failedTurn request g flight e).1, (failedTurn request g flight e).2.point await) := by
  rcases hpoint with rfl | rfl
  · exact ⟨.awaitSend, fun _ => .inl rfl, afterSend_turn P request g flight he⟩
  · exact ⟨.awaitPost, fun _ => .inr rfl, afterPost_turn P request g flight e⟩

/-- A turn after an attempt that has not failed to connect, or with nobody left. -/
theorem failedTurn_ends (g : Gateway) (flight : Flight) {failed : FailedAttempt}
    (h : connectFailed failed = false ∨
      remaining g.registry flight.modelName flight.attemptedUpstreamNames = []) :
    contactedNames (failedTurn request g flight failed.error).1 = [] ∧
      ∃ e, (failedTurn request g flight failed.error).2 = .raised e := by
  unfold connectFailed at h
  cases herror : failed.error with
  | httpx e =>
    rw [herror] at h
    obtain hconnect | ⟨error, hconnect, _, hfor⟩ | ⟨upstream, hconnect, hselect, _⟩ :=
      transportError_cases g flight e
    · simp only [failedTurn, hconnect]
      exact ⟨rfl, _, rfl⟩
    · simp only [failedTurn, hconnect, hfor, if_true]
      exact ⟨rfl, _, rfl⟩
    · rcases h with hnot | hnobody
      · cases hnot.symm.trans hconnect
      · obtain ⟨error, hnone⟩ := select_exhausted hnobody
        cases hselect.symm.trans hnone
  | _ => exact ⟨rfl, _, rfl⟩

/-- A turn after an attempt that has failed to connect, with somebody left. -/
theorem failedTurn_next (g : Gateway) (now : ℚ) (flight : Flight) {failed : FailedAttempt}
    (hconnect : connectFailed failed = true) {name : String} {names : List String}
    (h : remaining g.registry flight.modelName flight.attemptedUpstreamNames = name :: names) :
    ∃ next, (failedTurn request g flight failed.error).2 = .attempt next ∧
      contactedNames (failedTurn request g flight failed.error).1 = [name] ∧
      remaining (performAll config.admissionControl now g
        (failedTurn request g flight failed.error).1).registry next.modelName
          next.attemptedUpstreamNames = names := by
  unfold connectFailed at hconnect
  cases herror : failed.error with
  | httpx e =>
    rw [herror] at hconnect
    obtain ⟨upstream, hselect, rfl, hleft⟩ := select_remaining h
    obtain hnot | ⟨error, _, hnone, _⟩ | ⟨selected, _, hsome, hfor⟩ :=
      transportError_cases g flight e
    · cases hnot.symm.trans hconnect
    · cases hnone.symm.trans hselect
    · cases hsome.symm.trans hselect
      simp only at hconnect
      simp only [failedTurn, hconnect, hfor, if_true]
      exact ⟨_, rfl, rfl, hleft⟩
  | _ => rw [herror] at hconnect; cases hconnect

theorem fail_ended {run : LoopRun} (h : Ended run) {failed : FailedAttempt}
    (hstable : failed.changes = []) : run.fail P config request failed = run := by
  obtain ⟨outcome, hpoint⟩ := h
  obtain ⟨g, point, effects⟩ := run
  dsimp only at hpoint
  subst hpoint
  simp only [LoopRun.fail, advance, hstable]
  rfl

theorem fail_waiting {run : LoopRun} {names : List String} (h : Waiting run names)
    {failed : FailedAttempt} (hstable : failed.changes = [])
    (hexception : failed.error.isException = true) :
    (∃ name rest, names = name :: rest ∧ connectFailed failed = true ∧
      Waiting (run.fail P config request failed) rest ∧
      contactedNames (run.fail P config request failed).effects =
        contactedNames run.effects ++ [name]) ∨
    ((connectFailed failed = false ∨ names = []) ∧ Ended (run.fail P config request failed) ∧
      contactedNames (run.fail P config request failed).effects = contactedNames run.effects) := by
  obtain ⟨flight, hpoint, hremaining⟩ := h.waits
  obtain ⟨await, hawait, hadvance⟩ :=
    advance_failed P config request run.gateway failed.now hpoint hexception
  have hfail : run.fail P config request failed =
      ⟨performAll config.admissionControl failed.now run.gateway
          (failedTurn request run.gateway flight failed.error).1,
        (failedTurn request run.gateway flight failed.error).2.point await,
        run.effects ++ (failedTurn request run.gateway flight failed.error).1⟩ := by
    have hchanged : changeAll run.gateway failed.changes = run.gateway := by
      rw [hstable]
      rfl
    simp only [LoopRun.fail, hchanged, hadvance]
  rw [hfail]
  dsimp only
  rw [contactedNames_append]
  by_cases hends : connectFailed failed = false ∨ names = []
  · right
    obtain ⟨hnobody, e, hraised⟩ := failedTurn_ends request run.gateway flight
      (hends.imp_right hremaining.trans)
    rw [hnobody, List.append_nil, hraised]
    exact ⟨hends, ⟨_, rfl⟩, rfl⟩
  · left
    rw [not_or, Bool.not_eq_false] at hends
    obtain ⟨hconnect, hsome⟩ := hends
    obtain ⟨name, rest, rfl⟩ := List.exists_cons_of_ne_nil hsome
    obtain ⟨next, hnext, hcontacted, hleft⟩ :=
      failedTurn_next config request run.gateway failed.now flight hconnect hremaining
    rw [hcontacted]
    exact ⟨name, rest, rfl, hconnect, ⟨next, by rw [hnext]; exact hawait next, hleft⟩, rfl⟩

/-- How often a loop goes around: once for each attempt before the first one that does not
fail to connect. -/
def retries (attempts : List FailedAttempt) : ℕ := (attempts.takeWhile connectFailed).length

theorem failAll_ended {run : LoopRun} (h : Ended run) {attempts : List FailedAttempt}
    (hstable : ∀ failed ∈ attempts, failed.changes = []) :
    run.failAll P config request attempts = run := by
  induction attempts with
  | nil => rfl
  | cons failed attempts ih =>
    obtain ⟨hfirst, hrest⟩ := List.forall_mem_cons.mp hstable
    rw [LoopRun.failAll, List.foldl_cons, fail_ended P config request h hfirst]
    exact ih hrest

/-- Any number of failed attempts from one that is waited for. -/
theorem failAll_waiting {run : LoopRun} {names : List String} (h : Waiting run names)
    {attempts : List FailedAttempt} (hstable : ∀ failed ∈ attempts, failed.changes = [])
    (hexceptions : ∀ failed ∈ attempts, failed.error.isException = true) :
    contactedNames (run.failAll P config request attempts).effects =
        contactedNames run.effects ++ names.take (retries attempts) ∧
      (Ended (run.failAll P config request attempts) ↔
        names.length < attempts.length ∨ ∃ failed ∈ attempts, connectFailed failed = false) := by
  induction attempts generalizing run names with
  | nil =>
    refine ⟨by simp [retries, LoopRun.failAll], iff_of_false ?_ (by simp)⟩
    rintro ⟨outcome, hfinished⟩
    obtain ⟨flight, hpoint, _⟩ := h.waits
    rcases hpoint with hpoint | hpoint <;> cases hpoint.symm.trans hfinished
  | cons failed attempts ih =>
    obtain ⟨hfirst, hrest⟩ := List.forall_mem_cons.mp hstable
    obtain ⟨hexception, hothers⟩ := List.forall_mem_cons.mp hexceptions
    rw [LoopRun.failAll, List.foldl_cons]
    obtain ⟨name, rest, rfl, hconnect, hwaiting, hcontacted⟩ | ⟨hends, hended, hcontacted⟩ :=
      fail_waiting P config request h hfirst hexception
    · obtain ⟨hall, hover⟩ := ih hwaiting hrest hothers
      refine ⟨?_, hover.trans ?_⟩
      · rw [LoopRun.failAll] at hall
        have hturn : retries (failed :: attempts) = retries attempts + 1 := by
          simp [retries, List.takeWhile_cons_of_pos hconnect]
        rw [hall, hcontacted, hturn]
        simp
      · simp [hconnect]
    · have hstays := failAll_ended P config request hended hrest
      rw [LoopRun.failAll] at hstays
      rw [hstays, hcontacted]
      refine ⟨?_, iff_of_true hended ?_⟩
      · rcases hends with hnot | rfl
        · rw [retries, List.takeWhile_cons_of_neg (by simp [hnot])]
          simp
        · simp
      · rcases hends with hnot | rfl
        · exact .inr ⟨failed, List.mem_cons_self, hnot⟩
        · exact .inl (by simp)

theorem firstTurn_ends (g : Gateway) (modelName : String) (payload : JsonObject)
    (lease : Option AdmissionLease) (h : remaining g.registry modelName [] = []) :
    contactedNames (firstTurn request g modelName payload lease).1 = [] ∧
      ∃ e, (firstTurn request g modelName payload lease).2 = .raised e := by
  obtain ⟨error, hnone⟩ := select_exhausted h
  unfold firstTurn selectUpstreamFor
  simp only [hnone]
  exact ⟨rfl, _, rfl⟩

theorem firstTurn_next (g : Gateway) (now : ℚ) {modelName : String} (payload : JsonObject)
    (lease : Option AdmissionLease) {name : String} {names : List String}
    (h : remaining g.registry modelName [] = name :: names) :
    ∃ flight, (firstTurn request g modelName payload lease).2 = .attempt flight ∧
      contactedNames (firstTurn request g modelName payload lease).1 = [name] ∧
      remaining (performAll config.admissionControl now g
        (firstTurn request g modelName payload lease).1).registry flight.modelName
          flight.attemptedUpstreamNames = names := by
  obtain ⟨upstream, hselect, rfl, hleft⟩ := select_remaining h
  unfold firstTurn selectUpstreamFor
  simp only [hselect]
  exact ⟨_, rfl, rfl, hleft⟩

/-- The two paths start with the same turn. -/
theorem started_turn (g : Gateway) (modelName : String) (payload : JsonObject)
    (lease : Option AdmissionLease) {started : List Effect × Point}
    (hstarted : started = startStreaming request g modelName payload lease ∨
      started = startPosting request g modelName payload lease) :
    ∃ await : Flight → Point, (∀ next, await next = .awaitSend next ∨ await next = .awaitPost next) ∧
      started = ((firstTurn request g modelName payload lease).1,
        (firstTurn request g modelName payload lease).2.point await) := by
  rcases hstarted with rfl | rfl
  · exact ⟨.awaitSend, fun _ => .inl rfl, startStreaming_turn request g modelName payload lease⟩
  · exact ⟨.awaitPost, fun _ => .inr rfl, startPosting_turn request g modelName payload lease⟩

/-- Over all sequences of failing attempts, with every upstream's health as it was at the
start and no other request selecting for the model in between: a path contacts the healthy
upstreams of the model's pool in the order of the pool from its pointer on, each once, one
more for every attempt that fails to connect; and it has ended exactly when all of them have
failed or an attempt has failed in another way. -/
theorem failover_is_scan (g : Gateway) (now : ℚ) (modelName : String) (payload : JsonObject)
    (lease : Option AdmissionLease) (attempts : List FailedAttempt)
    {started : List Effect × Point}
    (hstarted : started = startStreaming request g modelName payload lease ∨
      started = startPosting request g modelName payload lease)
    (hstable : ∀ failed ∈ attempts, failed.changes = [])
    (hexceptions : ∀ failed ∈ attempts, failed.error.isException = true) :
    let order := remaining g.registry modelName []
    let run := (beginRun config now g started).failAll P config request attempts
    (order.Nodup ∧ ∀ name, name ∈ order ↔
        (∃ upstream ∈ g.registry.pool modelName, upstream.name = name) ∧
          g.registry.isHealthy name = true) ∧
      contactedNames run.effects = order.take (retries attempts + 1) ∧
      (Ended run ↔
        order.length ≤ attempts.length ∨ ∃ failed ∈ attempts, connectFailed failed = false) := by
  intro order run
  refine ⟨⟨nodup_eraseDups _, fun name => mem_remaining⟩, ?_⟩
  obtain ⟨await, hawait, rfl⟩ := started_turn request g modelName payload lease hstarted
  cases horder : order with
  | nil =>
    obtain ⟨hnobody, e, hraised⟩ := firstTurn_ends request g modelName payload lease horder
    have hended : Ended (beginRun config now g ((firstTurn request g modelName payload lease).1,
        (firstTurn request g modelName payload lease).2.point await)) := ⟨.raised e, by
      rw [hraised]
      rfl⟩
    have hstays := failAll_ended P config request hended hstable
    refine ⟨?_, iff_of_true ?_ (.inl (Nat.zero_le _))⟩
    · rw [show run = _ from hstays]
      exact hnobody
    · rw [show run = _ from hstays]
      exact hended
  | cons name names =>
    obtain ⟨flight, hflight, hcontacted, hleft⟩ :=
      firstTurn_next config request g now payload lease horder
    have hwaiting : Waiting (beginRun config now g
        ((firstTurn request g modelName payload lease).1,
          (firstTurn request g modelName payload lease).2.point await)) names :=
      ⟨flight, by rw [hflight]; exact hawait flight, hleft⟩
    obtain ⟨hall, hover⟩ := failAll_waiting P config request hwaiting hstable hexceptions
    refine ⟨hall.trans ?_, hover.trans ?_⟩
    · dsimp only [beginRun]
      rw [hcontacted]
      rfl
    · rw [List.length_cons, Nat.succ_le_iff]

end

theorem failover_is_scan_refusedThenLate :
    let run := (beginRun smallConfig 0 (.init smallConfig) (startStreaming smallRequest
      (.init smallConfig) "llama" streamPayload none)).failAll smallPlatform smallConfig
        smallRequest refusedThenLate
    contactedNames run.effects = ["a", "b"] ∧ Ended run := by
  intro run
  obtain ⟨_, hcontacted, hended⟩ := failover_is_scan smallPlatform smallConfig smallRequest
    (.init smallConfig) 0 "llama" streamPayload none refusedThenLate (.inl rfl) (by decide)
    (by decide)
  exact ⟨hcontacted.trans (by decide), hended.mpr (.inl (by decide))⟩

end VllmSourceGateway.FailoverScan
