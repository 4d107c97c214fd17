import VllmSourceGateway.PayloadFidelity
import VllmSourceGateway.FailoverDiscipline
import VllmSourceGateway.LeaseAccounting

set_option autoImplicit false

/-! No upstream is contacted past a check of the gateway. Every exchange, a first attempt
or a later one, is one of a request that has passed them all and holds its lease. -/
namespace VllmSourceGateway.CompleteMediation
open PyText PyValues UsageExtractors Metrics Config AdmissionControl Routing GatewayEffects
open StreamBytes UpstreamHeaders ProxyEndpoint RequestSegments RequestSlot GatewaySystem
open TransitionRuns RequestEmissions RequestedModel AdmissionOutputCap PayloadFidelity
open LeaseAccounting

structure Entered (config : AppConfig) (request : ProxyRequest) : Prop where
  policy : enforceSourceResolutionPolicy config request.sourceResolution = none
  contentLength : contentLengthExceedsLimit request config.server.maxRequestBodyBytes = false

/-- The body is read, and this is what the shape check makes of it. -/
structure Shaped (P : Platform) (config : AppConfig) (request : ProxyRequest)
    (content : List UInt8) (modelName : String) (payload : JsonObject) : Prop where
  shape : ∃ fields, ReadsAs P config content fields modelName ∧
    (checkRequestShape config.admissionControl request.department modelName request.endpoint
      content.length fields).1 = .ok payload

/-- What is known of an exchange with an upstream, given the calls before it. -/
structure Mediated (P : Platform) (config : AppConfig) (task : Task) (before : List Effect)
    (department modelName : String) (upstream : UpstreamTarget) (sent : UpstreamRequest) :
    Prop where
  entered : Entered config task.request
  body : ∃ content, task.steps.head? = some (.awaitBody, .body content) ∧
    Shaped P config task.request content modelName sent.payload
  lease : (slotOf before).lease = leaseFor config task.request modelName
  alone : (slotOf before).exchange = none
  pool : upstream ∈ (RoutingRegistry.fromConfig config).pool modelName
  department : department = task.request.department
  address : sent.upstreamName = upstream.name ∧
    sent.url = upstream.baseUrl ++ task.request.endpoint.upstreamPath

section
variable {P : Platform} {config : AppConfig} {request : ProxyRequest} {g : Gateway} {now : ℚ}

theorem startRequest_entered (h : (startRequest config request).2 = .awaitBody) :
    Entered config request := by
  simp only [startRequest] at h
  split at h
  · cases h
  · rename_i hpolicy
    split at h
    · cases h
    · rename_i hlength
      exact ⟨hpolicy, Bool.eq_false_iff.mpr hlength⟩

/-- A first attempt is for a body that has been read and shaped. -/
theorem afterBody_shaped {input : Input} {effects : List Effect} {point : Point}
    (h : afterBody P config request g now input = some (effects, point)) :
    ∀ flight ∈ flightOf? point, ∃ content, input = .body content ∧
      Shaped P config request content flight.modelName flight.payload := by
  intro flight hflight
  cases input with
  | body content =>
    simp only [afterBody, Option.some.injEq] at h
    obtain rfl : (handleBody P config request g now content).2 = point := congrArg Prod.snd h
    simp only [handleBody] at hflight
    split at hflight
    · cases hflight
    · rename_i json hread
      split at hflight
      · cases hflight
      · rename_i fields modelName hparse
        split at hflight
        · cases hflight
        · simp only [admitRequest] at hflight
          split at hflight
          · cases hflight
          · rename_i shaped hshape
            split at hflight
            · cases hflight
            · have hstarted : flight.modelName = modelName ∧ flight.payload = shaped := by
                split at hflight
                · exact startStreaming_flight flight hflight
                · exact startPosting_flight flight hflight
              obtain ⟨rfl, rfl⟩ := hstarted
              exact ⟨content, rfl, fields, readsAs_iff.mp ⟨json, hread, hparse⟩, hshape⟩
  | raised e =>
    simp only [afterBody, Option.some.injEq, Prod.mk.injEq] at h
    rw [← h.2] at hflight
    cases hflight
  | opened | response | stream => cases h

/-- An upstream that a loop waits for is one of the model's pool. -/
theorem segment_flight_pool {point point' : Point} {input : Input} {effects : List Effect}
    (h : Segment P config request g now point input effects point') :
    ∀ flight ∈ flightOf? point', flight.upstream ∈ g.registry.pool flight.modelName := by
  intro flight hflight
  cases h with
  | rejected | misshapen | refused | unroutable => cases hflight
  | exhausted | failed | broken | cancelled => cases hflight
  | opened | unbuildable | answered | streamed => cases hflight
  | started _ _ hselect _ hpoint =>
    cases (flightOf?_eq hpoint).symm.trans hflight
    exact (selectUpstream_ok _ _ hselect).1
  | retried _ hselect hnext hpoint =>
    cases (flightOf?_eq (hpoint.imp And.right And.right)).symm.trans hflight
    rw [hnext]
    exact (selectUpstream_ok _ _ hselect).1

/-- Where the calls that have been made and those of a resumption divide. -/
theorem split_at {α : Type} {xs ys before after : List α} {a : α}
    (h : xs ++ ys = before ++ a :: after) :
    (∃ rest, xs = before ++ a :: rest) ∨ ∃ front, before = xs ++ front ∧ ys = front ++ a :: after := by
  obtain ⟨front, hbefore, hys⟩ | ⟨rest, hxs, hrest⟩ := List.append_eq_append_iff.mp h
  · exact .inr ⟨front, hbefore, hys⟩
  · cases rest with
    | nil => exact .inr ⟨[], by rw [hxs, List.append_nil, List.append_nil], hrest.symm⟩
    | cons b rest =>
      obtain ⟨rfl, _⟩ := List.cons.inj hrest
      exact .inl ⟨rest, hxs⟩

structure Mediating (P : Platform) (config : AppConfig) (task : Task) : Prop where
  entered : Entered config task.request ∨ ∃ outcome, task.point = .finished outcome
  first : task.point = .awaitBody → task.steps = []
  flight : ∀ flight ∈ flightOf? task.point,
    (∃ content, task.steps.head? = some (.awaitBody, .body content) ∧
      Shaped P config task.request content flight.modelName flight.payload) ∧
    flight.upstream ∈ (RoutingRegistry.fromConfig config).pool flight.modelName
  contacts : ∀ before after department modelName upstream sent,
    task.trace = before ++ .contact department modelName upstream sent :: after →
    Mediated P config task before department modelName upstream sent

theorem start_mediating (request : ProxyRequest) :
    Mediating P config (.start config request) := by
  refine ⟨?_, fun _ => rfl, ?_, ?_⟩
  · rcases startRequest_point config request with hpoint | ⟨e, hpoint⟩
    · exact .inl (startRequest_entered hpoint)
    · exact .inr ⟨_, hpoint⟩
  · rw [(start_unsent config request).2]
    exact fun _ hflight => by cases hflight
  · intro before after department modelName upstream sent htrace
    have hmem : Effect.contact department modelName upstream sent ∈ (Task.start config request).trace :=
      htrace ▸ List.mem_append_right _ List.mem_cons_self
    rw [Task.start, startRequest_effects] at hmem
    simp at hmem

theorem Mediated.continue {task : Task} {before : List Effect} {department modelName : String}
    {upstream : UpstreamTarget} {sent : UpstreamRequest}
    (h : Mediated P config task before department modelName upstream sent) (input : Input)
    (effects : List Effect) (point : Point) :
    Mediated P config (task.continue input effects point) before department modelName upstream
      sent := by
  obtain ⟨content, hfirst, hshaped⟩ := h.body
  refine ⟨h.entered, ⟨content, ?_, hshaped⟩, h.lease, h.alone, h.pool, h.department, h.address⟩
  rw [Task.continue, List.head?_append, hfirst, Option.some_or]

/-- A loop goes on with what it has read. -/
theorem Mediating.flights {task : Task} (h : Mediating P config task)
    (hpools : PoolsKept config g) {input : Input} {effects : List Effect} {point : Point}
    (hadvance : advance P config task.request g now task.point input = some (effects, point)) :
    ∀ flight ∈ flightOf? point,
      (∃ content, (task.continue input effects point).steps.head? =
          some (.awaitBody, .body content) ∧
        Shaped P config task.request content flight.modelName flight.payload) ∧
      flight.upstream ∈ (RoutingRegistry.fromConfig config).pool flight.modelName := by
  intro flight hflight
  refine ⟨?_, hpools.pool flight.modelName ▸
    segment_flight_pool (advance_segment hadvance) flight hflight⟩
  by_cases hbody : task.point = .awaitBody
  · have hsteps := h.first hbody
    rw [hbody] at hadvance
    obtain ⟨content, rfl, hshaped⟩ := afterBody_shaped hadvance flight hflight
    refine ⟨content, ?_, hshaped⟩
    simp only [Task.continue, hsteps, hbody, List.nil_append, List.head?_cons]
  · obtain ⟨before, hbefore, hmodel, hpayload⟩ :=
      segment_flight_kept (advance_segment hadvance) hbody flight hflight
    obtain ⟨⟨content, hfirst, hshaped⟩, _⟩ := h.flight before hbefore
    refine ⟨content, ?_, hmodel ▸ hpayload ▸ hshaped⟩
    rw [Task.continue, List.head?_append, hfirst, Option.some_or]

/-- The slot of a request right before it contacts somebody: the lease of its flight is
held and no other exchange is open. -/
theorem contact_slot {leaked : Bool} {slot : Slot} {point : Point} {flight : Flight}
    (hpoint : point = .awaitSend flight ∨ point = .awaitPost flight)
    (h : SlotAt P config request leaked (slot.observe (contactUpstream request flight)) point) :
    slot.lease = leaseFor config request flight.modelName ∧ slot.exchange = none := by
  obtain ⟨_, hlease, hslot⟩ := flight_slot hpoint h
  rw [← hlease]
  simp only [Slot.observe, contactUpstream, holding, Slot.mk.injEq, Bool.and_eq_true,
    Option.isNone_iff_eq_none] at hslot
  exact ⟨hslot.1, hslot.2.2.2.2.2⟩

theorem advance_mediating {s : System} (hreach : Reachable (step P config) (initial config) s)
    {task : Task} (htask : task ∈ s.tasks) (h : Mediating P config task) {input : Input}
    {effects : List Effect} {point : Point}
    (hadvance : advance P config task.request s.gateway now task.point input =
      some (effects, point)) :
    Mediating P config (task.continue input effects point) := by
  have hsegment := advance_segment hadvance
  have hflights := h.flights (pools_kept hreach) hadvance
  have hentered : Entered config task.request := by
    rcases h.entered with hentered | ⟨outcome, hfinished⟩
    · exact hentered
    · rw [hfinished] at hadvance
      cases input <;> cases hadvance
  refine ⟨.inl hentered, fun hbody => absurd hbody (segment_leaves_body hsegment), hflights, ?_⟩
  intro before after department modelName upstream sent htrace
  obtain ⟨rest, hold⟩ | ⟨front, rfl, hnew⟩ := split_at htrace
  · exact (h.contacts _ _ _ _ _ _ hold).continue input effects point
  · have hmem : Effect.contact department modelName upstream sent ∈ effects :=
      hnew ▸ List.mem_append_right _ List.mem_cons_self
    obtain ⟨front', excluded, flight, heffects, hpoint, hcontact, hfresh⟩ :=
      FailoverDiscipline.segment_contact hsegment hmem
    obtain ⟨⟨content, hfirst, hshaped⟩, hpool⟩ := hflights flight (flightOf?_eq hpoint)
    -- The contact is the last of the calls, so what is before it is the rest of them.
    let selected : List Effect := [.selectUpstream flight.modelName excluded (.ok flight.upstream),
      .metric (.upstreamSelection flight.modelName flight.upstream.name)]
    have hlast : (front' ++ selected) ++ .contact department modelName upstream sent :: [] =
        front ++ .contact department modelName upstream sent :: after := by
      rw [← hnew, heffects, hcontact, List.append_assoc]
      rfl
    have hunique : Effect.contact department modelName upstream sent ∉ front' ++ selected := by
      simp [selected, hfresh]
    obtain ⟨rfl, _, rfl⟩ :=
      (List.append_cons_inj_of_notMem hunique List.not_mem_nil).mp hlast
    have hslot := segment_slot hsegment (task_slots hreach task htask)
    rw [hnew, observeAll_append, observeAll_cons, observeAll_nil, hcontact] at hslot
    have hbefore : slotOf (task.trace ++ (front' ++ selected)) =
        (slotOf task.trace).observeAll (front' ++ selected) := observeAll_append _ _ _
    obtain ⟨hlease, halone⟩ := contact_slot hpoint hslot
    simp only [contactUpstream, Effect.contact.injEq] at hcontact
    obtain ⟨rfl, rfl, rfl, rfl⟩ := hcontact
    exact ⟨hentered, ⟨content, hfirst, hshaped⟩, hbefore ▸ hlease, hbefore ▸ halone, hpool, rfl,
      rfl, rfl⟩

theorem requests_mediating {s : System} (h : Reachable (step P config) (initial config) s) :
    ∀ task ∈ s.tasks, Mediating P config task := by
  obtain ⟨vs, run⟩ := h
  refine run_task_advance (fun _ _ => True) (Mediating P config) start_mediating ?_ run
    fun _ _ => trivial
  intro s i task now input effects point hreach hget _ hinv hadvance
  exact advance_mediating hreach (List.mem_of_getElem? hget) hinv hadvance

/-! ## Nothing else keeps a request from its upstream -/

/-- The request passes what is checked once its body has been read, in the state of the
gateway in which that happens. -/
structure Passes (P : Platform) (config : AppConfig) (request : ProxyRequest) (g : Gateway)
    (now : ℚ) (content : List UInt8) (modelName : String) : Prop where
  shaped : ∃ payload, Shaped P config request content modelName payload
  admitted : ∃ lease, (acquire config.admissionControl now request.department modelName
    request.endpoint g.admission).1 = .ok lease
  served : ∃ upstream ∈ g.registry.pool modelName, g.registry.isHealthy upstream.name = true

def contacts (effects : List Effect) : Prop :=
  ∃ department modelName upstream sent, Effect.contact department modelName upstream sent ∈ effects

theorem passes_of_contacts {content : List UInt8} {effects : List Effect} {point : Point}
    (hadvance : advance P config request g now .awaitBody (.body content) = some (effects, point))
    (h : contacts effects) : ∃ modelName, Passes P config request g now content modelName := by
  obtain ⟨department, modelName, upstream, sent, hmem⟩ := h
  have hbody : afterBody P config request g now (.body content) = some (effects, point) := hadvance
  have hsegment := advance_segment hadvance
  have hshaped := afterBody_shaped hbody
  cases hsegment with
  | rejected | misshapen | refused | unroutable => simp [admission] at hmem
  | @started _ _ _ flight _ hshape hacquire hselect _ hpoint _ =>
    obtain ⟨_, hinput, hpayload⟩ := hshaped flight (flightOf?_eq hpoint)
    cases hinput
    obtain ⟨hpool, _, hhealthy⟩ := selectUpstream_ok _ _ hselect
    exact ⟨flight.modelName, ⟨_, hpayload⟩, ⟨_, hacquire⟩, flight.upstream, hpool, hhealthy⟩

theorem selectUpstreamFor_contacts {modelName : String}
    (h : ∃ upstream ∈ g.registry.pool modelName, g.registry.isHealthy upstream.name = true) :
    ∃ selecting upstream, selectUpstreamFor g modelName [] = (selecting, .ok upstream) := by
  obtain ⟨upstream, hpool, hhealthy⟩ := h
  obtain ⟨error, hselect, _⟩ | ⟨selected, _, hfor⟩ := selectUpstreamFor_cases g modelName []
  · rcases (selectUpstream_error _ _ hselect).2 upstream hpool with hexcluded | hunhealthy
    · cases hexcluded
    · cases hhealthy.symm.trans hunhealthy
  · exact ⟨_, selected, hfor⟩

theorem contacts_of_passes {content : List UInt8} {modelName : String}
    (h : Passes P config request g now content modelName) :
    contacts (handleBody P config request g now content).1 := by
  obtain ⟨payload, fields, hreads, hshape⟩ := h.shaped
  obtain ⟨lease, hacquire⟩ := h.admitted
  obtain ⟨json, hread, hparse⟩ := readsAs_iff.mpr hreads
  obtain ⟨selecting, upstream, hselect⟩ := selectUpstreamFor_contacts h.served
  have hknown : unknownModelError g.registry modelName = none := by
    obtain ⟨served, hpool, _⟩ := h.served
    unfold unknownModelError getModelUpstreams
    unfold RoutingRegistry.pool at hpool
    cases hget : PyDict.get? g.registry.modelToUpstreams modelName with
    | none =>
      rw [hget] at hpool
      cases hpool
    | some pool => rfl
  let flight : Flight := ⟨modelName, payload, lease, upstream, [upstream.name]⟩
  refine ⟨request.department, modelName, upstream, _, (?_ : contactUpstream request flight ∈ _)⟩
  simp only [handleBody, hread, hparse, hknown, admitRequest, hshape, hacquire]
  split
  · simp only [startStreaming, hselect, List.mem_append, List.mem_singleton]
    exact .inr (.inr rfl)
  · simp only [startPosting, hselect, List.mem_append, List.mem_singleton]
    exact .inr (.inr rfl)

/-- Whoever is contacted, in a first attempt or a later one, is contacted for a request
that has passed every check and holds its lease; and a request whose body arrives is
turned away only by one of the checks, in the state it is in then. -/
theorem complete_mediation {s : System} (h : Reachable (step P config) (initial config) s) :
    (∀ task ∈ s.tasks, ∀ before after department modelName upstream sent,
      task.trace = before ++ .contact department modelName upstream sent :: after →
      Mediated P config task before department modelName upstream sent) ∧
    ∀ task ∈ s.tasks, task.point = .awaitBody →
      Entered config task.request ∧ ∀ now content, ∃ effects point,
        advance P config task.request s.gateway now task.point (.body content) =
          some (effects, point) ∧
        (contacts effects ↔
          ∃ modelName, Passes P config task.request s.gateway now content modelName) := by
  refine ⟨fun task htask => (requests_mediating h task htask).contacts, ?_⟩
  intro task htask hpoint
  refine ⟨?_, fun now content => ?_⟩
  · rcases (requests_mediating h task htask).entered with hentered | ⟨outcome, hfinished⟩
    · exact hentered
    · cases hpoint.symm.trans hfinished
  · rw [hpoint]
    refine ⟨_, _, rfl, fun hcontacts => passes_of_contacts rfl hcontacts, ?_⟩
    rintro ⟨modelName, hpasses⟩
    exact contacts_of_passes hpasses

end

/-! The first upstream refuses the connection; the lease is still held when the second one
is contacted, and then no other exchange is open. -/

def retried : List Event :=
  [.arrive smallRequest 0, .resume 0 (.body postBody) 1,
    .resume 0 (.raised (.httpx .connectError)) 2]

theorem retried_runs : (smallRun retried).isSome = true := by decide +kernel

def contacted? : Effect → Option (String × String)
  | .contact _ modelName upstream _ => some (modelName, upstream.name)
  | _ => none

theorem retried_last :
    ((smallRun retried).get retried_runs).tasks.map
      (fun task => task.trace.getLast?.bind contacted?) = [some ("llama", "b")] := by
  decide +kernel

theorem complete_mediation_retried :
    ∃ task ∈ ((smallRun retried).get retried_runs).tasks, ∃ before department modelName upstream sent,
      contacted? (.contact department modelName upstream sent) = some ("llama", "b") ∧
      Mediated smallPlatform smallConfig task before department modelName upstream sent := by
  obtain ⟨task, htasks, hlast⟩ := List.map_eq_singleton_iff.mp retried_last
  have htask : task ∈ ((smallRun retried).get retried_runs).tasks :=
    htasks ▸ List.mem_singleton_self task
  obtain ⟨effect, hget, hcontacted⟩ := Option.bind_eq_some_iff.mp hlast
  have htrace : task.trace = task.trace.dropLast ++ [effect] :=
    (List.dropLast_append_getLast? effect hget).symm
  have hmediated := (complete_mediation (exec_get_reachable retried_runs)).1 task htask
  cases effect with
  | contact department modelName upstream sent =>
    exact ⟨task, htask, task.trace.dropLast, department, modelName, upstream, sent, hcontacted,
      hmediated _ [] department modelName upstream sent htrace⟩
  | _ => cases hcontacted

end VllmSourceGateway.CompleteMediation
