import VllmSourceGateway.RequestSegments

set_option autoImplicit false

/-! The admission slot of one request: what the calls it has made so far say
about its lease and its open exchange, and what that is at each suspension. -/
namespace VllmSourceGateway.RequestSlot
open PyText PyValues UsageExtractors Metrics Config AdmissionControl Routing GatewayEffects
open SseParser StreamBytes UpstreamHeaders ProxyEndpoint RequestSegments

/-- `disciplined` is lost by acquiring twice, releasing what is not held, opening
and closing exchanges out of turn, or moving the in-flight gauge past the
admission controller. -/
structure Slot where
  lease : Option AdmissionLease
  acquired : ℕ
  released : ℕ
  exchange : Option Key
  disciplined : Bool
  deriving DecidableEq

def Slot.observe (slot : Slot) : Effect → Slot
  | .acquire _ _ _ (.ok (some lease)) =>
    { slot with
      lease := some lease
      acquired := slot.acquired + 1
      disciplined := slot.disciplined && slot.lease.isNone }
  | .release (some lease) =>
    { slot with
      lease := none
      released := slot.released + 1
      disciplined := slot.disciplined && decide (slot.lease = some lease) }
  | .contact department modelName _ _ =>
    { slot with
      exchange := some (department, modelName)
      disciplined := slot.disciplined && slot.exchange.isNone }
  | .exchangeClosed department modelName =>
    { slot with
      exchange := none
      disciplined := slot.disciplined && decide (slot.exchange = some (department, modelName)) }
  | .metric (.inflightInc _ _ _) | .metric (.inflightDec _ _ _) =>
    { slot with disciplined := false }
  | _ => slot

def Slot.observeAll (slot : Slot) (effects : List Effect) : Slot := effects.foldl Slot.observe slot

/-- The lease is held. Without one, as with admission control off or before
admission, this is also the slot of a request that has nothing. -/
def holding (lease : Option AdmissionLease) (exchange : Option Key) : Slot :=
  ⟨lease, lease.toList.length, 0, exchange, true⟩

/-- The lease has been released, once. -/
def returned (lease : Option AdmissionLease) (exchange : Option Key) : Slot :=
  ⟨none, lease.toList.length, lease.toList.length, exchange, true⟩

def slotOf (trace : List Effect) : Slot := (holding none none).observeAll trace

section
variable (slot : Slot) (lease : Option AdmissionLease) (exchange : Option Key)

@[simp] theorem observeAll_nil : slot.observeAll [] = slot := rfl

@[simp] theorem observeAll_cons (effect : Effect) (effects : List Effect) :
    slot.observeAll (effect :: effects) = (slot.observe effect).observeAll effects := rfl

@[simp] theorem observeAll_append (xs ys : List Effect) :
    slot.observeAll (xs ++ ys) = (slot.observeAll xs).observeAll ys := List.foldl_append

@[simp] theorem observe_upstreamSelection (modelName upstreamName : String) :
    slot.observe (.metric (.upstreamSelection modelName upstreamName)) = slot := rfl

@[simp] theorem observe_upstreamRequestDuration (modelName upstreamName : String)
    (endpoint : Endpoint) :
    slot.observe (.metric (.upstreamRequestDuration modelName upstreamName endpoint)) = slot := rfl

@[simp] theorem observe_requestMetrics (update : RequestMetricsUpdate) :
    slot.observe (.requestMetrics update) = slot := rfl

@[simp] theorem observe_checkRequestShape (department modelName : String) (endpoint : Endpoint)
    (bodySize : ℕ) (payload : JsonObject) (result : Except Rejection JsonObject) :
    slot.observe (.checkRequestShape department modelName endpoint bodySize payload result) =
      slot := rfl

@[simp] theorem observe_selectUpstream (modelName : String) (excluded : List String)
    (result : Except RoutingError UpstreamTarget) :
    slot.observe (.selectUpstream modelName excluded result) = slot := rfl

@[simp] theorem observe_attemptEnded (department modelName : String) (outcome : Except Exn ℕ) :
    slot.observe (.attemptEnded department modelName outcome) = slot := rfl

@[simp] theorem holding_acquire (department modelName : String) (endpoint : Endpoint) :
    (holding none exchange).observe (.acquire department modelName endpoint (.ok lease)) =
      holding lease exchange := by
  cases lease <;> rfl

@[simp] theorem holding_release :
    (holding lease exchange).observe (.release lease) = returned lease exchange := by
  cases lease <;> simp [Slot.observe, holding, returned]

@[simp] theorem holding_contact (department modelName : String) (upstream : UpstreamTarget)
    (request : UpstreamRequest) :
    (holding lease none).observe (.contact department modelName upstream request) =
      holding lease (some (department, modelName)) := rfl

@[simp] theorem holding_exchangeClosed (department modelName : String) :
    (holding lease (some (department, modelName))).observe (.exchangeClosed department modelName) =
      holding lease none := by
  simp [Slot.observe, holding]

theorem observeAll_bookkeeping {effects : List Effect} (h : effects.all bookkeeping = true) :
    slot.observeAll effects = slot := by
  induction effects with
  | nil => rfl
  | cons effect effects ih =>
    simp only [List.all_cons, Bool.and_eq_true] at h
    have hsame : slot.observe effect = slot := by
      cases effect with
      | metric event => cases event <;> first | rfl | cases h.1
      | requestMetrics | recordTokens => rfl
      | _ => cases h.1
    rw [observeAll_cons, hsame, ih h.2]

@[simp] theorem observeAll_noteUpstreamStatus (request : ProxyRequest) (modelName : String)
    (status : ℕ) : slot.observeAll (noteUpstreamStatus request modelName status) = slot := by
  simp only [noteUpstreamStatus]
  split <;> split <;> rfl

@[simp] theorem observeAll_raiseUpstreamTransportError (request : ProxyRequest)
    (modelName : String) (e : HttpxError) :
    slot.observeAll (raiseUpstreamTransportError request modelName e).1 = slot := rfl

@[simp] theorem observeAll_handleResponse (P : Platform) (request : ProxyRequest)
    (modelName : String) (status : ℕ) (headers : List (String × String)) (content : List UInt8) :
    slot.observeAll (handleResponse P request modelName status headers content).1 = slot :=
  observeAll_bookkeeping slot (handleResponse_bookkeeping _ _ _ _)

end

section
variable (P : Platform) (config : AppConfig) (request : ProxyRequest)

def leaseFor (modelName : String) : Option AdmissionLease :=
  if config.admissionControl.enabled then
    some ⟨request.department, modelName, request.endpoint⟩
  else none

/-- The steps after which a lease or an exchange is left behind: a cancellation
of the streaming `send`, a response object that cannot be built, a body that is
never iterated, and an `aclose()` that does not come to its end. -/
def leaks : Point → Input → Bool
  | .awaitSend _, .raised e => !e.isException
  | .awaitSend _, .opened statusCode headers =>
    !P.streamingResponseInit statusCode (buildDownstreamHeaders headers)
  | .streaming _ .created, .stream .close => true
  | .streaming _ (.awaitClose _), .stream (.raised _) => true
  | _, _ => false

/-- The slot of a request that is over; the flag says whether a step leaked. -/
inductive OverSlot : Bool → Slot → Prop where
  | clean (modelName : String) {lease : Option AdmissionLease}
      (h : lease = none ∨ lease = leaseFor config request modelName) :
      OverSlot false (returned lease none)
  | held (modelName : String) : OverSlot true (holding (leaseFor config request modelName) none)
  | unclosed (modelName : String) : OverSlot true
      (holding (leaseFor config request modelName) (some (request.department, modelName)))
  | orphaned (modelName : String)
      (h : ¬ ∀ statusCode headers, P.streamingResponseInit statusCode headers = true) :
      OverSlot true
        (returned (leaseFor config request modelName) (some (request.department, modelName)))

def SlotAt (leaked : Bool) (slot : Slot) : Point → Prop
  | .awaitBody => leaked = false ∧ slot = holding none none
  | .awaitSend flight | .awaitPost flight =>
    leaked = false ∧ flight.lease = leaseFor config request flight.modelName ∧
      slot = holding flight.lease (some (request.department, flight.modelName))
  | .finished _ => OverSlot P config request leaked slot
  | .streaming ctx point =>
    ctx.department = request.department ∧
      ctx.lease = leaseFor config request ctx.modelName ∧
      match point with
      | .finished _ => OverSlot P config request leaked slot
      | _ => leaked = false ∧ slot = holding ctx.lease (some (ctx.department, ctx.modelName))

end

section
variable {P : Platform} {config : AppConfig} {request : ProxyRequest} {g : Gateway} {now : ℚ}

theorem acquire_lease {department modelName : String} {endpoint : Endpoint}
    {c : AdmissionController} {lease : Option AdmissionLease}
    (h : (acquire config.admissionControl now department modelName endpoint c).1 = .ok lease) :
    lease = if config.admissionControl.enabled then some ⟨department, modelName, endpoint⟩
      else none := by
  obtain ⟨henabled, heq⟩ | ⟨_, _, _, _, _, _, _, heq⟩ | ⟨hreaches, heq⟩ :=
    acquire_cases config.admissionControl now department modelName endpoint c
  · rw [heq] at h
    simp only [henabled, Bool.false_eq_true, if_false]
    exact (Except.ok.inj h).symm
  · rw [heq] at h
    cases h
  · rw [heq] at h
    simp only [hreaches.enabled, if_true]
    exact (Except.ok.inj h).symm

theorem startRequest_slot :
    SlotAt P config request false (slotOf (startRequest config request).1)
      (startRequest config request).2 := by
  simp only [startRequest]
  split
  · exact .clean "" (.inl rfl)
  · split
    · exact .clean "" (.inl rfl)
    · exact ⟨rfl, rfl⟩

/-- A request that has acquired its lease and not contacted anyone yet. -/
theorem admission_slot {modelName : String} {bodySize : ℕ} {payload shaped : JsonObject}
    {lease : Option AdmissionLease} :
    (holding none none).observeAll
      (admission request modelName bodySize payload shaped (.ok lease)) = holding lease none := by
  simp [admission]

/-- The `finally` block closes the exchange and then releases the lease. -/
theorem finallyBlock_slot (ctx : StreamContext) (exit : Exit) :
    (holding ctx.lease (some (ctx.department, ctx.modelName))).observeAll
      (finallyBlock ctx exit).1 = returned ctx.lease none := by
  obtain ⟨accounting, heffects, haccounting⟩ := finallyBlock_effects ctx exit
  rw [heffects, observeAll_cons, observeAll_cons, observeAll_bookkeeping _ haccounting]
  simp

theorem goesOn_slot {ctx : StreamContext} {point point' : StreamPoint} {input : StreamInput}
    {effects : List Effect} (h : GoesOn ctx point input effects point') (slot : Slot) :
    slot.observeAll effects = slot ∧ leaks P (.streaming ctx point) (.stream input) = false := by
  refine ⟨?_, ?_⟩
  · rcases h.effects with heffects | heffects <;> rw [heffects] <;> rfl
  · cases point with
    | created =>
      rw [h.notClosed rfl]
      rfl
    | awaitClose exit => exact absurd rfl (h.notClosing exit)
    | awaitChunk | awaitDisconnect | yielded | finished => rfl

/-- The generator's end: the slot is given back by the `finally` block and, in
the two other ways, left as it was. -/
theorem finishes_slot {ctx : StreamContext} {point : StreamPoint}
    {input : StreamInput} {effects : List Effect} {outcome : StreamOutcome}
    (h : Finishes ctx point input effects outcome) (hdepartment : ctx.department = request.department)
    (hlease : ctx.lease = leaseFor config request ctx.modelName) :
    OverSlot P config request (leaks P (.streaming ctx point) (.stream input))
      ((holding ctx.lease (some (ctx.department, ctx.modelName))).observeAll effects) := by
  cases h with
  | completed exit =>
    rw [finallyBlock_slot]
    exact .clean _ (.inr hlease)
  | unstarted | closeRaised =>
    rw [hdepartment, hlease]
    exact .unclosed ctx.modelName

theorem flight_slot {point : Point} {flight : Flight} {leaked : Bool} {slot : Slot}
    (hpoint : point = .awaitSend flight ∨ point = .awaitPost flight)
    (h : SlotAt P config request leaked slot point) :
    leaked = false ∧ flight.lease = leaseFor config request flight.modelName ∧
      slot = holding flight.lease (some (request.department, flight.modelName)) := by
  rcases hpoint with rfl | rfl <;> exact h

theorem endAttempt_slot (lease : Option AdmissionLease) (modelName : String)
    (outcome : Except Exn ℕ) :
    (holding lease (some (request.department, modelName))).observeAll
      (endAttempt request modelName outcome) = holding lease none := by
  simp [endAttempt]

theorem httpx_not_leaking {point : Point} {flight : Flight} (e : HttpxError)
    (hpoint : point = .awaitSend flight ∨ point = .awaitPost flight) :
    leaks P point (.raised (.httpx e)) = false := by
  rcases hpoint with rfl | rfl <;> rfl

/-- One resumption: the slot stays what the point says, unless the step leaks. -/
theorem segment_slot {point point' : Point} {input : Input} {effects : List Effect}
    (h : Segment P config request g now point input effects point') {leaked : Bool} {slot : Slot}
    (hslot : SlotAt P config request leaked slot point) :
    SlotAt P config request (leaked || leaks P point input) (slot.observeAll effects) point' := by
  cases h with
  | rejected | misshapen | refused =>
    obtain ⟨rfl, rfl⟩ := hslot
    exact .clean "" (.inl rfl)
  | unroutable hshape hacquire =>
    obtain ⟨rfl, rfl⟩ := hslot
    rw [observeAll_append, admission_slot]
    simpa [leaks, SlotAt] using OverSlot.clean (P := P) _ (.inr (acquire_lease hacquire))
  | started hshape hacquire hselect hattempted hpoint =>
    obtain ⟨rfl, rfl⟩ := hslot
    rw [observeAll_append, admission_slot]
    rcases hpoint with rfl | rfl
    · exact ⟨rfl, acquire_lease hacquire, by simp [selectAndContact, contactUpstream]⟩
    · exact ⟨rfl, acquire_lease hacquire, by simp [selectAndContact, contactUpstream]⟩
  | retried hconnect hselect hflight hpoint =>
    rw [hflight]
    rcases hpoint with ⟨rfl, rfl⟩ | ⟨rfl, rfl⟩
    · obtain ⟨rfl, hlease, rfl⟩ := hslot
      rw [observeAll_append, endAttempt_slot, hflight]
      exact ⟨rfl, hlease, by simp [selectAndContact, contactUpstream]⟩
    · obtain ⟨rfl, hlease, rfl⟩ := hslot
      rw [observeAll_append, endAttempt_slot, hflight]
      exact ⟨rfl, hlease, by simp [selectAndContact, contactUpstream]⟩
  | @exhausted point flight e error hconnect hselect hpoint =>
    obtain ⟨rfl, hlease, rfl⟩ := flight_slot hpoint hslot
    have hkept := httpx_not_leaking (P := P) e hpoint
    simpa [hkept, endAttempt_slot, SlotAt] using OverSlot.clean (P := P) _ (.inr hlease)
  | @failed point flight e hconnect hpoint =>
    obtain ⟨rfl, hlease, rfl⟩ := flight_slot hpoint hslot
    have hkept := httpx_not_leaking (P := P) e hpoint
    simpa [hkept, endAttempt_slot, SlotAt] using OverSlot.clean (P := P) _ (.inr hlease)
  | broken hhttpx hpoint =>
    obtain ⟨rfl, hlease, rfl⟩ := flight_slot (hpoint.imp And.left id) hslot
    have hclean := OverSlot.clean (P := P) _ (.inr hlease)
    rcases hpoint with ⟨rfl, hexception⟩ | rfl
    · simpa [leaks, hexception, endAttempt_slot, SlotAt] using hclean
    · simpa [leaks, endAttempt_slot, SlotAt] using hclean
  | @cancelled flight e hhttpx hcancelled =>
    obtain ⟨rfl, hlease, rfl⟩ := hslot
    rw [endAttempt_slot, hlease]
    simpa [leaks, hcancelled, SlotAt] using OverSlot.held (P := P) flight.modelName
  | @opened flight statusCode headers hinit =>
    obtain ⟨rfl, hlease, rfl⟩ := hslot
    exact ⟨rfl, hlease, by simp [leaks, hinit]⟩
  | @unbuildable flight statusCode headers hinit =>
    obtain ⟨rfl, hlease, rfl⟩ := hslot
    have horphaned : OverSlot P config request true (returned
        (leaseFor config request flight.modelName)
        (some (request.department, flight.modelName))) :=
      .orphaned flight.modelName fun h => by simp [h] at hinit
    rw [hlease]
    simpa [leaks, hinit, SlotAt] using horphaned
  | answered =>
    obtain ⟨rfl, hlease, rfl⟩ := hslot
    simpa [leaks, endAttempt_slot, SlotAt] using OverSlot.clean (P := P) _ (.inr hlease)
  | @streamed ctx point point' input effects hresume =>
    obtain ⟨hdepartment, hlease, hpoint⟩ := hslot
    have hlive : leaked = false ∧ slot = holding ctx.lease (some (ctx.department, ctx.modelName)) := by
      cases point with
      | finished outcome => cases input <;> cases hresume
      | created | awaitChunk | awaitDisconnect | yielded | awaitClose => exact hpoint
    obtain ⟨rfl, rfl⟩ := hlive
    refine ⟨hdepartment, hlease, ?_⟩
    rw [Bool.false_or]
    obtain hgoes | ⟨outcome, rfl, hfinishes⟩ := resume_cases _ _ _ _ hresume
    · obtain ⟨hsame, hkept⟩ := goesOn_slot (P := P) hgoes
        (holding ctx.lease (some (ctx.department, ctx.modelName)))
      rw [hsame, hkept]
      cases point' with
      | finished outcome => exact absurd rfl (hgoes.live outcome)
      | created | awaitChunk | awaitDisconnect | yielded | awaitClose => exact ⟨rfl, rfl⟩
    · exact finishes_slot hfinishes hdepartment hlease

end

end VllmSourceGateway.RequestSlot
