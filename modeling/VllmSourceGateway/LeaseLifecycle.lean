import VllmSourceGateway.LeaseAccounting

set_option autoImplicit false

/-! What becomes of a lease once its request is over, however the request ended. -/
namespace VllmSourceGateway.LeaseLifecycle
open PyValues UsageExtractors Metrics Config AdmissionControl GatewayEffects
open StreamBytes ProxyEndpoint RequestSegments RequestSlot GatewaySystem LeaseAccounting
open TransitionRuns

/-- The handling is over: the handler ended without a streaming body, or the body
it returned has ended or been given up. -/
def isOver : Point → Bool
  | .finished _ => true
  | .streaming _ (.finished _) => true
  | _ => false

/-- The lease has been released exactly once and no exchange is left open. -/
structure Settled (slot : Slot) : Prop where
  released : slot.released = 1
  closed : slot.exchange = none

section
variable {P : Platform} {config : AppConfig} {request : ProxyRequest} {s : System}

theorem overSlot_of_over {leaked : Bool} {slot : Slot} {point : Point} (hover : isOver point = true)
    (h : SlotAt P config request leaked slot point) : OverSlot P config request leaked slot := by
  cases point with
  | awaitBody | awaitSend | awaitPost => cases hover
  | finished outcome => exact h
  | streaming ctx point =>
    cases point with
    | finished outcome => exact h.2.2
    | created | awaitChunk | awaitDisconnect | yielded | awaitClose => cases hover

theorem overSlot_settled_iff {leaked : Bool} {slot : Slot} (hacquired : 0 < slot.acquired)
    (h : OverSlot P config request leaked slot) : Settled slot ↔ leaked = false := by
  cases h with
  | @clean modelName lease hlease =>
    have hone : lease.toList.length = 1 := by
      cases lease with
      | none => cases hacquired
      | some lease => rfl
    exact ⟨fun _ => rfl, fun _ => ⟨hone, rfl⟩⟩
  | held | unclosed =>
    refine ⟨fun hsettled => ?_, fun hleaked => ?_⟩
    · exact absurd hsettled.released (by simp [holding])
    · cases hleaked
  | orphaned =>
    refine ⟨fun hsettled => ?_, fun hleaked => ?_⟩
    · cases hsettled.closed
    · cases hleaked

theorem overSlot_released {slot : Slot} (h : OverSlot P config request false slot) :
    slot.lease = none := by
  cases h
  rfl

/-- Once a request that was admitted is over, its lease has been released exactly
once and its exchange closed if and only if none of its steps leaked; and when
all requests are over without such a step, every counter and gauge is back at
zero. -/
theorem lease_settled_iff (h : Reachable (step P config) (initial config) s) :
    (∀ task ∈ s.tasks, isOver task.point = true → 0 < (slotOf task.trace).acquired →
      (Settled (slotOf task.trace) ↔
        ∀ taken ∈ task.steps, leaks P taken.1 taken.2 = false)) ∧
    ((∀ task ∈ s.tasks, isOver task.point = true ∧
        ∀ taken ∈ task.steps, leaks P taken.1 taken.2 = false) →
      (∀ modelName, s.gateway.admission.activeByModel modelName = 0) ∧
      (∀ key, s.gateway.admission.activeByDepartmentModel key = 0) ∧
      ∀ labels, inflight labels s.gateway.metrics = 0) := by
  have hleaked (task : Task) : taskLeaked P task = false ↔
      ∀ taken ∈ task.steps, leaks P taken.1 taken.2 = false := by
    simp [taskLeaked]
  refine ⟨fun task htask hover hacquired => ?_, fun hall => ?_⟩
  · rw [← hleaked]
    exact overSlot_settled_iff hacquired (overSlot_of_over hover (task_slots h task htask))
  · have hnone (kind : AdmissionLease → Bool) : outstandingLeases kind s = 0 := by
      refine List.countP_eq_zero.mpr fun task htask => ?_
      obtain ⟨hover, hkept⟩ := hall task htask
      have hslot := overSlot_of_over hover (task_slots h task htask)
      rw [(hleaked task).mpr hkept] at hslot
      simp [holds, overSlot_released hslot]
    obtain ⟨hmodel, hdepartment, hgauge⟩ := (accounted h).balanced
    refine ⟨fun modelName => ?_, fun key => ?_, fun labels => ?_⟩
    · rw [hmodel, hnone]
      rfl
    · rw [hdepartment, hnone]
      rfl
    · rw [hgauge, hnone]
      rfl

end

/-! The task is cancelled while the streaming request is being sent. -/

def cancelledSend : List Event :=
  [.arrive smallRequest 0, .resume 0 (.body streamBody) 1, .resume 0 (.raised .cancelled) 2]

theorem cancelledSend_runs : (smallRun cancelledSend).isSome = true := by decide +kernel

theorem cancelledSend_holds :
    ∃ task ∈ ((smallRun cancelledSend).get cancelledSend_runs).tasks, isOver task.point = true ∧
      (slotOf task.trace).acquired = 1 ∧ (slotOf task.trace).released = 0 ∧
      ∃ taken ∈ task.steps, leaks smallPlatform taken.1 taken.2 = true := by
  decide +kernel

/-- A cancellation of the streaming `send` leaves the lease held for good. -/
theorem lease_not_always_settled :
    ¬ ∀ (P : Platform) (config : AppConfig) (s : System),
      Reachable (step P config) (initial config) s →
      ∀ task ∈ s.tasks, isOver task.point = true → 0 < (slotOf task.trace).acquired →
        Settled (slotOf task.trace) := by
  intro h
  obtain ⟨task, htask, hover, hacquired, hreleased, _⟩ := cancelledSend_holds
  have hsettled := h smallPlatform smallConfig _ (exec_get_reachable cancelledSend_runs) task htask
    hover (by omega)
  exact absurd hsettled.released (by omega)

theorem lease_settled_cancelledSend :
    ∃ task ∈ ((smallRun cancelledSend).get cancelledSend_runs).tasks,
      ¬ Settled (slotOf task.trace) := by
  obtain ⟨task, htask, hover, hacquired, _, taken, htaken, hleaks⟩ := cancelledSend_holds
  refine ⟨task, htask, fun hsettled => ?_⟩
  have hiff := (lease_settled_iff (exec_get_reachable cancelledSend_runs)).1 task htask hover
    (by omega)
  rw [hiff.mp hsettled taken htaken] at hleaks
  cases hleaks

end VllmSourceGateway.LeaseLifecycle
