import VllmSourceGateway.AdmissionTokenWindow
import VllmSourceGateway.LeaseAccounting

set_option autoImplicit false

/-! One department does not feel another. Everything the controller keeps for a
pair of a department and a model is written by the calls on that pair alone, but
for the number of the model's active requests. -/
namespace VllmSourceGateway.DepartmentIsolation
open UsageExtractors Metrics Config AdmissionControl AdmissionTokenWindow LeaseAccounting
open TransitionRuns

/-- The controller and the leases it has granted and not taken back. -/
structure Position where
  controller : AdmissionController
  leases : List AdmissionLease

def start : Position := ⟨initial, []⟩

def grantedLeases : Except Rejection (Option AdmissionLease) → List AdmissionLease
  | .ok (some lease) => [lease]
  | _ => []

/-- One call with its clock reading; only an outstanding lease is released. -/
def admissionStep (config : AdmissionControlConfig) (p : Position) (call : ℚ × AdmissionOp) :
    Option Position :=
  let controller := (apply config call.1 p.controller call.2).1
  match call.2 with
  | .acquire department modelName endpoint =>
    some ⟨controller, p.leases ++
      grantedLeases (acquire config call.1 department modelName endpoint p.controller).1⟩
  | .release (some lease) =>
    if lease ∈ p.leases then some ⟨controller, p.leases.erase lease⟩ else none
  | _ => some ⟨controller, p.leases⟩

def pairOf : AdmissionOp → Option Key
  | .checkRequestShape _ _ _ _ _ | .release none => none
  | .acquire department modelName _ => some (department, modelName)
  | .release (some lease) => some lease.key
  | .recordTokens department modelName _ => some (department, modelName)
  | .recordRetryEvent department modelName => some (department, modelName)

def outstanding (modelName : String) (leases : List AdmissionLease) : ℕ :=
  leases.countP fun lease => lease.modelName = modelName

section
variable (config : AdmissionControlConfig) (key : Key)

/-- A call on the pair with its clock reading and, where it acquires under a
global limit of the model, the number of the model's outstanding leases. -/
def pairView (p : Position) (call : ℚ × AdmissionOp) : Option ((ℚ × AdmissionOp) × Option ℕ) :=
  if pairOf call.2 = some key then
    match call.2 with
    | .acquire _ _ _ =>
      some (call, (modelLimit config key.2).map fun _ => outstanding key.2 p.leases)
    | _ => some (call, none)
  else none

def pairOutcome (p : Position) (call : ℚ × AdmissionOp) :
    Option (Except Rejection (Option AdmissionLease)) :=
  match call.2 with
  | .acquire department modelName endpoint =>
    if (department, modelName) = key then
      some (acquire config call.1 department modelName endpoint p.controller).1
    else none
  | _ => none

end

/-! ## The part of the state that belongs to a pair -/

structure SamePair (key : Key) (c c' : AdmissionController) : Prop where
  active : c.activeByDepartmentModel key = c'.activeByDepartmentModel key
  events : c.tokenEvents key = c'.tokenEvents key
  total : c.tokenTotals key = c'.tokenTotals key
  retries : c.retryEvents key = c'.retryEvents key
  cooldown : c.cooldownUntil key = c'.cooldownUntil key

section
variable {config : AdmissionControlConfig} {key : Key} {c c' c'' : AdmissionController}

theorem SamePair.refl (key : Key) (c : AdmissionController) : SamePair key c c :=
  ⟨rfl, rfl, rfl, rfl, rfl⟩

theorem SamePair.symm (h : SamePair key c c') : SamePair key c' c :=
  ⟨h.active.symm, h.events.symm, h.total.symm, h.retries.symm, h.cooldown.symm⟩

theorem SamePair.trans (h : SamePair key c c') (h' : SamePair key c' c'') : SamePair key c c'' :=
  ⟨h.active.trans h'.active, h.events.trans h'.events, h.total.trans h'.total,
    h.retries.trans h'.retries, h.cooldown.trans h'.cooldown⟩

theorem SamePair.prune (h : SamePair key c c') (budget : TokenBudgetConfig) (now : ℚ) :
    SamePair key (pruneTokenEvents budget now key c) (pruneTokenEvents budget now key c') := by
  refine ⟨h.active, ?_, ?_, h.retries, h.cooldown⟩
  · simp only [pruneTokenEvents, Function.update_self, h.events]
  · simp only [pruneTokenEvents, h.events]
    split
    · exact h.total
    · simp only [Function.update_self, h.total]

theorem SamePair.settle (h : SamePair key c c') (now : ℚ) :
    SamePair key (AdmissionControl.settle config now key c)
      (AdmissionControl.settle config now key c') := by
  simp only [AdmissionControl.settle]
  split
  · exact h
  · exact h.prune _ now

theorem prune_other (budget : TokenBudgetConfig) (now : ℚ) {other : Key} (h : key ≠ other) :
    SamePair key (pruneTokenEvents budget now other c) c :=
  ⟨rfl, (pruneTokenEvents_other budget now c h).1, (pruneTokenEvents_other budget now c h).2,
    rfl, rfl⟩

theorem settle_other (now : ℚ) {other : Key} (h : key ≠ other) :
    SamePair key (settle config now other c) c := by
  simp only [settle]
  split
  · exact .refl key c
  · exact prune_other _ now h

theorem grantLease_other {department modelName : String} (endpoint : Endpoint)
    (h : key ≠ (department, modelName)) :
    SamePair key (grantLease department modelName endpoint c).2.1 c :=
  ⟨Function.update_of_ne h _ _, rfl, rfl, rfl, rfl⟩

theorem acquire_other (now : ℚ) {department modelName : String} (endpoint : Endpoint)
    (h : key ≠ (department, modelName)) :
    SamePair key (acquire config now department modelName endpoint c).2.1 c := by
  obtain ⟨_, heq⟩ | ⟨_, _, _, _, _, hstate, _, heq⟩ | ⟨_, heq⟩ :=
    acquire_cases config now department modelName endpoint c
  · rw [heq]
    exact .refl key c
  · rw [heq]
    rcases hstate with rfl | rfl
    · exact .refl key _
    · exact settle_other now h
  · rw [heq]
    exact (grantLease_other endpoint h).trans (settle_other now h)

theorem release_other {lease : AdmissionLease} (h : key ≠ lease.key) :
    SamePair key (release (some lease) c).1 c :=
  ⟨Function.update_of_ne h _ _, rfl, rfl, rfl, rfl⟩

theorem recordTokens_other (now : ℚ) {department modelName : String} (tokens : ℤ)
    (h : key ≠ (department, modelName)) :
    SamePair key (recordTokens config now department modelName tokens c) c := by
  simp only [recordTokens]
  split
  · exact .refl key c
  · split
    · exact .refl key c
    · rename_i budget _
      have hpruned : SamePair key (pruneTokenEvents budget now (department, modelName) c) c :=
        prune_other budget now h
      exact ⟨hpruned.active, (Function.update_of_ne h _ _).trans hpruned.events,
        (Function.update_of_ne h _ _).trans hpruned.total, hpruned.retries, hpruned.cooldown⟩

theorem recordRetryEvent_other (now : ℚ) {department modelName : String}
    (h : key ≠ (department, modelName)) :
    SamePair key (recordRetryEvent config now department modelName c).1 c := by
  simp only [recordRetryEvent]
  split
  · exact .refl key c
  · split
    · exact .refl key c
    · split
      · exact ⟨rfl, rfl, rfl, Function.update_of_ne h _ _, Function.update_of_ne h _ _⟩
      · exact ⟨rfl, rfl, rfl, Function.update_of_ne h _ _, rfl⟩

theorem apply_other (now : ℚ) {op : AdmissionOp} (h : pairOf op ≠ some key) :
    SamePair key (apply config now c op).1 c := by
  cases op with
  | checkRequestShape => exact .refl key c
  | acquire department modelName endpoint =>
    exact acquire_other now endpoint fun heq => h (congrArg some heq.symm)
  | release lease =>
    cases lease with
    | none => exact .refl key c
    | some lease => exact release_other fun heq => h (congrArg some heq.symm)
  | recordTokens department modelName tokens =>
    exact recordTokens_other now tokens fun heq => h (congrArg some heq.symm)
  | recordRetryEvent department modelName =>
    exact recordRetryEvent_other now fun heq => h (congrArg some heq.symm)

theorem grantLease_same (h : SamePair key c c') (endpoint : Endpoint) :
    SamePair key (grantLease key.1 key.2 endpoint c).2.1 (grantLease key.1 key.2 endpoint c').2.1 := by
  refine ⟨?_, h.events, h.total, h.retries, h.cooldown⟩
  simp only [grantLease, Function.update_self, h.active]

/-- Acquiring for the pair looks at nothing else than its part of the state and,
under a global limit, the number of the model's active requests. -/
theorem acquire_same (h : SamePair key c c')
    (hmodel : modelLimit config key.2 = none ∨ c.activeByModel key.2 = c'.activeByModel key.2)
    (now : ℚ) (endpoint : Endpoint) :
    (acquire config now key.1 key.2 endpoint c).1 = (acquire config now key.1 key.2 endpoint c').1 ∧
      SamePair key (acquire config now key.1 key.2 endpoint c).2.1
        (acquire config now key.1 key.2 endpoint c').2.1 := by
  have hlimit : atLimit (modelLimit config key.2) (c.activeByModel key.2) =
      atLimit (modelLimit config key.2) (c'.activeByModel key.2) := by
    rcases hmodel with hnone | hsame
    · rw [hnone]
      rfl
    · rw [hsame]
  simp only [acquire, Prod.mk.eta, h.cooldown, hlimit, h.active]
  split
  · exact ⟨rfl, h⟩
  · split
    · exact ⟨rfl, h⟩
    · split
      · exact ⟨rfl, h⟩
      · split
        · exact ⟨rfl, h⟩
        · cases tokenBudget config key.1 key.2 with
          | none => exact ⟨rfl, grantLease_same h endpoint⟩
          | some budget =>
            have hpruned := h.prune budget now
            dsimp only
            rw [hpruned.total]
            split
            · exact ⟨rfl, hpruned⟩
            · exact ⟨rfl, grantLease_same hpruned endpoint⟩

theorem release_same (h : SamePair key c c') {lease : AdmissionLease} (hkey : lease.key = key) :
    SamePair key (release (some lease) c).1 (release (some lease) c').1 := by
  subst hkey
  refine ⟨?_, h.events, h.total, h.retries, h.cooldown⟩
  simp only [release, Function.update_self, h.active]

theorem recordTokens_same (h : SamePair key c c') (now : ℚ) (tokens : ℤ) :
    SamePair key (recordTokens config now key.1 key.2 tokens c)
      (recordTokens config now key.1 key.2 tokens c') := by
  simp only [recordTokens]
  split
  · exact h
  · cases tokenBudget config key.1 key.2 with
    | none => exact h
    | some budget =>
      have hpruned := h.prune budget now
      refine ⟨hpruned.active, ?_, ?_, hpruned.retries, hpruned.cooldown⟩
      · simp only [Prod.mk.eta, Function.update_self, hpruned.events]
      · simp only [Prod.mk.eta, Function.update_self, hpruned.total]

theorem recordRetryEvent_same (h : SamePair key c c') (now : ℚ) :
    SamePair key (recordRetryEvent config now key.1 key.2 c).1
      (recordRetryEvent config now key.1 key.2 c').1 := by
  simp only [recordRetryEvent, Prod.mk.eta, h.cooldown, h.retries]
  split
  · exact h
  · split
    · exact h
    · split
      · refine ⟨h.active, h.events, h.total, ?_, ?_⟩
        · simp only [Function.update_self]
        · simp only [Function.update_self]
      · refine ⟨h.active, h.events, h.total, ?_, h.cooldown⟩
        simp only [Function.update_self]

/-! ## The number of a model's active requests -/

theorem outstanding_append (modelName : String) (xs ys : List AdmissionLease) :
    outstanding modelName (xs ++ ys) = outstanding modelName xs + outstanding modelName ys :=
  List.countP_append

theorem outstanding_erase {leases : List AdmissionLease} {lease : AdmissionLease}
    (hmem : lease ∈ leases) (modelName : String) :
    outstanding modelName (leases.erase lease) +
        (if lease.modelName = modelName then 1 else 0) = outstanding modelName leases := by
  have hperm := (List.perm_cons_erase hmem).countP_eq fun lease => decide (lease.modelName = modelName)
  unfold outstanding
  rw [hperm, List.countP_cons]
  simp only [decide_eq_true_eq]

def Counted (p : Position) : Prop :=
  ∀ modelName, p.controller.activeByModel modelName = outstanding modelName p.leases

theorem Counted.same {p p' : Position} (h : Counted p) (hactive : SameActive p.controller p'.controller)
    (hleases : p'.leases = p.leases) : Counted p' := by
  intro modelName
  rw [hactive.1, hleases]
  exact h modelName

theorem acquire_counted {p : Position} (h : Counted p) (now : ℚ) (department modelName : String)
    (endpoint : Endpoint) :
    Counted ⟨(acquire config now department modelName endpoint p.controller).2.1,
      p.leases ++ grantedLeases (acquire config now department modelName endpoint p.controller).1⟩ := by
  obtain ⟨_, heq⟩ | ⟨_, _, _, c₁, _, hstate, _, heq⟩ | ⟨_, heq⟩ :=
    acquire_cases config now department modelName endpoint p.controller
  · rw [heq]
    exact h.same ⟨rfl, rfl⟩ (List.append_nil _)
  · rw [heq]
    refine h.same ?_ (List.append_nil _)
    rcases hstate with rfl | rfl
    · exact ⟨rfl, rfl⟩
    · exact settle_active config now _ _
  · rw [heq]
    have hsettled := (settle_active config now (department, modelName) p.controller).1
    intro other
    simp only [grantLease, grantedLeases, outstanding_append, hsettled]
    by_cases hother : other = modelName
    · subst hother
      simp [outstanding, h other]
    · simp [outstanding, h other, Function.update_of_ne hother, Ne.symm hother]

theorem release_counted {p : Position} (h : Counted p) {lease : AdmissionLease}
    (hmem : lease ∈ p.leases) :
    Counted ⟨(release (some lease) p.controller).1, p.leases.erase lease⟩ := by
  intro other
  have herase := outstanding_erase hmem other
  have hactive := h other
  simp only [release]
  by_cases hother : other = lease.modelName
  · subst hother
    simp only [if_true] at herase
    simp only [Function.update_self]
    omega
  · simp only [Ne.symm hother, if_false] at herase
    simp only [Function.update_of_ne hother]
    omega

theorem admissionStep_counted {p p' : Position} {call : ℚ × AdmissionOp} (h : Counted p)
    (hstep : admissionStep config p call = some p') : Counted p' := by
  obtain ⟨now, op⟩ := call
  cases op with
  | checkRequestShape =>
    cases hstep
    exact h
  | acquire department modelName endpoint =>
    cases hstep
    exact acquire_counted h now department modelName endpoint
  | release lease =>
    cases lease with
    | none =>
      cases hstep
      exact h
    | some lease =>
      simp only [admissionStep] at hstep
      split at hstep
      · rename_i hmem
        cases hstep
        exact release_counted h hmem
      · cases hstep
  | recordTokens =>
    cases hstep
    exact h.same (recordTokens_active _ _ _) rfl
  | recordRetryEvent =>
    cases hstep
    exact h.same (recordRetryEvent_active _ _) rfl

theorem counted {p : Position} (h : Reachable (admissionStep config) start p) : Counted p :=
  h.invariant Counted (fun _ => rfl) fun _ _ _ _ hinv hstep => admissionStep_counted hinv hstep

theorem admissionStep_controller {p p' : Position} {call : ℚ × AdmissionOp}
    (hstep : admissionStep config p call = some p') :
    p'.controller = (apply config call.1 p.controller call.2).1 := by
  obtain ⟨now, op⟩ := call
  cases op with
  | release lease =>
    cases lease with
    | none =>
      cases hstep
      rfl
    | some lease =>
      simp only [admissionStep] at hstep
      split at hstep
      · cases hstep
        rfl
      · cases hstep
  | _ =>
    cases hstep
    rfl

theorem pairView_none {p : Position} {call : ℚ × AdmissionOp}
    (h : pairView config key p call = none) : pairOf call.2 ≠ some key := by
  intro hpair
  simp only [pairView, hpair, if_true] at h
  split at h <;> cases h

theorem pairOutcome_none {p : Position} {call : ℚ × AdmissionOp} (h : pairOf call.2 ≠ some key) :
    pairOutcome config key p call = none := by
  simp only [pairOutcome]
  split
  · rename_i department modelName endpoint heq
    rw [heq] at h
    exact if_neg fun hkey => h (congrArg some hkey)
  · rfl

/-- Two calls on the pair that show the same are the same call, made under the
same load of the model if that is limited. -/
theorem pairView_some {p p' : Position} {call call' : ℚ × AdmissionOp}
    {view : (ℚ × AdmissionOp) × Option ℕ} (h : pairView config key p call = some view)
    (h' : pairView config key p' call' = some view) :
    call' = call ∧ pairOf call.2 = some key ∧
      ∀ department modelName endpoint, call.2 = .acquire department modelName endpoint →
        modelLimit config key.2 = none ∨ outstanding key.2 p.leases = outstanding key.2 p'.leases := by
  simp only [pairView, Option.ite_none_right_eq_some] at h h'
  obtain ⟨hpair, hview⟩ := h
  obtain ⟨_, hview'⟩ := h'
  have hcall : call' = call := by
    have hfst : view.1 = call := by split at hview <;> cases hview <;> rfl
    have hfst' : view.1 = call' := by split at hview' <;> cases hview' <;> rfl
    exact hfst'.symm.trans hfst
  subst hcall
  refine ⟨rfl, hpair, fun department modelName endpoint hacquire => ?_⟩
  rw [hacquire] at hview hview'
  cases hlimit : modelLimit config key.2 with
  | none => exact .inl rfl
  | some limit =>
    right
    have hload := congrArg Prod.snd (Option.some.inj (hview.trans hview'.symm))
    simpa [hlimit] using hload

theorem apply_same {p p' : Position} {now : ℚ} {op : AdmissionOp}
    (h : SamePair key p.controller p'.controller) (hpair : pairOf op = some key)
    (hload : ∀ department modelName endpoint, op = .acquire department modelName endpoint →
      modelLimit config key.2 = none ∨
        p.controller.activeByModel key.2 = p'.controller.activeByModel key.2) :
    pairOutcome config key p (now, op) = pairOutcome config key p' (now, op) ∧
      SamePair key (apply config now p.controller op).1 (apply config now p'.controller op).1 := by
  cases op with
  | checkRequestShape => cases hpair
  | acquire department modelName endpoint =>
    cases hpair
    obtain ⟨houtcome, hsame⟩ := acquire_same h (hload _ _ _ rfl) now endpoint
    exact ⟨by simp only [pairOutcome, if_true, houtcome], hsame⟩
  | release lease =>
    cases lease with
    | none => cases hpair
    | some lease => exact ⟨rfl, release_same h (Option.some.inj hpair)⟩
  | recordTokens department modelName tokens =>
    cases hpair
    exact ⟨rfl, recordTokens_same h now tokens⟩
  | recordRetryEvent department modelName =>
    cases hpair
    exact ⟨rfl, recordRetryEvent_same h now⟩

theorem pair_unwinding (config : AdmissionControlConfig) (key : Key) :
    Unwinding (admissionStep config) start (pairView config key) (pairOutcome config key)
      fun p p' => SamePair key p.controller p'.controller where
  start := .refl key _
  symm _ _ h := h.symm
  hidden p call p' q _ h hhidden hstep := by
    have hother := pairView_none hhidden
    refine ⟨pairOutcome_none hother, ?_⟩
    rw [admissionStep_controller hstep]
    exact (apply_other call.1 hother).trans h
  shown p call p' q call' q' view hreach hreach' h hview hview' hstep hstep' := by
    obtain ⟨rfl, hpair, hload⟩ := pairView_some hview hview'
    rw [admissionStep_controller hstep, admissionStep_controller hstep']
    refine apply_same h hpair fun department modelName endpoint hacquire => ?_
    rcases hload department modelName endpoint hacquire with hnone | hsame
    · exact .inl hnone
    · right
      rw [counted hreach, counted hreach', hsame]

/-- Whatever happens elsewhere, two histories that make the same calls on a pair,
under the same load of its model where that is limited, treat it the same. -/
theorem departments_isolated {config : AdmissionControlConfig} {key : Key}
    {calls calls' : List (Position × (ℚ × AdmissionOp))} {p p' : Position}
    (run : Run (admissionStep config) start calls p)
    (run' : Run (admissionStep config) start calls' p')
    (hsame : observations (pairView config key) calls = observations (pairView config key) calls') :
    observations (pairOutcome config key) calls = observations (pairOutcome config key) calls' :=
  ((pair_unwinding config key).runs run run' hsame).2

end

def researchCall : ℚ × AdmissionOp := (1, .acquire "research" "llama" .responses)

def salesCall : ℚ × AdmissionOp := (0, .recordRetryEvent "sales" "llama")

def afterSales : Position := ⟨(apply sampleAdmission 0 initial salesCall.2).1, []⟩

theorem departments_isolated_sales :
    observations (pairOutcome sampleAdmission ("research", "llama")) [(start, researchCall)] =
      observations (pairOutcome sampleAdmission ("research", "llama"))
        [(start, salesCall), (afterSales, researchCall)] := by
  have run : Run (admissionStep sampleAdmission) start [(start, researchCall)] _ := .snoc .refl rfl
  have run' : Run (admissionStep sampleAdmission) start
      [(start, salesCall), (afterSales, researchCall)] _ := .snoc (.snoc .refl rfl) rfl
  exact departments_isolated run run' rfl

end VllmSourceGateway.DepartmentIsolation
