import VllmSourceGateway.AdmissionLedger

set_option autoImplicit false

/-! The running gateway keeps the admission ledger: the calls of all its requests, in
whatever order they come, are postings of one run of it. -/
namespace VllmSourceGateway.LedgerRefinement
open PyValues UsageExtractors Metrics Config AdmissionControl GatewayEffects ProxyEndpoint
open RequestSegments RequestSlot GatewaySystem TransitionRuns AdmissionLedger
open LeaseAccounting

def heldLeases (tasks : List Task) : List AdmissionLease :=
  tasks.filterMap fun task => (slotOf task.trace).lease

def postings (history : List (ℚ × Effect)) : List Posting :=
  history.filterMap fun entry => posting? entry.1 entry.2

theorem postings_append (xs ys : List (ℚ × Effect)) :
    postings (xs ++ ys) = postings xs ++ postings ys := List.filterMap_append

theorem postings_at (now : ℚ) (effects : List Effect) :
    postings (effects.map fun effect => (now, effect)) = effects.filterMap (posting? now) := by
  rw [postings, List.filterMap_map]
  rfl

section
variable {config : AdmissionControlConfig} {clock now : ℚ} {ledger : Ledger} {g : Gateway}
  {slot : Slot} {others : List AdmissionLease} {ws : List (Ledger × Posting)}

/-- The ledger beside the gateway while a request runs: it represents the controller,
and its leases are that of the request and those of the others. -/
structure Beside (config : AdmissionControlConfig) (clock : ℚ) (others : List AdmissionLease)
    (ledger : Ledger) (slot : Slot) (g : Gateway) : Prop where
  represents : Represents config clock ledger g.admission
  held : ledger.held.Perm (slot.lease.toList ++ others)

/-- A call that the ledger does not hear of leaves the controller and the slot alone. -/
theorem unheard {effect : Effect} (h : posting? now effect = none) :
    (perform config now g effect).admission = g.admission ∧
      (slot.observe effect).lease = slot.lease := by
  cases effect with
  | acquire | recordTokens | recordRetryEvent => cases h
  | release lease =>
    cases lease with
    | none => exact ⟨rfl, rfl⟩
    | some lease => cases h
  | metric event => cases event <;> exact ⟨rfl, rfl⟩
  | _ => exact ⟨rfl, rfl⟩

/-- The slot's lease moves as the ledger's. -/
theorem Beside.heard (h : Beside config clock others ledger slot g) (hc : clock ≤ now)
    (hnow : 0 ≤ now) {effect : Effect} {posting : Posting}
    (hposting : posting? now effect = some posting) (hgenuine : effect.Genuine config now g)
    (hdisciplined : (slot.observe effect).disciplined = true) :
    ledger.Accepts config posting ∧
      (ledger.record posting).held.Perm ((slot.observe effect).lease.toList ++ others) := by
  cases effect with
  | acquire department modelName endpoint result =>
    cases hposting
    have hresult : (acquire config now department modelName endpoint g.admission).1 = result :=
      hgenuine
    refine ⟨hresult.symm.trans (h.represents.acquire_answer hc hnow _ _ _), ?_⟩
    cases result with
    | error rejection => exact h.held
    | ok lease =>
      cases lease with
      | none => exact h.held
      | some lease =>
        have hnone : slot.lease = none := by
          simp only [Slot.observe, Bool.and_eq_true, Option.isNone_iff_eq_none] at hdisciplined
          exact hdisciplined.2
        have hheld := h.held
        rw [hnone] at hheld
        exact hheld.cons lease
  | release lease =>
    cases lease with
    | none => cases hposting
    | some lease =>
      cases hposting
      have hlease : slot.lease = some lease := by
        simp only [Slot.observe, Bool.and_eq_true, decide_eq_true_eq] at hdisciplined
        exact hdisciplined.2
      have hheld := h.held
      rw [hlease] at hheld
      refine ⟨hheld.mem_iff.mpr List.mem_cons_self, ?_⟩
      have hreturned := hheld.erase lease
      rwa [Option.toList_some, List.singleton_append, List.erase_cons_head] at hreturned
  | recordTokens department modelName tokens =>
    cases hposting
    rw [(record_charged_other ledger now (department, modelName) tokens).1]
    exact ⟨trivial, h.held⟩
  | recordRetryEvent department modelName =>
    cases hposting
    exact ⟨trivial, h.held⟩
  | _ => cases hposting

/-- One call is at most one posting. -/
theorem Beside.perform (h : Beside config clock others ledger slot g) (hc : clock ≤ now)
    (hnow : 0 ≤ now) (run : Run (Ledger.step config) .empty ws ledger) {effect : Effect}
    (hgenuine : effect.Genuine config now g)
    (hdisciplined : (slot.observe effect).disciplined = true) :
    ∃ later ledger', Run (Ledger.step config) .empty (ws ++ later) ledger' ∧
      later.map Prod.snd = (posting? now effect).toList ∧
      Beside config now others ledger' (slot.observe effect) (perform config now g effect) := by
  cases hposting : posting? now effect with
  | none =>
    obtain ⟨hadmission, hlease⟩ :
        (GatewayEffects.perform config now g effect).admission = g.admission ∧
          (slot.observe effect).lease = slot.lease := unheard hposting
    refine ⟨[], ledger, by rwa [List.append_nil], rfl, ?_, ?_⟩
    · rw [hadmission]
      exact h.represents.later hc
    · rw [hlease]
      exact h.held
  | some posting =>
    obtain ⟨haccepts, hheld⟩ := h.heard hc hnow hposting hgenuine hdisciplined
    obtain ⟨op, hop⟩ : ∃ op, effect.admissionOp? = some op := by
      cases effect <;> first | exact ⟨_, rfl⟩ | cases hposting
    refine ⟨[(ledger, posting)], ledger.record posting, run.snoc (step_of_accepts haccepts), rfl,
      ?_, hheld⟩
    rw [perform_admission, hop]
    refine h.represents.posted hc hnow hop hposting haccepts ?_
    rintro department modelName endpoint result rfl
    exact hgenuine

theorem Beside.performAll {effects : List Effect} (h : Beside config clock others ledger slot g)
    (hc : clock ≤ now) (hnow : 0 ≤ now) (run : Run (Ledger.step config) .empty ws ledger)
    (hgenuine : AllGenuine config now g effects)
    (hdisciplined : (slot.observeAll effects).disciplined = true) :
    ∃ later ledger', Run (Ledger.step config) .empty (ws ++ later) ledger' ∧
      later.map Prod.snd = effects.filterMap (posting? now) ∧
      Beside config now others ledger' (slot.observeAll effects)
        (performAll config now g effects) := by
  induction effects generalizing clock ledger g slot ws with
  | nil => exact ⟨[], ledger, by rwa [List.append_nil], rfl, h.represents.later hc, h.held⟩
  | cons effect effects ih =>
    obtain ⟨first, ledger₁, hfirst, hposted, hbeside⟩ :=
      h.perform hc hnow run hgenuine.1 (disciplined_of_observeAll hdisciplined)
    obtain ⟨later, ledger', hlater, hrest, hbeside'⟩ :=
      ih hbeside le_rfl hfirst hgenuine.2 hdisciplined
    refine ⟨first ++ later, ledger', by rwa [← List.append_assoc], ?_, hbeside'⟩
    rw [List.map_append, hposted, hrest, List.filterMap_cons]
    cases posting? now effect <;> rfl

end

section
variable {P : Platform} {config : AppConfig} {s : System}

structure Kept (config : AppConfig) (s : System) (ledger : Ledger) : Prop where
  represents : Represents config.admissionControl s.clock ledger s.gateway.admission
  held : ledger.held.Perm (heldLeases s.tasks)
  clock : 0 ≤ s.clock

theorem heldLeases_split (before after : List Task) (task : Task) :
    (heldLeases (before ++ task :: after)).Perm
      ((slotOf task.trace).lease.toList ++ heldLeases (before ++ after)) := by
  refine (List.perm_middle.filterMap _).trans ?_
  rw [List.filterMap_cons, heldLeases]
  cases (slotOf task.trace).lease <;> exact .refl _

/-- The ledger goes on as a request does. -/
theorem Kept.run {ledger : Ledger} (h : Kept config s ledger) {now : ℚ} (hc : s.clock ≤ now)
    {ws : List (Ledger × Posting)}
    (run : Run (Ledger.step config.admissionControl) .empty ws ledger) {slot : Slot}
    {others : List AdmissionLease} (hheld : (heldLeases s.tasks).Perm (slot.lease.toList ++ others))
    {effects : List Effect} (hgenuine : AllGenuine config.admissionControl now s.gateway effects)
    (hdisciplined : (slot.observeAll effects).disciplined = true) {tasks : List Task}
    (hafter : (heldLeases tasks).Perm ((slot.observeAll effects).lease.toList ++ others)) :
    ∃ later ledger', Run (Ledger.step config.admissionControl) .empty (ws ++ later) ledger' ∧
      later.map Prod.snd = effects.filterMap (posting? now) ∧
      Kept config (s.run config now effects tasks) ledger' := by
  have hnow : 0 ≤ now := h.clock.trans hc
  obtain ⟨later, ledger', hrun, hposted, hbeside⟩ :=
    Beside.performAll ⟨h.represents, h.held.trans hheld⟩ hc hnow run hgenuine hdisciplined
  exact ⟨later, ledger', hrun, hposted, hbeside.represents, hbeside.held.trans hafter.symm, hnow⟩

theorem ledger_kept (h : Reachable (step P config) (initial config) s) :
    ∃ ws ledger, Run (Ledger.step config.admissionControl) .empty ws ledger ∧
      ws.map Prod.snd = postings s.history ∧ Kept config s ledger := by
  refine h.invariant (fun s => ∃ ws ledger, Run (Ledger.step config.admissionControl) .empty ws
    ledger ∧ ws.map Prod.snd = postings s.history ∧ Kept config s ledger) ?_ ?_
  · exact ⟨[], .empty, .refl, rfl, represents_initial, .refl _, le_rfl⟩
  · rintro s event s' hreach ⟨ws, ledger, run, hposted, hkept⟩ hstep
    have hgoesOn {now : ℚ} {effects : List Effect} {tasks : List Task}
        (hrun : ∃ later ledger',
          Run (Ledger.step config.admissionControl) .empty (ws ++ later) ledger' ∧
          later.map Prod.snd = effects.filterMap (posting? now) ∧
          Kept config (s.run config now effects tasks) ledger') :
        ∃ ws ledger, Run (Ledger.step config.admissionControl) .empty ws ledger ∧
          ws.map Prod.snd = postings (s.run config now effects tasks).history ∧
          Kept config (s.run config now effects tasks) ledger := by
      obtain ⟨later, ledger', hrun, hlater, hkept'⟩ := hrun
      refine ⟨ws ++ later, ledger', hrun, ?_, hkept'⟩
      rw [List.map_append, hposted, hlater, System.run, postings_append, postings_at]
    have hreach' := hreach.next hstep
    cases step_cases hstep with
    | @arrive request now hclock =>
      have hothers : (heldLeases s.tasks).Perm
          ((holding none none).lease.toList ++ heldLeases s.tasks) := .refl _
      have hafter := heldLeases_split s.tasks [] (Task.start config request)
      rw [List.append_nil] at hafter
      exact hgoesOn (hkept.run hclock run hothers
        (genuine_of_plain (startRequest_plain request) _)
        (slotAt_disciplined (P := P) startRequest_slot) hafter)
    | @resume i input now before after task effects point hclock htasks hindex hsegment =>
      have hslot := task_slots hreach task (by simp [htasks])
      have hothers := heldLeases_split before after task
      rw [← htasks] at hothers
      have hafter := heldLeases_split before after (task.continue input effects point)
      have hslotOf : slotOf (task.continue input effects point).trace =
          (slotOf task.trace).observeAll effects := observeAll_append _ _ _
      rw [hslotOf] at hafter
      exact hgoesOn (hkept.run hclock run hothers (segment_genuine hsegment)
        (slotAt_disciplined (segment_slot hsegment hslot)) hafter)
    | setHealth hset =>
      exact ⟨ws, ledger, run, hposted, hkept.represents, hkept.held, hkept.clock⟩

/-- The admission calls of a run, with the answers they got, are a run of the ledger. Its
leases are those the requests hold, and it answers any call to come. -/
theorem gateway_refines_ledger (h : Reachable (step P config) (initial config) s) :
    ∃ ws ledger, Run (Ledger.step config.admissionControl) .empty ws ledger ∧
      ws.map Prod.snd = postings s.history ∧ ledger.held.Perm (heldLeases s.tasks) ∧
      ∀ now, s.clock ≤ now → ∀ department modelName endpoint,
        (acquire config.admissionControl now department modelName endpoint s.gateway.admission).1 =
          answer config.admissionControl ledger now department modelName endpoint := by
  obtain ⟨ws, ledger, run, hposted, hkept⟩ := ledger_kept h
  refine ⟨ws, ledger, run, hposted, hkept.held, fun now hc department modelName endpoint => ?_⟩
  exact hkept.represents.acquire_answer hc (hkept.clock.trans hc) department modelName endpoint

theorem history_past (h : Reachable (step P config) (initial config) s) :
    ∀ entry ∈ s.history, entry.1 ≤ s.clock := by
  refine h.invariant (fun s => ∀ entry ∈ s.history, entry.1 ≤ s.clock) (List.forall_mem_nil _) ?_
  intro s event s' _ hpast hstep
  have hran {now : ℚ} (hc : s.clock ≤ now) (effects : List Effect) (tasks : List Task) :
      ∀ entry ∈ (s.run config now effects tasks).history, entry.1 ≤ now := by
    intro entry hentry
    rcases List.mem_append.mp hentry with hold | hnew
    · exact (hpast entry hold).trans hc
    · obtain ⟨_, _, rfl⟩ := List.mem_map.mp hnew
      exact le_rfl
  cases step_cases hstep with
  | arrive hclock => exact hran hclock _ _
  | resume hclock => exact hran hclock _ _
  | setHealth => exact hpast

theorem posting_by {clock now : ℚ} (hnow : now ≤ clock) {effect : Effect} {posting : Posting}
    (h : posting? now effect = some posting) : posting.By clock := by
  cases effect with
  | acquire | recordTokens | recordRetryEvent =>
    cases h
    exact hnow
  | release lease =>
    cases lease with
    | none => cases h
    | some lease =>
      cases h
      exact trivial
  | _ => cases h

theorem countP_heldLeases (kind : AdmissionLease → Bool) :
    (heldLeases s.tasks).countP kind = outstandingLeases kind s := by
  rw [heldLeases, List.countP_filterMap, outstandingLeases]
  refine List.countP_congr fun task _ => ?_
  unfold holds
  cases (slotOf task.trace).lease <;> simp

def Admits (config : AppConfig) (s : System) (now : ℚ) (lease : AdmissionLease) : Prop :=
  (acquire config.admissionControl now lease.department lease.modelName lease.endpoint
    s.gateway.admission).1 = .ok (some lease)

def HasRoom (config : AppConfig) (s : System) (department modelName : String) : Prop :=
  atLimit (modelLimit config.admissionControl modelName)
      (outstandingLeases (ofModel modelName) s) = false ∧
    atLimit (departmentModelLimit config.admissionControl department modelName)
      (outstandingLeases (ofKey (department, modelName)) s) = false

theorem admits_iff {ledger : Ledger} (hkept : Kept config s ledger)
    (henabled : config.admissionControl.enabled = true) {now : ℚ} (hc : s.clock ≤ now)
    (lease : AdmissionLease) : Admits config s now lease ↔
      refusal config.admissionControl ledger now (lease.department, lease.modelName) = none := by
  unfold Admits
  rw [hkept.represents.acquire_answer hc (hkept.clock.trans hc)]
  unfold answer
  rw [if_pos henabled]
  cases refusal config.admissionControl ledger now (lease.department, lease.modelName) with
  | none => exact iff_of_true rfl rfl
  | some rejection => simp

theorem hasRoom_iff {ledger : Ledger} (hkept : Kept config s ledger)
    (department modelName : String) : HasRoom config s department modelName ↔
      atLimit (modelLimit config.admissionControl modelName)
          (ledger.held.countP (ofModel modelName)) = false ∧
        atLimit (departmentModelLimit config.admissionControl department modelName)
          (ledger.held.countP (ofKey (department, modelName))) = false := by
  rw [hkept.held.countP_eq, hkept.held.countP_eq, countP_heldLeases, countP_heldLeases]
  exact .rfl

/-- Waiting never costs a request its admission, and of all refusals only those for
concurrency can last: a quiet gateway admits again, after a cooldown and a window,
exactly whoever finds room under the limits. -/
theorem waiting_admits (h : Reachable (step P config) (initial config) s)
    (henabled : config.admissionControl.enabled = true) (lease : AdmissionLease) :
    (∀ now now', s.clock ≤ now → now ≤ now' → Admits config s now lease →
        Admits config s now' lease) ∧
      ((∃ now, s.clock ≤ now ∧ Admits config s now lease) ↔
        HasRoom config s lease.department lease.modelName) ∧
      (HasRoom config s lease.department lease.modelName → ∀ now,
        s.clock + config.admissionControl.retryGuard.cooldownSeconds ≤ now →
        (∀ budget, tokenBudget config.admissionControl lease.department lease.modelName =
          some budget → s.clock + budget.windowSeconds < now) →
        Admits config s now lease) := by
  obtain ⟨ws, ledger, run, hposted, hkept⟩ := ledger_kept h
  have htimely : ledger.Timely s.clock := by
    refine run_timely run fun w hw => ?_
    have hposting : w.2 ∈ postings s.history := hposted ▸ List.mem_map_of_mem hw
    obtain ⟨entry, hentry, hheard⟩ := List.mem_filterMap.mp hposting
    exact posting_by (history_past h entry hentry) hheard
  have hquiet (hroom : HasRoom config s lease.department lease.modelName) (now : ℚ)
      (hcooldown : s.clock + config.admissionControl.retryGuard.cooldownSeconds ≤ now)
      (hwindow : ∀ budget, tokenBudget config.admissionControl lease.department
        lease.modelName = some budget → s.clock + budget.windowSeconds < now) :
      Admits config s now lease := by
    have hc : s.clock ≤ now := by
      have hpos := config.admissionControl.retryGuard.cooldownSeconds_pos
      linarith
    obtain ⟨hmodel, hpair⟩ := (hasRoom_iff hkept _ _).mp hroom
    exact (admits_iff hkept henabled hc lease).mpr
      (htimely.refusal_quiet hcooldown hwindow hmodel hpair)
  refine ⟨fun now now' hc hlater hadmits => ?_, ⟨?_, fun hroom => ?_⟩, hquiet⟩
  · rw [admits_iff hkept henabled hc] at hadmits
    rw [admits_iff hkept henabled (hc.trans hlater)]
    exact htimely.refusal_later hlater hadmits
  · rintro ⟨now, hc, hadmits⟩
    rw [admits_iff hkept henabled hc, refusal_eq_none_iff] at hadmits
    exact (hasRoom_iff hkept _ _).mpr ⟨hadmits.2.1, hadmits.2.2.1⟩
  · let window := ((tokenBudget config.admissionControl lease.department
      lease.modelName).map TokenBudgetConfig.windowSeconds).getD 0
    have hcooldown := config.admissionControl.retryGuard.cooldownSeconds_pos
    have hnonneg : 0 ≤ window := by
      simp only [window]
      cases tokenBudget config.admissionControl lease.department lease.modelName with
      | none => exact le_rfl
      | some budget => exact budget.windowSeconds_pos.le
    refine ⟨s.clock + config.admissionControl.retryGuard.cooldownSeconds + window, by linarith,
      hquiet hroom _ (by linarith) fun budget hbudget => ?_⟩
    have hsame : window = budget.windowSeconds := by simp only [window, hbudget]; rfl
    linarith

end

/-! Two requests charge sixteen tokens of ten. A third one is refused then, and admitted
when it has waited. -/

def chargedTwice : List Event :=
  [.arrive smallRequest 0, .arrive smallRequest 0, .resume 0 (.body postBody) 1,
    .resume 1 (.body postBody) 2, .resume 0 (.response 200 [] usageBody) 3,
    .resume 1 (.response 200 [] usageBody) 4]

theorem chargedTwice_runs : (smallRun chargedTwice).isSome = true := by decide +kernel

def charged : System := (smallRun chargedTwice).get chargedTwice_runs

theorem charged_reachable : Reachable (step smallPlatform smallConfig) (initial smallConfig) charged :=
  exec_get_reachable chargedTwice_runs

theorem gateway_refines_ledger_charged :
    ∃ ws ledger, Run (Ledger.step sampleAdmission) .empty ws ledger ∧ ws.length = 6 ∧
      ledger.held = [] ∧ ∀ now, 4 ≤ now →
        (acquire sampleAdmission now "research" "llama" .chatCompletions
            charged.gateway.admission).1 =
          answer sampleAdmission ledger now "research" "llama" .chatCompletions := by
  obtain ⟨ws, ledger, run, hposted, hheld, hanswers⟩ := gateway_refines_ledger charged_reachable
  have hlength : (postings charged.history).length = 6 := by decide +kernel
  have hnone : heldLeases charged.tasks = [] := by decide +kernel
  have hclock : charged.clock = 4 := by decide +kernel
  rw [← hposted, List.length_map] at hlength
  rw [hnone, List.perm_nil] at hheld
  exact ⟨ws, ledger, run, hlength, hheld, fun now hnow => hanswers now (hclock.trans_le hnow) _ _ _⟩

def thirdLease : AdmissionLease := ⟨"research", "llama", .chatCompletions⟩

theorem waiting_admits_charged :
    ¬ Admits smallConfig charged 4 thirdLease ∧ Admits smallConfig charged 65 thirdLease := by
  refine ⟨by unfold Admits; decide +kernel, ?_⟩
  have hclock : charged.clock = 4 := by decide +kernel
  have hroom : HasRoom smallConfig charged "research" "llama" := by unfold HasRoom; decide +kernel
  refine (waiting_admits charged_reachable rfl thirdLease).2.2 hroom 65 ?_ fun budget hbudget => ?_
  · rw [hclock]
    decide +kernel
  · have hsame : tokenBudget sampleAdmission "research" "llama" =
        some ⟨"research", "llama", 10, 60, by decide, by decide⟩ := rfl
    cases hsame.symm.trans hbudget
    rw [hclock]
    norm_num

end VllmSourceGateway.LedgerRefinement
