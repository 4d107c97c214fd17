import Mathlib

set_option autoImplicit false

/-! Finite runs of a partial step function. A run keeps the steps it took, each
with the state it was taken in, so that a property of every step of a run can
be stated beside a property of the state it ends in. -/
namespace VllmSourceGateway.TransitionRuns

variable {S E : Type}

inductive Run (step : S → E → Option S) (init : S) : List (S × E) → S → Prop where
  | refl : Run step init [] init
  | snoc {vs : List (S × E)} {s t : S} {e : E} (run : Run step init vs s)
      (h : step s e = some t) : Run step init (vs ++ [(s, e)]) t

def Reachable (step : S → E → Option S) (init s : S) : Prop := ∃ vs, Run step init vs s

variable {step : S → E → Option S} {init : S}

theorem Run.reachable {vs : List (S × E)} {s : S} (run : Run step init vs s) :
    Reachable step init s := ⟨vs, run⟩

theorem Reachable.refl : Reachable step init init := ⟨[], .refl⟩

theorem Reachable.next {s t : S} {e : E} (h : Reachable step init s)
    (hstep : step s e = some t) : Reachable step init t := by
  obtain ⟨vs, run⟩ := h
  exact ⟨vs ++ [(s, e)], .snoc run hstep⟩

/-- The invariant rule: what holds initially and is kept by each step holds at
every reachable state. The step may be assumed to start in a reachable state. -/
theorem Reachable.invariant (I : S → Prop) (h0 : I init)
    (hp : ∀ s e t, Reachable step init s → I s → step s e = some t → I t)
    {s : S} (h : Reachable step init s) : I s := by
  obtain ⟨vs, run⟩ := h
  induction run with
  | refl => exact h0
  | snoc run h ih => exact hp _ _ _ run.reachable ih h

/-- The same rule for a predicate that also sees the steps taken so far. -/
theorem Run.invariant (I : List (S × E) → S → Prop) (h0 : I [] init)
    (hp : ∀ vs s e t, Run step init vs s → I vs s → step s e = some t → I (vs ++ [(s, e)]) t)
    {vs : List (S × E)} {s : S} (run : Run step init vs s) : I vs s := by
  induction run with
  | refl => exact h0
  | snoc run h ih => exact hp _ _ _ _ run ih h

/-- A step of a run was taken at the end of a shorter one. -/
theorem Run.before {vs : List (S × E)} {s : S} (run : Run step init vs s) {v : S × E} (h : v ∈ vs) :
    ∃ ws, Run step init ws v.1 ∧ ∀ w ∈ ws, w ∈ vs := by
  induction run with
  | refl => cases h
  | @snoc vs s t e run _ ih =>
    rcases List.mem_append.mp h with hold | hlast
    · obtain ⟨ws, hrun, hws⟩ := ih hold
      exact ⟨ws, hrun, fun w hw => List.mem_append_left _ (hws w hw)⟩
    · rw [List.mem_singleton.mp hlast]
      exact ⟨vs, run, fun w hw => List.mem_append_left _ hw⟩

/-- Runs the events in order, stopping at the first one that is not enabled. -/
def exec (step : S → E → Option S) : S → List E → Option S
  | s, [] => some s
  | s, e :: es => (step s e).bind fun t => exec step t es

theorem exec_run {vs : List (S × E)} {s t : S} {es : List E}
    (run : Run step init vs s) (h : exec step s es = some t) :
    ∃ ws, Run step init (vs ++ ws) t ∧ ws.map Prod.snd = es := by
  induction es generalizing vs s with
  | nil =>
    simp only [exec, Option.some.injEq] at h
    subst h
    exact ⟨[], by simpa using run, rfl⟩
  | cons e es ih =>
    simp only [exec, Option.bind_eq_some_iff] at h
    obtain ⟨u, hu, ht⟩ := h
    obtain ⟨ws, hws, hmap⟩ := ih (run.snoc hu) ht
    exact ⟨(s, e) :: ws, by simpa using hws, by simp [hmap]⟩

theorem exec_reachable {s : S} {es : List E} (h : exec step init es = some s) :
    Reachable step init s := by
  obtain ⟨ws, run, _⟩ := exec_run .refl h
  exact ⟨_, run⟩

theorem exec_get_reachable {es : List E} (h : (exec step init es).isSome = true) :
    Reachable step init ((exec step init es).get h) :=
  exec_reachable (Option.some_get h).symm

/-- What a step takes is paid from what the events before have put in. -/
theorem Run.paid (cost credit : E → ℕ) (potential : S → ℕ)
    (hstep : ∀ s e t, Reachable step init s → step s e = some t →
      cost e + potential t ≤ potential s + credit e)
    {vs : List (S × E)} {s : S} (run : Run step init vs s) :
    (vs.map fun v => cost v.2).sum + potential s ≤
      potential init + (vs.map fun v => credit v.2).sum := by
  induction run with
  | refl => simp
  | snoc run h ih =>
    have hlast := hstep _ _ _ run.reachable h
    simp only [List.map_append, List.map_cons, List.map_nil, List.sum_append, List.sum_singleton]
    omega

/-- While something is left, some step leaves less; so a run can be gone on with until
nothing is left. -/
theorem Run.exhaust (Q : S → E → Prop) (potential : S → ℕ)
    (hstep : ∀ s, Reachable step init s → 0 < potential s →
      ∃ e t, step s e = some t ∧ Q s e ∧ potential t < potential s)
    {vs : List (S × E)} {s : S} (run : Run step init vs s) :
    ∃ ws t, Run step init (vs ++ ws) t ∧ ws.length ≤ potential s ∧ (∀ w ∈ ws, Q w.1 w.2) ∧
      potential t = 0 := by
  induction hleft : potential s using Nat.strong_induction_on generalizing vs s with
  | _ left ih =>
    rcases Nat.eq_zero_or_pos left with hzero | hpos
    · exact ⟨[], s, by rwa [List.append_nil], Nat.zero_le _, List.forall_mem_nil _,
        hleft.trans hzero⟩
    · obtain ⟨e, t, hnext, hmeets, hless⟩ := hstep s run.reachable (hleft ▸ hpos)
      obtain ⟨ws, u, hrun, hlength, hall, hdone⟩ :=
        ih (potential t) (hleft ▸ hless) (run.snoc hnext) rfl
      refine ⟨(s, e) :: ws, u, by rwa [List.append_assoc] at hrun, ?_,
        List.forall_mem_cons.mpr ⟨hmeets, hall⟩, hdone⟩
      rw [List.length_cons]
      omega

def guarded (step : S → E → Option S) (Q : S → E → Bool) (s : S) (e : E) : Option S :=
  if Q s e then step s e else none

theorem Run.of_guarded {Q : S → E → Bool} {vs : List (S × E)} {s : S}
    (run : Run (guarded step Q) init vs s) : Run step init vs s := by
  induction run with
  | refl => exact .refl
  | snoc _ h ih =>
    simp only [guarded, Option.ite_none_right_eq_some] at h
    exact ih.snoc h.2

theorem Run.meets {Q : S → E → Bool} {vs : List (S × E)} {s : S}
    (run : Run (guarded step Q) init vs s) : ∀ v ∈ vs, Q v.1 v.2 = true := by
  induction run with
  | refl => exact List.forall_mem_nil _
  | snoc _ h ih =>
    simp only [guarded, Option.ite_none_right_eq_some] at h
    exact List.forall_mem_append.mpr ⟨ih, List.forall_mem_singleton.mpr h.1⟩

/-! ## Two runs

Unwinding: an observer sees some steps, `seen` being what each shows and feeds
in. Two runs that agree on it stay related and give the same outputs. -/

section
variable {I O : Type} (seen : S → E → Option I) (output : S → E → Option O)

def observations {A : Type} (f : S → E → Option A) (steps : List (S × E)) : List A :=
  steps.filterMap fun entry => f entry.1 entry.2

theorem observations_snoc {A : Type} (f : S → E → Option A) (steps : List (S × E)) (s : S) (e : E) :
    observations f (steps ++ [(s, e)]) = observations f steps ++ (f s e).toList := by
  simp only [observations, List.filterMap_append, List.filterMap_cons, List.filterMap_nil]
  cases f s e <;> rfl

/-- What a relation between two states has to keep: a hidden step of one of them,
and a step of each that shows the same. -/
structure Unwinding (step : S → E → Option S) (init : S) (seen : S → E → Option I)
    (output : S → E → Option O) (R : S → S → Prop) : Prop where
  start : R init init
  symm : ∀ s t, R s t → R t s
  hidden : ∀ s e s' t, Reachable step init s → R s t → seen s e = none → step s e = some s' →
    output s e = none ∧ R s' t
  shown : ∀ s e s' t f t' i, Reachable step init s → Reachable step init t → R s t →
    seen s e = some i → seen t f = some i → step s e = some s' → step t f = some t' →
    output s e = output t f ∧ R s' t'

variable {seen output} {R : S → S → Prop}

theorem Unwinding.runs (h : Unwinding step init seen output R) {vs ws : List (S × E)} {s t : S}
    (run : Run step init vs s) (run' : Run step init ws t)
    (hseen : observations seen vs = observations seen ws) :
    R s t ∧ observations output vs = observations output ws := by
  induction run generalizing ws t with
  | refl =>
    -- nothing is seen of the second run
    induction run' with
    | refl => exact ⟨h.start, rfl⟩
    | @snoc ws t t' f run' hstep ih =>
      rw [observations_snoc] at hseen
      obtain ⟨hfirst, hnone⟩ := List.append_eq_nil_iff.mp hseen.symm
      obtain ⟨hrel, hout⟩ := ih hfirst.symm
      obtain ⟨hquiet, hrel'⟩ := h.hidden _ _ _ _ run'.reachable (h.symm _ _ hrel)
        (Option.toList_eq_nil_iff.mp hnone) hstep
      exact ⟨h.symm _ _ hrel', by rw [observations_snoc, hquiet, ← hout]; rfl⟩
  | @snoc vs s s' e run hstep ih =>
    cases he : seen s e with
    | none =>
      rw [observations_snoc, he, Option.toList_none, List.append_nil] at hseen
      obtain ⟨hrel, hout⟩ := ih run' hseen
      obtain ⟨hquiet, hrel'⟩ := h.hidden _ _ _ _ run.reachable hrel he hstep
      exact ⟨hrel', by rw [observations_snoc, hquiet, ← hout, Option.toList_none, List.append_nil]⟩
    | some i =>
      -- look back in the second run to the last step that was seen
      induction run' with
      | refl =>
        rw [observations_snoc, he] at hseen
        simp [observations] at hseen
      | @snoc ws t t' f run' hstep' ih' =>
        cases hf : seen t f with
        | none =>
          rw [observations_snoc seen ws, hf, Option.toList_none, List.append_nil] at hseen
          obtain ⟨hrel, hout⟩ := ih' hseen
          obtain ⟨hquiet, hrel'⟩ := h.hidden _ _ _ _ run'.reachable (h.symm _ _ hrel) hf hstep'
          refine ⟨h.symm _ _ hrel', ?_⟩
          rw [observations_snoc output ws, hquiet, hout, Option.toList_none, List.append_nil]
        | some j =>
          rw [observations_snoc, observations_snoc, he, hf, Option.toList_some, Option.toList_some]
            at hseen
          obtain ⟨hfirst, hlast⟩ := List.append_inj' hseen rfl
          cases List.singleton_inj.mp hlast
          obtain ⟨hrel, hout⟩ := ih run' hfirst
          obtain ⟨houts, hrel'⟩ := h.shown _ _ _ _ _ _ i run.reachable run'.reachable hrel he hf
            hstep hstep'
          exact ⟨hrel', by rw [observations_snoc, observations_snoc, hout, houts]⟩

end

section
variable {A B : Type} {R : A → B → Prop} {xs : List A} {ys : List B}

theorem forall₂_getElem? (h : List.Forall₂ R xs ys) {i : ℕ} {x : A} (hx : xs[i]? = some x) :
    ∃ y, ys[i]? = some y ∧ R x y := by
  induction h generalizing i with
  | nil => cases hx
  | cons hR _ ih =>
    cases i with
    | zero =>
      cases hx
      exact ⟨_, rfl, hR⟩
    | succ i => exact ih hx

theorem forall₂_set (h : List.Forall₂ R xs ys) {x : A} {y : B} (hR : R x y) (i : ℕ) :
    List.Forall₂ R (xs.set i x) (ys.set i y) := by
  induction h generalizing i with
  | nil => exact .nil
  | cons hhead htail ih =>
    cases i with
    | zero => exact .cons hR htail
    | succ i => exact .cons hhead (ih i)

/-- Two systems that keep a relation under related events keep it along runs. -/
theorem exec_simulates {E' S' : Type} {step' : S' → E' → Option S'} {T : S → S' → Prop}
    {Q : E → E' → Prop}
    (hstep : ∀ s s' e e' t, T s s' → Q e e' → step s e = some t →
      ∃ t', step' s' e' = some t' ∧ T t t')
    {es : List E} {es' : List E'} (hevents : List.Forall₂ Q es es') {s t : S} {s' : S'}
    (h : T s s') (hexec : exec step s es = some t) :
    ∃ t', exec step' s' es' = some t' ∧ T t t' := by
  induction hevents generalizing s s' with
  | nil =>
    cases hexec
    exact ⟨s', rfl, h⟩
  | cons hevent _ ih =>
    simp only [exec, Option.bind_eq_some_iff] at hexec ⊢
    obtain ⟨u, hu, ht⟩ := hexec
    obtain ⟨u', hu', hrel⟩ := hstep _ _ _ _ _ h hevent hu
    obtain ⟨t', ht', hrel'⟩ := ih hrel ht
    exact ⟨t', ⟨u', hu', ht'⟩, hrel'⟩

end

end VllmSourceGateway.TransitionRuns
