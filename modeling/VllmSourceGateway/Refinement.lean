import VllmSourceGateway.TransitionRuns

set_option autoImplicit false

/-! Forward simulation. One step of a system is matched by any number of steps of
a more abstract one, and an observer sees the same of both. What is proved of
the abstract system's runs is then known of the other's. -/
namespace VllmSourceGateway.Refinement
open TransitionRuns

variable {S E S' E' A : Type}

def trace (seen : S → E → List A) (steps : List (S × E)) : List A :=
  steps.flatMap fun taken => seen taken.1 taken.2

section
variable {seen : S → E → List A}

theorem trace_append (xs ys : List (S × E)) : trace seen (xs ++ ys) = trace seen xs ++ trace seen ys :=
  List.flatMap_append

theorem trace_snoc (steps : List (S × E)) (s : S) (e : E) :
    trace seen (steps ++ [(s, e)]) = trace seen steps ++ seen s e := by
  rw [trace_append]
  exact congrArg (trace seen steps ++ ·) (List.flatMap_singleton _ _)

end

section
variable (step : S → E → Option S) (init : S) (step' : S' → E' → Option S') (init' : S')

/-- Every step leads from related states to related states, and the steps that
match it show what it shows. -/
structure Simulation (R : S → S' → Prop) (seen : S → E → List A) (seen' : S' → E' → List A) :
    Prop where
  start : R init init'
  step : ∀ {s t : S} {e : E} {s' : S'} {vs' : List (S' × E')}, Reachable step init s →
    Run step' init' vs' s' → R s s' → step s e = some t →
    ∃ ws t', Run step' init' (vs' ++ ws) t' ∧ R t t' ∧ trace seen' ws = seen s e

end

section
variable {step : S → E → Option S} {init : S} {step' : S' → E' → Option S'} {init' : S'}
  {R : S → S' → Prop} {seen : S → E → List A} {seen' : S' → E' → List A}

theorem Simulation.run (h : Simulation step init step' init' R seen seen') {vs : List (S × E)} {s : S}
    (run : Run step init vs s) :
    ∃ vs' s', Run step' init' vs' s' ∧ R s s' ∧ trace seen' vs' = trace seen vs := by
  induction run with
  | refl => exact ⟨[], init', .refl, h.start, rfl⟩
  | @snoc vs s t e run hstep ih =>
    obtain ⟨vs', s', run', hR, htrace⟩ := ih
    obtain ⟨ws, t', hnext, hR', hseen⟩ := h.step run.reachable run' hR hstep
    exact ⟨vs' ++ ws, t', hnext, hR', by rw [trace_append, trace_snoc, htrace, hseen]⟩

/-- What holds in all states of the abstract system holds of an abstract state
related to any state of the other. -/
theorem Simulation.reachable (h : Simulation step init step' init' R seen seen') {s : S}
    (hs : Reachable step init s) : ∃ s', Reachable step' init' s' ∧ R s s' := by
  obtain ⟨vs, run⟩ := hs
  obtain ⟨vs', s', run', hR, _⟩ := h.run run
  exact ⟨s', run'.reachable, hR⟩

end

end VllmSourceGateway.Refinement
