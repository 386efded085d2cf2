import Gologin.Lib.Runs

/-!
# Two systems in lockstep

A system follows another when it answers each of its steps with a step of its own, under a
label that is matched with the first one's. Which labels are matched may depend on the state
that the step is taken in. What the two have to do with each other is a relation of their
states, and `exec_follows` carries it over whole runs.
-/

namespace Runs
set_option autoImplicit false

section
variable {σ σ' ε ε' : Type} (step : σ → ε → Option σ) (step' : σ' → ε' → Option σ')

/-- The labels of a run, one by one matched with those of another. -/
def Matched (E : σ → ε → ε' → Prop) : σ → List ε → List ε' → Prop
  | _, [], [] => True
  | s, e :: es, e' :: es' => E s e e' ∧ ∀ m, step s e = some m → Matched E m es es'
  | _, _, _ => False

/-- Each step is answered by the one that is matched with it. -/
def Answered (R : σ → σ' → Prop) (E : σ → ε → ε' → Prop) : Prop :=
  ∀ s s' e e' m, R s s' → E s e e' → step s e = some m → ∃ m', step' s' e' = some m' ∧ R m m'

variable {step step'}

/-- **The lockstep rule.** -/
theorem exec_follows {R : σ → σ' → Prop} {E : σ → ε → ε' → Prop} (answered : Answered step step' R E) {s t : σ} {s' : σ'}
    {es : List ε} {es' : List ε'} (start : R s s') (matched : Matched step E s es es')
    (run : exec step s es = some t) : ∃ t', exec step' s' es' = some t' ∧ R t t' := by
  induction es generalizing s s' es' with
  | nil =>
    cases es' with
    | nil =>
      cases run
      exact ⟨s', rfl, start⟩
    | cons e' es' => exact matched.elim
  | cons e es ih =>
    cases es' with
    | nil => exact matched.elim
    | cons e' es' =>
      obtain ⟨m, taken, rest⟩ := exec_cons_some run
      obtain ⟨m', taken', related⟩ := answered s s' e e' m start matched.1 taken
      obtain ⟨t', rest', last⟩ := ih related (matched.2 m taken) rest
      refine ⟨t', ?_, last⟩
      rw [exec_cons, taken']
      exact rest'

/-- **The rule of steps left out.** The steps that are not kept do not concern the second system,
which follows the others. -/
theorem exec_filter {step' : σ' → ε → Option σ'} {R : σ → σ' → Prop} {G : σ → ε → Prop} {kept : ε → Bool}
    (skip : ∀ s s' e m, R s s' → G s e → kept e = false → step s e = some m → R m s')
    (follow : ∀ s s' e m, R s s' → G s e → kept e = true → step s e = some m → ∃ m', step' s' e = some m' ∧ R m m')
    {s t : σ} {s' : σ'} {es : List ε} (start : R s s') (guard : Along step G s es) (run : exec step s es = some t) :
    ∃ t', exec step' s' (es.filter kept) = some t' ∧ R t t' := by
  induction es generalizing s s' with
  | nil =>
    cases run
    exact ⟨s', rfl, start⟩
  | cons e es ih =>
    obtain ⟨m, taken, rest⟩ := exec_cons_some run
    cases keeps : kept e with
    | false =>
      rw [List.filter_cons_of_neg (by simp [keeps])]
      exact ih (skip s s' e m start guard.1 keeps taken) (guard.2 m taken) rest
    | true =>
      rw [List.filter_cons_of_pos keeps]
      obtain ⟨m', taken', related⟩ := follow s s' e m start guard.1 keeps taken
      obtain ⟨t', rest', last⟩ := ih related (guard.2 m taken) rest
      refine ⟨t', ?_, last⟩
      rw [exec_cons, taken']
      exact rest'

/-- A run whose steps meet a guard is matched with itself. -/
theorem matched_of_along {G : σ → ε → Prop} {s : σ} {es : List ε} (guard : Along step G s es) :
    Matched step (fun s e e' => G s e ∧ e' = e) s es es := by
  induction es generalizing s with
  | nil => trivial
  | cons e es ih => exact ⟨⟨guard.1, rfl⟩, fun m taken => ih (guard.2 m taken)⟩

/-- Labels that are matched in any state. -/
theorem matched_of_forall₂ {M : ε → ε' → Prop} {es : List ε} {es' : List ε'} (all : List.Forall₂ M es es') (s : σ) :
    Matched step (fun _ => M) s es es' := by
  induction all generalizing s with
  | nil => trivial
  | cons first _ ih => exact ⟨first, fun m _ => ih m⟩

end

end Runs
