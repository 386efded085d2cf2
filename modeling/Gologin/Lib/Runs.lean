import Mathlib.Data.List.Basic

/-!
# Runs of a system whose steps may be disabled

A system is a partial step function `step : σ → ε → Option σ`: the label carries
every choice the environment makes, so a run is a list of labels and is executable.
`exec` is the run, `Along` states a property of each step taken in it, in the state
the step is taken in. `exec_guarded` is the invariant rule for runs whose steps all
meet a guard; the plain invariant rule is its instance with no guard.
-/

namespace Runs
set_option autoImplicit false

section
variable {σ ε : Type} (step : σ → ε → Option σ)

/-- The state after a run, `none` when one of its steps is not enabled. -/
def exec : σ → List ε → Option σ
  | s, [] => some s
  | s, e :: es => (step s e).bind fun s' => exec s' es

/-- `P` holds of every step of the run, in the state that step is taken in. -/
def Along (P : σ → ε → Prop) : σ → List ε → Prop
  | _, [] => True
  | s, e :: es => P s e ∧ ∀ s', step s e = some s' → Along P s' es

instance decidableAlong {P : σ → ε → Prop} [∀ s e, Decidable (P s e)] :
    (s : σ) → (es : List ε) → Decidable (Along step P s es)
  | _, [] => isTrue trivial
  | s, e :: es =>
    match taken : step s e with
    | none => decidable_of_iff (P s e)
      ⟨fun here => ⟨here, fun _ next => nomatch taken.symm.trans next⟩, fun h => h.1⟩
    | some m =>
      have : Decidable (Along step P m es) := decidableAlong m es
      decidable_of_iff (P s e ∧ Along step P m es)
        ⟨fun h => ⟨h.1, fun _ next => Option.some.inj (taken.symm.trans next) ▸ h.2⟩, fun h => ⟨h.1, h.2 m taken⟩⟩

/-- `P` holds of every state the run passes through. -/
def Throughout (P : σ → Prop) : σ → List ε → Prop
  | s, [] => P s
  | s, e :: es => P s ∧ ∀ s', step s e = some s' → Throughout P s' es

instance decidableThroughout {P : σ → Prop} [DecidablePred P] :
    (s : σ) → (es : List ε) → Decidable (Throughout step P s es)
  | s, [] => inferInstanceAs (Decidable (P s))
  | s, e :: es =>
    match taken : step s e with
    | none => decidable_of_iff (P s)
      ⟨fun here => ⟨here, fun _ next => nomatch taken.symm.trans next⟩, fun h => h.1⟩
    | some m =>
      have : Decidable (Throughout step P m es) := decidableThroughout m es
      decidable_of_iff (P s ∧ Throughout step P m es)
        ⟨fun h => ⟨h.1, fun _ next => Option.some.inj (taken.symm.trans next) ▸ h.2⟩, fun h => ⟨h.1, h.2 m taken⟩⟩

/-- A value that is kept along a run, changed at each step in the state the step is taken in. -/
def trace {γ : Type} (mark : σ → ε → γ → γ) : γ → σ → List ε → γ
  | g, _, [] => g
  | g, s, e :: es =>
    match step s e with
    | none => g
    | some m => trace mark (mark s e g) m es

/-- Some run leads from `s` to `s'`. -/
def Reaches (s s' : σ) : Prop := ∃ es, exec step s es = some s'

variable {step}

@[simp] theorem exec_nil (s : σ) : exec step s [] = some s := rfl

theorem exec_cons (s : σ) (e : ε) (es : List ε) :
    exec step s (e :: es) = (step s e).bind fun s' => exec step s' es := rfl

/-- A run that starts with `e` is a step and the rest of the run. -/
theorem exec_cons_some {s s' : σ} {e : ε} {es : List ε} (run : exec step s (e :: es) = some s') :
    ∃ m, step s e = some m ∧ exec step m es = some s' :=
  Option.bind_eq_some_iff.1 run

theorem exec_append (s : σ) (es fs : List ε) :
    exec step s (es ++ fs) = (exec step s es).bind fun m => exec step m fs := by
  induction es generalizing s with
  | nil => rfl
  | cons e es ih =>
    simp only [List.cons_append, exec_cons]
    cases step s e with
    | none => rfl
    | some m => exact ih m

theorem exec_trans {s m s' : σ} {es fs : List ε} (first : exec step s es = some m)
    (second : exec step m fs = some s') : exec step s (es ++ fs) = some s' := by
  rw [exec_append, first]
  exact second

theorem exec_single {s s' : σ} {e : ε} (h : step s e = some s') : exec step s [e] = some s' := by
  rw [exec_cons, h]
  rfl

/-- A run passes through a state behind each of its steps. -/
theorem exec_take {s s' : σ} {es : List ε} (run : exec step s es = some s') {n : Nat} (inside : n < es.length) :
    ∃ m m', exec step s (es.take n) = some m ∧ step m es[n] = some m' ∧ exec step s (es.take (n + 1)) = some m' := by
  rw [← List.take_append_drop (n + 1) es, exec_append] at run
  obtain ⟨m', upTo, _⟩ := Option.bind_eq_some_iff.1 run
  have parts := upTo
  rw [List.take_succ_eq_append_getElem inside, exec_append] at parts
  obtain ⟨m, before, last⟩ := Option.bind_eq_some_iff.1 parts
  obtain ⟨_, taken, same⟩ := exec_cons_some last
  cases same
  exact ⟨m, m', before, taken, upTo⟩

theorem Reaches.refl (s : σ) : Reaches step s s := ⟨[], rfl⟩

theorem Reaches.trans {s m s' : σ} (first : Reaches step s m) (second : Reaches step m s') :
    Reaches step s s' := by
  obtain ⟨es, h⟩ := first
  obtain ⟨fs, h'⟩ := second
  exact ⟨es ++ fs, exec_trans h h'⟩

theorem Reaches.single {s s' : σ} {e : ε} (h : step s e = some s') : Reaches step s s' :=
  ⟨[e], exec_single h⟩

theorem along_true (s : σ) (es : List ε) : Along step (fun _ _ => True) s es := by
  induction es generalizing s with
  | nil => trivial
  | cons e es ih => exact ⟨trivial, fun m _ => ih m⟩

/-- What holds of every label holds along the run. -/
theorem along_of_forall {P : ε → Prop} {es : List ε} (all : ∀ e ∈ es, P e) (s : σ) :
    Along step (fun _ e => P e) s es := by
  induction es generalizing s with
  | nil => trivial
  | cons e es ih =>
    exact ⟨all e List.mem_cons_self, fun m _ => ih (fun e' member => all e' (List.mem_cons_of_mem e member)) m⟩

/-- What holds throughout a run holds where each of its steps is taken. -/
theorem Throughout.along {P : σ → Prop} {s : σ} {es : List ε} (h : Throughout step P s es) :
    Along step (fun s _ => P s) s es := by
  induction es generalizing s with
  | nil => trivial
  | cons e es ih => exact ⟨h.1, fun m taken => ih (h.2 m taken)⟩

theorem Throughout.here {P : σ → Prop} {s : σ} {es : List ε} (h : Throughout step P s es) : P s := by
  cases es with
  | nil => exact h
  | cons e es => exact h.1

theorem Throughout.last {P : σ → Prop} {s s' : σ} {es : List ε} (h : Throughout step P s es)
    (run : exec step s es = some s') : P s' := by
  induction es generalizing s with
  | nil => exact Option.some.inj run ▸ h
  | cons e es ih =>
    obtain ⟨m, taken, rest⟩ := exec_cons_some run
    exact ih (h.2 m taken) rest

/-- **The guarded invariant rule.** What every guarded step keeps, every run of
guarded steps keeps. -/
theorem exec_guarded {I : σ → Prop} {G : σ → ε → Prop}
    (keep : ∀ s e s', I s → G s e → step s e = some s' → I s') {s s' : σ} {es : List ε}
    (start : I s) (guard : Along step G s es) (run : exec step s es = some s') : I s' := by
  induction es generalizing s with
  | nil => exact Option.some.inj run ▸ start
  | cons e es ih =>
    obtain ⟨m, taken, rest⟩ := exec_cons_some run
    exact ih (keep s e m start guard.1 taken) (guard.2 m taken) rest

/-- The invariant rule. -/
theorem exec_invariant {I : σ → Prop} (keep : ∀ s e s', I s → step s e = some s' → I s')
    {s s' : σ} {es : List ε} (start : I s) (run : exec step s es = some s') : I s' :=
  exec_guarded (fun s e s' h _ taken => keep s e s' h taken) start (along_true s es) run

/-- The invariant rule for a value kept along the run. -/
theorem trace_guarded {γ : Type} {mark : σ → ε → γ → γ} {I : γ → σ → Prop} {G : σ → ε → Prop}
    (keep : ∀ g s e s', I g s → G s e → step s e = some s' → I (mark s e g) s') {g : γ} {s s' : σ} {es : List ε}
    (start : I g s) (guard : Along step G s es) (run : exec step s es = some s') :
    I (trace step mark g s es) s' := by
  induction es generalizing g s with
  | nil => exact Option.some.inj run ▸ start
  | cons e es ih =>
    obtain ⟨m, taken, rest⟩ := exec_cons_some run
    simp only [trace, taken]
    exact ih (keep g s e m start guard.1 taken) (guard.2 m taken) rest

/-- **The exact guard.** When the guard is what a step must meet to keep `P`, in the states
that every run reaches, the runs that meet it are those on which `P` holds throughout. -/
theorem throughout_iff_along {I P : σ → Prop} {G : σ → ε → Prop}
    (keep : ∀ s e s', I s → step s e = some s' → I s')
    (exact_ : ∀ s e s', I s → P s → step s e = some s' → (P s' ↔ G s e)) {s s' : σ} {es : List ε}
    (start : I s) (here : P s) (run : exec step s es = some s') :
    Throughout step P s es ↔ Along step G s es := by
  induction es generalizing s with
  | nil => exact iff_of_true here trivial
  | cons e es ih =>
    obtain ⟨m, taken, rest⟩ := exec_cons_some run
    have next := keep s e m start taken
    have step_ := exact_ s e m start here taken
    constructor
    · rintro ⟨_, later⟩
      have there : P m := by
        cases es with
        | nil => exact later m taken
        | cons e' es' => exact (later m taken).1
      refine ⟨step_.1 there, fun m' taken' => ?_⟩
      cases taken.symm.trans taken'
      exact (ih next there rest).1 (later m taken)
    · rintro ⟨guard, later⟩
      refine ⟨here, fun m' taken' => ?_⟩
      cases taken.symm.trans taken'
      exact (ih next (step_.2 guard) rest).2 (later m taken)

end

end Runs
