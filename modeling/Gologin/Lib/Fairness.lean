import Gologin.Lib.Rest

/-!
# Fair runs

A run is fair to a part of the system when the part, while it can always step, does step. What
the part's steps bring nearer, and no other step undoes, then comes about.
-/

namespace Runs
set_option autoImplicit false

section
variable {σ ε : Type} (step : σ → ε → Option σ) (own : ε → Prop)

/-- Some step of the part is enabled. -/
def Ready (s : σ) : Prop := ∃ e, own e ∧ (step s e).isSome

/-- The run does not keep the part waiting for ever. -/
def Fair (ss : Nat → σ) (es : Nat → ε) : Prop :=
  ∀ n, (∀ m, n ≤ m → Ready step own (ss m)) → ∃ m, n ≤ m ∧ own (es m)

variable {step own} {ss : Nat → σ} {es : Nat → ε}

/-- What a step keeps unless it brings `Q` about holds until then. -/
theorem Forever.until {I Q : σ → Prop} (run : Forever step ss es)
    (keep : ∀ s e s', I s → step s e = some s' → Q s' ∨ I s') {n : Nat} (start : I (ss n))
    (never : ∀ m, n ≤ m → ¬ Q (ss m)) (m : Nat) (later : n ≤ m) : I (ss m) := by
  induction m, later using Nat.le_induction with
  | base => exact start
  | succ m later ih =>
    have still := never (m + 1) (by omega)
    exact (keep _ _ _ ih (run m)).resolve_left still

/-- **The rule of fair runs.** Where the part is ready and its steps lower a rank that no other
step raises, `Q` comes about. -/
theorem Fair.leads_to (fair : Fair step own ss es) (run : Forever step ss es) {I Q : σ → Prop} {rank : σ → Nat}
    (ready : ∀ s, I s → Ready step own s)
    (goes : ∀ s e s', I s → step s e = some s' → Q s' ∨ I s' ∧ rank s' ≤ rank s ∧ (own e → rank s' < rank s))
    {n : Nat} (start : I (ss n)) : ∃ m, n ≤ m ∧ Q (ss m) := by
  induction bound : rank (ss n) using Nat.strongRecOn generalizing n with
  | ind r ih =>
    by_contra none
    have never : ∀ m, n ≤ m → ¬ Q (ss m) := fun m later reached => none ⟨m, later, reached⟩
    have keep : ∀ s e s', I s ∧ rank s ≤ r → step s e = some s' → Q s' ∨ I s' ∧ rank s' ≤ r := by
      rintro s e s' ⟨holds, low⟩ taken
      rcases goes s e s' holds taken with reached | ⟨holds', lower, _⟩
      · exact Or.inl reached
      · exact Or.inr ⟨holds', by omega⟩
    have holds : ∀ m, n ≤ m → I (ss m) ∧ rank (ss m) ≤ r := run.until keep ⟨start, by omega⟩ never
    obtain ⟨m, later, mine⟩ := fair n fun m later => ready _ (holds m later).1
    obtain ⟨here, low⟩ := holds m later
    obtain ⟨next, _, less⟩ := (goes _ _ _ here (run m)).resolve_left (never (m + 1) (by omega))
    have lower := less mine
    obtain ⟨k, after, reached⟩ := ih (rank (ss (m + 1))) (by omega) next rfl
    exact never k (by omega) reached

end

end Runs
