import Gologin.Lib.Runs

/-!
# What one part of a system can do alone

Some of the labels are a part's `own`: it can take their steps whatever the others do. A
state is `Stuck` when none of these steps is enabled. Where a rank falls, the part gets
stuck in the end.
-/

namespace Runs
set_option autoImplicit false

section
variable {σ ε : Type} (step : σ → ε → Option σ) (own : ε → Prop)

/-- No step of the part is enabled. -/
def Stuck (s : σ) : Prop := ∀ e, own e → step s e = none

/-- The part's own steps lead from `s` to `s'`. -/
def Alone (s s' : σ) : Prop := ∃ es, (∀ e ∈ es, own e) ∧ exec step s es = some s'

variable {step own}

theorem not_stuck {s : σ} : ¬ Stuck step own s ↔ ∃ e, own e ∧ (step s e).isSome := by
  unfold Stuck
  push Not
  simp only [Option.isSome_iff_ne_none]

theorem Alone.refl (s : σ) : Alone step own s s := ⟨[], by simp, rfl⟩

theorem Alone.head {s m s' : σ} {e : ε} (mine : own e) (taken : step s e = some m)
    (rest : Alone step own m s') : Alone step own s s' := by
  obtain ⟨es, all, run⟩ := rest
  refine ⟨e :: es, ?_, ?_⟩
  · rintro e' (_ | ⟨_, member⟩)
    · exact mine
    · exact all e' member
  · rw [exec_cons, taken]
    exact run

/-- The invariant rule for the part's own steps. -/
theorem Alone.invariant {I : σ → Prop} (keep : ∀ s e s', I s → own e → step s e = some s' → I s') {s s' : σ}
    (start : I s) (alone : Alone step own s s') : I s' := by
  obtain ⟨es, all, run⟩ := alone
  induction es generalizing s with
  | nil => exact Option.some.inj run ▸ start
  | cons e es ih =>
    obtain ⟨m, taken, rest⟩ := exec_cons_some run
    exact ih (keep s e m start (all e (by simp)) taken) (fun e' member => all e' (by simp [member])) rest

/-- **Getting stuck.** If wherever the part can step it has a step that lowers a rank, then its
own steps lead to a state in which it is stuck. -/
theorem Alone.reaches_stuck {I : σ → Prop} {rank : σ → Nat}
    (lower : ∀ s, I s → ¬ Stuck step own s → ∃ e s', own e ∧ step s e = some s' ∧ I s' ∧ rank s' < rank s)
    {s : σ} (start : I s) : ∃ s', Alone step own s s' ∧ I s' ∧ Stuck step own s' := by
  induction bound : rank s using Nat.strongRecOn generalizing s with
  | ind n ih =>
    by_cases stuck : Stuck step own s
    · exact ⟨s, .refl s, start, stuck⟩
    · obtain ⟨e, m, mine, taken, kept, less⟩ := lower s start stuck
      obtain ⟨s', rest, last⟩ := ih (rank m) (bound ▸ less) kept rfl
      exact ⟨s', rest.head mine taken, last⟩

end

/-! ## The rank of many parts -/

section
variable {α : Type} (rank : α → Nat)

/-- The sum of the ranks. -/
def total : List α → Nat
  | [] => 0
  | x :: xs => rank x + total xs

@[simp] theorem total_append (xs ys : List α) : total rank (xs ++ ys) = total rank xs + total rank ys := by
  induction xs with
  | nil => simp [total]
  | cons x xs ih =>
    simp only [List.cons_append, total]
    omega

/-- One part's rank falls, and with it the sum. -/
theorem total_set_lt {xs : List α} {i : Nat} {x y : α} (here : xs[i]? = some x) (less : rank y < rank x) :
    total rank (xs.set i y) < total rank xs := by
  induction xs generalizing i with
  | nil => cases here
  | cons z xs ih =>
    cases i with
    | zero =>
      cases here
      simp only [List.set_cons_zero, total]
      omega
    | succ i =>
      have rest := ih (show xs[i]? = some x from here)
      simp only [List.set_cons_succ, total]
      omega

end

end Runs
