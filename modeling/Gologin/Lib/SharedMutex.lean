import Mathlib.Algebra.BigOperators.Group.Finset.Basic
import Mathlib.Algebra.Order.BigOperators.Group.Finset
import Mathlib.Data.Finset.Range

/-!
# Threads that share mutexes

A mutex that is held by one thread alone, or by several that share it, and guards a part of
the state. Only a thread that holds it alone changes that part, so what a thread has learned of
it in the block that the mutex guards stays true as long as it holds the mutex. `Exclusive.frame`
is the rule: of each thread it is enough to show that its own steps keep what it has learned.
-/

namespace SharedMutex
set_option autoImplicit false

/-- How a thread holds a mutex. -/
inductive Mode where
  | shared
  | exclusive
  deriving DecidableEq, Repr

section
variable {π ι σ : Type} (mode : π → ι → Option Mode) (place : Nat → π)

/-- A mutex that a thread holds alone is held by no other. -/
def Exclusive : Prop :=
  ∀ i c d, mode (place c) i = some .exclusive → mode (place d) i ≠ none → c = d

/-- Mutex `i` can be locked. -/
def Free (i : ι) : Mode → Prop
  | .shared => ∀ c, mode (place c) i ≠ some .exclusive
  | .exclusive => ∀ c, mode (place c) i = none

variable {mode place} {place' : Nat → π} {c : Nat}

theorem exclusive_init (none_ : ∀ c i, mode (place c) i = none) : Exclusive mode place := by
  intro i c d excl
  rw [none_ c i] at excl
  cases excl

/-- **The lock rule.** A step of one thread that locks only what is free keeps the others out. -/
theorem Exclusive.step (h : Exclusive mode place) (others : ∀ d, d ≠ c → place' d = place d)
    (own : ∀ i m, mode (place' c) i = some m → mode (place c) i = some m ∨ Free mode place i m) :
    Exclusive mode place' := by
  intro i a b excl held
  by_cases first : a = c
  · subst first
    by_cases second : b = a
    · exact second.symm
    · rw [others b second] at held
      rcases own i .exclusive excl with same | free
      · exact h i a b same held
      · exact absurd (free b) held
  · rw [others a first] at excl
    by_cases second : b = c
    · subst second
      obtain ⟨m, holds⟩ := Option.ne_none_iff_exists'.1 held
      rcases own i m holds with same | free
      · exact h i a b excl (by rw [same]; exact Option.some_ne_none _)
      · cases m with
        | shared => exact absurd excl (free a)
        | exclusive => exact absurd (excl.symm.trans (free a)) (Option.some_ne_none _)
    · rw [others b second] at held
      exact h i a b excl held

variable {same : ι → σ → σ → Prop} {Q : σ → π → Prop} {s s' : σ}

/-- **The frame rule.** A step of thread `c` that changes what mutex `i` guards only where `c` holds
it alone keeps what the others have learned. -/
theorem Exclusive.frame (h : Exclusive mode place)
    (learned : ∀ p, (∀ i, mode p i ≠ none → same i s s') → Q s p → Q s' p)
    (guarded : ∀ i, same i s s' ∨ mode (place c) i = some .exclusive) (others : ∀ d, d ≠ c → place' d = place d)
    (before : ∀ d, Q s (place d)) (own : Q s' (place' c)) (d : Nat) : Q s' (place' d) := by
  by_cases mine : d = c
  · exact mine ▸ own
  · rw [others d mine]
    refine learned _ (fun i held => ?_) (before d)
    exact (guarded i).resolve_right fun excl => mine (h i c d excl held).symm

/-- What is left to do of all threads falls with what is left of one, when the others' stays. -/
theorem sum_lt_of_step {rank rank' : Nat → Nat} {n : Nat} (inside : c < n) (less : rank' c < rank c)
    (others : ∀ d, d ≠ c → rank' d = rank d) :
    ∑ d ∈ Finset.range n, rank' d < ∑ d ∈ Finset.range n, rank d := by
  refine Finset.sum_lt_sum (fun d _ => ?_) ⟨c, Finset.mem_range.2 inside, less⟩
  by_cases mine : d = c
  · subst mine
    exact less.le
  · exact (others d mine).le

end

end SharedMutex
