import Gologin.Lib.Progress
import Mathlib.Logic.Hydra
import Mathlib.Order.WellFounded

/-!
# Coming to rest

A part of a system whose own steps each descend in a well-founded order cannot go on for ever:
in an infinite run the others step again and again, and the part, left alone, gets stuck. For a
system of many threads the order is one on the multiset of where they stand, and a thread that
moves on lowers it. Steps that change nothing can go on for ever: they are added to a system
apart from its own.
-/

namespace Runs
set_option autoImplicit false

section
variable {σ ε δ : Type} (step : σ → ε → Option σ) (own : ε → Prop)

/-- The part's own steps descend, where `I` holds, and every step keeps `I`. -/
structure Descends (I : σ → Prop) (r : δ → δ → Prop) (measure : σ → δ) : Prop where
  keep : ∀ s e s', I s → step s e = some s' → I s'
  lower : ∀ s e s', I s → own e → step s e = some s' → r (measure s') (measure s)

/-- A run without end. -/
def Forever (ss : Nat → σ) (es : Nat → ε) : Prop := ∀ n, step (ss n) (es n) = some (ss (n + 1))

/-- Left alone the part comes to an end, in whatever order its steps are taken, and wherever it
gets stuck `P` holds. -/
structure Settles (P : σ → Prop) (s : σ) : Prop where
  ends : ∀ ss es, ss 0 = s → Forever step ss es → ¬ ∀ n, own (es n)
  stops : ∃ s', Alone step own s s' ∧ Stuck step own s'
  there : ∀ s', Alone step own s s' → Stuck step own s' → P s'

variable {step own} {I : σ → Prop} {r : δ → δ → Prop} {measure : σ → δ}

/-- The invariant rule for a run without end. -/
theorem Forever.invariant {ss : Nat → σ} {es : Nat → ε} (run : Forever step ss es)
    (keep : ∀ s e s', I s → step s e = some s' → I s') {n : Nat} (start : I (ss n)) (m : Nat) (later : n ≤ m) :
    I (ss m) := by
  induction m, later using Nat.le_induction with
  | base => exact start
  | succ m later ih => exact keep _ _ _ ih (run m)

/-- **In a run without end, the others step again and again.** -/
theorem Descends.others (d : Descends step own I r measure) (wf : WellFounded r) {ss : Nat → σ} {es : Nat → ε}
    (start : I (ss 0)) (run : Forever step ss es) (n : Nat) : ∃ m, n ≤ m ∧ ¬ own (es m) := by
  have kept : ∀ m, I (ss m) := fun m => run.invariant d.keep start m (Nat.zero_le m)
  by_contra none
  push Not at none
  obtain ⟨k, up⟩ := @WellFounded.not_rel_apply_succ δ r ⟨wf⟩ fun k => measure (ss (n + k))
  have later := Nat.le_add_right n k
  exact up (d.lower _ _ _ (kept (n + k)) (none (n + k) later) (run (n + k)))

theorem Descends.stuck (d : Descends step own I r measure) (wf : WellFounded r) {s : σ} (start : I s) :
    ∃ s', Alone step own s s' ∧ Stuck step own s' := by
  induction at_ : measure s using wf.induction generalizing s with
  | _ x ih =>
    by_cases stuck : Stuck step own s
    · exact ⟨s, .refl s, stuck⟩
    · obtain ⟨e, mine, enabled⟩ := not_stuck.1 stuck
      obtain ⟨m, taken⟩ := Option.isSome_iff_exists.1 enabled
      obtain ⟨s', rest, last⟩ :=
        ih (measure m) (at_ ▸ d.lower s e m start mine taken) (d.keep s e m start taken) rfl
      exact ⟨s', rest.head mine taken, last⟩

/-- **Left alone, the part settles**, in any order of its steps. -/
theorem Descends.settles (d : Descends step own I r measure) (wf : WellFounded r) {P : σ → Prop} {s : σ} (start : I s)
    (rest : ∀ s', Alone step own s s' → Stuck step own s' → P s') : Settles step own P s where
  ends := by
    rintro ss es rfl run mine
    obtain ⟨m, _, other⟩ := d.others wf start run 0
    exact other (mine m)
  stops := d.stuck wf start
  there := rest

end

/-! ## Idle steps -/

section
variable {σ ε ι δ : Type} (step : σ → ε → Option σ) (idle : σ → ι → Prop) [∀ s i, Decidable (idle s i)]

/-- The system with steps that change nothing, which can be taken where `idle` allows it. -/
def withIdle (s : σ) : ε ⊕ ι → Option σ
  | .inl e => step s e
  | .inr i => if idle s i then some s else none

variable {step idle} {own : ε → Prop} {I : σ → Prop} {r : δ → δ → Prop} {measure : σ → δ} {s s' : σ}

/-- What a step with idle steps does. -/
theorem withIdle_cases {x : ε ⊕ ι} (taken : withIdle step idle s x = some s') :
    (∃ e, x = .inl e ∧ step s e = some s') ∨ ∃ i, x = .inr i ∧ idle s i ∧ s' = s := by
  cases x with
  | inl e => exact Or.inl ⟨e, rfl, taken⟩
  | inr i =>
    simp only [withIdle] at taken
    split at taken
    · rename_i here
      exact Or.inr ⟨i, rfl, here, (Option.some.inj taken).symm⟩
    · cases taken

/-- **In a run without end with idle steps**, the others step again and again, or from some point
on there is nothing but idle steps. -/
theorem Descends.idles (d : Descends step own I r measure) (wf : WellFounded r) {ss : Nat → σ} {es : Nat → ε ⊕ ι}
    (start : I (ss 0)) (run : Forever (withIdle step idle) ss es) :
    (∀ n, ∃ m e, n ≤ m ∧ es m = .inl e ∧ ¬ own e) ∨
      ∃ n, ∀ m, n ≤ m → ss m = ss n ∧ ∃ i, es m = .inr i ∧ idle (ss n) i := by
  have keep : ∀ s x s', I s → withIdle step idle s x = some s' → I s' := by
    intro s x s' h next
    rcases withIdle_cases next with ⟨e, _, taken⟩ | ⟨i, _, _, still⟩
    · exact d.keep s e s' h taken
    · rw [still]
      exact h
  have kept : ∀ m, I (ss m) := fun m => run.invariant keep start m (Nat.zero_le m)
  by_cases others : ∀ n, ∃ m e, n ≤ m ∧ es m = .inl e ∧ ¬ own e
  · exact Or.inl others
  · right
    push Not at others
    obtain ⟨n, mine⟩ := others
    -- where the measure is least, none of the part's own steps is taken any more
    obtain ⟨_, ⟨k, later, rfl⟩, least⟩ :=
      wf.has_min {x | ∃ m, n ≤ m ∧ measure (ss m) = x} ⟨_, n, Nat.le_refl n, rfl⟩
    have idles : ∀ m, k ≤ m → ss m = ss k → ss (m + 1) = ss k ∧ ∃ i, es m = .inr i ∧ idle (ss k) i := by
      intro m after same
      rcases withIdle_cases (run m) with ⟨e, at_, taken⟩ | ⟨i, at_, here, still⟩
      · have less := d.lower _ e _ (kept m) (mine m e (by omega) at_) taken
        rw [same] at less
        exact absurd less (least _ ⟨m + 1, by omega, rfl⟩)
      · exact ⟨still.trans same, i, at_, same ▸ here⟩
    have same : ∀ m, k ≤ m → ss m = ss k := by
      intro m after
      induction m, after using Nat.le_induction with
      | base => rfl
      | succ m after ih => exact (idles m after ih).1
    exact ⟨k, fun m after => ⟨same m after, (idles m after (same m after)).2⟩⟩

/-- A run, and idle steps for ever behind it. -/
theorem forever_idle {es : List ε} {i : ι} (run : exec step s es = some s') (here : idle s' i) :
    Forever (withIdle step idle) (fun n => (exec step s (es.take n)).getD s)
      (fun n => es[n]?.elim (.inr i) .inl) := by
  intro n
  by_cases inside : n < es.length
  · obtain ⟨m, m', before, taken, upTo⟩ := exec_take run inside
    simp only [before, upTo, List.getElem?_eq_getElem inside, Option.getD_some, Option.elim_some, withIdle]
    exact taken
  · have late : es.length ≤ n := Nat.le_of_not_lt inside
    simp only [List.take_of_length_le late, List.take_of_length_le (Nat.le_succ_of_le late), run,
      List.getElem?_eq_none late, Option.getD_some, Option.elim_none, withIdle, if_pos here]

end

/-! ## The order of many threads -/

section
variable {α : Type} {r : α → α → Prop}

/-- A thread that moves on lowers the multiset of the threads. -/
theorem cutExpand_set {xs : List α} {i : Nat} {x y : α} (here : xs[i]? = some x) (less : r y x) :
    Relation.CutExpand r (xs.set i y : Multiset α) (xs : Multiset α) := by
  induction xs generalizing i with
  | nil => cases here
  | cons z xs ih =>
    cases i with
    | zero =>
      cases here
      exact Relation.cutExpand_single_add less (xs : Multiset α)
    | succ i =>
      have rest := ih (show xs[i]? = some x from here)
      exact (Relation.cutExpand_add_left ({z} : Multiset α)).2 rest

end

end Runs
