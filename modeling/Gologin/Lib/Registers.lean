import Mathlib.Data.List.Induction

/-!
# Registers that the first write wins

A register is empty at first. An event may clear it, and an event may set it, which has no
effect while it is not empty. What the register holds is told from the history alone: it was
set by the first event that sets it after the last that clears it.
-/

namespace Registers
set_option autoImplicit false

section
variable {ε β : Type} (sets : ε → Option β) (clears : ε → Bool)

/-- What an event makes of the register. -/
def hold (v : Option β) (e : ε) : Option β := if clears e then none else v.or (sets e)

/-- What the register holds after a history. -/
def value (es : List ε) : Option β := es.foldl (hold sets clears) none

/-- The events that would set or clear the register. -/
def touching (es : List ε) : List ε := es.filter fun e => clears e || (sets e).isSome

/-- The last event that would set or clear the register sets it. -/
def LastSets (es : List ε) : Prop := ∃ e, (touching sets clears es).getLast? = some e ∧ clears e = false

/-- `b` is what the first event sets that sets the register after the last that clears it. -/
def FirstSet (es : List ε) (b : β) : Prop :=
  ∃ before e after, es = before ++ e :: after ∧ clears e = false ∧ sets e = some b ∧
    ¬ LastSets sets clears before ∧ ∀ x ∈ after, clears x = false

variable {sets clears}

theorem value_concat (es : List ε) (e : ε) :
    value sets clears (es ++ [e]) = hold sets clears (value sets clears es) e := by
  rw [value, value, List.foldl_append, List.foldl_cons, List.foldl_nil]

theorem lastSets_concat (es : List ε) (e : ε) :
    LastSets sets clears (es ++ [e]) ↔
      clears e = false ∧ ((sets e).isSome = true ∨ LastSets sets clears es) := by
  unfold LastSets touching
  rw [List.filter_append]
  by_cases clear : clears e = true
  · simp [clear]
  · cases set : (sets e).isSome with
    | true => simp [clear, set]
    | false => simp [clear, set]

/-- **Whether a register is full.** -/
theorem value_isSome (es : List ε) : (value sets clears es).isSome = true ↔ LastSets sets clears es := by
  induction es using List.reverseRecOn with
  | nil => simp [value, LastSets, touching]
  | append_singleton es e ih =>
    rw [value_concat, lastSets_concat, hold, ← ih]
    split
    · rename_i clear
      simp [clear]
    · rename_i clear
      simp [clear, Or.comm]

/-- **What it holds.** -/
theorem value_iff (es : List ε) (b : β) : value sets clears es = some b ↔ FirstSet sets clears es b := by
  induction es using List.reverseRecOn with
  | nil =>
    constructor
    · nofun
    · rintro ⟨before, e, after, split, _⟩
      exact absurd split.symm (by simp)
  | append_singleton es e ih =>
    rw [value_concat, hold]
    constructor
    · intro holds
      split at holds
      · cases holds
      · rename_i clear
        have keeps : clears e = false := Bool.eq_false_iff.2 clear
        cases earlier : value sets clears es with
        | some b' =>
          rw [earlier, Option.some_or, Option.some.injEq] at holds
          subst holds
          obtain ⟨before, x, after, rfl, opens, set, last, none⟩ := ih.1 earlier
          refine ⟨before, x, after ++ [e], by simp, opens, set, last, fun y member => ?_⟩
          rcases List.mem_append.1 member with old | new
          · exact none y old
          · exact List.mem_singleton.1 new ▸ keeps
        | none =>
          rw [earlier, Option.none_or] at holds
          refine ⟨es, e, [], rfl, keeps, holds, ?_, nofun⟩
          rw [← value_isSome, earlier]
          nofun
    · rintro ⟨before, x, after, whole, opens, set, last, none⟩
      rcases List.eq_nil_or_concat after with rfl | ⟨after', y, rfl⟩
      · obtain ⟨rfl, same⟩ := List.append_inj' whole rfl
        obtain rfl : e = x := List.singleton_inj.1 same
        have empty : value sets clears es = .none := by
          rw [← Option.not_isSome_iff_eq_none, value_isSome]
          exact last
        rw [empty, opens, set]
        rfl
      · have shape : before ++ x :: after'.concat y = (before ++ x :: after') ++ [y] := by simp
        rw [shape] at whole
        obtain ⟨rfl, same⟩ := List.append_inj' whole rfl
        obtain rfl : e = y := List.singleton_inj.1 same
        have earlier := ih.2 ⟨before, x, after', rfl, opens, set, last, fun z member => none z (by simp [member])⟩
        rw [earlier, none e (by simp)]
        rfl

end

end Registers
