import Mathlib.Data.List.Basic

/-!
# Thread objects

An object that stands for a running thread, or for none. Three uses of it are errors: to
assign a new thread over one that was not joined, to join none, and to destroy the object
before its thread was joined. An operation that errs gives `none`.
-/

namespace Threads
set_option autoImplicit false

/-- A thread object. -/
structure Handle where
  joinable : Bool
  deriving DecidableEq, Repr

namespace Handle

/-- An object that stands for no thread. -/
def empty : Handle := ⟨false⟩

/-- The object gets a new thread. -/
def assign (t : Handle) : Option Handle := if t.joinable then none else some ⟨true⟩

def join (t : Handle) : Option Handle := if t.joinable then some empty else none

def destroy (t : Handle) : Option Unit := if t.joinable then none else some ()

variable {t : Handle}

theorem assign_eq (free : t.joinable = false) : t.assign = some ⟨true⟩ := by
  rw [assign, free]
  rfl

theorem join_eq (joinable : t.joinable = true) : t.join = some empty := by
  rw [join, joinable]
  rfl

theorem destroy_eq (free : t.joinable = false) : t.destroy = some () := by
  rw [destroy, free]
  rfl

end Handle

/-! ## Many objects -/

/-- All of them joined, in order. -/
def joinAll (ts : List Handle) : Option (List Handle) := ts.mapM Handle.join

/-- All of them destroyed, in order. -/
def destroyAll (ts : List Handle) : Option (List Unit) := ts.mapM Handle.destroy

variable {ts : List Handle}

theorem joinAll_eq (joinable : ∀ t ∈ ts, t.joinable = true) : joinAll ts = some (ts.map fun _ => Handle.empty) := by
  unfold joinAll
  induction ts with
  | nil => rfl
  | cons t ts ih =>
    rw [List.mapM_cons, Handle.join_eq (joinable t (by simp)), ih fun t member => joinable t (by simp [member])]
    rfl

theorem destroyAll_eq (free : ∀ t ∈ ts, t.joinable = false) : (destroyAll ts).isSome := by
  unfold destroyAll
  induction ts with
  | nil => rfl
  | cons t ts ih =>
    obtain ⟨us, rest⟩ := Option.isSome_iff_exists.1 (ih fun t member => free t (by simp [member]))
    rw [List.mapM_cons, Handle.destroy_eq (free t (by simp)), rest]
    rfl

end Threads
