import Mathlib.Data.List.Basic

/-!
# A stream handed over in segments

A transport keeps the items of a stream in order and decides how many of them each read
returns: at least one, and at most as many as the reader asked for. `Cuts` is that
decision, read by read; a read on an empty stream does not return.
-/

namespace Segments
set_option autoImplicit false

/-- How many items the `k`-th read returns at most. -/
structure Cuts where
  limit : Nat → Nat
  pos : ∀ k, 1 ≤ limit k

/-- What is still to be read, and the number of reads made. -/
structure Wire (α : Type) where
  stream : List α
  reads : Nat

section
variable {α : Type}

/-- One read of at most `len` items, `none` when it blocks. -/
def read (cuts : Cuts) (len : Nat) (w : Wire α) : Option (List α × Wire α) :=
  if w.stream = [] then none
  else
    let n := min (cuts.limit w.reads) len
    some (w.stream.take n, ⟨w.stream.drop n, w.reads + 1⟩)

/-- A read of a stream that is long enough returns as many items as are asked for and as
the transport hands over. -/
theorem read_append {cuts : Cuts} {xs rest : List α} {k len : Nat} (item : xs ≠ [])
    (enough : min (cuts.limit k) len ≤ xs.length) :
    read cuts len ⟨xs ++ rest, k⟩ =
      some (xs.take (min (cuts.limit k) len), ⟨xs.drop (min (cuts.limit k) len) ++ rest, k + 1⟩) := by
  have nonempty : xs ++ rest ≠ [] := by simp [item]
  simp only [read, nonempty, if_false]
  rw [List.take_append_of_le_length enough, List.drop_append_of_le_length enough]

/-- A read that is not cut returns exactly the items asked for. -/
theorem read_full {cuts : Cuts} {xs rest : List α} {k : Nat} (item : xs ≠ [])
    (whole : xs.length ≤ cuts.limit k) :
    read cuts xs.length ⟨xs ++ rest, k⟩ = some (xs, ⟨rest, k + 1⟩) := by
  have all : min (cuts.limit k) xs.length = xs.length := Nat.min_eq_right whole
  rw [read_append item (Nat.le_of_eq all), all, List.take_length, List.drop_length, List.nil_append]

/-- A read that is cut returns as many items as the transport hands over. -/
theorem read_cut {cuts : Cuts} {xs rest : List α} {k len : Nat} (cut : cuts.limit k ≤ len)
    (enough : cuts.limit k ≤ xs.length) :
    read cuts len ⟨xs ++ rest, k⟩ =
      some (xs.take (cuts.limit k), ⟨xs.drop (cuts.limit k) ++ rest, k + 1⟩) := by
  have item : xs ≠ [] := List.ne_nil_of_length_pos (Nat.lt_of_lt_of_le (cuts.pos k) enough)
  have some_of : min (cuts.limit k) len = cuts.limit k := Nat.min_eq_left cut
  rw [read_append item (by rw [some_of]; exact enough), some_of]

end

end Segments
