import Mathlib.Data.List.Basic
import Mathlib.Algebra.Group.Nat.Defs

/-!
# Strings with a size type

A string of the standard library of C++: positions and counts are words of `w` bits, the
word of all ones stands for no position, and `substr` throws on a position behind the end and
cuts a count that reaches beyond it. `Order` is the order in which two arguments of a call
are evaluated, which the language leaves open.
-/

/-- A string whose length is a word. -/
structure StdString (α : Type) (w : Nat) where
  chars : List α
  fits : chars.length < 2 ^ w

namespace StdString
set_option autoImplicit false

/-- Which of two arguments is evaluated first. -/
inductive Order where
  | left
  | right
  deriving DecidableEq, Repr

/-- Two arguments that read and change what is around them. -/
def Order.eval {σ β γ : Type} (order : Order) (f : σ → β × σ) (g : σ → γ × σ) (s : σ) : (β × γ) × σ :=
  match order with
  | .left =>
    let (b, s) := f s
    let (c, s) := g s
    ((b, c), s)
  | .right =>
    let (c, s) := g s
    let (b, s) := f s
    ((b, c), s)

section
variable {α : Type} {w : Nat}

def empty : StdString α w := ⟨[], Nat.two_pow_pos w⟩

def npos : BitVec w := BitVec.allOnes w

def size (s : StdString α w) : BitVec w := BitVec.ofNat w s.chars.length

/-- The position of the first `c`. -/
def find [DecidableEq α] (s : StdString α w) (c : α) : BitVec w :=
  if c ∈ s.chars then BitVec.ofNat w (s.chars.idxOf c) else npos

theorem part_fits (s : StdString α w) (pos count : Nat) : ((s.chars.drop pos).take count).length < 2 ^ w := by
  have fits := s.fits
  rw [List.length_take, List.length_drop]
  omega

/-- The characters from `pos` on, at most `count` of them; `none` is an exception. -/
def substr (s : StdString α w) (pos count : BitVec w) : Option (StdString α w) :=
  if pos.toNat ≤ s.size.toNat then some ⟨(s.chars.drop pos.toNat).take count.toNat, s.part_fits _ _⟩ else none

variable {s : StdString α w} {a b : List α} {c : α} {pos count : BitVec w}

theorem toNat_size (s : StdString α w) : s.size.toNat = s.chars.length := by
  rw [size, BitVec.toNat_ofNat, Nat.mod_eq_of_lt s.fits]

/-- A position that does not wrap. -/
theorem toNat_succ (fits : pos.toNat + 1 < 2 ^ w) : (pos + 1).toNat = pos.toNat + 1 := by
  have one : (1 : BitVec w).toNat = 1 := by
    simp only [BitVec.ofNat_eq_ofNat, BitVec.toNat_ofNat]
    exact Nat.mod_eq_of_lt (by omega)
  rw [BitVec.toNat_add, one, Nat.mod_eq_of_lt fits]

section
variable [DecidableEq α]

/-- The position of the first `c` is that of the part before it. -/
theorem toNat_find (chars : s.chars = a ++ c :: b) (first : c ∉ a) : (s.find c).toNat = a.length := by
  have fits := s.fits
  rw [chars, List.length_append, List.length_cons] at fits
  have index : s.chars.idxOf c = a.length := by
    rw [chars, List.idxOf_append_of_notMem first, List.idxOf_cons_self, Nat.add_zero]
  rw [find, if_pos (by simp [chars]), index, BitVec.toNat_ofNat, Nat.mod_eq_of_lt (by omega)]

theorem find_of_not_mem (none : c ∉ s.chars) : s.find c = npos := if_neg none

/-- A position in the string is not `npos`. -/
theorem find_ne_npos (chars : s.chars = a ++ c :: b) (first : c ∉ a) : s.find c ≠ npos := by
  intro none
  have fits := s.fits
  have there := toNat_find chars first
  rw [none, npos, BitVec.toNat_allOnes] at there
  rw [chars, List.length_append, List.length_cons] at fits
  omega

end

/-- `substr` at a position in the string, or at its end. -/
theorem substr_eq (inside : pos.toNat ≤ s.chars.length) :
    ∃ part, s.substr pos count = some part ∧ part.chars = (s.chars.drop pos.toNat).take count.toNat := by
  unfold substr
  rw [if_pos (by rw [toNat_size]; exact inside)]
  exact ⟨_, rfl, rfl⟩

/-- The part before a position. -/
theorem substr_before (chars : s.chars = a ++ b) (here : pos.toNat = a.length) :
    ∃ part, s.substr 0 pos = some part ∧ part.chars = a := by
  obtain ⟨part, cut, same⟩ := @substr_eq α w s 0 pos (by simp)
  refine ⟨part, cut, ?_⟩
  have start : (0 : BitVec w).toNat = 0 := by simp
  rw [same, chars, here, start, List.drop_zero, List.take_left]

/-- The part from a position on, with a count that reaches the end or goes beyond it. -/
theorem substr_from (chars : s.chars = a ++ b) (here : pos.toNat = a.length) (enough : b.length ≤ count.toNat) :
    ∃ part, s.substr pos count = some part ∧ part.chars = b := by
  obtain ⟨part, cut, same⟩ := @substr_eq α w s pos count (by rw [chars, here, List.length_append]; omega)
  refine ⟨part, cut, ?_⟩
  rw [same, chars, here, List.drop_left, List.take_of_length_le enough]

end

end StdString
