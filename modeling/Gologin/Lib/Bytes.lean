import Mathlib.Algebra.Group.Nat.Defs
import Mathlib.Data.List.Basic

/-!
# Bytes in memory

Little-endian words of a fixed width and stores into a buffer, as functions on byte
lists.
-/

namespace Bytes
set_option autoImplicit false

/-- The `width` low bytes of `n`, lowest first. -/
def le : Nat → Nat → List UInt8
  | 0, _ => []
  | width + 1, n => UInt8.ofNat n :: le width (n / 256)

/-- The number whose little-endian bytes are given. -/
def leVal : List UInt8 → Nat
  | [] => 0
  | b :: bs => b.toNat + 256 * leVal bs

@[simp] theorem le_length (width n : Nat) : (le width n).length = width := by
  induction width generalizing n with
  | zero => rfl
  | succ width ih => simp only [le, List.length_cons, ih]

/-- A word that fits its width is read back. -/
theorem leVal_le {width n : Nat} (fits : n < 256 ^ width) : leVal (le width n) = n := by
  induction width generalizing n with
  | zero => simp only [Nat.pow_zero] at fits; simp only [le, leVal]; omega
  | succ width ih =>
    have high : n / 256 < 256 ^ width := by
      rw [Nat.pow_succ] at fits
      exact Nat.div_lt_of_lt_mul (by rw [Nat.mul_comm]; exact fits)
    simp only [le, leVal, ih high, UInt8.toNat_ofNat']
    omega

theorem leVal_lt (bs : List UInt8) : leVal bs < 256 ^ bs.length := by
  induction bs with
  | nil => simp [leVal]
  | cons b bs ih =>
    have := b.toNat_lt
    rw [List.length_cons, Nat.pow_succ]
    simp only [leVal]
    omega

theorem leVal_append (as bs : List UInt8) :
    leVal (as ++ bs) = leVal as + 256 ^ as.length * leVal bs := by
  induction as with
  | nil => simp [leVal]
  | cons a as ih =>
    simp only [List.cons_append, leVal, ih, List.length_cons, Nat.pow_succ]
    rw [Nat.mul_add, ← Nat.add_assoc, Nat.mul_comm (256 ^ as.length) 256, Nat.mul_assoc]

section
variable {α : Type}

/-- Store `xs` into `buf` from position `pos` on. -/
def poke (buf : List α) (pos : Nat) (xs : List α) : List α :=
  buf.take pos ++ xs ++ buf.drop (pos + xs.length)

/-- A store replaces exactly the cells it covers. -/
theorem poke_append {as bs cs xs : List α} (width : xs.length = bs.length) :
    poke (as ++ bs ++ cs) as.length xs = as ++ xs ++ cs := by
  unfold poke
  rw [List.append_assoc as bs cs, List.take_left, width, ← List.length_append, ← List.append_assoc,
    List.drop_left]

/-- A store just behind the known head of a buffer whose tail is constant. -/
theorem poke_replicate (as xs : List α) (z : α) {n : Nat} (room : xs.length ≤ n) :
    poke (as ++ List.replicate n z) as.length xs =
      as ++ xs ++ List.replicate (n - xs.length) z := by
  have split : List.replicate n z =
      List.replicate xs.length z ++ List.replicate (n - xs.length) z := by
    rw [← List.replicate_add]
    congr 1
    omega
  rw [split, ← List.append_assoc, poke_append (by rw [List.length_replicate])]

end

end Bytes
