import Mathlib.Data.List.Basic

/-!
# Well-formed UTF-8

The well-formed byte sequences of the Unicode standard (its table of well-formed UTF-8
byte sequences): no overlong forms, no surrogates, nothing above `U+10FFFF`.
-/

namespace Utf8
set_option autoImplicit false

/-- `lo ≤ b ≤ hi`. -/
def inRange (lo hi b : UInt8) : Bool := lo ≤ b && b ≤ hi

/-- A continuation byte. -/
def cont (b : UInt8) : Bool := inRange 0x80 0xBF b

/-- The ranges the second byte of a three-byte form may lie in, by its first byte. -/
def second3 (b c : UInt8) : Bool :=
  if b = 0xE0 then inRange 0xA0 0xBF c
  else if b = 0xED then inRange 0x80 0x9F c
  else cont c

/-- The same for a four-byte form. -/
def second4 (b c : UInt8) : Bool :=
  if b = 0xF0 then inRange 0x90 0xBF c
  else if b = 0xF4 then inRange 0x80 0x8F c
  else cont c

/-- Well-formed UTF-8. -/
def valid : List UInt8 → Bool
  | [] => true
  | b :: rest =>
    if b < 0x80 then valid rest
    else if inRange 0xC2 0xDF b then
      match rest with
      | c :: rest => cont c && valid rest
      | [] => false
    else if inRange 0xE0 0xEF b then
      match rest with
      | c :: d :: rest => second3 b c && cont d && valid rest
      | _ => false
    else if inRange 0xF0 0xF4 b then
      match rest with
      | c :: d :: e :: rest => second4 b c && cont d && cont e && valid rest
      | _ => false
    else false

theorem valid_cons_ascii {b : UInt8} {rest : List UInt8} (ascii : b < 0x80) :
    valid (b :: rest) = valid rest := by
  rw [valid.eq_def]
  simp only [ascii, if_true]

/-- A text of ASCII bytes is well formed. -/
theorem valid_of_ascii {bs : List UInt8} (ascii : ∀ b ∈ bs, b < 0x80) : valid bs = true := by
  induction bs with
  | nil => rfl
  | cons b bs ih =>
    rw [valid_cons_ascii (ascii b (by simp))]
    exact ih fun c hc => ascii c (by simp [hc])

/-- A single byte is well formed exactly when it is ASCII. -/
theorem valid_singleton {b : UInt8} : valid [b] = true ↔ b < 0x80 := by
  constructor
  · intro h
    by_contra high
    rw [valid.eq_def] at h
    simp only [high, if_false] at h
    split at h
    · cases h
    · split at h
      · cases h
      · split at h <;> cases h
  · intro ascii
    exact valid_of_ascii (by simpa using ascii)

/-- An ASCII byte is in no range of a later byte. -/
theorem inRange_ascii {lo hi b : UInt8} (high : 0x80 ≤ lo) (ascii : b < 0x80) : inRange lo hi b = false := by
  have below : ¬ lo ≤ b := UInt8.not_le.2 (UInt8.lt_of_lt_of_le ascii high)
  simp [inRange, below]

theorem cont_ascii {b : UInt8} (ascii : b < 0x80) : cont b = false := inRange_ascii (by decide) ascii

theorem second3_ascii (a : UInt8) {b : UInt8} (ascii : b < 0x80) : second3 a b = false := by
  unfold second3 cont
  split
  · exact inRange_ascii (by decide) ascii
  split
  · exact inRange_ascii (by decide) ascii
  · exact inRange_ascii (by decide) ascii

theorem second4_ascii (a : UInt8) {b : UInt8} (ascii : b < 0x80) : second4 a b = false := by
  unfold second4 cont
  split
  · exact inRange_ascii (by decide) ascii
  split
  · exact inRange_ascii (by decide) ascii
  · exact inRange_ascii (by decide) ascii

/-- No character ends with an ASCII byte but that byte, so a text may be cut around it. -/
theorem valid_append_ascii {as bs : List UInt8} {b : UInt8} (ascii : b < 0x80) :
    valid (as ++ b :: bs) = (valid as && valid bs) := by
  induction as using valid.induct with
  | case1 =>
    rw [List.nil_append, valid_cons_ascii ascii]
    rfl
  | case2 a rest low ih => rw [List.cons_append, valid_cons_ascii low, valid_cons_ascii low, ih]
  | case3 a high two c rest ih =>
    rw [List.cons_append, List.cons_append, valid.eq_def, valid.eq_def (a :: c :: rest)]
    simp [high, two, ih, Bool.and_assoc]
  | case4 a high two =>
    rw [List.cons_append, valid.eq_def, valid.eq_def [a]]
    simp [high, two, cont_ascii ascii]
  | case5 a high two three c d rest ih =>
    rw [List.cons_append, List.cons_append, List.cons_append, valid.eq_def, valid.eq_def (a :: c :: d :: rest)]
    simp [high, two, three, ih, Bool.and_assoc]
  | case6 a rest high two three short =>
    rw [List.cons_append, valid.eq_def, valid.eq_def (a :: rest)]
    simp only [high, two, three, if_false, if_true]
    rcases rest with _ | ⟨c, _ | ⟨d, rest⟩⟩
    · cases bs <;> simp [second3_ascii a ascii]
    · simp [cont_ascii ascii]
    · exact (short c d rest rfl).elim
  | case7 a high two three four c d e rest ih =>
    rw [List.cons_append, List.cons_append, List.cons_append, List.cons_append, valid.eq_def,
      valid.eq_def (a :: c :: d :: e :: rest)]
    simp [high, two, three, four, ih, Bool.and_assoc]
  | case8 a rest high two three four short =>
    rw [List.cons_append, valid.eq_def, valid.eq_def (a :: rest)]
    simp only [high, two, three, four, if_false, if_true]
    rcases rest with _ | ⟨c, _ | ⟨d, _ | ⟨e, rest⟩⟩⟩
    · rcases bs with _ | ⟨x, _ | ⟨y, bs⟩⟩
      · rfl
      · rfl
      · simp [second4_ascii a ascii]
    · cases bs <;> simp [cont_ascii ascii]
    · simp [cont_ascii ascii]
    · exact (short c d e rest rfl).elim
  | case9 a rest high two three four =>
    rw [List.cons_append, valid.eq_def, valid.eq_def (a :: rest)]
    simp [high, two, three, four]

end Utf8
