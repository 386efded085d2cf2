import Gologin.Messages.Json
import Mathlib.Data.List.Sort
import Mathlib.Data.Nat.Digits.Lemmas

/-!
# A library that behaves as assumed

`compact` is `nlohmann::json` on the objects the messages make: `dump` writes the compact
text of an object, keys in order and control characters escaped, and `parse` reads such a
text back. It shows that what `Nlohmann` assumes can be had.
-/

namespace Gologin.Messages.Text
set_option autoImplicit false
open Tables

/-! ## Strings -/

/-- The letter of a two-character escape. -/
def letter (b : UInt8) : Option UInt8 :=
  if b = 34 then some 34
  else if b = 92 then some 92
  else if b = 8 then some 98
  else if b = 9 then some 116
  else if b = 10 then some 110
  else if b = 12 then some 102
  else if b = 13 then some 114
  else none

/-- The byte a two-character escape stands for. -/
def ofLetter (c : UInt8) : UInt8 :=
  if c = 98 then 8
  else if c = 116 then 9
  else if c = 110 then 10
  else if c = 102 then 12
  else if c = 114 then 13
  else c

def hexDigit (n : Nat) : UInt8 := UInt8.ofNat (if n < 10 then 48 + n else 87 + n)

def hexValue (c : UInt8) : Nat := if c.toNat < 58 then c.toNat - 48 else c.toNat - 87

/-- A byte inside a string. -/
def escape (b : UInt8) : List UInt8 :=
  match letter b with
  | some c => [92, c]
  | none =>
    if b.toNat < 32 then [92, 117, 48, 48, hexDigit (b.toNat / 16), hexDigit (b.toNat % 16)]
    else [b]

/-- A string behind its opening quote. -/
def stringText (s : Str) : List UInt8 := s.flatMap escape ++ [34]

/-- Read a string behind its opening quote. -/
def readString : List UInt8 → Option (Str × List UInt8)
  | [] => none
  | b :: rest =>
    if b = 34 then some ([], rest)
    else if b = 92 then
      match rest with
      | [] => none
      | c :: rest =>
        if c = 117 then
          match rest with
          | _ :: _ :: h :: l :: rest =>
            (readString rest).map fun (s, rest) =>
              (UInt8.ofNat (16 * hexValue h + hexValue l) :: s, rest)
          | _ => none
        else (readString rest).map fun (s, rest) => (ofLetter c :: s, rest)
    else (readString rest).map fun (s, rest) => (b :: s, rest)

theorem letter_some {b c : UInt8} (h : letter b = some c) : c ≠ 117 ∧ ofLetter c = b := by
  unfold letter at h
  repeat' split at h
  all_goals first
    | cases h; subst_vars; decide
    | cases h

theorem hex_control : ∀ n < 32, 16 * hexValue (hexDigit (n / 16)) + hexValue (hexDigit (n % 16)) = n := by
  decide

theorem readString_escape (b : UInt8) (t : List UInt8) :
    readString (escape b ++ t) = (readString t).map fun (s, rest) => (b :: s, rest) := by
  unfold escape
  cases known : letter b with
  | some c =>
    obtain ⟨plain, back⟩ := letter_some known
    rw [List.cons_append, List.cons_append, readString.eq_def]
    simp only [show ¬ ((92 : UInt8) = 34) by decide, if_false, if_true, plain, List.nil_append, back]
  | none =>
    simp only
    by_cases control : b.toNat < 32
    · rw [if_pos control]
      simp only [List.cons_append, List.nil_append]
      rw [readString.eq_def]
      simp only [show ¬ ((92 : UInt8) = 34) by decide, if_false, if_true, hex_control _ control,
        UInt8.ofNat_toNat]
    · have quote : b ≠ 34 := by rintro rfl; cases known
      have slash : b ≠ 92 := by rintro rfl; cases known
      rw [if_neg control, List.cons_append, readString.eq_def]
      simp only [quote, slash, if_false, List.nil_append]

theorem readString_text (s : Str) (rest : List UInt8) :
    readString (stringText s ++ rest) = some (s, rest) := by
  unfold stringText
  induction s with
  | nil =>
    rw [List.flatMap_nil, List.nil_append, List.cons_append, readString.eq_def]
    rfl
  | cons b s ih =>
    rw [List.flatMap_cons, List.append_assoc, List.append_assoc, readString_escape,
      ← List.append_assoc, ih]
    rfl

/-! ## Numbers -/

def isDigit (c : UInt8) : Bool := 48 ≤ c && c ≤ 57

/-- A number in decimal. -/
def decimal (n : Nat) : List UInt8 :=
  if n = 0 then [48] else (Nat.digits 10 n).reverse.map fun d => UInt8.ofNat (48 + d)

/-- Read a decimal number. -/
def readNat (bs : List UInt8) : Option (Nat × List UInt8) :=
  if bs.takeWhile isDigit = [] then none
  else some ((bs.takeWhile isDigit).foldl (fun n c => 10 * n + (c.toNat - 48)) 0, bs.dropWhile isDigit)

theorem digit_value : ∀ d < 10, isDigit (UInt8.ofNat (48 + d)) = true ∧
    (UInt8.ofNat (48 + d)).toNat - 48 = d := by
  decide

theorem decimal_digits (n : Nat) : ∀ c ∈ decimal n, isDigit c = true := by
  intro c member
  unfold decimal at member
  split at member
  · rw [List.mem_singleton.1 member]
    decide
  · obtain ⟨d, digit, rfl⟩ := List.mem_map.1 member
    exact (digit_value d (Nat.digits_lt_base (by decide) (List.mem_reverse.1 digit))).1

theorem decimal_ne_nil (n : Nat) : decimal n ≠ [] := by
  unfold decimal
  split
  · simp
  · rename_i pos
    rw [Ne, List.map_eq_nil_iff, List.reverse_eq_nil_iff]
    exact Nat.digits_ne_nil_iff_ne_zero.2 pos

theorem decimal_value (n : Nat) :
    (decimal n).foldl (fun n c => 10 * n + (c.toNat - 48)) 0 = n := by
  unfold decimal
  split
  · rename_i zero
    rw [zero]
    rfl
  · have digits : ∀ ds : List Nat, (∀ d ∈ ds, d < 10) →
        (ds.reverse.map fun d => UInt8.ofNat (48 + d)).foldl (fun n c => 10 * n + (c.toNat - 48)) 0 =
          Nat.ofDigits 10 ds := by
      intro ds small
      induction ds with
      | nil => rfl
      | cons d ds ih =>
        rw [List.reverse_cons, List.map_append, List.foldl_append,
          ih fun d hd => small d (by simp [hd]), Nat.ofDigits_cons]
        simp only [List.map_cons, List.map_nil, List.foldl_cons, List.foldl_nil,
          (digit_value d (small d (by simp))).2]
        omega
    rw [digits _ fun d hd => Nat.digits_lt_base (by decide) hd, Nat.ofDigits_digits]

/-- A number is read up to the first byte that is no digit. -/
theorem readNat_decimal (n : Nat) {c : UInt8} (stop : isDigit c = false) (rest : List UInt8) :
    readNat (decimal n ++ c :: rest) = some (n, c :: rest) := by
  have take : (decimal n ++ c :: rest).takeWhile isDigit = decimal n := by
    rw [List.takeWhile_append_of_pos (decimal_digits n), List.takeWhile_cons_of_neg (by simp [stop]),
      List.append_nil]
  have drop : (decimal n ++ c :: rest).dropWhile isDigit = c :: rest := by
    rw [List.dropWhile_append_of_pos (decimal_digits n), List.dropWhile_cons_of_neg (by simp [stop])]
  rw [readNat, take, drop, if_neg (decimal_ne_nil n), decimal_value]

/-! ## Objects -/

/-- A member's value; what the messages do not write is written as `null`. -/
def valueText : Value → List UInt8
  | .unsigned n => decimal n.toNat
  | .string s => 34 :: stringText s
  | _ => str "null"

/-- Read a value. -/
def readValue : List UInt8 → Option (Value × List UInt8)
  | [] => none
  | b :: bs =>
    if b = 34 then (readString bs).map fun (s, rest) => (.string s, rest)
    else
      (readNat (b :: bs)).bind fun (n, rest) =>
        if n < 2 ^ 64 then some (.unsigned (UInt64.ofNat n), rest) else none

/-- The members behind the opening brace, each with the comma or brace behind it. -/
def membersText : List (Σ _ : Str, Value) → List UInt8
  | [] => [125]
  | [⟨k, v⟩] => 34 :: stringText k ++ 58 :: valueText v ++ [125]
  | ⟨k, v⟩ :: ms => 34 :: stringText k ++ 58 :: valueText v ++ 44 :: membersText ms

/-- Read the members behind the opening brace, at most `fuel` of them. -/
def readMembers : Nat → List UInt8 → Option (List (Σ _ : Str, Value))
  | 0, _ => none
  | _ + 1, [125] => some []
  | fuel + 1, 34 :: bs =>
    (readString bs).bind fun (k, bs) =>
      match bs with
      | 58 :: bs =>
        (readValue bs).bind fun (v, bs) =>
          match bs with
          | [125] => some [⟨k, v⟩]
          | 44 :: bs => (readMembers fuel bs).map fun ms => ⟨k, v⟩ :: ms
          | _ => none
      | _ => none
  | _ + 1, _ => none

theorem decimal_cons (n : Nat) : ∃ c cs, decimal n = c :: cs ∧ c ≠ 34 := by
  obtain ⟨c, cs, same⟩ := List.exists_cons_of_ne_nil (decimal_ne_nil n)
  refine ⟨c, cs, same, ?_⟩
  rintro rfl
  exact absurd (decimal_digits n 34 (by rw [same]; simp)) (by decide)

theorem readValue_text {v : Value} (plain : (∃ n, v = .unsigned n) ∨ ∃ s, v = .string s) {c : UInt8}
    (stop : isDigit c = false) (rest : List UInt8) :
    readValue (valueText v ++ c :: rest) = some (v, c :: rest) := by
  rcases plain with ⟨n, rfl⟩ | ⟨s, rfl⟩
  · obtain ⟨d, ds, same, other⟩ := decimal_cons n.toNat
    have read := readNat_decimal n.toNat stop rest
    rw [same, List.cons_append] at read
    have fits : n.toNat < 2 ^ 64 := n.toNat_lt
    rw [valueText, same, List.cons_append, readValue, if_neg other, read, Option.bind_some]
    simp only [fits, if_true, UInt64.ofNat_toNat]
  · rw [valueText, List.cons_append, readValue, if_pos rfl, readString_text]
    rfl

theorem readMembers_text {ms : List (Σ _ : Str, Value)}
    (plain : ∀ m ∈ ms, (∃ n, m.2 = .unsigned n) ∨ ∃ s, m.2 = .string s) {fuel : Nat}
    (enough : ms.length < fuel) : readMembers fuel (membersText ms) = some ms := by
  induction ms generalizing fuel with
  | nil =>
    obtain ⟨fuel, rfl⟩ := Nat.exists_eq_add_of_le' enough
    rfl
  | cons m ms ih =>
    obtain ⟨k, v⟩ := m
    obtain ⟨fuel, rfl⟩ := Nat.exists_eq_add_of_le' (Nat.lt_of_le_of_lt (Nat.zero_le _) enough)
    have here := plain ⟨k, v⟩ (by simp)
    cases ms with
    | nil =>
      have value := readValue_text here (show isDigit 125 = false by decide) []
      simp only [membersText, List.cons_append, List.append_assoc, readMembers]
      rw [readString_text]
      simp only [Option.bind_some]
      rw [value]
      rfl
    | cons m' ms =>
      have value := readValue_text here (show isDigit 44 = false by decide) (membersText (m' :: ms))
      have shorter : (m' :: ms).length < fuel := by
        simp only [List.length_cons] at enough ⊢
        omega
      have rest := ih (fun m hm => plain m (by simp [hm])) shorter
      simp only [membersText, List.cons_append, List.append_assoc, readMembers] at value rest ⊢
      rw [readString_text]
      simp only [Option.bind_some]
      rw [value]
      simp only [Option.bind_some]
      rw [rest]
      rfl

/-- Every key and every string among the members is UTF-8. -/
def utf8 (ms : List (Σ _ : Str, Value)) : Bool :=
  ms.all fun m => Utf8.valid m.1 && match m.2 with
    | .string s => Utf8.valid s
    | _ => true

theorem utf8_iff (ms : List (Σ _ : Str, Value)) :
    utf8 ms = true ↔ ∀ m ∈ ms, Utf8.valid m.1 = true ∧ ∀ s, m.2 = .string s → Utf8.valid s = true := by
  rw [utf8, List.all_eq_true]
  apply forall₂_congr
  rintro ⟨k, v⟩ _
  cases v <;> simp

/-- The members of an object, in the order of their keys. -/
def members (o : Object) : List (Σ _ : Str, Value) := o.entries.insertionSort fun a b => a.1 ≤ b.1

theorem members_perm (o : Object) : (members o).Perm o.entries := List.perm_insertionSort _ _

theorem dlookup_members (o : Object) (k : Str) : (members o).dlookup k = o.lookup k :=
  List.perm_dlookup k ((List.perm_nodupKeys (members_perm o)).2 o.nodupKeys) (members_perm o)

theorem mem_members {o : Object} {m : Σ _ : Str, Value} : m ∈ members o ↔ o.lookup m.1 = some m.2 := by
  rw [(members_perm o).mem_iff]
  exact AList.mem_lookup_iff.symm

/-- `dump` with no indentation. -/
def dump (o : Object) : Option Buffer :=
  if utf8 (members o) then some (123 :: membersText (members o)) else none

/-- `parse`, of what `dump` writes. -/
def parse : Buffer → Option Json
  | 123 :: bs =>
    (readMembers bs.length bs).bind fun ms =>
      if utf8 ms then some (.object ms.toAList) else none
  | _ => none

theorem utf8_members (o : Object) : utf8 (members o) = true ↔ o.Utf8 := by
  rw [utf8_iff]
  constructor
  · intro text k v found
    exact text ⟨k, v⟩ (mem_members.2 found)
  · rintro text ⟨k, v⟩ member
    exact text k v (mem_members.1 member)

theorem length_membersText (ms : List (Σ _ : Str, Value)) : ms.length < (membersText ms).length := by
  induction ms with
  | nil => decide
  | cons m ms ih =>
    cases ms with
    | nil => simp [membersText]
    | cons m' ms =>
      simp only [membersText, List.length_cons, List.length_append] at ih ⊢
      omega

/-- `nlohmann::json` on the objects of the messages. -/
def compact : Nlohmann where
  parse := parse
  dump := dump
  dump_iff o _ := by
    rw [dump, ← utf8_members]
    split <;> simp_all
  dump_ne_nil o b := by
    intro dumped
    rw [dump] at dumped
    split at dumped
    · cases dumped
      exact List.cons_ne_nil _ _
    · cases dumped
  parse_dump o b := by
    intro plain dumped
    rw [dump] at dumped
    split at dumped
    · rename_i text
      cases dumped
      have back := readMembers_text (fun m member => plain m.1 m.2 (mem_members.1 member))
        (length_membersText (members o))
      refine ⟨.object (members o).toAList, ?_, fun k => ?_⟩
      · rw [parse, back, Option.bind_some, if_pos text]
      · rw [Json.find, AList.lookup_to_alist, dlookup_members]
    · cases dumped
  parse_utf8 b o := by
    intro parsed k v found
    unfold parse at parsed
    split at parsed
    · obtain ⟨ms, _, later⟩ := Option.bind_eq_some_iff.1 parsed
      split at later
      · rename_i text
        cases later
        rw [AList.lookup_to_alist] at found
        exact (utf8_iff ms).1 text ⟨k, v⟩ (List.of_mem_dlookup found)
      · cases later
    · cases parsed

end Gologin.Messages.Text
