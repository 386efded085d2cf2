import Mathlib.Data.List.AList

/-!
# Tables with an insertion that keeps what is there

`std::map` and `std::unordered_map` as Mathlib's association lists. `emplace` is the
insertion of both: it leaves the table alone when the key is present.
-/

namespace Tables
set_option autoImplicit false

section
variable {α β : Type} [DecidableEq α]

/-- A finite map from `α` to `β`, each key at most once. -/
abbrev Table (α β : Type) : Type := AList fun _ : α => β

/-- Insert `b` at `a`, unless `a` is a key already. -/
def emplace (a : α) (b : β) (t : Table α β) : Table α β :=
  if a ∈ t then t else t.insert a b

theorem emplace_of_mem {a : α} {b : β} {t : Table α β} (h : a ∈ t) : emplace a b t = t := by
  simp [emplace, h]

theorem emplace_of_not_mem {a : α} {b : β} {t : Table α β} (h : a ∉ t) :
    emplace a b t = t.insert a b := by
  simp [emplace, h]

/-- A key is absent exactly when its lookup finds nothing. -/
theorem not_mem_iff_lookup {a : α} {t : Table α β} : a ∉ t ↔ t.lookup a = none :=
  AList.lookup_eq_none.symm

theorem mem_of_lookup {a : α} {b : β} {t : Table α β} (h : t.lookup a = some b) : a ∈ t := by
  rw [← AList.lookup_isSome, h]
  rfl

theorem lookup_emplace_self {a : α} {b : β} {t : Table α β} (h : a ∉ t) :
    (emplace a b t).lookup a = some b := by
  rw [emplace_of_not_mem h, AList.lookup_insert]

theorem lookup_emplace_ne {a a' : α} {b : β} {t : Table α β} (h : a' ≠ a) :
    (emplace a b t).lookup a' = t.lookup a' := by
  unfold emplace
  split
  · rfl
  · exact AList.lookup_insert_ne h

/-- What a lookup finds after `emplace` was there, or is what was emplaced. -/
theorem lookup_emplace {a a' : α} {b b' : β} {t : Table α β}
    (h : (emplace a b t).lookup a' = some b') :
    t.lookup a' = some b' ∨ (a' = a ∧ b' = b ∧ a ∉ t) := by
  by_cases same : a' = a
  · subst same
    by_cases present : a' ∈ t
    · rw [emplace_of_mem present] at h
      exact Or.inl h
    · rw [lookup_emplace_self present] at h
      exact Or.inr ⟨rfl, (Option.some.inj h).symm, present⟩
  · rw [lookup_emplace_ne same] at h
    exact Or.inl h

/-- A key that is present keeps its value under `emplace`. -/
theorem lookup_emplace_keep {a a' : α} {b b' : β} {t : Table α β} (h : t.lookup a' = some b') :
    (emplace a b t).lookup a' = some b' := by
  by_cases same : a' = a
  · subst same
    rw [emplace_of_mem (mem_of_lookup h)]
    exact h
  · rw [lookup_emplace_ne same]
    exact h

theorem lookup_erase_ne {a a' : α} {t : Table α β} (h : a' ≠ a) :
    (t.erase a).lookup a' = t.lookup a' := AList.lookup_erase_ne h

theorem lookup_erase_some {a a' : α} {b : β} {t : Table α β} (h : (t.erase a).lookup a' = some b) :
    a' ≠ a ∧ t.lookup a' = some b := by
  by_cases same : a' = a
  · subst same
    rw [AList.lookup_erase] at h
    cases h
  · rw [lookup_erase_ne same] at h
    exact ⟨same, h⟩

/-- The values of a table, in the order of its entries. -/
def values (t : Table α β) : List β := t.entries.map Sigma.snd

theorem mem_values {b : β} {t : Table α β} : b ∈ values t ↔ ∃ a, t.lookup a = some b := by
  constructor
  · intro h
    obtain ⟨⟨a, b'⟩, member, rfl⟩ := List.mem_map.1 h
    exact ⟨a, AList.mem_lookup_iff.2 member⟩
  · rintro ⟨a, h⟩
    exact List.mem_map.2 ⟨⟨a, b⟩, AList.mem_lookup_iff.1 h, rfl⟩

/-- When `key` recovers each value's key, the values' keys are distinct. -/
theorem nodup_keys_values {key : β → α} {t : Table α β}
    (h : ∀ a b, t.lookup a = some b → key b = a) : ((values t).map key).Nodup := by
  have same : (values t).map key = t.keys := by
    unfold values AList.keys List.keys
    rw [List.map_map]
    apply List.map_congr_left
    rintro ⟨a, b⟩ member
    exact h a b (AList.mem_lookup_iff.2 member)
  rw [same]
  exact t.keys_nodup

end

end Tables
