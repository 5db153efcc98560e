import Mathlib.Data.List.Basic

namespace Separators
variable {α : Type} {left left' right right' : List α}

/-- Two texts with the same last separator have the same parts before and after it. -/
theorem append_cons_inj (separator : α) (absent : separator ∉ right) (absent' : separator ∉ right')
    (same : left ++ separator :: right = left' ++ separator :: right') : left = left' ∧ right = right' := by
  have shorter {first second rest : List α} (missing : separator ∉ first)
      (equal : separator :: first = rest ++ separator :: second) : rest = [] := by
    cases rest with
    | nil => rfl
    | cons head rest =>
        obtain ⟨_, equal⟩ := List.cons.inj equal
        exact absurd (equal ▸ List.mem_append_right _ List.mem_cons_self) missing
  rcases List.append_eq_append_iff.mp same with ⟨rest, extended, equal⟩ | ⟨rest, extended, equal⟩
  · obtain rfl := shorter absent equal
    rw [List.append_nil] at extended
    exact ⟨extended.symm, (List.cons.inj equal).2⟩
  · obtain rfl := shorter absent' equal
    rw [List.append_nil] at extended
    exact ⟨extended, (List.cons.inj equal).2.symm⟩

section Last
variable [BEq α] [LawfulBEq α] {separator : α}

theorem ne_of_mem_reverse (absent : separator ∉ right) :
    ∀ symbol ∈ right.reverse, (symbol != separator) = true := by
  intro symbol member
  rw [bne_iff_ne]
  rintro rfl
  exact absent (List.mem_reverse.mp member)

/-- A scan from the right stops at the last separator. -/
theorem dropWhile_reverse_last (left : List α) (absent : separator ∉ right) :
    (left ++ separator :: right).reverse.dropWhile (· != separator) = separator :: left.reverse := by
  rw [List.reverse_append, List.reverse_cons, List.append_assoc,
    List.dropWhile_append_of_pos (ne_of_mem_reverse absent)]
  exact List.dropWhile_cons_of_neg (by simp)

theorem takeWhile_reverse_last (left : List α) (absent : separator ∉ right) :
    (left ++ separator :: right).reverse.takeWhile (· != separator) = right.reverse := by
  rw [List.reverse_append, List.reverse_cons, List.append_assoc,
    List.takeWhile_append_of_pos (ne_of_mem_reverse absent)]
  simp

end Last

/-- The parts of a text do not contain the separator. -/
theorem not_mem_of_mem_splitOn [BEq α] [LawfulBEq α] {separator : α} {text part : List α}
    (member : part ∈ text.splitOn separator) : separator ∉ part := by
  induction text generalizing part with
  | nil =>
      rw [List.splitOn_nil, List.mem_singleton] at member
      rw [member]
      exact List.not_mem_nil
  | cons head text ih =>
      rw [List.splitOn_cons_eq_if_modifyHead] at member
      split at member
      · rcases List.mem_cons.mp member with rfl | later
        · exact List.not_mem_nil
        · exact ih later
      · rename_i different
        cases parts : text.splitOn separator with
        | nil => exact absurd parts (List.splitOn_ne_nil separator text)
        | cons first rest =>
            rw [parts] at member ih
            rcases List.mem_cons.mp member with rfl | later
            · rintro (_ | ⟨_, inside⟩)
              · exact different (beq_self_eq_true separator)
              · exact ih List.mem_cons_self inside
            · exact ih (List.mem_cons_of_mem _ later)

end Separators
