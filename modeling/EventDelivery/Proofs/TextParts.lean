import EventDelivery.Text.Characters
import Mathlib.Data.List.TakeWhile

/-!
# Texts in parts

Dividing a text at a separator, and joining parts with one between them.
-/

namespace EventDelivery.Text

variable {separator : Char}

/-- Dividing a text at a separator is what lists know as such. -/
theorem splitOn_eq (separator : Char) (cs : List Char) :
    splitOn separator cs = cs.splitOn separator := by
  induction cs with
  | nil => rfl
  | cons c rest induction =>
      obtain ⟨part, parts, divided⟩ :=
        List.exists_cons_of_ne_nil (List.splitOn_ne_nil separator rest)
      rw [splitOn, induction, List.splitOn_cons_eq_if_modifyHead, divided]
      simp only [beq_iff_eq]
      rfl

theorem splitOn_append (separator : Char) (first second : List Char) :
    splitOn separator (first ++ separator :: second) =
      splitOn separator first ++ splitOn separator second := by
  simp only [splitOn_eq, List.splitOn_append_cons_self]

theorem splitOn_of_not_mem {part : List Char} (absent : separator ∉ part) :
    splitOn separator part = [part] := by
  rw [splitOn_eq, List.splitOn_eq_singleton absent]

/-- What has no separator belongs to the first part of what follows. -/
theorem splitOn_append_of_not_mem {first : List Char} (absent : separator ∉ first)
    (rest : List Char) :
    splitOn separator (first ++ rest) = (splitOn separator rest).modifyHead (first ++ ·) := by
  simp only [splitOn_eq]
  induction first with
  | nil => exact (congrFun List.modifyHead_id _).symm
  | cons c first induction =>
      obtain ⟨here, later⟩ := not_or.mp (mt List.mem_cons.mpr absent)
      rw [List.cons_append, List.splitOn_cons_eq_if_modifyHead, induction later,
        if_neg (by simpa using Ne.symm here), List.modifyHead_modifyHead]
      rfl

theorem splitFirst?_append {before : List Char} (absent : separator ∉ before)
    (after : List Char) :
    splitFirst? separator (before ++ separator :: after) = some (before, after) := by
  have others : ∀ c, c ∈ before → decide (c ≠ separator) = true := by
    intro c member
    exact decide_eq_true fun same => absent (same ▸ member)
  rw [splitFirst?, List.dropWhile_append_of_pos others, List.takeWhile_append_of_pos others]
  simp

theorem splitFirst?_eq_none {cs : List Char} (absent : separator ∉ cs) :
    splitFirst? separator cs = none := by
  have others : ∀ c, c ∈ cs → decide (c ≠ separator) = true := by
    intro c member
    exact decide_eq_true fun same => absent (same ▸ member)
  rw [splitFirst?, List.dropWhile_eq_nil_iff.mpr others]

theorem splitFirst?_eq_some_iff {cs before after : List Char} :
    splitFirst? separator cs = some (before, after) ↔
      cs = before ++ separator :: after ∧ separator ∉ before := by
  constructor
  · intro divided
    by_cases member : separator ∈ cs
    · obtain ⟨first, rest, rfl, absent⟩ := List.eq_append_cons_of_mem member
      rw [splitFirst?_append absent] at divided
      cases divided
      exact ⟨rfl, absent⟩
    · rw [splitFirst?_eq_none member] at divided
      cases divided
  · rintro ⟨rfl, absent⟩
    exact splitFirst?_append absent after

/-- Joined parts hold what one of them holds, or what stands between them. -/
theorem mem_of_mem_intercalate {c : Char} {between : List Char} {parts : List (List Char)}
    (member : c ∈ between.intercalate parts) :
    c ∈ between ∨ ∃ part, part ∈ parts ∧ c ∈ part := by
  induction parts with
  | nil => cases member
  | cons part rest induction =>
      cases rest with
      | nil =>
          rw [List.intercalate_singleton] at member
          exact .inr ⟨part, List.mem_cons_self, member⟩
      | cons next rest =>
          rw [List.intercalate_cons_cons, List.append_assoc] at member
          rcases List.mem_append.mp member with here | later
          · exact .inr ⟨part, List.mem_cons_self, here⟩
          · rcases List.mem_append.mp later with apart | others
            · exact .inl apart
            · apply (induction others).imp_right
              rintro ⟨other, held, inside⟩
              exact ⟨other, List.mem_cons_of_mem part held, inside⟩

end EventDelivery.Text
