import EventDelivery.Json.Printer
import EventDelivery.Proofs.TextParts

/-!
# Compact texts are single lines

The compact text of a value has no line break, whatever texts and numbers are inside.
-/

namespace EventDelivery

theorem newline_not_mem_repr (n : Nat) : '\n' ∉ (Nat.repr n).toList := by
  intro member
  rw [Nat.toList_repr] at member
  have digit := Nat.isDigit_of_mem_toDigits (by decide) (by decide) member
  exact absurd digit (by decide)

theorem newline_not_mem_int (n : Int) : '\n' ∉ (toString n).toList := by
  cases n with
  | ofNat n => exact newline_not_mem_repr n
  | negSucc n =>
      have digits := newline_not_mem_repr (n + 1)
      change '\n' ∉ ("-" ++ Nat.repr (n + 1)).toList
      simp only [String.toList_append, List.mem_append, not_or]
      exact ⟨by decide, digits⟩

namespace Decimal.Layout

variable {layout : Layout}

/-- Digits, signs and points stand on one line, and so does the layout's own mark. -/
theorem newline_not_mem_render (mark : '\n' ∉ layout.mark.toList)
    (plus : '\n' ∉ layout.plus.toList) (number : Scientific) :
    '\n' ∉ (layout.render number).toList := by
  have digits := newline_not_mem_repr number.digits
  have power : ∀ exponent : Int,
      '\n' ∉ (if exponent < 0 then "-" else layout.plus).toList ∧
        '\n' ∉ (Nat.repr exponent.natAbs).toList := by
    intro exponent
    refine ⟨?_, newline_not_mem_repr _⟩
    split
    · decide
    · exact plus
  simp only [render]
  split
  · split
    · simp only [String.toList_ofList, List.mem_append, List.mem_cons, not_or]
      refine ⟨⟨fun taken => digits (List.mem_of_mem_take taken), by simp⟩, by decide, ?_⟩
      split
      · decide
      · exact fun dropped => digits (List.mem_of_mem_drop dropped)
    · simp only [String.toList_ofList, List.mem_cons, List.mem_append, not_or]
      exact ⟨by decide, by decide, by simp, digits⟩
  · split
    · decide
    · rename_i digit only
      simp only [only] at digits
      simp only [String.toList_append, String.toList_ofList, List.mem_append, not_or]
      exact ⟨⟨digits, mark⟩, power _⟩
    · rename_i digit rest _ several
      simp only [several, List.mem_cons, not_or] at digits
      simp only [String.toList_append, String.toList_ofList, List.mem_append,
        List.mem_cons, not_or]
      exact ⟨⟨⟨digits.1, by decide, digits.2⟩, mark⟩, power _⟩

theorem newline_not_mem_text (mark : '\n' ∉ layout.mark.toList)
    (plus : '\n' ∉ layout.plus.toList) (x : Double) :
    '\n' ∉ (layout.text x).toList := by
  unfold text
  rw [String.toList_append, List.mem_append, not_or]
  constructor
  · split <;> decide
  · split
    · decide
    · exact newline_not_mem_render mark plus _

end Decimal.Layout

private theorem Number.newline_not_mem_toText (number : Number) : '\n' ∉ number.toText.toList := by
  cases number with
  | whole n => exact newline_not_mem_int n.val
  | double x => exact Decimal.Layout.newline_not_mem_text (by decide) (by decide) x

theorem newline_not_mem_intercalate {parts : List String} (separator : String)
    (apart : '\n' ∉ separator.toList) (each : ∀ part, part ∈ parts → '\n' ∉ part.toList) :
    '\n' ∉ (String.intercalate separator parts).toList := by
  rw [String.toList_intercalate]
  intro member
  rcases Text.mem_of_mem_intercalate member with between | ⟨written, held, inside⟩
  · exact apart between
  · obtain ⟨part, listed, rfl⟩ := List.mem_map.mp held
    exact each part listed inside

namespace Json

theorem newline_not_mem_escapeChar (c : Char) : '\n' ∉ escapeChar c := by
  have digit : ∀ n, n < 16 → Nat.digitChar n ≠ '\n' := by decide
  unfold escapeChar
  repeat' split
  · decide
  · decide
  · decide
  · decide
  · decide
  · decide
  · decide
  · rename_i control
    have high := digit (c.toNat / 16) (by omega)
    have low := digit (c.toNat % 16) (by omega)
    simp [high.symm, low.symm]
  · rename_i other _ _ _
    simpa using Ne.symm other

private theorem newline_not_mem_quote (text : String) : '\n' ∉ (quote text).toList := by
  simp only [quote, String.toList_ofList, List.mem_cons, List.mem_append, List.mem_flatMap]
  rintro (quotes | ⟨c, _, escaped⟩ | quotes)
  · exact absurd quotes (by decide)
  · exact newline_not_mem_escapeChar c escaped
  · simp at quotes

mutual

/-- The compact text of a value is a single line. -/
theorem newline_not_mem_compact : (value : Json) → '\n' ∉ value.compact.toList
  | .null => by decide
  | .bool true => by decide
  | .bool false => by decide
  | .num n => n.newline_not_mem_toText
  | .str text => newline_not_mem_quote text
  | .arr items => by
      have inside := newline_not_mem_intercalate "," (by decide)
        (newline_not_mem_compactItems items)
      simp only [compact, String.toList_append, List.mem_append, not_or]
      exact ⟨⟨by decide, inside⟩, by decide⟩
  | .obj members => by
      have inside := newline_not_mem_intercalate "," (by decide)
        (newline_not_mem_compactMembers members)
      simp only [compact, String.toList_append, List.mem_append, not_or]
      exact ⟨⟨by decide, inside⟩, by decide⟩

private theorem newline_not_mem_compactItems : (items : List Json) →
    ∀ part, part ∈ compactItems items → '\n' ∉ part.toList
  | [], part, member => by simp [compactItems] at member
  | item :: rest, part, member => by
      rcases List.mem_cons.mp member with same | later
      · exact same ▸ newline_not_mem_compact item
      · exact newline_not_mem_compactItems rest part later

theorem newline_not_mem_compactMembers : (members : List (String × Json)) →
    ∀ part, part ∈ compactMembers members → '\n' ∉ part.toList
  | [], part, member => by simp [compactMembers] at member
  | (key, value) :: rest, part, member => by
      rcases List.mem_cons.mp member with same | later
      · have named := newline_not_mem_quote key
        have inside := newline_not_mem_compact value
        simp only [same, String.toList_append, List.mem_append, not_or]
        exact ⟨⟨named, by decide⟩, inside⟩
      · exact newline_not_mem_compactMembers rest part later

end

end Json

end EventDelivery
