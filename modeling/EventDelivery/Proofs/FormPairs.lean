import EventDelivery.Proofs.OctetReading
import EventDelivery.Proofs.TextParts
import EventDelivery.Url.Basic

/-!
# Form pairs

What is written as form pairs is read as the same pairs, in the same order, whatever
characters the names and the values have.  Pairs that are added to a query follow those
that are there.
-/

namespace EventDelivery

namespace Percent

private theorem hexDigit_read {n : Nat} (small : n < 16) :
    Text.isHexDigit (hexDigit n) = true ∧ Text.hexDigitValue (hexDigit n) = n := by
  have each : ∀ n, n < 16 →
      Text.isHexDigit (hexDigit n) = true ∧ Text.hexDigitValue (hexDigit n) = n := by
    decide
  exact each n small

/-- An escape has a percent sign and digits, and digits are kept in forms. -/
theorem mem_escape {octet : UInt8} {c : Char} (member : c ∈ escape octet) :
    c = '%' ∨ inForm c = true := by
  have digits : ∀ n, n < 16 → inForm (hexDigit n) = true := by decide
  have small : octet.toNat < 256 := octet.toNat_lt
  simp only [escape, List.mem_cons, List.not_mem_nil, or_false] at member
  rcases member with sign | high | low
  · exact .inl sign
  · exact .inr (high ▸ digits _ (by omega))
  · exact .inr (low ▸ digits _ (by omega))

theorem decode_escape_append (octet : UInt8) (rest : List Char) :
    decode (escape octet ++ rest) = octet :: decode rest := by
  have small : octet.toNat < 256 := octet.toNat_lt
  obtain ⟨isHigh, high⟩ := hexDigit_read (n := octet.toNat / 16) (by omega)
  obtain ⟨isLow, low⟩ := @hexDigit_read (octet.toNat % 16) (by omega)
  have value : 16 * (octet.toNat / 16) + octet.toNat % 16 = octet.toNat :=
    Nat.div_add_mod octet.toNat 16
  simp only [escape, List.cons_append, List.nil_append, decode, isHigh, isLow, Bool.and_self,
    if_true, high, low, value, UInt8.ofNat_toNat]

theorem decode_escapes_append (octets : List UInt8) (rest : List Char) :
    decode (octets.flatMap escape ++ rest) = octets ++ decode rest := by
  induction octets with
  | nil => rfl
  | cons octet octets induction =>
      rw [List.flatMap_cons, List.append_assoc, decode_escape_append, induction,
        List.cons_append]

theorem decode_cons {c : Char} (other : c ≠ '%') (rest : List Char) :
    decode (c :: rest) = Text.utf8 c ++ decode rest := by
  rw [decode]
  rintro a b rest rfl
  exact absurd rfl other

/-- A character of a form value. -/
private def formChar (c : Char) : List Char := if c = ' ' then ['+'] else encode inForm [c]

/-- Plus signs of form values are blanks. -/
def blank (c : Char) : Char := if c = '+' then ' ' else c

private theorem formValue_eq (s : String) : formValue s = s.toList.flatMap formChar := rfl

theorem readFormValue_eq (cs : List Char) :
    readFormValue cs = String.ofList (Text.decodeUtf8 (decode (cs.map blank))) := rfl

theorem encode_singleton (keep : Char → Bool) (c : Char) :
    encode keep [c] = if keep c then [c] else (Text.utf8 c).flatMap escape := by
  simp [encode]

/-- What is left of a form value: characters that forms keep, and three signs. -/
theorem mem_formChar {c d : Char} (member : d ∈ formChar c) :
    d = '+' ∨ d = '%' ∨ inForm d = true := by
  unfold formChar at member
  split_ifs at member with space
  · exact .inl (List.mem_singleton.mp member)
  · rw [encode_singleton] at member
    split_ifs at member with kept
    · exact .inr (.inr (List.mem_singleton.mp member ▸ kept))
    · obtain ⟨octet, _, inside⟩ := List.mem_flatMap.mp member
      exact .inr (mem_escape inside)

theorem not_mem_formValue {mark : Char} (other : mark ≠ '+' ∧ mark ≠ '%' ∧ inForm mark = false)
    (s : String) : mark ∉ formValue s := by
  intro member
  obtain ⟨c, _, inside⟩ := List.mem_flatMap.mp (formValue_eq s ▸ member)
  rcases mem_formChar inside with plus | sign | kept
  · exact other.1 plus
  · exact other.2.1 sign
  · simp [other.2.2] at kept

theorem map_blank_eq_self {cs : List Char} (absent : '+' ∉ cs) : cs.map blank = cs := by
  have same : ∀ c, c ∈ cs → blank c = id c := by
    intro c member
    have other : c ≠ '+' := fun plus => absent (plus ▸ member)
    exact if_neg other
  rw [List.map_congr_left same, List.map_id]

theorem plus_not_mem_escapes (octets : List UInt8) : '+' ∉ octets.flatMap escape := by
  intro member
  obtain ⟨octet, _, inside⟩ := List.mem_flatMap.mp member
  rcases mem_escape inside with sign | kept
  · exact absurd sign (by decide)
  · exact absurd kept (by decide)

theorem decode_formChar_append (c : Char) (rest : List Char) :
    decode ((formChar c).map blank ++ rest) = Text.utf8 c ++ decode rest := by
  unfold formChar
  split_ifs with space
  · rw [space]
    exact decode_cons (by decide) rest
  · rw [encode_singleton]
    split_ifs with kept
    · have plain : c ≠ '%' ∧ c ≠ '+' := by
        constructor <;> rintro rfl <;> exact absurd kept (by decide)
      rw [map_blank_eq_self (by simpa using Ne.symm plain.2)]
      exact decode_cons plain.1 rest
    · rw [map_blank_eq_self (plus_not_mem_escapes _), decode_escapes_append]

theorem readFormValue_formValue (s : String) : readFormValue (formValue s) = s := by
  have octets : ∀ cs : List Char,
      decode ((cs.flatMap formChar).map blank) = cs.flatMap Text.utf8 := by
    intro cs
    induction cs with
    | nil => rfl
    | cons c cs induction =>
        rw [List.flatMap_cons, List.map_append, decode_formChar_append, induction,
          List.flatMap_cons]
  rw [readFormValue_eq, formValue_eq, octets, Text.decodeUtf8_flatMap_utf8, String.ofList_toList]

/-- A pair that is written between separators. -/
def readFormPair (part : List Char) : String × String :=
  let (name, value) := (Text.splitFirst? '=' part).getD (part, [])
  (readFormValue name, readFormValue value)

theorem readForm_eq (cs : List Char) :
    readForm cs =
      ((Text.splitOn '&' cs).filter fun part => !part.isEmpty).map readFormPair := rfl

private theorem readFormPair_formPair (pair : String × String) :
    readFormPair (formPair pair) = pair := by
  have undivided := @not_mem_formValue '=' (by decide) pair.1
  rw [readFormPair, formPair, Text.splitFirst?_append undivided]
  simp only [Option.getD_some, readFormValue_formValue]

private theorem readForm_append (first second : List Char) :
    readForm (first ++ '&' :: second) = readForm first ++ readForm second := by
  rw [readForm_eq, readForm_eq, readForm_eq, Text.splitOn_append, List.filter_append,
    List.map_append]

theorem readForm_formPairs (pairs : List (String × String)) :
    readForm (['&'].intercalate (pairs.map formPair)) = pairs := by
  by_cases empty : pairs = []
  · rw [empty]
    rfl
  · have undivided : ∀ part, part ∈ pairs.map formPair → '&' ∉ part := by
      intro part member
      obtain ⟨pair, _, rfl⟩ := List.mem_map.mp member
      simp only [formPair, List.mem_append, List.mem_cons, not_or]
      exact ⟨not_mem_formValue (by decide) _, by decide, not_mem_formValue (by decide) _⟩
    have filled : ∀ part, part ∈ pairs.map formPair → (!part.isEmpty) = true := by
      intro part member
      obtain ⟨pair, _, rfl⟩ := List.mem_map.mp member
      simp [formPair]
    rw [readForm_eq, Text.splitOn_eq, List.splitOn_intercalate _ undivided (by simpa using empty),
      List.filter_eq_self.mpr filled, List.map_map]
    have same : readFormPair ∘ formPair = id := funext readFormPair_formPair
    rw [same, List.map_id]

end Percent

namespace Url

theorem queryPairs_appendPairs (url : Url) (pairs : List (String × String)) :
    (url.appendPairs pairs).queryPairs = url.queryPairs ++ pairs := by
  have written := Percent.readForm_formPairs pairs
  unfold appendPairs
  split_ifs with none
  · rw [List.isEmpty_iff.mp none, List.append_nil]
  · obtain ⟨scheme, username, password, host, port, path, query, fragment⟩ := url
    dsimp only [queryPairs]
    split
    · rw [String.toList_ofList, written]
      rfl
    · rw [String.toList_ofList, written]
      rfl
    · simp only [String.toList_append, String.toList_ofList, List.append_assoc]
      exact (Percent.readForm_append _ _).trans (congrArg _ written)

end Url

end EventDelivery
