import Mathlib.Data.List.Infix

/-!
# Searching a text by its octets

The octets of a phrase are searched for among the octets of a text.  They are found
where the phrase stands first among the characters, and nowhere else: no character
starts inside of another one.  A part of a text can be taken between two positions
among its octets where both are between characters.
-/

namespace EventDelivery.Text

/-- A phrase stands in a text for the first time after `before`, and `after` follows. -/
inductive First (phrase : List Char) : (before after text : List Char) → Prop where
  | here (after : List Char) : First phrase [] after (phrase ++ after)
  | later {c : Char} {before after text : List Char} :
      ¬ phrase <+: c :: text → First phrase before after text →
      First phrase (c :: before) after (c :: text)

section First

variable {phrase before after text : List Char}

theorem First.text_eq (first : First phrase before after text) :
    text = before ++ (phrase ++ after) := by
  induction first with
  | here after => rfl
  | later _ _ induction => rw [induction, List.cons_append]

/-- A phrase stands somewhere in a text for the first time, or it does not stand there. -/
theorem exists_first_or_absent (filled : phrase ≠ []) (text : List Char) :
    (∃ before after, First phrase before after text) ∨ ¬ phrase <:+: text := by
  induction text with
  | nil => exact .inr (by simpa using filled)
  | cons c text induction =>
      by_cases starts : phrase <+: c :: text
      · obtain ⟨after, whole⟩ := starts
        rw [← whole]
        exact .inl ⟨[], after, .here after⟩
      · rcases induction with ⟨before, after, first⟩ | absent
        · exact .inl ⟨c :: before, after, .later starts first⟩
        · refine .inr ?_
          rw [List.infix_cons_iff]
          exact not_or.mpr ⟨starts, absent⟩

end First

/-- The octets of characters. -/
def encode (chars : List Char) : List UInt8 := chars.flatMap String.utf8EncodeChar

def octetsOf (text : String) : List UInt8 := text.toByteArray.data.toList

/-- The first offset at which a phrase stands among octets. -/
def offset? (phrase : List UInt8) : List UInt8 → Option Nat
  | [] => none
  | octet :: rest =>
    if phrase.isPrefixOf (octet :: rest) then some 0 else (offset? phrase rest).map (· + 1)

/-- The first position among the octets of a text, not before `start`, at which a phrase
stands. -/
def find? (text phrase : String) (start : Nat) : Option Nat :=
  if start < text.utf8ByteSize then
    (offset? (octetsOf phrase) ((octetsOf text).drop start)).map (· + start)
  else none

/-- The part of a text between two positions among its octets; none where they are not
in this order, or where one of them lies outside of the text or inside of a character. -/
def slice? (text : String) (start stop : Nat) : Option String :=
  if h : start ≤ stop ∧ String.Pos.Raw.IsValid text ⟨start⟩ ∧
      String.Pos.Raw.IsValid text ⟨stop⟩ then
    some (text.extract ⟨⟨start⟩, h.2.1⟩ ⟨⟨stop⟩, h.2.2⟩)
  else none

section Encode

variable {phrase text : List Char}

@[simp] theorem encode_nil : encode [] = [] := rfl

@[simp] theorem encode_cons (c : Char) (chars : List Char) :
    encode (c :: chars) = String.utf8EncodeChar c ++ encode chars :=
  List.flatMap_cons

@[simp] theorem encode_append (first second : List Char) :
    encode (first ++ second) = encode first ++ encode second :=
  List.flatMap_append

theorem octetsOf_ofList (chars : List Char) : octetsOf (String.ofList chars) = encode chars := by
  rw [octetsOf, String.toByteArray_ofList, List.utf8Encode, List.data_toByteArray]
  rfl

private theorem size_utf8Encode (chars : List Char) :
    chars.utf8Encode.size = (encode chars).length := by
  rw [List.utf8Encode, List.size_toByteArray]
  rfl

theorem utf8ByteSize_ofList (chars : List Char) :
    (String.ofList chars).utf8ByteSize = (encode chars).length := by
  rw [← String.size_toByteArray, String.toByteArray_ofList, size_utf8Encode]

theorem length_le_length_encode (chars : List Char) :
    chars.length ≤ (encode chars).length := by
  induction chars with
  | nil => simp
  | cons c chars induction =>
      have positive := c.utf8Size_pos
      simp only [encode_cons, List.length_cons, List.length_append,
        String.length_utf8EncodeChar]
      omega

/-- A text starts with a phrase when its octets start with those of the phrase. -/
theorem encode_prefix_iff : encode phrase <+: encode text ↔ phrase <+: text := by
  constructor
  · rintro ⟨rest, whole⟩
    have octets : phrase.utf8Encode ++ rest.toByteArray = text.utf8Encode := by
      rw [List.utf8Encode, List.utf8Encode, ← List.toByteArray_append]
      exact congrArg List.toByteArray whole
    exact List.isPrefix_of_utf8Encode_append_eq_utf8Encode _ octets
  · rintro ⟨rest, rfl⟩
    exact ⟨encode rest, (encode_append phrase rest).symm⟩

end Encode

section Offset

theorem offset?_append {phrase : List UInt8} {skipped : List UInt8}
    (first : ∀ octet, phrase.head? = some octet → octet.IsUTF8FirstByte)
    (filled : phrase ≠ []) (inside : ∀ octet, octet ∈ skipped → ¬ octet.IsUTF8FirstByte)
    (rest : List UInt8) :
    offset? phrase (skipped ++ rest) = (offset? phrase rest).map (· + skipped.length) := by
  induction skipped with
  | nil => simp
  | cons octet skipped induction =>
      have later := induction fun other member => inside other (List.mem_cons_of_mem _ member)
      have other : phrase.isPrefixOf (octet :: (skipped ++ rest)) = false := by
        obtain ⟨head, tail, rfl⟩ := List.exists_cons_of_ne_nil filled
        have different : head ≠ octet := by
          rintro rfl
          exact inside head List.mem_cons_self (first head rfl)
        simp [List.isPrefixOf, different]
      rw [List.cons_append, offset?, other, later]
      cases offset? phrase rest <;> simp [Nat.add_assoc]

variable {phrase : List Char}

theorem head?_encode_isFirst (octet : UInt8) (head : (encode phrase).head? = some octet) :
    octet.IsUTF8FirstByte := by
  cases phrase with
  | nil => simp at head
  | cons c chars =>
      rw [encode_cons, List.head?_append_of_ne_nil _ String.utf8EncodeChar_ne_nil] at head
      rw [List.head?_eq_getElem?] at head
      obtain ⟨inside, rfl⟩ := List.getElem?_eq_some_iff.mp head
      exact UInt8.isUTF8FirstByte_getElem_zero_utf8EncodeChar

private theorem encode_ne_nil (filled : phrase ≠ []) : encode phrase ≠ [] := by
  obtain ⟨c, chars, rfl⟩ := List.exists_cons_of_ne_nil filled
  simp [String.utf8EncodeChar_ne_nil]

theorem offset?_encode_cons (filled : phrase ≠ []) (c : Char) (text : List Char) :
    offset? (encode phrase) (encode (c :: text)) =
      if phrase <+: c :: text then some 0
      else (offset? (encode phrase) (encode text)).map
        (· + (String.utf8EncodeChar c).length) := by
  obtain ⟨octet, inside, split⟩ :=
    List.exists_cons_of_ne_nil (String.utf8EncodeChar_ne_nil (c := c))
  have noFirst : ∀ other, other ∈ inside → ¬ other.IsUTF8FirstByte := by
    intro other member starts
    obtain ⟨position, bound, rfl⟩ := List.getElem_of_mem member
    have here : (String.utf8EncodeChar c)[position + 1]? = some inside[position] := by
      rw [split, List.getElem?_cons_succ, List.getElem?_eq_getElem bound]
    obtain ⟨_, same⟩ := List.getElem?_eq_some_iff.mp here
    rw [← same, UInt8.isUTF8FirstByte_getElem_utf8EncodeChar] at starts
    exact Nat.succ_ne_zero position starts
  have starts : (encode phrase).isPrefixOf (octet :: (inside ++ encode text)) = true ↔
      phrase <+: c :: text := by
    rw [List.isPrefixOf_iff_prefix, ← encode_prefix_iff, encode_cons, split,
      List.cons_append]
  rw [encode_cons, split, List.cons_append, offset?,
    offset?_append head?_encode_isFirst (encode_ne_nil filled) noFirst]
  simp only [starts]
  split
  · rfl
  · cases offset? (encode phrase) (encode text) <;> simp [Nat.add_assoc]

theorem First.offset?_eq (filled : phrase ≠ []) {before after text : List Char}
    (first : First phrase before after text) :
    offset? (encode phrase) (encode text) = some (encode before).length := by
  induction first with
  | here after =>
      obtain ⟨c, chars, rfl⟩ := List.exists_cons_of_ne_nil filled
      rw [List.cons_append, offset?_encode_cons filled, ← List.cons_append,
        if_pos (List.prefix_append _ _)]
      rfl
  | later other _ induction =>
      rw [offset?_encode_cons filled, if_neg other, induction]
      simp [Nat.add_comm]

theorem offset?_eq_none (filled : phrase ≠ []) {text : List Char}
    (absent : ¬ phrase <:+: text) : offset? (encode phrase) (encode text) = none := by
  induction text with
  | nil => rfl
  | cons c text induction =>
      rw [List.infix_cons_iff, not_or] at absent
      rw [offset?_encode_cons filled, if_neg absent.1, induction absent.2]
      rfl

end Offset

section Positions

variable {phrase : List Char}

theorem find?_eq_some (filled : phrase ≠ []) {piece after rest : List Char}
    (first : First phrase piece after rest) (before : List Char) :
    find? (String.ofList (before ++ rest)) (String.ofList phrase) (encode before).length =
      some (encode (before ++ piece)).length := by
  have inside : (encode before).length < (String.ofList (before ++ rest)).utf8ByteSize := by
    have positive := List.length_pos_iff.mpr (encode_ne_nil filled)
    rw [utf8ByteSize_ofList, first.text_eq]
    simp only [encode_append, List.length_append]
    omega
  rw [find?, if_pos inside, octetsOf_ofList, octetsOf_ofList, encode_append, List.drop_left,
    first.offset?_eq filled]
  simp [Nat.add_comm]

theorem find?_eq_none (filled : phrase ≠ []) {rest : List Char}
    (absent : ¬ phrase <:+: rest) (before : List Char) :
    find? (String.ofList (before ++ rest)) (String.ofList phrase) (encode before).length =
      none := by
  rw [find?, octetsOf_ofList, octetsOf_ofList, encode_append, List.drop_left,
    offset?_eq_none filled absent]
  simp

private theorem isValid_ofList (before after : List Char) :
    String.Pos.Raw.IsValid (String.ofList (before ++ after)) ⟨(encode before).length⟩ := by
  rw [String.Pos.Raw.isValid_iff_exists_append]
  refine ⟨String.ofList before, String.ofList after, String.ofList_append, ?_⟩
  rw [String.rawEndPos, utf8ByteSize_ofList]

theorem slice?_eq_some (before piece after : List Char) :
    slice? (String.ofList (before ++ (piece ++ after))) (encode before).length
      (encode (before ++ piece)).length = some (String.ofList piece) := by
  have start := isValid_ofList before (piece ++ after)
  have stop := isValid_ofList (before ++ piece) after
  rw [List.append_assoc] at stop
  have ordered : (encode before).length ≤ (encode (before ++ piece)).length := by
    simp
  have octets : (before.utf8Encode ++ (piece.utf8Encode ++ after.utf8Encode)).extract
      ((encode before).length + 0) ((encode before).length + (encode piece).length) =
        piece.utf8Encode := by
    rw [ByteArray.extract_append_size_add' (size_utf8Encode before).symm,
      ByteArray.extract_append_eq_left (size_utf8Encode piece).symm]
  rw [slice?, dif_pos ⟨ordered, start, stop⟩, Option.some.injEq, ← String.toByteArray_inj,
    String.toByteArray_extract]
  simpa only [String.toByteArray_ofList, List.utf8Encode_append, encode_append,
    List.length_append, Nat.add_zero] using octets

theorem slice?_rest (before rest : List Char) :
    slice? (String.ofList (before ++ rest)) (encode before).length
      (String.ofList (before ++ rest)).utf8ByteSize = some (String.ofList rest) := by
  have sliced := slice?_eq_some before rest []
  rwa [List.append_nil, ← utf8ByteSize_ofList (before ++ rest)] at sliced

end Positions

end EventDelivery.Text
