import EventDelivery.Proofs.OctetOrder
import EventDelivery.Proofs.UrlSections

/-!
# Queries before and after their escapes

The query of a URL is written with escapes for what a query cannot hold.  A reader of
form pairs finds the same pairs in it as in the text that was given.
-/

namespace EventDelivery

open Text

namespace Percent

/-- What forms are divided and read by is kept. -/
structure KeepsForm (keep : Char → Bool) : Prop where
  signs : keep '%' = true ∧ keep '+' = true ∧ keep '&' = true ∧ keep '=' = true
  digits : ∀ c, isHexDigit c = true → keep c = true

theorem keepsForm_inQuery (special : Bool) : KeepsForm (inQuery special) where
  signs := by cases special <;> decide
  digits := by
    have each : ∀ n, n < 128 → isHexDigit (Char.ofNat n) = true →
        inQuery special (Char.ofNat n) = true := by
      cases special <;> decide
    intro c digit
    have small : c.toNat < 128 := by
      simp only [isHexDigit, Char.isDigit, Bool.or_eq_true, Bool.and_eq_true,
        decide_eq_true_eq, Char.le_def, UInt32.le_iff_toNat_le] at digit
      rcases digit with (⟨_, high⟩ | ⟨_, high⟩) | ⟨_, high⟩ <;>
        exact Nat.lt_of_le_of_lt high (by decide)
    rw [← Char.ofNat_toNat c] at digit ⊢
    exact each _ small digit

private theorem decode_hexDigits {a b : Char} (high : isHexDigit a = true)
    (low : isHexDigit b = true)
    (rest : List Char) :
    decode ('%' :: a :: b :: rest) =
      .ofNat (16 * hexDigitValue a + hexDigitValue b) :: decode rest := by
  simp [decode, high, low]

/-- A text does not start with two hexadecimal digits. -/
def Unpaired (cs : List Char) : Prop :=
  ∀ a b rest, cs = a :: b :: rest → isHexDigit a = true → isHexDigit b = true → False

theorem decode_sign {rest : List Char} (unpaired : Unpaired rest) :
    decode ('%' :: rest) = 0x25 :: decode rest := by
  match rest with
  | [] => rfl
  | [a] => rfl
  | a :: b :: after =>
      have other : ¬ (isHexDigit a && isHexDigit b) = true := by
        rw [Bool.and_eq_true]
        rintro ⟨high, low⟩
        exact unpaired a b after rfl high low
      rw [decode, if_neg other]

variable {keep : Char → Bool} {c : Char}

theorem encode_cons (keep : Char → Bool) (c : Char) (rest : List Char) :
    encode keep (c :: rest) = encode keep [c] ++ encode keep rest := by
  simp [encode]

theorem encode_append (keep : Char → Bool) (first second : List Char) :
    encode keep (first ++ second) = encode keep first ++ encode keep second :=
  List.flatMap_append

/-- A form value in escapes, with blanks for plus signs. -/
def spaced (keep : Char → Bool) (cs : List Char) : List Char := (encode keep cs).map blank

theorem spaced_of_keep (kept : keep c = true) (rest : List Char) :
    spaced keep (c :: rest) = blank c :: spaced keep rest := by
  rw [spaced, encode_cons, encode_singleton, if_pos kept]
  rfl

private theorem spaced_of_not_keep (unkept : ¬ keep c = true) (rest : List Char) :
    spaced keep (c :: rest) = (utf8 c).flatMap escape ++ spaced keep rest := by
  rw [spaced, encode_cons, encode_singleton, if_neg unkept, List.map_append,
    map_blank_eq_self (plus_not_mem_escapes _)]
  rfl

private theorem blank_of_hexDigit (digit : isHexDigit c = true) : blank c = c := by
  unfold blank
  split
  · rename_i plus
    exact absurd (plus ▸ digit) (by decide)
  · rfl

private theorem hexDigit_of_blank (digit : isHexDigit (blank c) = true) : blank c = c := by
  unfold blank at digit ⊢
  split at digit
  · exact absurd digit (by decide)
  · rename_i other
    exact if_neg other

theorem exists_cons_of_hexDigit {cs tail : List Char} (written : spaced keep cs = c :: tail)
    (digit : isHexDigit c = true) :
    ∃ rest, cs = c :: rest ∧ spaced keep rest = tail := by
  cases cs with
  | nil => cases written
  | cons d rest =>
      by_cases kept : keep d = true
      · rw [spaced_of_keep kept] at written
        obtain ⟨rfl, same⟩ := List.cons.inj written
        exact ⟨rest, by rw [hexDigit_of_blank digit], same⟩
      · obtain ⟨octet, octets, held⟩ := List.exists_cons_of_ne_nil (utf8_ne_nil d)
        rw [spaced_of_not_keep kept, held] at written
        obtain ⟨rfl, _⟩ := List.cons.inj written
        exact absurd digit (by decide)

theorem Unpaired.spaced {cs : List Char} (unpaired : Unpaired cs) (keep : Char → Bool) :
    Unpaired (spaced keep cs) := by
  intro a b after written high low
  obtain ⟨rest, rfl, same⟩ := exists_cons_of_hexDigit written high
  obtain ⟨last, rfl, _⟩ := exists_cons_of_hexDigit same low
  exact unpaired a b last rfl high low

private theorem spaced_true (cs : List Char) : spaced (fun _ => true) cs = cs.map blank := by
  simp [spaced, encode]

namespace KeepsForm

variable (keeps : KeepsForm keep)

include keeps

theorem decode_spaced_sign {rest : List Char}
    (later : decode (spaced keep rest) = decode (rest.map blank))
    (behind : ∀ a b after, rest = a :: b :: after →
      decode (spaced keep after) = decode (after.map blank)) :
    decode (spaced keep ('%' :: rest)) = decode (('%' :: rest).map blank) := by
  have kept : spaced keep ('%' :: rest) = '%' :: spaced keep rest :=
    spaced_of_keep keeps.signs.1 rest
  have given : ('%' :: rest).map blank = '%' :: rest.map blank := rfl
  rw [kept, given]
  by_cases unpaired : Unpaired rest
  · rw [decode_sign (unpaired.spaced keep), later, ← spaced_true,
      decode_sign (unpaired.spaced _)]
  · simp only [Unpaired, not_forall] at unpaired
    obtain ⟨a, b, after, rfl, high, low, _⟩ := unpaired
    rw [spaced_of_keep (keeps.digits a high), spaced_of_keep (keeps.digits b low),
      List.map_cons, List.map_cons, blank_of_hexDigit high, blank_of_hexDigit low,
      decode_hexDigits high low, decode_hexDigits high low, behind a b after rfl]

/-- Escapes stand for the octets of what was given, whether it was escaped already or is
now. -/
theorem decode_spaced (cs : List Char) :
    decode (spaced keep cs) = decode (cs.map blank) := by
  induction length : cs.length using Nat.strongRecOn generalizing cs with
  | ind n induction =>
      cases cs with
      | nil => rfl
      | cons c rest =>
          rw [List.length_cons] at length
          have later := induction rest.length (by omega) rest rfl
          by_cases sign : c = '%'
          · rw [sign]
            apply keeps.decode_spaced_sign later
            rintro a b after rfl
            simp only [List.length_cons] at length
            exact induction after.length (by omega) after rfl
          · have shown : blank c ≠ '%' := by
              unfold blank
              split
              · decide
              · exact sign
            rw [List.map_cons, decode_cons shown]
            by_cases kept : keep c = true
            · rw [spaced_of_keep kept, decode_cons shown, later]
            · have other : c ≠ '+' := by
                rintro rfl
                exact kept keeps.signs.2.1
              rw [spaced_of_not_keep kept, decode_escapes_append, later, blank, if_neg other]

private theorem readFormValue_encode (cs : List Char) :
    readFormValue (encode keep cs) = readFormValue cs := by
  rw [readFormValue_eq, readFormValue_eq]
  exact congrArg (fun octets => String.ofList (decodeUtf8 octets)) (keeps.decode_spaced cs)

end KeepsForm

section Marks

variable {mark : Char} (other : mark ≠ '%' ∧ inForm mark = false) (kept : keep mark = true)

include other kept

theorem splitFirst?_encode (cs : List Char) :
    splitFirst? mark (encode keep cs) =
      (splitFirst? mark cs).map fun parts => (encode keep parts.1, encode keep parts.2) := by
  by_cases member : mark ∈ cs
  · obtain ⟨before, after, rfl, absent⟩ := List.eq_append_cons_of_mem member
    have written : mark ∉ encode keep before := fun member =>
      absent (mem_of_mem_encode other member).1
    rw [encode_append, encode_cons, encode_singleton, if_pos kept, List.singleton_append,
      splitFirst?_append written, splitFirst?_append absent]
    rfl
  · have written : mark ∉ encode keep cs := fun held => member (mem_of_mem_encode other held).1
    rw [splitFirst?_eq_none written, splitFirst?_eq_none member]
    rfl

theorem splitOn_encode (cs : List Char) :
    splitOn mark (encode keep cs) = (splitOn mark cs).map (encode keep) := by
  induction cs with
  | nil => rfl
  | cons c rest induction =>
      by_cases same : c = mark
      · subst same
        rw [encode_cons, encode_singleton, if_pos kept, List.singleton_append, splitOn,
          if_pos rfl, induction, splitOn, if_pos rfl]
        rfl
      · have absent : mark ∉ [c] := fun member => same (List.mem_singleton.mp member).symm
        have written : mark ∉ encode keep [c] := fun member =>
          absent (mem_of_mem_encode other member).1
        have given := splitOn_append_of_not_mem absent rest
        rw [List.singleton_append] at given
        rw [encode_cons, splitOn_append_of_not_mem written, induction, given]
        cases splitOn mark rest with
        | nil => rfl
        | cons part parts =>
            simp only [List.map_cons, List.modifyHead_cons, List.singleton_append]
            rw [encode_cons keep c part]

end Marks

/-- Form pairs are read from a text with escapes as from the text that was given. -/
theorem KeepsForm.readForm_encode (keeps : KeepsForm keep) (cs : List Char) :
    readForm (encode keep cs) = readForm cs := by
  have pairs : readFormPair ∘ encode keep = readFormPair := by
    funext part
    have divided := splitFirst?_encode (by decide) keeps.signs.2.2.2 part
    rw [Function.comp_apply, readFormPair, readFormPair, divided]
    cases splitFirst? '=' part with
    | none => simp only [Option.map_none, Option.getD_none, keeps.readFormValue_encode]
    | some parts => simp only [Option.map_some, Option.getD_some, keeps.readFormValue_encode]
  have filled : (fun part => !part.isEmpty) ∘ encode keep = fun part => !part.isEmpty := by
    funext part
    rw [Function.comp_apply]
    cases part with
    | nil => rfl
    | cons c rest =>
        rw [encode_cons, encode_singleton]
        obtain ⟨octet, octets, held⟩ := List.exists_cons_of_ne_nil (utf8_ne_nil c)
        split <;> simp [held, escape]
  rw [readForm_eq, readForm_eq, splitOn_encode (by decide) keeps.signs.2.2.1, List.filter_map,
    List.map_map, pairs, filled]

end Percent

namespace Url

theorem cut_append_left {mark : Char} {before : List Char} (absent : mark ∉ before)
    (rest : List Char) :
    cut mark (before ++ rest) = (before ++ (cut mark rest).1, (cut mark rest).2) := by
  have others : ∀ c, c ∈ before → decide (c ≠ mark) = true := by
    intro c member
    exact decide_eq_true fun same => absent (same ▸ member)
  unfold cut splitFirst?
  rw [List.dropWhile_append_of_pos others, List.takeWhile_append_of_pos others]
  cases rest.dropWhile fun c => c ≠ mark <;> rfl

theorem exists_append_of_scheme {cs rest : List Char} {scheme : String}
    (found : scheme? cs = some (scheme, rest)) :
    ∃ before, cs = before ++ rest ∧ Unmarked before := by
  unfold scheme? at found
  split at found
  · rename_i c name after divided
    split at found
    · rename_i named
      cases found
      obtain ⟨rfl, _⟩ := splitFirst?_eq_some_iff.mp divided
      obtain ⟨letter, listed⟩ := Bool.and_eq_true_iff.mp named
      have unmarked : Unmarked (c :: name) := by
        intro d member
        rcases List.mem_cons.mp member with rfl | later
        · constructor <;> rintro rfl <;> exact absurd letter (by decide)
        · have held := List.all_eq_true.mp listed d later
          constructor <;> rintro rfl <;> exact absurd held (by decide)
      have colon : Unmarked [':'] := by decide
      exact ⟨c :: name ++ [':'], by simp, unmarked_append.mpr ⟨unmarked, colon⟩⟩
    · cases found
  · cases found

/-- What a reader finds in the query of a text is what the URL of the text has. -/
theorem pairs_significant {text : String} {url : Url} (read : parse text = .ok url) :
    (sections (String.ofList (significant text))).pairs = url.queryPairs := by
  obtain ⟨scheme, rest, front, found, _, rfl⟩ := parts_of_parse read
  obtain ⟨before, given, unmarked⟩ := exists_append_of_scheme found
  have keeps := Percent.keepsForm_inQuery (isSpecial scheme)
  have fragment := cut_append_left (fun member => (unmarked '#' member).2 rfl) rest
  have query := cut_append_left (fun member => (unmarked '?' member).1 rfl) (cut '#' rest).1
  rw [given, sections, String.toList_ofList, fragment]
  simp only [query, Sections.pairs, queryPairs]
  cases (cut '?' (cut '#' rest).1).2 with
  | none => rfl
  | some cs => simp only [Option.map_some, String.toList_ofList, keeps.readForm_encode]

end Url

end EventDelivery
