import EventDelivery.Text.Utf8
import Mathlib.Tactic.SplitIfs

/-!
# Reading the octets of characters

The first octet of a character tells how many follow, and the range of the second one
leaves out what would be no character or one of fewer octets.  So characters are read
back from their octets, whatever follows.
-/

namespace EventDelivery

namespace Text

theorem startOctet_ofNat {m : Nat} (octet : m < 0x100) :
    startOctet (.ofNat m) =
      if m < 0x80 then some (.inl (Char.ofNat m))
      else if 0xc2 ≤ m ∧ m ≤ 0xdf then some (.inr ⟨m - 0xc0, 0, (0x80, 0xbf)⟩)
      else if m = 0xe0 then some (.inr ⟨0, 1, (0xa0, 0xbf)⟩)
      else if m = 0xed then some (.inr ⟨0xd, 1, (0x80, 0x9f)⟩)
      else if 0xe1 ≤ m ∧ m ≤ 0xef then some (.inr ⟨m - 0xe0, 1, (0x80, 0xbf)⟩)
      else if m = 0xf0 then some (.inr ⟨0, 2, (0x90, 0xbf)⟩)
      else if 0xf1 ≤ m ∧ m ≤ 0xf3 then some (.inr ⟨m - 0xf0, 2, (0x80, 0xbf)⟩)
      else if m = 0xf4 then some (.inr ⟨4, 2, (0x80, 0x8f)⟩)
      else none := by
  have value : (UInt8.ofNat m).toNat = m := UInt8.toNat_ofNat_of_lt' octet
  simp only [startOctet, UInt8.lt_iff_toNat_lt, UInt8.le_iff_toNat_le, ← UInt8.toNat_inj, value]
  rfl

section Continuation

variable {d : Nat} (value left : Nat) (rest : List UInt8)

theorem readOctets_within {low high : Nat} (above : low ≤ 0x80 + d) (below : 0x80 + d ≤ high)
    (octet : high < 0x100) :
    readOctets (some ⟨value, left, (.ofNat low, .ofNat high)⟩) (.ofNat (0x80 + d) :: rest) =
      match left with
      | 0 => some (Char.ofNat (0x40 * value + d)) :: readOctets none rest
      | left + 1 => readOctets (some ⟨0x40 * value + d, left, (0x80, 0xbf)⟩) rest := by
  have small : 0x80 + d < 0x100 := Nat.lt_of_le_of_lt below octet
  have lowest : low < 0x100 := Nat.lt_of_le_of_lt above small
  have within : UInt8.ofNat low ≤ .ofNat (0x80 + d) ∧ .ofNat (0x80 + d) ≤ UInt8.ofNat high := by
    simp only [UInt8.le_iff_toNat_le, UInt8.toNat_ofNat_of_lt' small,
      UInt8.toNat_ofNat_of_lt' lowest, UInt8.toNat_ofNat_of_lt' octet]
    exact ⟨above, below⟩
  cases left <;>
    rw [readOctets, if_pos within, UInt8.toNat_ofNat_of_lt' small, Nat.add_sub_cancel_left]

private theorem readOctets_last (bits : d < 0x40) :
    readOctets (some ⟨value, 0, (0x80, 0xbf)⟩) (.ofNat (0x80 + d) :: rest) =
      some (Char.ofNat (0x40 * value + d)) :: readOctets none rest :=
  @readOctets_within d value 0 rest 0x80 0xbf (by omega) (by omega) (by omega)

private theorem readOctets_later (bits : d < 0x40) :
    readOctets (some ⟨value, left + 1, (0x80, 0xbf)⟩) (.ofNat (0x80 + d) :: rest) =
      readOctets (some ⟨0x40 * value + d, left, (0x80, 0xbf)⟩) rest :=
  @readOctets_within d value (left + 1) rest 0x80 0xbf (by omega) (by omega) (by omega)

end Continuation

/-- The first octet of three waits for a second one that makes no character of fewer
octets, and none of those that are left out. -/
theorem startOctet_three {n : Nat} (least : 0x800 ≤ n) (most : n < 0x10000)
    (valid : n < 0xd800 ∨ 0xdfff < n) :
    ∃ low high, startOctet (.ofNat (0xe0 + n / 0x1000)) =
        some (.inr ⟨n / 0x1000, 1, (.ofNat low, .ofNat high)⟩) ∧
      low ≤ 0x80 + n / 0x40 % 0x40 ∧ 0x80 + n / 0x40 % 0x40 ≤ high ∧ high < 0x100 := by
  rw [startOctet_ofNat (by omega), if_neg (by omega), if_neg (by omega)]
  by_cases lowest : n / 0x1000 = 0
  · refine ⟨0xa0, 0xbf, ?_, by omega, by omega, by omega⟩
    rw [lowest]
    rfl
  · rw [if_neg (by omega)]
    by_cases gap : n / 0x1000 = 0xd
    · refine ⟨0x80, 0x9f, ?_, by omega, by omega, by omega⟩
      rw [gap]
      rfl
    · refine ⟨0x80, 0xbf, ?_, by omega, by omega, by omega⟩
      rw [if_neg (by omega), if_pos (by omega), Nat.add_sub_cancel_left]
      rfl

/-- The first octet of four waits for a second one that makes no character of fewer
octets, and none beyond the last. -/
theorem startOctet_four {n : Nat} (least : 0x10000 ≤ n) (most : n < 0x110000) :
    ∃ low high, startOctet (.ofNat (0xf0 + n / 0x40000)) =
        some (.inr ⟨n / 0x40000, 2, (.ofNat low, .ofNat high)⟩) ∧
      low ≤ 0x80 + n / 0x1000 % 0x40 ∧ 0x80 + n / 0x1000 % 0x40 ≤ high ∧ high < 0x100 := by
  rw [startOctet_ofNat (by omega), if_neg (by omega), if_neg (by omega), if_neg (by omega),
    if_neg (by omega), if_neg (by omega)]
  by_cases lowest : n / 0x40000 = 0
  · refine ⟨0x90, 0xbf, ?_, by omega, by omega, by omega⟩
    rw [lowest]
    rfl
  · rw [if_neg (by omega)]
    by_cases highest : n / 0x40000 = 4
    · refine ⟨0x80, 0x8f, ?_, by omega, by omega, by omega⟩
      rw [highest]
      rfl
    · refine ⟨0x80, 0xbf, ?_, by omega, by omega, by omega⟩
      rw [if_pos (by omega), Nat.add_sub_cancel_left]
      rfl

theorem readOctets_utf8_append (c : Char) (rest : List UInt8) :
    readOctets none (utf8 c ++ rest) = some c :: readOctets none rest := by
  have char : Char.ofNat c.toNat = c := Char.ofNat_toNat c
  have valid : c.toNat < 0xd800 ∨ 0xdfff < c.toNat ∧ c.toNat < 0x110000 := c.valid
  unfold utf8
  generalize c.toNat = n at *
  dsimp only
  split_ifs with one two three
  · rw [List.singleton_append, readOctets, startOctet_ofNat (by omega), if_pos one, char]
  · have first : startOctet (.ofNat (0xc0 + n / 0x40)) =
        some (.inr ⟨n / 0x40, 0, (0x80, 0xbf)⟩) := by
      rw [startOctet_ofNat (by omega), if_neg (by omega), if_pos (by omega),
        Nat.add_sub_cancel_left]
    have number : 0x40 * (n / 0x40) + n % 0x40 = n := Nat.div_add_mod n 0x40
    rw [List.cons_append, readOctets, first]
    dsimp only
    rw [List.singleton_append, readOctets_last _ _ (by omega), number, char]
  · obtain ⟨low, high, first, above, below, octet⟩ :=
      startOctet_three (Nat.not_lt.mp two) three (by omega)
    have number : 0x40 * (0x40 * (n / 0x1000) + n / 0x40 % 0x40) + n % 0x40 = n := by omega
    rw [List.cons_append, readOctets, first]
    dsimp only
    rw [List.cons_append, readOctets_within _ _ _ above below octet]
    dsimp only
    rw [List.singleton_append, readOctets_last _ _ (by omega), number, char]
  · obtain ⟨low, high, first, above, below, octet⟩ :=
      startOctet_four (Nat.not_lt.mp three) (by omega)
    have number : 0x40 * (0x40 * (0x40 * (n / 0x40000) + n / 0x1000 % 0x40) +
        n / 0x40 % 0x40) + n % 0x40 = n := by omega
    rw [List.cons_append, readOctets, first]
    dsimp only
    rw [List.cons_append, readOctets_within _ _ _ above below octet]
    dsimp only
    rw [List.cons_append, readOctets_later _ _ _ (by omega), List.singleton_append,
      readOctets_last _ _ (by omega), number, char]

theorem decodeUtf8_flatMap_utf8 (cs : List Char) : decodeUtf8 (cs.flatMap utf8) = cs := by
  have read : readOctets none (cs.flatMap utf8) = cs.map some := by
    induction cs with
    | nil => rfl
    | cons c cs induction =>
        rw [List.flatMap_cons, readOctets_utf8_append, induction, List.map_cons]
  rw [decodeUtf8, read, List.map_map]
  exact List.map_id cs

end Text

end EventDelivery
