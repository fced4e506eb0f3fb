import EventDelivery.Http.Message
import Mathlib.Tactic.SplitIfs

/-!
# The order of texts among octets

Texts are ordered by their characters.  Their octets are ordered alike: the first
octet in which two characters differ tells which of them is greater.
-/

namespace EventDelivery

namespace Text

theorem ofNat_cons_lt {m n : Nat} {rest other : List UInt8} (order : m ≤ n)
    (octet : n < 0x100) (later : m = n → rest < other) :
    UInt8.ofNat m :: rest < UInt8.ofNat n :: other := by
  rw [List.cons_lt_cons_iff]
  rcases Nat.lt_or_eq_of_le order with less | same
  · left
    rw [UInt8.lt_iff_toNat_lt, UInt8.toNat_ofNat_of_lt' (Nat.lt_trans less octet),
      UInt8.toNat_ofNat_of_lt' octet]
    exact less
  · exact .inr ⟨congrArg UInt8.ofNat same, later same⟩

theorem utf8_append_lt {c d : Char} (below : c < d) (rest other : List UInt8) :
    utf8 c ++ rest < utf8 d ++ other := by
  have order : c.toNat < d.toNat := below
  have top : d.toNat < 0x110000 := by
    rcases d.valid with low | ⟨_, high⟩
    · have : d.toNat < 0xd800 := low
      omega
    · exact high
  unfold utf8
  dsimp only
  -- fewer octets start with a lesser one, and as many are compared one by one
  split_ifs
  all_goals
    simp only [List.cons_append, List.nil_append]
    repeat' refine ofNat_cons_lt (by omega) (by omega) fun same => ?_
    omega

theorem utf8_ne_nil (c : Char) : utf8 c ≠ [] := by
  unfold utf8
  dsimp only
  split_ifs <;> exact List.cons_ne_nil _ _

theorem flatMap_utf8_lt {cs ds : List Char} (below : cs < ds) :
    cs.flatMap utf8 < ds.flatMap utf8 := by
  induction below with
  | @nil d ds =>
      obtain ⟨octet, rest, octets⟩ := List.exists_cons_of_ne_nil (utf8_ne_nil d)
      rw [List.flatMap_cons, octets]
      exact List.nil_lt_cons _ _
  | rel order => exact utf8_append_lt order _ _
  | cons _ induction => exact List.append_left_lt induction

end Text

namespace PreparedRequest

variable {first second : String}

theorem octets_lt_iff : octets first < octets second ↔ first < second := by
  constructor
  · intro below
    -- otherwise the second text is the first one, or comes before it
    refine Decidable.byContradiction fun notBelow => ?_
    by_cases above : second < first
    · exact List.lt_asymm below (Text.flatMap_utf8_lt (String.lt_iff.mp above))
    · have same : first = second := String.le_antisymm above notBelow
      exact List.lt_irrefl _ (same ▸ below)
  · intro below
    exact Text.flatMap_utf8_lt (String.lt_iff.mp below)

theorem octets_le_iff : octets first ≤ octets second ↔ first ≤ second :=
  not_congr octets_lt_iff

end PreparedRequest

end EventDelivery
