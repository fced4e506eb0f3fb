import EventDelivery.Proofs.FormPairs
import EventDelivery.Url.Host

/-!
# The texts of hosts

A question mark and a number sign end what stands before the query and the fragment of
a URL.  The host of a web scheme is written without either of them, whether it is a
name, with labels beyond ASCII in their digits, or an address.
-/

namespace EventDelivery

namespace Text

/-- Characters without the marks that a query and a fragment start with. -/
def Unmarked (cs : List Char) : Prop := ∀ c, c ∈ cs → c ≠ '?' ∧ c ≠ '#'

instance (cs : List Char) : Decidable (Unmarked cs) :=
  List.decidableBAll (fun c => c ≠ '?' ∧ c ≠ '#') cs

@[simp] theorem unmarked_append {first second : List Char} :
    Unmarked (first ++ second) ↔ Unmarked first ∧ Unmarked second :=
  List.forall_mem_append

private theorem unmarked_intercalate {separator : List Char} {parts : List (List Char)}
    (between : Unmarked separator) (each : ∀ part, part ∈ parts → Unmarked part) :
    Unmarked (separator.intercalate parts) := by
  intro c member
  rcases mem_of_mem_intercalate member with apart | ⟨part, held, inside⟩
  · exact between c apart
  · exact each part held c inside

theorem unmarked_toDigits {base : Nat} (several : 1 < base) (n : Nat) :
    Unmarked (Nat.toDigits base n) := by
  have digit : ∀ d, Unmarked [Nat.digitChar d] := by
    intro d c member
    rw [List.mem_singleton.mp member]
    exact ⟨Nat.digitChar_ne '?' (by decide), Nat.digitChar_ne '#' (by decide)⟩
  induction n using Nat.strongRecOn with
  | ind n induction =>
      rw [Nat.toDigits_eq_if several]
      split
      · exact digit n
      · rename_i large
        have positive : 0 < n := by omega
        have before := induction _ (Nat.div_lt_self positive several)
        exact unmarked_append.mpr ⟨before, digit _⟩

theorem unmarked_toString (n : Nat) : Unmarked (toString n).toList := by
  have digits : (toString n).toList = Nat.toDigits 10 n := Nat.toList_repr
  rw [digits]
  exact unmarked_toDigits (by decide) n

end Text

open Text

namespace Percent

/-- What is neither a percent sign nor kept in forms is no part of an escape: it is
written if it is kept. -/
theorem mem_of_mem_encode {mark : Char} (other : mark ≠ '%' ∧ inForm mark = false)
    {keep : Char → Bool} {cs : List Char} (member : mark ∈ encode keep cs) :
    mark ∈ cs ∧ keep mark = true := by
  obtain ⟨c, held, inside⟩ := List.mem_flatMap.mp member
  split at inside
  · rename_i kept
    rw [List.mem_singleton.mp inside]
    exact ⟨held, kept⟩
  · obtain ⟨octet, _, written⟩ := List.mem_flatMap.mp inside
    rcases mem_escape written with sign | form
    · exact absurd sign other.1
    · rw [other.2] at form
      cases form

theorem not_mem_encode {mark : Char} (other : mark ≠ '%' ∧ inForm mark = false)
    {keep : Char → Bool} (unkept : keep mark = false) (cs : List Char) :
    mark ∉ encode keep cs := by
  intro member
  have kept := (mem_of_mem_encode other member).2
  rw [unkept] at kept
  cases kept

theorem unmarked_encode {keep : Char → Bool} (question : keep '?' = false)
    (hash : keep '#' = false) (cs : List Char) : Unmarked (encode keep cs) := by
  intro c member
  constructor
  · rintro rfl
    exact not_mem_encode (by decide) question cs member
  · rintro rfl
    exact not_mem_encode (by decide) hash cs member

end Percent

namespace Punycode

theorem mem_digits {bias fuel position q : Nat} {c : Char}
    (member : c ∈ digits bias fuel position q) : ∃ value, value < 36 ∧ c = digit value := by
  induction fuel generalizing position q with
  | zero => cases member
  | succ fuel induction =>
      have bound : threshold position bias ≤ 26 := Nat.min_le_left _ _
      rw [digits] at member
      split at member
      · exact ⟨q, by omega, List.mem_singleton.mp member⟩
      · rcases List.mem_cons.mp member with first | later
        · have rest : (q - threshold position bias) % (36 - threshold position bias) <
              36 - threshold position bias := Nat.mod_lt _ (by omega)
          exact ⟨_, by omega, first⟩
        · exact induction later

/-- All that an encoder has written is digits. -/
private def Encoder.OnlyDigits (e : Encoder) : Prop :=
  ∀ c, c ∈ e.out → ∃ value, value < 36 ∧ c = digit value

namespace Encoder.OnlyDigits

variable {e : Encoder}

theorem pass (only : e.OnlyDigits) (basic code : Nat) (c : Char) :
    (Encoder.pass basic code e c).OnlyDigits := by
  unfold Encoder.pass
  split
  · exact only
  · split
    · intro d member
      rcases List.mem_append.mp member with before | step
      · exact only d before
      · exact mem_digits step
    · exact only

private theorem foldl_pass (only : e.OnlyDigits) (basic code : Nat) (label : List Char) :
    (label.foldl (Encoder.pass basic code) e).OnlyDigits := by
  induction label generalizing e with
  | nil => exact only
  | cons c label induction => exact induction (only.pass basic code c)

theorem place (only : e.OnlyDigits) (basic next : Nat) (label : List Char)
    (codes : List Nat) : (Encoder.place basic label e next codes).OnlyDigits := by
  induction codes generalizing e next with
  | nil => exact only
  | cons code codes induction =>
      have skipped : Encoder.OnlyDigits
          { e with delta := e.delta + (code - next) * (e.done + 1) } := only
      apply induction
      exact skipped.foldl_pass basic code label

end Encoder.OnlyDigits

theorem unmarked_encode {label : List Char} (unmarked : Unmarked label) :
    Unmarked (encode label) := by
  have plain : Unmarked (label.filter fun c => c.toNat < 128) :=
    fun c member => unmarked c (List.mem_filter.mp member).1
  have digits : ∀ value, value < 36 → digit value ≠ '?' ∧ digit value ≠ '#' := by decide
  rw [encode, unmarked_append]
  constructor
  · split
    · intro c member
      cases member
    · exact unmarked_append.mpr ⟨plain, by decide⟩
  · have start : Encoder.OnlyDigits
        ⟨[], 0, 72, (label.filter fun c => c.toNat < 128).length⟩ := by
      intro c member
      cases member
    intro c written
    obtain ⟨value, small, rfl⟩ := start.place _ _ _ _ c written
    exact digits value small

end Punycode

namespace Domain

theorem any_isDenied_of_label {label read : List Char} (found : label? label = some read) :
    read.any isDenied = false := by
  have sound : ∀ plain : List Char,
      (if plain.head?.any isMark || plain.any isDenied || !joinsWell [] plain then none
        else some plain) = some read → read.any isDenied = false := by
    intro plain checked
    split at checked
    · cases checked
    · rename_i passes
      cases checked
      simp only [Bool.or_eq_true, not_or, Bool.not_eq_true] at passes
      exact passes.1.2
  unfold label? at found
  dsimp only at found
  split at found
  · split at found
    · obtain ⟨plain, _, checked⟩ := Option.bind_eq_some_iff.mp found
      exact sound plain checked
    · cases found
  · exact sound _ found

theorem unmarked_of_label {label read : List Char} (found : label? label = some read) :
    Unmarked read := by
  have held := List.any_eq_false.mp (any_isDenied_of_label found)
  have marks : isDenied '?' = true ∧ isDenied '#' = true := by decide +kernel
  intro c member
  constructor
  · rintro rfl
    exact held _ member marks.1
  · rintro rfl
    exact held _ member marks.2

theorem unmarked_of_asciiLabel {label written : List Char} (unmarked : Unmarked label)
    (found : asciiLabel? label = some written) : Unmarked written := by
  unfold asciiLabel? at found
  split at found
  · cases found
    exact unmarked
  · split at found
    · cases found
    · cases found
      have mark : Unmarked ['x', 'n', '-', '-'] := by decide
      exact unmarked_append.mpr ⟨mark, Punycode.unmarked_encode unmarked⟩

theorem exists_of_mem_mapM {α β : Type} {f : α → Option β} {xs : List α} {ys : List β}
    (mapped : xs.mapM f = some ys) {y : β} (member : y ∈ ys) :
    ∃ x, x ∈ xs ∧ f x = some y := by
  induction xs generalizing ys with
  | nil =>
      cases mapped
      cases member
  | cons x xs induction =>
      rw [List.mapM_cons] at mapped
      obtain ⟨head, made, rest⟩ := Option.bind_eq_some_iff.mp mapped
      obtain ⟨tail, others, together⟩ := Option.bind_eq_some_iff.mp rest
      cases together
      rcases List.mem_cons.mp member with rfl | later
      · exact ⟨x, List.mem_cons_self, made⟩
      · obtain ⟨other, held, makes⟩ := induction others later
        exact ⟨other, List.mem_cons_of_mem x held, makes⟩

theorem unmarked_of_labels {name : List Char} {labels : List (List Char)}
    (found : labels? name = some labels) {label : List Char} (member : label ∈ labels) :
    Unmarked label := by
  obtain ⟨mapped, _, rest⟩ := Option.bind_eq_some_iff.mp found
  obtain ⟨read, parts, checked⟩ := Option.bind_eq_some_iff.mp rest
  split at checked
  · cases checked
  · cases checked
    obtain ⟨_, _, reads⟩ := exists_of_mem_mapM parts member
    exact unmarked_of_label reads

theorem unmarked_of_toAscii {name ascii : List Char} (found : toAscii? name = some ascii) :
    Unmarked ascii := by
  obtain ⟨labels, readable, rest⟩ := Option.bind_eq_some_iff.mp found
  obtain ⟨written, forms, joined⟩ := Option.bind_eq_some_iff.mp rest
  cases joined
  apply unmarked_intercalate (by decide)
  intro part member
  obtain ⟨label, held, writes⟩ := exists_of_mem_mapM forms member
  exact unmarked_of_asciiLabel (unmarked_of_labels readable held) writes

end Domain

namespace Host

private theorem unmarked_groupsText (groups : List Nat) : Unmarked (groupsText groups).toList := by
  rw [groupsText, String.toList_intercalate]
  apply unmarked_intercalate (by decide)
  intro part member
  simp only [List.map_map, List.mem_map, Function.comp_apply, String.toList_ofList] at member
  obtain ⟨group, _, rfl⟩ := member
  exact unmarked_toDigits (by decide) group

private theorem unmarked_ipv4 (value : Nat) : Unmarked (toText (.ipv4 value)).toList := by
  rw [toText, String.toList_intercalate]
  apply unmarked_intercalate (by decide)
  intro part member
  simp only [List.map_map, List.mem_map, Function.comp_apply] at member
  obtain ⟨unit, _, rfl⟩ := member
  exact unmarked_toString _

private theorem unmarked_ipv6 (groups : List Nat) : Unmarked (toText (.ipv6 groups)).toList := by
  have signs : Unmarked "[".toList ∧ Unmarked "::".toList ∧ Unmarked "]".toList := by decide
  unfold toText
  dsimp only
  split <;> simp only [String.toList_append, unmarked_append, unmarked_groupsText, signs,
    and_self]

theorem unmarked_of_ofWeb {cs : List Char} {host : Host} (made : ofWeb cs = .ok host) :
    Unmarked host.toText.toList := by
  unfold ofWeb at made
  split at made
  · unfold bracketed at made
    split at made
    · split at made
      · cases made
        exact unmarked_ipv6 _
      · cases made
    · cases made
  · split at made
    · cases made
    · rename_i ascii found
      obtain ⟨name, _, found⟩ := Option.bind_eq_some_iff.mp found
      split at made
      · cases made
      · split at made
        · split at made
          · cases made
            exact unmarked_ipv4 _
          · cases made
        · cases made
          rw [toText, String.toList_ofList]
          exact Domain.unmarked_of_toAscii found

end Host

end EventDelivery
