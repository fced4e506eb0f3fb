import EventDelivery.Proofs.RequestHeaders

/-!
# Layers of request options

Layering is associative, and options without any member leave the other layer as it is
but for the case of its header names.  Of every header, search parameter and single
member the upper layer decides where it says something, and the lower one elsewhere.
-/

namespace EventDelivery

namespace Keyed

variable {α : Type}

/-- Maps that hold the same at every key are the same. -/
theorem eq_of_get?_eq {first second : Keyed α}
    (same : ∀ key, first.get? key = second.get? key) : first = second := by
  have distinct : ∀ map : Keyed α, map.entries.Nodup := fun map =>
    .of_map _ (Assoc.nodup_keys map.sorted)
  have members : ∀ entry, entry ∈ first.entries ↔ entry ∈ second.entries := by
    rintro ⟨key, value⟩
    rw [← Assoc.get?_eq_some_iff first.sorted, ← Assoc.get?_eq_some_iff second.sorted]
    exact Iff.of_eq (congrArg (· = some value) (same key))
  have permuted : first.entries.Perm second.entries :=
    (List.perm_ext_iff_of_nodup (distinct first) (distinct second)).mpr members
  -- of all orders of the same entries only one ascends
  refine ext (permuted.eq_of_pairwise ?_ first.sorted second.sorted)
  intro entry other _ _ below above
  exact absurd above (String.lt_asymm below)

theorem get?_union (lower upper : Keyed α) (key : String) :
    (lower.union upper).get? key = (upper.get? key).or (lower.get? key) := by
  rw [union, insertAll, get?, Assoc.get?_insertAll, Assoc.last?_eq_get? upper.sorted]
  rfl

theorem union_assoc (first second third : Keyed α) :
    (first.union second).union third = first.union (second.union third) := by
  apply eq_of_get?_eq
  intro key
  simp only [get?_union, Option.or_assoc]

@[simp] theorem empty_union (map : Keyed α) : union ∅ map = map := by
  apply eq_of_get?_eq
  intro key
  rw [get?_union]
  exact Option.or_none

@[simp] theorem union_empty (map : Keyed α) : map.union ∅ = map := rfl

@[simp] theorem union_self (map : Keyed α) : map.union map = map := by
  apply eq_of_get?_eq
  intro key
  rw [get?_union, Option.or_self]

end Keyed

namespace Text

/-- No character is a capital letter of ASCII. -/
def IsSmall (s : String) : Prop := ∀ c, c ∈ s.toList → ¬ ('A' ≤ c ∧ c ≤ 'Z')

theorem toLower_eq_self_iff (c : Char) : c.toLower = c ↔ ¬ ('A' ≤ c ∧ c ≤ 'Z') := by
  unfold Char.toLower
  split
  · rename_i capital
    refine iff_of_false (fun same => ?_) (not_not_intro capital)
    have shifted := congrArg Char.val same
    simp at shifted
  · rename_i other
    exact iff_of_true rfl other

theorem lower_eq_self_iff {s : String} : lower s = s ↔ IsSmall s := by
  rw [lower, ← String.toList_inj, String.toList_ofList]
  conv => lhs; rhs; rw [← List.map_id s.toList]
  simp only [List.map_inj_left, id, toLower_eq_self_iff, IsSmall]

end Text

namespace RequestOptions

/-- What two layers say together: what the upper one says, and where it says nothing
what the lower one says. -/
def Layered {α : Type} (lower upper merged : α → Prop) : Prop :=
  ∀ value, merged value ↔ upper value ∨ (∀ other, ¬ upper other) ∧ lower value

theorem layered_or {α : Type} (lower upper : Option α) :
    Layered (lower = some ·) (upper = some ·) (upper.or lower = some ·) := by
  intro value
  cases upper <;> simp

/-- Options are those of two layers, member by member; of the headers those decide that
are the same but for the case of their names. -/
structure Overlays (lower upper merged : RequestOptions) : Prop where
  headers : ∀ name,
    Layered (lower.headers.Decides name) (upper.headers.Decides name)
      (merged.headers.Decides name)
  searchParams : ∀ name,
    Layered (lower.searchParams.get? name = some ·) (upper.searchParams.get? name = some ·)
      (merged.searchParams.get? name = some ·)
  method : Layered (lower.method = some ·) (upper.method = some ·) (merged.method = some ·)
  json : Layered (lower.json = some ·) (upper.json = some ·) (merged.json = some ·)
  body : Layered (lower.body = some ·) (upper.body = some ·) (merged.body = some ·)
  username : Layered (lower.username = some ·) (upper.username = some ·)
    (merged.username = some ·)
  password : Layered (lower.password = some ·) (upper.password = some ·)
    (merged.password = some ·)
  timeout : Layered (lower.timeout = some ·) (upper.timeout = some ·)
    (merged.timeout = some ·)
  throwHttpErrors : Layered (lower.throwHttpErrors = some ·)
    (upper.throwHttpErrors = some ·) (merged.throwHttpErrors = some ·)

/-- Options are others with the names of their headers in small letters: of names that
are the same but for their case the greatest one decides. -/
structure Lowers (options small : RequestOptions) : Prop where
  others : small = { options with headers := small.headers }
  headers : ∀ name value, small.headers.get? name = some value ↔
    Text.IsSmall name ∧ options.headers.Decides name value

/-- The options with the names of their headers in small letters. -/
def lowered (options : RequestOptions) : RequestOptions :=
  { options with headers := .ofList (lowerHeaders options.headers) }

theorem lowers_lowered (options : RequestOptions) : options.Lowers options.lowered := by
  refine ⟨rfl, ?_⟩
  intro name value
  have found : options.lowered.headers.get? name =
      Assoc.last? name (lowerHeaders options.headers) := Assoc.get?_ofList _ _
  rw [found, ← Text.lower_eq_self_iff]
  constructor
  · intro last
    have small := lower_of_last?_lowerHeaders last
    exact ⟨small, (last?_lowerHeaders_eq_some_iff small).mp last⟩
  · rintro ⟨small, decides⟩
    exact (last?_lowerHeaders_eq_some_iff small).mpr decides

section Headers

variable (lower upper : RequestOptions) (name : String)

/-- Headers of merged options have small names, so that another layer finds them as they
are. -/
theorem last?_lowerHeaders_merge :
    Assoc.last? name (lowerHeaders (lower.merge upper).headers) =
      (Assoc.last? name (lowerHeaders upper.headers)).or
        (Assoc.last? name (lowerHeaders lower.headers)) := by
  rw [lowerHeaders_eq_entries fun header member => lower_name_of_mem_merge member,
    Assoc.last?_eq_get? (lower.merge upper).headers.sorted, get?_merge_headers]

theorem layered_headers :
    Layered (lower.headers.Decides name) (upper.headers.Decides name)
      ((lower.merge upper).headers.Decides name) := by
  have small : Text.lower (Text.lower name) = Text.lower name := Text.lower_lower name
  have decides : ∀ (headers : Keyed String) value, headers.Decides name value ↔
      Assoc.last? (Text.lower name) (lowerHeaders headers) = some value := by
    intro headers value
    rw [last?_lowerHeaders_eq_some_iff small]
    simp only [Keyed.Decides, Text.SameButCase, small]
  intro value
  simp only [decides, last?_lowerHeaders_merge]
  exact layered_or _ _ value

end Headers

theorem merge_overlays (lower upper : RequestOptions) :
    Overlays lower upper (lower.merge upper) where
  headers := layered_headers lower upper
  searchParams name := by
    simp only [merge, Keyed.get?_union]
    exact layered_or _ _
  method := layered_or _ _
  json := layered_or _ _
  body := layered_or _ _
  username := layered_or _ _
  password := layered_or _ _
  timeout := layered_or _ _
  throwHttpErrors := layered_or _ _

theorem merge_assoc (first second third : RequestOptions) :
    (first.merge second).merge third = first.merge (second.merge third) := by
  have headers : ((first.merge second).merge third).headers =
      (first.merge (second.merge third)).headers := by
    apply Keyed.eq_of_get?_eq
    intro name
    simp only [Keyed.get?, get?_merge_headers, last?_lowerHeaders_merge, Option.or_assoc]
  have searchParams : ((first.merge second).merge third).searchParams =
      (first.merge (second.merge third)).searchParams := Keyed.union_assoc _ _ _
  have single : ∀ {α : Type} (lower middle upper : Option α),
      upper.or (middle.or lower) = (upper.or middle).or lower :=
    fun _ _ _ => Option.or_assoc.symm
  rw [merge, merge, mk.injEq]
  exact ⟨single _ _ _, headers, single _ _ _, single _ _ _, searchParams, single _ _ _,
    single _ _ _, single _ _ _, single _ _ _⟩

theorem empty_merge (options : RequestOptions) : merge {} options = options.lowered := by
  simp only [merge, Option.or_none, Keyed.empty_union]
  rfl

theorem merge_empty (options : RequestOptions) : options.merge {} = options.lowered := rfl

theorem merge_self (options : RequestOptions) :
    options.merge options = options.lowered := by
  have headers : (options.merge options).headers = options.lowered.headers := by
    apply Keyed.eq_of_get?_eq
    intro name
    rw [Keyed.get?, get?_merge_headers, Option.or_self]
    exact (Assoc.get?_ofList _ _).symm
  rw [merge, mk.injEq]
  exact ⟨Option.or_self, headers, Option.or_self, Option.or_self, Keyed.union_self _,
    Option.or_self, Option.or_self, Option.or_self, Option.or_self⟩

/-- Layering is associative.  Over or under options without any member, or under
themselves, options stay as they are but for header names, which come in small letters.
In every layering the upper options decide whatever they set, the lower ones the rest. -/
theorem layers_form_monoid (first second third : RequestOptions) :
    (first.merge second).merge third = first.merge (second.merge third) ∧
    (∃ small, first.Lowers small ∧ merge {} first = small ∧ first.merge {} = small ∧
      first.merge first = small) ∧
    (∀ header, header ∈ (first.merge second).headers.entries → Text.IsSmall header.1) ∧
    Overlays first second (first.merge second) := by
  refine ⟨merge_assoc first second third, ?_, ?_, merge_overlays first second⟩
  · exact ⟨first.lowered, lowers_lowered first, empty_merge first, merge_empty first,
      merge_self first⟩
  · intro header member
    exact Text.lower_eq_self_iff.mp (lower_name_of_mem_merge member)

def twiceSpelled : RequestOptions where
  headers := .ofList [("X-KEY", "first"), ("x-Key", "last")]
  timeout := some 5

def onceSpelled : RequestOptions where
  headers := .ofList [("x-KEY", "upper")]

theorem spelled_layers_form_monoid :
    (merge {} twiceSpelled).headers.entries = [("x-key", "last")] ∧
    (twiceSpelled.merge onceSpelled).headers.entries = [("x-key", "upper")] ∧
    (twiceSpelled.merge onceSpelled).timeout = some 5 ∧
    (onceSpelled.merge twiceSpelled).headers.entries = [("x-key", "last")] ∧
    Text.IsSmall "x-key" ∧
    twiceSpelled.headers.Decides "x-key" "last" := by
  have layered : (twiceSpelled.merge onceSpelled).headers.entries = [("x-key", "upper")] := by
    decide +kernel
  -- the general statements give the last two facts; the others are computed
  obtain ⟨_, ⟨small, lowers, under, _⟩, smalls, _⟩ :=
    layers_form_monoid twiceSpelled onceSpelled {}
  have alone : small.headers.get? "x-key" = some "last" := by
    rw [← under]
    decide +kernel
  have name : Text.IsSmall "x-key" := smalls ("x-key", "upper") (by simp [layered])
  exact ⟨by decide +kernel, layered, rfl, by decide +kernel, name,
    ((lowers.headers _ _).mp alone).2⟩

end RequestOptions

end EventDelivery
