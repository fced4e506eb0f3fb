import EventDelivery.Proofs.AssocLookup
import EventDelivery.Wire.Scalar

/-!
# Reading values that are not records

Texts, flags, words, values that may be null, lists and maps are read as they were
written.
-/

namespace EventDelivery

theorem exists_ok_of_bind {fault α β : Type} {first : Except fault α}
    {next : α → Except fault β} {result : β} (succeeds : first >>= next = .ok result) :
    ∃ made, first = .ok made ∧ next made = .ok result := by
  cases first with
  | error _ => contradiction
  | ok made => exact ⟨made, rfl, succeeds⟩

/-- What is seen of a result has been made. -/
theorem exists_ok_of_toOption {fault α β : Type} {outcome : Except fault α} {look : α → β}
    {seen : β} (known : outcome.toOption.map look = some seen) :
    ∃ made, outcome = .ok made ∧ look made = seen := by
  cases outcome with
  | error _ => contradiction
  | ok made => exact ⟨made, rfl, Option.some.inj known⟩

theorem Json.filter_ne_null_eq_self_iff {given : Option Json} :
    (given.filter fun value => value ≠ .null) = given ↔ given ≠ some .null := by
  cases given with
  | none => simp
  | some value => by_cases null : value = .null <;> simp [Option.filter, null]

namespace Wire

variable {α : Type}

theorem text_str (text : String) : Wire.text (.str text) = .ok text := rfl

theorem flag_bool (flag : Bool) : Wire.flag (.bool flag) = .ok flag := rfl

theorem any_ok (value : Json) : Wire.any value = .ok value := rfl

theorem nullable_text (text : String) :
    nullable Wire.text (.str text) = .ok (some text) := rfl

theorem nullable_flag (flag : Bool) :
    nullable Wire.flag (.bool flag) = .ok (some flag) := rfl

theorem nullable_eq_ok_iff {decode : Json → Decoded α} {value : Json}
    {result : Option α} :
    nullable decode value = .ok result ↔
      value = .null ∧ result = none ∨
      ∃ made, value ≠ .null ∧ decode value = .ok made ∧ result = some made := by
  cases value with
  | null => simp [nullable, eq_comm]
  | _ =>
      all_goals
        simp only [nullable, reduceCtorEq, false_and, false_or, ne_eq, not_false_eq_true,
          true_and]
        cases decode _ <;> simp [Except.map, eq_comm]

theorem nullable_any (value : Json) :
    nullable Wire.any value = .ok ((some value).filter fun given => given ≠ .null) := by
  cases value <;> simp [nullable, Wire.any, Except.map, Option.filter]

theorem nullable_ofMembers {decode : Json → Decoded α}
    {members : List (String × Json)} {result : α}
    (decodes : decode (.ofMembers members) = .ok result) :
    nullable decode (.ofMembers members) = .ok (some result) :=
  congrArg (Except.map some) decodes

theorem decodeItems_ok {β : Type} (decode : Json → Decoded α) (encode : β → Json)
    (f : β → α) (decodes : ∀ item, decode (encode item) = .ok (f item)) (items : List β) :
    Wire.decodeItems decode (items.map encode) = .ok (items.map f) := by
  induction items with
  | nil => rfl
  | cons item rest induction =>
      simp [Wire.decodeItems, decodes, induction, bind, Except.bind]

theorem keyed_ok {decode : Json → Decoded α} {encode : α → Json}
    (decodes : ∀ value, decode (encode value) = .ok value) (map : Keyed α) :
    keyed decode (.obj (map.entries.map fun entry => (entry.1, encode entry.2))) =
      .ok map := by
  have members : ∀ entries : List (String × α),
      Wire.decodeMembers decode (entries.map fun entry => (entry.1, encode entry.2)) =
        .ok entries := by
    intro entries
    induction entries with
    | nil => rfl
    | cons entry rest induction =>
        simp [Wire.decodeMembers, decodes, induction, bind, Except.bind]
  have same : Keyed.ofList map.entries = map := Keyed.ext (Assoc.ofList_eq_self map.sorted)
  rw [Wire.keyed, members, Except.map, same]

theorem below_ofNat {bound n : Nat} (name : String) (small : n < bound)
    (word : bound ≤ UInt64.size) : Wire.below bound name (.ofNat n) = .ok n := by
  have fits : -9223372036854775808 ≤ (n : Int) ∧ (n : Int) < 18446744073709551616 := by
    have size : UInt64.size = 18446744073709551616 := rfl
    omega
  have held : (0 : Int) ≤ n ∧ (n : Int) < bound := by omega
  rw [Json.ofNat, Json.ofInt, Number.ofInt, dif_pos fits, Wire.below, if_pos held,
    Int.toNat_natCast]

theorem word16_ofNat (word : UInt16) :
    Wire.word16 (.ofNat word.toNat) = .ok word := by
  rw [Wire.word16, Wire.below_ofNat "u16" word.toNat_lt (by decide), Except.map,
    UInt16.ofNat_toNat]

private theorem word64_ofNat (word : UInt64) :
    Wire.word64 (.ofNat word.toNat) = .ok word := by
  rw [Wire.word64, Wire.below_ofNat "u64" word.toNat_lt (by decide), Except.map,
    UInt64.ofNat_toNat]

theorem nullable_word64 (word : UInt64) :
    Wire.nullable Wire.word64 (.ofNat word.toNat) = .ok (some word) := by
  have number : ∀ number, Wire.nullable Wire.word64 (.num number) =
      (Wire.word64 (.num number)).map some := fun _ => rfl
  rw [Json.ofNat, Json.ofInt, number, ← Json.ofInt, ← Json.ofNat, Wire.word64_ofNat,
    Except.map]

end Wire

end EventDelivery
