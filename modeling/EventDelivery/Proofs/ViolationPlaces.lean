import EventDelivery.Proofs.FieldCleaning
import EventDelivery.Proofs.KeywordSemantics

/-!
# Where violations are

What a schema of the generated keywords finds is at the value itself, or is found by
one of the schemas inside of it in what the value holds, one step further.
-/

namespace EventDelivery

namespace Rules

variable {rules : Rules} {location : Pointer} {value : Json} {violation : Violation}

private theorem location_of_mem_ite {accepted : Prop} [Decidable accepted] {offence : Offence}
    (found : violation ∈ if accepted then [] else [⟨location, offence⟩]) :
    violation.location = location := by
  split at found
  · simp at found
  · rw [List.mem_singleton.mp found]

private theorem location_of_mem_checkTypes (found : violation ∈ rules.checkTypes location value) :
    violation.location = location := by
  unfold checkTypes at found
  split at found
  · exact location_of_mem_ite found
  · simp at found

private theorem location_of_mem_checkValues
    (found : violation ∈ rules.checkValues location value) :
    violation.location = location := by
  unfold checkValues at found
  split at found
  · exact location_of_mem_ite found
  · simp at found

private theorem location_of_mem_checkFormat
    (found : violation ∈ rules.checkFormat location value) :
    violation.location = location := by
  unfold checkFormat at found
  split at found
  · exact location_of_mem_ite found
  · simp at found

theorem location_of_mem_checkRequired
    (found : violation ∈ rules.checkRequired location value) :
    violation.location = location := by
  unfold checkRequired at found
  split at found
  · obtain ⟨name, _, rfl⟩ := List.mem_map.mp found
    rfl
  · simp at found

end Rules

namespace Check

variable {location : Pointer} {value : Json} {violation : Violation}

theorem location_of_mem_unknown {known : Option (List (String × Checker))}
    {members : List (String × Json)}
    (found : violation ∈ unknown known none location members) :
    violation.location = location := by
  unfold unknown at found
  split at found
  · cases members with
    | nil => simp at found
    | cons first rest =>
        simp only [List.head?_cons, Option.map_some, Option.toList_some,
          List.mem_singleton] at found
        rw [found]
  · split at found
    · simp at found
    · rw [List.mem_singleton.mp found]

end Check

namespace Schema

/-- The schema has a schema for what a value holds at a step: for a key of an object,
or for the items of an array. -/
inductive Descends (schema : Json) : Json → String → Json → Json → Prop where
  | key {members : List (String × Json)} {name : String} {inner inside : Json} :
      Clean.property? schema name = some inside → (name, inner) ∈ members →
      Descends schema (.obj members) name inner inside
  | item {items : List Json} {position : Nat} {inner : Json}
      {keywords : List (String × Json)} :
      schema.get? "items" = some (.obj keywords) → items[position]? = some inner →
      Descends schema (.arr items) (toString position) inner (.obj keywords)

theorem get?_checkers_knownOf (base : String) (follow : Reference → Checker)
    (keywords : List (String × Json)) (name : String) :
    Assoc.get? name
        (checkers follow ((knownOf base (Assoc.get? "properties" keywords)).getD [])) =
      (Clean.property? (.obj keywords) name).map
        fun schema => (ofJson base schema).violations follow := by
  unfold Clean.property?
  rw [Json.get?]
  cases Assoc.get? "properties" keywords with
  | none => rfl
  | some given =>
      cases given with
      | obj schemas =>
          simp only [knownOf, Option.getD_some, get?_checkers,
            Subschema.Maker.get?_ofMembers, Option.map_map, Option.bind_some, Json.get?]
          rfl
      | _ => rfl

/-- What is found in an object at its keys, beside what is found at the object. -/
theorem mem_keys_iff {base : String} {follow : Reference → Checker}
    {keywords : List (String × Json)} {refuses : Bool} {location : Pointer}
    {value : Json} {violation : Violation} :
    violation ∈ (Check.keys
        (checkersIn follow (knownOf base (Assoc.get? "properties" keywords))) none
        (otherChecker follow (otherKeys refuses)) location value).1 ∨
      violation ∈ (Check.keys
        (checkersIn follow (knownOf base (Assoc.get? "properties" keywords))) none
        (otherChecker follow (otherKeys refuses)) location value).2 ↔
      (∃ members, value = .obj members ∧ refuses = true ∧
        violation ∈ Check.unknown
          (checkersIn follow (knownOf base (Assoc.get? "properties" keywords))) none
          location members) ∨
      ∃ members name inner inside, value = .obj members ∧ (name, inner) ∈ members ∧
        Clean.property? (.obj keywords) name = some inside ∧
        violation ∈ (ofJson base inside).violations follow (location ++ [name]) inner := by
  have described : ∀ known : Option (List (String × Schema)),
      (checkersIn follow known).getD [] = checkers follow (known.getD []) := by
    rintro (_ | schemas) <;> rfl
  cases value with
  | obj members =>
      have inKeys : violation ∈ Check.described (checkers follow
            ((knownOf base (Assoc.get? "properties" keywords)).getD [])) location
            members ↔
          ∃ name inner inside, (name, inner) ∈ members ∧
            Clean.property? (.obj keywords) name = some inside ∧
            violation ∈
              (ofJson base inside).violations follow (location ++ [name]) inner := by
        simp only [Check.mem_described_iff, get?_checkers_knownOf, Option.map_eq_some_iff]
        constructor
        · rintro ⟨name, inner, _, member, ⟨inside, property, rfl⟩, found⟩
          exact ⟨name, inner, inside, member, property, found⟩
        · rintro ⟨name, inner, inside, member, property, found⟩
          exact ⟨name, inner, _, member, ⟨inside, property, rfl⟩, found⟩
      cases refuses <;>
        simp [Check.keys, otherKeys, otherChecker, Check.every_eq_described,
          Check.matched, described, inKeys, or_comm]
  | _ => simp [Check.keys]

theorem mem_positions_iff {base : String} {follow : Reference → Checker}
    {keyword : Option Json} {location : Pointer} {value : Json} {violation : Violation} :
    violation ∈ (Check.positions (itemCheckers follow (oneForItems (itemOf base keyword)))
        location value).1 ∨
      violation ∈ (Check.positions (itemCheckers follow (oneForItems (itemOf base keyword)))
        location value).2 ↔
      ∃ (items : List Json) (position : Nat) (inner : Json)
          (keywords : List (String × Json)), value = .arr items ∧
        keyword = some (.obj keywords) ∧ items[position]? = some inner ∧
        violation ∈ (ofJson base (.obj keywords)).violations follow
          (location ++ [toString position]) inner := by
  cases value with
  | arr items =>
      cases keyword with
      | none => simp [Check.positions, itemOf, oneForItems, itemCheckers]
      | some given =>
          cases given <;>
            simp [Check.positions, itemOf, oneForItems, itemCheckers, Check.mem_items_iff]
  | _ => simp [Check.positions]

/-- A schema of the generated keywords finds something at the value itself, or one of
the schemas inside of it finds it in what the value holds. -/
theorem mem_violations_iff {keywords : List (String × Json)}
    (generated : Generated keywords) {base : String} {follow : Reference → Checker}
    {location : Pointer} {value : Json} {violation : Violation} :
    violation ∈ (ofJson base (.obj keywords)).violations follow location value ↔
      violation ∈ (Rules.ofKeywords keywords).checkTypes location value ∨
      violation ∈ (Rules.ofKeywords keywords).checkValues location value ∨
      violation ∈ (Rules.ofKeywords keywords).checkFormat location value ∨
      violation ∈ (Rules.ofKeywords keywords).checkRequired location value ∨
      (∃ members, value = .obj members ∧
        Assoc.get? "additionalProperties" keywords = some (.bool false) ∧
        violation ∈ Check.unknown
          (checkersIn follow (knownOf base (Assoc.get? "properties" keywords))) none
          location members) ∨
      ∃ step inner inside, Descends (.obj keywords) value step inner inside ∧
        violation ∈ (ofJson base inside).violations follow (location ++ [step]) inner := by
  have descends :
      (∃ step inner inside, Descends (.obj keywords) value step inner inside ∧
        violation ∈ (ofJson base inside).violations follow (location ++ [step]) inner) ↔
      (∃ members name inner inside, value = .obj members ∧ (name, inner) ∈ members ∧
        Clean.property? (.obj keywords) name = some inside ∧
        violation ∈ (ofJson base inside).violations follow (location ++ [name]) inner) ∨
      ∃ (items : List Json) (position : Nat) (inner : Json)
          (item : List (String × Json)), value = .arr items ∧
        Assoc.get? "items" keywords = some (.obj item) ∧ items[position]? = some inner ∧
        violation ∈ (ofJson base (.obj item)).violations follow
          (location ++ [toString position]) inner := by
    constructor
    · rintro ⟨_, _, _, descends, found⟩
      cases descends with
      | key property member => exact .inl ⟨_, _, _, _, rfl, member, property, found⟩
      | item given at_ => exact .inr ⟨_, _, _, _, rfl, given, at_, found⟩
    · rintro (⟨_, _, _, _, rfl, member, property, found⟩ |
        ⟨_, _, _, _, rfl, given, at_, found⟩)
      · exact ⟨_, _, _, .key property member, found⟩
      · exact ⟨_, _, _, .item given at_, found⟩
  rw [descends, ofJson_generated generated, violations]
  simp only [patternCheckersIn, trialCheckers, bannedChecker, checkerList, checkers]
  rw [Check.mem_together_iff (Rules.ofKeywords_plain generated), mem_keys_iff,
    mem_positions_iff]
  simp only [decide_eq_true_eq, or_assoc]

variable {keywords : List (String × Json)} {base : String} {follow : Reference → Checker}
  {location : Pointer} {value inner inside : Json} {step : String} {violation : Violation}

theorem mem_violations_of_descends (generated : Generated keywords)
    (descends : Descends (.obj keywords) value step inner inside)
    (found : violation ∈
      (ofJson base inside).violations follow (location ++ [step]) inner) :
    violation ∈ (ofJson base (.obj keywords)).violations follow location value := by
  have deeper := (mem_violations_iff generated).mpr (.inr (.inr (.inr (.inr (.inr
    ⟨step, inner, inside, descends, found⟩)))))
  exact deeper

theorem located_or_descends (generated : Generated keywords)
    (found : violation ∈ (ofJson base (.obj keywords)).violations follow location value) :
    violation.location = location ∨
      ∃ step inner inside, Descends (.obj keywords) value step inner inside ∧
        violation ∈ (ofJson base inside).violations follow (location ++ [step]) inner := by
  rcases (mem_violations_iff generated).mp found with
    type | listed | format | required | ⟨_, _, _, unknown⟩ | deeper
  · exact .inl (Rules.location_of_mem_checkTypes type)
  · exact .inl (Rules.location_of_mem_checkValues listed)
  · exact .inl (Rules.location_of_mem_checkFormat format)
  · exact .inl (Rules.location_of_mem_checkRequired required)
  · exact .inl (Check.location_of_mem_unknown unknown)
  · exact .inr deeper

end Schema

end EventDelivery
