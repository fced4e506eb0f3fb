import EventDelivery.Proofs.AssocLookup
import EventDelivery.Proofs.JsonEquality
import EventDelivery.Schema.Compile
import Mathlib.Tactic.Tauto

/-!
# What keywords say

The keywords that generated schemas are made of, each with the condition that
the standard gives it, and the theorem that a schema of these keywords finds
nothing in a value exactly when all of the conditions hold.
-/

namespace EventDelivery

namespace Subschema.Maker

variable {α : Type}

theorem contents_eq_map (maker : Maker α) (base : String)
    (members : List (String × Json)) :
    maker.contents base members =
      members.map fun member => (member.1, maker.content base member.1 member.2) := by
  induction members with
  | nil => rfl
  | cons member rest induction => simp [contents, induction]

theorem ofMembers_eq_map (maker : Maker α) (base : String)
    (members : List (String × Json)) :
    maker.ofMembers base members =
      members.map fun member => (member.1, maker.of base member.2) := by
  induction members with
  | nil => rfl
  | cons member rest induction => simp [ofMembers, induction]

private theorem get?_contents (maker : Maker α) (base keyword : String)
    (members : List (String × Json)) :
    Assoc.get? keyword (maker.contents base members) =
      (Assoc.get? keyword members).map (maker.content base keyword) := by
  rw [contents_eq_map]
  exact Assoc.get?_map keyword (maker.content base) members

theorem get?_ofMembers (maker : Maker α) (base key : String)
    (members : List (String × Json)) :
    Assoc.get? key (maker.ofMembers base members) =
      (Assoc.get? key members).map (maker.of base) := by
  rw [ofMembers_eq_map]
  exact Assoc.get?_map key (fun _ => maker.of base) members

end Subschema.Maker

/-- What checking a value against the value of a schema finds. -/
abbrev SchemaCheck := Json → Checker

namespace Keyword

/-- `type` names a type of the value, or lists one. -/
def TypeHolds (keyword : Option Json) (value : Json) : Prop :=
  ∀ types, Rules.typesOf keyword = some types →
    ∃ type, type ∈ types ∧ type.holds value = true

/-- `enum` lists a value that is equal. -/
def EnumHolds (keyword : Option Json) (value : Json) : Prop :=
  ∀ values, keyword = some (.arr values) →
    ∃ listed, listed ∈ values ∧ value.Equal listed

/-- `format` constrains texts; a name that is not known says nothing. -/
def FormatHolds (keyword : Option Json) (value : Json) : Prop :=
  ∀ name, keyword = some (.str name) →
    ∀ format, Format.ofName? name = some format →
      ∀ text, value = .str text → format.accepts text = true

/-- `required` lists keys that an object has. -/
def RequiredHolds (keyword : Option Json) (value : Json) : Prop :=
  ∀ names, keyword = some (.arr names) →
    ∀ members, value = .obj members →
      ∀ name, .str name ∈ names → (Assoc.get? name members).isSome = true

/-- `properties` holds the schemas for the values at keys. -/
def PropertiesHold (check : SchemaCheck) (keyword : Option Json)
    (location : Pointer) (value : Json) : Prop :=
  ∀ schemas, keyword = some (.obj schemas) →
    ∀ members, value = .obj members →
      ∀ name inner, (name, inner) ∈ members →
        ∀ schema, Assoc.get? name schemas = some schema →
          check schema (location ++ [name]) inner = []

/-- `additionalProperties` with `false` refuses the keys that `properties`
does not hold. -/
def AdditionalHolds (keyword properties : Option Json) (value : Json) : Prop :=
  keyword = some (.bool false) →
    ∀ members, value = .obj members →
      ∀ name inner, (name, inner) ∈ members →
        ∃ schemas, properties = some (.obj schemas) ∧
          (Assoc.get? name schemas).isSome = true

/-- `items` holds the schema for the items of an array. -/
def ItemsHold (check : SchemaCheck) (keyword : Option Json)
    (location : Pointer) (value : Json) : Prop :=
  ∀ schema, keyword = some (.obj schema) →
    ∀ items : List Json, value = .arr items →
      ∀ (position : Nat) (item : Json), items[position]? = some item →
        check (.obj schema) (location ++ [toString position]) item = []

end Keyword

/-- The keywords that generated schemas are made of. -/
def generatedKeywords : List String :=
  ["$schema", "additionalProperties", "description", "enum", "format", "items",
    "properties", "required", "title", "type"]

/-- The members of a schema that is made of these keywords; items have one
schema, and what is not described is accepted or refused as a whole. -/
structure Generated (members : List (String × Json)) : Prop where
  keywords : ∀ keyword, keyword ∉ generatedKeywords →
    Assoc.get? keyword members = none
  additional : ∀ schema,
    Assoc.get? "additionalProperties" members ≠ some (.obj schema)
  items : ∀ schemas, Assoc.get? "items" members ≠ some (.arr schemas)

namespace Rules

private theorem checkTypes_eq_nil_iff {members : List (String × Json)}
    (location : Pointer) (value : Json) :
    (Rules.ofKeywords members).checkTypes location value = [] ↔
      Keyword.TypeHolds (Assoc.get? "type" members) value := by
  cases known : typesOf (Assoc.get? "type" members) with
  | none => simp [checkTypes, ofKeywords, Keyword.TypeHolds, known]
  | some types => simp [checkTypes, ofKeywords, Keyword.TypeHolds, known]

theorem checkValues_eq_nil_iff {members : List (String × Json)}
    (location : Pointer) (value : Json) :
    (Rules.ofKeywords members).checkValues location value = [] ↔
      Keyword.EnumHolds (Assoc.get? "enum" members) value := by
  cases known : Assoc.get? "enum" members with
  | none => simp [checkValues, ofKeywords, Keyword.EnumHolds, known]
  | some listed =>
      cases listed <;>
        simp [checkValues, ofKeywords, Keyword.EnumHolds, known, Json.items?,
          Json.same_iff_equal]

theorem checkFormat_eq_nil_iff {members : List (String × Json)}
    (location : Pointer) (value : Json) :
    (Rules.ofKeywords members).checkFormat location value = [] ↔
      Keyword.FormatHolds (Assoc.get? "format" members) value := by
  cases known : Assoc.get? "format" members with
  | none => simp [checkFormat, ofKeywords, Keyword.FormatHolds, known]
  | some named =>
      cases named with
      | str name =>
          cases meant : Format.ofName? name with
          | none =>
              simp [checkFormat, ofKeywords, Keyword.FormatHolds, known,
                Json.text?, meant]
          | some format =>
              cases value <;>
                simp [checkFormat, ofKeywords, Keyword.FormatHolds, known,
                  Json.text?, meant]
      | _ => simp [checkFormat, ofKeywords, Keyword.FormatHolds, known, Json.text?]

theorem mem_namesOf {names : List Json} {name : String} :
    name ∈ namesOf (some (.arr names)) ↔ .str name ∈ names := by
  constructor
  · intro member
    obtain ⟨value, valueMember, text⟩ := List.mem_filterMap.mp member
    cases value <;> simp_all [Json.text?]
  · intro member
    exact List.mem_filterMap.mpr ⟨_, member, rfl⟩

theorem checkRequired_eq_nil_iff {members : List (String × Json)}
    (location : Pointer) (value : Json) :
    (Rules.ofKeywords members).checkRequired location value = [] ↔
      Keyword.RequiredHolds (Assoc.get? "required" members) value := by
  cases value with
  | obj inside =>
      cases known : Assoc.get? "required" members with
      | none => simp [checkRequired, ofKeywords, Keyword.RequiredHolds, known, namesOf]
      | some listed =>
          cases listed with
          | arr names =>
              simp [checkRequired, ofKeywords, Keyword.RequiredHolds, known,
                mem_namesOf, Option.isSome_iff_ne_none]
          | _ =>
              simp [checkRequired, ofKeywords, Keyword.RequiredHolds, known, namesOf]
  | _ => simp [checkRequired, Keyword.RequiredHolds]

/-- Rules without the keywords that generated schemas never have. -/
structure Plain (rules : Rules) : Prop where
  pattern : rules.pattern = none
  least : rules.least = none
  greatest : rules.greatest = none
  unit : rules.unit = none
  counts : ∀ counted, rules.counts counted = {}
  distinct : rules.distinct = false

/-- The keywords that are not there find nothing. -/
theorem Plain.silent {rules : Rules} (plain : rules.Plain) (location : Pointer)
    (value : Json) :
    rules.checkPattern location value = [] ∧ rules.checkLeast location value = [] ∧
    rules.checkGreatest location value = [] ∧ rules.checkUnit location value = [] ∧
    (∀ counted, rules.checkLeastCount counted location value = []) ∧
    (∀ counted, rules.checkGreatestCount counted location value = []) ∧
    rules.checkDistinct location value = [] := by
  refine ⟨?_, ?_, ?_, ?_, ?_, ?_, ?_⟩
  · simp [checkPattern, plain.pattern]
  · simp [checkLeast, plain.least]
  · simp [checkGreatest, plain.greatest]
  · simp [checkUnit, plain.unit]
  · simp [checkLeastCount, plain.counts]
  · simp [checkGreatestCount, plain.counts]
  · simp [checkDistinct, plain.distinct]

theorem ofKeywords_plain {members : List (String × Json)}
    (generated : Generated members) : (Rules.ofKeywords members).Plain := by
  have absent := generated.keywords
  constructor
  · simp [ofKeywords, absent "pattern" (by decide)]
  · simp [ofKeywords, boundOf, absent "minimum" (by decide)]
  · simp [ofKeywords, boundOf, absent "maximum" (by decide)]
  · simp [ofKeywords, doubleOf, absent "multipleOf" (by decide)]
  · intro counted
    cases counted with
    | characters =>
        simp [ofKeywords, limitsOf, countOf, absent "minLength" (by decide),
          absent "maxLength" (by decide)]
    | items =>
        simp [ofKeywords, limitsOf, countOf, absent "minItems" (by decide),
          absent "maxItems" (by decide)]
    | properties =>
        simp [ofKeywords, limitsOf, countOf, absent "minProperties" (by decide),
          absent "maxProperties" (by decide)]
  · simp [ofKeywords, absent "uniqueItems" (by decide)]

end Rules

namespace Check

theorem mem_described_iff {known : List (String × Checker)} {location : Pointer}
    {members : List (String × Json)} {violation : Violation} :
    violation ∈ described known location members ↔
      ∃ name inner check, (name, inner) ∈ members ∧ Assoc.get? name known = some check ∧
        violation ∈ check (location ++ [name]) inner := by
  unfold described
  rw [List.mem_flatMap]
  constructor
  · rintro ⟨⟨name, inner⟩, member, found⟩
    cases listed : Assoc.get? name known with
    | none => simp [listed] at found
    | some check =>
        simp only [listed] at found
        exact ⟨name, inner, check, member, listed, found⟩
  · rintro ⟨name, inner, check, member, listed, found⟩
    exact ⟨(name, inner), member, by simpa [listed] using found⟩

theorem described_eq_nil_iff (known : List (String × Checker))
    (location : Pointer) (members : List (String × Json)) :
    described known location members = [] ↔
      ∀ name inner, (name, inner) ∈ members →
        ∀ check, Assoc.get? name known = some check →
          check (location ++ [name]) inner = [] := by
  simp only [List.eq_nil_iff_forall_not_mem, mem_described_iff]
  constructor
  · intro clear name inner member check listed violation found
    exact clear violation ⟨name, inner, check, member, listed, found⟩
  · rintro clear violation ⟨name, inner, check, member, listed, found⟩
    exact clear name inner member check listed violation found

/-- Without patterns, and with nothing to say about other keys, only the
described keys are checked. -/
theorem every_eq_described (known : List (String × Checker))
    (location : Pointer) (members : List (String × Json)) :
    every known [] nothing location members = described known location members := by
  unfold every described
  congr 1
  funext member
  cases Assoc.get? member.1 known <;> simp [fitting, nothing]

theorem unknown_eq_nil_iff (known : Option (List (String × Checker)))
    (location : Pointer) (members : List (String × Json)) :
    unknown known none location members = [] ↔
      ∀ name inner, (name, inner) ∈ members →
        ∃ checks, known = some checks ∧ (Assoc.get? name checks).isSome = true := by
  cases known with
  | none =>
      cases members with
      | nil => simp [unknown]
      | cons member rest =>
          obtain ⟨name, inner⟩ := member
          simp only [unknown, List.head?_cons, Option.map_some, Option.toList_some]
          constructor
          · intro empty
            simp at empty
          · intro accepted
            obtain ⟨checks, impossible, _⟩ :=
              accepted name inner List.mem_cons_self
            simp at impossible
  | some checks =>
      have noneLeft :
          (members.filter fun member => !isKnown checks [] member.1) = [] ↔
            ∀ name inner, (name, inner) ∈ members →
              (Assoc.get? name checks).isSome = true := by
        simp [List.filter_eq_nil_iff, isKnown, Option.isSome_iff_ne_none]
      simp only [Option.some.injEq, exists_eq_left', ← noneLeft]
      simp only [unknown, Option.getD_some, Option.getD_none]
      cases left : members.filter fun member => !isKnown checks [] member.1 with
      | nil => simp
      | cons first others => simp

theorem mem_items_iff {check : Checker} {location : Pointer} {start : Nat}
    {values : List Json} {violation : Violation} :
    violation ∈ items check location start values ↔
      ∃ (position : Nat) (item : Json), values[position]? = some item ∧
        violation ∈ check (location ++ [toString (start + position)]) item := by
  induction values generalizing start with
  | nil => simp [items]
  | cons value rest induction =>
      rw [items, List.mem_append, induction]
      constructor
      · rintro (head | ⟨position, item, found, later⟩)
        · exact ⟨0, value, rfl, head⟩
        · have shifted : start + 1 + position = start + (position + 1) := by omega
          exact ⟨position + 1, item, by simpa using found, shifted ▸ later⟩
      · rintro ⟨position, item, found, later⟩
        cases position with
        | zero =>
            have same : value = item := by simpa using found
            exact .inl (same ▸ later)
        | succ position =>
            have shifted : start + (position + 1) = start + 1 + position := by omega
            exact .inr ⟨position, item, by simpa using found, shifted ▸ later⟩

theorem items_eq_nil_iff (check : Checker) (location : Pointer) (start : Nat)
    (values : List Json) :
    items check location start values = [] ↔
      ∀ (position : Nat) (item : Json), values[position]? = some item →
        check (location ++ [toString (start + position)]) item = [] := by
  simp only [List.eq_nil_iff_forall_not_mem, mem_items_iff]
  constructor
  · intro clear position item found violation member
    exact clear violation ⟨position, item, found, member⟩
  · rintro clear violation ⟨position, item, found, member⟩
    exact clear position item found violation member

/-- Rules of the generated keywords, and nothing that tries the value as a whole, find
what one of the parts finds. -/
theorem mem_together_iff {rules : Rules} (plain : rules.Plain)
    {known : Option (List (String × Checker))} {others : Others Checker}
    {its : Items Checker} {location : Pointer} {value : Json} {violation : Violation} :
    violation ∈ together rules known none others its {} [] location value ↔
      violation ∈ rules.checkTypes location value ∨
      violation ∈ rules.checkValues location value ∨
      violation ∈ rules.checkFormat location value ∨
      violation ∈ rules.checkRequired location value ∨
      (violation ∈ (keys known none others location value).1 ∨
        violation ∈ (keys known none others location value).2) ∨
      violation ∈ (positions its location value).1 ∨
      violation ∈ (positions its location value).2 := by
  obtain ⟨pattern, least, greatest, unit, leastCount, greatestCount, distinct⟩ :=
    plain.silent location value
  have asked : dependencies [] location value = [] := by
    cases value <;> rfl
  unfold together
  simp only [pattern, least, greatest, unit, leastCount, greatestCount, distinct, asked,
    all, any, one, List.flatMap_nil, List.isEmpty_nil, Bool.true_or, if_true,
    List.mem_append, List.not_mem_nil, or_false]
  tauto

theorem together_eq_nil_iff {rules : Rules} (plain : rules.Plain)
    (known : Option (List (String × Checker))) (others : Others Checker)
    (its : Items Checker) (location : Pointer) (value : Json) :
    together rules known none others its {} [] location value = [] ↔
      rules.checkTypes location value = [] ∧ rules.checkValues location value = [] ∧
      rules.checkFormat location value = [] ∧
      rules.checkRequired location value = [] ∧
      ((keys known none others location value).1 = [] ∧
        (keys known none others location value).2 = []) ∧
      (positions its location value).1 = [] ∧
      (positions its location value).2 = [] := by
  simp only [List.eq_nil_iff_forall_not_mem, mem_together_iff plain, not_or, forall_and]

end Check

namespace Schema

theorem get?_checkers (follow : Reference → Checker) (name : String)
    (schemas : List (String × Schema)) :
    Assoc.get? name (checkers follow schemas) =
      (Assoc.get? name schemas).map (violations follow) := by
  induction schemas with
  | nil => rfl
  | cons entry rest induction =>
      obtain ⟨other, schema⟩ := entry
      by_cases same : other = name
      · simp [checkers, Assoc.get?, same]
      · simpa [checkers, Assoc.get?, same] using induction

/-- What is not described, accepted or refused as a whole. -/
def otherKeys : Bool → Others Schema
  | true => .refused
  | false => .free

/-- Items with one schema, or without any. -/
def oneForItems : Option Schema → Items Schema
  | some schema => .every schema
  | none => .free

/-- A schema of the generated keywords finds nothing exactly when each of its
parts finds nothing. -/
theorem violations_plain_eq_nil_iff {rules : Rules} (plain : rules.Plain)
    (known : Option (List (String × Schema))) (refuses : Bool)
    (item : Option Schema) (follow : Reference → Checker) (location : Pointer)
    (value : Json) :
    (Schema.of rules known none (otherKeys refuses) (oneForItems item) {} []).violations
        follow location value = [] ↔
      rules.checkTypes location value = [] ∧ rules.checkValues location value = [] ∧
      rules.checkFormat location value = [] ∧
      rules.checkRequired location value = [] ∧
      (∀ members, value = .obj members →
        Check.described (checkers follow (known.getD [])) location members = []) ∧
      (refuses = true → ∀ members, value = .obj members →
        Check.unknown (known.map (checkers follow)) none location members = []) ∧
      (∀ schema, item = some schema → ∀ items, value = .arr items →
        Check.items (violations follow schema) location 0 items = []) := by
  have described : checkersIn follow known = known.map (checkers follow) := by
    cases known <;> rfl
  have values :
      (known.map (checkers follow)).getD [] = checkers follow (known.getD []) := by
    cases known <;> rfl
  have inKeys :
      ((Check.keys (checkersIn follow known) none (otherChecker follow (otherKeys refuses))
          location value).1 = [] ∧
        (Check.keys (checkersIn follow known) none
          (otherChecker follow (otherKeys refuses)) location value).2 = []) ↔
      (∀ members, value = .obj members →
        Check.described (checkers follow (known.getD [])) location members = []) ∧
      (refuses = true → ∀ members, value = .obj members →
        Check.unknown (known.map (checkers follow)) none location members = []) := by
    cases value with
    | obj members =>
        cases refuses <;>
          simp [Check.keys, otherKeys, otherChecker, Check.every_eq_described,
            Check.matched, values, described]
    | _ => simp [Check.keys]
  have inItems :
      ((Check.positions (itemCheckers follow (oneForItems item)) location value).1 = [] ∧
        (Check.positions (itemCheckers follow (oneForItems item)) location value).2 = []) ↔
      (∀ schema, item = some schema → ∀ items, value = .arr items →
        Check.items (violations follow schema) location 0 items = []) := by
    cases value with
    | arr values =>
        cases item <;> simp [Check.positions, oneForItems, itemCheckers]
    | _ => simp [Check.positions]
  rw [violations]
  simp only [patternCheckersIn, trialCheckers, bannedChecker, checkerList, checkers]
  rw [Check.together_eq_nil_iff plain, inKeys, inItems]
  tauto

/-- How schemas are made. -/
abbrev maker : Subschema.Maker Schema := { make := ofContents, other := ofOther }

/-- The schemas that `properties` holds. -/
def knownOf (base : String) : Option Json → Option (List (String × Schema))
  | some (.obj schemas) =>
      some (maker.ofMembers base schemas)
  | _ => none

/-- The schema that `items` holds. -/
def itemOf (base : String) : Option Json → Option Schema
  | some (.obj schema) => some (ofJson base (.obj schema))
  | _ => none

theorem keyedOf_properties (base : String) (keyword : Option Json) :
    keyedOf (keyword.map (maker.content base "properties")) = knownOf base keyword := by
  cases keyword with
  | none => rfl
  | some value =>
      have keyed : Subschema.isKeyed "properties" = true := by decide
      have notOne : Subschema.isOne "properties" = false := by decide
      have notListed : Subschema.isListed "properties" = false := by decide
      cases value <;>
        simp [Subschema.Maker.content, keyed, notOne, notListed, keyedOf, knownOf]

theorem othersOf_flag (base : String) {keyword : Option Json}
    (flag : ∀ schema, keyword ≠ some (.obj schema)) :
    othersOf keyword (keyword.map (maker.content base "additionalProperties")) =
      otherKeys (decide (keyword = some (.bool false))) := by
  have notListed : Subschema.isListed "additionalProperties" = false := by decide
  cases keyword with
  | none => rfl
  | some value =>
      cases value with
      | obj schema => exact absurd rfl (flag schema)
      | bool accepted => cases accepted <;> rfl
      | arr items => simp [Subschema.Maker.content, notListed, othersOf, otherKeys]
      | _ => simp [Subschema.Maker.content, othersOf, otherKeys]

theorem itemsOf_one (base : String) (others : Others Schema) {keyword : Option Json}
    (one : ∀ schemas, keyword ≠ some (.arr schemas)) :
    itemsOf others (keyword.map (maker.content base "items")) =
      oneForItems (itemOf base keyword) := by
  have isOne : Subschema.isOne "items" = true := by decide
  cases keyword with
  | none => rfl
  | some value =>
      cases value with
      | arr schemas => exact absurd rfl (one schemas)
      | obj schema =>
          simp [Subschema.Maker.content, isOne, itemsOf, itemOf, oneForItems, ofJson,
            Subschema.Maker.of]
      | _ => rfl

/-- What a schema of the generated keywords is read as. -/
theorem ofJson_generated {members : List (String × Json)}
    (generated : Generated members) (base : String) :
    ofJson base (.obj members) =
      .of (Rules.ofKeywords members) (knownOf base (Assoc.get? "properties" members)) none
        (otherKeys
          (decide (Assoc.get? "additionalProperties" members = some (.bool false))))
        (oneForItems (itemOf base (Assoc.get? "items" members))) {} [] := by
  have absent := generated.keywords
  have noReference : Assoc.get? "$ref" members = none := absent _ (by decide)
  have noId : Assoc.get? "id" members = none := absent _ (by decide)
  have sameBase : Subschema.baseIn base members = base := by
    simp [Subschema.baseIn, Subschema.id?, Subschema.reference?, noReference, noId]
  have noPatterns := absent "patternProperties" (by decide)
  have noAll := absent "allOf" (by decide)
  have noAny := absent "anyOf" (by decide)
  have noOne := absent "oneOf" (by decide)
  have noNot := absent "not" (by decide)
  have noDependencies := absent "dependencies" (by decide)
  unfold ofJson
  rw [Subschema.Maker.of, sameBase]
  simp only [ofContents, Subschema.reference?, noReference, Option.bind_none,
    Subschema.Maker.get?_contents]
  rw [keyedOf_properties, othersOf_flag base generated.additional,
    itemsOf_one base _ generated.items]
  simp [noPatterns, noAll, noAny, noOne, noNot, noDependencies, keyedOf, listOf,
    excludedOf]

theorem checkers_knownOf_iff (base : String) (follow : Reference → Checker)
    (keyword : Option Json) (location : Pointer) (value : Json) :
    (∀ members, value = .obj members →
        Check.described (checkers follow ((knownOf base keyword).getD [])) location
          members = []) ↔
      Keyword.PropertiesHold (fun schema => (ofJson base schema).violations follow)
        keyword location value := by
  have found : ∀ name schemas, Assoc.get? name
      (checkers follow ((knownOf base (some (.obj schemas))).getD [])) =
        (Assoc.get? name schemas).map
          fun schema => (ofJson base schema).violations follow := by
    intro name schemas
    simp only [knownOf, Option.getD_some, get?_checkers, Subschema.Maker.get?_ofMembers,
      Option.map_map]
    rfl
  simp only [Check.described_eq_nil_iff, Keyword.PropertiesHold]
  cases keyword with
  | none => simp [knownOf, checkers, Assoc.get?]
  | some given =>
      cases given with
      | obj schemas => simp [found]
      | _ => simp [knownOf, checkers, Assoc.get?]

theorem unknown_knownOf_iff (base : String) (follow : Reference → Checker)
    (keyword properties : Option Json) (location : Pointer) (value : Json) :
    (decide (keyword = some (.bool false)) = true → ∀ members, value = .obj members →
        Check.unknown ((knownOf base properties).map (checkers follow)) none location
          members = []) ↔
      Keyword.AdditionalHolds keyword properties value := by
  have known : ∀ name,
      (∃ checks, (knownOf base properties).map (checkers follow) = some checks ∧
        (Assoc.get? name checks).isSome = true) ↔
      ∃ schemas, properties = some (.obj schemas) ∧
        (Assoc.get? name schemas).isSome = true := by
    intro name
    cases properties with
    | none => simp [knownOf]
    | some given =>
        cases given <;>
          simp [knownOf, get?_checkers, Subschema.Maker.get?_ofMembers]
  simp only [Check.unknown_eq_nil_iff, Keyword.AdditionalHolds, known,
    decide_eq_true_eq]

theorem items_itemOf_iff (base : String) (follow : Reference → Checker)
    (keyword : Option Json) (location : Pointer) (value : Json) :
    (∀ schema, itemOf base keyword = some schema → ∀ items, value = .arr items →
        Check.items (violations follow schema) location 0 items = []) ↔
      Keyword.ItemsHold (fun schema => (ofJson base schema).violations follow)
        keyword location value := by
  simp only [Check.items_eq_nil_iff, Keyword.ItemsHold, Nat.zero_add]
  cases keyword with
  | none => simp [itemOf]
  | some given => cases given <;> simp [itemOf]

/-- A schema of the generated keywords finds nothing in a value exactly when what
each of its keywords says holds of the value. -/
theorem ofJson_eq_nil_iff {members : List (String × Json)}
    (generated : Generated members) (base : String) (follow : Reference → Checker)
    (location : Pointer) (value : Json) :
    (ofJson base (.obj members)).violations follow location value = [] ↔
      Keyword.TypeHolds (Assoc.get? "type" members) value ∧
      Keyword.EnumHolds (Assoc.get? "enum" members) value ∧
      Keyword.FormatHolds (Assoc.get? "format" members) value ∧
      Keyword.RequiredHolds (Assoc.get? "required" members) value ∧
      Keyword.PropertiesHold (fun schema => (ofJson base schema).violations follow)
        (Assoc.get? "properties" members) location value ∧
      Keyword.AdditionalHolds (Assoc.get? "additionalProperties" members)
        (Assoc.get? "properties" members) value ∧
      Keyword.ItemsHold (fun schema => (ofJson base schema).violations follow)
        (Assoc.get? "items" members) location value := by
  rw [ofJson_generated generated, violations_plain_eq_nil_iff
    (Rules.ofKeywords_plain generated), Rules.checkTypes_eq_nil_iff,
    Rules.checkValues_eq_nil_iff, Rules.checkFormat_eq_nil_iff,
    Rules.checkRequired_eq_nil_iff]
  rw [checkers_knownOf_iff, unknown_knownOf_iff, items_itemOf_iff]

end Schema

end EventDelivery
