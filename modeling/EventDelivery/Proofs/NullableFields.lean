import EventDelivery.Proofs.FieldCompilation
import EventDelivery.Proofs.ViolationPlaces
import Mathlib

/-!
# Fields that may be empty

Cleaning keeps null and the empty text where a field accepts null, at every depth.
The schema finds nothing there in null.  In the empty text it does, unless the field
would accept that text without accepting null.
-/

namespace EventDelivery

/-- What a payload holds at a position, with the field that is declared for it: at a
key of an object, in the object of a field, or in an item of the list of a field. -/
inductive FieldMap.Holds : FieldMap → Json → Pointer → Field → Json → Prop where
  | here {fields : FieldMap} {members : List (String × Json)} {name : String}
      {field : Field} {value : Json} :
      (name, field) ∈ fields → (name, value) ∈ members →
      Holds fields (.obj members) [name] field value
  | inside {fields : FieldMap} {members : List (String × Json)} {name : String}
      {outer field : Field} {held value : Json} {path : Pointer} :
      (name, outer) ∈ fields → (name, held) ∈ members →
      outer.traits.multiple = false → Holds outer.held held path field value →
      Holds fields (.obj members) (name :: path) field value
  | item {fields : FieldMap} {members : List (String × Json)} {name : String}
      {outer field : Field} {items : List Json} {position : Nat} {entry value : Json}
      {path : Pointer} :
      (name, outer) ∈ fields → (name, .arr items) ∈ members →
      outer.traits.multiple = true → items[position]? = some entry →
      Holds outer.held entry path field value →
      Holds fields (.obj members) (name :: toString position :: path) field value

/-- The field accepts the empty text, whether it accepts null or not: it holds one
text, of its format and among its choices. -/
structure Field.AcceptsBlank (field : Field) : Prop where
  single : field.traits.multiple = false
  type : field.traits.type.Admits (.str "")
  format : field.traits.FormatFits (.str "")
  choice : field.traits.ChoiceFits (.str "")

theorem Field.fits_blank_iff (field : Field) :
    field.Fits (.str "") ↔ field.AcceptsBlank := by
  rw [fits_iff, base_iff]
  simp only [reduceCtorEq, and_false, false_and, exists_false, false_or, false_implies,
    implies_true, and_true]
  constructor
  · rintro ⟨single, type, format, choice⟩
    exact ⟨single, type, format, choice⟩
  · rintro ⟨single, type, format, choice⟩
    exact ⟨single, type, format, choice⟩

section Cleaning

variable {fields : FieldMap} {name : String} {field : Field}

/-- Cleaning keeps what a payload holds for a field that accepts null. -/
theorem FieldMap.Holds.clean {payload value : Json} {path : Pointer}
    (held : fields.Holds payload path field value) (ordered : fields.Ordered)
    (nullable : field.traits.allowNull = true) (empty : Clean.isEmpty value = true) :
    fields.Holds (fields.clean payload) path field value := by
  induction held with
  | here declared present =>
      rw [FieldMap.clean]
      have kept := mem_cleanMembers ordered declared present (.inr nullable)
      rw [Field.clean_of_isEmpty empty] at kept
      exact .here declared kept
  | @inside fields members name outer field object value path declared present single
      deeper induction =>
      have inside := Field.held_ordered (ordered.2 name outer declared)
      -- a field is held by an object, which is never empty
      obtain ⟨inner, rfl⟩ : ∃ inner, object = .obj inner := by
        cases deeper <;> exact ⟨_, rfl⟩
      have kept := mem_cleanMembers ordered declared present (.inl rfl)
      rw [Field.clean_of_single single] at kept
      rw [FieldMap.clean]
      exact .inside declared kept single (induction inside nullable empty)
  | @item fields members name outer field items position entry value path declared
      present many found deeper induction =>
      have inside := Field.held_ordered (ordered.2 name outer declared)
      have kept := mem_cleanMembers ordered declared present (.inl rfl)
      rw [Field.clean_of_multiple many] at kept
      rw [FieldMap.clean]
      refine .item declared kept many ?_ (induction inside nullable empty)
      rw [List.getElem?_map, found, Option.map_some]

end Cleaning

namespace Schema

/-- What the schema finds is found where it is checked, or below. -/
def Local (schema : Json) : Prop :=
  ∀ base follow location value violation,
    violation ∈ (ofJson base schema).violations follow location value →
      location <+: violation.location

/-- The schema finds something at a path below the location that is checked. -/
def Finds (base : String) (follow : Reference → Checker) (schema : Json)
    (location : Pointer) (value : Json) (path : Pointer) : Prop :=
  ∃ violation, violation ∈ (ofJson base schema).violations follow location value ∧
    violation.location = location ++ path

/-- The schemas inside of a schema are local. -/
def LocalInside (schema : Json) : Prop :=
  ∀ value step inner inside, Descends schema value step inner inside → Local inside

theorem LocalInside.local {keywords : List (String × Json)}
    (inside : LocalInside (.obj keywords)) (generated : Generated keywords) :
    Local (.obj keywords) := by
  intro base follow location value violation found
  rcases located_or_descends generated found with
    here | ⟨step, inner, schema, descends, deeper⟩
  · exact here ▸ List.prefix_rfl
  · have below := inside value step inner schema descends base follow _ inner
      violation deeper
    exact (List.prefix_append location [step]).trans below

/-- What is found below a step is found by the schema for the step. -/
theorem finds_cons_iff {keywords : List (String × Json)}
    (inside : LocalInside (.obj keywords)) (generated : Generated keywords)
    {base : String} {follow : Reference → Checker} {location path : Pointer}
    {value : Json} {step : String} :
    Finds base follow (.obj keywords) location value (step :: path) ↔
      ∃ inner schema, Descends (.obj keywords) value step inner schema ∧
        Finds base follow schema (location ++ [step]) inner path := by
  constructor
  · rintro ⟨violation, found, place⟩
    rcases located_or_descends generated found with
      here | ⟨other, inner, schema, descends, deeper⟩
    · have tooLong := congrArg List.length (here.symm.trans place)
      simp at tooLong
    · -- what is found below another step lies elsewhere
      have below := inside value other inner schema descends base follow _ inner
        violation deeper
      rw [place, List.prefix_append_right_inj] at below
      have same : other = step := (List.cons_prefix_cons.mp below).1
      subst same
      exact ⟨inner, schema, descends, violation, deeper, by simp [place]⟩
  · rintro ⟨inner, schema, descends, violation, found, place⟩
    exact ⟨violation, mem_violations_of_descends generated descends found, by simp [place]⟩

/-- The keywords are those of a schema for objects of the fields. -/
structure ForObjects (keywords : List (String × Json)) (fields : FieldMap) : Prop where
  ordered : fields.Ordered
  generated : Generated keywords
  describes : Clean.Describes (.obj keywords) fields
  noItems : Assoc.get? "items" keywords = none

variable {keywords : List (String × Json)} {fields : FieldMap}

theorem ForObjects.descends_iff (forObjects : ForObjects keywords fields)
    {value inner schema : Json} {step : String} :
    Descends (.obj keywords) value step inner schema ↔
      ∃ members field, value = .obj members ∧ (step, inner) ∈ members ∧
        (step, field) ∈ fields ∧ schema = field.schema := by
  constructor
  · intro descends
    cases descends with
    | key property present =>
        rw [forObjects.describes, Option.map_eq_some_iff] at property
        obtain ⟨field, declared, rfl⟩ := property
        exact ⟨_, field, rfl, present, Assoc.mem_of_get?_eq_some declared, rfl⟩
    | item given _ => simp [Json.get?, forObjects.noItems] at given
  · rintro ⟨members, field, rfl, present, declared, rfl⟩
    refine .key ?_ present
    rw [forObjects.describes, FieldMap.get?_of_mem forObjects.ordered declared,
      Option.map_some]

private theorem forObjects_payload (ordered : fields.Ordered) :
    ForObjects fields.members fields where
  ordered := ordered
  generated := fields.members_generated
  describes := Clean.describes_payload ordered
  noItems := by simp [FieldMap.get?_members]

theorem forObjects_value {traits : FieldTraits} {properties : Option FieldMap}
    (ordered : (Field.of traits properties).Ordered) :
    ForObjects (traits.valueMembers (properties.map FieldMap.shape))
      (Field.of traits properties).held where
  ordered := Field.held_ordered ordered
  generated := (traits.valueMembers_constrained _).generated
  describes := Clean.describes_value ordered
  noItems := (traits.valueMembers_constrained _).others "items" (by decide)

theorem descends_list_iff (traits : FieldTraits) {item : List (String × Json)}
    {value inner schema : Json} {step : String} :
    Descends (.obj (traits.listMembers (.obj item))) value step inner schema ↔
      ∃ (items : List Json) (position : Nat), value = .arr items ∧
        step = toString position ∧ items[position]? = some inner ∧ schema = .obj item := by
  constructor
  · intro descends
    cases descends with
    | key property _ =>
        simp [Clean.property?, Json.get?, FieldTraits.get?_listMembers] at property
    | item given found =>
        rw [Json.get?, FieldTraits.get?_listMembers traits _ (by simp) (by simp)] at given
        simp only [String.reduceEq, if_false, if_true, Option.some.injEq] at given
        exact ⟨_, _, rfl, rfl, found, given.symm⟩
  · rintro ⟨items, position, rfl, rfl, found, rfl⟩
    refine .item ?_ found
    simp [Json.get?, FieldTraits.get?_listMembers]

/-- What the schema of a field finds is found where it is checked, or below. -/
theorem local_field (field : Field) (ordered : field.Ordered) : Local field.schema := by
  induction field using Field.induction with
  | of traits properties induction =>
      have forObjects := forObjects_value ordered
      have inside := (Field.ordered_iff _).mp ordered
      have value : Local (.obj (traits.valueMembers (properties.map FieldMap.shape))) := by
        refine LocalInside.local ?_ forObjects.generated
        intro value step inner schema descends
        obtain ⟨_, field, _, _, declared, rfl⟩ := forObjects.descends_iff.mp descends
        have member := Field.mem_inner_of_mem_held declared
        exact induction step field member (inside.2 step field member)
      rw [Field.schema_eq, FieldTraits.schema_eq_members]
      split
      · refine LocalInside.local ?_ (traits.listMembers_generated _)
        intro list step inner schema descends
        obtain ⟨_, _, _, _, _, rfl⟩ := (descends_list_iff traits).mp descends
        exact value
      · exact value

theorem ForObjects.localInside (forObjects : ForObjects keywords fields) :
    LocalInside (.obj keywords) := by
  intro value step inner schema descends
  obtain ⟨_, field, _, _, declared, rfl⟩ := forObjects.descends_iff.mp descends
  exact local_field field (forObjects.ordered.2 step field declared)

variable {base : String} {follow : Reference → Checker} {location path : Pointer}

/-- What is found below a declared key is found by the schema of its field. -/
theorem ForObjects.finds_key_iff (forObjects : ForObjects keywords fields) {name : String}
    {field : Field} (declared : (name, field) ∈ fields) {members : List (String × Json)}
    (sorted : Assoc.Sorted members) {inner : Json} (present : (name, inner) ∈ members) :
    Finds base follow (.obj keywords) location (.obj members) (name :: path) ↔
      Finds base follow field.schema (location ++ [name]) inner path := by
  rw [finds_cons_iff forObjects.localInside forObjects.generated]
  constructor
  · rintro ⟨other, schema, descends, found⟩
    obtain ⟨_, another, same, alsoPresent, alsoDeclared, rfl⟩ :=
      forObjects.descends_iff.mp descends
    cases same
    have sameValue := Assoc.value_unique sorted present alsoPresent
    have sameField := Assoc.value_unique forObjects.ordered.1 declared alsoDeclared
    exact sameValue ▸ sameField ▸ found
  · intro found
    exact ⟨inner, field.schema,
      forObjects.descends_iff.mpr ⟨members, field, rfl, present, declared, rfl⟩, found⟩

theorem finds_item_iff {traits : FieldTraits} {item : List (String × Json)}
    (itemLocal : Local (.obj item)) {items : List Json} {position : Nat} {inner : Json}
    (found : items[position]? = some inner) :
    Finds base follow (.obj (traits.listMembers (.obj item))) location (.arr items)
        (toString position :: path) ↔
      Finds base follow (.obj item) (location ++ [toString position]) inner path := by
  have localInside : LocalInside (.obj (traits.listMembers (.obj item))) := by
    intro value step inner schema descends
    obtain ⟨_, _, _, _, _, rfl⟩ := (descends_list_iff traits).mp descends
    exact itemLocal
  rw [finds_cons_iff localInside (traits.listMembers_generated item)]
  constructor
  · rintro ⟨other, schema, descends, deeper⟩
    obtain ⟨_, another, same, sameText, alsoFound, rfl⟩ :=
      (descends_list_iff traits).mp descends
    cases same
    have samePosition : position = another := Nat.repr_inj.mp sameText
    subst samePosition
    have sameValue : inner = other := Option.some.inj (found.symm.trans alsoFound)
    exact sameValue ▸ deeper
  · intro deeper
    exact ⟨inner, .obj item,
      (descends_list_iff traits).mpr ⟨items, position, rfl, rfl, found, rfl⟩, deeper⟩

private theorem generated_field (field : Field) :
    ∃ keywords, field.schema = .obj keywords ∧ Generated keywords := by
  obtain ⟨traits, properties⟩ := field
  rw [Field.schema_eq, FieldTraits.schema_eq_members]
  split
  · exact ⟨_, rfl, traits.listMembers_generated _⟩
  · exact ⟨_, rfl, (traits.valueMembers_constrained _).generated⟩

/-- In an empty value there is nothing inside, so that everything is found at it. -/
theorem finds_nil_iff {field : Field} (ordered : field.Ordered) {value : Json}
    (empty : Clean.isEmpty value = true) :
    Finds base follow field.schema location value [] ↔ ¬ field.Fits value := by
  obtain ⟨keywords, same, generated⟩ := generated_field field
  rw [← Field.schema_eq_nil_iff base follow field ordered location value]
  constructor
  · rintro ⟨violation, found, _⟩
    exact List.ne_nil_of_mem found
  · intro something
    obtain ⟨violation, found⟩ := List.exists_mem_of_ne_nil _ something
    refine ⟨violation, found, ?_⟩
    rw [same] at found
    rcases located_or_descends generated found with here | ⟨_, _, _, descends, _⟩
    · simpa using here
    · cases descends <;> simp [Clean.isEmpty] at empty

/-- At an empty value that is held for a field something is found unless it fits. -/
theorem finds_iff_of_holds {payload value : Json} {field : Field}
    (held : fields.Holds payload path field value) (forObjects : ForObjects keywords fields)
    (sorted : payload.Ordered) (empty : Clean.isEmpty value = true) :
    Finds base follow (.obj keywords) location payload path ↔ ¬ field.Fits value := by
  induction held generalizing keywords location with
  | @here fields members name field value declared present =>
      rw [forObjects.finds_key_iff declared sorted.1 present]
      exact finds_nil_iff (forObjects.ordered.2 name field declared) empty
  | @inside fields members name outer field object value path declared present single
      deeper induction =>
      have ordered := forObjects.ordered.2 name outer declared
      rw [forObjects.finds_key_iff declared sorted.1 present]
      obtain ⟨traits, properties⟩ := outer
      simp only [Field.traits_of] at single
      rw [Field.schema_eq, FieldTraits.schema_eq_members]
      simp only [single, Bool.false_eq_true, if_false]
      exact induction (forObjects_value ordered)
        (Json.ordered_of_mem_members sorted.2 present) empty
  | @item fields members name outer field items position entry value path declared
      present many found deeper induction =>
      have ordered := forObjects.ordered.2 name outer declared
      have itemsOrdered : Json.OrderedItems items :=
        Json.ordered_of_mem_members sorted.2 present
      rw [forObjects.finds_key_iff declared sorted.1 present]
      obtain ⟨traits, properties⟩ := outer
      simp only [Field.traits_of] at many
      have forItems := forObjects_value ordered
      have itemLocal := forItems.localInside.local forItems.generated
      rw [Field.schema_eq, FieldTraits.schema_eq_members]
      simp only [many, if_true]
      rw [finds_item_iff itemLocal found]
      exact induction forItems
        (Json.ordered_of_mem_items itemsOrdered (List.mem_of_getElem? found)) empty

end Schema

/-- At an empty value that is held for a field the compiled schema finds something
unless the value fits. -/
theorem FieldMap.compiled_finds_iff {fields : FieldMap} (ordered : fields.Ordered)
    {compiled : CompiledSchema}
    (compiles : CompiledSchema.compile fields.schema = .ok compiled) {payload : Json}
    (sorted : payload.Ordered) {path : Pointer} {field : Field} {value : Json}
    (held : fields.Holds payload path field value) (empty : Clean.isEmpty value = true) :
    (∃ violation, violation ∈ compiled.violations payload ∧ violation.location = path) ↔
      ¬ field.Fits value := by
  unfold CompiledSchema.violations
  rw [CompiledSchema.schema_of_compile compiles]
  exact Schema.finds_iff_of_holds held (Schema.forObjects_payload ordered) sorted empty

/-- A field that accepts null refuses no empty value but the empty text, and that
when it would refuse it anyway. -/
theorem Field.not_fits_empty_iff {field : Field} {value : Json}
    (nullable : field.traits.allowNull = true) (empty : value = .null ∨ value = .str "") :
    ¬ field.Fits value ↔ value = .str "" ∧ ¬ field.AcceptsBlank := by
  rcases empty with rfl | rfl
  · simp [Field.Fits.null nullable]
  · simp [field.fits_blank_iff]

/-- Where a field accepts null, cleaning keeps null and the empty text.  The schema
finds nothing in null there.  In the empty text it finds something exactly when the
field would not accept it without accepting null. -/
theorem FieldMap.nullable_kept_and_checked {fields : FieldMap} (ordered : fields.Ordered)
    {compiled : CompiledSchema}
    (compiles : CompiledSchema.compile fields.schema = .ok compiled) {payload : Json}
    (sorted : payload.Ordered) {path : Pointer} {field : Field} {value : Json}
    (held : fields.Holds payload path field value)
    (nullable : field.traits.allowNull = true) (empty : value = .null ∨ value = .str "")
    (fromRoot : Bool) :
    let cleaned := removeEmptyValues payload (some fields.schema) fromRoot
    fields.Holds cleaned path field value ∧
      ((∃ violation, violation ∈ compiled.violations cleaned ∧ violation.location = path) ↔
        value = .str "" ∧ ¬ field.AcceptsBlank) := by
  intro cleaned
  have isEmpty : Clean.isEmpty value = true := by
    rcases empty with rfl | rfl <;> rfl
  have same : cleaned = fields.clean payload :=
    Clean.cleanObject_eq payload ordered (Clean.describes_payload ordered)
  have kept : fields.Holds cleaned path field value :=
    same ▸ held.clean ordered nullable isEmpty
  have cleanedOrdered : cleaned.Ordered := same ▸ fields.clean_ordered payload sorted
  refine ⟨kept, ?_⟩
  rw [compiled_finds_iff ordered compiles cleanedOrdered kept isEmpty,
    Field.not_fits_empty_iff nullable empty]

def ageFields : FieldMap := [("age", (Field.new "Age" .number).acceptNull)]

/-- An age that is the empty text is kept and then refused. -/
theorem ageFields_keep_and_refuse_blank :
    ∃ compiled, CompiledSchema.compile ageFields.schema = .ok compiled ∧
      let cleaned :=
        removeEmptyValues (.obj [("age", .str "")]) (some ageFields.schema) true
      cleaned = .obj [("age", .str "")] ∧
        ∃ violation, violation ∈ compiled.violations cleaned ∧
          violation.location = ["age"] := by
  have ordered : ageFields.Ordered := by
    refine ⟨by decide, (Field.allOrdered_iff ageFields).mp ?_⟩
    exact ⟨trivial, trivial⟩
  have builds : (CompiledSchema.compile ageFields.schema).toOption.isSome = true := by
    decide +kernel
  cases compiles : CompiledSchema.compile ageFields.schema with
  | error fault => simp [compiles, Except.toOption] at builds
  | ok compiled =>
      have sorted : (Json.obj [("age", .str "")]).Ordered := ⟨by decide, trivial, trivial⟩
      have held : ageFields.Holds (.obj [("age", .str "")]) ["age"]
          ((Field.new "Age" .number).acceptNull) (.str "") :=
        .here List.mem_cons_self List.mem_cons_self
      have found := (FieldMap.nullable_kept_and_checked ordered compiles sorted held rfl
        (.inr rfl) true).2
      refine ⟨compiled, rfl, by decide, found.mpr ⟨rfl, ?_⟩⟩
      intro accepts
      cases accepts.type

end EventDelivery
