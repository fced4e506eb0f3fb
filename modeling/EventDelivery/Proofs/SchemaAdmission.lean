import EventDelivery.Action.Basic
import EventDelivery.Proofs.FieldKeywords
import EventDelivery.Proofs.KeywordSemantics

/-!
# Generated schemas are admitted

A schema is refused when it does not look like one, when it names something from
outside, or when something in it cannot be linked.  None of this happens to the
schemas of fields, so that an action with the usual compiler can always be built.
-/

namespace EventDelivery

/-- What a keyword of a generated schema holds, where the schemas in it have a
property. -/
inductive Emitted (inner : Json → Prop) : String → Json → Prop where
  | dialect : Emitted inner "$schema" (.str schemaDialect)
  | title (text : String) : Emitted inner "title" (.str text)
  | description (text : String) : Emitted inner "description" (.str text)
  | format (name : String) : Emitted inner "format" (.str name)
  | type {type : Json} : Draft.ofTypes type = none → Emitted inner "type" type
  | enum (values : List Json) : Emitted inner "enum" (.arr values)
  | required {names : List String} :
      names ≠ [] → names.Nodup → Emitted inner "required" (.ofTexts names)
  | additional (free : Bool) : Emitted inner "additionalProperties" (.bool free)
  | items {schema : Json} : inner schema → Emitted inner "items" schema
  | properties {schemas : List (String × Json)} :
      (∀ name schema, (name, schema) ∈ schemas → inner schema) →
      Emitted inner "properties" (.obj schemas)

/-- What admits the value of a schema. -/
structure Admissible (schema : Json) : Prop where
  /-- It looks like a schema. -/
  fits : Draft.ofSchema schema = none
  /-- The schemas in it give themselves no locators, and name nothing but the
  dialect. -/
  named : ∀ base entry, entry ∈ Subschema.entries base schema →
    Subschema.id? entry.members = none ∧
      ∀ text, text ∈ Library.namedBy entry.members → text = schemaDialect
  /-- Linking has nothing to do. -/
  linked : ∀ base, LinkStep.all base schema = []

private theorem Draft.exists_members_of_fits {schema : Json} (fits : Draft.ofSchema schema = none) :
    ∃ members, schema = .obj members := by
  cases schema with
  | obj members => exact ⟨members, rfl⟩
  | _ => simp [Draft.ofSchema] at fits

namespace Draft

theorem hasRepeated_eq_false {same : Json → Json → Bool}
    (texts : ∀ first second, same (.str first) (.str second) = true → first = second)
    {names : List String} (different : names.Nodup) :
    Rules.hasRepeated same (names.map .str) = false := by
  induction names with
  | nil => rfl
  | cons name rest induction =>
      obtain ⟨fresh, tail⟩ := List.nodup_cons.mp different
      have unseen : (rest.map Json.str).any (same (.str name)) = false := by
        apply List.any_eq_false.mpr
        intro item member
        obtain ⟨other, present, rfl⟩ := List.mem_map.mp member
        intro found
        exact fresh (texts _ _ found ▸ present)
      simp [Rules.hasRepeated, unseen, induction tail]

theorem ofNames_ofTexts {names : List String} (filled : names ≠ []) (different : names.Nodup) :
    ofNames (.ofTexts names) = none := by
  have texts : (names.map Json.str).findSome? (ofKind .string) = none := by
    simp [List.findSome?_eq_none_iff, ofKind, JsonType.holds]
  have some : (names.map Json.str).isEmpty = false := by
    simpa using filled
  have distinct : Rules.repeats (names.map .str) = false := by
    unfold Rules.repeats
    split
    · exact hasRepeated_eq_false (by simp [Json.same, Json.sameBy]) different
    · exact hasRepeated_eq_false (by simp [Json.sameBy]) different
  simp [ofNames, Json.ofTexts, texts, ofFilled, some, distinct]

theorem ofTypes_orNull {name : String} (known : (JsonType.ofName? name).isSome = true)
    (notNull : name ≠ "null") (nullable : Bool) :
    ofTypes (if nullable then .ofTexts [name, "null"] else .str name) = none := by
  have null : (JsonType.ofName? "null").isSome = true := by decide
  cases nullable with
  | false => simp [ofTypes, known]
  | true =>
      have distinct : Rules.repeats [.str name, .str "null"] = false := by
        simp [Rules.repeats, Rules.hasRepeated, Json.same, Json.sameBy, notNull]
      simp [Json.ofTexts, ofTypes, known, null, distinct]

end Draft

namespace LinkStep

variable {members : List (String × Json)} {contents : List (String × Content (List LinkStep))}

theorem ofKeyword_eq_nil (noPattern : Assoc.get? "pattern" members = none)
    (noPatterns : Assoc.get? "patternProperties" members = none)
    (nothing : ∀ entry, entry ∈ contents → ∀ steps, steps ∈ entry.2.all → steps = [])
    (keyword : String) : ofKeyword keyword members contents = [] := by
  have none : ((Assoc.get? keyword contents).map
      fun content => content.all.flatten).getD [] = [] := by
    cases found : Assoc.get? keyword contents with
    | none => rfl
    | some content =>
        exact List.flatten_eq_nil_iff.mpr (nothing _ (Assoc.mem_of_get?_eq_some found))
  unfold ofKeyword
  simp only [none]
  split
  · split <;> rfl
  · simp_all
  · simp_all
  · rfl

theorem ofContents_eq_nil {base : String}
    (noReference : Subschema.reference? members = none)
    (noPattern : Assoc.get? "pattern" members = none)
    (noPatterns : Assoc.get? "patternProperties" members = none)
    (nothing : ∀ entry, entry ∈ contents → ∀ steps, steps ∈ entry.2.all → steps = []) :
    ofContents base members contents = [] := by
  simp only [ofContents, noReference, List.flatMap_eq_nil_iff]
  exact fun keyword _ => ofKeyword_eq_nil noPattern noPatterns nothing keyword

end LinkStep

namespace Emitted

variable {inner : Json → Prop} {keyword : String} {value : Json}

private theorem mem_generatedKeywords (emitted : Emitted inner keyword value) :
    keyword ∈ generatedKeywords := by
  cases emitted <;> decide

private theorem eq_dialect (emitted : Emitted inner "$schema" value) :
    value = .str schemaDialect := by
  generalize known : "$schema" = keyword at emitted
  cases emitted with
  | dialect => rfl
  | _ => simp at known

theorem ofKeyword_eq_none (emitted : Emitted Admissible keyword value) :
    Draft.ofKeyword keyword value = none := by
  have dialect : Format.accepts .uri schemaDialect = true := by decide +kernel
  cases emitted with
  | dialect => simp [Draft.ofKeyword, Draft.ofPlain, Draft.ofFormat, dialect]
  | title text =>
      simp [Draft.ofKeyword, Draft.ofPlain, Draft.ofKind, JsonType.holds]
  | description text =>
      simp [Draft.ofKeyword, Draft.ofPlain, Draft.ofKind, JsonType.holds]
  | format name =>
      simp [Draft.ofKeyword, Draft.ofPlain, Draft.ofKind, JsonType.holds]
  | type known =>
      cases value <;>
        simp [Draft.ofKeyword, Draft.ofPlain, Draft.isKeyed, Draft.isListed,
          Draft.isOptional, known]
  | enum values =>
      simp [Draft.ofKeyword, Draft.ofPlain, Draft.isListed, Draft.ofKind, JsonType.holds]
  | required filled different =>
      have named := Draft.ofNames_ofTexts filled different
      simp only [Json.ofTexts] at named ⊢
      simp [Draft.ofKeyword, Draft.ofPlain, Draft.isListed, named]
  | additional free =>
      simp [Draft.ofKeyword, Draft.ofPlain, Draft.isListed, Draft.isCount, Draft.isFlag,
        Draft.isKeyed, Draft.isOptional, JsonType.holds]
  | items admissible =>
      obtain ⟨members, rfl⟩ := Draft.exists_members_of_fits admissible.fits
      have fits := admissible.fits
      simp only [Draft.ofSchema] at fits
      simp [Draft.ofKeyword, Draft.isKeyed, fits]
  | @properties schemas admissible =>
      have fits : Draft.ofSchemas schemas = none := by
        induction schemas with
        | nil => rfl
        | cons entry rest induction =>
            obtain ⟨name, schema⟩ := entry
            have here := (admissible name schema List.mem_cons_self).fits
            have later := induction fun name schema member =>
              admissible name schema (List.mem_cons_of_mem _ member)
            simp [Draft.ofSchemas, here, later]
      simp [Draft.ofKeyword, Draft.isKeyed, fits]

/-- What is made of the schemas in a keyword is made of admissible ones. -/
theorem exists_of_mem_content {α : Type} (emitted : Emitted Admissible keyword value)
    (maker : Subschema.Maker α) (base : String) {made : α}
    (member : made ∈ (maker.content base keyword value).all) :
    ∃ schema, Admissible schema ∧ made = maker.of base schema := by
  cases emitted with
  | items admissible =>
      obtain ⟨members, rfl⟩ := Draft.exists_members_of_fits admissible.fits
      refine ⟨_, admissible, ?_⟩
      simpa [Subschema.Maker.content, Subschema.isOne, Content.all, Subschema.Maker.of]
        using member
  | properties admissible =>
      simp only [Subschema.Maker.content, Subschema.isOne, Subschema.isKeyed,
        Subschema.Maker.ofMembers_eq_map, Content.all] at member
      simp at member
      obtain ⟨name, schema, present, rfl⟩ := member
      exact ⟨schema, admissible name schema present, rfl⟩
  | @type type known =>
      cases value <;>
        simp [Subschema.Maker.content, Subschema.isOne, Subschema.isKeyed,
          Subschema.isListed, Content.all] at member
  | _ =>
      simp [Subschema.Maker.content, Subschema.isListed, Json.ofTexts, Content.all] at member

end Emitted

namespace Admissible

variable {members : List (String × Json)}
  (emitted : ∀ keyword value, (keyword, value) ∈ members →
    Emitted Admissible keyword value)

include emitted

theorem get?_eq_none {keyword : String} (other : keyword ∉ generatedKeywords) :
    Assoc.get? keyword members = none := by
  apply Assoc.get?_eq_none_iff.mpr
  rintro ⟨name, value⟩ member rfl
  exact other (emitted name value member).mem_generatedKeywords

theorem fits_obj : Draft.ofSchema (.obj members) = none := by
  have noMaximum : Assoc.get? "exclusiveMaximum" members = none :=
    get?_eq_none emitted (by decide)
  have noMinimum : Assoc.get? "exclusiveMinimum" members = none :=
    get?_eq_none emitted (by decide)
  have partners : Draft.ofPartners members = none := by
    simp [Draft.ofPartners, Draft.ofPartner, noMaximum, noMinimum]
  have keywords : Draft.ofKeywords members = none := by
    -- what is absent from all members would be asked of the rest as well
    clear noMaximum noMinimum partners
    induction members with
    | nil => rfl
    | cons member rest induction =>
        obtain ⟨keyword, value⟩ := member
        have here := (emitted keyword value List.mem_cons_self).ofKeyword_eq_none
        have later := induction fun keyword value present =>
          emitted keyword value (List.mem_cons_of_mem _ present)
        simp [Draft.ofKeywords, here, later]
  simp [Draft.ofSchema, partners, keywords]

theorem id?_eq_none : Subschema.id? members = none := by
  have noId : Assoc.get? "id" members = none := get?_eq_none emitted (by decide)
  simp [Subschema.id?, noId]

private theorem reference?_eq_none : Subschema.reference? members = none :=
  get?_eq_none emitted (by decide)

/-- What is made of the schemas in a generated schema is made of admissible ones. -/
theorem exists_of_mem_contents {α : Type} (maker : Subschema.Maker α) (base : String)
    {entry : String × Content α} (present : entry ∈ maker.contents base members) {made : α}
    (member : made ∈ entry.2.all) :
    ∃ schema, Admissible schema ∧ made = maker.of base schema := by
  rw [Subschema.Maker.contents_eq_map] at present
  obtain ⟨⟨keyword, value⟩, listed, rfl⟩ := List.mem_map.mp present
  exact (emitted keyword value listed).exists_of_mem_content maker base member

theorem named_obj (base : String) (entry : Subschema.Entry)
    (member : entry ∈ Subschema.entries base (.obj members)) :
    Subschema.id? entry.members = none ∧
      ∀ text, text ∈ Library.namedBy entry.members → text = schemaDialect := by
  rcases List.mem_cons.mp member with here | inside
  · subst here
    refine ⟨id?_eq_none emitted, ?_⟩
    intro text named
    have noReference := reference?_eq_none emitted
    simp only [Subschema.reference?] at noReference
    simp only [Library.namedBy, List.filterMap_cons, noReference, Option.bind_none,
      List.filterMap_nil] at named
    cases dialect : Assoc.get? "$schema" members with
    | none => simp [dialect] at named
    | some value =>
        have same := (emitted _ _ (Assoc.mem_of_get?_eq_some dialect)).eq_dialect
        simpa [dialect, same, Json.text?] using named
  · obtain ⟨content, present, inContent⟩ := List.mem_flatMap.mp inside
    obtain ⟨entries, made, inEntries⟩ := List.mem_flatten.mp inContent
    obtain ⟨schema, admissible, rfl⟩ := exists_of_mem_contents emitted _ _ present made
    exact admissible.named _ _ inEntries

private theorem linked_obj (base : String) : LinkStep.all base (.obj members) = [] := by
  apply LinkStep.ofContents_eq_nil (reference?_eq_none emitted)
    (get?_eq_none emitted (by decide)) (get?_eq_none emitted (by decide))
  intro entry present steps made
  obtain ⟨schema, admissible, rfl⟩ := exists_of_mem_contents emitted _ _ present made
  exact admissible.linked _

theorem obj : Admissible (.obj members) :=
  ⟨fits_obj emitted, named_obj emitted, linked_obj emitted⟩

end Admissible

namespace FieldTraits

variable (traits : FieldTraits)

private theorem ofTypes_schemaType (nullable : Bool) :
    Draft.ofTypes (traits.typeFor nullable) = none := by
  apply Draft.ofTypes_orNull
  · cases traits.type <;> decide
  · cases traits.type <;> decide

private theorem ofTypes_array : Draft.ofTypes (traits.typeJson "array") = none :=
  Draft.ofTypes_orNull (by decide) (by decide) traits.allowNull

theorem emitted_heading {inner : Json → Prop} {keyword : String} {value : Json}
    (member : (keyword, value) ∈ heading traits) : Emitted inner keyword value := by
  unfold heading at member
  split at member <;> simp at member
  · obtain ⟨rfl, rfl⟩ := member
    exact .title _
  · rcases member with ⟨rfl, rfl⟩ | ⟨rfl, rfl⟩
    · exact .title _
    · exact .description _

end FieldTraits

/-- The schemas of the keys of an object are admissible, and no key is required
twice. -/
structure ObjectShape.Admits (shape : ObjectShape) : Prop where
  properties : ∀ name schema, (name, schema) ∈ shape.properties → Admissible schema
  required : shape.required.Nodup

theorem ObjectShape.Admits.emitted {shape : ObjectShape} (admits : shape.Admits)
    {keyword : String} {value : Json} (member : (keyword, value) ∈ shape.members) :
    Emitted Admissible keyword value := by
  have properties : Emitted Admissible "properties" (.ofMembers shape.properties) :=
    .properties fun name schema present =>
      admits.properties name schema (Assoc.mem_ofList present)
  unfold members at member
  cases listed : shape.required with
  | nil =>
      simp only [listed, List.isEmpty_nil, if_true, List.append_nil,
        List.mem_singleton, Prod.mk.injEq] at member
      obtain ⟨rfl, rfl⟩ := member
      exact properties
  | cons name rest =>
      have filled : shape.required ≠ [] := by simp [listed]
      simp [filled] at member
      rcases member with ⟨rfl, rfl⟩ | ⟨rfl, rfl⟩
      · exact properties
      · exact .required filled admits.required

namespace FieldTraits

variable {traits : FieldTraits} {nested : Option ObjectShape}

theorem emitted_constraints
    (inside : ∀ shape, nested = some shape → shape.Admits) {type : Json}
    (known : Draft.ofTypes type = none) {more : List Json} {keyword : String}
    {value : Json} (member : (keyword, value) ∈ traits.constraints nested type more) :
    Emitted Admissible keyword value := by
  rw [constraints_eq] at member
  simp only [List.mem_append, List.mem_singleton, Prod.mk.injEq, Option.mem_toList,
    Option.map_eq_some_iff] at member
  rcases member with ((⟨rfl, rfl⟩ | ⟨name, _, rfl, rfl⟩) | ⟨choices, _, rfl, rfl⟩) | keys
  · exact .type known
  · exact .format name
  · exact .enum _
  · split at keys
    · rcases List.mem_append.mp keys with ofShape | additional
      · cases shaped : nested with
        | none => simp [shaped] at ofShape
        | some shape =>
            simp only [shaped, Option.map_some, Option.getD_some] at ofShape
            exact (inside shape shaped).emitted ofShape
      · simp only [List.mem_singleton, Prod.mk.injEq] at additional
        obtain ⟨rfl, rfl⟩ := additional
        exact .additional _
    · simp at keys

theorem admissible_schema (inside : ∀ shape, nested = some shape → shape.Admits) :
    Admissible (traits.schema nested) := by
  have value : Admissible (.obj (traits.valueMembers nested)) := by
    apply Admissible.obj
    intro keyword value member
    rcases List.mem_append.mp (Assoc.mem_ofList member) with named | constrained
    · split at named
      · simp at named
      · exact traits.emitted_heading named
    · exact emitted_constraints inside (traits.ofTypes_schemaType _) constrained
  rw [schema_eq_members]
  split
  · apply Admissible.obj
    intro keyword item member
    rcases List.mem_append.mp (Assoc.mem_ofList member) with named | listed
    · exact traits.emitted_heading named
    · simp only [List.mem_cons, Prod.mk.injEq, List.not_mem_nil, or_false] at listed
      rcases listed with ⟨rfl, rfl⟩ | ⟨rfl, rfl⟩
      · exact .type traits.ofTypes_array
      · exact .items value
  · exact value

end FieldTraits

private theorem Field.requiredNames_nodup {fields : FieldMap} (sorted : Assoc.Sorted fields) :
    (Field.requiredNames fields).Nodup :=
  (Assoc.nodup_keys sorted).sublist (List.filter_sublist.map Prod.fst)

theorem FieldMap.shape_admits {fields : FieldMap} (sorted : Assoc.Sorted fields)
    (inside : ∀ name field, (name, field) ∈ fields → Admissible field.schema) :
    fields.shape.Admits := by
  refine ⟨?_, Field.requiredNames_nodup sorted⟩
  intro name schema member
  simp only [shape, Field.schemas_eq_map, List.mem_map, Prod.mk.injEq] at member
  obtain ⟨⟨name, field⟩, declared, rfl, rfl⟩ := member
  exact inside name field declared

theorem Field.schema_admissible (field : Field) (ordered : field.Ordered) :
    Admissible field.schema := by
  induction field using Field.induction with
  | of traits properties induction =>
      obtain ⟨sorted, orderedInside⟩ := (ordered_iff _).mp ordered
      rw [schema_eq]
      apply FieldTraits.admissible_schema
      intro shape shaped
      cases properties with
      | none => simp at shaped
      | some fields =>
          cases shaped
          exact FieldMap.shape_admits sorted fun name field declared =>
            induction name field declared (orderedInside name field declared)

theorem FieldMap.schema_admissible {fields : FieldMap} (ordered : fields.Ordered) :
    Admissible fields.schema := by
  have shape := shape_admits ordered.1 fun name field declared =>
    field.schema_admissible (ordered.2 name field declared)
  apply Admissible.obj
  intro keyword value member
  rcases List.mem_append.mp (Assoc.mem_ofList member) with around | keys
  · simp only [List.mem_cons, Prod.mk.injEq, List.not_mem_nil, or_false] at around
    rcases around with ⟨rfl, rfl⟩ | ⟨rfl, rfl⟩ | ⟨rfl, rfl⟩
    · exact .dialect
    · exact .type (by decide)
    · exact .additional false
  · exact shape.emitted keys

theorem Links.extend_nil (library : Library) (fuel : Nat) (links : Links) :
    Links.extend library fuel links [] = .ok links := by
  cases fuel <;> rfl

theorem Admissible.compile_eq {source : Json} (admissible : Admissible source) :
    CompiledSchema.compile source =
      .ok ⟨source, Schema.ofJson Library.rootBase source, []⟩ := by
  have present : (Library.ofSource source).fault? source = none := by
    apply List.findSome?_eq_none_iff.mpr
    intro entry member
    obtain ⟨noLocator, dialect⟩ := admissible.named _ entry member
    have held : (Library.namedBy entry.members).findSome?
        ((Library.ofSource source).missing? entry.base) = none := by
      apply List.findSome?_eq_none_iff.mpr
      intro text named
      have known : schemaDialect.startsWith "http://json-schema.org/draft-" = true := by
        decide +kernel
      rw [dialect text named]
      simp [Library.missing?, known]
    simp [noLocator, held]
  simp only [CompiledSchema.compile, present, admissible.fits, admissible.linked,
    Links.extend_nil]
  rfl

namespace ActionBuilder

variable {builder : ActionBuilder}

theorem compile_generated (usual : builder.compiler = FieldMap.schema)
    {fields : FieldMap} (ordered : fields.Ordered) :
    ∃ compiled, builder.compile fields = .ok compiled ∧
      compiled.source = fields.schema := by
  refine ⟨⟨fields.schema, Schema.ofJson Library.rootBase fields.schema, []⟩, ?_, rfl⟩
  simp [compile, usual, (FieldMap.schema_admissible ordered).compile_eq, Except.mapError]

theorem compilePayload_generated (usual : builder.compiler = FieldMap.schema)
    (ordered : builder.definition.fields.Ordered) :
    ∃ schema, builder.compilePayload = .ok schema ∧
      schema.map CompiledSchema.source =
        if builder.definition.fields = [] then none
        else some builder.definition.fields.schema := by
  obtain ⟨compiled, compiles, source⟩ := compile_generated usual ordered
  by_cases empty : builder.definition.fields = []
  · exact ⟨none, by simp [compilePayload, empty], by simp [empty]⟩
  · refine ⟨some compiled, ?_, by simp [empty, source]⟩
    simp [compilePayload, empty, compiles, Except.map]

theorem compileHook_generated (usual : builder.compiler = FieldMap.schema) (type : HookType)
    (ordered : ∀ fields, builder.hookFields? type = some fields → fields.Ordered) :
    ∃ schema, builder.compileHook type = .ok schema ∧
      schema.map CompiledSchema.source =
        (builder.hookFields? type).map FieldMap.schema := by
  cases asked : builder.hookFields? type with
  | none => exact ⟨none, by simp [compileHook, asked], rfl⟩
  | some fields =>
      obtain ⟨compiled, compiles, source⟩ := compile_generated usual (ordered fields asked)
      refine ⟨some compiled, ?_, by simp [source]⟩
      simp [compileHook, asked, compiles, Except.map]

/-- The schema of fields looks like a schema and compiles, whatever the fields are;
an action with the usual compiler is built, and holds the schemas of its fields and
of the inputs of its hooks. -/
theorem generated_schemas_compile :
    (∀ fields : FieldMap, fields.Ordered →
      Draft.ofSchema fields.schema = none ∧
        CompiledSchema.compile fields.schema =
          .ok ⟨fields.schema, Schema.ofJson Library.rootBase fields.schema, []⟩) ∧
    ∀ builder : ActionBuilder, builder.compiler = FieldMap.schema →
      builder.definition.fields.Ordered →
      (∀ type fields, builder.hookFields? type = some fields → fields.Ordered) →
      ∃ action, builder.build = .ok action ∧
        action.schema.map CompiledSchema.source =
          (if builder.definition.fields = [] then none
            else some builder.definition.fields.schema) ∧
        ∀ type, (action.hookSchema type).map CompiledSchema.source =
          (builder.hookFields? type).map FieldMap.schema := by
  constructor
  · intro fields ordered
    have admissible := FieldMap.schema_admissible ordered
    exact ⟨admissible.fits, admissible.compile_eq⟩
  · intro builder usual ordered orderedHooks
    obtain ⟨schema, payload, holdsPayload⟩ := compilePayload_generated usual ordered
    obtain ⟨hookSchema, hook, holdsHook⟩ :=
      compileHook_generated usual .onMappingSave (orderedHooks .onMappingSave)
    refine ⟨_, by simp [build, payload, hook, bind, Except.bind, pure, Except.pure]; rfl,
      holdsPayload, ?_⟩
    rintro ⟨⟩
    exact holdsHook

/-- The fields of an answer: among its choices null comes twice, and a text twice. -/
def answerFields : FieldMap :=
  [("mood", ((Field.new "Mood" .string).require.acceptNull).choose
      [.null, .null, .str "fine", .str "fine"]),
    ("sent", (Field.new "Sent" .datetime).require)]

/-- A list of answers of which none can be chosen. -/
def surveyFields : FieldMap :=
  [("answers", ((Field.new "Answers" .object).makeMultiple.acceptNull.choose []).contain
      answerFields)]

/-- An action over a survey, with a hook that asks for the survey. -/
def surveyBuilder : ActionBuilder where
  destination := "webhook"
  definition := {
    title := "Send"
    fields := surveyFields
    hooks := some fun _ =>
      some { inputFields := some surveyFields, perform := fun _ => .done (.error (.other "")) } }

theorem surveyFields_compile :
    surveyFields.Ordered ∧ surveyBuilder.compiler = FieldMap.schema ∧
      surveyBuilder.hookFields? .onMappingSave = some surveyFields ∧
      (CompiledSchema.compile surveyFields.schema).isOk = true ∧
      ∃ action, surveyBuilder.build = .ok action ∧ action.schema.isSome = true := by
  have ordered : surveyFields.Ordered := by
    have answers : Assoc.Sorted answerFields := by decide
    refine ⟨by decide, (Field.allOrdered_iff surveyFields).mp ?_⟩
    exact ⟨⟨answers, trivial, trivial, trivial⟩, trivial⟩
  obtain ⟨compiles, builds⟩ := generated_schemas_compile
  have hooks : ∀ type fields, surveyBuilder.hookFields? type = some fields →
      fields.Ordered := by
    intro type fields asked
    cases asked
    exact ordered
  obtain ⟨action, built, payload, _⟩ := builds surveyBuilder rfl ordered hooks
  refine ⟨ordered, rfl, rfl, ?_, action, built, ?_⟩
  · rw [(compiles surveyFields ordered).2]
    rfl
  · have filled : surveyBuilder.definition.fields ≠ [] := by simp [surveyBuilder, surveyFields]
    cases held : action.schema with
    | none => simp [held, filled] at payload
    | some schema => rfl

end ActionBuilder

end EventDelivery
