import EventDelivery.Proofs.FieldCleaning
import EventDelivery.Proofs.FieldCompilation

/-!
# Cleaning valid payloads

Cleaning takes entries out of objects and changes nothing else, so a valid payload can
only become invalid by the loss of a required key.  What is lost is read off the two
payloads alone, wherever the fields of both are the same.
-/

namespace EventDelivery

def FieldMap.Requires (fields : FieldMap) (key : String) : Prop :=
  ∃ field, (key, field) ∈ fields ∧ field.traits.required = true

mutual

/-- An object of the fields has an entry that is missing in what is left of it, or
something is lost from what it holds under a declared key.  The fields of the object
that has lost the entry come last, with the key. -/
inductive FieldMap.Loses : FieldMap → Json → Json → FieldMap → String → Prop where
  | here {fields : FieldMap} {members left : List (String × Json)} {key : String}
      {value : Json} :
      (key, value) ∈ members → (∀ other, (key, other) ∉ left) →
      FieldMap.Loses fields (.obj members) (.obj left) fields key
  | under {fields inner : FieldMap} {members left : List (String × Json)}
      {name key : String} {field : Field} {held kept : Json} :
      (name, field) ∈ fields → (name, held) ∈ members → (name, kept) ∈ left →
      Field.Loses field held kept inner key →
      FieldMap.Loses fields (.obj members) (.obj left) inner key

/-- Something is lost from the object that a field holds, or from an item of its list. -/
inductive Field.Loses : Field → Json → Json → FieldMap → String → Prop where
  | one {field : Field} {inner : FieldMap} {held kept : Json} {key : String} :
      field.traits.multiple = false →
      FieldMap.Loses field.held held kept inner key →
      Field.Loses field held kept inner key
  | item {field : Field} {inner : FieldMap} {items rest : List Json} {position : Nat}
      {entry kept : Json} {key : String} :
      field.traits.multiple = true → items[position]? = some entry →
      rest[position]? = some kept →
      FieldMap.Loses field.held entry kept inner key →
      Field.Loses field (.arr items) (.arr rest) inner key

end

/-- Nothing that is lost was required where it was. -/
def FieldMap.Spares (fields : FieldMap) (payload left : Json) : Prop :=
  ∀ inner key, fields.Loses payload left inner key → ¬ inner.Requires key

/-- Nothing that is lost from what the field holds was required where it was. -/
def Field.Spares (field : Field) (held kept : Json) : Prop :=
  ∀ inner key, field.Loses held kept inner key → ¬ inner.Requires key

/-- Neither the field nor a field inside of it, at any depth, is an object field with
choices. -/
inductive Field.NoObjectChoices : Field → Prop where
  | of {field : Field} :
      (field.traits.type = .object → field.traits.choices = none) →
      (∀ name inside, (name, inside) ∈ field.inner → NoObjectChoices inside) →
      NoObjectChoices field

/-- No object field has choices, at any depth. -/
def FieldMap.NoObjectChoices (fields : FieldMap) : Prop :=
  ∀ name field, (name, field) ∈ fields → field.NoObjectChoices

/-- What the field accepts it still accepts after cleaning, unless something required
is lost. -/
def Field.CleansWell (field : Field) : Prop :=
  ∀ value : Json, value.Ordered → field.Fits value →
    (field.Fits (field.clean value) ↔ field.Spares value (field.clean value))

namespace FieldMap

private theorem not_loses_of_not_object {fields inner : FieldMap} {value left : Json} {key : String}
    (noObject : ∀ members, value ≠ .obj members) :
    ¬ fields.Loses value left inner key := by
  intro loses
  cases loses with
  | here => exact noObject _ rfl
  | under => exact noObject _ rfl

variable {fields : FieldMap} {members : List (String × Json)}

/-- What is left under a declared key is what its field leaves of it. -/
theorem exists_of_mem_cleanMembers (ordered : fields.Ordered) {name : String}
    {field : Field} {kept : Json} (declared : (name, field) ∈ fields)
    (left : (name, kept) ∈ fields.cleanMembers members) :
    ∃ value, (name, value) ∈ members ∧ kept = field.clean value := by
  rw [cleanMembers_eq_map, List.mem_map] at left
  obtain ⟨⟨key, value⟩, member, same⟩ := left
  obtain ⟨rfl, rfl⟩ := Prod.mk.inj same
  refine ⟨value, (List.mem_filter.mp member).1, ?_⟩
  simp [get?_of_mem ordered declared]

private theorem exists_mem_of_mem_cleanMembers {name : String} {kept : Json}
    (left : (name, kept) ∈ fields.cleanMembers members) :
    ∃ value, (name, value) ∈ members := by
  rw [cleanMembers_eq_map, List.mem_map] at left
  obtain ⟨⟨key, value⟩, member, same⟩ := left
  obtain ⟨rfl, rfl⟩ := Prod.mk.inj same
  exact ⟨value, (List.mem_filter.mp member).1⟩

/-- The members that are left fit and include what is required, unless something that
was required is lost. -/
theorem spares_cleanMembers_iff (ordered : fields.Ordered)
    (cleans : ∀ name field, (name, field) ∈ fields → field.CleansWell)
    (sorted : (Json.obj members).Ordered)
    (fits : ∀ name value field, (name, value) ∈ members → (name, field) ∈ fields →
      field.Fits value)
    (required : ∀ name field, (name, field) ∈ fields → field.traits.required = true →
      ∃ value, (name, value) ∈ members) :
    fields.Spares (.obj members) (.obj (fields.cleanMembers members)) ↔
      (∀ name kept field, (name, kept) ∈ fields.cleanMembers members →
        (name, field) ∈ fields → field.Fits kept) ∧
      ∀ name field, (name, field) ∈ fields → field.traits.required = true →
        ∃ kept, (name, kept) ∈ fields.cleanMembers members := by
  constructor
  · intro spares
    constructor
    · intro name kept field left declared
      obtain ⟨value, present, rfl⟩ := exists_of_mem_cleanMembers ordered declared left
      have valueOrdered := Json.ordered_of_mem_members sorted.2 present
      apply (cleans name field declared value valueOrdered
        (fits name value field present declared)).mpr
      intro inner key loses
      exact spares inner key (.under declared present left loses)
    · intro name field declared needed
      obtain ⟨value, present⟩ := required name field declared needed
      refine Classical.byContradiction fun absent => ?_
      have gone : ∀ other, (name, other) ∉ fields.cleanMembers members :=
        fun other left => absent ⟨other, left⟩
      exact spares fields name (.here present gone) ⟨field, declared, needed⟩
  · rintro ⟨stillFits, stillThere⟩ inner key loses
    cases loses with
    | here present gone =>
        rintro ⟨field, declared, needed⟩
        obtain ⟨kept, left⟩ := stillThere key field declared needed
        exact gone kept left
    | @under _ _ _ _ name _ field held kept declared present left deeper =>
        obtain ⟨value, alsoPresent, rfl⟩ :=
          exists_of_mem_cleanMembers ordered declared left
        obtain rfl := Assoc.value_unique sorted.1 present alsoPresent
        have valueOrdered := Json.ordered_of_mem_members sorted.2 present
        exact (cleans name field declared held valueOrdered
          (fits name held field present declared)).mp
            (stillFits name _ field left declared) inner key deeper

end FieldMap

namespace Field

variable {field : Field}

theorem spares_of_single (single : field.traits.multiple = false) (held kept : Json) :
    field.Spares held kept ↔ field.held.Spares held kept := by
  constructor
  · intro spares inner key loses
    exact spares inner key (.one single loses)
  · intro spares inner key loses
    cases loses with
    | one _ deeper => exact spares inner key deeper
    | item many => simp [single] at many

theorem spares_of_multiple (many : field.traits.multiple = true) (items : List Json) :
    field.Spares (.arr items) (.arr (items.map field.held.clean)) ↔
      ∀ item, item ∈ items → field.held.Spares item (field.held.clean item) := by
  constructor
  · intro spares item member inner key loses
    obtain ⟨position, found⟩ := List.mem_iff_getElem?.mp member
    have kept : (items.map field.held.clean)[position]? = some (field.held.clean item) := by
      rw [List.getElem?_map, found, Option.map_some]
    exact spares inner key (.item many found kept loses)
  · intro spares inner key loses
    cases loses with
    | one single => simp [many] at single
    | item _ found kept deeper =>
        rw [List.getElem?_map, found, Option.map_some, Option.some.injEq] at kept
        subst kept
        exact spares _ (List.mem_of_getElem? found) inner key deeper

/-- Base values stay base values, unless something required is lost: their type and
their format do not depend on entries of objects, and objects have no choices. -/
theorem base_clean_iff (ordered : field.Ordered)
    (choiceless : field.traits.type = .object → field.traits.choices = none)
    (cleans : ∀ name inside, (name, inside) ∈ field.inner → inside.CleansWell)
    {value : Json} (sorted : value.Ordered) (base : field.Base value) :
    field.Base (field.held.clean value) ↔
      field.held.Spares value (field.held.clean value) := by
  by_cases object : ∃ members, value = .obj members
  · obtain ⟨members, rfl⟩ := object
    obtain ⟨type, _, _, inside, required, closed⟩ := (field.base_iff _).mp base
    have isObject : field.traits.type = .object := by
      generalize field.traits.type = kind at type
      cases type
      rfl
    have heldInner : field.held = field.inner := by simp [held, isObject]
    have cleaned := FieldMap.spares_cleanMembers_iff (field.ordered_iff.mp ordered) cleans
      sorted (fun name value inner => inside members name value inner rfl)
      (fun name inner => required members name inner rfl)
    rw [heldInner, FieldMap.clean, cleaned, base_iff]
    -- an object stays one without undeclared keys; what it holds decides the rest
    constructor
    · rintro ⟨_, _, _, fits, present, _⟩
      exact ⟨fun name kept inner => fits _ name kept inner rfl,
        fun name inner => present _ name inner rfl⟩
    · rintro ⟨fits, present⟩
      refine ⟨?_, ?_, ?_, ?_, ?_, ?_⟩
      · rw [isObject]
        exact .object
      · rintro _ _ _ _ _ ⟨⟩
      · simp [FieldTraits.ChoiceFits, choiceless isObject]
      · rintro _ name kept inner ⟨⟩
        exact fits name kept inner
      · rintro _ name inner ⟨⟩
        exact present name inner
      · rintro _ name kept ⟨⟩ isClosed left
        obtain ⟨value, present⟩ := FieldMap.exists_mem_of_mem_cleanMembers left
        exact closed members name value rfl isClosed present
  · have noObject : ∀ members, value ≠ .obj members :=
      fun members same => object ⟨members, same⟩
    have same : field.held.clean value = value := by
      cases value <;> first | rfl | exact absurd rfl (noObject _)
    rw [same]
    exact ⟨fun _ inner key loses => absurd loses (FieldMap.not_loses_of_not_object noObject),
      fun _ => base⟩

theorem cleansWell (field : Field) (ordered : field.Ordered)
    (choiceless : field.NoObjectChoices) : field.CleansWell := by
  induction field using Field.induction with
  | of traits properties induction =>
      obtain ⟨own, inside⟩ := choiceless
      have insideOrdered := (ordered_iff _).mp ordered
      have bases : ∀ value : Json, value.Ordered → (Field.of traits properties).Base value →
          ((Field.of traits properties).Base ((Field.of traits properties).held.clean value) ↔
            (Field.of traits properties).held.Spares value
              ((Field.of traits properties).held.clean value)) :=
        fun value => base_clean_iff ordered own fun name field declared =>
          induction name field declared (insideOrdered.2 name field declared)
            (inside name field declared)
      generalize Field.of traits properties = field at ordered bases
      intro value sorted fits
      -- a list is cleaned item by item, and null is left alone
      cases fits with
      | null nullable =>
          have kept : field.clean .null = .null := rfl
          rw [kept]
          refine ⟨fun _ inner key loses => ?_, fun _ => .null nullable⟩
          cases loses with
          | one _ deeper =>
              exact absurd deeper (FieldMap.not_loses_of_not_object (by simp))
      | @many _ items multiple base =>
          rw [field.clean_of_multiple multiple, spares_of_multiple multiple, fits_iff]
          have each : ∀ item, item ∈ items → (field.Base (field.held.clean item) ↔
              field.held.Spares item (field.held.clean item)) :=
            fun item member =>
              bases item (Json.ordered_of_mem_items sorted member) (base item member)
          simp only [multiple, reduceCtorEq, and_false, Json.arr.injEq, exists_eq_left',
            List.mem_map, forall_exists_index, and_imp, forall_apply_eq_imp_iff₂, true_and,
            Bool.true_eq_false, false_and, or_false, false_or]
          exact forall₂_congr each
      | one single base =>
          rw [field.clean_of_single single, spares_of_single single, ← bases value sorted base,
            fits_iff]
          constructor
          · rintro (⟨_, null⟩ | ⟨many, _⟩ | ⟨_, still⟩)
            · cases value with
              | obj members => simp [FieldMap.clean] at null
              | _ => exact base
            · simp [single] at many
            · exact still
          · intro still
            exact .inr (.inr ⟨single, still⟩)

end Field

/-- A payload that fields accept is accepted after cleaning exactly when nothing that
was required is lost. -/
theorem FieldMap.accepts_clean_iff {fields : FieldMap} (ordered : fields.Ordered)
    (choiceless : fields.NoObjectChoices) {payload : Json} (sorted : payload.Ordered)
    (accepted : fields.Accepts payload) :
    fields.Accepts (fields.clean payload) ↔
      fields.Spares payload (fields.clean payload) := by
  obtain ⟨members, rfl, declared, required, fits⟩ := (fields.accepts_iff _).mp accepted
  have cleans : ∀ name field, (name, field) ∈ fields → field.CleansWell :=
    fun name field known =>
      field.cleansWell (ordered.2 name field known) (choiceless name field known)
  rw [FieldMap.clean, spares_cleanMembers_iff ordered cleans sorted fits required, accepts_iff]
  constructor
  · rintro ⟨_, ⟨⟩, _, present, fit⟩
    exact ⟨fit, present⟩
  · rintro ⟨fit, present⟩
    refine ⟨_, rfl, ?_, present, fit⟩
    intro name kept left
    obtain ⟨value, member⟩ := exists_mem_of_mem_cleanMembers left
    exact declared name value member

/-- Where no object field has choices, a valid payload is still valid after cleaning
exactly when no key is lost that was required in its object. -/
theorem FieldMap.cleaned_valid_iff {fields : FieldMap} (ordered : fields.Ordered)
    (choiceless : fields.NoObjectChoices) {compiled : CompiledSchema}
    (compiles : CompiledSchema.compile fields.schema = .ok compiled) {payload : Json}
    (sorted : payload.Ordered) (valid : compiled.violations payload = [])
    (fromRoot : Bool) :
    let cleaned := removeEmptyValues payload (some fields.schema) fromRoot
    compiled.violations cleaned = [] ↔
      ∀ inner key, fields.Loses payload cleaned inner key → ¬ inner.Requires key := by
  intro cleaned
  have same : cleaned = fields.clean payload :=
    Clean.cleanObject_eq payload ordered (Clean.describes_payload ordered)
  have checks : ∀ value, compiled.violations value = [] ↔ fields.Accepts value := by
    intro value
    unfold CompiledSchema.violations
    rw [CompiledSchema.schema_of_compile compiles]
    exact schema_eq_nil_iff ordered _ _ _ _
  rw [checks, same]
  exact accepts_clean_iff ordered choiceless sorted ((checks payload).mp valid)

/-- The fields of a parcel: a code, and a remark that need not be there. -/
def parcelFields : FieldMap :=
  [("code", (Field.new "Code" .string).require), ("remark", Field.new "Remark" .string)]

/-- The fields of a shipment: a note and a list of parcels. -/
def shipmentFields : FieldMap :=
  [("note", Field.new "Note" .string),
    ("parcels", ((Field.new "Parcels" .object).makeMultiple).contain parcelFields)]

/-- A shipment of two parcels, the second of them with an empty code. -/
def shipmentPayload : Json :=
  .obj [("note", .str ""), ("parcels", .arr
    [.obj [("code", .str "A"), ("remark", .str "")], .obj [("code", .str "")]])]

/-- The empty code is valid and is lost, and then it is missed. -/
theorem shipmentPayload_loses_code :
    shipmentFields.Ordered ∧ shipmentFields.NoObjectChoices ∧ shipmentPayload.Ordered ∧
      ∃ compiled, CompiledSchema.compile shipmentFields.schema = .ok compiled ∧
        compiled.violations shipmentPayload = [] ∧
        let cleaned := removeEmptyValues shipmentPayload (some shipmentFields.schema) true
        shipmentFields.Loses shipmentPayload cleaned parcelFields "code" ∧
          parcelFields.Requires "code" ∧ compiled.violations cleaned ≠ [] := by
  have parcels : Assoc.Sorted parcelFields := by decide
  have ordered : shipmentFields.Ordered := by
    refine ⟨by decide, (Field.allOrdered_iff shipmentFields).mp ?_⟩
    exact ⟨trivial, ⟨parcels, trivial, trivial, trivial⟩, trivial⟩
  have choiceless : shipmentFields.NoObjectChoices := by
    have inside : parcelFields.NoObjectChoices := by
      simp only [FieldMap.NoObjectChoices, parcelFields, List.mem_cons, Prod.mk.injEq,
        List.not_mem_nil, or_false]
      rintro name field (⟨_, rfl⟩ | ⟨_, rfl⟩) <;> exact .of (fun _ => rfl) nofun
    simp only [FieldMap.NoObjectChoices, shipmentFields, List.mem_cons, Prod.mk.injEq,
      List.not_mem_nil, or_false]
    rintro name field (⟨_, rfl⟩ | ⟨_, rfl⟩)
    · exact .of (fun _ => rfl) nofun
    · exact .of (fun _ => rfl) inside
  have sorted : shipmentPayload.Ordered := by
    refine ⟨by decide, trivial, ⟨⟨by decide, trivial, trivial, trivial⟩, ?_⟩, trivial⟩
    exact ⟨⟨by decide, trivial, trivial⟩, trivial⟩
  have found : ((CompiledSchema.compile shipmentFields.schema).toOption.map fun compiled =>
      compiled.violations shipmentPayload) = some [] := by
    decide +kernel
  cases compiles : CompiledSchema.compile shipmentFields.schema with
  | error fault => simp [compiles, Except.toOption] at found
  | ok compiled =>
      have valid : compiled.violations shipmentPayload = [] := by
        simpa [compiles, Except.toOption] using found
      have cleaned : removeEmptyValues shipmentPayload (some shipmentFields.schema) true =
          .obj [("parcels", .arr [.obj [("code", .str "A")], .obj []])] := by
        rw [show removeEmptyValues shipmentPayload (some shipmentFields.schema) true =
          shipmentFields.clean shipmentPayload from
            Clean.cleanObject_eq shipmentPayload ordered (Clean.describes_payload ordered)]
        decide
      have loses : shipmentFields.Loses shipmentPayload
          (.obj [("parcels", .arr [.obj [("code", .str "A")], .obj []])]) parcelFields
          "code" := by
        refine .under (.tail _ (.head _)) (.tail _ (.head _)) (.head _) ?_
        have code : parcelFields.Loses (.obj [("code", .str "")]) (.obj []) parcelFields
            "code" := .here (.head _) (by simp)
        exact @Field.Loses.item _ _ _ _ 1 _ _ _ rfl rfl rfl code
      have requires : parcelFields.Requires "code" := ⟨_, .head _, rfl⟩
      have spared :=
        FieldMap.cleaned_valid_iff ordered choiceless compiles sorted valid true
      refine ⟨ordered, choiceless, sorted, compiled, rfl, valid, ?_, requires, ?_⟩
      · rw [cleaned]
        exact loses
      · intro stillValid
        exact spared.mp stillValid parcelFields "code" (cleaned ▸ loses) requires

end EventDelivery
