import EventDelivery.Field.Wire
import EventDelivery.Proofs.FieldTree
import EventDelivery.Proofs.RecordReading

/-!
# Decoding fields

A decoded field holds the elements of its list of choices as they are given, and
what is decoded for a name among its properties is the field inside of it.
-/

namespace EventDelivery

namespace FieldTraits

/-- What a field is read from. -/
def source? : Json → Option Record.Source
  | .obj members => some (.members members)
  | .arr items => some (.items items)
  | _ => none

/-- What a definition gives for a member of a field, by name or by place. -/
def given? (definition : Json) (name : String) : Option Json :=
  (source? definition).bind fun source => (record.given? name source).map Prod.snd

/-- The elements of the list of choices that a definition gives. -/
def listed? (definition : Json) : Option (List Json) :=
  (given? definition "choices").bind Json.items?

/-- The definition that a definition gives for a name among its properties. -/
def inner? (definition : Json) (name : String) : Option Json :=
  match given? definition "properties" with
  | some (.obj members) => Assoc.last? name members
  | _ => none

/-- The definition at a path of names through properties. -/
def definitionAt? (definition : Json) : List String → Option Json
  | [] => some definition
  | name :: path => (inner? definition name).bind fun inner => definitionAt? inner path

/-- A field is read exactly when each of its members is. -/
theorem read_eq_done_iff (nested : Record.Reading (Option FieldMap))
    (source : Record.Source) (traits : FieldTraits) (properties : Option FieldMap) :
    read nested source = .done (.of traits properties) ↔
      record.required source "label" Wire.text = .done traits.label ∧
      record.optional source "description" "" Wire.text = .done traits.description ∧
      record.optional source "type" .string (Wire.oneOf FieldType.names) =
        .done traits.type ∧
      record.optional source "required" false Wire.flag = .done traits.required ∧
      record.optional source "default" none (Wire.nullable Wire.any) =
        .done traits.default ∧
      record.aliased source "hidden" "unsafe_hidden" false Wire.flag =
        .done traits.hidden ∧
      record.optional source "multiple" false Wire.flag = .done traits.multiple ∧
      record.optional source "allowNull" false Wire.flag = .done traits.allowNull ∧
      record.optional source "choices" none
          (Wire.nullable (Wire.list fun value => .ok (Choice.bare value))) =
        .done traits.choices ∧
      record.optional source "format" none (Wire.nullable Wire.text) =
        .done traits.format ∧
      nested = .done properties ∧
      record.optional source "additionalProperties" none (Wire.nullable Wire.flag) =
        .done traits.additionalProperties ∧
      record.optional source "dynamic" false Wire.flag = .done traits.dynamic ∧
      record.optional source "placeholder" none (Wire.nullable Wire.text) =
        .done traits.placeholder := by
  constructor
  · intro done
    simp only [read, Record.Reading.seq_eq_done_iff,
      Record.Reading.map_eq_done_iff] at done
    -- One reading is taken off after the other, the last member first.
    obtain ⟨_, _, ⟨_, _, ⟨_, _, ⟨_, _, ⟨_, _, ⟨_, _, ⟨_, _, ⟨_, _, ⟨_, _, ⟨_, _, ⟨_, _,
      ⟨_, _, ⟨_, _, ⟨_, label, rfl⟩, description, rfl⟩, type, rfl⟩, required, rfl⟩,
      default, rfl⟩, hidden, rfl⟩, multiple, rfl⟩, allowNull, rfl⟩, choices, rfl⟩,
      format, rfl⟩, inner, rfl⟩, additional, rfl⟩, dynamic, rfl⟩, placeholder,
      same⟩ := done
    cases same
    exact ⟨label, description, type, required, default, hidden, multiple, allowNull,
      choices, format, inner, additional, dynamic, placeholder⟩
  · rintro ⟨label, description, type, required, default, hidden, multiple, allowNull,
      choices, format, inner, additional, dynamic, placeholder⟩
    simp only [read, label, description, type, required, default, hidden, multiple,
      allowNull, choices, format, inner, additional, dynamic, placeholder]
    rfl

/-- The list of choices is read element by element, each as a bare choice. -/
theorem choices_of_read {source : Record.Source} {choices : Option (List Choice)}
    (done : record.optional source "choices" none
      (Wire.nullable (Wire.list fun value => .ok (Choice.bare value))) = .done choices) :
    choices = (((record.given? "choices" source).map Prod.snd).bind Json.items?).map
      (List.map .bare) := by
  rw [Record.optional_eq_done_iff] at done
  cases given : record.given? "choices" source with
  | none =>
      simp only [given] at done
      simp [← done]
  | some entry =>
      obtain ⟨key, value⟩ := entry
      simp only [given] at done
      cases value with
      | null => simpa [Wire.nullable, Json.items?] using done.symm
      | arr items =>
          have decoded := Wire.decodeItems_ok (fun value => .ok (Choice.bare value)) id
            Choice.bare (fun _ => rfl) items
          rw [List.map_id] at decoded
          simp only [Wire.nullable, Wire.list, decoded, Except.map,
            Except.ok.injEq] at done
          simp [← done, Json.items?]
      | _ => simp [Wire.nullable, Wire.list, Except.map] at done

end FieldTraits

namespace Field

theorem nestedMember_eq (members : List (String × Json)) :
    nestedMember members =
      FieldTraits.record.optional (.members members) "properties" none nestedOfJson := by
  induction members with
  | nil => rfl
  | cons member rest induction =>
      obtain ⟨key, value⟩ := member
      by_cases here : key = "properties"
      · simp [nestedMember, Record.optional, Record.given?, Assoc.get?, here]
      · simpa [nestedMember, Record.optional, Record.given?, Assoc.get?, here]
          using induction

theorem nestedItem_eq (items : List Json) :
    nestedItem (FieldTraits.record.fields.idxOf "properties") items =
      FieldTraits.record.optional (.items items) "properties" none nestedOfJson := by
  have each : ∀ position, nestedItem position items =
      items[position]?.elim (.done none) fun value => .given "" (nestedOfJson value) := by
    induction items with
    | nil => simp [nestedItem]
    | cons item rest induction =>
        intro position
        cases position with
        | zero => simp [nestedItem]
        | succ position => simp [nestedItem, induction]
  rw [each]
  cases given : items[FieldTraits.record.fields.idxOf "properties"]? <;>
    simp [Record.optional, Record.given?, given]

/-- A field is decoded from an object or an array, reading every member. -/
theorem ofJson_eq {definition : Json} {source : Record.Source}
    (given : FieldTraits.source? definition = some source) :
    Field.ofJson definition =
      FieldTraits.record.finish source (FieldTraits.read
        (FieldTraits.record.optional source "properties" none nestedOfJson) source) := by
  cases definition with
  | obj members =>
      cases given
      rw [Field.ofJson, nestedMember_eq]
  | arr items =>
      cases given
      rw [Field.ofJson, nestedItem_eq]
  | _ => nomatch given

/-- A decoded field has the choices that are listed, and the properties that are
decoded from what is given for them. -/
theorem parts_of_ofJson {definition : Json} {field : Field}
    (decoded : Field.ofJson definition = .ok field) :
    field.traits.choices = (FieldTraits.listed? definition).map (List.map .bare) ∧
      match FieldTraits.given? definition "properties" with
      | some value => nestedOfJson value = .ok field.properties
      | none => field.properties = none := by
  obtain ⟨traits, properties⟩ := field
  cases given : FieldTraits.source? definition with
  | none => cases definition <;> simp_all [FieldTraits.source?, Field.ofJson]
  | some source =>
      rw [ofJson_eq given] at decoded
      have done := Record.finish_eq_ok decoded
      rw [FieldTraits.read_eq_done_iff] at done
      obtain ⟨_, _, _, _, _, _, _, _, choices, _, nested, _⟩ := done
      refine ⟨?_, ?_⟩
      · simpa [FieldTraits.listed?, FieldTraits.given?, given] using
          FieldTraits.choices_of_read choices
      · rw [Record.optional_eq_done_iff] at nested
        simp only [FieldTraits.given?, given, Option.bind_some]
        cases found : FieldTraits.record.given? "properties" source with
        | none =>
            rw [found] at nested
            exact nested.symm
        | some entry =>
            rw [found] at nested
            exact nested

theorem nestedOfJson_eq_ok_iff {value : Json} {properties : Option FieldMap} :
    nestedOfJson value = .ok properties ↔
      (value = .null ∧ properties = none) ∨
      ∃ members fields, value = .obj members ∧ mapOfMembers members = .ok fields ∧
        properties = some (Assoc.ofList fields) := by
  cases value with
  | null => simp [nestedOfJson, eq_comm]
  | obj members =>
      cases made : mapOfMembers members with
      | error fault => simp [nestedOfJson, made, Except.map]
      | ok fields => simp [nestedOfJson, made, Except.map, eq_comm]
  | _ => simp [nestedOfJson]

/-- What is decoded for a name is decoded from what is given for it. -/
theorem last?_of_mapOfMembers {members : List (String × Json)} {fields : FieldMap}
    (decoded : mapOfMembers members = .ok fields) (name : String) :
    Option.Rel (fun definition field => Field.ofJson definition = .ok field)
      (Assoc.last? name members) (Assoc.last? name fields) := by
  induction members generalizing fields with
  | nil =>
      cases decoded
      exact .none
  | cons member rest induction =>
      obtain ⟨key, value⟩ := member
      rw [mapOfMembers] at decoded
      obtain ⟨first, decodedFirst, decoded⟩ := exists_ok_of_bind decoded
      obtain ⟨others, decodedOthers, decoded⟩ := exists_ok_of_bind decoded
      cases decoded
      rw [Assoc.last?_cons, Assoc.last?_cons]
      have later := induction decodedOthers
      generalize Assoc.last? name rest = given at later
      generalize Assoc.last? name others = found at later
      cases later with
      | some decodedField => exact .some decodedField
      | none =>
          by_cases here : key = name
          · simpa [here] using Option.Rel.some decodedFirst
          · simp [here]

/-- What a definition gives for a name among its properties is decoded to the field
of that name. -/
theorem get?_inner_of_ofJson {definition given : Json} {field : Field} {name : String}
    (decoded : Field.ofJson definition = .ok field)
    (found : FieldTraits.inner? definition name = some given) :
    ∃ inside, Assoc.get? name field.inner = some inside ∧
      Field.ofJson given = .ok inside := by
  obtain ⟨_, nested⟩ := parts_of_ofJson decoded
  unfold FieldTraits.inner? at found
  split at found
  · rename_i members givenProperties
    rw [givenProperties] at nested
    rcases nestedOfJson_eq_ok_iff.mp nested with
      ⟨impossible, _⟩ | ⟨_, fields, same, made, shown⟩
    · nomatch impossible
    · cases same
      have decodedFields := last?_of_mapOfMembers made name
      rw [found] at decodedFields
      generalize inField : Assoc.last? name fields = last at decodedFields
      cases decodedFields with
      | some decodedInside =>
          refine ⟨_, ?_, decodedInside⟩
          rw [inner_eq, shown, Option.getD_some, Assoc.get?_ofList, inField]
  · nomatch found

/-- The field at a path of names through properties. -/
def at? (field : Field) : List String → Option Field
  | [] => some field
  | name :: path => (Assoc.get? name field.inner).bind fun inside => inside.at? path

/-- The definition at a path is decoded to the field at the path. -/
theorem at?_of_ofJson {definition : Json} {field : Field}
    (decoded : Field.ofJson definition = .ok field) {path : List String} {given : Json}
    (found : FieldTraits.definitionAt? definition path = some given) :
    ∃ inside, field.at? path = some inside ∧ Field.ofJson given = .ok inside := by
  induction path generalizing definition field with
  | nil =>
      cases found
      exact ⟨field, rfl, decoded⟩
  | cons name path induction =>
      rw [FieldTraits.definitionAt?, Option.bind_eq_some_iff] at found
      obtain ⟨inner, innerFound, rest⟩ := found
      obtain ⟨inside, insideFound, insideDecoded⟩ :=
        get?_inner_of_ofJson decoded innerFound
      obtain ⟨last, lastFound, lastDecoded⟩ := induction insideDecoded rest
      exact ⟨last, by simp [at?, insideFound, lastFound], lastDecoded⟩

end Field

end EventDelivery
