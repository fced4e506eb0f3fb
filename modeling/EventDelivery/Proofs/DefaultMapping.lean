import EventDelivery.Action.Definition
import EventDelivery.Proofs.MappingSafety

/-!
# The mapping that an action starts with

The defaults of the fields, by name, are a mapping of their own.  Unless a name is
set aside for directives, it resolves field by field: each default is resolved as if
it stood alone, and its value goes to the name of its field.
-/

namespace EventDelivery

/-- What the default of a field resolves to over an event, if it does. -/
def Field.startingValue? (event : Json) (field : Field) : Option Json :=
  field.traits.default.bind fun mapping =>
    (Mapping.resolve (Mapping.eventData event) mapping).toOption.join

theorem Field.startingValue?_eq_some_iff {event : Json} {field : Field} {value : Json} :
    field.startingValue? event = some value ↔
      ∃ mapping, field.traits.default = some mapping ∧
        Mapping.resolve (Mapping.eventData event) mapping = .ok (some value) := by
  unfold startingValue?
  rw [Option.bind_eq_some_iff]
  apply exists_congr
  intro mapping
  apply and_congr_right
  intro _
  cases Mapping.resolve (Mapping.eventData event) mapping <;> simp [Except.toOption]

namespace Mapping

/-- Members that all resolve do so one by one; what resolves to nothing is left out. -/
theorem resolveMembers_eq_filterMap {data : Json} {members : List (String × Json)}
    (each : ∀ key value, (key, value) ∈ members → Succeeds (resolve data value)) :
    resolveMembers data members =
      .ok (members.filterMap fun member =>
        (resolve data member.2).toOption.join.map fun value => (member.1, value)) := by
  induction members with
  | nil => rfl
  | cons member rest induction =>
      obtain ⟨key, value⟩ := member
      obtain ⟨found, here⟩ := each key value List.mem_cons_self
      have later := induction fun other value member =>
        each other value (List.mem_cons_of_mem _ member)
      simp only [resolveMembers, here, later]
      cases found <;> simp [bind, Except.bind, consMember, here, Except.toOption]

end Mapping

namespace FieldMap

/-- The values that the defaults of fields resolve to, by the names of the fields. -/
def startingValues (fields : FieldMap) (event : Json) : List (String × Json) :=
  fields.filterMap fun entry =>
    (entry.2.startingValue? event).map fun value => (entry.1, value)

variable {fields : FieldMap} {event : Json}

theorem mem_startingValues_iff {name : String} {value : Json} :
    (name, value) ∈ fields.startingValues event ↔
      ∃ field, (name, field) ∈ fields ∧ field.startingValue? event = some value := by
  simp only [startingValues, List.mem_filterMap, Option.map_eq_some_iff, Prod.mk.injEq]
  constructor
  · rintro ⟨⟨other, field⟩, member, found, resolved, rfl, rfl⟩
    exact ⟨field, member, resolved⟩
  · rintro ⟨field, member, resolved⟩
    exact ⟨(name, field), member, value, resolved, rfl, rfl⟩

theorem startingValues_sorted (ordered : Assoc.Sorted fields) :
    Assoc.Sorted (fields.startingValues event) := by
  apply List.Pairwise.filterMap _ _ ordered
  intro first second below _ found _ other
  simp only [Option.map_eq_some_iff] at found other
  obtain ⟨_, _, rfl⟩ := found
  obtain ⟨_, _, rfl⟩ := other
  exact below

theorem get?_startingValues (ordered : Assoc.Sorted fields) (name : String) :
    Assoc.get? name (fields.startingValues event) =
      (Assoc.get? name fields).bind (Field.startingValue? event) := by
  apply Option.ext
  intro value
  rw [Assoc.get?_eq_some_iff (startingValues_sorted ordered), mem_startingValues_iff,
    Option.bind_eq_some_iff]
  apply exists_congr
  intro field
  rw [Assoc.get?_eq_some_iff ordered]

theorem transform_defaultMapping
    (unreserved : ∀ name field, (name, field) ∈ fields → field.traits.default ≠ none →
      Mapping.isReserved name = false)
    (resolves : ∀ name field mapping, (name, field) ∈ fields →
      field.traits.default = some mapping →
        Mapping.Succeeds (Mapping.resolve (Mapping.eventData event) mapping)) :
    Mapping.transform fields.defaultMapping event =
      .ok (.obj (fields.startingValues event)) := by
  have declared : ∀ key mapping,
      (key, mapping) ∈ (fields.filterMap fun entry =>
        entry.2.traits.default.map fun mapping => (entry.1, mapping)) →
      ∃ field, (key, field) ∈ fields ∧ field.traits.default = some mapping := by
    intro key mapping member
    simp only [List.mem_filterMap, Option.map_eq_some_iff, Prod.mk.injEq] at member
    obtain ⟨⟨_, field⟩, member, _, given, rfl, rfl⟩ := member
    exact ⟨field, member, given⟩
  rw [Mapping.transform, defaultMapping, Mapping.resolve_members,
    Mapping.resolveMembers_eq_filterMap, List.filterMap_filterMap]
  · have each : (fun entry : String × Field =>
        (entry.2.traits.default.map fun mapping => (entry.1, mapping)).bind fun member =>
          (Mapping.resolve (Mapping.eventData event) member.2).toOption.join.map
            fun value => (member.1, value)) =
        fun entry => (entry.2.startingValue? event).map fun value => (entry.1, value) := by
      funext entry
      unfold Field.startingValue?
      cases entry.2.traits.default <;> rfl
    simp only [Except.map, Option.getD_some, each, startingValues]
  · intro key mapping member
    obtain ⟨field, member, given⟩ := declared key mapping member
    exact resolves key field mapping member given
  · intro key mapping member
    obtain ⟨field, member, given⟩ := declared key mapping member
    apply unreserved key field member
    simp [given]

end FieldMap

namespace ActionDefinition

/-- If no field with a default has a name set aside for directives, and all defaults
resolve, the mapping that an action starts with gives exactly what they resolve to, by
the names of their fields.  Where names are not repeated, what stands at a name
depends on the field of that name alone. -/
theorem defaultMapping_resolves_by_field (definition : ActionDefinition) (event : Json)
    (unreserved : ∀ name field, (name, field) ∈ definition.fields →
      field.traits.default ≠ none → Mapping.isReserved name = false)
    (resolves : ∀ name field mapping, (name, field) ∈ definition.fields →
      field.traits.default = some mapping →
        Mapping.Succeeds (Mapping.resolve (Mapping.eventData event) mapping)) :
    ∃ payload, Mapping.transform definition.defaultMapping event = .ok (.obj payload) ∧
      (∀ name value, (name, value) ∈ payload ↔
        ∃ field mapping, (name, field) ∈ definition.fields ∧
          field.traits.default = some mapping ∧
          Mapping.resolve (Mapping.eventData event) mapping = .ok (some value)) ∧
      (Assoc.Sorted definition.fields →
        Assoc.Sorted payload ∧
          ∀ name, Assoc.get? name payload =
            (Assoc.get? name definition.fields).bind (Field.startingValue? event)) := by
  refine ⟨definition.fields.startingValues event,
    FieldMap.transform_defaultMapping unreserved resolves, ?_, ?_⟩
  · intro name value
    simp only [FieldMap.mem_startingValues_iff, Field.startingValue?_eq_some_iff,
      exists_and_left]
  · intro ordered
    exact ⟨FieldMap.startingValues_sorted ordered, FieldMap.get?_startingValues ordered⟩

def startingField (label : String) (mapping : Json) : Field :=
  (Field.new label .string).startWith mapping

/-- A greeting, a note without a default, and a phone number. -/
def contactDefinition : ActionDefinition where
  title := "Contact"
  fields := [
    ("@note", Field.new "Note" .text),
    ("greeting", startingField "Greeting" (.obj [("@template", .str "Hi \x7b\x7bname\x7d\x7d")])),
    ("phone", startingField "Phone" (.obj [("@path", .str "$.phone")]))]

theorem contactDefinition_resolves :
    ∃ payload,
      Mapping.transform contactDefinition.defaultMapping (.obj [("name", .str "Ada")]) =
        .ok (.obj payload) ∧
      Assoc.get? "greeting" payload = some (.str "Hi Ada") ∧
      Assoc.get? "@note" payload = none ∧ Assoc.get? "phone" payload = none := by
  have unreserved : ∀ name field, (name, field) ∈ contactDefinition.fields →
      field.traits.default ≠ none → Mapping.isReserved name = false := by
    intro name field member given
    simp only [contactDefinition, List.mem_cons, Prod.mk.injEq, List.not_mem_nil,
      or_false] at member
    rcases member with ⟨rfl, rfl⟩ | ⟨rfl, rfl⟩ | ⟨rfl, rfl⟩
    · exact absurd rfl given
    · decide
    · decide
  have resolves : ∀ name field mapping, (name, field) ∈ contactDefinition.fields →
      field.traits.default = some mapping →
        Mapping.Succeeds (Mapping.resolve
          (Mapping.eventData (.obj [("name", .str "Ada")])) mapping) := by
    intro name field mapping member given
    simp only [contactDefinition, List.mem_cons, Prod.mk.injEq, List.not_mem_nil,
      or_false] at member
    rcases member with ⟨rfl, rfl⟩ | ⟨rfl, rfl⟩ | ⟨rfl, rfl⟩
    · cases given
    · cases given
      exact ⟨_, rfl⟩
    · cases given
      exact ⟨_, rfl⟩
  obtain ⟨payload, transformed, _, named⟩ :=
    defaultMapping_resolves_by_field contactDefinition _ unreserved resolves
  obtain ⟨_, found⟩ := named (by decide)
  refine ⟨payload, transformed, ?_, ?_, ?_⟩ <;> rw [found] <;> decide +kernel

/-- Fields of the given name, with a default that resolves to itself. -/
def markedDefinition (name : String) : ActionDefinition where
  title := "Mark"
  fields := [(name, startingField "Mark" (.str "x"))]

/-- A default under a name set aside for directives is taken for a directive, or for a
directive that there is not. -/
theorem reserved_name_taken_for_directive :
    (∀ event, Mapping.resolve event (.str "x") = .ok (some (.str "x"))) ∧
      Mapping.transform (markedDefinition "@id").defaultMapping (.obj []) =
        .error (.unknownDirective "@id") ∧
      Mapping.transform (markedDefinition "@literal").defaultMapping (.obj []) =
        .ok (.str "x") := by
  exact ⟨fun event => rfl, rfl, rfl⟩

end ActionDefinition

end EventDelivery
