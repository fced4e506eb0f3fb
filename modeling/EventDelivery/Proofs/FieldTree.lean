import EventDelivery.Field.Schema
import EventDelivery.Proofs.AssocLookup

/-!
# Fields inside of fields

Fields nest to any depth.  What holds of a field whenever it holds of the fields
inside of it holds of every field.
-/

namespace EventDelivery

namespace Field

/-- The fields that a field declares inside of it. -/
def inner : Field → FieldMap
  | .of _ properties => properties.getD []

@[simp] theorem inner_of (traits : FieldTraits) (properties : Option FieldMap) :
    (Field.of traits properties).inner = properties.getD [] := rfl

@[simp] theorem traits_of (traits : FieldTraits) (properties : Option FieldMap) :
    (Field.of traits properties).traits = traits := rfl

theorem inner_eq (field : Field) : field.inner = field.properties.getD [] := by
  cases field
  rfl

variable {motive : Field → Prop}

mutual

/-- Induction from the fields inside of a field to the field. -/
theorem induction
    (of : ∀ traits properties,
      (∀ name field, (name, field) ∈ properties.getD [] → motive field) →
      motive (.of traits properties)) :
    ∀ field, motive field
  | .of traits none => of traits none (by simp)
  | .of traits (some fields) => of traits (some fields) (inductionAll of fields)

theorem inductionAll
    (of : ∀ traits properties,
      (∀ name field, (name, field) ∈ properties.getD [] → motive field) →
      motive (.of traits properties)) :
    ∀ (fields : List (String × Field)) name field, (name, field) ∈ fields → motive field
  | [], _, _, member => nomatch member
  | (_, first) :: rest, name, field, member =>
      match List.mem_cons.mp member with
      | .inl same => (Prod.mk.inj same).2 ▸ induction of first
      | .inr later => inductionAll of rest name field later

end

mutual

/-- The fields inside are ordered by name, at every depth. -/
def Ordered : Field → Prop
  | .of _ none => True
  | .of _ (some fields) => Assoc.Sorted fields ∧ AllOrdered fields

/-- The fields inside of each of the fields are ordered by name. -/
def AllOrdered : List (String × Field) → Prop
  | [] => True
  | (_, field) :: rest => field.Ordered ∧ AllOrdered rest

end

theorem allOrdered_iff (fields : List (String × Field)) :
    AllOrdered fields ↔ ∀ name field, (name, field) ∈ fields → field.Ordered := by
  induction fields with
  | nil => simp [AllOrdered]
  | cons entry rest induction =>
      obtain ⟨first, field⟩ := entry
      constructor
      · rintro ⟨here, tail⟩ name inside member
        rcases List.mem_cons.mp member with same | later
        · cases same
          exact here
        · exact induction.mp tail name inside later
      · intro ordered
        exact ⟨ordered first field List.mem_cons_self, induction.mpr
          fun name inside later => ordered name inside (List.mem_cons_of_mem _ later)⟩

end Field

/-- The fields are ordered by name, at every depth. -/
def FieldMap.Ordered (fields : FieldMap) : Prop :=
  Assoc.Sorted fields ∧ ∀ name field, (name, field) ∈ fields → field.Ordered

theorem Field.ordered_iff (field : Field) :
    field.Ordered ↔ FieldMap.Ordered field.inner := by
  cases field with
  | of traits properties =>
      cases properties with
      | none => simp [Field.Ordered, FieldMap.Ordered, Assoc.Sorted]
      | some fields => simp [Field.Ordered, FieldMap.Ordered, Field.allOrdered_iff]

namespace Field

theorem schemas_eq_map (fields : FieldMap) :
    schemas fields = fields.map fun entry => (entry.1, entry.2.schema) := by
  induction fields with
  | nil => rfl
  | cons entry rest induction => simp [schemas, induction]

theorem schemas_sorted {fields : FieldMap} (sorted : Assoc.Sorted fields) :
    Assoc.Sorted (schemas fields) := by
  rw [schemas_eq_map]
  exact (Assoc.sorted_map_iff (fun entry => entry.2.schema) fields).mpr sorted

/-- A field is compiled from its traits and the shape of the fields inside. -/
theorem schema_eq (traits : FieldTraits) (properties : Option FieldMap) :
    (Field.of traits properties).schema =
      traits.schema (properties.map FieldMap.shape) := by
  cases properties <;> rfl

theorem mem_requiredNames {fields : FieldMap} {name : String} :
    name ∈ requiredNames fields ↔
      ∃ field, (name, field) ∈ fields ∧ field.traits.required = true := by
  simp [requiredNames]

end Field

end EventDelivery
