import EventDelivery.Proofs.ChoiceDecoding

/-!
# Fields that are read as they were

A field that is encoded and decoded is the same field exactly when none of its initial
mappings is an explicit null and none of its choices has a label, at every depth.  What
is decoded is such a field.
-/

namespace EventDelivery

/-- The field has no explicit null as its initial mapping and no choice with a label, nor
does any field inside of it. -/
inductive Field.Lossless : Field → Prop where
  | of {field : Field} :
      field.traits.default ≠ some .null →
      (∀ choices, field.traits.choices = some choices →
        ∀ choice, choice ∈ choices → choice.IsBare) →
      (∀ name inside, (name, inside) ∈ field.inner → Field.Lossless inside) →
      Lossless field

/-- No field has an explicit null or a label, at every depth. -/
def FieldMap.Lossless (fields : FieldMap) : Prop :=
  ∀ name field, (name, field) ∈ fields → field.Lossless

private theorem map_eq_self_iff {α : Type} {f : α → α} {items : List α} :
    items.map f = items ↔ ∀ item, item ∈ items → f item = item := by
  have same : items.map f = items ↔ items.map f = items.map id := by rw [List.map_id]
  rw [same, List.map_inj_left]
  rfl

theorem Choice.reread_eq_self_iff (choice : Choice) :
    choice.reread = choice ↔ choice.IsBare := by
  cases choice <;> simp [Choice.reread, Choice.toJson, Choice.IsBare]

theorem FieldTraits.reread_eq_self_iff (traits : FieldTraits) :
    traits.reread = traits ↔
      traits.default ≠ some .null ∧
      ∀ choices, traits.choices = some choices →
        ∀ choice, choice ∈ choices → choice.IsBare := by
  have listed : traits.choices.map (List.map Choice.reread) = traits.choices ↔
      ∀ choices, traits.choices = some choices →
        ∀ choice, choice ∈ choices → choice.IsBare := by
    cases traits.choices with
    | none => simp
    | some choices =>
        simp [map_eq_self_iff, Choice.reread_eq_self_iff]
  rw [← listed, ← Json.filter_ne_null_eq_self_iff]
  obtain ⟨⟩ := traits
  simp [reread]

namespace Field

theorem lossless_iff (field : Field) :
    field.Lossless ↔
      field.traits.default ≠ some .null ∧
      (∀ choices, field.traits.choices = some choices →
        ∀ choice, choice ∈ choices → choice.IsBare) ∧
      FieldMap.Lossless field.inner := by
  constructor
  · intro lossless
    cases lossless with
    | of default choices inside => exact ⟨default, choices, inside⟩
  · rintro ⟨default, choices, inside⟩
    exact .of default choices inside

theorem rereadAll_eq_self_iff (fields : FieldMap) :
    rereadAll fields = fields ↔
      ∀ name field, (name, field) ∈ fields → field.reread = field := by
  rw [rereadAll_eq_map, map_eq_self_iff]
  constructor
  · intro each name field member
    exact congrArg Prod.snd (each (name, field) member)
  · rintro each ⟨name, field⟩ member
    exact congrArg (Prod.mk name) (each name field member)

/-- A field is read as it was exactly when nothing in it is lost. -/
theorem reread_eq_self_iff (field : Field) : field.reread = field ↔ field.Lossless := by
  induction field using Field.induction with
  | of traits properties induction =>
      have inside : properties.map rereadAll = properties ↔
          FieldMap.Lossless (properties.getD []) := by
        cases properties with
        | none => simp [FieldMap.Lossless]
        | some fields =>
            rw [Option.map_some, Option.some.injEq, rereadAll_eq_self_iff, Option.getD_some]
            exact forall_congr' fun name => forall_congr' fun field =>
              forall_congr' fun member => induction name field member
      rw [reread_of, Field.of.injEq, FieldTraits.reread_eq_self_iff, inside, lossless_iff,
        and_assoc]
      rfl

end Field

theorem FieldMap.rereadAll_eq_self_iff (fields : FieldMap) :
    Field.rereadAll fields = fields ↔ fields.Lossless := by
  rw [Field.rereadAll_eq_self_iff]
  exact forall_congr' fun name => forall_congr' fun field =>
    forall_congr' fun _ => field.reread_eq_self_iff

namespace Field

theorem default_of_ofJson {definition : Json} {field : Field}
    (decoded : Field.ofJson definition = .ok field) :
    field.traits.default ≠ some .null := by
  obtain ⟨traits, properties⟩ := field
  cases given : FieldTraits.source? definition with
  | none => cases definition <;> simp_all [FieldTraits.source?, Field.ofJson]
  | some source =>
      rw [ofJson_eq given] at decoded
      have done := Record.finish_eq_ok decoded
      rw [FieldTraits.read_eq_done_iff] at done
      obtain ⟨_, _, _, _, default, _⟩ := done
      exact Record.ne_null_of_optional_any default

theorem exists_ofJson_of_mem {members : List (String × Json)} {fields : FieldMap}
    (decoded : mapOfMembers members = .ok fields) {name : String} {field : Field}
    (member : (name, field) ∈ fields) :
    ∃ definition, Field.ofJson definition = .ok field := by
  induction members generalizing fields with
  | nil =>
      cases decoded
      cases member
  | cons entry rest induction =>
      obtain ⟨key, value⟩ := entry
      rw [mapOfMembers] at decoded
      obtain ⟨first, decodedFirst, decoded⟩ := exists_ok_of_bind decoded
      obtain ⟨others, decodedOthers, decoded⟩ := exists_ok_of_bind decoded
      cases decoded
      rcases List.mem_cons.mp member with same | later
      · cases same
        exact ⟨value, decodedFirst⟩
      · exact induction decodedOthers later

/-- A decoded field is in order and has nothing that encoding loses. -/
theorem ordered_lossless_of_ofJson (field : Field) :
    ∀ definition, Field.ofJson definition = .ok field →
      field.Ordered ∧ field.Lossless := by
  induction field using Field.induction with
  | of traits properties induction =>
      intro definition decoded
      obtain ⟨choices, nested⟩ := parts_of_ofJson decoded
      have bare : ∀ listed, traits.choices = some listed →
          ∀ choice, choice ∈ listed → choice.IsBare := by
        intro listed given choice member
        have made := choices.symm.trans given
        rw [Option.map_eq_some_iff] at made
        obtain ⟨elements, _, rfl⟩ := made
        obtain ⟨element, _, rfl⟩ := List.mem_map.mp member
        trivial
      have shape : properties = none ∨ ∃ members fields,
          mapOfMembers members = .ok fields ∧ properties = some (Assoc.ofList fields) := by
        split at nested
        · rcases nestedOfJson_eq_ok_iff.mp nested with ⟨_, none⟩ | ⟨members, fields, _, rest⟩
          · exact .inl none
          · exact .inr ⟨members, fields, rest⟩
        · exact .inl nested
      have sorted : Assoc.Sorted (properties.getD []) := by
        rcases shape with rfl | ⟨_, _, _, rfl⟩
        · exact .nil
        · exact Assoc.ofList_sorted _
      have inside : ∀ name inside, (name, inside) ∈ properties.getD [] →
          inside.Ordered ∧ inside.Lossless := by
        intro name inside member
        rcases shape with rfl | ⟨members, fields, made, rfl⟩
        · cases member
        · obtain ⟨given, decodedInside⟩ := exists_ofJson_of_mem made (Assoc.mem_ofList member)
          exact induction name inside member given decodedInside
      constructor
      · exact (ordered_iff _).mpr ⟨sorted, fun name field member =>
          (inside name field member).1⟩
      · exact .of (default_of_ofJson decoded) bare fun name field member =>
          (inside name field member).2

end Field

/-- Decoded fields are in order and have nothing that encoding loses. -/
theorem FieldMap.ordered_lossless_of_ofJson {definition : Json} {fields : FieldMap}
    (decoded : FieldMap.ofJson definition = .ok fields) :
    fields.Ordered ∧ fields.Lossless := by
  cases definition with
  | obj members =>
      rw [FieldMap.ofJson] at decoded
      cases made : Field.mapOfMembers members with
      | error fault => simp [made, Except.map] at decoded
      | ok listed =>
          simp only [made, Except.map, Except.ok.injEq] at decoded
          subst decoded
          have each : ∀ name field, (name, field) ∈ Assoc.ofList listed →
              field.Ordered ∧ field.Lossless := by
            intro name field member
            obtain ⟨given, decodedField⟩ :=
              Field.exists_ofJson_of_mem made (Assoc.mem_ofList member)
            exact field.ordered_lossless_of_ofJson given decodedField
          exact ⟨⟨Assoc.ofList_sorted _, fun name field member => (each name field member).1⟩,
            fun name field member => (each name field member).2⟩
  | _ => cases decoded

end EventDelivery
