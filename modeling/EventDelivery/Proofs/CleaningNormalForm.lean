import EventDelivery.Schema.Clean
import Mathlib.Logic.Relation

/-!
# Cleaning computes a normal form

Removing one empty entry that the schema does not accept is a step.  Cleaning takes
steps only, steps make no difference to it, and every step makes the payload smaller;
so nothing is left to be removed, and cleaning again changes nothing.
-/

namespace EventDelivery

namespace Json

private theorem size_positive (value : Json) : 0 < value.size := by
  cases value <;> simp only [Json.size] <;> omega

theorem sizeMembers_append (first second : List (String × Json)) :
    sizeMembers (first ++ second) =
      sizeMembers first + sizeMembers second := by
  induction first with
  | nil => simp [sizeMembers]
  | cons member rest induction =>
      obtain ⟨key, value⟩ := member
      simp only [List.cons_append, sizeMembers, induction]
      omega

private theorem sizeItems_append (first second : List Json) :
    sizeItems (first ++ second) = sizeItems first + sizeItems second := by
  induction first with
  | nil => simp [sizeItems]
  | cons item rest induction =>
      simp only [List.cons_append, sizeItems, induction]
      omega

end Json

namespace Clean

/-- The type of a schema is null, or it is a list with null in it. -/
def ListsNull (schema : Json) : Prop :=
  schema.get? "type" = some (.str "null") ∨
    ∃ names, schema.get? "type" = some (.arr names) ∧ .str "null" ∈ names

/-- The schema of a key, when there is a schema for its object that has one. -/
def propertyOf? (schema : Option Json) (key : String) : Option Json :=
  schema.bind fun schema => property? schema key

/-- An entry that may be removed: it is null or the empty text, and no schema of its key
lists null. -/
def Removable (schema : Option Json) (key : String) (value : Json) : Prop :=
  (value = .null ∨ value = .str "") ∧
    ∀ property, propertyOf? schema key = some property → ¬ ListsNull property

/-- The walk by a schema over a payload comes to an object, with `inner` as its schema;
with other members in the place of those of the object, the payload has changed.  The
walk goes on into objects under a key that has a schema, and into the items of arrays
under a key whose schema has one for items. -/
inductive Exchanges : (schema : Option Json) → (payload changed : Json) →
    (inner : Option Json) → (members others : List (String × Json)) → Prop where
  | here {schema : Option Json} {members others : List (String × Json)} :
      Exchanges schema (.obj members) (.obj others) schema members others
  | property {schema inner : Option Json} {property held changed : Json} {key : String}
      {before after members others : List (String × Json)} :
      propertyOf? schema key = some property →
      Exchanges (some property) held changed inner members others →
      Exchanges schema (.obj (before ++ (key, held) :: after))
        (.obj (before ++ (key, changed) :: after)) inner members others
  | item {schema inner : Option Json} {property itemSchema held changed : Json}
      {key : String} {front back : List Json}
      {before after members others : List (String × Json)} :
      propertyOf? schema key = some property →
      property.get? "items" = some itemSchema →
      Exchanges (some itemSchema) held changed inner members others →
      Exchanges schema (.obj (before ++ (key, .arr (front ++ held :: back)) :: after))
        (.obj (before ++ (key, .arr (front ++ changed :: back)) :: after))
        inner members others

/-- The walk by a schema over a payload comes to an object with these members. -/
def Reaches (schema : Option Json) (payload : Json) (inner : Option Json)
    (members : List (String × Json)) : Prop :=
  Exchanges schema payload payload inner members members

/-- One removable entry of an object that the walk comes to is deleted. -/
inductive Deletes (schema : Option Json) (payload changed : Json) : Prop where
  | entry {inner : Option Json} {before after : List (String × Json)} {key : String}
      {value : Json} :
      Removable inner key value →
      Exchanges schema payload changed inner (before ++ (key, value) :: after)
        (before ++ after) →
      Deletes schema payload changed

theorem isEmpty_iff {value : Json} :
    isEmpty value = true ↔ value = .null ∨ value = .str "" := by
  cases value <;> simp [isEmpty]

private theorem listsNull_iff {schema : Json} :
    ListsNull schema ↔ acceptsNull (some schema) = true := by
  simp only [acceptsNull, Option.bind_some, ListsNull]
  rcases schema.get? "type" with - | type
  · simp
  · cases type <;> simp

theorem removable_iff {schema : Option Json} {key : String} {value : Json} :
    Removable schema key value ↔
      (isEmpty value && !acceptsNull (propertyOf? schema key)) = true := by
  have refuses : (∀ property, propertyOf? schema key = some property → ¬ ListsNull property) ↔
      acceptsNull (propertyOf? schema key) = false := by
    cases propertyOf? schema key with
    | none => simp [acceptsNull]
    | some property => simp [listsNull_iff]
  rw [Removable, refuses, ← isEmpty_iff, Bool.and_eq_true, Bool.not_eq_true']

instance (schema : Option Json) (key : String) (value : Json) :
    Decidable (Removable schema key value) :=
  decidable_of_iff _ removable_iff.symm

/-- What is left of the members of an object; without a schema, only empty entries go. -/
def stripMembers (schema : Option Json) (members : List (String × Json)) :
    List (String × Json) :=
  match schema with
  | some schema => cleanMembers schema members
  | none => members.filter fun member => !isEmpty member.2

section StripMembers

variable {schema : Option Json}

theorem removeEmptyValues_obj (schema : Option Json) (members : List (String × Json)) :
    removeEmptyValues (.obj members) schema true = .obj (stripMembers schema members) := by
  cases schema with
  | none => rfl
  | some schema => simp [removeEmptyValues, cleanObject, stripMembers]

private theorem cleanProperty_none (value : Json) : cleanProperty none value = value := by
  cases value <;> simp [cleanProperty]

theorem cleanItems_eq_map (schema : Json) (items : List Json) :
    cleanItems schema items = items.map (cleanObject schema) := by
  induction items with
  | nil => simp [cleanItems]
  | cons item rest induction => rw [cleanItems, induction, List.map_cons]

theorem stripMembers_cons (schema : Option Json) (key : String) (value : Json)
    (rest : List (String × Json)) :
    stripMembers schema ((key, value) :: rest) =
      if Removable schema key value then stripMembers schema rest
      else (key, cleanProperty (propertyOf? schema key) value) ::
        stripMembers schema rest := by
  simp only [removable_iff]
  cases schema with
  | some schema => simp [stripMembers, cleanMembers, propertyOf?]
  | none =>
      cases empty : isEmpty value <;>
        simp [stripMembers, propertyOf?, empty, acceptsNull, cleanProperty_none]

private theorem stripMembers_nil (schema : Option Json) : stripMembers schema [] = [] := by
  cases schema <;> simp [stripMembers, cleanMembers]

theorem stripMembers_append (schema : Option Json) (first second : List (String × Json)) :
    stripMembers schema (first ++ second) =
      stripMembers schema first ++ stripMembers schema second := by
  induction first with
  | nil => simp [stripMembers_nil]
  | cons member rest induction =>
      obtain ⟨key, value⟩ := member
      rw [List.cons_append, stripMembers_cons, stripMembers_cons, induction]
      split <;> simp

private theorem stripMembers_removable {key : String} {value : Json}
    (removable : Removable schema key value) (before after : List (String × Json)) :
    stripMembers schema (before ++ (key, value) :: after) =
      stripMembers schema (before ++ after) := by
  simp only [stripMembers_append, stripMembers_cons, if_pos removable]

theorem stripMembers_congr {key : String} {held changed : Json}
    (filled : isEmpty held = false) (changedFilled : isEmpty changed = false)
    (same : cleanProperty (propertyOf? schema key) held =
      cleanProperty (propertyOf? schema key) changed)
    (before after : List (String × Json)) :
    stripMembers schema (before ++ (key, held) :: after) =
      stripMembers schema (before ++ (key, changed) :: after) := by
  simp only [stripMembers_append, stripMembers_cons, removable_iff, filled, changedFilled,
    Bool.false_and, Bool.false_eq_true, if_false, same]

end StripMembers

section Steps

variable {schema inner : Option Json} {payload changed : Json}
  {members others : List (String × Json)}

theorem Exchanges.objects (exchanges : Exchanges schema payload changed inner members others) :
    (∃ entries, payload = .obj entries) ∧ ∃ entries, changed = .obj entries := by
  cases exchanges <;> exact ⟨⟨_, rfl⟩, _, rfl⟩

private theorem cleanProperty_of_object {property value : Json}
    (object : ∃ entries, value = .obj entries) :
    cleanProperty (some property) value = removeEmptyValues value (some property) true := by
  obtain ⟨entries, rfl⟩ := object
  simp [cleanProperty, removeEmptyValues, cleanObject]

private theorem cleanProperty_items {property itemSchema : Json}
    (given : property.get? "items" = some itemSchema) (items : List Json) :
    cleanProperty (some property) (.arr items) = .arr (items.map (cleanObject itemSchema)) := by
  simp [cleanProperty, given, cleanItems_eq_map]

/-- Members of which the same is left may be exchanged. -/
theorem Exchanges.removeEmptyValues_eq
    (exchanges : Exchanges schema payload changed inner members others)
    (same : stripMembers inner members = stripMembers inner others) :
    removeEmptyValues payload schema true = removeEmptyValues changed schema true := by
  induction exchanges with
  | here => simp only [removeEmptyValues_obj, same]
  | @property schema inner property held changed key before after _ _ found deeper
      induction =>
      obtain ⟨object, changedObject⟩ := deeper.objects
      have cleaned : cleanProperty (propertyOf? schema key) held =
          cleanProperty (propertyOf? schema key) changed := by
        rw [found, cleanProperty_of_object object, cleanProperty_of_object changedObject,
          induction same]
      obtain ⟨_, rfl⟩ := object
      obtain ⟨_, rfl⟩ := changedObject
      rw [removeEmptyValues_obj, removeEmptyValues_obj,
        stripMembers_congr rfl rfl cleaned before after]
  | @item schema inner property itemSchema held changed key front back before after _ _
      found given _ induction =>
      have cleaned : cleanProperty (propertyOf? schema key) (.arr (front ++ held :: back)) =
          cleanProperty (propertyOf? schema key) (.arr (front ++ changed :: back)) := by
        have entry : cleanObject itemSchema held = cleanObject itemSchema changed :=
          induction same
        simp only [found, cleanProperty_items given, List.map_append, List.map_cons, entry]
      rw [removeEmptyValues_obj, removeEmptyValues_obj,
        stripMembers_congr rfl rfl cleaned before after]

/-- A step makes no difference to what is left in the end. -/
theorem Deletes.removeEmptyValues_eq (deletes : Deletes schema payload changed) :
    removeEmptyValues payload schema true = removeEmptyValues changed schema true := by
  obtain ⟨removable, exchanges⟩ := deletes
  exact exchanges.removeEmptyValues_eq (stripMembers_removable removable _ _)

theorem Exchanges.size_lt
    (exchanges : Exchanges schema payload changed inner members others)
    (smaller : Json.sizeMembers others < Json.sizeMembers members) :
    changed.size < payload.size := by
  induction exchanges with
  | here =>
      simp only [Json.size]
      omega
  | property _ _ induction =>
      have below := induction smaller
      simp only [Json.size, Json.sizeMembers_append, Json.sizeMembers]
      omega
  | item _ _ _ induction =>
      have below := induction smaller
      simp only [Json.size, Json.sizeMembers_append, Json.sizeMembers, Json.sizeItems_append,
        Json.sizeItems]
      omega

/-- Every step makes the payload smaller. -/
theorem Deletes.size_lt (deletes : Deletes schema payload changed) :
    changed.size < payload.size := by
  obtain @⟨_, before, after, key, value, removable, exchanges⟩ := deletes
  apply exchanges.size_lt
  have positive := value.size_positive
  simp only [Json.sizeMembers_append, Json.sizeMembers]
  omega

end Steps

section Reduction

variable {schema : Option Json} {key : String} {property : Json}

theorem Deletes.inProperty (found : propertyOf? schema key = some property)
    (before after : List (String × Json)) {held changed : Json}
    (deletes : Deletes (some property) held changed) :
    Deletes schema (.obj (before ++ (key, held) :: after))
      (.obj (before ++ (key, changed) :: after)) := by
  obtain ⟨removable, exchanges⟩ := deletes
  exact .entry removable (.property found exchanges)

theorem Deletes.inItem (found : propertyOf? schema key = some property) {itemSchema : Json}
    (given : property.get? "items" = some itemSchema) (before after : List (String × Json))
    (front back : List Json) {held changed : Json}
    (deletes : Deletes (some itemSchema) held changed) :
    Deletes schema (.obj (before ++ (key, .arr (front ++ held :: back)) :: after))
      (.obj (before ++ (key, .arr (front ++ changed :: back)) :: after)) := by
  obtain ⟨removable, exchanges⟩ := deletes
  exact .entry removable (.item found given exchanges)

/-- Steps that lead from one payload to another one. -/
abbrev Reduces (schema : Option Json) : Json → Json → Prop :=
  Relation.ReflTransGen (Deletes schema)

mutual

theorem reduces_cleanObject (schema : Json) :
    ∀ value : Json, Reduces (some schema) value (cleanObject schema value)
  | .obj members => by
      rw [cleanObject]
      exact reduces_stripMembers (some schema) [] members
  | .null | .bool _ | .num _ | .str _ | .arr _ => by
      rw [cleanObject]
      simp
termination_by structural value => value

theorem reduces_cleanProperty (schema : Option Json) (key : String)
    (before after : List (String × Json)) :
    ∀ value : Json, Reduces schema (.obj (before ++ (key, value) :: after))
      (.obj (before ++ (key, cleanProperty (propertyOf? schema key) value) :: after))
  | .obj members => by
      cases found : propertyOf? schema key with
      | none => rw [cleanProperty_none]
      | some property =>
          rw [cleanProperty]
          exact (reduces_stripMembers (some property) [] members).lift
            (fun held => Json.obj (before ++ (key, held) :: after))
            (fun _ _ deletes => deletes.inProperty found before after)
  | .arr items => by
      cases found : propertyOf? schema key with
      | none => rw [cleanProperty_none]
      | some property =>
          cases given : property.get? "items" with
          | none => simp only [cleanProperty, Option.bind_some, given, Relation.ReflTransGen.refl]
          | some itemSchema =>
              simp only [cleanProperty, Option.bind_some, given]
              exact reduces_cleanItems found given before after [] items
  | .null | .bool _ | .num _ | .str _ => by
      rw [cleanProperty] <;> simp
termination_by structural value => value

-- the members before those that are left have been gone through already
theorem reduces_stripMembers (schema : Option Json) (before : List (String × Json)) :
    ∀ members : List (String × Json),
      Reduces schema (.obj (before ++ members)) (.obj (before ++ stripMembers schema members))
  | [] => by rw [stripMembers_nil]
  | (key, value) :: rest => by
      rw [stripMembers_cons]
      split
      · rename_i removable
        exact .head (.entry removable .here) (reduces_stripMembers schema before rest)
      · have here := reduces_cleanProperty schema key before rest value
        have later := reduces_stripMembers schema
          (before ++ [(key, cleanProperty (propertyOf? schema key) value)]) rest
        simp only [List.append_assoc, List.singleton_append] at later
        exact here.trans later
termination_by structural members => members

theorem reduces_cleanItems {schema : Option Json} {key : String} {property itemSchema : Json}
    (found : propertyOf? schema key = some property)
    (given : property.get? "items" = some itemSchema) (before after : List (String × Json))
    (front : List Json) :
    ∀ items : List Json,
      Reduces schema (.obj (before ++ (key, .arr (front ++ items)) :: after))
        (.obj (before ++ (key, .arr (front ++ cleanItems itemSchema items)) :: after))
  | [] => by rw [cleanItems]
  | item :: rest => by
      have here := (reduces_cleanObject itemSchema item).lift
        (fun held => Json.obj (before ++ (key, .arr (front ++ held :: rest)) :: after))
        (fun _ _ deletes => deletes.inItem found given before after front rest)
      have later := reduces_cleanItems found given before after
        (front ++ [cleanObject itemSchema item]) rest
      simp only [List.append_assoc, List.singleton_append] at later
      rw [cleanItems]
      exact here.trans later
termination_by structural items => items

end

/-- Steps make no difference to what is left in the end. -/
theorem Reduces.removeEmptyValues_eq {payload changed : Json}
    (reduces : Reduces schema payload changed) :
    removeEmptyValues payload schema true = removeEmptyValues changed schema true := by
  induction reduces with
  | refl => rfl
  | tail _ deletes induction => exact induction.trans deletes.removeEmptyValues_eq

theorem Reduces.size_le {payload changed : Json} (reduces : Reduces schema payload changed) :
    changed.size ≤ payload.size := by
  induction reduces with
  | refl => exact Nat.le_refl _
  | tail _ deletes induction => exact Nat.le_trans (Nat.le_of_lt deletes.size_lt) induction

private theorem reduces_removeEmptyValues (schema : Option Json) (payload : Json) :
    Reduces schema payload (removeEmptyValues payload schema true) := by
  cases payload with
  | obj members =>
      rw [removeEmptyValues_obj]
      exact reduces_stripMembers schema [] members
  | _ => cases schema <;> exact .refl

theorem removeEmptyValues_idempotent (schema : Option Json) (payload : Json) :
    removeEmptyValues (removeEmptyValues payload schema true) schema true =
      removeEmptyValues payload schema true :=
  (reduces_removeEmptyValues schema payload).removeEmptyValues_eq.symm

/-- Members of an object that the walk comes to may be exchanged for any others. -/
theorem Exchanges.exists_other {payload changed : Json} {inner : Option Json}
    {members others : List (String × Json)}
    (exchanges : Exchanges schema payload changed inner members others)
    (revised : List (String × Json)) :
    ∃ result, Exchanges schema payload result inner members revised := by
  induction exchanges with
  | here => exact ⟨_, .here⟩
  | property found _ induction =>
      obtain ⟨result, deeper⟩ := induction
      exact ⟨_, .property found deeper⟩
  | item found given _ induction =>
      obtain ⟨result, deeper⟩ := induction
      exact ⟨_, .item found given deeper⟩

/-- What is left could only be reduced to something smaller, which would have to be
reduced to it again. -/
theorem not_deletes_removeEmptyValues (payload changed : Json) :
    ¬ Deletes schema (removeEmptyValues payload schema true) changed := by
  intro deletes
  have back := reduces_removeEmptyValues schema changed
  rw [← deletes.removeEmptyValues_eq, removeEmptyValues_idempotent] at back
  exact absurd back.size_le (Nat.not_le_of_lt deletes.size_lt)

theorem exchanges_none_iff {payload changed : Json} {inner : Option Json}
    {members others : List (String × Json)} :
    Exchanges none payload changed inner members others ↔
      payload = .obj members ∧ changed = .obj others ∧ inner = none := by
  constructor
  · intro exchanges
    cases exchanges with
    | here => exact ⟨rfl, rfl, rfl⟩
    | property found => cases found
    | item found => cases found
  · rintro ⟨rfl, rfl, rfl⟩
    exact .here

end Reduction

/-- What a way of stripping payloads has to do with the deletion of removable entries. -/
structure NormalForm (schema : Option Json) (strip : Json → Json) : Prop where
  /-- Entries that may be removed are deleted, one by one, and nothing else changes. -/
  reduces : ∀ payload, Reduces schema payload (strip payload)
  /-- No object that is reached has an entry left that may be removed. -/
  irreducible : ∀ payload inner members, Reaches schema (strip payload) inner members →
    ∀ key value, (key, value) ∈ members → ¬ Removable inner key value
  idempotent : ∀ payload, strip (strip payload) = strip payload
  /-- An entry that may be removed makes no difference, wherever it is put into an object
  that is reached. -/
  absorbs : ∀ payload other inner before after key value, Removable inner key value →
    Exchanges schema payload other inner (before ++ after)
      (before ++ (key, value) :: after) →
    strip other = strip payload

theorem normalForm_removeEmptyValues (schema : Option Json) :
    NormalForm schema fun payload => removeEmptyValues payload schema true where
  reduces := reduces_removeEmptyValues schema
  irreducible := by
    intro payload inner members reaches key value member removable
    obtain ⟨before, after, rfl⟩ := List.append_of_mem member
    obtain ⟨changed, exchanges⟩ := reaches.exists_other (before ++ after)
    exact not_deletes_removeEmptyValues payload changed (.entry removable exchanges)
  idempotent := removeEmptyValues_idempotent schema
  absorbs := by
    intro payload other inner before after key value removable exchanges
    exact (exchanges.removeEmptyValues_eq
      (stripMembers_removable removable before after).symm).symm

/-- Removing empty values computes a normal form: by a schema, whatever value it is, and
without one where that is asked for.  Without a schema the root is the only object that
is reached, and every empty entry of it may be removed.  Where nothing is asked for, the
payload stays as it is. -/
theorem removeEmptyValues_normalForm :
    (∀ (schema : Option Json) (fromRoot : Bool), (schema = none → fromRoot = true) →
      NormalForm schema fun payload => removeEmptyValues payload schema fromRoot) ∧
    (∀ payload inner members, Reaches none payload inner members ↔
      payload = .obj members ∧ inner = none) ∧
    (∀ key value, Removable none key value ↔ value = .null ∨ value = .str "") ∧
    ∀ payload, removeEmptyValues payload none false = payload := by
  refine ⟨?_, ?_, ?_, fun payload => rfl⟩
  · intro schema fromRoot asked
    cases schema with
    | some schema => exact normalForm_removeEmptyValues (some schema)
    | none =>
        rw [asked rfl]
        exact normalForm_removeEmptyValues none
  · intro payload inner members
    rw [Reaches, exchanges_none_iff]
    simp
  · intro key value
    simp [Removable, propertyOf?]

/-- A schema for phones, of which a note may be null. -/
def phonesSchema : Json :=
  .obj [("properties", .obj [("phones", .obj [("items", .obj [("properties",
    .obj [("note", .obj [("type", .arr [.str "string", .str "null"])])])])])])]

def phoneSchema : Json :=
  .obj [("properties", .obj [("note", .obj [("type", .arr [.str "string", .str "null"])])])]

/-- A payload with one phone, and an empty text beside it. -/
def phonesPayload (phone : List (String × Json)) : Json :=
  .obj [("phones", .arr [.obj phone, .str ""])]

theorem phonesPayload_absorbs_number :
    (some phonesSchema = none → false = true) ∧
      Removable (some phoneSchema) "number" (.str "") ∧
      Exchanges (some phonesSchema) (phonesPayload [("note", .null)])
        (phonesPayload [("note", .null), ("number", .str "")]) (some phoneSchema)
        [("note", .null)] [("note", .null), ("number", .str "")] ∧
      removeEmptyValues (phonesPayload [("note", .null), ("number", .str "")])
        (some phonesSchema) false = phonesPayload [("note", .null)] := by
  have asked : some phonesSchema = none → false = true := by simp
  have removable : Removable (some phoneSchema) "number" (.str "") := by decide
  have exchanges : Exchanges (some phonesSchema) (phonesPayload [("note", .null)])
      (phonesPayload [("note", .null), ("number", .str "")]) (some phoneSchema)
      [("note", .null)] [("note", .null), ("number", .str "")] :=
    @Exchanges.item _ _ _ _ _ _ "phones" [] [.str ""] [] [] _ _ rfl rfl .here
  have normalForm := removeEmptyValues_normalForm.1 (some phonesSchema) false asked
  refine ⟨asked, removable, exchanges, ?_⟩
  have absorbed := normalForm.absorbs _ _ _ [("note", .null)] [] "number" (.str "") removable
    exchanges
  exact absorbed.trans (by decide)

end Clean

end EventDelivery
