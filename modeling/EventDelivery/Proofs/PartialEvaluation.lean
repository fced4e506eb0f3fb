import EventDelivery.Proofs.MappingForms

/-!
# Resolving a part beforehand

A part of a mapping that is resolved over the event itself may be resolved before the
rest: with the literal of its value in its place, the mapping gives the same payload,
or the same fault.  Whatever the value is, nothing in it is taken for a directive.
-/

namespace EventDelivery

namespace Mapping

/-- What stands around a part of a mapping. -/
inductive Frame where
  /-- The items before and after an item of an array. -/
  | item (before after : List Json)
  /-- The key of a value, and the members before and after it. -/
  | member (before : List (String × Json)) (key : String) (after : List (String × Json))
  /-- The name of an option of a condition, and the options before and after it. -/
  | option (before : List (String × Json)) (name : String) (after : List (String × Json))
  /-- What follows the source of an array directive. -/
  | source (rest : List Json)

namespace Frame

/-- Puts a part into its frame. -/
def fill : Frame → Json → Json
  | .item before after, part => .arr (before ++ part :: after)
  | .member before key after, part => .obj (before ++ (key, part) :: after)
  | .option before name after, part => .obj [("@if", .obj (before ++ (name, part) :: after))]
  | .source rest, part => .obj [("@arrayPath", .arr (part :: rest))]

/-- The part is resolved as a mapping, over the same data as the mapping around it.  The
members are those of no directive, and a source is not the text of a path. -/
def Resolves : Frame → Json → Prop
  | .item _ _, _ | .option _ _ _, _ => True
  | .member before key after, part => Unreserved (before ++ (key, part) :: after)
  | .source _, part => ∀ text, part ≠ .str text

end Frame

/-- The frames around a part, from outside in. -/
abbrev Place := List Frame

namespace Place

/-- Puts a part into its place. -/
def fill : Place → Json → Json
  | [], part => part
  | frame :: inner, part => frame.fill (fill inner part)

/-- The part is resolved as a mapping, over the same data as the whole mapping. -/
def Resolves : Place → Json → Prop
  | [], _ => True
  | frame :: inner, part => frame.Resolves (fill inner part) ∧ Resolves inner part

end Place

section Congruence

variable {data : Json}

theorem collect_eq_of_map_eq {f : Json → Except MappingFault (Option Json)}
    {items others : List Json} (same : items.map f = others.map f) :
    collect f items = collect f others := by
  induction items generalizing others with
  | nil =>
      obtain rfl := List.map_eq_nil_iff.mp same.symm
      rfl
  | cons item rest induction =>
      obtain ⟨other, otherRest, rfl, here, later⟩ := List.map_eq_cons_iff.mp same.symm
      simp only [collect, here, induction later.symm]

/-- What every member resolves to, by its key. -/
private def outcomes (data : Json) (members : List (String × Json)) :
    List (String × Except MappingFault (Option Json)) :=
  members.map fun member => (member.1, resolve data member.2)

private theorem outcomes_fill (before after : List (String × Json)) (key : String)
    {part other : Json} (same : resolve data part = resolve data other) :
    outcomes data (before ++ (key, part) :: after) =
      outcomes data (before ++ (key, other) :: after) := by
  simp [outcomes, same]

theorem resolveMembers_eq_of_outcomes_eq {members others : List (String × Json)}
    (same : outcomes data members = outcomes data others) :
    resolveMembers data members = resolveMembers data others := by
  induction members generalizing others with
  | nil =>
      obtain rfl := List.map_eq_nil_iff.mp same.symm
      rfl
  | cons member rest induction =>
      obtain ⟨other, otherRest, rfl, here, later⟩ := List.map_eq_cons_iff.mp same.symm
      obtain ⟨sameKey, sameOutcome⟩ := Prod.mk.inj here
      simp only [resolveMembers, sameKey, sameOutcome, induction later.symm]

private theorem get?_outcomes (name : String) (options : List (String × Json)) :
    Assoc.get? name (outcomes data options) =
      (Assoc.get? name options).map (resolve data) :=
  Assoc.get?_map name (fun _ => resolve data) options

private theorem resolveOption_eq_outcome (name : String) (options : List (String × Json)) :
    resolveOption data name options =
      match Assoc.get? name (outcomes data options) with
      | some outcome => outcome.map some
      | none => .ok none := by
  rw [resolveOption_eq, get?_outcomes]
  cases Assoc.get? name options <;> rfl

theorem resolveTest_eq_outcome (options : List (String × Json)) :
    resolveTest data options =
      match Assoc.get? "exists" (outcomes data options) with
      | some outcome => outcome.map isPresent
      | none =>
          match Assoc.get? "blank" (outcomes data options) with
          | some outcome => outcome.map isBlank
          | none => .error .untested := by
  rw [resolveTest, get?_outcomes, get?_outcomes]
  cases Assoc.get? "exists" options with
  | some test => rfl
  | none => cases Assoc.get? "blank" options <;> rfl

theorem unreserved_fill {before after : List (String × Json)} {key : String}
    {part : Json} (unreserved : Unreserved (before ++ (key, part) :: after))
    (other : Json) : Unreserved (before ++ (key, other) :: after) := by
  intro name value member
  simp only [List.mem_append, List.mem_cons, Prod.mk.injEq] at member
  rcases member with earlier | ⟨rfl, _⟩ | later
  · exact unreserved name value (by simp [earlier])
  · exact unreserved name part (by simp)
  · exact unreserved name value (by simp [later])

theorem Frame.resolve_fill_congr (frame : Frame) {part other : Json}
    (resolves : frame.Resolves part) (otherResolves : frame.Resolves other)
    (same : resolve data part = resolve data other) :
    resolve data (frame.fill part) = resolve data (frame.fill other) := by
  cases frame with
  | item before after =>
      have collected : collect (resolve data) (before ++ part :: after) =
          collect (resolve data) (before ++ other :: after) :=
        collect_eq_of_map_eq (by simp [same])
      simp only [fill, resolve_items, collected]
  | member before key after =>
      have members := resolveMembers_eq_of_outcomes_eq (outcomes_fill before after key same)
      simp only [fill, resolve_members data resolves, resolve_members data otherResolves,
        members]
  | option before name after =>
      simp only [fill, resolve_condition, resolveTest_eq_outcome, resolveOption_eq_outcome,
        outcomes_fill before after name same]
  | source rest =>
      simp only [fill, resolve_arrayPath, resolveSource_of data resolves,
        resolveSource_of data otherResolves, same]

theorem Frame.Resolves.replace {frame : Frame} {part other : Json}
    (resolves : frame.Resolves part) (noText : ∀ text, other ≠ .str text) :
    frame.Resolves other := by
  cases frame with
  | item before after => trivial
  | member before key after => exact unreserved_fill resolves other
  | option before name after => trivial
  | source rest => exact noText

private theorem Place.fill_ne_str {place : Place} {part : Json}
    (noText : ∀ text, part ≠ .str text) : ∀ text, place.fill part ≠ .str text := by
  cases place with
  | nil => exact noText
  | cons frame inner => cases frame <;> simp [fill, Frame.fill]

theorem Place.Resolves.replace {place : Place} {part other : Json}
    (resolves : place.Resolves part) (noText : ∀ text, other ≠ .str text) :
    place.Resolves other := by
  induction place with
  | nil => trivial
  | cons frame inner induction =>
      obtain ⟨here, deeper⟩ := resolves
      exact ⟨here.replace (fill_ne_str noText), induction deeper⟩

theorem Place.resolve_fill_congr (place : Place) {part other : Json}
    (resolves : place.Resolves part) (otherResolves : place.Resolves other)
    (same : resolve data part = resolve data other) :
    resolve data (place.fill part) = resolve data (place.fill other) := by
  induction place with
  | nil => exact same
  | cons frame inner induction =>
      obtain ⟨here, deeper⟩ := resolves
      obtain ⟨otherHere, otherDeeper⟩ := otherResolves
      exact frame.resolve_fill_congr here otherHere (induction deeper otherDeeper)

end Congruence

def literal (value : Json) : Json := .obj [("@literal", value)]

/-- No object at any depth has a key that is set aside for directives. -/
inductive Undirected : Json → Prop where
  | scalar {value : Json} :
      (∀ items, value ≠ .arr items) → (∀ members, value ≠ .obj members) → Undirected value
  | items {items : List Json} :
      (∀ item, item ∈ items → Undirected item) → Undirected (.arr items)
  | members {members : List (String × Json)} :
      Unreserved members → (∀ key value, (key, value) ∈ members → Undirected value) →
      Undirected (.obj members)

section Undirected

variable {data : Json}

theorem collect_eq_self {f : Json → Except MappingFault (Option Json)} {items : List Json}
    (each : ∀ item, item ∈ items → f item = .ok (some item)) : collect f items = .ok items := by
  induction items with
  | nil => rfl
  | cons item rest induction =>
      have here := each item List.mem_cons_self
      have later := induction fun other member => each other (List.mem_cons_of_mem _ member)
      simp [collect, here, later, bind, Except.bind]

theorem resolveMembers_eq_self {members : List (String × Json)}
    (each : ∀ key value, (key, value) ∈ members → resolve data value = .ok (some value)) :
    resolveMembers data members = .ok members := by
  induction members with
  | nil => rfl
  | cons member rest induction =>
      obtain ⟨key, value⟩ := member
      have here := each key value List.mem_cons_self
      have later := induction fun other value member =>
        each other value (List.mem_cons_of_mem _ member)
      simp [resolveMembers, here, later, bind, Except.bind, consMember]

theorem Undirected.resolve_eq {mapping : Json} (undirected : Undirected mapping) :
    resolve data mapping = .ok (some mapping) := by
  induction undirected with
  | scalar noItems noMembers => exact resolve_scalar data noItems noMembers
  | items _ each =>
      rw [resolve_items, collect_eq_self each]
      rfl
  | members unreserved _ each =>
      rw [resolve_members data unreserved, resolveMembers_eq_self each]
      rfl

end Undirected

/-- The literal of the value that a part resolves to may take the place of the part,
whatever the value is; and a mapping without directives gives itself over every
event. -/
theorem transform_resolved_part :
    (∀ (place : Place) (part value event : Json), place.Resolves part →
      resolve (eventData event) part = .ok (some value) →
      transform (place.fill (literal value)) event = transform (place.fill part) event) ∧
    ∀ mapping event, Undirected mapping → transform mapping event = .ok mapping := by
  constructor
  · intro place part value event resolves resolved
    have same : resolve (eventData event) (literal value) = resolve (eventData event) part := by
      rw [literal, resolve_literal, resolved]
    have literalResolves : place.Resolves (literal value) :=
      resolves.replace (by simp [literal])
    rw [transform, transform, place.resolve_fill_congr literalResolves resolves same]
  · intro mapping event undirected
    rw [transform, undirected.resolve_eq]
    rfl

/-- The note of an event, in an array that is given where there is a name. -/
def notePlace : Place :=
  [.member [] "notes" [("source", .str "web")],
    .option [("exists", .obj [("@path", .str "$.name")])] "then" [],
    .item [.str "first"] []]

/-- An event with a note that reads like a directive, and a secret. -/
def noteEvent : Json :=
  .obj [("name", .str "Ada"), ("note", .obj [("@path", .str "$.secret")]),
    ("secret", .str "1234")]

theorem note_is_never_read :
    notePlace.Resolves (.obj [("@path", .str "$.note")]) ∧
      resolve (eventData noteEvent) (.obj [("@path", .str "$.note")]) =
        .ok (some (.obj [("@path", .str "$.secret")])) ∧
      transform (notePlace.fill (literal (.obj [("@path", .str "$.secret")]))) noteEvent =
        .ok (.obj [("notes", .arr [.str "first", .obj [("@path", .str "$.secret")]]),
          ("source", .str "web")]) ∧
      Undirected (.arr [.str "web"]) ∧
      transform (.arr [.str "web"]) noteEvent = .ok (.arr [.str "web"]) := by
  obtain ⟨replaced, kept⟩ := transform_resolved_part
  have resolves : notePlace.Resolves (.obj [("@path", .str "$.note")]) := by
    refine ⟨any_isReserved.mp (by decide), trivial, trivial, trivial⟩
  have resolved : resolve (eventData noteEvent) (.obj [("@path", .str "$.note")]) =
      .ok (some (.obj [("@path", .str "$.secret")])) := rfl
  have undirected : Undirected (.arr [.str "web"]) := by
    refine .items fun item member => ?_
    obtain rfl := List.mem_singleton.mp member
    exact .scalar (by simp) (by simp)
  refine ⟨resolves, resolved, ?_, undirected, kept _ noteEvent undirected⟩
  rw [replaced notePlace _ _ noteEvent resolves resolved]
  rfl

end Mapping

end EventDelivery
