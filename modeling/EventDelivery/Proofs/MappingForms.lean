import EventDelivery.Mapping.Resolve
import EventDelivery.Proofs.AssocLookup
import Mathlib.Tactic.SplitIfs

/-!
# The forms of mappings

Every mapping is a scalar, an array, an object of members or a directive, unless
its keys for directives are misused.  Each form has its equation for resolving;
the mappings that are resolved over the same data as a mapping are its parts, and
they are smaller than the mapping.
-/

namespace EventDelivery

def Directive.name : Directive → String
  | .path => "@path"
  | .template => "@template"
  | .literal => "@literal"
  | .condition => "@if"
  | .arrayPath => "@arrayPath"

namespace Directive

@[simp] theorem ofName?_name (directive : Directive) :
    ofName? directive.name = some directive := by
  cases directive <;> rfl

theorem ofName?_eq_some_iff {name : String} {directive : Directive} :
    ofName? name = some directive ↔ name = directive.name := by
  constructor
  · intro found
    unfold ofName? at found
    split_ifs at found <;> cases found <;> assumption
  · rintro rfl
    exact ofName?_name directive

@[simp] theorem isReserved_name (directive : Directive) :
    Mapping.isReserved directive.name = true := by
  cases directive <;> decide

end Directive

namespace Mapping

/-- No key is one of those set aside for directives. -/
def Unreserved (members : List (String × Json)) : Prop :=
  ∀ key value, (key, value) ∈ members → isReserved key = false

/-- The forms that a value has as a mapping. -/
inductive Form : Json → Prop where
  | scalar {value : Json} :
      (∀ items, value ≠ .arr items) → (∀ members, value ≠ .obj members) → Form value
  | items (items : List Json) : Form (.arr items)
  | members {members : List (String × Json)} : Unreserved members → Form (.obj members)
  | directive (directive : Directive) (argument : Json) :
      Form (.obj [(directive.name, argument)])
  /-- A key for directives that names none. -/
  | unknown {name : String} {argument : Json} :
      isReserved name = true → Directive.ofName? name = none →
      Form (.obj [(name, argument)])
  /-- A key for directives beside other keys. -/
  | crowded {members : List (String × Json)} :
      ¬ Unreserved members → members.length ≠ 1 → Form (.obj members)

theorem form (mapping : Json) : Form mapping := by
  cases mapping with
  | arr items => exact .items items
  | obj members =>
      by_cases unreserved : Unreserved members
      · exact .members unreserved
      · by_cases single : members.length = 1
        · obtain ⟨⟨name, argument⟩, rfl⟩ := List.length_eq_one_iff.mp single
          have reserved : isReserved name = true := by
            simpa [Unreserved] using unreserved
          cases known : Directive.ofName? name with
          | none => exact .unknown reserved known
          | some directive =>
              rw [Directive.ofName?_eq_some_iff.mp known]
              exact .directive directive argument
        · exact .crowded unreserved single
  | _ => exact .scalar (by simp) (by simp)

/-- The mappings in a mapping that are resolved over the same data.  Neither the
argument of a literal nor the mapping for the items of an array is one. -/
inductive Part : Json → Json → Prop where
  | item {items : List Json} {item : Json} : item ∈ items → Part item (.arr items)
  | member {members : List (String × Json)} {key : String} {value : Json} :
      Unreserved members → (key, value) ∈ members → Part value (.obj members)
  | option {options : List (String × Json)} {name : String} {value : Json} :
      (name, value) ∈ options → Part value (.obj [("@if", .obj options)])
  | source (source : Json) (rest : List Json) :
      Part source (.obj [("@arrayPath", .arr (source :: rest))])

/-- A directive stands with its argument somewhere in a mapping: in the mapping
itself or in one of its parts. -/
inductive Stands (directive : Directive) (argument : Json) : Json → Prop where
  | here : Stands directive argument (.obj [(directive.name, argument)])
  | inside {part mapping : Json} :
      Part part mapping → Stands directive argument part →
      Stands directive argument mapping

section Stands

variable {directive : Directive} {argument : Json}

theorem Stands.of_members {members : List (String × Json)} (unreserved : Unreserved members)
    (stands : Stands directive argument (.obj members)) :
    ∃ key value, (key, value) ∈ members ∧ Stands directive argument value := by
  have reserved : ∀ (other : Directive) content,
      Json.obj members ≠ .obj [(other.name, content)] := by
    rintro other content ⟨⟩
    have plain := unreserved other.name content List.mem_cons_self
    simp at plain
  generalize same : Json.obj members = mapping at stands
  cases stands with
  | here => exact absurd same (reserved directive argument)
  | inside isPart stands =>
      cases isPart with
      | item => cases same
      | member _ member =>
          cases same
          exact ⟨_, _, member, stands⟩
      | option => exact absurd same (reserved .condition _)
      | source => exact absurd same (reserved .arrayPath _)

/-- What stands in a directive is the directive itself, or stands in an option of a
condition or in the source of an array. -/
theorem Stands.of_directive (outer : Directive) {content : Json}
    (stands : Stands directive argument (.obj [(outer.name, content)])) :
    (directive = outer ∧ argument = content) ∨
      (∃ options name value, outer = .condition ∧ content = .obj options ∧
        (name, value) ∈ options ∧ Stands directive argument value) ∨
      ∃ source rest, outer = .arrayPath ∧ content = .arr (source :: rest) ∧
        Stands directive argument source := by
  have injective : ∀ {first second : Directive}, first.name = second.name →
      first = second := by
    intro first second same
    have found := Directive.ofName?_name first
    rw [same, Directive.ofName?_name] at found
    exact (Option.some.inj found).symm
  generalize same : Json.obj [(outer.name, content)] = mapping at stands
  cases stands with
  | here =>
      simp only [Json.obj.injEq, List.cons.injEq, Prod.mk.injEq, and_true] at same
      exact .inl ⟨(injective same.1).symm, same.2.symm⟩
  | inside isPart stands =>
      cases isPart with
      | item => cases same
      | member unreserved member =>
          cases same
          have plain := unreserved outer.name content List.mem_cons_self
          simp at plain
      | option member =>
          simp only [Json.obj.injEq, List.cons.injEq, Prod.mk.injEq, and_true] at same
          have condition : outer = .condition := injective same.1
          exact .inr (.inl ⟨_, _, _, condition, same.2, member, stands⟩)
      | source source rest =>
          simp only [Json.obj.injEq, List.cons.injEq, Prod.mk.injEq, and_true] at same
          have array : outer = .arrayPath := injective same.1
          exact .inr (.inr ⟨_, rest, array, same.2, stands⟩)

/-- Nothing stands in a directive that there is not. -/
theorem not_stands_unknown {name : String} {content : Json}
    (reserved : isReserved name = true) (unknown : Directive.ofName? name = none) :
    ¬ Stands directive argument (.obj [(name, content)]) := by
  have different : ∀ (other : Directive) inner,
      Json.obj [(name, content)] ≠ .obj [(other.name, inner)] := by
    rintro other inner ⟨⟩
    simp at unknown
  intro stands
  generalize same : Json.obj [(name, content)] = mapping at stands
  cases stands with
  | here => exact different directive argument same
  | inside isPart stands =>
      cases isPart with
      | item => cases same
      | member unreserved member =>
          cases same
          have plain := unreserved name content List.mem_cons_self
          simp [reserved] at plain
      | option => exact different .condition _ same
      | source => exact different .arrayPath _ same

end Stands

theorem size_le_sizeItems {items : List Json} {item : Json} (member : item ∈ items) :
    item.size ≤ Json.sizeItems items := by
  induction items with
  | nil => simp at member
  | cons first rest induction =>
      simp only [Json.sizeItems]
      rcases List.mem_cons.mp member with rfl | later
      · omega
      · have bound := induction later
        omega

theorem size_le_sizeMembers {members : List (String × Json)} {key : String}
    {value : Json} (member : (key, value) ∈ members) :
    value.size ≤ Json.sizeMembers members := by
  induction members with
  | nil => simp at member
  | cons first rest induction =>
      obtain ⟨name, other⟩ := first
      simp only [Json.sizeMembers]
      rcases List.mem_cons.mp member with same | later
      · cases same
        omega
      · have bound := induction later
        omega

theorem Part.size_lt {part mapping : Json} (isPart : Part part mapping) :
    part.size < mapping.size := by
  cases isPart with
  | item member =>
      have bound := size_le_sizeItems member
      simp only [Json.size]
      omega
  | member _ member =>
      have bound := size_le_sizeMembers member
      simp only [Json.size]
      omega
  | option member =>
      have bound := size_le_sizeMembers member
      simp only [Json.size, Json.sizeMembers]
      omega
  | source source rest =>
      simp only [Json.size, Json.sizeMembers, Json.sizeItems]
      omega

/-- Induction from the parts of a mapping to the mapping. -/
theorem induction {motive : Json → Prop}
    (of : ∀ mapping, (∀ part, Part part mapping → motive part) → motive mapping)
    (mapping : Json) : motive mapping := by
  -- on the size: a part of a directive stands two levels below it
  generalize measured : mapping.size = size
  induction size using Nat.strongRecOn generalizing mapping with
  | ind size smaller =>
      apply of
      intro part isPart
      exact smaller part.size (measured ▸ isPart.size_lt) part rfl

section Resolve

variable (data : Json)

theorem resolve_scalar {value : Json} (noItems : ∀ items, value ≠ .arr items)
    (noMembers : ∀ members, value ≠ .obj members) :
    resolve data value = .ok (some value) := by
  cases value with
  | arr items => exact absurd rfl (noItems items)
  | obj members => exact absurd rfl (noMembers members)
  | _ => rfl

theorem resolve_items (items : List Json) :
    resolve data (.arr items) =
      (collect (resolve data) items).map fun found => some (.arr found) := by
  have inTurn : resolveItems data items = collect (resolve data) items := by
    induction items with
    | nil => rfl
    | cons item rest induction => simp only [resolveItems, collect, induction]
  simp only [resolve, inTurn]
  cases collect (resolve data) items <;> rfl

theorem any_isReserved {members : List (String × Json)} :
    (members.any fun member => isReserved member.1) = false ↔ Unreserved members := by
  simp [Unreserved]

theorem resolve_members {members : List (String × Json)} (unreserved : Unreserved members) :
    resolve data (.obj members) =
      (resolveMembers data members).map fun found => some (.obj found) := by
  have none : ¬ (members.any fun member => isReserved member.1) = true := by
    simp [any_isReserved.mpr unreserved]
  unfold resolve
  rw [if_neg none]
  cases resolveMembers data members <;> rfl

theorem resolve_directive (directive : Directive) (argument : Json) :
    resolve data (.obj [(directive.name, argument)]) =
      resolveDirective data directive argument := by
  simp [resolve]

theorem resolve_path (text : String) :
    resolve data (.obj [("@path", .str text)]) = Path.get text data :=
  resolve_directive data .path (.str text)

theorem resolve_template (text : String) :
    resolve data (.obj [("@template", .str text)]) =
      .ok (some (.str (Template.render text data))) :=
  resolve_directive data .template (.str text)

theorem resolve_literal (value : Json) :
    resolve data (.obj [("@literal", value)]) = .ok (some value) := by
  have shown := resolve_directive data .literal value
  rw [resolveDirective] at shown
  exact shown

theorem resolve_unknown {name : String} {argument : Json}
    (reserved : isReserved name = true) (unknown : Directive.ofName? name = none) :
    resolve data (.obj [(name, argument)]) = .error (.unknownDirective name) := by
  simp [resolve, reserved, unknown]

theorem resolve_crowded {members : List (String × Json)} (reserved : ¬ Unreserved members)
    (many : members.length ≠ 1) :
    resolve data (.obj members) = .error .crowdedDirective := by
  have some : (members.any fun member => isReserved member.1) = true := by
    rw [← Bool.not_eq_false, any_isReserved]
    exact reserved
  unfold resolve
  rw [if_pos some]
  split
  · simp at many
  · rfl

theorem resolveOption_eq (name : String) (options : List (String × Json)) :
    resolveOption data name options =
      match Assoc.get? name options with
      | some mapping => (resolve data mapping).map some
      | none => .ok none := by
  induction options with
  | nil => rfl
  | cons option rest induction =>
      obtain ⟨key, value⟩ := option
      by_cases same : key = name
      · simp [resolveOption, Assoc.get?, same]
      · simpa [resolveOption, Assoc.get?, same] using induction

/-- Whether the condition of options holds. -/
def resolveTest (options : List (String × Json)) : Except MappingFault Bool :=
  match Assoc.get? "exists" options with
  | some test => (resolve data test).map isPresent
  | none =>
      match Assoc.get? "blank" options with
      | some test => (resolve data test).map isBlank
      | none => .error .untested

theorem resolve_condition (options : List (String × Json)) :
    resolve data (.obj [("@if", .obj options)]) =
      (resolveTest data options).bind fun holds =>
        (resolveOption data (if holds then "then" else "else") options).map Option.join := by
  calc
    resolve data (.obj [("@if", .obj options)]) =
        resolveDirective data .condition (.obj options) :=
      resolve_directive data .condition _
    _ = _ := by
      have chosen : ∀ name, (do
          let branch ← resolveOption data name options
          .ok branch.join) = (resolveOption data name options).map Option.join := by
        intro name
        cases resolveOption data name options <;> rfl
      simp only [resolveDirective, chosen, resolveTest, resolveOption_eq data "exists",
        resolveOption_eq data "blank"]
      cases Assoc.get? "exists" options with
      | some test =>
          dsimp only
          cases resolve data test <;> rfl
      | none =>
          cases Assoc.get? "blank" options with
          | some test =>
              dsimp only
              cases resolve data test <;> rfl
          | none => rfl

/-- What the source of an array directive gives: a text is a path. -/
def resolveSource (source : Json) : Except MappingFault (Option Json) :=
  match source.text? with
  | some path => Path.get path data
  | none => resolve data source

theorem resolveSource_of {source : Json} (noText : ∀ text, source ≠ .str text) :
    resolveSource data source = resolve data source := by
  cases source with
  | str text => exact absurd rfl (noText text)
  | _ => rfl

/-- What follows the source starts with the mapping for the items, if there is one. -/
theorem resolve_arrayPath (source : Json) (rest : List Json) :
    resolve data (.obj [("@arrayPath", .arr (source :: rest))]) =
      (resolveSource data source).bind
        (overItems (rest.head?.map fun mapping item => resolve item mapping)) := by
  calc
    resolve data (.obj [("@arrayPath", .arr (source :: rest))]) =
        resolveDirective data .arrayPath (.arr (source :: rest)) :=
      resolve_directive data .arrayPath _
    _ = (resolveSource data source).bind
          (overItems (rest.head?.map fun mapping item => resolve item mapping)) := by
      rw [resolveDirective, resolveSource]
      cases source.text? <;> cases rest <;> rfl

end Resolve

end Mapping

end EventDelivery
