import EventDelivery.Action.Basic
import EventDelivery.Proofs.MappingForms

/-!
# Mappings that never fail

Whether a mapping can be resolved is seen from the mapping alone: a well-formed one
resolves over every event.  One that is not fails over every event, unless it may
stand where resolving need not look: in the branch of a condition or in the mapping
for the items of an array.
-/

namespace EventDelivery

namespace Mapping

/-- What a condition tests: the option `exists`, otherwise the option `blank`. -/
def tested? (options : List (String × Json)) : Option Json :=
  (Assoc.get? "exists" options).or (Assoc.get? "blank" options)

/-- The mappings without anything that resolving would refuse. -/
inductive WellFormed : Json → Prop where
  | scalar {value : Json} :
      (∀ items, value ≠ .arr items) → (∀ members, value ≠ .obj members) →
      WellFormed value
  | items {items : List Json} :
      (∀ item, item ∈ items → WellFormed item) → WellFormed (.arr items)
  | members {members : List (String × Json)} :
      Unreserved members → (∀ key value, (key, value) ∈ members → WellFormed value) →
      WellFormed (.obj members)
  | path {text : String} {steps : Path} :
      Path.parse text = .ok steps → WellFormed (.obj [("@path", .str text)])
  | template (text : String) : WellFormed (.obj [("@template", .str text)])
  | literal (value : Json) : WellFormed (.obj [("@literal", value)])
  | condition {options : List (String × Json)} {test : Json} :
      tested? options = some test → WellFormed test →
      (∀ branch, Assoc.get? "then" options = some branch → WellFormed branch) →
      (∀ branch, Assoc.get? "else" options = some branch → WellFormed branch) →
      WellFormed (.obj [("@if", .obj options)])
  /-- An array at a path; what follows the path starts with the mapping for the
  items, if there is one. -/
  | arrayAt {text : String} {steps : Path} {rest : List Json} :
      Path.parse text = .ok steps →
      (∀ mapping, rest.head? = some mapping → WellFormed mapping) →
      WellFormed (.obj [("@arrayPath", .arr (.str text :: rest))])
  /-- An array that another mapping gives. -/
  | arrayOf {source : Json} {rest : List Json} :
      (∀ text, source ≠ .str text) → WellFormed source →
      (∀ mapping, rest.head? = some mapping → WellFormed mapping) →
      WellFormed (.obj [("@arrayPath", .arr (source :: rest))])

/-- There is a result, not a fault. -/
def Succeeds {α : Type} (outcome : Except MappingFault α) : Prop :=
  ∃ result, outcome = .ok result

section Succeeds

variable {α β : Type}

@[simp] theorem succeeds_ok (result : α) : Succeeds (.ok result : Except MappingFault α) :=
  ⟨result, rfl⟩

@[simp] theorem not_succeeds_error (fault : MappingFault) :
    ¬ Succeeds (.error fault : Except MappingFault α) := by
  rintro ⟨result, same⟩
  cases same

@[simp] theorem succeeds_map (f : α → β) (outcome : Except MappingFault α) :
    Succeeds (outcome.map f) ↔ Succeeds outcome := by
  cases outcome <;> simp [Except.map]

private theorem succeeds_bind (outcome : Except MappingFault α) (f : α → Except MappingFault β) :
    Succeeds (outcome.bind f) ↔ ∃ result, outcome = .ok result ∧ Succeeds (f result) := by
  cases outcome <;> simp [Except.bind]

private theorem succeeds_both (first : Except MappingFault α) (second : Except MappingFault β)
    {γ : Type} (f : α → β → γ) :
    Succeeds (do
      let a ← first
      let b ← second
      .ok (f a b)) ↔ Succeeds first ∧ Succeeds second := by
  cases first <;> cases second <;> simp [bind, Except.bind]

private theorem succeeds_collect (f : Json → Except MappingFault (Option Json))
    (items : List Json) :
    Succeeds (collect f items) ↔ ∀ item, item ∈ items → Succeeds (f item) := by
  induction items with
  | nil => simp [collect]
  | cons item rest induction => simp [collect, succeeds_both, induction]

theorem succeeds_resolveMembers (data : Json) (members : List (String × Json)) :
    Succeeds (resolveMembers data members) ↔
      ∀ key value, (key, value) ∈ members → Succeeds (resolve data value) := by
  induction members with
  | nil => simp [resolveMembers]
  | cons member rest induction =>
      obtain ⟨name, value⟩ := member
      simp only [resolveMembers, succeeds_both, induction, List.mem_cons, Prod.mk.injEq]
      constructor
      · rintro ⟨here, later⟩ key other (⟨rfl, rfl⟩ | member)
        · exact here
        · exact later key other member
      · intro every
        exact ⟨every name value (.inl ⟨rfl, rfl⟩), fun key other member =>
          every key other (.inr member)⟩

theorem succeeds_get (path : String) (value : Json) :
    Succeeds (Path.get path value) ↔ ∃ steps, Path.parse path = .ok steps := by
  unfold Path.get
  cases Path.parse path <;> simp [bind, Except.bind]

/-- Over the items of an array everything goes well if it does for each value. -/
theorem succeeds_overItems {f : Option (Json → Except MappingFault (Option Json))}
    (each : ∀ given, f = some given → ∀ item, Succeeds (given item))
    (found : Option Json) : Succeeds (overItems f found) := by
  unfold overItems
  split
  · split
    · simp
    · rename_i items _ given
      have collected : Succeeds (collect given items) :=
        (succeeds_collect given items).mpr fun item _ => each given rfl item
      obtain ⟨results, collected⟩ := collected
      simp [collected, bind, Except.bind]
  · simp

end Succeeds

section Resolve

variable {data : Json}

private theorem succeeds_resolveOption {name : String} {options : List (String × Json)}
    (given : ∀ mapping, Assoc.get? name options = some mapping →
      Succeeds (resolve data mapping)) : Succeeds (resolveOption data name options) := by
  rw [resolveOption_eq]
  cases found : Assoc.get? name options with
  | none => simp
  | some mapping => simpa using given mapping found

theorem succeeds_resolveTest {options : List (String × Json)} {test : Json}
    (tested : tested? options = some test) (resolved : Succeeds (resolve data test)) :
    Succeeds (resolveTest data options) := by
  unfold resolveTest
  unfold tested? at tested
  cases present : Assoc.get? "exists" options with
  | some given =>
      simp only [present, Option.some_or, Option.some.injEq] at tested
      simpa [tested] using resolved
  | none =>
      simp only [present, Option.none_or] at tested
      simpa [tested] using resolved

theorem succeeds_arrayPath {source : Json} {rest : List Json}
    (found : Succeeds (resolveSource data source))
    (each : ∀ mapping, rest.head? = some mapping → ∀ item, Succeeds (resolve item mapping)) :
    Succeeds (resolve data (.obj [("@arrayPath", .arr (source :: rest))])) := by
  obtain ⟨selected, known⟩ := found
  rw [resolve_arrayPath, succeeds_bind]
  refine ⟨selected, known, succeeds_overItems ?_ selected⟩
  intro given follows item
  obtain ⟨mapping, first, rfl⟩ := Option.map_eq_some_iff.mp follows
  exact each mapping first item

/-- What a well-formed mapping asks for is there over any data. -/
theorem WellFormed.succeeds {mapping : Json} (wellFormed : WellFormed mapping)
    (data : Json) : Succeeds (resolve data mapping) := by
  induction wellFormed generalizing data with
  | scalar noItems noMembers => simp [resolve_scalar data noItems noMembers]
  | items _ each =>
      rw [resolve_items, succeeds_map, succeeds_collect]
      exact fun item member => each item member data
  | members unreserved _ each =>
      rw [resolve_members data unreserved, succeeds_map, succeeds_resolveMembers]
      exact fun key value member => each key value member data
  | path parsed =>
      rw [resolve_path, succeeds_get]
      exact ⟨_, parsed⟩
  | template text => simp [resolve_template]
  | literal value => simp [resolve_literal]
  | condition tested _ _ _ test yes no =>
      obtain ⟨holds, known⟩ := succeeds_resolveTest tested (test data)
      rw [resolve_condition, succeeds_bind]
      refine ⟨holds, known, ?_⟩
      rw [succeeds_map]
      cases holds
      · exact succeeds_resolveOption fun branch given => no branch given data
      · exact succeeds_resolveOption fun branch given => yes branch given data
  | arrayAt parsed _ each =>
      have found : Succeeds (resolveSource data (.str _)) :=
        (succeeds_get _ data).mpr ⟨_, parsed⟩
      exact succeeds_arrayPath found each
  | @arrayOf given _ noText _ _ source each =>
      have found : Succeeds (resolveSource data given) := by
        rw [resolveSource_of data noText]
        exact source data
      exact succeeds_arrayPath found each

/-- A directive that can be resolved is well-formed when the mapping before it is,
unless it leaves mappings aside: a condition, or an array with a mapping for its
items. -/
theorem wellFormed_of_succeeds_directive {directive : Directive} {argument : Json}
    (noCondition : directive ≠ .condition)
    (noEach : ∀ source inner rest, directive = .arrayPath →
      argument ≠ .arr (source :: inner :: rest))
    (parts : ∀ part, Part part (.obj [(directive.name, argument)]) →
      Succeeds (resolve data part) → WellFormed part)
    (succeeds : Succeeds (resolve data (.obj [(directive.name, argument)]))) :
    WellFormed (.obj [(directive.name, argument)]) := by
  rw [resolve_directive] at succeeds
  cases directive with
  | path =>
      cases argument with
      | str text =>
          obtain ⟨steps, parsed⟩ := (succeeds_get text data).mp succeeds
          exact .path parsed
      | _ => simp [resolveDirective] at succeeds
  | template =>
      cases argument with
      | str text => exact .template text
      | _ => simp [resolveDirective] at succeeds
  | literal => exact .literal argument
  | condition => exact absurd rfl noCondition
  | arrayPath =>
      cases argument with
      | arr items =>
          cases items with
          | nil => simp [resolveDirective] at succeeds
          | cons source rest =>
              have noMore : rest = [] := by
                cases rest with
                | nil => rfl
                | cons inner rest => exact absurd rfl (noEach source inner rest rfl)
              subst noMore
              rw [← resolve_directive] at succeeds
              rw [Directive.name, resolve_arrayPath, succeeds_bind] at succeeds
              obtain ⟨found, known, _⟩ := succeeds
              have noMapping : ∀ mapping, ([] : List Json).head? = some mapping →
                  WellFormed mapping := by
                simp
              by_cases text : ∃ path, source = .str path
              · obtain ⟨path, rfl⟩ := text
                obtain ⟨steps, parsed⟩ := (succeeds_get path data).mp ⟨found, known⟩
                exact .arrayAt parsed noMapping
              · have noText : ∀ path, source ≠ .str path := by
                  simpa using text
                rw [resolveSource_of data noText] at known
                exact .arrayOf noText (parts source (.source source []) ⟨found, known⟩)
                  noMapping
      | _ => simp [resolveDirective] at succeeds

/-- Where nothing is left aside, a mapping that can be resolved over some data is
well-formed. -/
theorem wellFormed_of_succeeds (mapping : Json)
    (noCondition : ∀ argument, ¬ Stands .condition argument mapping)
    (noEach : ∀ source inner rest,
      ¬ Stands .arrayPath (.arr (source :: inner :: rest)) mapping)
    (succeeds : Succeeds (resolve data mapping)) : WellFormed mapping := by
  induction mapping using Mapping.induction with
  | of mapping induction =>
      have parts : ∀ part, Part part mapping → Succeeds (resolve data part) →
          WellFormed part := by
        intro part isPart
        exact induction part isPart
          (fun argument stands => noCondition argument (.inside isPart stands))
          (fun source inner rest stands =>
            noEach source inner rest (.inside isPart stands))
      cases form mapping with
      | scalar noItems noMembers => exact .scalar noItems noMembers
      | items items =>
          rw [resolve_items, succeeds_map, succeeds_collect] at succeeds
          exact .items fun item member => parts item (.item member) (succeeds item member)
      | members unreserved =>
          rw [resolve_members data unreserved, succeeds_map,
            succeeds_resolveMembers] at succeeds
          exact .members unreserved fun key value member =>
            parts value (.member unreserved member) (succeeds key value member)
      | directive directive argument =>
          apply wellFormed_of_succeeds_directive _ _ parts succeeds
          · rintro rfl
            exact noCondition argument .here
          · rintro source inner rest rfl rfl
            exact noEach source inner rest .here
      | unknown reserved unknown =>
          simp [resolve_unknown data reserved unknown] at succeeds
      | crowded reserved many =>
          simp [resolve_crowded data reserved many] at succeeds

end Resolve

end Mapping

namespace Mapper

/-- The errors of the mapper for directives say what is wrong with the mapping. -/
theorem directives_error {mapping event : Json} {error : ActionError}
    (failed : directives.transform mapping event = .error error) :
    ∃ fault : MappingFault, error = .mapping fault.message := by
  simp only [directives] at failed
  cases outcome : Mapping.transform mapping event with
  | ok payload => simp [outcome, Except.mapError] at failed
  | error fault =>
      simp only [outcome, Except.mapError, Except.error.injEq] at failed
      exact ⟨fault, failed.symm⟩

theorem directives_ok_iff (mapping event : Json) :
    (∃ payload, directives.transform mapping event = .ok payload) ↔
      Mapping.Succeeds (Mapping.resolve (Mapping.eventData event) mapping) := by
  simp only [directives, Mapping.transform]
  cases Mapping.resolve (Mapping.eventData event) mapping <;>
    simp [Except.map, Except.mapError]

/-- Well-formed mappings never fail.  Others fail over every event, unless a condition
or a mapping for the items of an array stands in them; whatever fails, the mapping is
to blame. -/
theorem wellFormed_mappings_never_fail :
    (∀ mapping, Mapping.WellFormed mapping →
      ∀ event, ∃ payload, directives.transform mapping event = .ok payload) ∧
    (∀ mapping, ¬ Mapping.WellFormed mapping →
      (∀ argument, ¬ Mapping.Stands .condition argument mapping) →
      (∀ source inner rest,
        ¬ Mapping.Stands .arrayPath (.arr (source :: inner :: rest)) mapping) →
      ∀ event, ∃ error, directives.transform mapping event = .error error ∧
        error.code = "InvalidMapping") ∧
    ∀ mapping event error, directives.transform mapping event = .error error →
      error.code = "InvalidMapping" := by
  have blamed : ∀ mapping event error,
      directives.transform mapping event = .error error → error.code = "InvalidMapping" := by
    intro mapping event error failed
    obtain ⟨fault, rfl⟩ := directives_error failed
    rfl
  refine ⟨?_, ?_, blamed⟩
  · intro mapping wellFormed event
    exact (directives_ok_iff mapping event).mpr (wellFormed.succeeds _)
  · intro mapping misformed noCondition noEach event
    cases outcome : directives.transform mapping event with
    | error error => exact ⟨error, rfl, blamed mapping event error outcome⟩
    | ok payload =>
        have succeeds := (directives_ok_iff mapping event).mp ⟨payload, outcome⟩
        exact absurd (Mapping.wellFormed_of_succeeds mapping noCondition noEach succeeds)
          misformed

/-- A greeting if there is a name, and the names of all products. -/
def greetingMapping : Json :=
  .obj [
    ("greeting", .obj [("@if", .obj [
      ("exists", .obj [("@path", .str "$.name")]),
      ("then", .obj [("@template", .str "Hi \x7b\x7bname\x7d\x7d")])])]),
    ("products", .obj [("@arrayPath", .arr [
      .str "$.products", .obj [("@path", .str "$['name']")]])])]

/-- A member with a directive that there is not. -/
def capitalMapping : Json :=
  .obj [("name", .obj [("@case", .str "upper")])]

theorem greetingMapping_wellFormed : Mapping.WellFormed greetingMapping := by
  have test : Path.parse "$.name" = .ok [.key "name"] := rfl
  have array : Path.parse "$.products" = .ok [.key "products"] := rfl
  have inner : Path.parse "$['name']" = .ok [.key "name"] := rfl
  refine .members (Mapping.any_isReserved.mp (by decide)) ?_
  intro key value member
  simp only [List.mem_cons, Prod.mk.injEq, List.not_mem_nil, or_false] at member
  rcases member with ⟨rfl, rfl⟩ | ⟨rfl, rfl⟩
  · refine .condition rfl (.path test) ?_ ?_
    · rintro branch ⟨⟩
      exact .template _
    · rintro branch ⟨⟩
  · refine .arrayAt array ?_
    rintro mapping ⟨⟩
    exact .path inner

theorem capitalMapping_noDirective (directive : Directive) (argument : Json) :
    ¬ Mapping.Stands directive argument capitalMapping := by
  intro stands
  obtain ⟨key, value, member, stands⟩ :=
    stands.of_members (Mapping.any_isReserved.mp (by decide))
  simp only [List.mem_singleton, Prod.mk.injEq] at member
  obtain ⟨rfl, rfl⟩ := member
  exact Mapping.not_stands_unknown (by decide) rfl stands

theorem greeting_never_fails_and_capital_always :
    Mapping.WellFormed greetingMapping ∧ ¬ Mapping.WellFormed capitalMapping ∧
      (∀ event, ∃ payload, directives.transform greetingMapping event = .ok payload) ∧
      ∀ event, ∃ error, directives.transform capitalMapping event = .error error ∧
        error.code = "InvalidMapping" := by
  have misformed : ¬ Mapping.WellFormed capitalMapping := by
    intro wellFormed
    obtain ⟨found, same⟩ := wellFormed.succeeds .null
    cases same
  obtain ⟨never, always, _⟩ := wellFormed_mappings_never_fail
  exact ⟨greetingMapping_wellFormed, misformed, never _ greetingMapping_wellFormed,
    always _ misformed (fun _ => capitalMapping_noDirective _ _)
      (fun _ _ _ => capitalMapping_noDirective _ _)⟩

end Mapper

end EventDelivery
