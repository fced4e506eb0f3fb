import EventDelivery.Proofs.MappingForms

/-!
# What mappings take from events

A mapping names what it takes from an event: paths, and the tokens of its templates.
Two events that hold the same there are resolved to the same payload, or to the same
fault; nothing else of an event gets into the payload or decides what it becomes.
-/

namespace EventDelivery

namespace Mapping

/-- A text by which a mapping selects a value of the event. -/
inductive Selector where
  | path (text : String)
  | token (chars : List Char)

/-- What is selected; nothing where the text is no path. -/
def Selector.select (data : Json) : Selector → Option Json
  | .path text =>
      match Path.parse text with
      | .ok steps => steps.select data
      | .error _ => none
  | .token chars => (Template.tokenPath? chars).bind fun path => path.select data

/-- The texts that a mapping selects by: its paths, the paths to its arrays and the
tokens of its templates.  What stands in a literal or in the mapping for the items
of an array is not among them. -/
inductive Selects (mapping : Json) : Selector → Prop where
  | path {text : String} :
      Stands .path (.str text) mapping → Selects mapping (.path text)
  | source {text : String} {rest : List Json} :
      Stands .arrayPath (.arr (.str text :: rest)) mapping →
      Selects mapping (.path text)
  | token {template : String} {chars : List Char} :
      Stands .template (.str template) mapping →
      .token chars ∈ Template.parse template → Selects mapping (.token chars)

/-- What a part selects by, the mapping selects by. -/
theorem Selects.inside {part mapping : Json} {selector : Selector}
    (isPart : Part part mapping) (selects : Selects part selector) :
    Selects mapping selector := by
  cases selects with
  | path stands => exact .path (.inside isPart stands)
  | source stands => exact .source (.inside isPart stands)
  | token stands member => exact .token (.inside isPart stands) member

section Agreement

variable {first second : Json}

theorem get_congr {text : String}
    (same : (Selector.path text).select first = (Selector.path text).select second) :
    Path.get text first = Path.get text second := by
  unfold Selector.select at same
  unfold Path.get
  cases parsed : Path.parse text with
  | error fault => rfl
  | ok steps =>
      simp only [parsed] at same
      simp [same, bind, Except.bind]

theorem render_congr {template : String}
    (same : ∀ chars, .token chars ∈ Template.parse template →
      (Selector.token chars).select first = (Selector.token chars).select second) :
    Template.render template first = Template.render template second := by
  unfold Template.render
  congr 1
  apply List.map_congr_left
  intro piece member
  cases piece with
  | text chars => rfl
  | token chars =>
      have selected := same chars member
      simp only [Selector.select] at selected
      simp only [Template.Piece.render, selected]

theorem collect_congr {f g : Json → Except MappingFault (Option Json)} {items : List Json}
    (same : ∀ item, item ∈ items → f item = g item) : collect f items = collect g items := by
  induction items with
  | nil => rfl
  | cons item rest induction =>
      have here := same item List.mem_cons_self
      have later := induction fun item member => same item (List.mem_cons_of_mem _ member)
      simp only [collect, here, later]

theorem resolveMembers_congr {members : List (String × Json)}
    (same : ∀ key value, (key, value) ∈ members →
      resolve first value = resolve second value) :
    resolveMembers first members = resolveMembers second members := by
  induction members with
  | nil => rfl
  | cons member rest induction =>
      obtain ⟨key, value⟩ := member
      have here := same key value List.mem_cons_self
      have later := induction fun key value member =>
        same key value (List.mem_cons_of_mem _ member)
      simp only [resolveMembers, here, later]

theorem resolveOption_congr {options : List (String × Json)}
    (same : ∀ key value, (key, value) ∈ options →
      resolve first value = resolve second value) (name : String) :
    resolveOption first name options = resolveOption second name options := by
  simp only [resolveOption_eq]
  cases found : Assoc.get? name options with
  | none => rfl
  | some value => simp only [same name value (Assoc.mem_of_get?_eq_some found)]

theorem resolveTest_congr {options : List (String × Json)}
    (same : ∀ key value, (key, value) ∈ options →
      resolve first value = resolve second value) :
    resolveTest first options = resolveTest second options := by
  unfold resolveTest
  cases found : Assoc.get? "exists" options with
  | some test => simp only [same _ test (Assoc.mem_of_get?_eq_some found)]
  | none =>
      cases found : Assoc.get? "blank" options with
      | some test => simp only [same _ test (Assoc.mem_of_get?_eq_some found)]
      | none => rfl

/-- A directive gives the same over data that hold the same where it selects, if its
parts do. -/
theorem resolveDirective_congr (directive : Directive) (argument : Json)
    (same : ∀ selector, Selects (.obj [(directive.name, argument)]) selector →
      selector.select first = selector.select second)
    (parts : ∀ part, Part part (.obj [(directive.name, argument)]) →
      resolve first part = resolve second part) :
    resolve first (.obj [(directive.name, argument)]) =
      resolve second (.obj [(directive.name, argument)]) := by
  cases directive with
  | path =>
      cases argument with
      | str text =>
          simp only [Directive.name, resolve_path, get_congr (same _ (.path .here))]
      | _ => simp only [resolve_directive, resolveDirective]
  | template =>
      cases argument with
      | str text =>
          have rendered : Template.render text first = Template.render text second :=
            render_congr fun chars member => same _ (.token .here member)
          simp only [Directive.name, resolve_template, rendered]
      | _ => simp only [resolve_directive, resolveDirective]
  | literal => simp only [Directive.name, resolve_literal]
  | condition =>
      cases argument with
      | obj options =>
          have inside : ∀ key value, (key, value) ∈ options →
              resolve first value = resolve second value :=
            fun key value member => parts value (.option member)
          simp only [Directive.name, resolve_condition, resolveTest_congr inside,
            resolveOption_congr inside]
      | _ => simp only [resolve_directive, resolveDirective]
  | arrayPath =>
      cases argument with
      | arr items =>
          cases items with
          | nil => simp only [resolve_directive, resolveDirective]
          | cons source rest =>
              have selected : resolveSource first source = resolveSource second source := by
                unfold resolveSource
                cases source with
                | str text => exact get_congr (same _ (.source .here))
                | _ => exact parts _ (.source _ rest)
              simp only [Directive.name, resolve_arrayPath, selected]
      | _ => simp only [resolve_directive, resolveDirective]

end Agreement

/-- A mapping gives the same over data that hold the same wherever it selects. -/
theorem resolve_congr {first second : Json} (mapping : Json)
    (same : ∀ selector, Selects mapping selector →
      selector.select first = selector.select second) :
    resolve first mapping = resolve second mapping := by
  induction mapping using Mapping.induction with
  | of mapping induction =>
      have parts : ∀ part, Part part mapping → resolve first part = resolve second part := by
        intro part isPart
        exact induction part isPart fun selector selects =>
          same selector (selects.inside isPart)
      cases form mapping with
      | scalar noItems noMembers =>
          simp only [resolve_scalar _ noItems noMembers]
      | items items =>
          simp only [resolve_items, collect_congr fun item member => parts item (.item member)]
      | members unreserved =>
          simp only [resolve_members _ unreserved, resolveMembers_congr
            fun key value member => parts value (.member unreserved member)]
      | directive directive argument =>
          exact resolveDirective_congr directive argument same parts
      | unknown reserved unknown => simp only [resolve_unknown _ reserved unknown]
      | crowded reserved many => simp only [resolve_crowded _ reserved many]

/-- Two events in which a mapping selects the same give the same payload, or the same
fault.  An event that is no object is seen as an empty one. -/
theorem transform_eq_of_selects_same (mapping first second : Json)
    (same : ∀ selector, Selects mapping selector →
      selector.select (eventData first) = selector.select (eventData second)) :
    transform mapping first = transform mapping second := by
  simp only [transform, resolve_congr mapping same]

/-- A greeting by name, if the user has agreed to be greeted. -/
def welcomeMapping : Json :=
  .obj [("text", .obj [("@if", .obj [
    ("exists", .obj [("@path", .str "$.agreed")]),
    ("then", .obj [("@template", .str "Hi \x7b\x7bname\x7d\x7d")])])])]

/-- A user who has agreed, with a secret. -/
def userWithSecret (secret : String) : Json :=
  .obj [("agreed", .bool true), ("name", .str "Ada"), ("secret", .str secret)]

theorem stands_welcomeMapping {directive : Directive} {argument : Json}
    (stands : Stands directive argument welcomeMapping) :
    directive = .condition ∨ directive = .path ∧ argument = .str "$.agreed" ∨
      directive = .template ∧ argument = .str "Hi \x7b\x7bname\x7d\x7d" := by
  obtain ⟨_, _, member, stands⟩ := stands.of_members (any_isReserved.mp (by decide))
  simp only [List.mem_singleton, Prod.mk.injEq] at member
  obtain ⟨-, rfl⟩ := member
  rcases stands.of_directive .condition with
    ⟨rfl, -⟩ | ⟨_, _, _, -, same, member, stands⟩ | ⟨_, _, array, -, -⟩
  · exact .inl rfl
  · cases same
    simp only [List.mem_cons, Prod.mk.injEq, List.not_mem_nil, or_false] at member
    rcases member with ⟨-, rfl⟩ | ⟨-, rfl⟩
    · rcases stands.of_directive .path with
        path | ⟨_, _, _, other, -⟩ | ⟨_, _, other, -⟩
      · exact .inr (.inl path)
      · cases other
      · cases other
    · rcases stands.of_directive .template with
        template | ⟨_, _, _, other, -⟩ | ⟨_, _, other, -⟩
      · exact .inr (.inr template)
      · cases other
      · cases other
  · cases array

theorem selects_welcomeMapping {selector : Selector} (selects : Selects welcomeMapping selector) :
    selector = .path "$.agreed" ∨ selector = .token "name".toList := by
  cases selects with
  | path stands =>
      have only := stands_welcomeMapping stands
      simp only [reduceCtorEq, false_and, false_or, or_false, true_and, Json.str.injEq] at only
      exact .inl (congrArg _ only)
  | source stands =>
      have only := stands_welcomeMapping stands
      simp at only
  | token stands member =>
      have only := stands_welcomeMapping stands
      simp only [reduceCtorEq, false_and, false_or, true_and, Json.str.injEq] at only
      subst only
      have pieces : Template.parse "Hi \x7b\x7bname\x7d\x7d" =
          [.text "Hi ".toList, .token "name".toList, .text []] := by decide
      simp only [pieces, List.mem_cons, reduceCtorEq, false_or, List.not_mem_nil, or_false,
        Template.Piece.token.injEq] at member
      exact .inr (congrArg _ member)

theorem welcome_keeps_secret :
    (∀ selector, Selects welcomeMapping selector →
      selector.select (eventData (userWithSecret "1234")) =
        selector.select (eventData (userWithSecret "9876"))) ∧
      transform welcomeMapping (userWithSecret "1234") =
        transform welcomeMapping (userWithSecret "9876") := by
  have same : ∀ selector, Selects welcomeMapping selector →
      selector.select (eventData (userWithSecret "1234")) =
        selector.select (eventData (userWithSecret "9876")) := by
    intro selector selects
    rcases selects_welcomeMapping selects with rfl | rfl <;> decide
  exact ⟨same, transform_eq_of_selects_same _ _ _ same⟩

end Mapping

end EventDelivery
