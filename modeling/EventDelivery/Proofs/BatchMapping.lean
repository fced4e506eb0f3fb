import EventDelivery.Proofs.BatchAgreement

/-!
# Mapping a list is all or nothing

A mapper without a way of its own for lists is asked for one event after the other,
up to the first that fails.  Then the call ends with the error of that event, and
nothing has happened but the consultations up to there.  Otherwise every event is
asked for once before anything else happens.
-/

namespace EventDelivery

/-- The mapper fails at a position, and at none before it. -/
structure Mapper.FailsFirst (mapper : Mapper) (mapping : Json) (data : List Json)
    (position : Nat) (error : ActionError) : Prop where
  resolves : ∀ earlier event, earlier < position → data[earlier]? = some event →
    ∃ mapped, mapper.transform mapping event = .ok mapped
  fails : ∃ event, data[position]? = some event ∧
    mapper.transform mapping event = .error error

namespace Mapper

variable {mapper : Mapper} {mapping : Json}

theorem FailsFirst.here {event : Json} {error : ActionError}
    (fault : mapper.transform mapping event = .error error) (rest : List Json) :
    mapper.FailsFirst mapping (event :: rest) 0 error where
  resolves := by
    intro earlier other below
    exact absurd below (Nat.not_lt_zero earlier)
  fails := ⟨event, rfl, fault⟩

theorem FailsFirst.later {event mapped : Json} {rest : List Json} {position : Nat}
    {error : ActionError} (resolved : mapper.transform mapping event = .ok mapped)
    (first : mapper.FailsFirst mapping rest position error) :
    mapper.FailsFirst mapping (event :: rest) (position + 1) error where
  resolves := by
    intro earlier other below found
    cases earlier with
    | zero =>
        obtain rfl := Option.some.inj found
        exact ⟨mapped, resolved⟩
    | succ earlier =>
        exact first.resolves earlier other (Nat.lt_of_succ_lt_succ below) found
  fails := first.fails

theorem FailsFirst.tail {event : Json} {rest : List Json} {position : Nat}
    {error : ActionError}
    (first : mapper.FailsFirst mapping (event :: rest) (position + 1) error) :
    mapper.FailsFirst mapping rest position error where
  resolves := by
    intro earlier other below found
    exact first.resolves (earlier + 1) other (Nat.succ_lt_succ below) found
  fails := first.fails

theorem FailsFirst.of_agree {other : Mapper} {data : List Json} {position : Nat}
    {error : ActionError} (first : mapper.FailsFirst mapping data position error)
    (same : ∀ earlier event, earlier ≤ position → data[earlier]? = some event →
      other.transform mapping event = mapper.transform mapping event) :
    other.FailsFirst mapping data position error where
  resolves := by
    intro earlier event below found
    rw [same earlier event (Nat.le_of_lt below) found]
    exact first.resolves earlier event below found
  fails := by
    obtain ⟨event, found, fault⟩ := first.fails
    exact ⟨event, found, (same position event (Nat.le_refl position) found).trans fault⟩

theorem FailsFirst.position_le {data : List Json} {position other : Nat}
    {error otherError : ActionError}
    (first : mapper.FailsFirst mapping data position error)
    (second : mapper.FailsFirst mapping data other otherError) : position ≤ other := by
  by_contra above
  obtain ⟨event, found, fault⟩ := second.fails
  obtain ⟨mapped, resolved⟩ := first.resolves other event (Nat.lt_of_not_le above) found
  rw [resolved] at fault
  cases fault

/-- There is one first failure at most. -/
theorem FailsFirst.unique {data : List Json} {position other : Nat}
    {error otherError : ActionError}
    (first : mapper.FailsFirst mapping data position error)
    (second : mapper.FailsFirst mapping data other otherError) :
    position = other ∧ error = otherError := by
  obtain rfl := Nat.le_antisymm (first.position_le second) (second.position_le first)
  obtain ⟨event, found, fault⟩ := first.fails
  obtain ⟨otherEvent, otherFound, otherFault⟩ := second.fails
  obtain rfl := Option.some.inj (found.symm.trans otherFound)
  exact ⟨rfl, Except.error.inj (fault.symm.trans otherFault)⟩

theorem exists_failsFirst {data : List Json} {event : Json} {error : ActionError}
    (member : event ∈ data) (fault : mapper.transform mapping event = .error error) :
    ∃ position first, mapper.FailsFirst mapping data position first := by
  induction data with
  | nil => simp at member
  | cons head rest induction =>
      cases outcome : mapper.transform mapping head with
      | error first => exact ⟨0, first, .here outcome rest⟩
      | ok mapped =>
          have inRest : event ∈ rest := by
            rcases List.mem_cons.mp member with rfl | later
            · rw [outcome] at fault
              cases fault
            · exact later
          obtain ⟨position, first, fails⟩ := induction inRest
          exact ⟨position + 1, first, fails.later outcome⟩

end Mapper

namespace Action

section Consulting

variable {mapper : Mapper} {mapping : Json} {data : List Json}

theorem mapInTurn_of_failsFirst {position : Nat} {error : ActionError}
    (first : mapper.FailsFirst mapping data position error) :
    mapInTurn mapper mapping data =
      (.error error, List.replicate (position + 1) .mapped) := by
  induction data generalizing position with
  | nil =>
      obtain ⟨event, found, _⟩ := first.fails
      simp at found
  | cons event rest induction =>
      cases position with
      | zero =>
          obtain ⟨other, found, fault⟩ := first.fails
          obtain rfl := Option.some.inj found
          simp [mapInTurn, fault]
      | succ position =>
          obtain ⟨mapped, resolved⟩ :=
            first.resolves 0 event (Nat.succ_pos position) rfl
          simp [mapInTurn, resolved, induction first.tail, Except.map,
            List.replicate_succ]

theorem mapInTurn_of_forall₂ {mapped : List Json}
    (resolved : List.Forall₂
      (fun event result => mapper.transform mapping event = .ok result) data mapped) :
    mapInTurn mapper mapping data =
      (.ok mapped, List.replicate data.length .mapped) := by
  induction resolved with
  | nil => rfl
  | cons head _ induction =>
      simp [mapInTurn, head, induction, Except.map, List.replicate_succ]

theorem mapped_not_mem_survivors (action : Action) (stats : Option StatsContext)
    (mapped : List Json) : .mapped ∉ (action.survivors stats mapped).2 := by
  cases known : action.schema with
  | none => simp [survivors, known]
  | some schema =>
      simp only [survivors, known]
      induction mapped with
      | nil => simp [keepValid]
      | cons head tail induction => simp [keepValid, discarded, induction]

private theorem mapped_not_mem_functionRun {α β : Type} (action : Action) (function : Function α β)
    (input : Input α) (transport : Transport) :
    .mapped ∉ (action.functionRun function input transport).events := by
  intro member
  have ofFunction := action.functionRun_isOfFunction function input transport _ member
  simp [Event.isOfFunction] at ofFunction

end Consulting

section Batch

variable {action : Action} {perform : Function (List Json) PerformOutput}

theorem executeBatch_of_failsFirst {bundle : Bundle (List Json)} {position : Nat}
    {error : ActionError}
    (supported : action.definition.performBatch = some perform)
    (inTurn : action.mapper.transformList = none)
    (first : action.mapper.FailsFirst bundle.mapping bundle.data position error)
    (transport : Transport) :
    action.executeBatch bundle transport =
      stop bundle.context transport (.error error)
        (List.replicate (position + 1) .mapped) := by
  have consulted : mapAll action.mapper bundle.mapping bundle.data =
      (.error error, List.replicate (position + 1) .mapped) := by
    simp only [mapAll, inTurn]
    exact mapInTurn_of_failsFirst first
  have fault : (mapAll action.mapper bundle.mapping bundle.data).1 = .error error := by
    rw [consulted]
  rw [executeBatch_unmapped supported fault, consulted]

/-- A list whose events all resolve is mapped first, with one consultation for every
event; what is kept of the results is what the function is called with, if that is
anything. -/
theorem executeBatch_of_forall₂ {bundle : Bundle (List Json)} {mapped : List Json}
    (supported : action.definition.performBatch = some perform)
    (inTurn : action.mapper.transformList = none)
    (resolved : List.Forall₂
      (fun event result => action.mapper.transform bundle.mapping event = .ok result)
      bundle.data mapped) (transport : Transport) :
    ∃ later, (action.executeBatch bundle transport).events =
        List.replicate bundle.data.length .mapped ++ later ∧
      .mapped ∉ later ∧
      invocations later =
        if action.kept mapped = [] then []
        else [(.performBatch, .arr (action.kept mapped))] := by
  have consulted : mapAll action.mapper bundle.mapping bundle.data =
      (.ok mapped, List.replicate bundle.data.length .mapped) := by
    simp only [mapAll, inTurn]
    exact mapInTurn_of_forall₂ resolved
  have outcome : (mapAll action.mapper bundle.mapping bundle.data).1 = .ok mapped := by
    rw [consulted]
  have unmapped := action.mapped_not_mem_survivors bundle.context.stats mapped
  have quiet := (action.survivors_eq bundle.context.stats mapped).2.1
  by_cases nothing : action.kept mapped = []
  · refine ⟨(action.survivors bundle.context.stats mapped).2, ?_, unmapped, ?_⟩
    · rw [executeBatch_skipped supported outcome nothing, consulted]
      rfl
    · rw [if_pos nothing]
      exact quiet.invocations_eq_nil
  · have silent := invocations_eq_nil_of_isOfFunction
      (action.functionRun_isOfFunction perform
        (bundle.toInput (.arr bundle.data) (action.kept mapped)) transport)
    have unmappedRun := action.mapped_not_mem_functionRun perform
      (bundle.toInput (.arr bundle.data) (action.kept mapped)) transport
    refine ⟨(action.survivors bundle.context.stats mapped).2 ++
      .invoked .performBatch (.arr (action.kept mapped)) ::
        (action.functionRun perform
          (bundle.toInput (.arr bundle.data) (action.kept mapped)) transport).events,
      ?_, ?_, ?_⟩
    · rw [executeBatch_delivered supported outcome nothing, consulted]
      simp [Ran.after, Ran.map]
    · simp [unmapped, unmappedRun]
    · simp [nothing, quiet.invocations_eq_nil, silent]

/-- How a call with a list ends at the first event that the mapper fails for. -/
structure EndsAtFailure (action : Action) (bundle : Bundle (List Json))
    (transport : Transport) (position : Nat) (error : ActionError) : Prop where
  fails : action.mapper.FailsFirst bundle.mapping bundle.data position error
  result : (action.executeBatch bundle transport).result = .error error
  /-- Nothing happens but one consultation for every event up to there. -/
  consulted : (action.executeBatch bundle transport).events =
    List.replicate (position + 1) .mapped
  untouched : (action.executeBatch bundle transport).world =
    { transport, transaction := bundle.context.transaction }
  /-- The mapper is not consulted for the events behind: any other mapper that agrees
  up to there leads to the same end. -/
  unasked : ∀ other : Mapper, other.transformList = none →
    (∀ earlier event, earlier ≤ position → bundle.data[earlier]? = some event →
      other.transform bundle.mapping event =
        action.mapper.transform bundle.mapping event) →
    { action with mapper := other }.executeBatch bundle transport =
      action.executeBatch bundle transport

/-- How a call with a list goes on when the mapper resolves every event. -/
structure GoesOnMapped (action : Action) (bundle : Bundle (List Json))
    (transport : Transport) (mapped : List Json) (later : List Event) : Prop where
  resolved : (mapAll action.mapper bundle.mapping bundle.data).1 = .ok mapped
  length_eq : mapped.length = bundle.data.length
  /-- Every event has its own result at its own position. -/
  inPlace : ∀ (position : Nat) event result, bundle.data[position]? = some event →
    mapped[position]? = some result →
      action.mapper.transform bundle.mapping event = .ok result
  /-- There is one consultation for every event, before anything else. -/
  consulted : (action.executeBatch bundle transport).events =
    List.replicate bundle.data.length .mapped ++ later
  unconsulted : Event.mapped ∉ later
  /-- The function is called with what is kept of the results. -/
  called : invocations later =
    if action.kept mapped = [] then []
    else [(.performBatch, .arr (action.kept mapped))]

/-- A mapper that is asked for one event after the other either resolves all of them
before anything else happens, or the call ends at the first failure, and nothing else
happens at all. -/
theorem executeBatch_all_or_nothing
    (supported : action.definition.performBatch = some perform)
    (inTurn : action.mapper.transformList = none)
    (bundle : Bundle (List Json)) (transport : Transport) :
    ((∃ event error, event ∈ bundle.data ∧
        action.mapper.transform bundle.mapping event = .error error) →
      ∃ position error, action.EndsAtFailure bundle transport position error) ∧
    ((∀ event, event ∈ bundle.data →
        ∃ mapped, action.mapper.transform bundle.mapping event = .ok mapped) →
      ∃ mapped later, action.GoesOnMapped bundle transport mapped later) := by
  constructor
  · rintro ⟨event, error, member, fault⟩
    obtain ⟨position, first, fails⟩ := Mapper.exists_failsFirst member fault
    have ending := executeBatch_of_failsFirst supported inTurn fails transport
    refine ⟨position, first, fails, ?_, ?_, ?_, ?_⟩
    · simp only [ending, stop]
    · simp only [ending, stop]
    · simp only [ending, stop]
    · intro other otherInTurn same
      have otherFails := fails.of_agree same
      rw [ending]
      exact @executeBatch_of_failsFirst { action with mapper := other } _ _ _ _ supported
        otherInTurn otherFails transport
  · intro resolves
    obtain ⟨mapped, resolved⟩ := exists_forall₂_of_resolves resolves
    obtain ⟨later, trace, unmapped, called⟩ :=
      executeBatch_of_forall₂ supported inTurn resolved transport
    refine ⟨mapped, later, ?_, resolved.length_eq.symm, ?_, trace, unmapped, called⟩
    · simp only [mapAll, inTurn, mapInTurn_of_forall₂ resolved]
    · intro position event result found given
      obtain ⟨inData, rfl⟩ := List.getElem?_eq_some_iff.mp found
      obtain ⟨inMapped, rfl⟩ := List.getElem?_eq_some_iff.mp given
      exact List.Forall₂.get resolved inData inMapped

/-- The address of an event.  Where there is none, the mapping names a directive that
there is not. -/
def addressMapping : Json :=
  .obj [("email", .obj [("@if", .obj [
    ("else", .obj [("@missing", .null)]),
    ("exists", .obj [("@path", .str "$.email")]),
    ("then", .obj [("@path", .str "$.email")])])])]

def addressEvent (address : String) : Json := .obj [("email", .str address)]

/-- Two addresses, and the given events between them. -/
def addressBundle (between : List Json) : Bundle (List Json) where
  data := addressEvent "ada@example.org" :: between ++ [addressEvent "alan@example.org"]
  mapping := addressMapping
  context := { stats := some ⟨["env:test"]⟩ }

/-- Without an address between the two others, the second event ends the call; without
an event between them, both are mapped before anything else happens. -/
theorem echoAction_maps_addresses :
    echoAction.definition.performBatch.isSome = true ∧
      echoAction.mapper.transformList = none ∧
      (echoAction.executeBatch (addressBundle [.obj []]) .offline).result =
        .error (.mapping (MappingFault.unknownDirective "@missing").message) ∧
      (echoAction.executeBatch (addressBundle [.obj []]) .offline).events =
        [.mapped, .mapped] ∧
      ∃ later, Event.mapped ∉ later ∧
        (echoAction.executeBatch (addressBundle []) .offline).events =
          [.mapped, .mapped] ++ later := by
  obtain ⟨sameDefinition, sameMapper, _⟩ :=
    ActionBuilder.build_parts echoAction_built
  have supported : echoAction.definition.performBatch =
      some fun input => .done (.ok (.data (.arr input.payload))) := by
    simp [sameDefinition, echoBuilder]
  have inTurn : echoAction.mapper.transformList = none := by
    rw [sameMapper]
    rfl
  have given : ∀ address,
      echoAction.mapper.transform addressMapping (addressEvent address) =
        .ok (addressEvent address) := by
    rw [sameMapper]
    exact fun address => rfl
  have missing : echoAction.mapper.transform addressMapping (.obj []) =
      .error (.mapping (MappingFault.unknownDirective "@missing").message) := by
    rw [sameMapper]
    rfl
  have stops : ∃ position error,
      echoAction.EndsAtFailure (addressBundle [.obj []]) .offline position error :=
    (executeBatch_all_or_nothing supported inTurn _ .offline).1
      ⟨_, _, by simp [addressBundle], missing⟩
  have resolves : ∀ event, event ∈ (addressBundle []).data →
      ∃ mapped, echoAction.mapper.transform addressMapping event = .ok mapped := by
    intro event member
    simp only [addressBundle, List.cons_append, List.nil_append, List.mem_cons,
      List.not_mem_nil, or_false] at member
    rcases member with rfl | rfl <;> exact ⟨_, given _⟩
  obtain ⟨position, error, ends⟩ := stops
  obtain ⟨mapped, later, goesOn⟩ :=
    (executeBatch_all_or_nothing supported inTurn (addressBundle []) .offline).2 resolves
  have second := (Mapper.FailsFirst.here missing
    [addressEvent "alan@example.org"]).later (given "ada@example.org")
  obtain ⟨rfl, rfl⟩ := ends.fails.unique second
  exact ⟨by simp [supported], inTurn, ends.result, ends.consulted, later,
    goesOn.unconsulted, goesOn.consulted⟩

end Batch

end Action

end EventDelivery
