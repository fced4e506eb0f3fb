import EventDelivery.Proofs.RecordReading
import EventDelivery.Proofs.RequestHeaders
import EventDelivery.RunConfig.Load

/-!
# Which configurations are loaded

A configuration is loaded from any origin exactly when its text describes a run that
passes five checks, and the first check that it does not pass is the one reported.
-/

namespace EventDelivery

/-- The run lacks a part. -/
def EssentialPart.Lacks (config : RunConfig) : EssentialPart → Prop
  | .destination => config.destination = ""
  | .title => config.action.title = ""
  | .events => config.events = []

private theorem EssentialPart.lacking_iff (config : RunConfig) (part : EssentialPart) :
    part.lacking config = true ↔ part.Lacks config := by
  cases part <;> simp [lacking, Lacks]

/-- The label of the field has no character but blank ones. -/
def Field.LabelIsBlank (field : Field) : Prop :=
  ∀ c, c ∈ field.traits.label.toList → Text.isBlank c = true

/-- What is checked of a run. -/
inductive ConfigCheck where
  | essentials
  | destination
  | settings
  | mapping
  | labels

namespace ConfigCheck

variable {config : RunConfig}

/-- The checks in the order in which they are made. -/
def order : List ConfigCheck := [.essentials, .destination, .settings, .mapping, .labels]

/-- The run passes a check. -/
def Passes (config : RunConfig) : ConfigCheck → Prop
  | .essentials => ∀ part : EssentialPart, ¬ part.Lacks config
  | .destination =>
    ∃ known, known ∈ builtInDestinations ∧ Text.SameButCase known config.destination
  | .settings => config.settings = .null ∨ ∃ members, config.settings = .obj members
  | .mapping => ∀ mapping, config.mapping = some mapping → ∃ members, mapping = .obj members
  | .labels => ∀ name field, (name, field) ∈ config.action.fields → ¬ field.LabelIsBlank

/-- What a check reports of a run that does not pass it. -/
def Reports (config : RunConfig) : ConfigCheck → ConfigFault → Prop
  | .essentials, .lacking parts =>
    parts.Sublist EssentialPart.all ∧ ∀ part, part ∈ parts ↔ part.Lacks config
  | .destination, .unknownDestination name => name = config.destination
  | .settings, .settings => True
  | .mapping, .mapping => True
  | .labels, .blankLabel name title =>
    title = config.action.title ∧ ∃ before field after,
      config.action.fields = before ++ (name, field) :: after ∧ field.LabelIsBlank ∧
        ∀ other, other ∈ before → ¬ other.2.LabelIsBlank
  | _, _ => False

def fault? (config : RunConfig) : ConfigCheck → Option ConfigFault
  | .essentials =>
    let lacking := EssentialPart.all.filter (EssentialPart.lacking config)
    if lacking.isEmpty then none else some (.lacking lacking)
  | .destination =>
    if isBuiltIn config.destination then none
    else some (.unknownDestination config.destination)
  | .settings =>
    if config.settings.isObject || config.settings.isNull then none else some .settings
  | .mapping =>
    if config.mapping.any fun mapping => !mapping.isObject then some .mapping else none
  | .labels => config.blankField?.map fun field => .blankLabel field config.action.title

theorem fault?_eq_findSome? (config : RunConfig) :
    config.fault? = order.findSome? (fault? config) := by
  simp only [RunConfig.fault?, order, List.findSome?_cons, List.findSome?_nil, fault?]
  -- both sides are the same chain of branches, and each case opens the next one
  cases (EssentialPart.all.filter (EssentialPart.lacking config)).isEmpty with
  | false => rfl
  | true =>
      cases isBuiltIn config.destination with
      | false => rfl
      | true =>
          cases config.settings.isObject || config.settings.isNull with
          | false => rfl
          | true =>
              cases config.mapping.any fun mapping => !mapping.isObject with
              | true => rfl
              | false => cases config.blankField? <;> rfl

private theorem isBuiltIn_iff (name : String) :
    isBuiltIn name = true ↔
      ∃ known, known ∈ builtInDestinations ∧ Text.SameButCase known name := by
  simp [isBuiltIn, Text.SameButCase]

private theorem mem_all (part : EssentialPart) : part ∈ EssentialPart.all := by
  cases part <;> decide

private theorem labelIsBlank_iff (field : Field) :
    Text.isAllBlank field.traits.label = true ↔ field.LabelIsBlank := by
  simp [Text.isAllBlank, Field.LabelIsBlank]

theorem fault?_eq_none_iff (check : ConfigCheck) :
    check.fault? config = none ↔ check.Passes config := by
  cases check with
  | essentials => simp [fault?, Passes, mem_all, ← EssentialPart.lacking_iff]
  | destination => simp [fault?, Passes, ← isBuiltIn_iff]
  | settings => cases given : config.settings <;>
      simp [fault?, Passes, given, Json.isObject, Json.isNull]
  | mapping =>
      cases given : config.mapping with
      | none => simp [fault?, Passes, given]
      | some mapping => cases mapping <;> simp [fault?, Passes, given, Json.isObject]
  | labels => simp [fault?, Passes, RunConfig.blankField?, ← labelIsBlank_iff]

theorem reports_of_fault?_eq_some {check : ConfigCheck} {fault : ConfigFault}
    (found : check.fault? config = some fault) : check.Reports config fault := by
  cases check with
  | essentials =>
      simp only [fault?] at found
      split at found
      · cases found
      · cases found
        refine ⟨List.filter_sublist, ?_⟩
        simp [mem_all, EssentialPart.lacking_iff]
  | destination =>
      simp only [fault?] at found
      split at found
      · cases found
      · cases found
        rfl
  | settings =>
      simp only [fault?] at found
      split at found
      · cases found
      · cases found
        trivial
  | mapping =>
      simp only [fault?] at found
      split at found
      · cases found
        trivial
      · cases found
  | labels =>
      simp only [fault?, RunConfig.blankField?, Option.map_map, Option.map_eq_some_iff,
        List.find?_eq_some_iff_append] at found
      obtain ⟨⟨name, field⟩, ⟨blank, before, after, parts, others⟩, rfl⟩ := found
      refine ⟨rfl, before, field, after, parts, (labelIsBlank_iff field).mp blank, ?_⟩
      intro other member
      simpa [← labelIsBlank_iff] using others other member

end ConfigCheck

/-- The fault is what the first check reports that the run does not pass. -/
def ConfigFault.IsFirst (config : RunConfig) (fault : ConfigFault) : Prop :=
  ∃ before check after, ConfigCheck.order = before ++ check :: after ∧
    (∀ earlier, earlier ∈ before → earlier.Passes config) ∧
    ¬ check.Passes config ∧ check.Reports config fault

namespace RunConfig

theorem fault?_eq_none_iff (config : RunConfig) :
    config.fault? = none ↔ ∀ check : ConfigCheck, check.Passes config := by
  have all : ∀ check, check ∈ ConfigCheck.order := by
    intro check
    cases check <;> simp [ConfigCheck.order]
  rw [ConfigCheck.fault?_eq_findSome?, List.findSome?_eq_none_iff]
  simp [all, ConfigCheck.fault?_eq_none_iff]

theorem isFirst_of_fault?_eq_some {config : RunConfig} {fault : ConfigFault}
    (found : config.fault? = some fault) : fault.IsFirst config := by
  rw [ConfigCheck.fault?_eq_findSome?, List.findSome?_eq_some_iff] at found
  obtain ⟨before, check, after, parts, reported, passed⟩ := found
  refine ⟨before, check, after, parts, ?_, ?_, ConfigCheck.reports_of_fault?_eq_some reported⟩
  · intro earlier member
    exact (ConfigCheck.fault?_eq_none_iff earlier).mp (passed earlier member)
  · rw [← ConfigCheck.fault?_eq_none_iff, reported]
    exact Option.some_ne_none fault

/-- A text is JSON and describes a run by a value. -/
def DescribedBy (text : String) (value : Json) : Prop :=
  ∃ document, Json.Document.parse? text = some document ∧
    document.readAs? .run Json.maxDepth = some value

theorem ofText?_eq_some_iff {text : String} {config : RunConfig} :
    ofText? text = some config ↔
      ∃ value, DescribedBy text value ∧ ofJson value = .ok config := by
  have decodes : ∀ value, (ofJson value).toOption = some config ↔
      ofJson value = .ok config := by
    intro value
    cases ofJson value <;> simp [Except.toOption]
  simp only [ofText?, Option.bind_eq_bind, Option.bind_eq_some_iff, decodes, DescribedBy]
  constructor
  · rintro ⟨document, parsed, value, read, decoded⟩
    exact ⟨value, ⟨document, parsed, read⟩, decoded⟩
  · rintro ⟨value, ⟨document, parsed, read⟩, decoded⟩
    exact ⟨document, parsed, value, read, decoded⟩

/-- What is required of a run beside that it decodes: a title, events, a destination that
is built in, settings and a mapping that are objects if they are given and not null, and
labels that can be seen. -/
structure Acceptable (value : Json) (config : RunConfig) : Prop where
  title : config.action.title ≠ ""
  events : config.events ≠ []
  destination : ∃ known, known ∈ builtInDestinations ∧
    Text.SameButCase known config.destination
  settings : ∀ given, record.member? "settings" value = some given →
    given = .null ∨ ∃ members, given = .obj members
  mapping : ∀ given, record.member? "mapping" value = some given →
    given = .null ∨ ∃ members, given = .obj members
  labels : ∀ name field, (name, field) ∈ config.action.fields → ¬ field.LabelIsBlank

theorem settings_mapping_of_ofJson {value : Json} {config : RunConfig}
    (decoded : ofJson value = .ok config) :
    config.settings = (record.member? "settings" value).getD .null ∧
      config.mapping =
        (record.member? "mapping" value).filter fun given => given ≠ .null := by
  obtain ⟨source, done, members⟩ := Record.exists_source_of_decode decoded
  simp only [Record.Reading.seq_eq_done_iff, Record.Reading.map_eq_done_iff] at done
  obtain ⟨_, _, ⟨_, _, ⟨_, _, ⟨_, _, ⟨_, _, ⟨_, _, ⟨_, _, ⟨_, _, rfl⟩, _, rfl⟩,
    settings, rfl⟩, mapping, rfl⟩, _, rfl⟩, _, rfl⟩, _, rfl⟩, _, rfl⟩ := done
  constructor
  · rcases Record.optional_done_cases settings with ⟨absent, same⟩ | ⟨given, found, decodes⟩
    · rw [← members, absent]
      exact same.symm
    · rw [← members, found]
      exact (Except.ok.inj decodes).symm
  · rcases Record.optional_done_cases mapping with ⟨absent, same⟩ | ⟨given, found, decodes⟩
    · rw [← members, absent]
      exact same.symm
    · rw [← members, found]
      exact Except.ok.inj (decodes.symm.trans (Wire.nullable_any given))

/-- For a run that is decoded from a value the checks say what is required of it. -/
theorem acceptable_iff {value : Json} {config : RunConfig}
    (decoded : ofJson value = .ok config) :
    Acceptable value config ↔ ∀ check : ConfigCheck, check.Passes config := by
  obtain ⟨settings, mapping⟩ := settings_mapping_of_ofJson decoded
  have settingsPass : ConfigCheck.settings.Passes config ↔
      ∀ given, record.member? "settings" value = some given →
        given = .null ∨ ∃ members, given = .obj members := by
    rw [ConfigCheck.Passes, settings]
    cases record.member? "settings" value <;> simp
  have mappingPasses : ConfigCheck.mapping.Passes config ↔
      ∀ given, record.member? "mapping" value = some given →
        given = .null ∨ ∃ members, given = .obj members := by
    rw [ConfigCheck.Passes, mapping]
    cases record.member? "mapping" value with
    | none => simp
    | some given => cases given <;> simp [Option.filter]
  constructor
  · rintro ⟨title, events, destination, settings, mapping, labels⟩ check
    cases check with
    | essentials =>
        have named : config.destination ≠ "" := by
          obtain ⟨known, member, same⟩ := destination
          intro empty
          rw [List.mem_singleton.mp member, empty, Text.SameButCase] at same
          exact absurd same (by decide)
        rintro (_ | _ | _)
        · exact named
        · exact title
        · exact events
    | destination => exact destination
    | settings => exact settingsPass.mpr settings
    | mapping => exact mappingPasses.mpr mapping
    | labels => exact labels
  · intro passes
    exact ⟨passes .essentials .title, passes .essentials .events, passes .destination,
      settingsPass.mp (passes .settings), mappingPasses.mp (passes .mapping),
      passes .labels⟩

/-- The ways in which a text can be loaded, in a file at a path for the last two. -/
def loadings (path text : String) : List (Except LoadError RunConfig) :=
  [loadText text, loadStream text, loadFile .streamed path (.ok text),
    loadFile .whole path (.ok text)]

theorem exists_accept_of_mem_loadings {path text : String}
    {outcome : Except LoadError RunConfig} (member : outcome ∈ loadings path text) :
    ∃ origin, outcome = accept origin text := by
  simp only [loadings, List.mem_cons, List.not_mem_nil, or_false] at member
  rcases member with rfl | rfl | rfl | rfl
  · exact ⟨_, rfl⟩
  · exact ⟨_, rfl⟩
  · exact ⟨_, rfl⟩
  · exact ⟨_, rfl⟩

theorem accept_eq_ok_iff {origin : ConfigOrigin} {text : String} {config : RunConfig} :
    accept origin text = .ok config ↔ ofText? text = some config ∧ config.fault? = none := by
  unfold accept
  split
  · rename_i none
    simp [none]
  · rename_i read given
    rw [given, Option.some.injEq]
    split
    · rename_i fault found
      simp only [reduceCtorEq, false_iff, not_and]
      rintro rfl
      simp [found]
    · rename_i passes
      simp only [Except.ok.injEq]
      exact ⟨fun same => ⟨same, same ▸ passes⟩, And.left⟩

theorem accept_eq_refused {origin : ConfigOrigin} {text : String} {config : RunConfig}
    {fault : ConfigFault} (given : ofText? text = some config)
    (found : config.fault? = some fault) :
    accept origin text = .error (.refused fault) := by
  simp only [accept, given, found]

theorem accepted_or_refused (text : String) :
    (∃ config, ∀ origin, accept origin text = .ok config) ∨
      ∀ origin, ∃ error, accept origin text = .error error := by
  cases given : ofText? text with
  | none => exact .inr fun origin => ⟨.malformed origin, by simp only [accept, given]⟩
  | some config =>
      cases found : config.fault? with
      | none => exact .inl ⟨config, fun origin => accept_eq_ok_iff.mpr ⟨given, found⟩⟩
      | some fault => exact .inr fun origin => ⟨_, accept_eq_refused given found⟩

/-- Every way of loading a text accepts it exactly when it describes a run of which all
that is required holds.  A text that describes another run is refused with the sentence
of the first check that the run does not pass, whatever the way. -/
theorem loads_exactly_acceptable (path text : String) :
    ((∃ config, ∀ outcome, outcome ∈ loadings path text → outcome = .ok config) ∨
      ∀ outcome, outcome ∈ loadings path text → ∃ error, outcome = .error error) ∧
    (∀ outcome, outcome ∈ loadings path text → ∀ config,
      outcome = .ok config ↔
        ∃ value, DescribedBy text value ∧ ofJson value = .ok config ∧
          Acceptable value config) ∧
    ∀ value config, DescribedBy text value → ofJson value = .ok config →
      ¬ Acceptable value config →
      ∃ fault : ConfigFault, fault.IsFirst config ∧
        ∀ outcome, outcome ∈ loadings path text →
          ∃ error, outcome = .error error ∧ error.message = fault.message := by
  refine ⟨?_, ?_, ?_⟩
  · rcases accepted_or_refused text with ⟨config, accepted⟩ | refused
    · refine .inl ⟨config, ?_⟩
      intro outcome member
      obtain ⟨origin, rfl⟩ := exists_accept_of_mem_loadings member
      exact accepted origin
    · refine .inr ?_
      intro outcome member
      obtain ⟨origin, rfl⟩ := exists_accept_of_mem_loadings member
      exact refused origin
  · intro outcome member config
    obtain ⟨origin, rfl⟩ := exists_accept_of_mem_loadings member
    rw [accept_eq_ok_iff, ofText?_eq_some_iff, fault?_eq_none_iff]
    constructor
    · rintro ⟨⟨value, described, decoded⟩, passes⟩
      exact ⟨value, described, decoded, (acceptable_iff decoded).mpr passes⟩
    · rintro ⟨value, described, decoded, acceptable⟩
      exact ⟨⟨value, described, decoded⟩, (acceptable_iff decoded).mp acceptable⟩
  · intro value config described decoded unacceptable
    have given : ofText? text = some config :=
      ofText?_eq_some_iff.mpr ⟨value, described, decoded⟩
    rw [acceptable_iff decoded, ← fault?_eq_none_iff, ← ne_eq, Option.ne_none_iff_exists']
      at unacceptable
    obtain ⟨fault, found⟩ := unacceptable
    refine ⟨fault, isFirst_of_fault?_eq_some found, ?_⟩
    intro outcome member
    obtain ⟨origin, rfl⟩ := exists_accept_of_mem_loadings member
    exact ⟨_, accept_eq_refused given found, rfl⟩

def plainText : String :=
  "\x7b\"destination\": \"WebHook\", \"action\": \x7b\"title\": \"Send\"\x7d, " ++
    "\"mapping\": null, \"events\": [1]\x7d"

/-- A configuration with a wrong destination, wrong settings and a blank label. -/
def faultyText : String :=
  "\x7b\"destination\": \"pigeon\", \"settings\": [], \"events\": [1], " ++
    "\"action\": \x7b\"title\": \"Send\", " ++
      "\"fields\": \x7b\"id\": \x7b\"label\": \" \"\x7d\x7d\x7d\x7d"

theorem plainText_loaded_faultyText_refused :
    (∀ outcome, outcome ∈ loadings "run.json" plainText →
      ∃ config, outcome = .ok config) ∧
    ∀ outcome, outcome ∈ loadings "run.json" faultyText →
      ∃ error, outcome = .error error ∧
        error.message = "Unknown destination 'pigeon' (available: webhook)" := by
  obtain ⟨together, _, _⟩ := loads_exactly_acceptable "run.json" plainText
  obtain ⟨_, accepts, reports⟩ := loads_exactly_acceptable "run.json" faultyText
  have first : ∀ text, loadText text ∈ loadings "run.json" text := fun _ =>
    List.mem_cons_self
  constructor
  · rcases together with ⟨config, loaded⟩ | refused
    · exact fun outcome member => ⟨config, loaded outcome member⟩
    · obtain ⟨error, failed⟩ := refused _ (first plainText)
      have loads : (loadText plainText).isOk = true := by decide +kernel
      rw [failed] at loads
      cases loads
  · have read : (ofText? faultyText).isSome = true := by decide +kernel
    have said : ((loadText faultyText).map fun _ => ()).mapError LoadError.message =
        .error "Unknown destination 'pigeon' (available: webhook)" := by
      decide +kernel
    obtain ⟨config, given⟩ := Option.isSome_iff_exists.mp read
    obtain ⟨value, described, decoded⟩ := ofText?_eq_some_iff.mp given
    have unacceptable : ¬ Acceptable value config := by
      intro acceptable
      have loaded := (accepts _ (first faultyText) config).mpr
        ⟨value, described, decoded, acceptable⟩
      rw [loaded] at said
      cases said
    obtain ⟨fault, _, refused⟩ := reports value config described decoded unacceptable
    obtain ⟨error, failed, sentence⟩ := refused _ (first faultyText)
    rw [failed, Except.map, Except.mapError, Except.error.injEq] at said
    rw [← said, sentence]
    exact refused

end RunConfig

end EventDelivery
