import EventDelivery.Action.Result
import EventDelivery.Proofs.FieldRereading
import EventDelivery.RunConfig.Basic
import EventDelivery.Webhook

/-!
# Values that are written and read again

What every type of the wire is read as after it has been written: as it was, but for
explicit nulls where a value may be left out, which are read as nothing, and for labels of
choices.
-/

namespace EventDelivery

/-- A type that is written as values and read from them. -/
structure WireForm (α : Type) where
  encode : α → Json
  decode : Json → Decoded α
  /-- The maps of fields inside are in order. -/
  Ordered : α → Prop := fun _ => True
  /-- Nothing that may be left out is an explicit null, and no choice has a label. -/
  Lossless : α → Prop := fun _ => True

/-- What is written can be read, and what is read is what was written exactly when nothing
is lost; what has been read once loses nothing. -/
structure WireForm.RoundTrips {α : Type} (form : WireForm α) : Prop where
  read : ∀ x, form.Ordered x →
    ∃ y, form.decode (form.encode x) = .ok y ∧ (y = x ↔ form.Lossless x)
  readAgain : ∀ value x, form.decode value = .ok x → form.decode (form.encode x) = .ok x

section

variable {α : Type} {encode : α → Json} {decode : Json → Decoded α}
  {Ordered Lossless : α → Prop}

/-- It suffices that writing and reading is described by a function that fixes what loses
nothing, and that only such is read. -/
theorem WireForm.roundTrips_of (reread : α → α)
    (decodes : ∀ x, Ordered x → decode (encode x) = .ok (reread x))
    (fixes : ∀ x, reread x = x ↔ Lossless x)
    (decoded : ∀ value x, decode value = .ok x → Ordered x ∧ Lossless x) :
    (WireForm.mk encode decode Ordered Lossless).RoundTrips where
  read x ordered := ⟨reread x, decodes x ordered, fixes x⟩
  readAgain value x reads := by
    obtain ⟨ordered, lossless⟩ := decoded value x reads
    exact (decodes x ordered).trans (congrArg Except.ok ((fixes x).mpr lossless))

/-- Where nothing can be lost it suffices that everything is read as it was. -/
theorem WireForm.roundTrips_of_exact (decodes : ∀ x, decode (encode x) = .ok x) :
    ({ encode, decode } : WireForm α).RoundTrips where
  read x _ := ⟨x, decodes x, by simp⟩
  readAgain _ x _ := decodes x

end

theorem RequestOptions.keyed_textsJson (texts : Keyed String) :
    Wire.keyed Wire.text (RequestOptions.textsJson texts) = .ok texts :=
  Wire.keyed_ok Wire.text_str texts

theorem Features.keyed_toJson (features : Features) :
    Wire.keyed Wire.flag features.toJson = .ok features :=
  Wire.keyed_ok Wire.flag_bool features

theorem AuthTokens.ofJson_toJson (tokens : AuthTokens) :
    AuthTokens.ofJson tokens.toJson = .ok tokens := by
  apply Record.decode_ofMembers
  intro given found
  rw [Record.required_eq_done _ (by simp [found]) (Wire.text_str tokens.accessToken),
    Record.optional_eq_done _ (by simp [found]) (Wire.text_str tokens.refreshToken)]
  rfl

theorem DynamicFieldItem.ofJson_toJson (item : DynamicFieldItem) :
    DynamicFieldItem.ofJson item.toJson = .ok item := by
  apply Record.decode_ofMembers
  intro given found
  rw [Record.required_eq_done _ (by simp [found]) (Wire.text_str item.label),
    Record.required_eq_done _ (by simp [found]) (Wire.text_str item.value)]
  rfl

theorem Problem.ofJson_toJson (title : String) (problem : Problem) :
    Problem.ofJson title problem.toJson = .ok problem := by
  rw [Problem.ofJson]
  apply Record.decode_ofMembers
  intro given found
  rw [Record.required_eq_done _ (by simp [found]) (Wire.text_str problem.message),
    Record.required_eq_done _ (by simp [found]) (Wire.text_str problem.code)]
  rfl

theorem DynamicFieldResponse.ofJson_toJson (response : DynamicFieldResponse) :
    DynamicFieldResponse.ofJson response.toJson = .ok response := by
  apply Record.decode_ofMembers
  intro given found
  simp only [Assoc.last?_append, Record.last?_present] at found
  have choices : Wire.list DynamicFieldItem.ofJson
      (.arr (response.choices.map DynamicFieldItem.toJson)) = .ok response.choices := by
    rw [Wire.list, Wire.decodeItems_ok _ _ id DynamicFieldItem.ofJson_toJson, List.map_id]
  have error : Assoc.get? "error" given = response.error.map Problem.toJson := by
    simp [found]
  rw [Record.required_eq_done _ (by simp [found]) choices,
    Record.optional_eq_done _ (by simp [found]) (Wire.text_str response.nextPage),
    Record.optional_of_present_self error fun problem =>
      Wire.nullable_ofMembers (problem.ofJson_toJson "DynamicFieldError")]
  rfl

theorem HookResponse.ofJson_toJson (response : HookResponse) :
    HookResponse.ofJson response.toJson = .ok response := by
  apply Record.decode_ofMembers
  intro given found
  simp only [Assoc.last?_append, Record.last?_present] at found
  have message : Assoc.get? "successMessage" given = response.successMessage.map .str := by
    simp [found]
  rw [Record.optional_of_present_self message Wire.nullable_text,
    Record.required_eq_done _ (by simp [found]) (Wire.any_ok response.savedData)]
  rfl

theorem HookResponse.not_ofJson_problem (problem : Problem) (response : HookResponse) :
    HookResponse.ofJson problem.toJson ≠ .ok response := by
  intro decoded
  rw [HookResponse.ofJson, Problem.toJson, Json.ofMembers, Record.decode] at decoded
  have done := Record.finish_eq_ok decoded
  simp only [Record.Reading.seq_eq_done_iff, Record.Reading.map_eq_done_iff] at done
  obtain ⟨_, _, _, savedData, _⟩ := done
  simp [Record.required, Record.given?, Record.missing, Assoc.get?_ofList] at savedData

theorem HookResult.ofJson_toJson (result : HookResult) :
    HookResult.ofJson result.toJson = .ok result := by
  cases result with
  | success response => simp [HookResult.ofJson, HookResult.toJson, response.ofJson_toJson]
  | failure problem =>
      rw [HookResult.ofJson, HookResult.toJson]
      split
      · rename_i response decoded
        exact absurd decoded (HookResponse.not_ofJson_problem problem response)
      · rw [problem.ofJson_toJson]

theorem WebhookSettings.ofJson_toJson (settings : WebhookSettings) :
    WebhookSettings.ofJson settings.toJson = .ok settings := by
  apply Record.decode_ofMembers
  intro given found
  have method : Wire.nullable Wire.text (.ofOption (settings.method.map .str)) =
      .ok settings.method := by
    cases settings.method <;> rfl
  rw [Record.required_eq_done _ (by simp [found]) (Wire.text_str settings.url),
    Record.optional_eq_done _ (by simp [found]) method,
    Record.optional_eq_done _ (by simp [found])
      (RequestOptions.keyed_textsJson settings.headers)]
  rfl

theorem RequestRecord.ofJson_toJson (request : RequestRecord) :
    RequestRecord.ofJson request.toJson = .ok request := by
  apply Record.decode_ofMembers
  intro given found
  simp only [Assoc.last?_append, Record.last?_present] at found
  have body : Assoc.get? "body" given = request.body.map .str := by simp [found]
  rw [Record.required_eq_done _ (by simp [found]) (Wire.text_str request.method),
    Record.required_eq_done _ (by simp [found]) (Wire.text_str request.url),
    Record.required_eq_done _ (by simp [found])
      (RequestOptions.keyed_textsJson request.headers),
    Record.optional_of_present_self body Wire.nullable_text]
  rfl

namespace ExecutionRecord

/-- The data of a step are no explicit null. -/
def Lossless (step : ExecutionRecord) : Prop := step.data ≠ some .null

def reread (step : ExecutionRecord) : ExecutionRecord :=
  { step with data := step.data.filter fun value => value ≠ .null }

theorem ofJson_toJson (step : ExecutionRecord) :
    ofJson step.toJson = .ok step.reread := by
  apply Record.decode_ofMembers
  intro given found
  simp only [Assoc.last?_append, Record.last?_present] at found
  have data : Assoc.get? "data" given = step.data := by simp [found]
  rw [Record.optional_any_of_present data,
    Record.required_eq_done _ (by simp [found]) (Wire.text_str step.output)]
  rfl

theorem reread_eq_self_iff (step : ExecutionRecord) :
    step.reread = step ↔ step.Lossless := by
  rw [Lossless, ← Json.filter_ne_null_eq_self_iff]
  obtain ⟨⟩ := step
  simp [reread]

theorem lossless_of_ofJson {value : Json} {step : ExecutionRecord}
    (decoded : ofJson value = .ok step) : step.Lossless := by
  obtain ⟨_, done, _⟩ := Record.exists_source_of_decode decoded
  simp only [Record.Reading.seq_eq_done_iff, Record.Reading.map_eq_done_iff] at done
  obtain ⟨_, _, ⟨_, data, rfl⟩, _, rfl⟩ := done
  exact Record.ne_null_of_optional_any data

end ExecutionRecord

namespace RequestOptions

/-- The JSON body is no explicit null. -/
def Lossless (options : RequestOptions) : Prop := options.json ≠ some .null

def reread (options : RequestOptions) : RequestOptions :=
  { options with json := options.json.filter fun value => value ≠ .null }

theorem optional_textsJson {given : List (String × Json)} {name : String}
    {texts : Keyed String}
    (found : Assoc.get? name given = if texts.isEmpty then none else some (textsJson texts)) :
    record.optional (.members given) name ∅ (Wire.keyed Wire.text) = .done texts := by
  cases empty : texts.isEmpty with
  | true =>
      have none : texts = ∅ := Keyed.ext (List.isEmpty_iff.mp empty)
      rw [none]
      exact Record.optional_eq_default (by simpa [empty] using found)
  | false =>
      exact Record.optional_eq_done _ (by simpa [empty] using found) (keyed_textsJson texts)

theorem ofJson_toJson (options : RequestOptions) :
    ofJson options.toJson = .ok options.reread := by
  apply Record.decode_ofMembers
  intro given found
  have left : ∀ (key name : String) (texts : Keyed String),
      Assoc.last? key (if texts.isEmpty then [] else [(name, textsJson texts)]) =
        if name = key then if texts.isEmpty then none else some (textsJson texts)
          else none := by
    intro key name texts
    cases texts.isEmpty <;> simp
  simp only [Assoc.last?_append, Record.last?_present, left] at found
  have method : Assoc.get? "method" given = options.method.map .str := by simp [found]
  have headers : Assoc.get? "headers" given =
      if options.headers.isEmpty then none else some (textsJson options.headers) := by
    simp [found]
  have json : Assoc.get? "json" given = options.json := by simp [found]
  have body : Assoc.get? "body" given = options.body.map .str := by simp [found]
  have searchParams : Assoc.get? "searchParams" given =
      if options.searchParams.isEmpty then none
        else some (textsJson options.searchParams) := by
    simp [found]
  have username : Assoc.get? "username" given = options.username.map .str := by
    simp [found]
  have password : Assoc.get? "password" given = options.password.map .str := by
    simp [found]
  have timeout : Assoc.get? "timeout" given =
      options.timeout.map fun wait => .ofNat wait.toNat := by
    simp [found]
  have throwing : Assoc.get? "throwHttpErrors" given =
      options.throwHttpErrors.map .bool := by
    simp [found]
  rw [Record.optional_of_present_self method Wire.nullable_text, optional_textsJson headers,
    Record.optional_any_of_present json,
    Record.optional_of_present_self body Wire.nullable_text, optional_textsJson searchParams,
    Record.optional_of_present_self username Wire.nullable_text,
    Record.optional_of_present_self password Wire.nullable_text,
    Record.optional_of_present_self timeout Wire.nullable_word64,
    Record.optional_of_present_self throwing Wire.nullable_flag]
  rfl

theorem reread_eq_self_iff (options : RequestOptions) :
    options.reread = options ↔ options.Lossless := by
  rw [Lossless, ← Json.filter_ne_null_eq_self_iff]
  obtain ⟨⟩ := options
  simp [reread]

theorem lossless_of_ofJson {value : Json} {options : RequestOptions}
    (decoded : ofJson value = .ok options) : options.Lossless := by
  obtain ⟨_, done, _⟩ := Record.exists_source_of_decode decoded
  simp only [Record.Reading.seq_eq_done_iff, Record.Reading.map_eq_done_iff] at done
  -- One reading is taken off after the other, the last member first.
  obtain ⟨_, _, ⟨_, _, ⟨_, _, ⟨_, _, ⟨_, _, ⟨_, _, ⟨_, _, ⟨_, _, ⟨_, _, rfl⟩, _, rfl⟩,
    json, rfl⟩, _, rfl⟩, _, rfl⟩, _, rfl⟩, _, rfl⟩, _, rfl⟩, _, rfl⟩ := done
  exact Record.ne_null_of_optional_any json

end RequestOptions

namespace Response

/-- Neither the data nor the body of the options is an explicit null. -/
def Lossless (response : Response) : Prop :=
  response.data ≠ some .null ∧
    ∀ options, response.options = some options → options.Lossless

def reread (response : Response) : Response :=
  { response with
    data := response.data.filter fun value => value ≠ .null
    options := response.options.map RequestOptions.reread }

theorem ofJson_toJson (response : Response) :
    ofJson response.toJson = .ok response.reread := by
  apply Record.decode_ofMembers
  intro given found
  simp only [Assoc.last?_append, Record.last?_present] at found
  have data : Assoc.get? "data" given = response.data := by simp [found]
  have request : Assoc.get? "request" given =
      response.request.map RequestRecord.toJson := by
    simp [found]
  have options : Assoc.get? "options" given =
      response.options.map RequestOptions.toJson := by
    simp [found]
  rw [Record.required_eq_done _ (by simp [found]) (Wire.word16_ofNat response.status),
    Record.required_eq_done _ (by simp [found]) (Wire.text_str response.statusText),
    Record.required_eq_done _ (by simp [found]) (Wire.text_str response.url),
    Record.required_eq_done _ (by simp [found])
      (RequestOptions.keyed_textsJson response.headers),
    Record.required_eq_done _ (by simp [found]) (Wire.text_str response.content),
    Record.optional_any_of_present data,
    Record.optional_of_present_self request fun request =>
      Wire.nullable_ofMembers request.ofJson_toJson,
    Record.optional_of_present RequestOptions.reread options fun options =>
      Wire.nullable_ofMembers options.ofJson_toJson]
  rfl

theorem reread_eq_self_iff (response : Response) :
    response.reread = response ↔ response.Lossless := by
  have options : response.options.map RequestOptions.reread = response.options ↔
      ∀ options, response.options = some options → options.Lossless := by
    cases response.options <;> simp [RequestOptions.reread_eq_self_iff]
  rw [Lossless, ← Json.filter_ne_null_eq_self_iff, ← options]
  obtain ⟨⟩ := response
  simp [reread]

theorem lossless_of_ofJson {value : Json} {response : Response}
    (decoded : ofJson value = .ok response) : response.Lossless := by
  obtain ⟨_, done, _⟩ := Record.exists_source_of_decode decoded
  simp only [Record.Reading.seq_eq_done_iff, Record.Reading.map_eq_done_iff] at done
  obtain ⟨_, _, ⟨_, _, ⟨_, _, ⟨_, _, ⟨_, _, ⟨_, _, ⟨_, _, ⟨_, _, rfl⟩, _, rfl⟩, _, rfl⟩,
    _, rfl⟩, _, rfl⟩, data, rfl⟩, _, rfl⟩, options, rfl⟩ := done
  refine ⟨Record.ne_null_of_optional_any data, ?_⟩
  rintro given rfl
  obtain ⟨_, decodedOptions⟩ := Record.exists_ok_of_optional_nullable options
  exact RequestOptions.lossless_of_ofJson decodedOptions

end Response

namespace ActionConfig

def reread (action : ActionConfig) : ActionConfig :=
  { action with fields := Field.rereadAll action.fields }

theorem ofJson_toJson (action : ActionConfig) (ordered : action.fields.Ordered) :
    ofJson action.toJson = .ok action.reread := by
  apply Record.decode_ofMembers
  intro given found
  rw [Record.required_eq_done _ (by simp [found]) (Wire.text_str action.title),
    Record.optional_eq_done _ (by simp [found]) (Wire.text_str action.description),
    Record.optional_eq_done _ (by simp [found]) (FieldMap.ofJson_toJson ordered)]
  rfl

theorem ordered_lossless_of_ofJson {value : Json} {action : ActionConfig}
    (decoded : ofJson value = .ok action) :
    action.fields.Ordered ∧ action.fields.Lossless := by
  obtain ⟨_, done, _⟩ := Record.exists_source_of_decode decoded
  simp only [Record.Reading.seq_eq_done_iff, Record.Reading.map_eq_done_iff] at done
  obtain ⟨_, _, ⟨_, _, ⟨_, _, rfl⟩, _, rfl⟩, fields, rfl⟩ := done
  rw [Record.optional_eq_done_iff] at fields
  split at fields
  · exact FieldMap.ordered_lossless_of_ofJson fields
  · subst fields
    exact ⟨⟨.nil, by simp⟩, by simp [FieldMap.Lossless]⟩

end ActionConfig

namespace RunConfig

/-- The fields of the action are in order. -/
def Ordered (config : RunConfig) : Prop := config.action.fields.Ordered

/-- The mapping is no explicit null, and nothing of the fields is lost. -/
def Lossless (config : RunConfig) : Prop :=
  config.mapping ≠ some .null ∧ config.action.fields.Lossless

def reread (config : RunConfig) : RunConfig :=
  { config with
    action := config.action.reread
    mapping := config.mapping.filter fun value => value ≠ .null }

theorem ofJson_toJson (config : RunConfig) (ordered : config.Ordered) :
    ofJson config.toJson = .ok config.reread := by
  apply Record.decode_ofMembers
  intro given found
  have mapping : Wire.nullable Wire.any (.ofOption config.mapping) =
      .ok (config.mapping.filter fun value => value ≠ .null) := by
    cases config.mapping with
    | none => rfl
    | some value => exact Wire.nullable_any value
  have events : Wire.list Wire.any (.arr config.events) = .ok config.events := by
    have decoded := Wire.decodeItems_ok Wire.any id id Wire.any_ok config.events
    rwa [List.map_id] at decoded
  have auth : Wire.nullable AuthTokens.ofJson
      (.ofOption (config.auth.map AuthTokens.toJson)) = .ok config.auth := by
    cases config.auth with
    | none => rfl
    | some tokens => exact Wire.nullable_ofMembers tokens.ofJson_toJson
  rw [Record.required_eq_done _ (by simp [found]) (Wire.text_str config.destination),
    Record.required_eq_done _ (by simp [found]) (config.action.ofJson_toJson ordered),
    Record.optional_eq_done _ (by simp [found]) (Wire.any_ok config.settings),
    Record.optional_eq_done _ (by simp [found]) mapping,
    Record.required_eq_done _ (by simp [found]) events,
    Record.optional_eq_done _ (by simp [found]) (Wire.flag_bool config.batch),
    Record.optional_eq_done _ (by simp [found]) auth,
    Record.optional_eq_done _ (by simp [found]) (Features.keyed_toJson config.features)]
  rfl

theorem reread_eq_self_iff (config : RunConfig) :
    config.reread = config ↔ config.Lossless := by
  rw [Lossless, ← Json.filter_ne_null_eq_self_iff, ← FieldMap.rereadAll_eq_self_iff]
  obtain ⟨_, ⟨⟩, _⟩ := config
  simp [reread, ActionConfig.reread, and_comm]

theorem ordered_lossless_of_ofJson {value : Json} {config : RunConfig}
    (decoded : ofJson value = .ok config) : config.Ordered ∧ config.Lossless := by
  obtain ⟨_, done, _⟩ := Record.exists_source_of_decode decoded
  simp only [Record.Reading.seq_eq_done_iff, Record.Reading.map_eq_done_iff] at done
  obtain ⟨_, _, ⟨_, _, ⟨_, _, ⟨_, _, ⟨_, _, ⟨_, _, ⟨_, _, ⟨_, _, rfl⟩, action, rfl⟩, _, rfl⟩,
    mapping, rfl⟩, _, rfl⟩, _, rfl⟩, _, rfl⟩, _, rfl⟩ := done
  obtain ⟨_, decodedAction⟩ := Record.exists_ok_of_required action
  obtain ⟨ordered, lossless⟩ := ActionConfig.ordered_lossless_of_ofJson decodedAction
  exact ⟨ordered, Record.ne_null_of_optional_any mapping, lossless⟩

end RunConfig

def HookResult.wire : WireForm HookResult where
  encode := toJson
  decode := ofJson

def DynamicFieldResponse.wire : WireForm DynamicFieldResponse where
  encode := toJson
  decode := ofJson

def RequestRecord.wire : WireForm RequestRecord where
  encode := toJson
  decode := ofJson

def AuthTokens.wire : WireForm AuthTokens where
  encode := toJson
  decode := ofJson

def WebhookSettings.wire : WireForm WebhookSettings where
  encode := toJson
  decode := ofJson

def ExecutionRecord.wire : WireForm ExecutionRecord where
  encode := toJson
  decode := ofJson
  Lossless := Lossless

def RequestOptions.wire : WireForm RequestOptions where
  encode := toJson
  decode := ofJson
  Lossless := Lossless

def Response.wire : WireForm Response where
  encode := toJson
  decode := ofJson
  Lossless := Lossless

def Field.wire : WireForm Field where
  encode := toJson
  decode := ofJson
  Ordered := Ordered
  Lossless := Lossless

def RunConfig.wire : WireForm RunConfig where
  encode := toJson
  decode := ofJson
  Ordered := Ordered
  Lossless := Lossless

/-- Every type of the wire is read as it was written exactly when it holds no explicit
null where a value may be left out, and no label; what has been read once is read as it
was.  The two kinds of results of hooks are never read as each other. -/
theorem WireForm.all_round_trip :
    HookResult.wire.RoundTrips ∧
    DynamicFieldResponse.wire.RoundTrips ∧
    RequestRecord.wire.RoundTrips ∧
    AuthTokens.wire.RoundTrips ∧
    WebhookSettings.wire.RoundTrips ∧
    ExecutionRecord.wire.RoundTrips ∧
    RequestOptions.wire.RoundTrips ∧
    Response.wire.RoundTrips ∧
    Field.wire.RoundTrips ∧
    RunConfig.wire.RoundTrips ∧
    ∀ response problem,
      HookResult.ofJson (HookResult.success response).toJson ≠ .ok (.failure problem) ∧
      HookResult.ofJson (HookResult.failure problem).toJson ≠ .ok (.success response) := by
  refine ⟨roundTrips_of_exact HookResult.ofJson_toJson,
    roundTrips_of_exact DynamicFieldResponse.ofJson_toJson,
    roundTrips_of_exact RequestRecord.ofJson_toJson,
    roundTrips_of_exact AuthTokens.ofJson_toJson,
    roundTrips_of_exact WebhookSettings.ofJson_toJson, ?steps, ?options, ?responses, ?fields,
    ?runs, ?hooks⟩
  case steps =>
    exact roundTrips_of ExecutionRecord.reread (fun step _ => step.ofJson_toJson)
      ExecutionRecord.reread_eq_self_iff
      fun _ _ decoded => ⟨trivial, ExecutionRecord.lossless_of_ofJson decoded⟩
  case options =>
    exact roundTrips_of RequestOptions.reread (fun options _ => options.ofJson_toJson)
      RequestOptions.reread_eq_self_iff
      fun _ _ decoded => ⟨trivial, RequestOptions.lossless_of_ofJson decoded⟩
  case responses =>
    exact roundTrips_of Response.reread (fun response _ => response.ofJson_toJson)
      Response.reread_eq_self_iff
      fun _ _ decoded => ⟨trivial, Response.lossless_of_ofJson decoded⟩
  case fields =>
    exact roundTrips_of Field.reread Field.ofJson_toJson Field.reread_eq_self_iff
      fun definition field decoded => field.ordered_lossless_of_ofJson definition decoded
  case runs =>
    exact roundTrips_of RunConfig.reread RunConfig.ofJson_toJson
      RunConfig.reread_eq_self_iff
      fun _ _ decoded => RunConfig.ordered_lossless_of_ofJson decoded
  case hooks =>
    intro response problem
    simp [HookResult.ofJson_toJson]

/-- A run whose action has the account among its fields, with a label on a choice inside. -/
def accountRun : RunConfig where
  destination := "webhook"
  action := { title := "Open account", fields := accountFields }
  events := [.null]

theorem accountRun_read_without_label :
    accountRun.Ordered ∧
    ∃ read, RunConfig.ofJson accountRun.toJson = .ok read ∧ read ≠ accountRun ∧
      RunConfig.ofJson read.toJson = .ok read := by
  obtain ⟨_, _, _, _, _, _, _, _, _, runs, _⟩ := WireForm.all_round_trip
  have ordered : accountRun.Ordered := by
    refine ⟨by decide, (Field.allOrdered_iff accountFields).mp ?_⟩
    exact ⟨⟨by decide, trivial, trivial⟩, trivial⟩
  have labeled : ¬ accountRun.Lossless := by
    rintro ⟨_, lossless⟩
    have account := lossless "account" _ List.mem_cons_self
    have plan := ((Field.lossless_iff _).mp account).2.2 "plan" _ List.mem_cons_self
    exact ((Field.lossless_iff _).mp plan).2.1 _ rfl _ List.mem_cons_self
  have reads := runs.read accountRun ordered
  have readsAgain := runs.readAgain
  simp only [RunConfig.wire] at reads readsAgain
  obtain ⟨read, decoded, same⟩ := reads
  exact ⟨ordered, read, decoded, fun equal => labeled (same.mp equal),
    readsAgain _ _ decoded⟩

end EventDelivery
