import EventDelivery.Proofs.DryRun
import EventDelivery.Proofs.RequestHeaders
import EventDelivery.Proofs.ResponseAccounting

/-!
# The headers of a webhook

A webhook sends the headers of its settings, over the bearer of the access token, and
the type of its body under both.  Each name is sent once, in small letters, however
often and in whatever case the settings spell it.
-/

namespace EventDelivery

namespace Webhook

/-- The text that is sent under a name, and where it comes from. -/
inductive HeaderText (settings : WebhookSettings) (auth : Option AuthTokens)
    (name : String) : String → Prop where
  | configured {value : String} :
      settings.headers.Decides name value →
      HeaderText settings auth name value
  | bearer {tokens : AuthTokens} :
      (∀ header, header ∈ settings.headers.entries → ¬ Text.SameButCase header.1 name) →
      name = "authorization" → auth = some tokens →
      HeaderText settings auth name ("Bearer " ++ tokens.accessToken)
  | bodyType :
      (∀ header, header ∈ settings.headers.entries → ¬ Text.SameButCase header.1 name) →
      name = "content-type" →
      HeaderText settings auth name "application/json"

/-- What is promised of the headers of a message. -/
structure Headed (settings : WebhookSettings) (auth : Option AuthTokens)
    (message : Message) : Prop where
  small : ∀ header, header ∈ message.headers → Text.lower header.1 = header.1
  once : (message.headers.map Prod.fst).Nodup
  resolved : ∀ name, Text.lower name = name → ∀ value,
    (name, value) ∈ message.headers ↔
      ∃ text, HeaderText settings auth name text ∧ value = PreparedRequest.octets text

/-- The header that shows an access token. -/
def bearer (auth : Option AuthTokens) : Keyed String :=
  match auth with
  | some tokens => Keyed.empty.insert "authorization" ("Bearer " ++ tokens.accessToken)
  | none => ∅

theorem get?_bearer (auth : Option AuthTokens) (name : String) :
    Assoc.get? name (bearer auth).entries =
      if name = "authorization" then
        auth.map fun tokens => "Bearer " ++ tokens.accessToken
      else none := by
  cases auth with
  | none => simp [bearer, Assoc.get?, EmptyCollection.emptyCollection, Keyed.empty]
  | some tokens =>
      simp [bearer, Keyed.insert, Assoc.get?_insert, Keyed.empty, Assoc.get?, eq_comm]

theorem foldl_setHeader (entries : List (String × String)) (start : RequestOptions) :
    entries.foldl (fun options header => options.setHeader header.1 header.2) start =
      { start with
        headers := start.headers.insertAll
          (entries.map fun header => (Text.lower header.1, header.2)) } := by
  induction entries generalizing start with
  | nil => rfl
  | cons header rest induction =>
      rw [List.foldl_cons, induction]
      rfl

/-- The options of all requests are the headers of the settings over the bearer. -/
theorem extension_eq {input : ExtensionInput} {settings : WebhookSettings}
    (decoded : WebhookSettings.ofJson input.settings = .ok settings) :
    extension input =
      { headers := (bearer input.auth).insertAll
          (RequestOptions.lowerHeaders settings.headers) } := by
  unfold extension
  rw [decoded]
  cases input.auth <;> exact foldl_setHeader _ _

section Delivery

variable {input : ExtensionInput} {settings : WebhookSettings} {name : String}

theorem get?_extension_headers
    (decoded : WebhookSettings.ofJson input.settings = .ok settings) (name : String) :
    Assoc.get? name (extension input).headers.entries =
      (Assoc.last? name (RequestOptions.lowerHeaders settings.headers)).or
        (if name = "authorization" then
          input.auth.map fun tokens => "Bearer " ++ tokens.accessToken
        else none) := by
  rw [extension_eq decoded, Keyed.insertAll, Assoc.get?_insertAll, get?_bearer]

theorem lower_name_of_mem_extension
    (decoded : WebhookSettings.ofJson input.settings = .ok settings)
    {header : String × String} (member : header ∈ (extension input).headers.entries) :
    Text.lower header.1 = header.1 := by
  obtain ⟨name, value⟩ := header
  have found := (Assoc.get?_eq_some_iff (extension input).headers.sorted).mpr member
  rw [get?_extension_headers decoded, Option.or_eq_some_iff] at found
  rcases found with configured | ⟨_, bearing⟩
  · exact RequestOptions.lower_of_last?_lowerHeaders configured
  · split at bearing
    · rename_i same
      simp only [same]
      decide
    · cases bearing

theorem get?_delivery_headers
    (decoded : WebhookSettings.ofJson input.settings = .ok settings) (body : Json)
    (name : String) :
    Assoc.get? name
        ((extension input).merge (delivery settings body)).wireHeaders.entries =
      ((Assoc.last? name (RequestOptions.lowerHeaders settings.headers)).or
        (if name = "authorization" then
          input.auth.map fun tokens => "Bearer " ++ tokens.accessToken
        else none)).or
        (if name = "content-type" then some "application/json" else none) := by
  -- the request itself has no headers, and those below it are in small letters
  have nothing : RequestOptions.lowerHeaders (delivery settings body).headers = [] := rfl
  have typed : ((extension input).merge (delivery settings body)).json.isSome = true := rfl
  rw [RequestOptions.get?_wireHeaders, RequestOptions.get?_merge_headers, nothing,
    Assoc.last?_nil, Option.none_or,
    RequestOptions.lowerHeaders_eq_entries fun _ => lower_name_of_mem_extension decoded,
    Assoc.last?_eq_get? (extension input).headers.sorted, get?_extension_headers decoded]
  simp only [typed, true_and]

/-- What goes with a delivery is what the settings, the authorization and the type of
the body say, in this order. -/
theorem get?_delivery_headers_eq_some_iff
    (decoded : WebhookSettings.ofJson input.settings = .ok settings) (body : Json)
    (small : Text.lower name = name) {text : String} :
    Assoc.get? name
        ((extension input).merge (delivery settings body)).wireHeaders.entries =
          some text ↔
      HeaderText settings input.auth name text := by
  rw [get?_delivery_headers decoded]
  cases configured : Assoc.last? name (RequestOptions.lowerHeaders settings.headers) with
  | some value =>
      -- the settings spell the name, so neither of the others is asked
      have decides :=
        (RequestOptions.last?_lowerHeaders_eq_some_iff small).mp configured
      obtain ⟨spelling, held, same, _⟩ := id decides
      simp only [Option.some_or, Option.some.injEq]
      constructor
      · rintro rfl
        exact .configured decides
      · rintro (other | ⟨missing, _, _⟩ | ⟨missing, _⟩)
        · rw [← RequestOptions.last?_lowerHeaders_eq_some_iff small, configured] at other
          exact Option.some.inj other
        · exact (missing _ held same).elim
        · exact (missing _ held same).elim
  | none =>
      have missing := (RequestOptions.last?_lowerHeaders_eq_none_iff small).mp configured
      simp only [Option.none_or, Option.or_eq_some_iff]
      constructor
      · rintro (shown | ⟨_, typed⟩)
        · split at shown
          · rename_i same
            obtain ⟨tokens, given, rfl⟩ := Option.map_eq_some_iff.mp shown
            exact .bearer missing same given
          · cases shown
        · split at typed
          · rename_i same
            cases typed
            exact .bodyType missing same
          · cases typed
      · rintro (⟨spelling, held, same, _⟩ | ⟨_, rfl, given⟩ | ⟨_, rfl⟩)
        · exact (missing _ held same).elim
        · simp [given]
        · simp

end Delivery

/-- What reaches the wire in a call of the action was sent by its function, with the
options that the extension makes. -/
theorem delivers_of_sent {title description : String} {fields : FieldMap}
    {action : Action} (definition : action.definition =
      sendAction title description fields false)
    {transport : Transport} {operation : Operation} {message : Message}
    (sent : message ∈ messages (action.operate transport operation).events) :
    ∃ (client : Client) (world : World) (body : Json), client.hooks = [Hook.publish] ∧
      client.defaults = action.defaults operation ∧
      message ∈ messages
        ((deliver false operation.settings body).run client world).events := by
  by_cases idle : ∀ α β (function : Function α β) input,
      ¬ action.Engages operation α β function input
  · have own := (Action.operate_of_not_engages idle transport).1
    simp [own.messages_eq_nil] at sent
  · simp only [not_forall, not_not] at idle
    obtain ⟨α, β, function, input, engaged⟩ := idle
    obtain ⟨before, own, events, _⟩ := engaged.operate_eq transport
    obtain ⟨defaults, _, _⟩ := engaged.client_eq
    rw [events, messages_append, own.messages_eq_nil, List.nil_append] at sent
    refine ⟨action.client input, { transport, transaction := input.context.transaction },
      ?_⟩
    cases engaged with
    | @perform bundle _ payload supported _ =>
        rw [definition] at supported
        cases supported
        exact ⟨payload, rfl, defaults, sent⟩
    | @performBatch bundle _ mapped supported _ _ =>
        rw [definition] at supported
        cases supported
        exact ⟨.arr (action.kept mapped), rfl, defaults, sent⟩
    | dynamicField known =>
        rw [definition] at known
        cases known
    | hook supported _ _ =>
        rw [definition] at supported
        cases supported

/-- A delivery to a URL that names no user has the headers that are promised. -/
theorem headed_of_prepare {input : ExtensionInput} {settings : WebhookSettings}
    {body : Json} {prepared : PreparedRequest}
    (decoded : WebhookSettings.ofJson input.settings = .ok settings)
    (done : PreparedRequest.prepare ((extension input).merge (delivery settings body))
      settings.url = .ok prepared)
    (nameless : prepared.url.username = "") (wordless : prepared.url.password = none) :
    Headed settings input.auth prepared.message := by
  have lines : prepared.message.headers =
      (((extension input).merge (delivery settings body)).wireHeaders.entries.map
        fun header => (header.1, PreparedRequest.octets header.2)) := by
    have anonymous : prepared.options.user? = none := by
      rw [PreparedRequest.options_of_prepare done, extension_eq decoded]
      rfl
    rw [PreparedRequest.message_eq, anonymous,
      PreparedRequest.urlUser?_eq_none nameless wordless,
      PreparedRequest.map_headerLine_headers done,
      PreparedRequest.headers_of_prepare done]
    exact List.append_nil _
  constructor
  · intro header member
    rw [lines] at member
    obtain ⟨recorded, held, rfl⟩ := List.mem_map.mp member
    exact RequestOptions.lower_name_of_mem_wireHeaders held
  · rw [lines, List.map_map]
    exact Assoc.nodup_keys (Keyed.sorted _)
  · intro name small value
    simp only [lines, List.mem_map, Prod.mk.injEq, Prod.exists,
      ← Assoc.get?_eq_some_iff (Keyed.sorted _)]
    constructor
    · rintro ⟨_, text, found, rfl, rfl⟩
      exact ⟨text, (get?_delivery_headers_eq_some_iff decoded body small).mp found, rfl⟩
    · rintro ⟨text, resolved, rfl⟩
      exact ⟨name, text,
        (get?_delivery_headers_eq_some_iff decoded body small).mpr resolved, rfl, rfl⟩

/-- Whenever a call of the live action reaches the wire, the settings decode, and unless
their URL names a user, the headers are those of the settings, the authorization and the
type of the body, each once and under a name in small letters. -/
theorem headers_resolved {title description : String} {fields : FieldMap}
    {action : Action}
    (built : (builder (sendAction title description fields false)).build = .ok action)
    (transport : Transport) (operation : Operation) {message : Message}
    (sent : message ∈ messages (action.operate transport operation).events) :
    ∃ settings parsed, WebhookSettings.ofJson operation.settings = .ok settings ∧
      Url.parse settings.url = .ok parsed ∧
      (parsed.username = "" → parsed.password = none →
        Headed settings operation.context.auth message) := by
  obtain ⟨_, _, _, rfl⟩ := ActionBuilder.eq_of_build built
  obtain ⟨client, world, body, publishing, defaults, delivered⟩ :=
    delivers_of_sent rfl sent
  obtain ⟨_, settings, prepared, decoded, done, rfl⟩ :=
    prepared_of_deliver_live publishing operation.settings body world delivered
  rw [defaults] at done
  obtain ⟨parsed, read, _, asked⟩ := PreparedRequest.prepare_eq_ok_iff.mp done
  refine ⟨settings, parsed, decoded, read, ?_⟩
  intro nameless wordless
  apply @headed_of_prepare ⟨operation.settings, _, operation.context.auth⟩ settings body
    prepared decoded done
  · simp [← asked, PreparedRequest.asking, nameless]
  · simp [← asked, PreparedRequest.asking, wordless]

def keySettings : WebhookSettings where
  url := "https://[::1]/in"
  headers := .ofList [("X-KEY", "first"), ("x-key", "last")]

/-- The notice, delivered with these settings and an authorization. -/
def keyNotice : Operation :=
  .execute { noticeBundle with
    settings := keySettings.toJson
    context := { auth := some ⟨"secret", ""⟩ } }

theorem keyNotice_headed :
    ∃ live message,
      (builder (sendAction "Send" "" noticeFields false)).build = .ok live ∧
        messages (live.operate (.scripted []) keyNotice).events = [message] ∧
        Headed keySettings (some ⟨"secret", ""⟩) message ∧
        message.headers.map Prod.fst = ["authorization", "content-type", "x-key"] ∧
        ∀ text, HeaderText keySettings (some ⟨"secret", ""⟩) "x-key" text →
          PreparedRequest.octets text = PreparedRequest.octets "last" := by
  have sent : (builder (sendAction "Send" "" noticeFields false)).build.toOption.map
      (fun live => (messages (live.operate (.scripted []) keyNotice).events).map
        Message.headers) =
      some [[("authorization", PreparedRequest.octets "Bearer secret"),
        ("content-type", PreparedRequest.octets "application/json"),
        ("x-key", PreparedRequest.octets "last")]] := by
    decide +kernel
  cases built : (builder (sendAction "Send" "" noticeFields false)).build with
  | error error => simp [built, Except.toOption] at sent
  | ok live =>
      rw [built, Except.toOption, Option.map_some, Option.some.injEq,
        List.map_eq_singleton_iff] at sent
      obtain ⟨message, one, headers⟩ := sent
      have member : message ∈ messages (live.operate (.scripted []) keyNotice).events := by
        simp [one]
      obtain ⟨settings, parsed, decoded, read, headed⟩ :=
        headers_resolved built (.scripted []) keyNotice member
      have known : WebhookSettings.ofJson keyNotice.settings = .ok keySettings := by
        decide +kernel
      have plain : (Url.parse keySettings.url).toOption.map
          (fun url => (url.username, url.password)) = some ("", none) := by
        decide +kernel
      cases Except.ok.inj (known.symm.trans decoded)
      rw [read, Except.toOption, Option.map_some, Option.some.injEq, Prod.mk.injEq] at plain
      have promised := headed plain.1 plain.2
      refine ⟨live, message, rfl, one, promised, by rw [headers]; rfl, ?_⟩
      intro text resolved
      have held := (promised.resolved "x-key" (by decide) _).mpr ⟨text, resolved, rfl⟩
      rw [headers] at held
      simpa using held

end Webhook

end EventDelivery
