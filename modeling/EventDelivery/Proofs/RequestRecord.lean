import EventDelivery.Proofs.RequestAnswers
import EventDelivery.Proofs.RequestBody
import EventDelivery.Proofs.RequestHeaders

/-!
# What the record of a request tells

The record of a request and its message are put together apart from each other.  They
agree in method, body and URL, and every header line is that of the record, or shows
the user that the URL or the options name.
-/

namespace EventDelivery

namespace Text

/-- A character that has been started ends, if only as one that cannot be read. -/
theorem readOctets_some_ne_nil (started : Partial) (octets : List UInt8) :
    readOctets (some started) octets ≠ [] := by
  induction octets generalizing started with
  | nil => simp [readOctets]
  | cons octet rest induction =>
      unfold readOctets
      split
      · dsimp only
        split
        · simp
        · exact induction _
      · simp

theorem readOctets_none_eq_nil_iff {octets : List UInt8} :
    readOctets none octets = [] ↔ octets = [] := by
  cases octets with
  | nil => simp [readOctets]
  | cons octet rest =>
      have read : readOctets none (octet :: rest) ≠ [] := by
        unfold readOctets
        split
        · simp
        · exact readOctets_some_ne_nil _ _
        · simp
      simp [read]

private theorem decodeUtf8?_eq_some_nil_iff {octets : List UInt8} :
    decodeUtf8? octets = some [] ↔ octets = [] := by
  rw [← readOctets_none_eq_nil_iff, decodeUtf8?]
  cases readOctets none octets with
  | nil => simp
  | cons first rest => simp [Option.bind_eq_some_iff]

end Text

namespace Percent

private theorem decode_eq_nil_iff {cs : List Char} : decode cs = [] ↔ cs = [] := by
  unfold decode
  split
  · split <;> simp
  · simp [Text.utf8_ne_nil]
  · simp

/-- The text that escapes stand for. -/
def text? (escaped : String) : Option String :=
  (Text.decodeUtf8? (decode escaped.toList)).map String.ofList

private theorem text?_eq_some_empty_iff {escaped : String} :
    text? escaped = some "" ↔ escaped = "" := by
  have empty : ∀ cs, String.ofList cs = "" ↔ cs = [] := by simp
  simp only [text?, Option.map_eq_some_iff, empty, exists_eq_right,
    Text.decodeUtf8?_eq_some_nil_iff, decode_eq_nil_iff, String.toList_eq_nil_iff]

end Percent

namespace Url

/-- The user that a URL names, in plain text.  A password that cannot be read beside a
user name is none. -/
inductive Shows (url : Url) : Option (String × Option String) → Prop where
  | nobody : url.username = "" → url.password = none → Shows url none
  | user {username : String} :
      url.username ≠ "" ∨ url.password ≠ none →
      Percent.text? url.username = some username →
      Shows url (some (username, url.password.bind Percent.text?))

/-- Clients turn the user of a URL into a header if its name can be read, and its
password where the name is empty.  Otherwise they say nothing of the user. -/
structure UserIsReadable (url : Url) : Prop where
  name : (Percent.text? url.username).isSome = true
  word : url.username = "" → ∀ password, url.password = some password →
    (Percent.text? password).isSome = true

end Url

namespace PreparedRequest

private theorem urlUser?_eq (url : Url) :
    urlUser? url = (Percent.text? url.username).bind fun username =>
      if username.isEmpty ∧ (url.password.bind Percent.text?).isNone then none
      else some (username, url.password.bind Percent.text?) := rfl

private theorem urlUser?_appendPairs (url : Url) (pairs : List (String × String)) :
    urlUser? (url.appendPairs pairs) = urlUser? url := by
  simp [urlUser?_eq]

/-- The user of a URL is taken out of it where it can be read. -/
theorem shows_urlUser? {url : Url} (readable : url.UserIsReadable) :
    url.Shows (urlUser? url) := by
  obtain ⟨username, read⟩ := Option.isSome_iff_exists.mp readable.name
  rw [urlUser?_eq, read, Option.bind_some]
  -- without a user name only a password that can be read makes a user
  by_cases empty : url.username = ""
  · have unnamed : username = "" := by
      have stands := Percent.text?_eq_some_empty_iff.mpr empty
      exact Option.some.inj (read.symm.trans stands)
    subst unnamed
    cases given : url.password with
    | none => exact .nobody empty given
    | some password =>
        obtain ⟨word, readWord⟩ :=
          Option.isSome_iff_exists.mp (readable.word empty password given)
        have shown : url.Shows (some ("", url.password.bind Percent.text?)) :=
          .user (.inr (by simp [given])) read
        simpa [given, readWord] using shown
  · have named : username ≠ "" := by
      rintro rfl
      exact empty (Percent.text?_eq_some_empty_iff.mp read)
    have shown : url.Shows (some (username, url.password.bind Percent.text?)) :=
      .user (.inl empty) read
    simpa [named] using shown

theorem readable_of_urlUser? {url : Url} {user : String × Option String}
    (found : urlUser? url = some user) : url.UserIsReadable := by
  rw [urlUser?_eq, Option.bind_eq_some_iff] at found
  obtain ⟨username, read, shown⟩ := found
  constructor
  · simp [read]
  · intro empty password given
    have unnamed : username = "" :=
      Option.some.inj (read.symm.trans (Percent.text?_eq_some_empty_iff.mpr empty))
    split at shown
    · cases shown
    · rename_i named
      simpa [unnamed, given, Option.isSome_iff_ne_none] using named

end PreparedRequest

/-- The record tells what a message says of a URL and of users. -/
structure RequestRecord.Tells (record : RequestRecord) (target : Url)
    (users : List (String × Option String)) (message : Message) : Prop where
  method : message.method = record.method
  /-- A request without a body sends an empty one. -/
  body : message.body = record.body.getD ""
  url : record.url = target.toText
  target : message.target = target.withoutUser.withoutFragment.toText
  small : ∀ header, header ∈ record.headers.entries → Text.lower header.1 = header.1
  once : (record.headers.entries.map Prod.fst).Nodup
  lines : message.headers.Perm
    ((record.headers.entries.map fun header =>
        (header.1, PreparedRequest.octets header.2)) ++
      users.map fun user => ("authorization", PreparedRequest.basic user.1 user.2))

theorem PreparedRequest.tells_message {lower upper : RequestOptions} {url : String}
    {parsed : Url} {prepared : PreparedRequest}
    (done : prepare (lower.merge upper) url = .ok prepared)
    (asked : asking (lower.merge upper) parsed = prepared) :
    prepared.record.Tells (parsed.appendPairs (lower.merge upper).searchParams.entries)
      ((urlUser? parsed).toList ++ (lower.merge upper).user?.toList) prepared.message := by
  have extended : prepared.url =
      parsed.appendPairs (lower.merge upper).searchParams.entries := by rw [← asked, asking]
  have user : urlUser? prepared.url = urlUser? parsed := by
    rw [extended, urlUser?_appendPairs]
  have layered := options_of_prepare done
  rw [message_eq]
  constructor
  · rfl
  · rfl
  · rw [record, extended]
  · rw [extended]
  · intro header member
    exact lower_name_of_mem_headers done member
  · exact Assoc.nodup_keys prepared.headers.sorted
  · -- the line for the user of the URL comes before those of the record
    simp only [record, map_headerLine_headers done, user, layered, List.map_append,
      ← List.append_assoc]
    exact List.perm_append_comm.append_right _

namespace Client

variable {client : Client} {url : String} {options : RequestOptions}
  {transport : Transport} {message : Message}

/-- A request that reaches the wire sends what its record tells, and a line for each
user that the URL or the options name; and this is the record that goes with the
answer.  The user of the URL is the one that the URL shows, if it can be read; otherwise
there is no line for it. -/
theorem record_tells_message
    (sends : client.Sends url options transport message) :
    let layered := client.defaults.merge options
    ∃ parsed prepared user, Url.parse url = .ok parsed ∧
      PreparedRequest.prepare layered url = .ok prepared ∧
      (∀ result answer,
        Attempt.answer? client.defaults ⟨url, options, transport, result⟩ = some answer →
          answer.prepared.record = prepared.record) ∧
      prepared.record.Tells (parsed.appendPairs layered.searchParams.entries)
        (user.toList ++ layered.user?.toList) message ∧
      (parsed.UserIsReadable → parsed.Shows user) ∧
      (¬ parsed.UserIsReadable → user = none) := by
  intro layered
  obtain ⟨prepared, done, _, _, rfl⟩ := sends_iff.mp sends
  obtain ⟨parsed, read, _, asked⟩ := PreparedRequest.prepare_eq_ok_iff.mp done
  refine ⟨parsed, prepared, PreparedRequest.urlUser? parsed, read, done, ?_,
    PreparedRequest.tells_message done asked, PreparedRequest.shows_urlUser?, ?_⟩
  · intro result answer found
    obtain ⟨_, again, _⟩ := Attempt.answer?_eq_some found
    rw [Except.ok.inj (again.symm.trans done)]
  · intro unreadable
    by_contra found
    obtain ⟨user, found⟩ := Option.ne_none_iff_exists'.mp found
    exact unreadable (PreparedRequest.readable_of_urlUser? found)

def namedClient : Client where
  defaults := { headers := .ofList [("X-Source", "kit")], username := some "kit" }

def namingUrl : String := "https://ada:open%20it@[::1]/in?a=1#top"

def namedOptions : RequestOptions where
  headers := .ofList [("x-source", "call")]
  json := some (.arr [])
  searchParams := .ofList [("q", "2")]

theorem named_request_tells :
    ∃ message record target,
      namedClient.Sends namingUrl namedOptions (.scripted []) message ∧
      RequestRecord.Tells record target [("ada", some "open it"), ("kit", none)] message ∧
      record.headers.entries =
        [("content-type", "application/json"), ("x-source", "call")] ∧
      record.url = "https://ada:open%20it@[::1]/in?a=1&q=2#top" ∧
      message.target = "https://[::1]/in?a=1&q=2" := by
  have sends : namedClient.Sends namingUrl namedOptions (.scripted []) _ := rfl
  obtain ⟨parsed, prepared, user, read, done, _, told, readable, _⟩ :=
    record_tells_message sends
  have named : (Url.parse namingUrl).toOption.map
      (fun url => (url.username, url.password)) = some ("ada", some "open%20it") := by
    decide +kernel
  have recorded : (PreparedRequest.prepare (namedClient.defaults.merge namedOptions)
      namingUrl).toOption.map
        (fun prepared => (prepared.record.headers.entries, prepared.record.url)) =
      some ([("content-type", "application/json"), ("x-source", "call")],
        "https://ada:open%20it@[::1]/in?a=1&q=2#top") := by
    decide +kernel
  rw [read, Except.toOption, Option.map_some, Option.some.injEq, Prod.mk.injEq] at named
  rw [done, Except.toOption, Option.map_some, Option.some.injEq, Prod.mk.injEq] at recorded
  obtain ⟨name, word⟩ := named
  have readName : Percent.text? "ada" = some "ada" := by decide +kernel
  have readWord : Percent.text? "open%20it" = some "open it" := by decide +kernel
  have shows : parsed.Shows user := by
    refine readable ⟨by rw [name, readName]; rfl, ?_⟩
    intro nameless
    simp [name] at nameless
  have shown : user = some ("ada", some "open it") := by
    cases shows with
    | nobody nameless _ => simp [name] at nameless
    | user _ read =>
        rw [name, readName] at read
        cases read
        rw [word, Option.bind_some, readWord]
  subst shown
  exact ⟨_, prepared.record, _, sends, told, recorded.1, recorded.2, rfl⟩

end Client

end EventDelivery
