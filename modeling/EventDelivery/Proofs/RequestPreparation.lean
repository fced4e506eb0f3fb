import EventDelivery.Http.Message
import EventDelivery.Proofs.AssocLookup

/-!
# Preparing requests

A request is prepared from options and a URL that can be read, if its method is a
token, and it can be sent if its host, its scheme and its headers can be.  What the
options hold decides everything but the parts of the URL.
-/

namespace EventDelivery

namespace RequestOptions

theorem get?_merge_headers (lower upper : RequestOptions) (name : String) :
    Assoc.get? name (lower.merge upper).headers.entries =
      (Assoc.last? name (lowerHeaders upper.headers)).or
        (Assoc.last? name (lowerHeaders lower.headers)) := by
  simp [merge, Keyed.insertAll, Keyed.ofList, Assoc.get?_insertAll, Keyed.empty, Assoc.get?]

/-- The headers that go with options of all layers. -/
def wireHeaders (options : RequestOptions) : Keyed String :=
  match options.json, options.headers.get? "content-type" with
  | some _, none => options.headers.insert "content-type" "application/json"
  | _, _ => options.headers

/-- The body that goes with options of all layers. -/
def wireBody? (options : RequestOptions) : Option String :=
  match options.json with
  | some json => some json.compact
  | none => options.body

/-- With a JSON body goes its type, unless the options say another. -/
theorem get?_wireHeaders (options : RequestOptions) (name : String) :
    Assoc.get? name options.wireHeaders.entries =
      (Assoc.get? name options.headers.entries).or
        (if options.json.isSome ∧ name = "content-type" then some "application/json"
          else none) := by
  unfold wireHeaders
  split
  · rename_i given unset
    rw [Keyed.insert, Assoc.get?_insert, given]
    by_cases same : "content-type" = name
    · subst same
      rw [Keyed.get?] at unset
      simp [unset]
    · simp [same, Ne.symm same]
  · rename_i other
    by_cases typed : options.json.isSome ∧ name = "content-type"
    · obtain ⟨given, rfl⟩ := typed
      obtain ⟨json, given⟩ := Option.isSome_iff_exists.mp given
      cases known : Assoc.get? "content-type" options.headers.entries with
      | none => exact absurd known (other json given)
      | some value => rfl
    · rw [if_neg typed, Option.or_none]

theorem mem_wireHeaders_of_mem {options : RequestOptions} {header : String × String}
    (member : header ∈ options.headers.entries) :
    header ∈ options.wireHeaders.entries := by
  obtain ⟨name, value⟩ := header
  have found := (Assoc.get?_eq_some_iff options.headers.sorted).mpr member
  apply Assoc.mem_of_get?_eq_some
  rw [get?_wireHeaders, found, Option.some_or]

theorem mem_of_mem_wireHeaders {options : RequestOptions} {header : String × String}
    (member : header ∈ options.wireHeaders.entries) :
    header ∈ options.headers.entries ∨ header = ("content-type", "application/json") := by
  unfold wireHeaders at member
  split at member
  · exact (Assoc.mem_insert member).symm
  · exact .inl member

end RequestOptions

namespace Url

@[simp] theorem appendPairs_host (url : Url) (pairs : List (String × String)) :
    (url.appendPairs pairs).host = url.host := by
  unfold appendPairs
  split <;> rfl

@[simp] theorem appendPairs_username (url : Url) (pairs : List (String × String)) :
    (url.appendPairs pairs).username = url.username := by
  unfold appendPairs
  split <;> rfl

@[simp] theorem appendPairs_password (url : Url) (pairs : List (String × String)) :
    (url.appendPairs pairs).password = url.password := by
  unfold appendPairs
  split <;> rfl

@[simp] theorem appendPairs_scheme (url : Url) (pairs : List (String × String)) :
    (url.appendPairs pairs).scheme = url.scheme := by
  unfold appendPairs
  split <;> rfl

end Url

def RequestOptions.user? (options : RequestOptions) : Option (String × Option String) :=
  options.username.map fun username => (username, options.password)

namespace RequestDraft

def headerLine (header : String × String) : String × List UInt8 :=
  (Text.lower header.1, PreparedRequest.octets header.2)

def userLine (user : String × Option String) : String × List UInt8 :=
  ("authorization", PreparedRequest.basic user.1 user.2)

theorem foldl_header (entries : List (String × String)) (draft : RequestDraft) :
    entries.foldl (fun draft header => draft.header header.1 header.2) draft =
      { draft with lines := draft.lines ++ entries.map headerLine } := by
  induction entries generalizing draft with
  | nil => simp
  | cons entry rest induction =>
      rw [List.foldl_cons, induction]
      simp [header, headerLine]

end RequestDraft

namespace PreparedRequest

/-- A draft has a line for the user of the URL, one for each header, and one for the user
of the options. -/
theorem draft_eq (prepared : PreparedRequest) :
    prepared.draft =
      { method := prepared.method
        url := prepared.askedUrl
        lines := (urlUser? prepared.url).toList.map RequestDraft.userLine ++
          prepared.headers.entries.map RequestDraft.headerLine ++
          prepared.options.user?.toList.map RequestDraft.userLine
        body := prepared.body } := by
  unfold draft RequestDraft.start askedUrl RequestOptions.user?
  simp only [RequestDraft.foldl_header]
  cases urlUser? prepared.url <;> cases prepared.options.username <;>
    cases prepared.body <;>
    simp [RequestDraft.basicAuth, RequestDraft.setBody, RequestDraft.userLine]

/-- The user is gone from the URL of a message, whether or not there is a line for it. -/
theorem askedUrl_withoutUser (prepared : PreparedRequest) :
    prepared.askedUrl.withoutUser = prepared.url.withoutUser := by
  unfold askedUrl
  split <;> rfl

theorem message_eq (prepared : PreparedRequest) :
    prepared.message =
      { method := prepared.method
        target := prepared.url.withoutUser.withoutFragment.toText
        headers := (urlUser? prepared.url).toList.map RequestDraft.userLine ++
          prepared.headers.entries.map RequestDraft.headerLine ++
          prepared.options.user?.toList.map RequestDraft.userLine
        body := prepared.body.getD "" } := by
  rw [message, draft_eq, RequestDraft.message, askedUrl_withoutUser]

/-- What options of all layers ask of a URL. -/
def asking (options : RequestOptions) (parsed : Url) : PreparedRequest where
  method := Text.upper (options.method.getD "GET")
  headers := options.wireHeaders
  body := options.wireBody?
  options
  url := parsed.appendPairs options.searchParams.entries

/-- A request can be prepared if its URL can be read and its method is a token. -/
theorem prepare_eq_ok_iff {options : RequestOptions} {url : String}
    {prepared : PreparedRequest} :
    prepare options url = .ok prepared ↔
      ∃ parsed, Url.parse url = .ok parsed ∧
        isToken (Text.upper (options.method.getD "GET")) = true ∧
        asking options parsed = prepared := by
  cases read : Url.parse url with
  | error fault => simp [prepare, read]
  | ok parsed =>
      have prepares : prepare options url =
          if !isToken (Text.upper (options.method.getD "GET")) then
            .error (.method (Text.upper (options.method.getD "GET")))
          else .ok (asking options parsed) := by
        rw [prepare, read]
        rfl
      rw [prepares]
      cases isToken (Text.upper (options.method.getD "GET")) <;> simp

theorem fault?_eq_none_iff {prepared : PreparedRequest} :
    prepared.fault? = none ↔
      prepared.hasHost = true ∧
        (∀ header, header ∈ prepared.headers.entries → headerFault? header = none) ∧
        (prepared.url.scheme = "http" ∨ prepared.url.scheme = "https") ∧
        prepared.hasPlainHost = true := by
  unfold fault?
  cases hosted : prepared.hasHost with
  | false => simp
  | true =>
      simp only [Bool.not_true, Bool.false_eq_true, if_false, true_and,
        ← List.findSome?_eq_none_iff]
      cases prepared.headers.entries.findSome? headerFault? with
      | some fault => simp
      | none =>
          by_cases other : prepared.url.scheme ≠ "http" ∧ prepared.url.scheme ≠ "https"
          · simp [other]
          · have web : prepared.url.scheme = "http" ∨ prepared.url.scheme = "https" :=
              Decidable.or_iff_not_imp_left.mpr (by simpa using other)
            rw [if_neg other]
            cases prepared.hasPlainHost <;> simp [web]

section Prepared

variable {options : RequestOptions} {url : String} {prepared : PreparedRequest}

theorem options_of_prepare (done : prepare options url = .ok prepared) :
    prepared.options = options := by
  obtain ⟨parsed, _, _, rfl⟩ := prepare_eq_ok_iff.mp done
  rfl

theorem headers_of_prepare (done : prepare options url = .ok prepared) :
    prepared.headers = options.wireHeaders := by
  obtain ⟨parsed, _, _, rfl⟩ := prepare_eq_ok_iff.mp done
  rfl

theorem message_of_prepare (done : prepare options url = .ok prepared) :
    prepared.message.method = Text.upper (options.method.getD "GET") ∧
      prepared.message.body = options.wireBody?.getD "" := by
  obtain ⟨parsed, _, _, rfl⟩ := prepare_eq_ok_iff.mp done
  rw [message_eq]
  exact ⟨rfl, rfl⟩

end Prepared

end PreparedRequest

end EventDelivery
