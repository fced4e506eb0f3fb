import EventDelivery.Proofs.OptionLayers
import EventDelivery.Proofs.QueryReading
import EventDelivery.Proofs.RequestRecord

/-!
# Search parameters

The search parameters of both layers follow the query of the URL as form pairs, in the
order of the octets of their names.  A reader of the URL finds them as they were set,
after the pairs that were there, and everything else as it was.
-/

namespace EventDelivery

namespace Url

variable {url : Url}

/-- A text is that of a URL with pairs added to its query. -/
structure Extends (url : Url) (added : List (String × String)) (text : String) : Prop where
  /-- Nothing but the query is another. -/
  parts : ∃ query, text = { url with query }.toText
  /-- A reader of the text finds scheme, user, host, port and path of the URL, -/
  front : (sections text).front = url.frontText
  /-- its fragment, -/
  fragment : (sections text).fragment = url.fragment
  /-- and its pairs before those that are added. -/
  pairs : (sections text).pairs = url.queryPairs ++ added
  /-- Where none are added the query is left as it is. -/
  unchanged : added = [] → text = url.toText

private theorem exists_appendPairs_eq (url : Url) (added : List (String × String)) :
    ∃ query, url.appendPairs added = { url with query } := by
  unfold appendPairs
  split
  · exact ⟨url.query, rfl⟩
  · exact ⟨_, rfl⟩

theorem Sectioned.extends_appendPairs (sectioned : url.Sectioned)
    (added : List (String × String)) : url.Extends added (url.appendPairs added).toText := by
  have read := (sectioned.appendPairs added).sections_toText
  obtain ⟨query, extended⟩ := url.exists_appendPairs_eq added
  constructor
  · exact ⟨query, congrArg toText extended⟩
  · rw [read, extended]
    rfl
  · rw [read, extended]
  · rw [← queryPairs_appendPairs, read]
    rfl
  · rintro rfl
    rfl

private theorem appendPairs_withoutUser (url : Url) (added : List (String × String)) :
    (url.appendPairs added).withoutUser = url.withoutUser.appendPairs added := by
  unfold appendPairs
  split <;> rfl

private theorem appendPairs_withoutFragment (url : Url) (added : List (String × String)) :
    (url.appendPairs added).withoutFragment = url.withoutFragment.appendPairs added := by
  unfold appendPairs
  split <;> rfl

end Url

namespace RequestOptions

private theorem layered_searchParams (lower upper : RequestOptions) (name : String) :
    Layered (lower.searchParams.get? name = some ·) (upper.searchParams.get? name = some ·)
      fun value => (name, value) ∈ (lower.merge upper).searchParams.entries := by
  have layered := (merge_overlays lower upper).searchParams name
  intro value
  rw [← layered value]
  exact (Assoc.get?_eq_some_iff (lower.merge upper).searchParams.sorted).symm

theorem searchParams_ascend (options : RequestOptions) :
    options.searchParams.entries.Pairwise fun first second =>
      PreparedRequest.octets first.1 < PreparedRequest.octets second.1 :=
  options.searchParams.sorted.imp fun below => PreparedRequest.octets_lt_iff.mpr below

end RequestOptions

namespace PreparedRequest

/-- What is asked is the URL with the search parameters, without its fragment and its
user. -/
theorem target_asking (options : RequestOptions) (parsed : Url) :
    (asking options parsed).message.target =
      (parsed.withoutUser.withoutFragment.appendPairs options.searchParams.entries).toText := by
  rw [message_eq, asking, Url.appendPairs_withoutUser, Url.appendPairs_withoutFragment]

theorem extends_asking (options : RequestOptions) {parsed : Url}
    (sectioned : parsed.Sectioned) :
    parsed.Extends options.searchParams.entries (asking options parsed).record.url ∧
      parsed.withoutUser.withoutFragment.Extends options.searchParams.entries
        (asking options parsed).message.target := by
  rw [target_asking]
  exact ⟨sectioned.extends_appendPairs _,
    sectioned.withoutUser.withoutFragment.extends_appendPairs _⟩

end PreparedRequest

namespace Client

variable {url : String} {parsed : Url}

/-- For every URL of the web the search parameters follow its query.  They are those of
both layers in the order of octets, and the upper layer decides where both have one.  A
reader of the text that is recorded, or of the one that is asked, finds them after the
pairs of the given text; the recorded text is the same in all other parts.  What is asked
is what is sent, and it is sent unless the request has a fault. -/
theorem search_parameters_follow_query (client : Client) (options : RequestOptions)
    (read : Url.parse url = .ok parsed)
    (web : parsed.scheme = "http" ∨ parsed.scheme = "https") :
    let layered := client.defaults.merge options
    let added := layered.searchParams.entries
    (added.Pairwise fun first second =>
      PreparedRequest.octets first.1 < PreparedRequest.octets second.1) ∧
    (∀ name, RequestOptions.Layered
      (client.defaults.searchParams.get? name = some ·)
      (options.searchParams.get? name = some ·) fun value => (name, value) ∈ added) ∧
    (client.defaults.searchParams = ∅ → options.searchParams = ∅ → added = []) ∧
    parsed.queryPairs = (Url.sections (String.ofList (Url.significant url))).pairs ∧
    (isToken (Text.upper (layered.method.getD "GET")) = true →
      ∃ prepared, PreparedRequest.prepare layered url = .ok prepared) ∧
    (∀ prepared, PreparedRequest.prepare layered url = .ok prepared →
      parsed.Extends added prepared.record.url ∧
      parsed.withoutUser.withoutFragment.Extends added prepared.message.target ∧
      (∀ transport message, client.Sends url options transport message →
        message = prepared.message) ∧
      (prepared.fault? = none → ∀ script,
        client.Sends url options (.scripted script) prepared.message)) := by
  intro layered added
  have sectioned := Url.sectioned_of_parse read web
  refine ⟨layered.searchParams_ascend,
    RequestOptions.layered_searchParams client.defaults options, ?_,
    (Url.pairs_significant read).symm, ?_, ?_⟩
  · intro below above
    have union : added = (client.defaults.searchParams.union options.searchParams).entries := rfl
    rw [union, below, above]
    rfl
  · intro token
    exact ⟨_, PreparedRequest.prepare_eq_ok_iff.mpr ⟨parsed, read, token, rfl⟩⟩
  · intro prepared done
    obtain ⟨_, same, _, rfl⟩ := PreparedRequest.prepare_eq_ok_iff.mp done
    cases read.symm.trans same
    obtain ⟨recorded, target⟩ := PreparedRequest.extends_asking layered sectioned
    refine ⟨recorded, target, ?_, ?_⟩
    · intro transport message sends
      obtain ⟨_, again, _, _, rfl⟩ := sends_iff.mp sends
      cases done.symm.trans again
      rfl
    · intro faultless script
      exact sends_iff.mpr ⟨_, done, faultless, Transport.exchange_scripted_ne_unreached _, rfl⟩

def searchingClient : Client where
  defaults := { searchParams := .ofList [("key", "low"), ("a b", "1&2")] }

def searchingOptions : RequestOptions where
  searchParams := .ofList [("key", "=#%+ \u00fc")]

def searchedUrl : String := "HTTP://ada@[::1]:8080/in?a=%26&x#top"

theorem searching_parameters_follow :
    ∃ prepared, PreparedRequest.prepare
        (searchingClient.defaults.merge searchingOptions) searchedUrl = .ok prepared ∧
      prepared.record.url =
        "http://ada@[::1]:8080/in?a=%26&x&a+b=1%262&key=%3D%23%25%2B+%C3%BC#top" ∧
      searchingClient.Sends searchedUrl searchingOptions (.scripted []) prepared.message ∧
      (Url.sections prepared.message.target).pairs =
        [("a", "&"), ("x", ""), ("a b", "1&2"), ("key", "=#%+ \u00fc")] := by
  have known : (Url.parse searchedUrl).toOption.map (fun parsed =>
      (parsed.scheme, parsed.queryPairs)) = some ("http", [("a", "&"), ("x", "")]) := by
    decide +kernel
  have recorded : (PreparedRequest.prepare
      (searchingClient.defaults.merge searchingOptions) searchedUrl).toOption.map
        (fun prepared => (prepared.record.url, prepared.fault?)) =
      some ("http://ada@[::1]:8080/in?a=%26&x&a+b=1%262&key=%3D%23%25%2B+%C3%BC#top", none) := by
    decide +kernel
  obtain ⟨parsed, read, found⟩ := exists_ok_of_toOption known
  obtain ⟨scheme, pairs⟩ := Prod.mk.inj found
  obtain ⟨prepared, done, shown⟩ := exists_ok_of_toOption recorded
  obtain ⟨text, faultless⟩ := Prod.mk.inj shown
  obtain ⟨_, _, _, _, _, extended⟩ :=
    search_parameters_follow_query searchingClient searchingOptions read (.inl scheme)
  obtain ⟨_, target, _, sent⟩ := extended prepared done
  have before : parsed.withoutUser.withoutFragment.queryPairs = parsed.queryPairs := rfl
  refine ⟨prepared, done, text, sent faultless [], ?_⟩
  rw [target.pairs, before, pairs]
  decide +kernel

end Client

end EventDelivery
