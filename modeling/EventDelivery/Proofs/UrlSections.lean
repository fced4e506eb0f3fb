import EventDelivery.Proofs.HostText
import EventDelivery.Proofs.RequestPreparation
import EventDelivery.Proofs.ScalarReading

/-!
# The sections of URL texts

A reader divides the text of a URL at its marks: what follows the first number sign is
the fragment, and what follows the first question mark before it is the query.  Of the
URLs of the web this finds the parts that they were written from, also after pairs
have been added to their query.
-/

namespace EventDelivery

open Text

namespace Url

section Parts

variable {scheme : String} {more : Bool} {cs : List Char}

theorem unmarked_readUser {username : String} {password : Option String}
    (read : readUser cs = (username, password)) :
    Unmarked username.toList ∧
      ∀ word, password = some word → Unmarked word.toList := by
  have encoded : ∀ part,
      Unmarked (String.ofList (Percent.encode Percent.inUser part)).toList := by
    intro part
    rw [String.toList_ofList]
    exact Percent.unmarked_encode (by decide) (by decide) part
  unfold readUser at read
  split at read
  all_goals
    cases read
    refine ⟨encoded _, ?_⟩
    rintro word ⟨⟩
  exact encoded _

/-- Segments are blank where a path ends in points, and otherwise written in escapes. -/
theorem mem_walk {taken : List String} {parts : List (List Char)} {segment : String}
    (member : segment ∈ walk taken parts) :
    segment ∈ taken ∨ segment = "" ∨
      ∃ part, segment = String.ofList (Percent.encode Percent.inPath part) := by
  induction parts generalizing taken with
  | nil => exact .inl (List.mem_reverse.mp member)
  | cons part rest induction =>
      have ended : ∀ {taken : List String}, segment ∈ ("" :: taken).reverse →
          segment ∈ taken ∨ segment = "" := by
        intro taken member
        exact (List.mem_cons.mp (List.mem_reverse.mp member)).symm
      rw [walk] at member
      split at member
      · split at member
        · exact (ended member).imp_right .inl
        · exact induction member
      · split at member
        · exact (ended member).imp List.mem_of_mem_tail .inl
        · exact (induction member).imp_left List.mem_of_mem_tail
      · rcases induction member with first | other
        · rcases List.mem_cons.mp first with here | before
          · exact .inr (.inr ⟨part, here⟩)
          · exact .inl before
        · exact .inr other

theorem unmarked_segments (special : Bool) (cs : List Char) :
    Unmarked (segments special cs).toText.toList := by
  rw [segments, UrlPath.toText, String.toList_join]
  intro c inside
  obtain ⟨written, member, held⟩ := List.mem_flatMap.mp inside
  obtain ⟨segment, walked, rfl⟩ := List.mem_map.mp member
  have slash : Unmarked "/".toList := by decide
  have unmarked : Unmarked segment.toList := by
    rcases mem_walk walked with taken | rfl | ⟨part, rfl⟩
    · cases taken
    · decide
    · rw [String.toList_ofList]
      exact Percent.unmarked_encode (by decide) (by decide) part
  rw [String.toList_append] at held
  exact unmarked_append.mpr ⟨slash, unmarked⟩ c held

private theorem unmarked_pathAfterHost (special : Bool) (cs : List Char) :
    Unmarked (pathAfterHost special cs).toText.toList := by
  unfold pathAfterHost
  split
  · split <;> decide
  · split <;> exact unmarked_segments special _

/-- The user of a web URL is read from some text, and its host is one that the scheme
can have. -/
theorem parts_of_readAuthority (special : isSpecial scheme = true)
    {username : String} {password : Option String} {host : Host} {port : Option UInt16}
    (read : readAuthority scheme more cs = .ok (username, password, host, port)) :
    ∃ user place, readUser user = (username, password) ∧ Host.ofWeb place = .ok host := by
  unfold readAuthority at read
  split at read
  rename_i before place _
  cases named : readUser (before.getD []) with
  | mk name word =>
      cases placed : splitPort false place with
      | mk hostText portText =>
          simp only [named, placed, special, throw, throwThe, MonadExceptOf.throw, bind,
            Except.bind, pure, Except.pure, if_true] at read
          -- what is left is a chain of tests, each of which ends in a fault or goes on
          split at read
          · cases read
          split at read
          · cases read
          split at read
          · cases read
          rename_i written
          split at read
          · cases read
          split at read
          · cases read
          cases read
          exact ⟨_, _, named, written⟩

theorem parts_of_hierarchy (web : scheme = "http" ∨ scheme = "https") {url : Url}
    (read : hierarchy scheme more cs = .ok url) :
    ∃ further authority path username password host port,
      readAuthority scheme further authority = .ok (username, password, host, port) ∧
      url = { scheme, username, password, host := some host, port
              path := pathAfterHost true path } := by
  have special : isSpecial scheme = true := by
    rcases web with rfl | rfl <;> decide
  have other : scheme ≠ "file" := by
    rcases web with rfl | rfl <;> decide
  simp only [hierarchy, special, other, if_false, if_true] at read
  obtain ⟨⟨username, password, host, port⟩, found, rest⟩ := exists_ok_of_bind read
  cases rest
  exact ⟨_, _, _, username, password, host, port, found, rfl⟩

theorem scheme_of_hierarchy {url : Url} (read : hierarchy scheme more cs = .ok url) :
    url.scheme = scheme := by
  unfold hierarchy at read
  dsimp only at read
  split at read
  · split at read
    · split at read
      · split at read
        all_goals
          obtain ⟨host, _, rest⟩ := exists_ok_of_bind read
          cases rest
          rfl
      · cases read
        rfl
    · cases read
      rfl
  · split at read
    · obtain ⟨authority, _, rest⟩ := exists_ok_of_bind read
      cases rest
      rfl
    · split at read
      · obtain ⟨authority, _, rest⟩ := exists_ok_of_bind read
        cases rest
        rfl
      · cases read
        rfl
      · cases read
        rfl

end Parts

/-- What the parts of a URL hold is not taken for the start of a section. -/
structure Sectioned (url : Url) : Prop where
  scheme : Unmarked url.scheme.toList
  username : Unmarked url.username.toList
  password : ∀ word, url.password = some word → Unmarked word.toList
  host : ∀ host, url.host = some host → Unmarked host.toText.toList
  path : Unmarked url.path.toText.toList
  query : ∀ query, url.query = some query → '#' ∉ query.toList

/-- A text is read as a URL by its scheme, what stands before its marks, and its query and
fragment in escapes. -/
theorem parts_of_parse {text : String} {url : Url} (read : parse text = .ok url) :
    ∃ scheme rest front, scheme? (significant text) = some (scheme, rest) ∧
      hierarchy scheme
          ((cut '?' (cut '#' rest).1).2.isSome || (cut '#' rest).2.isSome)
          (cut '?' (cut '#' rest).1).1 = .ok front ∧
      url = { front with
        query := (cut '?' (cut '#' rest).1).2.map fun cs =>
          String.ofList (Percent.encode (Percent.inQuery (isSpecial scheme)) cs)
        fragment := (cut '#' rest).2.map fun cs =>
          String.ofList (Percent.encode Percent.inFragment cs) } := by
  unfold parse at read
  split at read
  · cases read
  · rename_i scheme rest found
    obtain ⟨front, made, whole⟩ := exists_ok_of_bind read
    cases whole
    exact ⟨scheme, rest, front, found, made, rfl⟩

theorem sectioned_of_parse {text : String} {url : Url} (read : parse text = .ok url)
    (web : url.scheme = "http" ∨ url.scheme = "https") : url.Sectioned := by
  obtain ⟨scheme, rest, front, _, made, rfl⟩ := parts_of_parse read
  replace web : scheme = "http" ∨ scheme = "https" := scheme_of_hierarchy made ▸ web
  obtain ⟨_, _, path, username, password, host, port, found, rfl⟩ :=
    parts_of_hierarchy web made
  have special : isSpecial scheme = true := by
    rcases web with rfl | rfl <;> decide
  have plain : Unmarked scheme.toList := by
    rcases web with rfl | rfl <;> decide
  obtain ⟨user, place, named, written⟩ := parts_of_readAuthority special found
  exact {
    scheme := plain
    username := (unmarked_readUser named).1
    password := (unmarked_readUser named).2
    host := by
      rintro _ ⟨⟩
      exact Host.unmarked_of_ofWeb written
    path := unmarked_pathAfterHost true path
    query := by
      intro query given
      obtain ⟨cs, _, rfl⟩ := Option.map_eq_some_iff.mp given
      rw [String.toList_ofList, special]
      exact Percent.not_mem_encode (by decide) (by decide) cs }

/-- The text of a URL up to the query. -/
def frontText (url : Url) : String :=
  url.scheme ++ ":" ++ url.authorityText ++ url.path.toText

private theorem toList_toText (url : Url) :
    url.toText.toList = url.frontText.toList ++
      ((url.query.map fun query => '?' :: query.toList).getD [] ++
        (url.fragment.map fun fragment => '#' :: fragment.toList).getD []) := by
  unfold toText
  cases url.query <;> cases url.fragment <;> simp [frontText]

namespace Sectioned

variable {url : Url}

theorem withoutUser (sectioned : url.Sectioned) : url.withoutUser.Sectioned :=
  { sectioned with
    username := by
      intro c member
      cases member
    password := by
      intro word given
      cases given }

theorem withoutFragment (sectioned : url.Sectioned) : url.withoutFragment.Sectioned :=
  { sectioned with }

theorem appendPairs (sectioned : url.Sectioned) (pairs : List (String × String)) :
    (url.appendPairs pairs).Sectioned := by
  have added : '#' ∉ ['&'].intercalate (pairs.map Percent.formPair) := by
    intro member
    rcases mem_of_mem_intercalate member with between | ⟨part, held, inside⟩
    · exact absurd between (by decide)
    · obtain ⟨pair, _, rfl⟩ := List.mem_map.mp held
      rcases List.mem_append.mp inside with name | value
      · exact Percent.not_mem_formValue (by decide) _ name
      · exact Percent.not_mem_formValue (by decide) _ (List.mem_of_ne_of_mem (by decide) value)
  unfold Url.appendPairs
  split
  · exact sectioned
  · refine { sectioned with query := ?_ }
    rintro query ⟨⟩
    split
    · rwa [String.toList_ofList]
    · rwa [String.toList_ofList]
    · rename_i held _ given
      have before := sectioned.query held given
      simp [before, added]

theorem unmarked_userText (sectioned : url.Sectioned) : Unmarked url.userText.toList := by
  have signs : Unmarked "@".toList ∧ Unmarked ":".toList := by decide
  unfold userText
  split
  · decide
  · simp only [String.toList_append, unmarked_append]
    exact ⟨sectioned.username, signs.1⟩
  · rename_i word given
    simp only [String.toList_append, unmarked_append]
    exact ⟨⟨⟨sectioned.username, signs.2⟩, sectioned.password word given⟩, signs.1⟩

theorem unmarked_authorityText (sectioned : url.Sectioned) :
    Unmarked url.authorityText.toList := by
  have signs : Unmarked "//".toList ∧ Unmarked ":".toList := by decide
  unfold authorityText
  split
  · rename_i host given
    simp only [String.toList_append, unmarked_append]
    refine ⟨⟨⟨signs.1, sectioned.unmarked_userText⟩, sectioned.host host given⟩, ?_⟩
    split
    · simp only [String.toList_append, unmarked_append]
      exact ⟨signs.2, unmarked_toString _⟩
    · decide
  · split <;> decide

private theorem unmarked_frontText (sectioned : url.Sectioned) : Unmarked url.frontText.toList := by
  have sign : Unmarked ":".toList := by decide
  simp only [frontText, String.toList_append, unmarked_append]
  exact ⟨⟨⟨sectioned.scheme, sign⟩, sectioned.unmarked_authorityText⟩, sectioned.path⟩

end Sectioned

theorem cut_append {mark : Char} {before : List Char} (absent : mark ∉ before)
    (after : Option (List Char)) :
    cut mark (before ++ (after.map (mark :: ·)).getD []) = (before, after) := by
  unfold cut
  cases after with
  | none =>
      rw [Option.map_none, Option.getD_none, List.append_nil, splitFirst?_eq_none absent]
  | some after =>
      rw [Option.map_some, Option.getD_some, splitFirst?_append absent]

/-- The sections that a reader finds in the text of a URL. -/
structure Sections where
  /-- Everything up to the query. -/
  front : String
  query : Option String
  fragment : Option String
deriving DecidableEq

/-- Divides the text of a URL at its marks. -/
def sections (text : String) : Sections :=
  let (rest, fragment) := cut '#' text.toList
  let (front, query) := cut '?' rest
  ⟨String.ofList front, query.map String.ofList, fragment.map String.ofList⟩

def Sections.pairs (sections : Sections) : List (String × String) :=
  match sections.query with
  | some query => Percent.readForm query.toList
  | none => []

/-- The text of a URL is divided into what it was written from. -/
theorem Sectioned.sections_toText {url : Url} (sectioned : url.Sectioned) :
    Url.sections url.toText = ⟨url.frontText, url.query, url.fragment⟩ := by
  have front := sectioned.unmarked_frontText
  have before : '#' ∉ url.frontText.toList ++
      (url.query.map fun query => '?' :: query.toList).getD [] := by
    rw [List.mem_append, not_or]
    refine ⟨fun member => (front '#' member).2 rfl, ?_⟩
    cases given : url.query with
    | none => exact List.not_mem_nil
    | some query => simpa using sectioned.query query given
  have whole := cut_append before (url.fragment.map String.toList)
  have rest := cut_append (fun member => (front '?' member).1 rfl) (url.query.map String.toList)
  simp only [Option.map_map, Function.comp_def] at whole rest
  rw [Url.sections, toList_toText, ← List.append_assoc, whole]
  simp only [rest, Option.map_map, Function.comp_def, String.ofList_toList, Option.map_id']

end Url

end EventDelivery
