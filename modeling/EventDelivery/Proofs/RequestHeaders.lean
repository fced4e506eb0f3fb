import EventDelivery.Proofs.OctetOrder
import EventDelivery.Proofs.RequestPreparation
import Mathlib

/-!
# The headers of a request

Headers of all layers come under names in small letters, each name once.  Of names that
are the same but for their case the greatest one decides in each layer, and the upper
layer decides between the two.
-/

namespace EventDelivery

namespace Text

@[simp] theorem lower_lower (s : String) : lower (lower s) = lower s := by
  simp [lower, Function.comp_def, Char.toLower_toLower_eq_toLower]

/-- The texts are the same but for the case of their letters. -/
def SameButCase (first second : String) : Prop := lower first = lower second

end Text

/-- The value of a layer for a header: of the names that are the same but for their
case, the one with the greatest octets decides. -/
def Keyed.Decides (headers : Keyed String) (name value : String) : Prop :=
  ∃ spelling, (spelling, value) ∈ headers.entries ∧ Text.SameButCase spelling name ∧
    ∀ other, other ∈ headers.entries → Text.SameButCase other.1 name →
      PreparedRequest.octets other.1 ≤ PreparedRequest.octets spelling

namespace RequestOptions

section Layer

variable {headers : Keyed String} {name value : String}

/-- The headers of a layer come in the order of their names, so that the greatest of
names that become the same is the last one. -/
theorem last?_lowerHeaders_eq_some_iff (small : Text.lower name = name) :
    Assoc.last? name (lowerHeaders headers) = some value ↔ headers.Decides name value := by
  simp only [lowerHeaders, Keyed.Decides, Text.SameButCase, small,
    PreparedRequest.octets_le_iff]
  exact Assoc.last?_rename_eq_some_iff headers.sorted

theorem last?_lowerHeaders_eq_none_iff (small : Text.lower name = name) :
    Assoc.last? name (lowerHeaders headers) = none ↔
      ∀ header, header ∈ headers.entries → ¬ Text.SameButCase header.1 name := by
  simp only [Assoc.last?_eq_none_iff, lowerHeaders, List.forall_mem_map, Text.SameButCase,
    small]

theorem lower_of_last?_lowerHeaders
    (found : Assoc.last? name (lowerHeaders headers) = some value) :
    Text.lower name = name := by
  obtain ⟨_, _, parts, _⟩ := Assoc.last?_eq_some_iff.mp found
  have member : (name, value) ∈ lowerHeaders headers := by simp [parts]
  obtain ⟨header, _, renamed⟩ := List.mem_map.mp member
  cases renamed
  exact Text.lower_lower _

theorem lowerHeaders_eq_entries
    (small : ∀ header, header ∈ headers.entries → Text.lower header.1 = header.1) :
    lowerHeaders headers = headers.entries := by
  have same : ∀ header, header ∈ headers.entries →
      (Text.lower header.1, header.2) = id header := by
    intro header member
    rw [small header member, id]
  rw [lowerHeaders, List.map_congr_left same, List.map_id]

end Layer

section Merged

variable {lower upper : RequestOptions} {header : String × String}

theorem lower_name_of_mem_merge (member : header ∈ (lower.merge upper).headers.entries) :
    Text.lower header.1 = header.1 := by
  obtain ⟨name, value⟩ := header
  have found := (Assoc.get?_eq_some_iff (lower.merge upper).headers.sorted).mpr member
  rw [get?_merge_headers, Option.or_eq_some_iff] at found
  rcases found with above | ⟨_, below⟩
  · exact lower_of_last?_lowerHeaders above
  · exact lower_of_last?_lowerHeaders below

/-- What goes with merged options goes under names in small letters. -/
theorem lower_name_of_mem_wireHeaders
    (member : header ∈ (lower.merge upper).wireHeaders.entries) :
    Text.lower header.1 = header.1 := by
  rcases mem_of_mem_wireHeaders member with own | rfl
  · exact lower_name_of_mem_merge own
  · decide

end Merged

end RequestOptions

namespace PreparedRequest

theorem lower_name_of_mem_headers {lower upper : RequestOptions} {url : String}
    {prepared : PreparedRequest} (done : prepare (lower.merge upper) url = .ok prepared)
    {header : String × String} (member : header ∈ prepared.headers.entries) :
    Text.lower header.1 = header.1 := by
  rw [headers_of_prepare done] at member
  exact RequestOptions.lower_name_of_mem_wireHeaders member

theorem map_headerLine_headers {lower upper : RequestOptions} {url : String}
    {prepared : PreparedRequest} (done : prepare (lower.merge upper) url = .ok prepared) :
    prepared.headers.entries.map RequestDraft.headerLine =
      prepared.headers.entries.map fun header => (header.1, octets header.2) := by
  apply List.map_congr_left
  intro header member
  rw [RequestDraft.headerLine, lower_name_of_mem_headers done member]

theorem urlUser?_eq_none {url : Url} (nameless : url.username = "")
    (wordless : url.password = none) : urlUser? url = none := by
  simp [urlUser?, nameless, wordless, Percent.decode, Text.decodeUtf8?, Text.readOctets]

end PreparedRequest

end EventDelivery
