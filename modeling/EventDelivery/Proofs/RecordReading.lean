import EventDelivery.Proofs.ScalarReading
import EventDelivery.Wire.Record

/-!
# Reading records

When the members of a record are read: each by itself, one after the other, and
those that an encoded record leaves out.
-/

namespace EventDelivery

namespace Record

variable {α β : Type}

theorem Reading.map_eq_done_iff {f : α → β} {read : Reading α} {result : β} :
    f <$> read = .done result ↔ ∃ value, read = .done value ∧ f value = result := by
  cases read with
  | done value =>
      constructor
      · intro done
        exact ⟨value, rfl, Reading.done.inj done⟩
      · rintro ⟨_, same, rfl⟩
        cases same
        rfl
  | stuck obstacle =>
      constructor
      · intro done
        cases done
      · rintro ⟨_, same, _⟩
        cases same

/-- Reading one field more succeeds when both readings do. -/
theorem Reading.seq_eq_done_iff {read : Reading (α → β)} {next : Reading α} {result : β} :
    read <*> next = .done result ↔
      ∃ f value, read = .done f ∧ next = .done value ∧ f value = result := by
  constructor
  · intro done
    cases read with
    | done f =>
        cases next with
        | done value => exact ⟨f, value, rfl, rfl, Reading.done.inj done⟩
        | stuck obstacle => cases done
    | stuck obstacle => cases next <;> cases done
  · rintro ⟨f, value, rfl, rfl, rfl⟩
    rfl

private theorem Reading.given_eq_done_iff {key : String} {decoded : Decoded α} {value : α} :
    Reading.given key decoded = .done value ↔ decoded = .ok value := by
  cases decoded <;> simp [Reading.given]

@[simp] theorem Reading.map_done (f : α → β) (value : α) :
    f <$> Reading.done value = .done (f value) := rfl

@[simp] theorem Reading.seq_done (f : α → β) (value : α) :
    Reading.done f <*> Reading.done value = .done (f value) := rfl

theorem finish_eq_ok {record : Record} {source : Source} {reading : Reading α} {value : α}
    (finished : record.finish source reading = .ok value) : reading = .done value := by
  cases reading with
  | done read =>
      cases source with
      | members members => simpa [finish] using finished
      | items items =>
          simp only [finish] at finished
          split at finished
          · contradiction
          · simpa using finished
  | stuck obstacle => cases obstacle <;> simp [finish] at finished

/-- What a value gives for a field of a record, by name or by place. -/
def member? (record : Record) (name : String) : Json → Option Json
  | .obj members => Assoc.get? name members
  | .arr items => items[record.fields.idxOf name]?
  | _ => none

/-- What is decoded as a record is read from a source with the members of the value. -/
theorem exists_source_of_decode {record : Record} {read : Source → Reading α}
    {value : Json} {result : α} (decoded : record.decode read value = .ok result) :
    ∃ source, read source = .done result ∧
      ∀ name, (record.given? name source).map Prod.snd = record.member? name value := by
  unfold decode at decoded
  split at decoded
  · refine ⟨_, finish_eq_ok decoded, ?_⟩
    intro name
    simp [given?, member?, Function.comp_def]
  · refine ⟨_, finish_eq_ok decoded, ?_⟩
    intro name
    simp [given?, member?, Function.comp_def]
  · cases decoded

/-- A record is decoded from its encoded members by looking them up. -/
theorem decode_ofMembers {record : Record} {read : Source → Reading α}
    {members : List (String × Json)} {result : α}
    (reads : ∀ given, (∀ name, Assoc.get? name given = Assoc.last? name members) →
      read (.members given) = .done result) :
    record.decode read (.ofMembers members) = .ok result := by
  have done := reads (Assoc.ofList members) fun name => Assoc.get?_ofList name members
  simp only [Json.ofMembers, decode, done, finish]

theorem optional_eq_done_iff {record : Record} {source : Source} {name : String}
    {byDefault value : α} {decode : Json → Decoded α} :
    record.optional source name byDefault decode = .done value ↔
      match record.given? name source with
      | some (_, given) => decode given = .ok value
      | none => byDefault = value := by
  unfold optional
  cases record.given? name source with
  | none => simp
  | some entry => simp [Reading.given_eq_done_iff]

/-- A field with a default is decoded from what is given for it. -/
theorem optional_done_cases {record : Record} {source : Source} {name : String}
    {byDefault result : α} {decode : Json → Decoded α}
    (done : record.optional source name byDefault decode = .done result) :
    (record.given? name source).map Prod.snd = none ∧ byDefault = result ∨
    ∃ given, (record.given? name source).map Prod.snd = some given ∧
      decode given = .ok result := by
  rw [optional_eq_done_iff] at done
  cases found : record.given? name source with
  | none => exact .inl ⟨rfl, by simpa [found] using done⟩
  | some entry => exact .inr ⟨entry.2, rfl, by simpa [found] using done⟩

section

variable {record : Record} {members : List (String × Json)} {name : String}

theorem last?_present (key name : String) (value : Option Json) :
    Assoc.last? key (present name value) = if name = key then value else none := by
  cases value <;> simp [present]

theorem required_eq_done (value : Json) {result : α} {decode : Json → Decoded α}
    (found : Assoc.get? name members = some value) (decodes : decode value = .ok result) :
    record.required (.members members) name decode = .done result := by
  simp [required, given?, found, decodes, Reading.given]

theorem optional_eq_done (value : Json) {byDefault result : α} {decode : Json → Decoded α}
    (found : Assoc.get? name members = some value) (decodes : decode value = .ok result) :
    record.optional (.members members) name byDefault decode = .done result := by
  simp [optional, given?, found, decodes, Reading.given]

theorem optional_eq_default {byDefault : α} {decode : Json → Decoded α}
    (absent : Assoc.get? name members = none) :
    record.optional (.members members) name byDefault decode = .done byDefault := by
  simp [optional, given?, absent]

theorem optional_of_present {given : Option β} {encode : β → Json} (result : β → α)
    {decode : Json → Decoded α} (found : Assoc.get? name members = given.map encode)
    (decodes : ∀ value, Wire.nullable decode (encode value) = .ok (some (result value))) :
    record.optional (.members members) name none (Wire.nullable decode) =
      .done (given.map result) := by
  cases given with
  | none => exact optional_eq_default found
  | some value => exact optional_eq_done _ found (decodes value)

theorem optional_of_present_self {given : Option α} {encode : α → Json}
    {decode : Json → Decoded α} (found : Assoc.get? name members = given.map encode)
    (decodes : ∀ value, Wire.nullable decode (encode value) = .ok (some value)) :
    record.optional (.members members) name none (Wire.nullable decode) = .done given := by
  simpa using optional_of_present id found decodes

theorem optional_any_of_present {given : Option Json}
    (found : Assoc.get? name members = given) :
    record.optional (.members members) name none (Wire.nullable Wire.any) =
      .done (given.filter fun value => value ≠ .null) := by
  cases shown : given with
  | none => exact optional_eq_default (found.trans shown)
  | some value => exact optional_eq_done value (found.trans shown) (Wire.nullable_any value)

theorem exists_ok_of_required {source : Source} {decode : Json → Decoded α} {result : α}
    (done : record.required source name decode = .done result) :
    ∃ value, decode value = .ok result := by
  unfold required at done
  split at done
  · exact ⟨_, Reading.given_eq_done_iff.mp done⟩
  · cases source <;> cases done

theorem exists_ok_of_optional_nullable {source : Source} {decode : Json → Decoded α}
    {result : α}
    (done : record.optional source name none (Wire.nullable decode) = .done (some result)) :
    ∃ value, decode value = .ok result := by
  rcases optional_done_cases done with ⟨_, impossible⟩ | ⟨value, _, decoded⟩
  · cases impossible
  · rcases Wire.nullable_eq_ok_iff.mp decoded with ⟨_, impossible⟩ | ⟨made, _, decodes, same⟩
    · cases impossible
    · cases same
      exact ⟨value, decodes⟩

theorem ne_null_of_optional_any {source : Source} {given : Option Json}
    (done : record.optional source name none (Wire.nullable Wire.any) = .done given) :
    given ≠ some .null := by
  rintro rfl
  rcases optional_done_cases done with ⟨_, impossible⟩ | ⟨value, _, decoded⟩
  · cases impossible
  · rcases Wire.nullable_eq_ok_iff.mp decoded with ⟨_, impossible⟩ | ⟨_, notNull, read, same⟩
    · cases impossible
    · cases same
      exact notNull (Except.ok.inj read)

end

end Record

end EventDelivery
