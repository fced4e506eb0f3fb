import EventDelivery.Proofs.AssocLookup
import EventDelivery.Proofs.PathGrammar

/-!
# Printing paths between brackets

Every step of a path can be written between brackets: a name between quotes, whatever
points, quotes or blanks it has, and a position in digits.  Nothing in the notation
stands for a closing bracket inside of a name, so that a path is read back exactly if
no name in it has one.  A path that is read back selects what stands at its position.
-/

namespace EventDelivery

/-- A step between brackets. -/
def Segment.printed : Segment → String
  | .key name => "['" ++ name ++ "']"
  | .index position => "[" ++ toString position.toNat ++ "]"

namespace Text

private theorem numeral_toDigits (value : Nat) : Numeral (Nat.toDigits 10 value) value := by
  apply numeral_iff.mpr
  refine ⟨Nat.toDigits_ne_nil, ?_, Nat.ofDigitChars_ten_toDigits⟩
  apply List.all_eq_true.mpr
  intro c member
  exact Nat.isDigit_of_mem_toDigits (by decide) (by decide) member

private theorem isBlank_eq_false_of_isDigit {c : Char} (digit : c.isDigit = true) :
    isBlank c = false := by
  have range : 48 ≤ c.toNat ∧ c.toNat ≤ 57 := by
    simpa [Char.isDigit, UInt32.le_iff_toNat_le] using digit
  simp only [isBlank, Bool.or_eq_false_iff, Bool.and_eq_false_iff, decide_eq_false_iff_not,
    beq_eq_false_iff_ne]
  omega

end Text

namespace Path

/-- A path with all its steps between brackets. -/
def printed (path : Path) : String :=
  "$" ++ String.join (path.map Segment.printed)

/-- No name of the path has a closing bracket in it. -/
def Printable (path : Path) : Prop :=
  ∀ name, .key name ∈ path → ']' ∉ name.toList

/-- A value stands at a position in another one. -/
inductive Locates : Json → Path → Json → Prop where
  | here (value : Json) : Locates value [] value
  | member {members : List (String × Json)} {name : String} {inner value : Json}
      {path : Path} :
      (name, inner) ∈ members → Locates inner path value →
      Locates (.obj members) (.key name :: path) value
  | item {items : List Json} {position : UInt64} {inner value : Json} {path : Path} :
      items[position.toNat]? = some inner → Locates inner path value →
      Locates (.arr items) (.index position :: path) value

theorem Locates.select_eq {event value : Json} {path : Path} (ordered : event.Ordered)
    (locates : Locates event path value) : path.select event = some value := by
  induction locates with
  | here value => rfl
  | member present _ induction =>
      have found := (Assoc.get?_eq_some_iff ordered.1).mpr present
      have inside := Json.ordered_of_mem_members ordered.2 present
      simp [select, found, induction inside]
  | item present _ induction =>
      have inside := Json.ordered_of_mem_items ordered (List.mem_of_getElem? present)
      simp [select, present, induction inside]

/-- The steps of a path, printed one after another. -/
private def printedSteps (path : Path) : List Char :=
  path.flatMap fun step => step.printed.toList

private theorem toList_printed (path : Path) : path.printed.toList = '$' :: printedSteps path := by
  simp [printed, printedSteps, List.flatMap_map]

private theorem printedSteps_key (name : String) (path : Path) :
    printedSteps (.key name :: path) =
      '[' :: ('\'' :: (name.toList ++ ['\'']) ++ ']' :: printedSteps path) := by
  simp [printedSteps, Segment.printed]

private theorem printedSteps_index (position : UInt64) (path : Path) :
    printedSteps (.index position :: path) =
      '[' :: (Nat.toDigits 10 position.toNat ++ ']' :: printedSteps path) := by
  simp [printedSteps, Segment.printed]

theorem getLast?_printedSteps {path : Path} {c : Char}
    (last : (printedSteps path).getLast? = some c) : c = ']' := by
  induction path with
  | nil => simp [printedSteps] at last
  | cons step path induction =>
      have closes : ∃ front, step.printed.toList = front ++ [']'] := by
        cases step with
        | key name => exact ⟨"['".toList ++ name.toList ++ ['\''], by simp [Segment.printed]⟩
        | index position =>
            exact ⟨'[' :: Nat.toDigits 10 position.toNat, by simp [Segment.printed]⟩
      obtain ⟨front, closes⟩ := closes
      have split : printedSteps (step :: path) = step.printed.toList ++ printedSteps path := by
        simp [printedSteps]
      rw [split, closes, List.getLast?_append, List.getLast?_concat] at last
      cases later : (printedSteps path).getLast? with
      | none => simpa [later, eq_comm] using last
      | some other =>
          simp only [later, Option.some_or, Option.some.injEq] at last
          exact induction (last ▸ later)

section Reading

variable (text : String)

/-- Brackets that hold what stands for a step, and no closing one, are read as it. -/
theorem read_bracketed {held : List Char} {step : Segment} (noClose : ']' ∉ held)
    (trimmed : Text.trimChars held = held) (bracketed : Bracketed held step)
    (rest : List Char) :
    Path.read text .between ('[' :: (held ++ ']' :: rest)) =
      (Path.read text .between rest).map (step :: ·) := by
  rw [read_bracket text noClose, trimmed, bracketed_eq_ok_iff.mpr bracketed]
  rfl

theorem read_key {name : String} (noClose : ']' ∉ name.toList) (path : Path) :
    Path.read text .between (printedSteps (.key name :: path)) =
      (Path.read text .between (printedSteps path)).map (.key name :: ·) := by
  rw [printedSteps_key]
  apply read_bracketed
  · simp [noClose]
  · have last : ('\'' :: (name.toList ++ ['\''])).getLast? = some '\'' := by
      rw [← List.cons_append, List.getLast?_concat]
    apply Text.trimChars_eq_self
    · simp [Text.isBlank]
    · simp [last, Text.isBlank]
  · have quoted := @Bracketed.quoted '\'' name.toList (.inl rfl)
    rwa [String.ofList_toList] at quoted

theorem read_index (position : UInt64) (path : Path) :
    Path.read text .between (printedSteps (.index position :: path)) =
      (Path.read text .between (printedSteps path)).map (.index position :: ·) := by
  obtain ⟨_, allDigits, _⟩ := Text.numeral_iff.mp (Text.numeral_toDigits position.toNat)
  have digits := List.all_eq_true.mp allDigits
  rw [printedSteps_index]
  apply read_bracketed
  · intro member
    exact absurd (digits _ member) (by decide)
  · apply Text.trimChars_eq_self
    · intro c first
      exact Text.isBlank_eq_false_of_isDigit (digits c (List.mem_of_head? first))
    · intro c last
      exact Text.isBlank_eq_false_of_isDigit (digits c (List.mem_of_getLast? last))
  · exact .position (.inl rfl) (Text.numeral_toDigits position.toNat)

/-- Brackets are closed by the first closing one, so that less than the name is left
between the quotes of a name that has one. -/
theorem read_key_ne {name : String} (close : ']' ∈ name.toList) (path following : Path) :
    Path.read text .between (printedSteps (.key name :: path)) ≠
      .ok (.key name :: following) := by
  obtain ⟨before, after, split, noClose⟩ := List.eq_append_cons_of_mem close
  have cut : printedSteps (.key name :: path) =
      '[' :: ('\'' :: before ++ ']' :: (after ++ ['\'', ']'] ++ printedSteps path)) := by
    rw [printedSteps_key, split]
    simp
  rw [cut, read_bracket text (by simp [noClose])]
  intro accepted
  cases known : bracketed text (Text.trimChars ('\'' :: before)) with
  | error fault => simp [known, Except.bind] at accepted
  | ok step =>
      rw [known] at accepted
      have same : step = .key name := by
        cases later : Path.read text .between (after ++ ['\'', ']'] ++ printedSteps path) <;>
          simp_all [Except.bind, Except.map]
      have held := bracketed_eq_ok_iff.mp known
      rw [same] at held
      have short := Text.length_trimChars_le ('\'' :: before)
      generalize Text.trimChars ('\'' :: before) = inner at held short
      cases held with
      | @quoted quote name _ =>
          simp only [String.toList_ofList] at split
          simp only [split, List.length_cons, List.length_append] at short
          omega

theorem read_printedSteps_iff (path : Path) :
    Path.read text .between (printedSteps path) = .ok path ↔ Printable path := by
  induction path with
  | nil => simp [printedSteps, Path.read, Printable]
  | cons step path induction =>
      have later : ∀ outcome : Except MappingFault Path,
          outcome.map (step :: ·) = .ok (step :: path) ↔ outcome = .ok path := by
        intro outcome
        cases outcome <;> simp [Except.map]
      cases step with
      | index position =>
          rw [read_index, later, induction]
          simp [Printable]
      | key name =>
          by_cases close : ']' ∈ name.toList
          · have unprintable : ¬ Printable (.key name :: path) := by
              intro printable
              exact printable name List.mem_cons_self close
            exact iff_of_false (read_key_ne text close path path) unprintable
          · rw [read_key text close, later, induction]
            simp [Printable, close]

end Reading

theorem trimChars_printed (path : Path) :
    Text.trimChars path.printed.toList = '$' :: printedSteps path := by
  rw [toList_printed]
  apply Text.trimChars_eq_self
  · simp [Text.isBlank]
  · intro c last
    rw [← List.singleton_append, List.getLast?_append] at last
    cases later : (printedSteps path).getLast? with
    | none =>
        have root : '$' = c := by simpa [later] using last
        exact root ▸ by decide
    | some other =>
        have close : ']' = c := by
          simpa [later, getLast?_printedSteps later] using last
        exact close ▸ by decide

/-- A printed path is read back exactly if no name in it has a closing bracket.  It
then selects what stands at its position in an event. -/
theorem printed_reads_back_iff (path : Path) :
    (parse path.printed = .ok path ↔ Printable path) ∧
    (Printable path → ∀ event value, Json.Ordered event → Locates event path value →
      get path.printed event = .ok (some value)) := by
  have reads : parse path.printed = .ok path ↔ Printable path := by
    rw [parse, trimChars_printed]
    exact read_printedSteps_iff path.printed path
  refine ⟨reads, ?_⟩
  intro printable event value ordered locates
  rw [get, reads.mpr printable]
  simp [bind, Except.bind, locates.select_eq ordered]

/-- Through a name with points, quotes and a bracket to an item, and in it to the
member with the empty name. -/
def nestedPath : Path := [.key "it's \"a.b\" [ ", .index 1, .key ""]

def nestedEvent : Json :=
  .obj [("it's \"a.b\" [ ", .arr [.null, .obj [("", .str "found")]])]

theorem nestedPath_read_back :
    nestedPath.printed = "$['it's \"a.b\" [ '][1]['']" ∧
      parse nestedPath.printed = .ok nestedPath ∧
      get nestedPath.printed nestedEvent = .ok (some (.str "found")) := by
  have printable : Printable nestedPath := by
    intro name member
    simp only [nestedPath, List.mem_cons, Segment.key.injEq, reduceCtorEq, List.not_mem_nil,
      or_false, false_or] at member
    rcases member with rfl | rfl <;> decide
  have ordered : nestedEvent.Ordered := by
    refine ⟨?_, ?_⟩
    · decide
    · simp [Json.OrderedMembers, Json.Ordered, Json.OrderedItems, Assoc.Sorted]
  have locates : Locates nestedEvent nestedPath (.str "found") :=
    .member List.mem_cons_self (.item rfl (.member List.mem_cons_self (.here _)))
  obtain ⟨reads, selects⟩ := printed_reads_back_iff nestedPath
  exact ⟨rfl, reads.mpr printable, selects printable _ _ ordered locates⟩

/-- A name with a closing bracket is not read back, and two paths can have one text. -/
theorem closing_bracket_cuts_name :
    Locates (.obj [("a]b", .str "found")]) [.key "a]b"] (.str "found") ∧
      printed [.key "a]b"] = "$['a]b']" ∧
      parse (printed [.key "a]b"]) = .error (.invalidIndex "'a" "$['a]b']") ∧
      get (printed [.key "a]b"]) (.obj [("a]b", .str "found")]) =
        .error (.invalidIndex "'a" "$['a]b']") ∧
      printed [.key "a']['b"] = printed [.key "a", .key "b"] := by
  refine ⟨.member List.mem_cons_self (.here _), rfl, ?_, ?_, rfl⟩ <;> decide +kernel

end Path

end EventDelivery
