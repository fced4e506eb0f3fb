import EventDelivery.Proofs.MappingForms
import EventDelivery.Proofs.PathGrammar
import EventDelivery.Proofs.TextParts

/-!
# Tokens and paths of the same names

A token of a template and a path can be written with the same names between points.
Both select the same value, and the token leaves its text, unless one of the names
spells a position: a path reads it as the key that it is, a token as a position in a
list, which an object does not have.
-/

namespace EventDelivery

/-- A name that is read as it is, in a token as well as in a path. -/
structure PlainName (name : String) : Prop where
  filled : name.toList ≠ []
  starts : ∀ c, name.toList.head? = some c → Text.isBlank c = false
  ends : ∀ c, name.toList.getLast? = some c → Text.isBlank c = false
  plain : ∀ c, c ∈ name.toList → c ≠ '.' ∧ c ≠ '[' ∧ c ≠ '{' ∧ c ≠ '}'

theorem plainName_iff {name : String} :
    PlainName name ↔
      name.toList ≠ [] ∧ (name.toList.head?.all fun c => !Text.isBlank c) = true ∧
        (name.toList.getLast?.all fun c => !Text.isBlank c) = true ∧
        (name.toList.all fun c => c != '.' && c != '[' && c != '{' && c != '}') = true := by
  simp only [Option.all_eq_true, List.all_eq_true, Bool.not_eq_true', Bool.and_eq_true,
    bne_iff_ne, and_assoc]
  constructor
  · rintro ⟨filled, starts, ends, plain⟩
    exact ⟨filled, starts, ends, plain⟩
  · rintro ⟨filled, starts, ends, plain⟩
    exact ⟨filled, starts, ends, plain⟩

instance (name : String) : Decidable (PlainName name) :=
  decidable_of_iff _ plainName_iff.symm

/-- Digits of a word of 64 bits, after a plus sign or not. -/
def SpellsPosition (name : String) : Prop :=
  ∃ (sign digits : List Char) (position : UInt64), name.toList = sign ++ digits ∧
    (sign = [] ∨ sign = ['+']) ∧ Text.Numeral digits position.toNat

theorem spellsPosition_iff {name : String} :
    SpellsPosition name ↔ (Text.readUInt64? name.toList).isSome = true := by
  rw [Option.isSome_iff_exists]
  constructor
  · rintro ⟨sign, digits, position, spelled⟩
    exact ⟨position, Text.readUInt64?_eq_some_iff.mpr ⟨sign, digits, spelled⟩⟩
  · rintro ⟨position, read⟩
    obtain ⟨sign, digits, spelled⟩ := Text.readUInt64?_eq_some_iff.mp read
    exact ⟨sign, digits, position, spelled⟩

instance (name : String) : Decidable (SpellsPosition name) :=
  decidable_of_iff _ spellsPosition_iff.symm

namespace PlainName

variable {name : String}

theorem not_mem (named : PlainName name) {c : Char} (special : c ∈ ['.', '[', '{', '}']) :
    c ∉ name.toList := by
  intro member
  have other := named.plain c member
  simp_all

private theorem trimChars_eq (named : PlainName name) : Text.trimChars name.toList = name.toList :=
  Text.trimChars_eq_self named.starts named.ends

private theorem segment_eq (named : PlainName name) (noPosition : ¬ SpellsPosition name) :
    Template.segment name.toList = .key name := by
  rw [spellsPosition_iff, Option.not_isSome_iff_eq_none] at noPosition
  simp [Template.segment, named.trimChars_eq, noPosition]

private theorem segment_of_spellsPosition (named : PlainName name) (spells : SpellsPosition name) :
    ∃ position, Template.segment name.toList = .index position := by
  obtain ⟨position, read⟩ := Option.isSome_iff_exists.mp (spellsPosition_iff.mp spells)
  exact ⟨position, by simp [Template.segment, named.trimChars_eq, read]⟩

end PlainName

/-- Names of which there is at least one. -/
inductive PlainNames : List String → Prop where
  | one {name : String} : PlainName name → PlainNames [name]
  | more {name : String} {rest : List String} :
      PlainName name → PlainNames rest → PlainNames (name :: rest)

namespace PlainNames

variable {names : List String}

theorem of_forall (filled : names ≠ []) (named : ∀ name, name ∈ names → PlainName name) :
    PlainNames names := by
  induction names, filled using List.recNeNil with
  | singleton name => exact .one (named name List.mem_cons_self)
  | cons name rest filled induction =>
      apply PlainNames.more (named name List.mem_cons_self)
      apply induction
      intro other member
      exact named other (List.mem_cons_of_mem name member)

theorem ne_nil (named : PlainNames names) : names ≠ [] := by
  cases named <;> simp

end PlainNames

namespace Path

def joined (names : List String) : String := ".".intercalate names

/-- The path from the root along names. -/
def dotted (names : List String) : String := "$." ++ joined names

theorem toList_joined_singleton (name : String) : (joined [name]).toList = name.toList := by
  simp [joined]

theorem toList_joined_cons (name : String) {rest : List String} (filled : rest ≠ []) :
    (joined (name :: rest)).toList = name.toList ++ '.' :: (joined rest).toList := by
  obtain ⟨next, rest, rfl⟩ := List.exists_cons_of_ne_nil filled
  simp [joined, String.toList_intercalate]

variable {names : List String}

/-- The first and the last character of joined names belong to names, so that there is
nothing around them to trim. -/
theorem joined_trimmed (named : PlainNames names) :
    (joined names).toList ≠ [] ∧
      (∀ c, (joined names).toList.head? = some c → Text.isBlank c = false) ∧
      ∀ c, (joined names).toList.getLast? = some c → Text.isBlank c = false := by
  induction named with
  | one here =>
      rw [toList_joined_singleton]
      exact ⟨here.filled, here.starts, here.ends⟩
  | more here named induction =>
      obtain ⟨notEmpty, _, ends⟩ := induction
      rw [toList_joined_cons _ named.ne_nil]
      refine ⟨by simp, ?_, ?_⟩
      · obtain ⟨first, others, split⟩ := List.exists_cons_of_ne_nil here.filled
        have starts := here.starts
        rw [split] at starts ⊢
        exact starts
      · rw [List.getLast?_append, List.getLast?_cons_of_ne_nil notEmpty,
          List.getLast?_eq_some_getLast notEmpty, Option.some_or,
          ← List.getLast?_eq_some_getLast notEmpty]
        exact ends

theorem splitOn_joined (named : PlainNames names) :
    Text.splitOn '.' (joined names).toList = names.map String.toList := by
  induction named with
  | one here =>
      rw [toList_joined_singleton, Text.splitOn_of_not_mem (here.not_mem (by simp))]
      rfl
  | more here named induction =>
      rw [toList_joined_cons _ named.ne_nil, Text.splitOn_append,
        Text.splitOn_of_not_mem (here.not_mem (by simp)), induction]
      rfl

theorem close_not_mem_joined (named : PlainNames names) : '}' ∉ (joined names).toList := by
  induction named with
  | one here =>
      rw [toList_joined_singleton]
      exact here.not_mem (by simp)
  | more here named induction =>
      have noClose := here.not_mem (c := '}') (by simp)
      rw [toList_joined_cons _ named.ne_nil]
      simp [noClose, induction]

private theorem piece_of_plainName {name : String} (named : PlainName name) :
    Piece ('.' :: name.toList) (.key name) := by
  have read := Piece.name named.filled (named.not_mem (by simp)) (named.not_mem (by simp))
  rwa [String.ofList_toList] at read

theorem pieces_joined (named : PlainNames names) :
    Pieces ('.' :: (joined names).toList) (names.map .key) := by
  induction named with
  | one here =>
      have made := Pieces.cons (piece_of_plainName here) .nil
      rwa [List.append_nil, ← toList_joined_singleton] at made
  | more here named induction =>
      have made := Pieces.cons (piece_of_plainName here) induction
      rwa [List.cons_append, ← toList_joined_cons _ named.ne_nil] at made

theorem parse_dotted (named : PlainNames names) :
    parse (dotted names) = .ok (names.map .key) := by
  obtain ⟨notEmpty, _, ends⟩ := joined_trimmed named
  have chars : (dotted names).toList = '$' :: '.' :: (joined names).toList := by
    simp [dotted]
  apply parse_eq_ok_iff.mpr
  refine ⟨_, ?_, pieces_joined named⟩
  rw [chars]
  apply Text.trimChars_eq_iff.mp
  apply Text.trimChars_eq_self
  · simp [Text.isBlank]
  · intro c last
    apply ends c
    rw [← last, List.getLast?_cons_cons, List.getLast?_cons_of_ne_nil notEmpty]

end Path

namespace Template

/-- The template of a single token along names. -/
def tokenOf (names : List String) : String :=
  "\x7b\x7b" ++ Path.joined names ++ "\x7d\x7d"

theorem read_token {held : List Char} (noClose : '}' ∉ held) (before rest : List Char) :
    read (.token before) (held ++ '}' :: '}' :: rest) =
      .token (before.reverse ++ held) :: read (.text []) rest := by
  induction held generalizing before with
  | nil => simp [read]
  | cons c held induction =>
      simp only [List.mem_cons, not_or] at noClose
      have here : ¬ c = '}' := Ne.symm noClose.1
      simp [read, here, induction noClose.2]

variable {names : List String}

private theorem parse_tokenOf (named : PlainNames names) :
    parse (tokenOf names) = [.text [], .token (Path.joined names).toList, .text []] := by
  have chars : (tokenOf names).toList =
      '{' :: '{' :: ((Path.joined names).toList ++ '}' :: '}' :: []) := by
    simp [tokenOf]
  rw [parse, chars, read, read_token (Path.close_not_mem_joined named)]
  rfl

private theorem tokenPath?_joined (named : PlainNames names) :
    tokenPath? (Path.joined names).toList =
      some (names.map fun name => segment name.toList) := by
  obtain ⟨notEmpty, starts, ends⟩ := Path.joined_trimmed named
  rw [tokenPath?, Text.trimChars_eq_self starts ends, Path.splitOn_joined named]
  simp [notEmpty]

theorem render_tokenOf (named : PlainNames names) (data : Json) :
    render (tokenOf names) data =
      ((Path.select (names.map fun name => segment name.toList) data).map valueText).getD
        "" := by
  rw [render, parse_tokenOf named]
  simp only [List.map_cons, List.map_nil, Piece.render, tokenPath?_joined named,
    Option.bind_some]
  cases Path.select (names.map fun name => segment name.toList) data <;> simp [String.join]

/-- Where a path selects by keys only, a position is asked of an object. -/
theorem select_segments_eq_none (named : ∀ name, name ∈ names → PlainName name)
    (spells : ∃ name, name ∈ names ∧ SpellsPosition name) {data value : Json}
    (selected : Path.select (names.map .key) data = some value) :
    Path.select (names.map fun name => segment name.toList) data = none := by
  induction names generalizing data with
  | nil => simp at spells
  | cons name rest induction =>
      have here := named name List.mem_cons_self
      cases data with
      | obj members =>
          simp only [List.map_cons, Path.select] at selected
          obtain ⟨inner, found, selected⟩ := Option.bind_eq_some_iff.mp selected
          by_cases position : SpellsPosition name
          · obtain ⟨position, spelled⟩ := here.segment_of_spellsPosition position
            simp [spelled, Path.select]
          · have later : ∃ name, name ∈ rest ∧ SpellsPosition name := by
              obtain ⟨other, member, spells⟩ := spells
              rcases List.mem_cons.mp member with rfl | member
              · exact absurd spells position
              · exact ⟨other, member, spells⟩
            have nothing := induction (fun other member =>
              named other (List.mem_cons_of_mem name member)) later selected
            simp [here.segment_eq position, Path.select, found, nothing]
      | _ => simp [Path.select] at selected

/-- What a path of names selects in an event, a token of the same names leaves the
text of, unless one of the names spells a position; then it leaves nothing. -/
theorem token_agrees_with_path {names : List String} (filled : names ≠ [])
    (named : ∀ name, name ∈ names → PlainName name) (members : List (String × Json))
    (value : Json) :
    Mapping.resolve (.obj members) (.obj [("@path", .str (Path.dotted names))]) =
        .ok (some value) →
      ((∀ name, name ∈ names → ¬ SpellsPosition name) →
        render (tokenOf names) (.obj members) =
          match value with
          | .str text => text
          | .null => ""
          | other => other.compact) ∧
      ((∃ name, name ∈ names ∧ SpellsPosition name) →
        render (tokenOf names) (.obj members) = "") := by
  intro selected
  have plain := PlainNames.of_forall filled named
  rw [Mapping.resolve_path, Path.get, Path.parse_dotted plain] at selected
  have found : Path.select (names.map .key) (.obj members) = some value := by
    simpa [bind, Except.bind] using selected
  rw [render_tokenOf plain]
  constructor
  · intro noPosition
    have keys : (names.map fun name => segment name.toList) = names.map .key := by
      apply List.map_congr_left
      intro name member
      exact (named name member).segment_eq (noPosition name member)
    rw [keys, found]
    cases value <;> rfl
  · intro spells
    rw [select_segments_eq_none named spells found]
    rfl

/-- The orders of a year, and those of a quarter. -/
def ordersEvent : List (String × Json) :=
  [("orders", .obj [("2024", .str "many"), ("2024 Q1", .arr [.ofInt 7, .null])])]

theorem ordersEvent_tokens :
    Mapping.resolve (.obj ordersEvent)
        (.obj [("@path", .str (Path.dotted ["orders", "2024 Q1"]))]) =
      .ok (some (.arr [.ofInt 7, .null])) ∧
    render (tokenOf ["orders", "2024 Q1"]) (.obj ordersEvent) = "[7,null]" ∧
    Mapping.resolve (.obj ordersEvent)
        (.obj [("@path", .str (Path.dotted ["orders", "2024"]))]) =
      .ok (some (.str "many")) ∧
    render (tokenOf ["orders", "2024"]) (.obj ordersEvent) = "" := by
  have quarter : Mapping.resolve (.obj ordersEvent)
      (.obj [("@path", .str (Path.dotted ["orders", "2024 Q1"]))]) =
        .ok (some (.arr [.ofInt 7, .null])) := by
    decide +kernel
  have year : Mapping.resolve (.obj ordersEvent)
      (.obj [("@path", .str (Path.dotted ["orders", "2024"]))]) =
        .ok (some (.str "many")) := by
    decide +kernel
  have agrees := token_agrees_with_path (List.cons_ne_nil _ _) (by decide) _ _ quarter
  have differs := token_agrees_with_path (List.cons_ne_nil _ _) (by decide) _ _ year
  exact ⟨quarter, (agrees.1 (by decide)).trans (by decide +kernel), year,
    differs.2 (by decide)⟩

/-- A key that spells a position is found by a path and missed by a token. -/
theorem year_path_and_token_differ :
    (∀ name, name ∈ ["orders", "2024"] → PlainName name) ∧
      Path.dotted ["orders", "2024"] = "$.orders.2024" ∧
      tokenOf ["orders", "2024"] = "\x7b\x7borders.2024\x7d\x7d" ∧
      Mapping.resolve (.obj ordersEvent) (.obj [("@path", .str "$.orders.2024")]) =
        .ok (some (.str "many")) ∧
      render "\x7b\x7borders.2024\x7d\x7d" (.obj ordersEvent) = "" := by
  refine ⟨by decide, rfl, rfl, ?_, ?_⟩ <;> decide +kernel

end Template

end EventDelivery
