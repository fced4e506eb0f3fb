import EventDelivery.Mapping.Template
import EventDelivery.Proofs.OctetSearch

/-!
# Rendering templates in one pass

A template is rendered from left to right: the text before the first opening braces, the
text of the value of the token up to the first closing braces behind them, and so on
behind these.  A scan by positions among the octets of the template does the same, so
that it ends, and takes no part of the template that is not made of whole characters.
-/

namespace EventDelivery

namespace Template

open Text (First encode find? slice?)

def opening : List Char := ['{', '{']

def closing : List Char := ['}', '}']

/-- What a token leaves.  Nothing is left where no value is selected, for want of a path
or of a value there, and where the value is null. -/
inductive Leaves (data : Json) (token : List Char) : List Char → Prop where
  | empty : Text.trimChars token = [] → Leaves data token []
  | absent {path : Path} :
      tokenPath? token = some path → path.select data = none → Leaves data token []
  | null {path : Path} :
      tokenPath? token = some path → path.select data = some .null → Leaves data token []
  | text {path : Path} {s : String} :
      tokenPath? token = some path → path.select data = some (.str s) →
      Leaves data token s.toList
  | value {path : Path} {value : Json} :
      tokenPath? token = some path → path.select data = some value →
      value ≠ .null → (∀ s, value ≠ .str s) → Leaves data token value.compact.toList

/-- The text that characters of a template are rendered to.  What a token leaves is put
behind the text before it, and rendering goes on behind the token. -/
inductive Rendered (data : Json) : (template rendered : List Char) → Prop where
  | text {template : List Char} :
      ¬ opening <:+: template → Rendered data template template
  /-- A token is opened, but it is never closed: the braces stay with all that follows. -/
  | unclosed {template before opened : List Char} :
      First opening before opened template → ¬ closing <:+: opened →
      Rendered data template (before ++ (opening ++ opened))
  | token {template before opened token after left rendered : List Char} :
      First opening before opened template → First closing token after opened →
      Leaves data token left → Rendered data after rendered →
      Rendered data template (before ++ (left ++ rendered))

theorem leaves_iff {data : Json} {token left : List Char} :
    Leaves data token left ↔ left = (Piece.render data (.token token)).toList := by
  constructor
  · intro leaves
    cases leaves with
    | empty blank => simp [Piece.render, tokenPath?, blank]
    | absent path nothing => simp [Piece.render, path, nothing]
    | null path selected => simp [Piece.render, path, selected, valueText]
    | text path selected => simp [Piece.render, path, selected, valueText]
    | @value _ value path selected filled other =>
        cases value <;> simp_all [Piece.render, valueText]
  · rintro rfl
    cases named : tokenPath? token with
    | none =>
        have blank : Text.trimChars token = [] := by simpa [tokenPath?] using named
        simpa [Piece.render, named] using Leaves.empty blank
    | some path =>
        cases selected : path.select data with
        | none => simpa [Piece.render, named, selected] using Leaves.absent named selected
        | some value =>
            simp only [Piece.render, named, Option.bind_some, selected]
            cases value with
            | null => exact .null named selected
            | str s => exact .text named selected
            | _ => exact .value named selected nofun nofun

private theorem length_behind_lt {template before opened token after : List Char}
    (first : First opening before opened template)
    (second : First closing token after opened) : after.length < template.length := by
  rw [first.text_eq, second.text_eq]
  simp only [List.length_append, opening, closing, List.length_cons, List.length_nil]
  omega

section Read

theorem opening_ne_nil : opening ≠ [] := List.cons_ne_nil _ _

private theorem closing_ne_nil : closing ≠ [] := List.cons_ne_nil _ _

variable {c : Char} {before after text : List Char}

private theorem read_text_cons (other : ¬ opening <+: c :: text) (read : List Char) :
    Template.read (.text read) (c :: text) = Template.read (.text (c :: read)) text := by
  rw [Template.read]
  rintro rest rfl rfl
  exact other (List.prefix_append opening rest)

private theorem read_token_cons (other : ¬ closing <+: c :: text) (read : List Char) :
    Template.read (.token read) (c :: text) = Template.read (.token (c :: read)) text := by
  rw [Template.read]
  rintro rest rfl rfl
  exact other (List.prefix_append closing rest)

private theorem read_text_first (first : First opening before after text) (read : List Char) :
    Template.read (.text read) text =
      .text (read.reverse ++ before) :: Template.read (.token []) after := by
  induction first generalizing read with
  | here after => simp [opening, Template.read]
  | later other _ induction => rw [read_text_cons other, induction]; simp

theorem read_text_absent (absent : ¬ opening <:+: text) (read : List Char) :
    Template.read (.text read) text = [.text (read.reverse ++ text)] := by
  induction text generalizing read with
  | nil => simp [Template.read]
  | cons c text induction =>
      rw [List.infix_cons_iff, not_or] at absent
      rw [read_text_cons absent.1, induction absent.2]
      simp

private theorem read_token_first (first : First closing before after text) (read : List Char) :
    Template.read (.token read) text =
      .token (read.reverse ++ before) :: Template.read (.text []) after := by
  induction first generalizing read with
  | here after => simp [closing, Template.read]
  | later other _ induction => rw [read_token_cons other, induction]; simp

theorem read_token_absent (absent : ¬ closing <:+: text) (read : List Char) :
    Template.read (.token read) text = [.text (opening ++ (read.reverse ++ text))] := by
  induction text generalizing read with
  | nil => simp [Template.read, opening]
  | cons c text induction =>
      rw [List.infix_cons_iff, not_or] at absent
      rw [read_token_cons absent.1, induction absent.2]
      simp

/-- The characters that pieces leave. -/
def leave (data : Json) (pieces : List Piece) : List Char :=
  pieces.flatMap fun piece => (Piece.render data piece).toList

private theorem toList_render (template : String) (data : Json) :
    (render template data).toList = leave data (parse template) := by
  simp [render, leave, String.toList_join, List.flatMap_map]

theorem rendered_leave (data : Json) (template : List Char) :
    Rendered data template (leave data (Template.read (.text []) template)) := by
  -- on the length: rendering goes on behind a token
  generalize measured : template.length = length
  induction length using Nat.strongRecOn generalizing template with
  | ind length shorter =>
      rcases Text.exists_first_or_absent opening_ne_nil template with
        ⟨before, opened, first⟩ | absent
      · rcases Text.exists_first_or_absent closing_ne_nil opened with
          ⟨token, after, second⟩ | absent
        · have later := shorter _ (measured ▸ length_behind_lt first second) after rfl
          rw [read_text_first first, read_token_first second]
          have rendered := Rendered.token first second (leaves_iff.mpr rfl) later
          simpa [leave, Piece.render] using rendered
        · rw [read_text_first first, read_token_absent absent]
          have rendered := @Rendered.unclosed data _ _ _ first absent
          simpa [leave, Piece.render] using rendered
      · rw [read_text_absent absent]
        have rendered := @Rendered.text data _ absent
        simpa [leave, Piece.render] using rendered

end Read

namespace Scan

/-- Where a scan stands in a template, and what it has written. -/
structure State where
  position : Nat
  written : String

/-- What a turn of a scan comes to. -/
inductive Turn where
  /-- A token has been written, and the scan goes on behind it. -/
  | token (state : State)
  | over (state : State)

/-- One turn of a scan; none where it takes a part that the template does not have. -/
def turn? (template : String) (data : Json) (state : State) : Option Turn :=
  match find? template (String.ofList opening) state.position with
  | none => some (.over state)
  | some start => do
    let before ← slice? template state.position start
    match find? template (String.ofList closing) (start + 2) with
    | none => do
      let rest ← slice? template start template.utf8ByteSize
      some (.over ⟨template.utf8ByteSize, state.written ++ before ++ rest⟩)
    | some stop => do
      let token ← slice? template (start + 2) stop
      some (.token ⟨stop + 2,
        state.written ++ before ++ Piece.render data (.token token.toList)⟩)

/-- What is written at the end: the rest of the template follows. -/
def finish? (template : String) (state : State) : Option String :=
  if state.position < template.utf8ByteSize then
    (slice? template state.position template.utf8ByteSize).map (state.written ++ ·)
  else some state.written

/-- A scan with a number of turns; none where one of them takes a part that the template
does not have, and where they do not suffice. -/
def scan? (template : String) (data : Json) : (turns : Nat) → State → Option String
  | 0, _ => none
  | turns + 1, state =>
    match turn? template data state with
    | none => none
    | some (.over state) => finish? template state
    | some (.token state) => scan? template data turns state

/-- Renders a template by positions among its octets, in at most one turn more than it
has octets. -/
def render? (template : String) (data : Json) : Option String :=
  scan? template data (template.utf8ByteSize + 1) ⟨0, ""⟩

variable {data : Json} {rest : List Char}

/-- The state behind some characters of a template. -/
def State.behind (before : List Char) (written : String) : State :=
  ⟨(encode before).length, written⟩

private theorem length_encode_add_two {braces : List Char} (two : (encode braces).length = 2)
    (before : List Char) :
    (encode before).length + 2 = (encode (before ++ braces)).length := by
  rw [Text.encode_append, List.length_append, two]

section Turn

variable {piece opened : List Char}

private theorem turn?_text (absent : ¬ opening <:+: rest) (before : List Char) (written : String) :
    turn? (String.ofList (before ++ rest)) data (.behind before written) =
      some (.over (.behind before written)) := by
  rw [turn?, State.behind, Text.find?_eq_none opening_ne_nil absent]

theorem turn?_unclosed (first : First opening piece opened rest)
    (absent : ¬ closing <:+: opened) (before : List Char) (written : String) :
    turn? (String.ofList (before ++ rest)) data (.behind before written) =
      some (.over (.behind (before ++ rest)
        (written ++ String.ofList (piece ++ (opening ++ opened))))) := by
  have found := Text.find?_eq_some opening_ne_nil first before
  have missed := Text.find?_eq_none closing_ne_nil absent (before ++ (piece ++ opening))
  obtain rfl := first.text_eq
  have kept := Text.slice?_eq_some before piece (opening ++ opened)
  have left := Text.slice?_rest (before ++ piece) (opening ++ opened)
  have inside := @length_encode_add_two opening rfl (before ++ piece)
  simp only [List.append_assoc] at inside missed left
  simp only [turn?, State.behind, found, inside, missed, kept, left, Option.bind_eq_bind,
    Option.bind_some]
  rw [Text.utf8ByteSize_ofList, @String.ofList_append piece, String.append_assoc]

theorem turn?_token {token after : List Char} (first : First opening piece opened rest)
    (second : First closing token after opened) (before : List Char) (written : String) :
    turn? (String.ofList (before ++ rest)) data (.behind before written) =
      some (.token (.behind (before ++ (piece ++ (opening ++ (token ++ closing))))
        (written ++ String.ofList piece ++ Piece.render data (.token token)))) := by
  have found := Text.find?_eq_some opening_ne_nil first before
  have closed := Text.find?_eq_some closing_ne_nil second (before ++ (piece ++ opening))
  obtain rfl := second.text_eq
  obtain rfl := first.text_eq
  have kept := Text.slice?_eq_some before piece (opening ++ (token ++ (closing ++ after)))
  have held := Text.slice?_eq_some (before ++ (piece ++ opening)) token (closing ++ after)
  have inside := @length_encode_add_two opening rfl (before ++ piece)
  have behind := @length_encode_add_two closing rfl (before ++ (piece ++ (opening ++ token)))
  simp only [List.append_assoc] at inside closed held behind
  simp only [turn?, State.behind, found, inside, closed, kept, held, behind,
    Option.bind_eq_bind, Option.bind_some, String.toList_ofList]

theorem finish?_behind (before : List Char) (written : String) :
    finish? (String.ofList (before ++ rest)) (.behind before written) =
      some (written ++ String.ofList rest) := by
  have left := Text.slice?_rest before rest
  rw [finish?, State.behind, left, Text.utf8ByteSize_ofList]
  split
  · rfl
  · -- nothing is left when all octets are behind
    rename_i reached
    have size := Text.length_le_length_encode rest
    simp only [Text.encode_append, List.length_append] at reached
    have nothing : rest = [] := List.eq_nil_of_length_eq_zero (by omega)
    simp [nothing]

end Turn

/-- From behind some characters a scan goes on as the rest is rendered.  More turns than
there are characters left are enough. -/
theorem scan?_of_rendered {rendered : List Char} (renders : Rendered data rest rendered)
    (before : List Char) (written : String) {turns : Nat} (enough : rest.length ≤ turns) :
    scan? (String.ofList (before ++ rest)) data (turns + 1) (.behind before written) =
      some (written ++ String.ofList rendered) := by
  induction renders generalizing before written turns with
  | text absent =>
      rw [scan?, turn?_text absent]
      exact finish?_behind before written
  | @unclosed template piece opened first absent =>
      rw [scan?, turn?_unclosed first absent]
      have finished := @finish?_behind [] (before ++ template)
        (written ++ String.ofList (piece ++ (opening ++ opened)))
      simpa using finished
  | @token template piece opened token after left rendered first second leaves _ induction =>
      have fewer : after.length < turns :=
        Nat.lt_of_lt_of_le (length_behind_lt first second) enough
      obtain ⟨turns, rfl⟩ := Nat.exists_eq_add_one_of_ne_zero (Nat.ne_zero_of_lt fewer)
      have whole : template = piece ++ (opening ++ (token ++ (closing ++ after))) := by
        rw [first.text_eq, second.text_eq]
      have later := induction (before ++ (piece ++ (opening ++ (token ++ closing))))
        (written ++ String.ofList piece ++ Piece.render data (.token token))
        (Nat.le_of_lt_succ fewer)
      rw [scan?, turn?_token first second, leaves_iff.mp leaves]
      simpa [whole, String.append_assoc] using later

theorem render?_of_rendered {template : String} {rendered : List Char}
    (renders : Rendered data template.toList rendered) :
    render? template data = some (String.ofList rendered) := by
  have enough : template.toList.length ≤ template.utf8ByteSize := by
    have size := Text.length_le_length_encode template.toList
    rwa [← Text.utf8ByteSize_ofList, String.ofList_toList] at size
  have scanned := scan?_of_rendered renders [] "" enough
  rwa [List.nil_append, String.ofList_toList, String.empty_append] at scanned

end Scan

/-- The pieces of a template are what its characters are rendered to, from left to right
and in one way only, and a scan by positions among its octets comes to an end with the
same text: every part that it takes lies between characters of the template. -/
theorem render_single_pass (template : String) (data : Json) :
    (∀ rendered : List Char, Rendered data template.toList rendered ↔
      rendered = (render template data).toList) ∧
    Scan.render? template data = some (render template data) := by
  have renders : Rendered data template.toList (render template data).toList := by
    rw [toList_render]
    exact rendered_leave data template.toList
  have scanned := Scan.render?_of_rendered renders
  constructor
  · intro rendered
    constructor
    · -- there is one scan, whatever the template is rendered to
      intro other
      have again := Scan.render?_of_rendered other
      rw [scanned, Option.some.injEq] at again
      exact (String.ofList_inj.mp again).symm
    · rintro rfl
      exact renders
  · rw [scanned, String.ofList_toList]

/-- Braces that come from the data stay, and a third brace belongs to the token. -/
example : Scan.render? "é\x7b\x7ba\x7d\x7d\x7b\x7b\x7ba\x7d\x7d\x7d"
    (.obj [("a", .str "\x7b\x7ba\x7d\x7d")]) = some "é\x7b\x7ba\x7d\x7d\x7d" := by
  decide +kernel

end Template

end EventDelivery
