import EventDelivery.Mapping.Path
import Mathlib.Data.List.Induction
import Mathlib.Data.List.TakeWhile

/-!
# The grammar of paths

A path is the root followed by pieces: names after points, and quoted names or
positions between brackets.  Reading accepts the texts of this grammar and gives
their steps; every other text has a fault that names it.
-/

namespace EventDelivery

namespace Text

/-- What is left of characters without the blank ones at both ends. -/
def Trimmed (chars inner : List Char) : Prop :=
  ∃ before after, chars = before ++ inner ++ after ∧
    (∀ c, c ∈ before → isBlank c = true) ∧ (∀ c, c ∈ after → isBlank c = true) ∧
    (∀ c, inner.head? = some c → isBlank c = false) ∧
    ∀ c, inner.getLast? = some c → isBlank c = false

/-- At least one digit, with the number that the digits stand for. -/
inductive Numeral : List Char → Nat → Prop where
  | digit {c : Char} : c.isDigit = true → Numeral [c] (c.toNat - '0'.toNat)
  | more {digits : List Char} {value : Nat} {c : Char} :
      Numeral digits value → c.isDigit = true →
      Numeral (digits ++ [c]) (10 * value + (c.toNat - '0'.toNat))

section Trimming

variable {p : Char → Bool}

private theorem dropWhile_eq_self {chars : List Char}
    (starts : ∀ c, chars.head? = some c → p c = false) : chars.dropWhile p = chars := by
  cases chars with
  | nil => rfl
  | cons c rest => simp [starts c rfl]

private theorem head?_dropWhile {chars : List Char} {c : Char}
    (first : (chars.dropWhile p).head? = some c) : p c = false := by
  have stops := List.head?_dropWhile_not p chars
  rw [first] at stops
  exact stops

theorem trimBy_append {before inner after : List Char}
    (blankBefore : ∀ c, c ∈ before → p c = true)
    (blankAfter : ∀ c, c ∈ after → p c = true)
    (starts : ∀ c, inner.head? = some c → p c = false)
    (ends : ∀ c, inner.getLast? = some c → p c = false) :
    trimBy p (before ++ inner ++ after) = inner := by
  have noneAfter : after.dropWhile p = [] := List.dropWhile_eq_nil_iff.mpr blankAfter
  have front : (before ++ inner ++ after).dropWhile p =
      (inner ++ after).dropWhile p := by
    rw [List.append_assoc, List.dropWhile_append_of_pos blankBefore]
  have back : ∀ c, inner.reverse.head? = some c → p c = false := by
    intro c last
    exact ends c (by simpa using last)
  rw [trimBy, front]
  cases inner with
  | nil => simp [noneAfter, dropEndWhile]
  | cons c rest =>
      have stays : (c :: rest ++ after).dropWhile p = c :: rest ++ after :=
        dropWhile_eq_self (fun other first => starts other (by simpa using first))
      rw [stays, dropEndWhile, List.reverse_append,
        List.dropWhile_append_of_pos (fun c member => blankAfter c (by simpa using member)),
        dropWhile_eq_self back, List.reverse_reverse]

theorem trimmed_trimChars (chars : List Char) : Trimmed chars (trimChars chars) := by
  let front := chars.dropWhile isBlank
  have split : chars = chars.takeWhile isBlank ++ front :=
    List.takeWhile_append_dropWhile.symm
  have splitBack : front =
      trimChars chars ++ (front.reverse.takeWhile isBlank).reverse := by
    rw [trimChars, trimBy, dropEndWhile, ← List.reverse_append,
      List.takeWhile_append_dropWhile, List.reverse_reverse]
  refine ⟨chars.takeWhile isBlank, (front.reverse.takeWhile isBlank).reverse,
    ?_, ?_, ?_, ?_, ?_⟩
  · rw [List.append_assoc, ← splitBack]
    exact split
  · exact fun c member => List.mem_takeWhile_imp member
  · intro c member
    exact List.mem_takeWhile_imp (List.mem_reverse.mp member)
  · intro c first
    have starts : front.head? = some c := by
      rw [splitBack, List.head?_append, first]
      rfl
    exact head?_dropWhile starts
  · intro c last
    have ends : (front.reverse.dropWhile isBlank).head? = some c := by
      simpa [trimChars, trimBy, dropEndWhile, front] using last
    exact head?_dropWhile ends

theorem trimChars_eq_iff {chars inner : List Char} :
    trimChars chars = inner ↔ Trimmed chars inner := by
  constructor
  · rintro rfl
    exact trimmed_trimChars chars
  · rintro ⟨before, after, rfl, blankBefore, blankAfter, starts, ends⟩
    exact trimBy_append blankBefore blankAfter starts ends

theorem trimChars_eq_self {chars : List Char}
    (starts : ∀ c, chars.head? = some c → isBlank c = false)
    (ends : ∀ c, chars.getLast? = some c → isBlank c = false) :
    trimChars chars = chars := by
  apply trimChars_eq_iff.mpr
  exact ⟨[], [], by simp, by simp, by simp, starts, ends⟩

theorem length_trimChars_le (chars : List Char) :
    (trimChars chars).length ≤ chars.length := by
  obtain ⟨before, after, split, _⟩ := trimmed_trimChars chars
  have measured := congrArg List.length split
  simp only [List.length_append] at measured
  omega

end Trimming

section Numerals

private theorem digitsValue_concat (digits : List Char) (c : Char) :
    digitsValue (digits ++ [c]) = 10 * digitsValue digits + (c.toNat - '0'.toNat) := by
  simp [digitsValue]

theorem numeral_iff {digits : List Char} {value : Nat} :
    Numeral digits value ↔
      digits ≠ [] ∧ digits.all Char.isDigit = true ∧ digitsValue digits = value := by
  constructor
  · intro numeral
    induction numeral with
    | digit isDigit => simp [isDigit, digitsValue]
    | more _ isDigit induction =>
        obtain ⟨_, digits, same⟩ := induction
        refine ⟨by simp, ?_, ?_⟩
        · rw [List.all_append, digits]
          simp [isDigit]
        · rw [digitsValue_concat, same]
  · rintro ⟨filled, allDigits, rfl⟩
    induction digits using List.reverseRecOn with
    | nil => exact absurd rfl filled
    | append_singleton front c induction =>
        simp only [List.all_append, List.all_cons, List.all_nil, Bool.and_true,
          Bool.and_eq_true] at allDigits
        by_cases alone : front = []
        · subst alone
          have single := Numeral.digit allDigits.2
          simpa [digitsValue] using single
        · rw [digitsValue_concat]
          exact .more (induction alone allDigits.1) allDigits.2

theorem dropPlus_digits {digits : List Char} (filled : digits ≠ [])
    (allDigits : digits.all Char.isDigit = true) : dropPlus digits = digits := by
  cases digits with
  | nil => exact absurd rfl filled
  | cons c rest =>
      have noPlus : c ≠ '+' := by
        rintro rfl
        simp [show Char.isDigit '+' = false from rfl] at allDigits
      unfold dropPlus
      split
      · rename_i same
        exact absurd (List.cons.inj same).1 noPlus
      · rfl

/-- A word of 64 bits is written as a numeral, after a plus sign or not. -/
theorem readUInt64?_eq_some_iff {chars : List Char} {position : UInt64} :
    readUInt64? chars = some position ↔
      ∃ sign digits, chars = sign ++ digits ∧ (sign = [] ∨ sign = ['+']) ∧
        Numeral digits position.toNat := by
  have reads : ∀ digits, dropPlus chars = digits →
      (readUInt64? chars = some position ↔ Numeral digits position.toNat) := by
    rintro digits rfl
    rw [numeral_iff]
    unfold readUInt64?
    have small := position.toNat_lt
    by_cases filled : dropPlus chars = []
    · simp [filled]
    · by_cases allDigits : (dropPlus chars).all Char.isDigit = true
      · have proceed : ¬ ((dropPlus chars).isEmpty ||
            !(dropPlus chars).all Char.isDigit) = true := by
          simp [filled, allDigits]
        rw [if_neg proceed]
        by_cases bound : digitsValue (dropPlus chars) < UInt64.size
        · rw [if_pos bound]
          constructor
          · rintro ⟨⟩
            exact ⟨filled, allDigits, (UInt64.toNat_ofNat_of_lt bound).symm⟩
          · rintro ⟨_, _, same⟩
            rw [same, UInt64.ofNat_toNat]
        · rw [if_neg bound]
          constructor
          · intro impossible
            cases impossible
          · rintro ⟨_, _, same⟩
            exact absurd (same ▸ small) bound
      · simp [allDigits]
  constructor
  · intro read
    by_cases signed : chars.head? = some '+'
    · obtain ⟨rest, rfl⟩ := List.head?_eq_some_iff.mp signed
      exact ⟨['+'], rest, rfl, .inr rfl, (reads rest rfl).mp read⟩
    · have unsigned : dropPlus chars = chars := by
        unfold dropPlus
        split
        · exact absurd rfl signed
        · rfl
      exact ⟨[], chars, rfl, .inl rfl, (reads chars unsigned).mp read⟩
  · rintro ⟨sign, digits, rfl, rfl | rfl, numeral⟩
    · obtain ⟨filled, allDigits, _⟩ := numeral_iff.mp numeral
      exact (reads digits (dropPlus_digits filled allDigits)).mpr numeral
    · exact (reads digits rfl).mpr numeral

end Numerals

end Text

namespace Path

/-- What brackets stand for: a name between quotes, or a position. -/
inductive Bracketed : List Char → Segment → Prop where
  | quoted {quote : Char} {name : List Char} :
      quote = '\'' ∨ quote = '"' →
      Bracketed (quote :: (name ++ [quote])) (.key (String.ofList name))
  | position {sign digits : List Char} {position : UInt64} :
      sign = [] ∨ sign = ['+'] → Text.Numeral digits position.toNat →
      Bracketed (sign ++ digits) (.index position)

/-- A piece of a path with the step that it stands for. -/
inductive Piece : List Char → Segment → Prop where
  | name {name : List Char} :
      name ≠ [] → '.' ∉ name → '[' ∉ name →
      Piece ('.' :: name) (.key (String.ofList name))
  | bracket {held inner : List Char} {segment : Segment} :
      ']' ∉ held → Text.Trimmed held inner → Bracketed inner segment →
      Piece ('[' :: (held ++ [']'])) segment

/-- Pieces one after another, with their steps in order. -/
inductive Pieces : List Char → Path → Prop where
  | nil : Pieces [] []
  | cons {piece rest : List Char} {segment : Segment} {steps : Path} :
      Piece piece segment → Pieces rest steps → Pieces (piece ++ rest) (segment :: steps)

/-- A text is a path: the root and pieces, with blanks around them. -/
def Spells (text : String) (steps : Path) : Prop :=
  ∃ body, Text.Trimmed text.toList ('$' :: body) ∧ Pieces body steps

/-- The faults of a path; each names the path. -/
inductive Faulty (text : String) : MappingFault → Prop where
  | rootless : Faulty text (.rootless text)
  | emptySegment : Faulty text (.emptySegment text)
  | unclosedBracket : Faulty text (.unclosedBracket text)
  | unexpected (c : Char) : Faulty text (.unexpected c text)
  | invalidIndex (inner : String) : Faulty text (.invalidIndex inner text)

theorem unquote?_eq_some_iff {quote : Char} {chars name : List Char} :
    unquote? quote chars = some name ↔ chars = quote :: (name ++ [quote]) := by
  cases chars with
  | nil => simp [unquote?]
  | cons c rest =>
      simp only [unquote?, Option.ite_none_right_eq_some, Option.some.injEq,
        List.cons.injEq, List.getLast?_eq_some_iff]
      constructor
      · rintro ⟨⟨rfl, front, rfl⟩, same⟩
        rw [List.dropLast_concat] at same
        exact ⟨rfl, by rw [same]⟩
      · rintro ⟨rfl, rfl⟩
        exact ⟨⟨rfl, name, rfl⟩, List.dropLast_concat⟩

theorem bracketed_eq_ok_iff {path : String} {inner : List Char} {segment : Segment} :
    bracketed path inner = .ok segment ↔ Bracketed inner segment := by
  constructor
  · intro accepted
    unfold bracketed at accepted
    split at accepted
    · rename_i name found
      cases accepted
      rw [unquote?_eq_some_iff.mp found]
      exact .quoted (.inl rfl)
    · split at accepted
      · rename_i name found
        cases accepted
        rw [unquote?_eq_some_iff.mp found]
        exact .quoted (.inr rfl)
      · split at accepted
        · rename_i position found
          cases accepted
          obtain ⟨sign, digits, rfl, signed, numeral⟩ :=
            Text.readUInt64?_eq_some_iff.mp found
          exact .position signed numeral
        · cases accepted
  · intro bracketed
    cases bracketed with
    | @quoted quote name known =>
        rcases known with rfl | rfl
        · simp [Path.bracketed, unquote?_eq_some_iff.mpr rfl]
        · have other : unquote? '\'' ('"' :: (name ++ ['"'])) = none := by
            simp [unquote?]
          simp [Path.bracketed, other, unquote?_eq_some_iff.mpr rfl]
    | @position sign digits position signed numeral =>
        have read := Text.readUInt64?_eq_some_iff.mpr ⟨sign, digits, rfl, signed, numeral⟩
        -- A sign and a digit are not quotes.
        have unquoted : ∀ quote, quote.isDigit = false → quote ≠ '+' →
            unquote? quote (sign ++ digits) = none := by
          intro quote noDigit noPlus
          apply Option.eq_none_iff_forall_ne_some.mpr
          intro name found
          have first := congrArg List.head? (unquote?_eq_some_iff.mp found)
          obtain ⟨filled, allDigits, _⟩ := Text.numeral_iff.mp numeral
          rcases signed with rfl | rfl
          · obtain ⟨c, rest, rfl⟩ := List.exists_cons_of_ne_nil filled
            simp only [List.nil_append, List.head?_cons, Option.some.injEq] at first
            simp [first, noDigit] at allDigits
          · simp only [List.cons_append, List.head?_cons, Option.some.injEq] at first
            exact noPlus first.symm
        simp [Path.bracketed, unquoted '\'' rfl (by decide),
          unquoted '"' rfl (by decide), read]

theorem bracketed_faulty {path : String} {inner : List Char} {fault : MappingFault}
    (refused : bracketed path inner = .error fault) : Faulty path fault := by
  unfold bracketed at refused
  split at refused
  · cases refused
  · split at refused
    · cases refused
    · split at refused
      · cases refused
      · cases refused
        exact .invalidIndex _

/-- Whether a character can stand in a name after a point. -/
def isInName (c : Char) : Bool := c != '.' && c != '['

/-- How a text goes on where a piece may start.  A name reaches up to the next piece,
and brackets up to the first closing one. -/
inductive Front : List Char → Prop where
  | done : Front []
  | name {name rest : List Char} :
      (∀ c, c ∈ name → isInName c = true) →
      (∀ c, rest.head? = some c → isInName c = false) →
      Front ('.' :: (name ++ rest))
  | bracket {held rest : List Char} :
      ']' ∉ held → Front ('[' :: (held ++ ']' :: rest))
  | unclosed {held : List Char} : ']' ∉ held → Front ('[' :: held)
  | unexpected {c : Char} {rest : List Char} :
      c ≠ '.' → c ≠ '[' → Front (c :: rest)

theorem front (chars : List Char) : Front chars := by
  cases chars with
  | nil => exact .done
  | cons c rest =>
      by_cases point : c = '.'
      · subst point
        rw [← List.takeWhile_append_dropWhile (p := isInName) (l := rest)]
        exact .name (fun c member => List.mem_takeWhile_imp member)
          (fun c first => Text.head?_dropWhile first)
      · by_cases bracket : c = '['
        · subst bracket
          by_cases closes : ']' ∈ rest
          · obtain ⟨held, following, rfl, noClose⟩ := List.eq_append_cons_of_mem closes
            exact .bracket noClose
          · exact .unclosed closes
        · exact .unexpected point bracket

section Reading

variable (path : String)

/-- A name ends where the next piece starts; what has been read of it comes last
character first. -/
theorem read_name (name rest read : List Char)
    (inName : ∀ c, c ∈ name → isInName c = true)
    (ends : ∀ c, rest.head? = some c → isInName c = false) :
    Path.read path (.name read) (name ++ rest) =
      if read = [] ∧ name = [] then .error (.emptySegment path)
      else (Path.read path .between rest).map
        (.key (String.ofList (read.reverse ++ name)) :: ·) := by
  induction name generalizing read with
  | nil =>
      cases rest with
      | nil => cases read <;> simp [Path.read, Except.map]
      | cons c rest =>
          have stop : c = '.' ∨ c = '[' := by
            have outside := ends c rfl
            simp only [isInName, Bool.and_eq_false_iff, bne_eq_false_iff_eq] at outside
            exact outside
          rcases stop with rfl | rfl <;> cases read <;>
            simp [Path.read, Except.map, bind, Except.bind]
  | cons c name induction =>
      have inside := inName c List.mem_cons_self
      have here : ¬ (c = '.' ∨ c = '[') := by
        simpa [isInName] using inside
      have later := induction (c :: read) fun other member =>
        inName other (List.mem_cons_of_mem c member)
      simp [Path.read, here, later]

theorem read_point {name rest : List Char}
    (inName : ∀ c, c ∈ name → isInName c = true)
    (ends : ∀ c, rest.head? = some c → isInName c = false) :
    Path.read path .between ('.' :: (name ++ rest)) =
      if name = [] then .error (.emptySegment path)
      else (Path.read path .between rest).map (.key (String.ofList name) :: ·) := by
  simpa [Path.read] using read_name path name rest [] inName ends

theorem read_held (held read rest : List Char) (noClose : ']' ∉ held) :
    Path.read path (.bracket read) (held ++ ']' :: rest) =
      (bracketed path (Text.trimChars (read.reverse ++ held))).bind fun segment =>
        (Path.read path .between rest).map (segment :: ·) := by
  induction held generalizing read with
  | nil =>
      simp only [List.nil_append, List.append_nil, Path.read, if_true]
      cases bracketed path (Text.trimChars read.reverse) <;>
        cases Path.read path .between rest <;> rfl
  | cons c held induction =>
      have here : c ≠ ']' := fun same => noClose (by simp [same])
      have later := induction (c :: read) fun member =>
        noClose (List.mem_cons_of_mem c member)
      simp [Path.read, here, later]

theorem read_bracket {held : List Char} (noClose : ']' ∉ held) (rest : List Char) :
    Path.read path .between ('[' :: (held ++ ']' :: rest)) =
      (bracketed path (Text.trimChars held)).bind fun segment =>
        (Path.read path .between rest).map (segment :: ·) := by
  simpa [Path.read] using read_held path held [] rest noClose

theorem read_unclosed {held : List Char} (noClose : ']' ∉ held) :
    Path.read path .between ('[' :: held) = .error (.unclosedBracket path) := by
  have never : ∀ read, Path.read path (.bracket read) held =
      .error (.unclosedBracket path) := by
    induction held with
    | nil => exact fun read => rfl
    | cons c held induction =>
        intro read
        have here : c ≠ ']' := fun same => noClose (by simp [same])
        have later := induction fun member => noClose (List.mem_cons_of_mem c member)
        simp [Path.read, here, later]
  simp [Path.read, never]

theorem read_unexpected {c : Char} (noPoint : c ≠ '.') (noBracket : c ≠ '[')
    (rest : List Char) :
    Path.read path .between (c :: rest) = .error (.unexpected c path) := by
  simp [Path.read, noPoint, noBracket]

theorem Pieces.head?_notInName {body : List Char} {steps : Path}
    (pieces : Pieces body steps) : ∀ c, body.head? = some c → isInName c = false := by
  cases pieces with
  | nil =>
      intro c first
      cases first
  | cons piece _ =>
      intro c first
      cases piece <;>
        · simp only [List.cons_append, List.head?_cons, Option.some.injEq] at first
          subst first
          rfl

theorem Pieces.read_eq {body : List Char} {steps : Path} (pieces : Pieces body steps) :
    Path.read path .between body = .ok steps := by
  induction pieces with
  | nil => rfl
  | @cons piece rest segment steps piece pieces induction =>
      cases piece with
      | @name name filled noPoint noBracket =>
          have inName : ∀ c, c ∈ name → isInName c = true := by
            intro c member
            have other : c ≠ '.' ∧ c ≠ '[' :=
              ⟨fun same => noPoint (same ▸ member), fun same => noBracket (same ▸ member)⟩
            simp [isInName, other]
          rw [List.cons_append, read_point path inName pieces.head?_notInName,
            if_neg filled, induction]
          rfl
      | @bracket held inner segment noClose trimmed bracketed =>
          have split : '[' :: (held ++ [']']) ++ rest = '[' :: (held ++ ']' :: rest) := by
            simp
          rw [split, read_bracket path noClose, Text.trimChars_eq_iff.mpr trimmed,
            bracketed_eq_ok_iff.mpr bracketed, induction]
          rfl

/-- What is read is made of pieces; otherwise the fault is one of the path.  The
recursion is on the length of what is left, since a piece is read as a whole. -/
theorem pieces_or_faulty (body : List Char) :
    (∃ steps, Pieces body steps) ∨
      ∃ fault, Path.read path .between body = .error fault ∧ Faulty path fault := by
  induction size : body.length using Nat.strongRecOn generalizing body with
  | ind size induction =>
      subst size
      cases front body with
      | done => exact .inl ⟨[], .nil⟩
      | @name name rest inName ends =>
          rw [read_point path inName ends]
          by_cases empty : name = []
          · exact .inr ⟨_, if_pos empty, .emptySegment⟩
          · have shorter : rest.length < ('.' :: (name ++ rest)).length := by
              simp only [List.length_cons, List.length_append]
              omega
            have outside : ∀ c, isInName c = false → c ∉ name := by
              intro c outside member
              simp [inName c member] at outside
            rw [if_neg empty]
            rcases induction _ shorter rest rfl with
              ⟨steps, pieces⟩ | ⟨fault, refused, faulty⟩
            · exact .inl ⟨_, .cons (.name empty (outside '.' rfl) (outside '[' rfl)) pieces⟩
            · exact .inr ⟨fault, by rw [refused]; rfl, faulty⟩
      | @bracket held rest noClose =>
          rw [read_bracket path noClose]
          have shorter : rest.length < ('[' :: (held ++ ']' :: rest)).length := by
            simp only [List.length_cons, List.length_append]
            omega
          cases known : bracketed path (Text.trimChars held) with
          | error fault => exact .inr ⟨fault, rfl, bracketed_faulty known⟩
          | ok segment =>
              rcases induction _ shorter rest rfl with
                ⟨steps, pieces⟩ | ⟨fault, refused, faulty⟩
              · have made := Pieces.cons (.bracket noClose (Text.trimmed_trimChars held)
                  (bracketed_eq_ok_iff.mp known)) pieces
                rw [List.cons_append, List.append_assoc, List.singleton_append] at made
                exact .inl ⟨_, made⟩
              · exact .inr ⟨fault, by rw [refused]; rfl, faulty⟩
      | unclosed noClose => exact .inr ⟨_, read_unclosed path noClose, .unclosedBracket⟩
      | unexpected noPoint noBracket =>
          exact .inr ⟨_, read_unexpected path noPoint noBracket _, .unexpected _⟩

theorem read_eq_ok_iff {body : List Char} {steps : Path} :
    Path.read path .between body = .ok steps ↔ Pieces body steps := by
  constructor
  · intro accepted
    rcases pieces_or_faulty path body with ⟨others, pieces⟩ | ⟨fault, refused, _⟩
    · have same : others = steps := by
        simpa [accepted] using (pieces.read_eq path).symm
      exact same ▸ pieces
    · rw [accepted] at refused
      cases refused
  · intro pieces
    exact pieces.read_eq path

end Reading

/-- Reading accepts the texts of the grammar, and gives the steps that they spell. -/
theorem parse_eq_ok_iff {text : String} {steps : Path} :
    parse text = .ok steps ↔ Spells text steps := by
  constructor
  · intro accepted
    unfold parse at accepted
    split at accepted
    · rename_i body trimmed
      exact ⟨body, Text.trimChars_eq_iff.mp trimmed, (read_eq_ok_iff text).mp accepted⟩
    · cases accepted
  · rintro ⟨body, trimmed, pieces⟩
    unfold parse
    rw [Text.trimChars_eq_iff.mpr trimmed]
    exact pieces.read_eq text

/-- A text that is refused is named in the fault. -/
theorem parse_faulty {text : String} {fault : MappingFault}
    (refused : parse text = .error fault) : Faulty text fault := by
  unfold parse at refused
  split at refused
  · rename_i body _
    rcases pieces_or_faulty text body with ⟨steps, pieces⟩ | ⟨other, found, faulty⟩
    · rw [pieces.read_eq] at refused
      cases refused
    · rw [found] at refused
      cases refused
      exact faulty
  · cases refused
    exact .rootless

end Path

end EventDelivery
