import EventDelivery.Proofs.MappingSafety
import EventDelivery.Proofs.PathGrammar

/-!
# Reading paths by positions

A path can be read with a position that moves over its characters and with slices
between positions, where every position and every slice that is asked for has to lie
in the text.  It always does, each turn of the scan moves on, and what the scan ends
with is what reading gives.
-/

namespace EventDelivery

namespace Path

namespace Scan

/-- The characters from a position up to another one; none where the positions do not
lie in the text in this order. -/
def slice? (chars : List Char) (start stop : Nat) : Option (List Char) :=
  if start ≤ stop ∧ stop ≤ chars.length then some ((chars.drop start).take (stop - start))
  else none

/-- The end of the name that goes on at a position. -/
def nameEnd? (chars : List Char) (stop : Nat) : Option Nat :=
  if stop < chars.length then
    match chars[stop]? with
    | none => none
    | some c => if isInName c then nameEnd? chars (stop + 1) else some stop
  else some stop
termination_by chars.length - stop

/-- What a turn of the scan comes to. -/
inductive Turn where
  /-- The text is at its end. -/
  | done
  | refused (fault : MappingFault)
  /-- A piece is read, and the scan goes on behind it. -/
  | piece (segment : Segment) (next : Nat)

/-- One turn of the scan; none where it asks for anything outside of the text. -/
def turn? (path : String) (chars : List Char) (position : Nat) : Option Turn :=
  if position < chars.length then do
    let c ← chars[position]?
    if c = '.' then
      let stop ← nameEnd? chars (position + 1)
      if stop = position + 1 then some (.refused (.emptySegment path))
      else
        let name ← slice? chars (position + 1) stop
        some (.piece (.key (String.ofList name)) stop)
    else if c = '[' then
      let rest ← slice? chars position chars.length
      match rest.findIdx? (· == ']') with
      | none => some (.refused (.unclosedBracket path))
      | some offset =>
        let held ← slice? chars (position + 1) (offset + position)
        match bracketed path (Text.trimChars held) with
        | .error fault => some (.refused fault)
        | .ok segment => some (.piece segment (offset + position + 1))
    else some (.refused (.unexpected c path))
  else some .done

/-- The scan from a position; none where a turn asks for anything outside of the text,
and where the turns do not suffice. -/
def scan? (path : String) (chars : List Char) :
    (turns position : Nat) → Option (Except MappingFault Path)
  | 0, _ => none
  | turns + 1, position =>
    match turn? path chars position with
    | none => none
    | some .done => some (.ok [])
    | some (.refused fault) => some (.error fault)
    | some (.piece segment next) =>
      (scan? path chars turns next).map (Except.map (segment :: ·))

/-- Reads a path by positions, with at most one turn more than there are characters
after the root. -/
def parse? (path : String) : Option (Except MappingFault Path) :=
  match Text.trimChars path.toList with
  | '$' :: rest => scan? path rest (rest.length + 1) 0
  | _ => some (.error (.rootless path))

theorem slice?_append (before inner after : List Char) :
    slice? (before ++ (inner ++ after)) before.length (before.length + inner.length) =
      some inner := by
  have inside : before.length ≤ before.length + inner.length ∧
      before.length + inner.length ≤ (before ++ (inner ++ after)).length := by
    simp only [List.length_append]
    omega
  rw [slice?, if_pos inside, List.drop_left, Nat.add_sub_cancel_left, List.take_left]

theorem slice?_rest (before rest : List Char) :
    slice? (before ++ rest) before.length (before ++ rest).length = some rest := by
  have sliced := slice?_append before rest []
  rwa [List.append_nil, ← List.length_append] at sliced

theorem nameEnd?_append (before : List Char) {name rest : List Char}
    (inName : ∀ c, c ∈ name → isInName c = true)
    (ends : ∀ c, rest.head? = some c → isInName c = false) :
    nameEnd? (before ++ (name ++ rest)) before.length =
      some (before.length + name.length) := by
  induction name generalizing before with
  | nil =>
      unfold nameEnd?
      cases rest with
      | nil => simp
      | cons c rest => simp [ends c rfl]
  | cons c name induction =>
      have here : isInName c = true := inName c List.mem_cons_self
      have later := induction (before ++ [c]) fun other member =>
        inName other (List.mem_cons_of_mem c member)
      have same : before ++ [c] ++ (name ++ rest) = before ++ (c :: name ++ rest) := by
        simp
      have inside : before.length < (before ++ (c :: name ++ rest)).length := by
        simp
      have found : (before ++ (c :: name ++ rest))[before.length]? = some c := by
        simp
      rw [same, List.length_append, List.length_singleton] at later
      unfold nameEnd?
      rw [if_pos inside, found]
      simp only [here, if_true, later, List.length_cons]
      congr 1
      omega

theorem findIdx?_close {held : List Char} (noClose : ']' ∉ held) (rest : List Char) :
    ('[' :: (held ++ rest)).findIdx? (· == ']') =
      (rest.findIdx? (· == ']')).map (· + held.length + 1) := by
  have noneHeld : held.findIdx? (· == ']') = none := by
    rw [List.findIdx?_eq_none_iff]
    intro c member
    have other : c ≠ ']' := fun same => noClose (same ▸ member)
    simp [other]
  rw [List.findIdx?_cons, List.findIdx?_append, noneHeld]
  cases rest.findIdx? (· == ']') <;> simp

theorem turn?_bracket (path : String) (before rest : List Char) :
    turn? path (before ++ '[' :: rest) before.length =
      match ('[' :: rest).findIdx? (· == ']') with
      | none => some (.refused (.unclosedBracket path))
      | some offset =>
          (slice? (before ++ '[' :: rest) (before.length + 1)
            (offset + before.length)).bind fun held =>
              match bracketed path (Text.trimChars held) with
              | .error fault => some (.refused fault)
              | .ok segment => some (.piece segment (offset + before.length + 1)) := by
  have inside : before.length < (before ++ '[' :: rest).length := by simp
  have found : (before ++ '[' :: rest)[before.length]? = some '[' := by simp
  have noPoint : ¬ '[' = '.' := by decide
  unfold turn?
  rw [if_pos inside, found]
  simp only [Option.bind_eq_bind, Option.bind_some, noPoint, if_false, if_true,
    slice?_rest]

/-- What a turn may come to where some characters are behind it. -/
inductive Advances (path : String) (before rest : List Char) : Turn → Prop where
  | done : rest = [] → Advances path before rest .done
  | refused {fault : MappingFault} :
      Path.read path .between rest = .error fault →
      Advances path before rest (.refused fault)
  | piece {piece following : List Char} {segment : Segment} :
      piece ≠ [] → rest = piece ++ following →
      Path.read path .between rest =
        (Path.read path .between following).map (segment :: ·) →
      Advances path before rest (.piece segment (before ++ piece).length)

/-- A turn stays inside of the text, and reads the piece that reading reads. -/
theorem turn?_advances (path : String) (before rest : List Char) :
    ∃ turn, turn? path (before ++ rest) before.length = some turn ∧
      Advances path before rest turn := by
  cases front rest with
  | done => exact ⟨.done, by simp [turn?], .done rfl⟩
  | @name name rest inName ends =>
      have named := nameEnd?_append (before ++ ['.']) inName ends
      have sliced := slice?_append (before ++ ['.']) name rest
      simp only [List.length_append, List.length_singleton, List.append_assoc,
        List.singleton_append] at named sliced
      have reads := read_point path inName ends
      by_cases empty : name = []
      · rw [if_pos empty] at reads
        refine ⟨.refused (.emptySegment path), ?_, .refused reads⟩
        subst empty
        simp only [List.nil_append, List.length_nil, Nat.add_zero] at named
        simp [turn?, named]
      · rw [if_neg empty] at reads
        have next : before.length + 1 + name.length = (before ++ '.' :: name).length := by
          simp only [List.length_append, List.length_cons]
          omega
        refine ⟨.piece (.key (String.ofList name)) (before ++ '.' :: name).length, ?_,
          .piece (List.cons_ne_nil _ _) rfl reads⟩
        rw [← next]
        simp [turn?, named, sliced, empty]
  | @bracket held rest noClose =>
      have sliced := slice?_append (before ++ ['[']) held (']' :: rest)
      simp only [List.length_append, List.length_singleton, List.append_assoc,
        List.singleton_append] at sliced
      have closes : ('[' :: (held ++ ']' :: rest)).findIdx? (· == ']') =
          some (held.length + 1) := by
        rw [findIdx?_close noClose]
        simp [List.findIdx?_cons]
      have stop : held.length + 1 + before.length = before.length + 1 + held.length := by
        omega
      have next : before.length + 1 + held.length + 1 =
          (before ++ '[' :: (held ++ [']'])).length := by
        simp only [List.length_append, List.length_cons, List.length_nil]
        omega
      have turns := turn?_bracket path before (held ++ ']' :: rest)
      simp only [closes, stop, sliced, Option.bind_some] at turns
      have reads := read_bracket path noClose rest
      cases known : bracketed path (Text.trimChars held) with
      | error fault =>
          simp only [known] at turns reads
          exact ⟨_, turns, .refused reads⟩
      | ok segment =>
          simp only [known] at turns reads
          rw [next] at turns
          exact ⟨_, turns, .piece (List.cons_ne_nil _ _) (by simp) reads⟩
  | @unclosed held noClose =>
      have closes : ('[' :: held).findIdx? (· == ']') = none := by
        simpa using findIdx?_close noClose []
      have turns := turn?_bracket path before held
      simp only [closes] at turns
      exact ⟨_, turns, .refused (read_unclosed path noClose)⟩
  | unexpected noPoint noBracket =>
      refine ⟨_, ?_, .refused (read_unexpected path noPoint noBracket _)⟩
      simp [turn?, noPoint, noBracket]

/-- The turns up to the end give what reading gives, when there is one for each
character that is left and one more. -/
theorem scan?_eq (path : String) {turns : Nat} (before rest : List Char)
    (enough : rest.length < turns) :
    scan? path (before ++ rest) turns before.length =
      some (Path.read path .between rest) := by
  induction turns generalizing before rest with
  | zero => exact absurd enough (Nat.not_lt_zero _)
  | succ turns induction =>
      obtain ⟨turn, taken, advances⟩ := turn?_advances path before rest
      rw [scan?, taken]
      cases advances with
      | done finished =>
          rw [finished]
          rfl
      | refused reads => rw [reads]
      | @piece piece following segment filled split reads =>
          subst split
          have shorter : following.length < turns := by
            have positive := List.length_pos_iff.mpr filled
            rw [List.length_append] at enough
            omega
          -- what has been read is kept before the position, in the same text
          have later := induction (before ++ piece) following shorter
          rw [List.append_assoc] at later
          simp only [later, reads, Option.map_some]

theorem parse?_eq (text : String) : parse? text = some (Path.parse text) := by
  unfold parse? Path.parse
  cases Text.trimChars text.toList with
  | nil => rfl
  | cons c rest =>
      by_cases root : c = '$'
      · subst root
        exact scan?_eq text [] rest (Nat.lt_succ_self rest.length)
      · simp [root]

end Scan

/-- Reading accepts exactly the texts of the grammar, and gives the steps that they
spell.  For any other text there is an invalid mapping to report that names the text.
A scan by positions gives the same, so that it ends, and asks for nothing outside of
the text. -/
theorem parse_accepts_exactly_grammar (text : String) :
    (∀ steps, parse text = .ok steps ↔ Spells text steps) ∧
    ((∃ steps, Spells text steps) ∨
      ∃ fault, parse text = .error fault ∧ Faulty text fault ∧
        (∀ event, Mapper.directives.transform (.obj [("@path", .str text)]) event =
          .error (.mapping fault.message)) ∧
        (ActionError.mapping fault.message).code = "InvalidMapping") ∧
    Scan.parse? text = some (parse text) := by
  refine ⟨fun steps => parse_eq_ok_iff, ?_, Scan.parse?_eq text⟩
  cases outcome : parse text with
  | ok steps => exact .inl ⟨steps, parse_eq_ok_iff.mp outcome⟩
  | error fault =>
      refine .inr ⟨fault, rfl, parse_faulty outcome, ?_, rfl⟩
      intro event
      have failed :
          Mapping.transform (.obj [("@path", .str text)]) event = .error fault := by
        rw [Mapping.transform, Mapping.resolve_path, get, outcome]
        rfl
      rw [Mapper.directives]
      simp only [failed, Except.mapError]

example : parse " $.traits['x.y'][ +07 ]" =
    .ok [.key "traits", .key "x.y", .index 7] := by
  decide +kernel

end Path

end EventDelivery
