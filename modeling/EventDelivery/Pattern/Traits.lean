import EventDelivery.Pattern.Expression
/-!
# Traits of expressions

How many characters an expression takes at least, whether it always takes that many, and whether it
needs more than a plain search. An expression is plain when whether and where it fits depends on
nothing but the characters; groups that are referred to make it hard, and so do words.
-/

namespace EventDelivery.Pattern

/-- What is known of an expression before it meets a text. -/
structure Traits where
  /-- The number of characters that it takes at least. -/
  least : Nat
  /-- Whether it never takes more. -/
  isFixed : Bool
  /-- Whether a plain search is not enough for it. -/
  isHard : Bool
deriving DecidableEq

namespace Traits

/-- The traits of a sequence of parts. -/
def inSequence (parts : List Traits) : Traits :=
  ⟨parts.foldl (fun total part => total + part.least) 0, parts.all isFixed, parts.any isHard⟩

/-- The traits of a choice between branches. -/
def inChoice : List Traits → Traits
  | [] => ⟨0, true, false⟩
  | first :: rest =>
    let least := rest.foldl (fun least branch => min least branch.least) first.least
    let isFixed := (first :: rest).all fun branch => branch.isFixed && branch.least == first.least
    ⟨least, isFixed, (first :: rest).any isHard⟩

/-- The traits of a condition with what is done after it. -/
def inConditional (condition yes no : Traits) : Traits :=
  ⟨condition.least + min yes.least no.least,
    condition.isFixed && yes.isFixed && no.isFixed && condition.least + yes.least == no.least, true⟩

/-- Whether an expression is plain and always takes the same number of characters. -/
def isSimple (traits : Traits) : Bool := traits.isFixed && !traits.isHard

end Traits

namespace Expression

mutual

/-- The traits of an expression when the given groups are referred to. -/
def traits (referred : List Nat) : Expression → Traits
  | .empty => ⟨0, true, false⟩
  | .member _ _ => ⟨1, true, false⟩
  | .place kind => ⟨0, true, kind.isOfWords⟩
  | .origin | .keep | .hasHeld _ => ⟨0, true, true⟩
  | .sequence parts => Traits.inSequence (allTraits referred parts)
  | .choice branches => Traits.inChoice (allTraits referred branches)
  | .group number inner =>
    let inside := traits referred inner
    { inside with isHard := inside.isHard || referred.contains number }
  | .repetition inner least greatest _ =>
    let inside := traits referred inner
    ⟨inside.least * least, inside.isFixed && greatest == some least, inside.isHard⟩
  | .look _ _ _ => ⟨0, true, true⟩
  | .atomic inner => { traits referred inner with isHard := true }
  | .again _ => ⟨0, false, true⟩
  | .conditional condition yes no =>
    Traits.inConditional (traits referred condition) (traits referred yes) (traits referred no)

def allTraits (referred : List Nat) : List Expression → List Traits
  | [] => []
  | part :: rest => traits referred part :: allTraits referred rest

end

end Expression

end EventDelivery.Pattern
