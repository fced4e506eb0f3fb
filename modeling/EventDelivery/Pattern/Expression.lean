import EventDelivery.Pattern.Class
/-!
# Expressions of patterns

What a pattern asks for, as a tree: single characters, places between characters, sequences,
choices, repetitions, groups that remember what they held, and what refers to them or looks
around.
-/

namespace EventDelivery.Pattern

/-- A place between characters. -/
inductive Place where
  | textStart
  | textEnd
  | lineStart
  | lineEnd
  /-- One side is of a word and the other one is not. -/
  | wordEdge
  /-- Both sides are of a word, or none is. -/
  | wordInside
  | wordStart
  | wordEnd
deriving DecidableEq

/-- Whether a character is there and is of a word. -/
def isOfWord (c : Option Char) : Bool := (c.map Character.isWordCharacter) == some true

/-- Whether a place is between the character before and the one after, if there are any. -/
def Place.holds (place : Place) (before after : Option Char) : Bool :=
  match place with
  | .textStart => before.isNone
  | .textEnd => after.isNone
  | .lineStart => before.isNone || before == some '\n'
  | .lineEnd => after.isNone || after == some '\n'
  | .wordEdge => isOfWord before != isOfWord after
  | .wordInside => isOfWord before == isOfWord after
  | .wordStart => !isOfWord before && isOfWord after
  | .wordEnd => isOfWord before && !isOfWord after

/-- Whether a place depends on words. Those are never left to plain searches. -/
def Place.isOfWords : Place → Bool
  | .wordEdge | .wordInside | .wordStart | .wordEnd => true
  | .textStart | .textEnd | .lineStart | .lineEnd => false

/-- What a pattern asks for. -/
inductive Expression where
  | empty
  /-- One character of a set; case may not count. -/
  | member (set : CharClass) (caseless : Bool)
  | place (kind : Place)
  /-- The place where the search began. -/
  | origin
  /-- What is found starts only here. -/
  | keep
  | sequence (parts : List Expression)
  /-- One of the branches, the first that fits. -/
  | choice (branches : List Expression)
  /-- Remembers what it holds. -/
  | group (number : Nat) (inner : Expression)
  /-- The inner expression between two numbers of times. -/
  | repetition (inner : Expression) (least : Nat) (greatest : Option Nat) (greedy : Bool)
  /-- The inner expression fits ahead or behind, or does not when negated. -/
  | look (ahead negated : Bool) (inner : Expression)
  /-- The inner expression in the first way that fits, and in no other one. -/
  | atomic (inner : Expression)
  /-- What a group held. -/
  | again (group : Nat)
  /-- A group held something. -/
  | hasHeld (group : Nat)
  /-- One expression when the condition fits, another one when not. -/
  | conditional (condition yes no : Expression)

namespace Expression

mutual

/-- The groups in an expression, from left to right. -/
def groups : Expression → List Nat
  | .group number inner => number :: groups inner
  | .sequence parts | .choice parts => allGroups parts
  | .repetition inner _ _ _ | .look _ _ inner | .atomic inner => groups inner
  | .conditional condition yes no => groups condition ++ groups yes ++ groups no
  | .empty | .member _ _ | .place _ | .origin | .keep | .again _ | .hasHeld _ => []

def allGroups : List Expression → List Nat
  | [] => []
  | part :: rest => groups part ++ allGroups rest

end

mutual

/-- The groups to which an expression refers. -/
def references : Expression → List Nat
  | .again number | .hasHeld number => [number]
  | .sequence parts | .choice parts => allReferences parts
  | .group _ inner | .repetition inner _ _ _ | .look _ _ inner | .atomic inner => references inner
  | .conditional condition yes no => references condition ++ references yes ++ references no
  | .empty | .member _ _ | .place _ | .origin | .keep => []

def allReferences : List Expression → List Nat
  | [] => []
  | part :: rest => references part ++ allReferences rest

end

/-- Whether a sign for repetition can follow. -/
def isRepeatable : Expression → Bool
  | .empty | .place _ | .look _ _ _ => false
  | _ => true

end Expression

end EventDelivery.Pattern
