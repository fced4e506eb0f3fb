import EventDelivery.Assoc
import EventDelivery.Decimal.Double
/-!
# JSON values

The dynamic values that events, mappings, settings, schemas and payloads are made of. Numbers keep
their kind: a whole number of 64 bits is never the double of the same size.
-/

namespace EventDelivery

/-- A whole number that fits an unsigned or a signed 64-bit word. -/
structure Whole where
  val : Int
  /-- It fits one of the two words. -/
  fits : -9223372036854775808 ≤ val ∧ val < 18446744073709551616
deriving DecidableEq

instance : Inhabited Whole := ⟨⟨0, by decide⟩⟩

/-- A JSON number: exact, or a double. -/
inductive Number where
  | whole (n : Whole)
  | double (x : Double)
deriving DecidableEq, Inhabited

namespace Number

/-- A whole number; one beyond 64 bits becomes the nearest double. -/
def ofInt (n : Int) : Number :=
  if h : -9223372036854775808 ≤ n ∧ n < 18446744073709551616 then .whole ⟨n, h⟩
  else .double (Double.ofInt n)

/-- The double nearest to the number. -/
def toDouble : Number → Double
  | .whole n => Double.ofInt n.val
  | .double x => x

/-- The number as a fraction: a numerator with the sign, and a positive denominator. -/
def fraction : Number → Int × Nat
  | .whole n => (n.val, 1)
  | .double x => x.fraction

/-- Whether a number is less than another one, exactly. -/
def less (m n : Number) : Bool := m.fraction.1 * n.fraction.2 < n.fraction.1 * m.fraction.2

/-- Equality of numbers, exactly and over both kinds. -/
def same : Number → Number → Bool
  | .whole m, .whole n => m.val == n.val
  | .double x, .double y => x.sameNumber y
  | m, n => m.fraction.1 * n.fraction.2 == n.fraction.1 * m.fraction.2

/-- Equality of numbers that tells the zeros of both signs apart. -/
def sameSigned (m n : Number) : Bool := m.same n && m.toDouble == n.toDouble

end Number

/-- A JSON value. Objects hold their members in ascending key order. -/
inductive Json where
  | null
  | bool (value : Bool)
  | num (value : Number)
  | str (value : String)
  | arr (items : List Json)
  | obj (members : List (String × Json))
deriving Inhabited

namespace Json

/-- The object of the given members; the last value at a key stays. -/
def ofMembers (members : List (String × Json)) : Json := .obj (Assoc.ofList members)

def ofInt (n : Int) : Json := .num (Number.ofInt n)

def ofNat (n : Nat) : Json := ofInt n

def ofTexts (texts : List String) : Json := .arr (texts.map .str)

/-- An optional value; an absent one is null. -/
def ofOption : Option Json → Json
  | some value => value
  | none => .null

def isNull : Json → Bool
  | .null => true
  | _ => false

def isObject : Json → Bool
  | .obj _ => true
  | _ => false

def text? : Json → Option String
  | .str s => some s
  | _ => none

def items? : Json → Option (List Json)
  | .arr items => some items
  | _ => none

def members? : Json → Option (List (String × Json))
  | .obj members => some members
  | _ => none

/-- The member of an object at a key. -/
def get? (key : String) : Json → Option Json
  | .obj members => Assoc.get? key members
  | _ => none

mutual

/-- Equality of values where numbers are compared in the given way. -/
def sameBy (sameNumber : Number → Number → Bool) : Json → Json → Bool
  | .null, .null => true
  | .bool a, .bool b => a == b
  | .num a, .num b => sameNumber a b
  | .str a, .str b => a == b
  | .arr as, .arr bs => sameItemsBy sameNumber as bs
  | .obj as, .obj bs => sameMembersBy sameNumber as bs
  | _, _ => false

/-- Equality of arrays, item by item. -/
def sameItemsBy (sameNumber : Number → Number → Bool) : List Json → List Json → Bool
  | [], [] => true
  | a :: as, b :: bs => sameBy sameNumber a b && sameItemsBy sameNumber as bs
  | _, _ => false

/-- Equality of objects, member by member. -/
def sameMembersBy (sameNumber : Number → Number → Bool) :
    List (String × Json) → List (String × Json) → Bool
  | [], [] => true
  | (k, a) :: as, (l, b) :: bs =>
    k == l && sameBy sameNumber a b && sameMembersBy sameNumber as bs
  | _, _ => false

end

/-- Equality of values where numbers are compared as numbers, so `1` and `1.0` are the same. -/
def same : Json → Json → Bool := sameBy Number.same

mutual

/-- The number of values in a value, itself included. -/
def size : Json → Nat
  | .arr items => 1 + sizeItems items
  | .obj members => 1 + sizeMembers members
  | _ => 1

def sizeItems : List Json → Nat
  | [] => 0
  | item :: rest => size item + sizeItems rest

def sizeMembers : List (String × Json) → Nat
  | [] => 0
  | (_, value) :: rest => size value + sizeMembers rest

end

mutual

/-- How deep values are in each other; a value without values in it has the depth zero. -/
def depth : Json → Nat
  | .arr items => depthItems items
  | .obj members => depthMembers members
  | _ => 0

/-- One more than the greatest depth of items. -/
def depthItems : List Json → Nat
  | [] => 0
  | item :: rest => max (depth item + 1) (depthItems rest)

/-- One more than the greatest depth of members. -/
def depthMembers : List (String × Json) → Nat
  | [] => 0
  | (_, value) :: rest => max (depth value + 1) (depthMembers rest)

end

mutual

/-- Objects at every depth have strictly ascending keys. -/
def Ordered : Json → Prop
  | .arr items => OrderedItems items
  | .obj members => Assoc.Sorted members ∧ OrderedMembers members
  | _ => True

/-- Every item is ordered. -/
def OrderedItems : List Json → Prop
  | [] => True
  | item :: rest => Ordered item ∧ OrderedItems rest

/-- Every member's value is ordered. -/
def OrderedMembers : List (String × Json) → Prop
  | [] => True
  | (_, value) :: rest => Ordered value ∧ OrderedMembers rest

end

theorem ordered_of_mem_members {members : List (String × Json)} {name : String}
    {value : Json} (ordered : OrderedMembers members) (present : (name, value) ∈ members) :
    value.Ordered := by
  induction members with
  | nil => simp at present
  | cons member rest induction =>
      obtain ⟨first, here⟩ := member
      rcases List.mem_cons.mp present with same | later
      · cases same
        exact ordered.1
      · exact induction ordered.2 later

theorem ordered_of_mem_items {items : List Json} {value : Json}
    (ordered : OrderedItems items) (present : value ∈ items) : value.Ordered := by
  induction items with
  | nil => simp at present
  | cons item rest induction =>
      rcases List.mem_cons.mp present with same | later
      · exact same ▸ ordered.1
      · exact induction ordered.2 later

mutual

def decideEq : (a b : Json) → Decidable (a = b)
  | .null, .null => isTrue rfl
  | .bool a, .bool b =>
    if h : a = b then isTrue (h ▸ rfl) else isFalse (fun e => h (Json.bool.inj e))
  | .num a, .num b =>
    if h : a = b then isTrue (h ▸ rfl) else isFalse (fun e => h (Json.num.inj e))
  | .str a, .str b =>
    if h : a = b then isTrue (h ▸ rfl) else isFalse (fun e => h (Json.str.inj e))
  | .arr as, .arr bs =>
    match decideEqItems as bs with
    | isTrue h => isTrue (h ▸ rfl)
    | isFalse h => isFalse (fun e => h (Json.arr.inj e))
  | .obj as, .obj bs =>
    match decideEqMembers as bs with
    | isTrue h => isTrue (h ▸ rfl)
    | isFalse h => isFalse (fun e => h (Json.obj.inj e))
  | .null, .bool _ | .null, .num _ | .null, .str _ | .null, .arr _ | .null, .obj _
  | .bool _, .null | .bool _, .num _ | .bool _, .str _ | .bool _, .arr _ | .bool _, .obj _
  | .num _, .null | .num _, .bool _ | .num _, .str _ | .num _, .arr _ | .num _, .obj _
  | .str _, .null | .str _, .bool _ | .str _, .num _ | .str _, .arr _ | .str _, .obj _
  | .arr _, .null | .arr _, .bool _ | .arr _, .num _ | .arr _, .str _ | .arr _, .obj _
  | .obj _, .null | .obj _, .bool _ | .obj _, .num _ | .obj _, .str _ | .obj _, .arr _ =>
    isFalse (by simp)

def decideEqItems : (as bs : List Json) → Decidable (as = bs)
  | [], [] => isTrue rfl
  | [], _ :: _ => isFalse (by simp)
  | _ :: _, [] => isFalse (by simp)
  | a :: as, b :: bs =>
    match decideEq a b, decideEqItems as bs with
    | isTrue h, isTrue t => isTrue (h ▸ t ▸ rfl)
    | isFalse h, _ => isFalse (fun e => h (List.cons.inj e).1)
    | _, isFalse t => isFalse (fun e => t (List.cons.inj e).2)

def decideEqMembers : (as bs : List (String × Json)) → Decidable (as = bs)
  | [], [] => isTrue rfl
  | [], _ :: _ => isFalse (by simp)
  | _ :: _, [] => isFalse (by simp)
  | (k, a) :: as, (l, b) :: bs =>
    if hk : k = l then
      match decideEq a b, decideEqMembers as bs with
      | isTrue h, isTrue t => isTrue (hk ▸ h ▸ t ▸ rfl)
      | isFalse h, _ => isFalse (fun e => h (Prod.mk.inj (List.cons.inj e).1).2)
      | _, isFalse t => isFalse (fun e => t (List.cons.inj e).2)
    else isFalse (fun e => hk (Prod.mk.inj (List.cons.inj e).1).1)

end

instance : DecidableEq Json := decideEq

end Json

end EventDelivery
