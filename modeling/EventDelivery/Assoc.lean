/-!
# Association lists ordered by key

Lists of key and value in strictly ascending key order, the order in which objects, headers and
field maps are visited. `Keyed` carries the order as a proof.
-/

namespace EventDelivery

namespace Assoc

variable {α β : Type}

def get? (key : String) : List (String × α) → Option α
  | [] => none
  | (k, v) :: rest => if k = key then some v else get? key rest

/-- Puts a value at a key, replacing the one that is there. -/
def insert (key : String) (value : α) : List (String × α) → List (String × α)
  | [] => [(key, value)]
  | (k, v) :: rest =>
    if key < k then (key, value) :: (k, v) :: rest
    else if key = k then (key, value) :: rest
    else (k, v) :: insert key value rest

/-- Puts every pair in turn, so that the last value at a key stays. -/
def insertAll (pairs : List (String × α)) (entries : List (String × α)) : List (String × α) :=
  pairs.foldl (fun built pair => insert pair.1 pair.2 built) entries

/-- The ordered list of the given pairs; the last value at a key stays. -/
def ofList (pairs : List (String × α)) : List (String × α) :=
  insertAll pairs []

/-- The keys ascend strictly. -/
def Sorted (entries : List (String × α)) : Prop :=
  entries.Pairwise (fun a b => a.1 < b.1)

instance (entries : List (String × α)) : Decidable (Sorted entries) :=
  inferInstanceAs (Decidable (entries.Pairwise _))

theorem mem_insert {key : String} {value : α} {entries : List (String × α)} {entry : String × α}
    (present : entry ∈ insert key value entries) : entry = (key, value) ∨ entry ∈ entries := by
  induction entries with
  | nil => simpa [insert] using present
  | cons head rest ih =>
    obtain ⟨k, v⟩ := head
    simp only [insert] at present
    split at present
    · simpa using present
    · split at present
      · rcases List.mem_cons.1 present with h | h
        · exact Or.inl h
        · exact Or.inr (List.mem_cons_of_mem _ h)
      · rcases List.mem_cons.1 present with h | h
        · exact Or.inr (h ▸ List.mem_cons_self)
        · exact (ih h).imp id (List.mem_cons_of_mem _)

theorem insert_sorted (key : String) (value : α) {entries : List (String × α)}
    (ordered : Sorted entries) : Sorted (insert key value entries) := by
  induction entries with
  | nil => simp [insert, Sorted]
  | cons head rest ih =>
    obtain ⟨k, v⟩ := head
    obtain ⟨before, tail⟩ := List.pairwise_cons.1 ordered
    simp only [insert]
    split
    · rename_i below
      refine List.pairwise_cons.2 ⟨?_, ordered⟩
      intro entry present
      rcases List.mem_cons.1 present with h | h
      · exact h ▸ below
      · exact String.lt_trans below (before entry h)
    · split
      · rename_i same
        exact List.pairwise_cons.2 ⟨fun entry h => same ▸ before entry h, tail⟩
      · rename_i notBelow different
        refine List.pairwise_cons.2 ⟨?_, ih tail⟩
        intro entry present
        rcases mem_insert present with h | h
        · rcases String.le_total key k with le | le
          · exact absurd (String.le_antisymm le (String.not_lt.1 notBelow)) different
          · rw [h]
            refine Decidable.byContradiction fun notLess => ?_
            exact different (String.le_antisymm (String.not_lt.1 notLess) le)
        · exact before entry h

theorem insertAll_sorted (pairs : List (String × α)) {entries : List (String × α)}
    (ordered : Sorted entries) : Sorted (insertAll pairs entries) := by
  induction pairs generalizing entries with
  | nil => exact ordered
  | cons pair rest ih => exact ih (insert_sorted pair.1 pair.2 ordered)

theorem ofList_sorted (pairs : List (String × α)) : Sorted (ofList pairs) :=
  insertAll_sorted pairs List.Pairwise.nil

end Assoc

/-- A finite map from texts to values, kept in ascending key order. -/
structure Keyed (α : Type) where
  /-- The pairs, ascending by key. -/
  entries : List (String × α)
  /-- The keys ascend strictly, so equal maps are equal lists. -/
  sorted : Assoc.Sorted entries
deriving DecidableEq

namespace Keyed

variable {α β : Type}

def empty : Keyed α := ⟨[], List.Pairwise.nil⟩

instance : Inhabited (Keyed α) := ⟨empty⟩
instance : EmptyCollection (Keyed α) := ⟨empty⟩

def get? (m : Keyed α) (key : String) : Option α := Assoc.get? key m.entries

/-- Puts a value at a key, replacing the one that is there. -/
def insert (m : Keyed α) (key : String) (value : α) : Keyed α :=
  ⟨Assoc.insert key value m.entries, Assoc.insert_sorted key value m.sorted⟩

/-- Puts every pair in turn, so that the last value at a key stays. -/
def insertAll (m : Keyed α) (pairs : List (String × α)) : Keyed α :=
  ⟨Assoc.insertAll pairs m.entries, Assoc.insertAll_sorted pairs m.sorted⟩

/-- The map of the given pairs; the last value at a key stays. -/
def ofList (pairs : List (String × α)) : Keyed α := empty.insertAll pairs

def isEmpty (m : Keyed α) : Bool := m.entries.isEmpty

/-- Puts every entry of `overrides` over the entries of `m`. -/
def union (m overrides : Keyed α) : Keyed α := m.insertAll overrides.entries

def keys (m : Keyed α) : List String := m.entries.map Prod.fst

@[ext] theorem ext {m n : Keyed α} (h : m.entries = n.entries) : m = n := by
  cases m; cases n; simp_all

end Keyed

end EventDelivery
