import EventDelivery.Assoc

/-!
# Looking up in ordered lists

A list made of pairs holds at each key the last value given for it, and a list
whose keys ascend already is the list made of its own pairs.
-/

namespace EventDelivery.Assoc

variable {α β : Type}

/-- The value of the last pair with a key. -/
def last? (key : String) : List (String × α) → Option α
  | [] => none
  | (k, v) :: rest => (last? key rest).or (if k = key then some v else none)

@[simp] theorem last?_nil (key : String) :
    last? key ([] : List (String × α)) = none := rfl

@[simp] theorem last?_cons (key name : String) (value : α)
    (rest : List (String × α)) :
    last? key ((name, value) :: rest) =
      (last? key rest).or (if name = key then some value else none) := rfl

@[simp] theorem last?_append (key : String) (earlier later : List (String × α)) :
    last? key (earlier ++ later) = (last? key later).or (last? key earlier) := by
  induction earlier with
  | nil => simp
  | cons entry rest induction =>
      obtain ⟨name, value⟩ := entry
      simp [induction, Option.or_assoc]

theorem last?_toList (key name : String) (given : Option β) (f : β → α) :
    last? key (given.map fun value => (name, f value)).toList =
      if name = key then given.map f else none := by
  cases given <;> simp

theorem last?_eq_none_iff {key : String} {pairs : List (String × α)} :
    last? key pairs = none ↔ ∀ entry, entry ∈ pairs → entry.1 ≠ key := by
  induction pairs with
  | nil => simp
  | cons entry rest induction =>
      obtain ⟨name, value⟩ := entry
      simp [induction, and_comm]

/-- The last pair with a key is one that none with the same key follows. -/
theorem last?_eq_some_iff {key : String} {value : α} {pairs : List (String × α)} :
    last? key pairs = some value ↔
      ∃ earlier later, pairs = earlier ++ (key, value) :: later ∧
        ∀ entry, entry ∈ later → entry.1 ≠ key := by
  constructor
  · intro found
    induction pairs with
    | nil => cases found
    | cons entry rest induction =>
        obtain ⟨name, other⟩ := entry
        cases after : last? key rest with
        | some last =>
            rw [last?_cons, after, Option.some_or, ← after] at found
            obtain ⟨earlier, later, rfl, none⟩ := induction found
            exact ⟨(name, other) :: earlier, later, rfl, none⟩
        | none =>
            rw [last?_cons, after, Option.none_or] at found
            split at found
            · rename_i same
              cases found
              exact ⟨[], rest, by rw [same, List.nil_append], last?_eq_none_iff.mp after⟩
            · cases found
  · rintro ⟨earlier, later, rfl, none⟩
    simp [last?_eq_none_iff.mpr none]

/-- Of the pairs of an ordered list that are renamed to a key, the last one is the one
with the greatest name. -/
theorem last?_rename_eq_some_iff {rename : String → String} {key : String} {value : α}
    {entries : List (String × α)} (ordered : Sorted entries) :
    last? key (entries.map fun entry => (rename entry.1, entry.2)) = some value ↔
      ∃ name, (name, value) ∈ entries ∧ rename name = key ∧
        ∀ other, other ∈ entries → rename other.1 = key → other.1 ≤ name := by
  rw [last?_eq_some_iff]
  constructor
  · rintro ⟨earlier, later, parts, none⟩
    obtain ⟨before, rest, rfl, rfl, renamed⟩ := List.map_eq_append_iff.mp parts
    obtain ⟨⟨name, found⟩, after, rfl, here, rfl⟩ := List.map_eq_cons_iff.mp renamed
    cases here
    refine ⟨name, by simp, rfl, ?_⟩
    intro other member same
    rcases List.mem_append.mp member with earlier | atOrAfter
    · have below := (List.pairwise_append.mp ordered).2.2 other earlier _ List.mem_cons_self
      exact String.lt_asymm below
    · rcases List.mem_cons.mp atOrAfter with rfl | later
      · exact String.le_refl _
      · exact absurd same (none _ (List.mem_map_of_mem later))
  · rintro ⟨name, member, rfl, greatest⟩
    obtain ⟨before, after, rfl⟩ := List.append_of_mem member
    refine ⟨_, _, by rw [List.map_append, List.map_cons], ?_⟩
    intro renamed later same
    obtain ⟨other, member, rfl⟩ := List.mem_map.mp later
    have above := (List.pairwise_cons.mp (List.pairwise_append.mp ordered).2.1).1 other member
    exact greatest other (by simp [member]) same above

theorem get?_insert (key query : String) (value : α)
    (entries : List (String × α)) :
    get? query (insert key value entries) =
      if key = query then some value else get? query entries := by
  induction entries with
  | nil => simp [insert, get?]
  | cons entry rest induction =>
      obtain ⟨name, old⟩ := entry
      by_cases below : key < name
      · simp [insert, below, get?]
      · by_cases same : key = name
        · subst same
          rw [insert, if_neg below, if_pos rfl]
          by_cases found : key = query <;> simp [get?, found]
        · by_cases found : name = query
          · subst found
            simp [insert, below, same, get?]
          · simp [insert, below, same, get?, found, induction]

theorem get?_insertAll (key : String) (pairs entries : List (String × α)) :
    get? key (insertAll pairs entries) = (last? key pairs).or (get? key entries) := by
  induction pairs generalizing entries with
  | nil => simp [insertAll]
  | cons pair rest induction =>
      obtain ⟨name, value⟩ := pair
      have step : insertAll ((name, value) :: rest) entries =
          insertAll rest (insert name value entries) := rfl
      rw [step, induction, get?_insert, last?_cons, Option.or_assoc]
      by_cases same : name = key <;> simp [same]

theorem mem_insertAll {pairs entries : List (String × α)} {entry : String × α}
    (member : entry ∈ insertAll pairs entries) : entry ∈ pairs ∨ entry ∈ entries := by
  induction pairs generalizing entries with
  | nil => exact .inr member
  | cons pair rest induction =>
      rcases induction member with later | earlier
      · exact .inl (List.mem_cons_of_mem _ later)
      · rcases mem_insert earlier with here | before
        · exact .inl (here ▸ List.mem_cons_self)
        · exact .inr before

theorem mem_ofList {pairs : List (String × α)} {entry : String × α}
    (member : entry ∈ ofList pairs) : entry ∈ pairs := by
  simpa using mem_insertAll member

theorem get?_ofList (key : String) (pairs : List (String × α)) :
    get? key (ofList pairs) = last? key pairs := by
  simp [ofList, get?_insertAll, get?]

theorem mem_of_get?_eq_some {key : String} {value : α}
    {entries : List (String × α)} (found : get? key entries = some value) :
    (key, value) ∈ entries := by
  induction entries with
  | nil => simp [get?] at found
  | cons entry rest induction =>
      obtain ⟨name, other⟩ := entry
      by_cases same : name = key
      · subst same
        simp only [get?, if_true, Option.some.injEq] at found
        simp [found]
      · simp only [get?, if_neg same] at found
        exact List.mem_cons_of_mem _ (induction found)

theorem get?_eq_none_iff {key : String} {entries : List (String × α)} :
    get? key entries = none ↔ ∀ entry, entry ∈ entries → entry.1 ≠ key := by
  induction entries with
  | nil => simp [get?]
  | cons entry rest induction =>
      obtain ⟨name, value⟩ := entry
      by_cases same : name = key
      · simp [get?, same]
      · simp [get?, same, induction]

theorem isSome_get?_iff {key : String} {entries : List (String × α)} :
    (get? key entries).isSome = true ↔ ∃ value, (key, value) ∈ entries := by
  constructor
  · intro present
    obtain ⟨value, found⟩ := Option.isSome_iff_exists.mp present
    exact ⟨value, mem_of_get?_eq_some found⟩
  · rintro ⟨value, member⟩
    cases found : get? key entries with
    | some other => rfl
    | none => exact absurd rfl (get?_eq_none_iff.mp found _ member)

/-- In an ordered list every pair is what is found at its key. -/
theorem get?_eq_some_iff {key : String} {value : α}
    {entries : List (String × α)} (ordered : Sorted entries) :
    get? key entries = some value ↔ (key, value) ∈ entries := by
  constructor
  · exact mem_of_get?_eq_some
  · intro member
    induction entries with
    | nil => simp at member
    | cons entry rest induction =>
        obtain ⟨name, other⟩ := entry
        obtain ⟨before, tail⟩ := List.pairwise_cons.mp ordered
        rcases List.mem_cons.mp member with here | later
        · cases here
          simp [get?]
        · have different : name ≠ key := by
            intro same
            subst same
            have loop := before _ later
            exact String.lt_irrefl _ loop
          simp [get?, different, induction tail later]

theorem value_unique {key : String} {value other : α} {entries : List (String × α)}
    (ordered : Sorted entries) (member : (key, value) ∈ entries)
    (alsoMember : (key, other) ∈ entries) : value = other :=
  Option.some.inj <|
    ((get?_eq_some_iff ordered).mpr member).symm.trans
      ((get?_eq_some_iff ordered).mpr alsoMember)

theorem nodup_keys {entries : List (String × α)} (ordered : Sorted entries) :
    (entries.map Prod.fst).Nodup := by
  have ascending : (entries.map Prod.fst).Pairwise (· < ·) :=
    List.pairwise_map.mpr ordered
  exact ascending.imp fun {first second} below same => by
    subst same
    exact String.lt_irrefl _ below

theorem get?_map (key : String) (f : String → α → β)
    (entries : List (String × α)) :
    get? key (entries.map fun entry => (entry.1, f entry.1 entry.2)) =
      (get? key entries).map (f key) := by
  induction entries with
  | nil => rfl
  | cons entry rest induction =>
      obtain ⟨name, value⟩ := entry
      by_cases same : name = key
      · simp [get?, same]
      · simpa [get?, same] using induction

theorem insert_eq_append {key : String} {value : α}
    {entries : List (String × α)}
    (above : ∀ entry, entry ∈ entries → entry.1 < key) :
    insert key value entries = entries ++ [(key, value)] := by
  induction entries with
  | nil => rfl
  | cons entry rest induction =>
      obtain ⟨name, other⟩ := entry
      have below : name < key := above (name, other) List.mem_cons_self
      have notAbove : ¬ key < name := String.lt_asymm below
      have different : key ≠ name := by
        intro same
        subst same
        exact String.lt_irrefl _ below
      have tail := induction
        (fun entry member => above entry (List.mem_cons_of_mem _ member))
      simp [insert, notAbove, different, tail]

theorem insertAll_eq_append {pairs entries : List (String × α)}
    (ordered : Sorted (entries ++ pairs)) :
    insertAll pairs entries = entries ++ pairs := by
  induction pairs generalizing entries with
  | nil => simp [insertAll]
  | cons pair rest induction =>
      obtain ⟨key, value⟩ := pair
      have above : ∀ entry, entry ∈ entries → entry.1 < key := by
        intro entry member
        exact (List.pairwise_append.mp ordered).2.2 entry member (key, value)
          List.mem_cons_self
      have step : insertAll ((key, value) :: rest) entries =
          insertAll rest (insert key value entries) := rfl
      rw [step, insert_eq_append above, induction (by simpa using ordered)]
      simp

theorem ofList_eq_self {entries : List (String × α)} (ordered : Sorted entries) :
    ofList entries = entries := by
  have appended := @insertAll_eq_append α entries [] (by simpa using ordered)
  simpa [ofList] using appended

theorem ofList_pair {first second : String} (before : first < second) (x y : α) :
    ofList [(first, x), (second, y)] = [(first, x), (second, y)] :=
  ofList_eq_self (by simpa [Sorted] using before)

theorem ofList_swapped {first second : String} (before : first < second) (x y : α) :
    ofList [(second, y), (first, x)] = [(first, x), (second, y)] := by
  simp only [ofList, insertAll, List.foldl_cons, List.foldl_nil, insert, if_pos before]

theorem last?_eq_get? {entries : List (String × α)} (ordered : Sorted entries)
    (key : String) : last? key entries = get? key entries := by
  rw [← get?_ofList, ofList_eq_self ordered]

theorem sorted_map_iff (f : String × α → β) (entries : List (String × α)) :
    Sorted (entries.map fun entry => (entry.1, f entry)) ↔ Sorted entries := by
  simp [Sorted, List.pairwise_map]

end EventDelivery.Assoc
