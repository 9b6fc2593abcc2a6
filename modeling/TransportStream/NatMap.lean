/-!
Maps from numbers (PIDs, program numbers, section numbers), kept in ascending order of
their keys. Two maps with the same look-ups are equal, and walking a map visits its keys
in ascending order.
-/
namespace TransportStream

/-- A map from numbers. -/
structure NatMap (α : Type) where
  entries : List (Nat × α)
  ascending : entries.Pairwise (fun left right => left.1 < right.1)

namespace NatMap

variable {α β : Type}

/-- The value of the first entry with this key. -/
def findIn (key : Nat) : List (Nat × α) → Option α
  | [] => none
  | (other, value) :: rest => if key = other then some value else findIn key rest

/-- Puts an entry before the first greater key, in place of one with the same key. -/
def insertIn (key : Nat) (value : α) : List (Nat × α) → List (Nat × α)
  | [] => [(key, value)]
  | (other, old) :: rest =>
    if key < other then (key, value) :: (other, old) :: rest
    else if key = other then (key, value) :: rest
    else (other, old) :: insertIn key value rest

theorem mem_insertIn {key : Nat} {value : α} {entries : List (Nat × α)} {entry : Nat × α}
    (member : entry ∈ insertIn key value entries) : entry = (key, value) ∨ entry ∈ entries := by
  induction entries with
  | nil => simpa [insertIn] using member
  | cons head rest ih =>
    obtain ⟨other, old⟩ := head
    unfold insertIn at member
    split at member
    · simpa using member
    · split at member
      · rcases List.mem_cons.mp member with same | inside
        · exact .inl same
        · exact .inr (List.mem_cons_of_mem _ inside)
      · rcases List.mem_cons.mp member with same | inside
        · exact .inr (by simp [same])
        · exact (ih inside).imp_right (List.mem_cons_of_mem _)

theorem insertIn_ascending (key : Nat) (value : α) {entries : List (Nat × α)}
    (ascending : entries.Pairwise (fun left right => left.1 < right.1)) :
    (insertIn key value entries).Pairwise (fun left right => left.1 < right.1) := by
  induction entries with
  | nil => simp [insertIn]
  | cons head rest ih =>
    obtain ⟨other, old⟩ := head
    have ⟨above, others⟩ := List.pairwise_cons.mp ascending
    unfold insertIn
    split
    · rename_i less
      refine List.pairwise_cons.mpr ⟨?_, ascending⟩
      intro entry member
      rcases List.mem_cons.mp member with same | inside
      · subst same; exact less
      · exact Nat.lt_trans less (above entry inside)
    · split
      · rename_i same
        subst same
        exact List.pairwise_cons.mpr ⟨above, others⟩
      · rename_i notLess notSame
        refine List.pairwise_cons.mpr ⟨?_, ih others⟩
        intro entry member
        rcases mem_insertIn member with same | inside
        · subst same
          have : other < key := by omega
          exact this
        · exact above entry inside

def empty : NatMap α := ⟨[], List.Pairwise.nil⟩

instance : EmptyCollection (NatMap α) := ⟨empty⟩

instance : Inhabited (NatMap α) := ⟨empty⟩

def get? (map : NatMap α) (key : Nat) : Option α := findIn key map.entries

def contains (map : NatMap α) (key : Nat) : Bool := (map.get? key).isSome

/-- Sets the value of a key. -/
def insert (map : NatMap α) (key : Nat) (value : α) : NatMap α :=
  ⟨insertIn key value map.entries, insertIn_ascending key value map.ascending⟩

/-- Keeps the entries that pass a test. -/
def filter (keep : Nat → α → Bool) (map : NatMap α) : NatMap α :=
  ⟨map.entries.filter (fun entry => keep entry.1 entry.2), map.ascending.filter _⟩

def erase (map : NatMap α) (key : Nat) : NatMap α := map.filter (fun other _ => other != key)

/-- Changes every value in place. -/
def map (change : α → β) (map : NatMap α) : NatMap β :=
  ⟨map.entries.map (fun entry => (entry.1, change entry.2)),
    List.pairwise_map.mpr map.ascending⟩

/-- Changes the value of one key, if there is one. -/
def modify (map : NatMap α) (key : Nat) (change : α → α) : NatMap α :=
  match map.get? key with
  | none => map
  | some value => map.insert key (change value)

/-- The keys, ascending. -/
def keys (map : NatMap α) : List Nat := map.entries.map (·.1)

/-- The values, by ascending key. -/
def values (map : NatMap α) : List α := map.entries.map (·.2)

def size (map : NatMap α) : Nat := map.entries.length

def isEmpty (map : NatMap α) : Bool := map.entries.isEmpty

@[simp] theorem get?_empty (key : Nat) : (empty : NatMap α).get? key = none := rfl

theorem findIn_insertIn (key : Nat) (value : α) (entries : List (Nat × α)) (other : Nat) :
    findIn other (insertIn key value entries) =
      if other = key then some value else findIn other entries := by
  induction entries with
  | nil => simp [insertIn, findIn]
  | cons head rest ih =>
    obtain ⟨first, old⟩ := head
    unfold insertIn
    split
    · simp [findIn]
    · split
      · rename_i same
        subst same
        simp only [findIn]
        split <;> rfl
      · rename_i notLess notSame
        simp only [findIn, ih]
        split
        · rename_i same
          subst same
          simp [Ne.symm notSame]
        · rfl

theorem get?_insert (map : NatMap α) (key : Nat) (value : α) (other : Nat) :
    (map.insert key value).get? other = if other = key then some value else map.get? other :=
  findIn_insertIn key value map.entries other

@[simp] theorem get?_insert_self (map : NatMap α) (key : Nat) (value : α) :
    (map.insert key value).get? key = some value := by simp [get?_insert]

theorem get?_insert_ne (map : NatMap α) {key other : Nat} (value : α) (different : other ≠ key) :
    (map.insert key value).get? other = map.get? other := by
  rw [get?_insert, if_neg different]

theorem findIn_filter_erase (entries : List (Nat × α)) (key other : Nat) :
    findIn other (entries.filter (fun entry => entry.1 != key)) =
      if other = key then none else findIn other entries := by
  induction entries with
  | nil => simp [findIn]
  | cons head rest ih =>
    obtain ⟨first, value⟩ := head
    by_cases same : first = key
    · subst same
      simp only [bne_self_eq_false, Bool.false_eq_true, not_false_eq_true, List.filter_cons_of_neg,
        ih, findIn]
      split <;> simp_all
    · simp only [bne_iff_ne, ne_eq, same, not_false_eq_true, List.filter_cons_of_pos, findIn, ih]
      split
      · rename_i equal
        subst equal
        simp [same]
      · rfl

theorem get?_erase (map : NatMap α) (key other : Nat) :
    (map.erase key).get? other = if other = key then none else map.get? other :=
  findIn_filter_erase map.entries key other

theorem findIn_map (change : α → β) (entries : List (Nat × α)) (key : Nat) :
    findIn key (entries.map (fun entry => (entry.1, change entry.2))) =
      (findIn key entries).map change := by
  induction entries with
  | nil => rfl
  | cons head rest ih =>
    simp only [List.map_cons, findIn, ih]
    split <;> rfl

@[simp] theorem get?_map (change : α → β) (map : NatMap α) (key : Nat) :
    (map.map change).get? key = (map.get? key).map change :=
  findIn_map change map.entries key

/-- With ascending keys, looking a key up finds the only entry it has. -/
theorem findIn_eq_some_iff {entries : List (Nat × α)}
    (ascending : entries.Pairwise (fun left right => left.1 < right.1)) (key : Nat) (value : α) :
    findIn key entries = some value ↔ (key, value) ∈ entries := by
  induction entries with
  | nil => simp [findIn]
  | cons head rest ih =>
    obtain ⟨other, first⟩ := head
    have ⟨above, others⟩ := List.pairwise_cons.mp ascending
    simp only [findIn, List.mem_cons, Prod.mk.injEq]
    by_cases same : key = other
    · subst same
      have absent : (key, value) ∉ rest := fun member => Nat.lt_irrefl key (above _ member)
      simp [absent, eq_comm]
    · simp [same, ih others]

theorem get?_eq_some_iff (map : NatMap α) (key : Nat) (value : α) :
    map.get? key = some value ↔ (key, value) ∈ map.entries :=
  findIn_eq_some_iff map.ascending key value

@[simp] theorem get?_filter (keep : Nat → α → Bool) (map : NatMap α) (key : Nat) :
    (map.filter keep).get? key = (map.get? key).filter (keep key) := by
  apply Option.ext
  intro value
  rw [get?_eq_some_iff, Option.filter_eq_some_iff, get?_eq_some_iff]
  simp [filter, List.mem_filter]

theorem get?_modify (map : NatMap α) (key : Nat) (change : α → α) (other : Nat) :
    (map.modify key change).get? other =
      if other = key then (map.get? key).map change else map.get? other := by
  unfold modify
  cases found : map.get? key with
  | none =>
    by_cases same : other = key
    · simp [same, found]
    · simp [same]
  | some value => simp [get?_insert]

/-! ### Changes that a view of the values does not see -/

/-- A value replaced by one that looks the same. -/
theorem map_get?_insert (view : α → β) (map : NatMap α) {key : Nat} {old new : α}
    (found : map.get? key = some old) (same : view new = view old) (other : Nat) :
    ((map.insert key new).get? other).map view = (map.get? other).map view := by
  rw [get?_insert]
  by_cases here : other = key
  · simp [here, found, same]
  · simp [here]

/-- One value changed to one that looks the same. -/
theorem map_get?_modify (view : α → β) (map : NatMap α) (key : Nat) {change : α → α}
    (same : ∀ value, view (change value) = view value) (other : Nat) :
    ((map.modify key change).get? other).map view = (map.get? other).map view := by
  rw [get?_modify]
  by_cases here : other = key
  · simp [here, Function.comp_def, same]
  · simp [here]

/-- Every value changed to one that looks the same. -/
theorem map_get?_map (view : α → β) (map : NatMap α) {change : α → α}
    (same : ∀ value, view (change value) = view value) (other : Nat) :
    ((map.map change).get? other).map view = (map.get? other).map view := by
  simp [Function.comp_def, same]

theorem filter_eq_self {keep : Nat → α → Bool} {map : NatMap α}
    (all : ∀ key value, map.get? key = some value → keep key value = true) :
    map.filter keep = map := by
  obtain ⟨entries, ascending⟩ := map
  have same : entries.filter (fun entry => keep entry.1 entry.2) = entries :=
    List.filter_eq_self.mpr (fun entry member =>
      all entry.1 entry.2 ((get?_eq_some_iff ⟨entries, ascending⟩ _ _).mpr member))
  simp only [filter, same]

/-! ### The same look-ups -/

theorem entries_ext {one two : List (Nat × α)}
    (oneAscending : one.Pairwise (fun left right => left.1 < right.1))
    (twoAscending : two.Pairwise (fun left right => left.1 < right.1))
    (same : ∀ entry, entry ∈ one ↔ entry ∈ two) : one = two := by
  induction one generalizing two with
  | nil => exact (List.eq_nil_iff_forall_not_mem.mpr (fun entry => by simp [← same])).symm
  | cons head rest ih =>
    cases two with
    | nil => exact absurd ((same head).mp List.mem_cons_self) List.not_mem_nil
    | cons other others =>
      have ⟨above, ascending⟩ := List.pairwise_cons.mp oneAscending
      have ⟨otherAbove, otherAscending⟩ := List.pairwise_cons.mp twoAscending
      -- the least key is at the front on both sides
      have heads : head = other := by
        rcases List.mem_cons.mp ((same head).mp List.mem_cons_self) with equal | later
        · exact equal
        · rcases List.mem_cons.mp ((same other).mpr List.mem_cons_self) with equal | further
          · exact equal.symm
          · exact absurd (otherAbove head later) (Nat.lt_asymm (above other further))
      subst heads
      rw [ih ascending otherAscending]
      intro entry
      have member := same entry
      constructor
      · intro inside
        have distinct : entry ≠ head := by
          rintro rfl
          exact Nat.lt_irrefl _ (above entry inside)
        simpa [distinct] using member.mp (List.mem_cons_of_mem _ inside)
      · intro inside
        have distinct : entry ≠ head := by
          rintro rfl
          exact Nat.lt_irrefl _ (otherAbove entry inside)
        simpa [distinct] using member.mpr (List.mem_cons_of_mem _ inside)

/-- Two maps with the same look-ups are equal. -/
theorem ext_get? {one two : NatMap α} (same : ∀ key, one.get? key = two.get? key) : one = two := by
  have entries : one.entries = two.entries := by
    apply entries_ext one.ascending two.ascending
    rintro ⟨key, value⟩
    rw [← get?_eq_some_iff, ← get?_eq_some_iff, same]
  cases one
  cases two
  cases entries
  rfl

theorem map_insert (change : α → β) (map : NatMap α) (key : Nat) (value : α) :
    (map.insert key value).map change = (map.map change).insert key (change value) := by
  apply ext_get?
  intro other
  rw [get?_map, get?_insert, get?_insert, get?_map]
  split <;> rfl

theorem map_erase (change : α → β) (map : NatMap α) (key : Nat) :
    (map.erase key).map change = (map.map change).erase key := by
  apply ext_get?
  intro other
  rw [get?_map, get?_erase, get?_erase, get?_map]
  split <;> rfl

theorem insert_insert (map : NatMap α) (key : Nat) (old new : α) :
    (map.insert key old).insert key new = map.insert key new := by
  apply ext_get?
  intro other
  simp only [get?_insert]
  split <;> rfl

theorem insert_eq_self {map : NatMap α} {key : Nat} {value : α}
    (found : map.get? key = some value) : map.insert key value = map := by
  apply ext_get?
  intro other
  rw [get?_insert]
  split
  · rename_i here
    rw [here, found]
  · rfl

/-! ### Keys -/

theorem keys_map (change : α → β) (map : NatMap α) : (map.map change).keys = map.keys := by
  simp [keys, NatMap.map, Function.comp_def]

theorem isEmpty_map (change : α → β) (map : NatMap α) :
    (map.map change).isEmpty = map.isEmpty := by
  simp [isEmpty, NatMap.map]

theorem contains_map (change : α → β) (map : NatMap α) (key : Nat) :
    (map.map change).contains key = map.contains key := by
  simp [contains]

/-- The keys are exactly those with a value. -/
theorem mem_keys_iff (map : NatMap α) (key : Nat) :
    key ∈ map.keys ↔ ∃ value, map.get? key = some value := by
  simp [keys, get?_eq_some_iff]

theorem contains_iff (map : NatMap α) (key : Nat) :
    map.contains key = true ↔ ∃ value, map.get? key = some value := by
  rw [contains, Option.isSome_iff_exists]

theorem isEmpty_iff (map : NatMap α) : map.isEmpty = true ↔ ∀ key, map.get? key = none := by
  obtain ⟨entries, ascending⟩ := map
  cases entries with
  | nil => simp [isEmpty, get?, findIn]
  | cons head rest =>
    constructor
    · intro empty
      cases empty
    · intro absent
      have first := absent head.1
      simp [get?, findIn] at first

theorem keys_nodup (map : NatMap α) : map.keys.Nodup := by
  refine List.pairwise_map.mpr (map.ascending.imp ?_)
  intro left right less same
  exact Nat.lt_irrefl _ (same ▸ less)

end NatMap

end TransportStream
