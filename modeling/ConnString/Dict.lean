/-!
# Dictionaries in insertion order

A dictionary lists its keys in the order in which they first came. Storing under a key that is there
keeps its place; a new key goes to the end (`keys_insert`). Looking a key up after storing gives the
value stored (`get?_insert`). Two dictionaries that hold the same entries in any order are the
`Same`.
-/

namespace ConnString

/-- Entries with distinct keys, in insertion order. -/
structure Dict (α : Type) where
  /-- The keys with their values. -/
  entries : List (String × α)
  /-- No key occurs twice. -/
  nodup : (entries.map Prod.fst).Nodup

namespace Dict

variable {α : Type}

instance [DecidableEq α] : DecidableEq (Dict α) := fun left right =>
  decidable_of_iff (left.entries = right.entries) (by cases left; cases right; simp)

/-- The keys in insertion order. -/
def keys (dict : Dict α) : List String := dict.entries.map Prod.fst

/-- The dictionary without entries. -/
def empty : Dict α := ⟨[], .nil⟩

instance : EmptyCollection (Dict α) := ⟨empty⟩

instance : Inhabited (Dict α) := ⟨empty⟩

/-- The entries after storing under a key: in its place, or else at the end. -/
def store (key : String) (value : α) : List (String × α) → List (String × α)
  | [] => [(key, value)]
  | entry :: rest =>
    if entry.1 = key then (key, value) :: rest else entry :: store key value rest

/-- A new key comes last; an old one keeps its place. -/
theorem keys_store (key : String) (value : α) (entries : List (String × α)) :
    (store key value entries).map Prod.fst =
      if key ∈ entries.map Prod.fst then entries.map Prod.fst
      else entries.map Prod.fst ++ [key] := by
  induction entries with
  | nil => simp [store]
  | cons entry rest step =>
    by_cases same : entry.1 = key
    · simp [store, same]
    · simp only [store, same, ↓reduceIte, List.map_cons, step, List.mem_cons, Ne.symm same,
        false_or]
      split <;> rfl

/-- Store a value under a key. -/
def insert (dict : Dict α) (key : String) (value : α) : Dict α where
  entries := store key value dict.entries
  nodup := by
    have fresh := dict.nodup
    rw [keys_store]
    split
    · exact fresh
    · next absent =>
      refine List.nodup_append.2 ⟨fresh, List.nodup_cons.2 ⟨List.not_mem_nil, .nil⟩, ?_⟩
      intro old member new single same
      rw [List.mem_singleton] at single
      exact absent (single ▸ same ▸ member)

/-- The value stored under a key. -/
def get? (dict : Dict α) (key : String) : Option α := dict.entries.lookup key

/-- Store pairs one after another. -/
def insertAll (dict : Dict α) (pairs : List (String × α)) : Dict α :=
  pairs.foldl (fun stored pair => stored.insert pair.1 pair.2) dict

/-- The dictionary that storing pairs one after another makes. -/
def ofList (pairs : List (String × α)) : Dict α := empty.insertAll pairs

/-- The entries in ascending order of their keys. -/
def sorted (dict : Dict α) : List (String × α) :=
  dict.entries.mergeSort fun left right => decide (left.1 ≤ right.1)

/-- Two dictionaries hold the same entries, in whatever order. -/
def Same (left right : Dict α) : Prop := left.entries.Perm right.entries

instance [DecidableEq α] (left right : Dict α) : Decidable (Same left right) :=
  inferInstanceAs (Decidable (left.entries.Perm right.entries))

theorem keys_insert (dict : Dict α) (key : String) (value : α) :
    (dict.insert key value).keys =
      if key ∈ dict.keys then dict.keys else dict.keys ++ [key] :=
  keys_store key value dict.entries

/-- What is stored under a key is found under it, and other keys keep their values. -/
theorem lookup_store (key : String) (value : α) (entries : List (String × α)) (query : String) :
    (store key value entries).lookup query =
      if query = key then some value else entries.lookup query := by
  induction entries with
  | nil =>
    by_cases same : query = key
    · simp [store, same]
    · simp [store, List.lookup_cons, beq_eq_false_iff_ne.2 same, same]
  | cons entry rest step =>
    obtain ⟨name, old⟩ := entry
    by_cases here : name = key
    · subst here
      by_cases same : query = name
      · simp [store, same]
      · simp [store, List.lookup_cons, beq_eq_false_iff_ne.2 same, same]
    · by_cases same : query = name
      · subst same
        simp [store, here]
      · simp [store, here, List.lookup_cons, beq_eq_false_iff_ne.2 same, step]

/-- A dictionary has the inserted value under its key and what it had under every other. -/
theorem get?_insert (dict : Dict α) (key : String) (value : α) (query : String) :
    (dict.insert key value).get? query = if query = key then some value else dict.get? query :=
  lookup_store key value dict.entries query

end Dict

end ConnString
