import ConnString.Dict
import Mathlib.Data.List.Induction
import Mathlib.Data.List.Nodup
import Mathlib.Data.List.Perm.Basic

/-!
# Dictionaries as finite maps

What a dictionary answers for each key is all there is to it but the order of its entries
(`same_iff_get?_eq`). Storing many pairs prefers the pairs to what was there (`get?_insertAll`).
The sorted entries do not depend on the order either (`sorted_congr`), their keys ascend strictly
(`strict_keys_sorted`), and a sorted list of a dictionary's entries is the one (`eq_sorted`).
Storing the entries of a dictionary from scratch gives it back (`ofList_entries`). A key that is
stored again keeps its place: storing under it can wait (`insert_comm`), and only the last value
counts (`insert_insert`). New keys follow those that are there (`keys_insertAll`), and the order of
the keys with the answers is all there is (`eq_of_keys_eq`).
-/

namespace ConnString.Dict

variable {α β : Type}

/-! ### Entries and look-ups -/

/-- Among distinct keys the value that is found is the one that is paired with the key. -/
theorem lookup_eq_some_iff_mem {entries : List (String × α)}
    (fresh : (entries.map Prod.fst).Nodup) {key : String} {value : α} :
    entries.lookup key = some value ↔ (key, value) ∈ entries := by
  induction entries with
  | nil => simp
  | cons entry rest ih =>
      obtain ⟨name, old⟩ := entry
      rw [List.map_cons, List.nodup_cons] at fresh
      by_cases same : key = name
      · subst same
        have absent : (key, value) ∉ rest := fun member =>
          fresh.1 (List.mem_map.mpr ⟨_, member, rfl⟩)
        simp [absent, eq_comm]
      · simp [List.lookup_cons, beq_eq_false_iff_ne.mpr same, same, ih fresh.2]

/-- Nothing is found exactly under a key that no pair has. -/
theorem lookup_eq_none_iff_not_mem {entries : List (String × α)} {key : String} :
    entries.lookup key = none ↔ key ∉ entries.map Prod.fst := by
  rw [List.lookup_eq_none_iff, List.mem_map]
  constructor
  · rintro different ⟨entry, member, rfl⟩
    simpa using different entry member
  · intro absent entry member
    have other : key ≠ entry.1 := fun same => absent ⟨entry, member, same.symm⟩
    simpa using other

/-- A dictionary has a value under a key exactly if the two are an entry of it. -/
theorem get?_eq_some_iff {dict : Dict α} {key : String} {value : α} :
    dict.get? key = some value ↔ (key, value) ∈ dict.entries :=
  lookup_eq_some_iff_mem dict.nodup

theorem get?_eq_none_iff {dict : Dict α} {key : String} :
    dict.get? key = none ↔ key ∉ dict.keys :=
  lookup_eq_none_iff_not_mem

theorem ext {left right : Dict α} (same : left.entries = right.entries) : left = right := by
  cases left
  cases right
  cases same
  rfl

/-- An entry with a new key comes last. -/
theorem store_of_not_mem {key : String} {entries : List (String × α)}
    (fresh : key ∉ entries.map Prod.fst) (value : α) :
    store key value entries = entries ++ [(key, value)] := by
  induction entries with
  | nil => rfl
  | cons entry rest ih =>
      rw [List.map_cons, List.mem_cons, not_or] at fresh
      rw [store, if_neg (Ne.symm fresh.1), ih fresh.2, List.cons_append]

theorem nodup_entries (dict : Dict α) : dict.entries.Nodup := dict.nodup.of_map

/-- Two dictionaries hold the same entries if they answer alike for every key. -/
theorem same_iff_get?_eq {left right : Dict α} :
    left.Same right ↔ ∀ key, left.get? key = right.get? key := by
  rw [Same, List.perm_ext_iff_of_nodup left.nodup_entries right.nodup_entries]
  constructor
  · intro members key
    apply Option.ext
    intro value
    rw [get?_eq_some_iff, get?_eq_some_iff]
    exact members (key, value)
  · rintro answers ⟨key, value⟩
    rw [← get?_eq_some_iff, ← get?_eq_some_iff, answers key]

/-- Inserted pairs with distinct keys win over what was there. -/
theorem get?_insertAll {pairs : List (String × α)} (fresh : (pairs.map Prod.fst).Nodup)
    (dict : Dict α) (key : String) :
    (dict.insertAll pairs).get? key = (pairs.lookup key).or (dict.get? key) := by
  induction pairs generalizing dict with
  | nil => rfl
  | cons pair rest ih =>
      obtain ⟨name, value⟩ := pair
      rw [List.map_cons, List.nodup_cons] at fresh
      change ((dict.insert name value).insertAll rest).get? key = _
      rw [ih fresh.2, get?_insert]
      by_cases same : key = name
      · subst same
        rw [lookup_eq_none_iff_not_mem.mpr fresh.1]
        simp
      · simp [List.lookup_cons, beq_eq_false_iff_ne.mpr same, same]

/-- Storing the entries of a dictionary prefers it to what was there. -/
theorem get?_insertAll_entries (dict upper : Dict α) (key : String) :
    (dict.insertAll upper.entries).get? key = (upper.get? key).or (dict.get? key) :=
  get?_insertAll upper.nodup dict key

theorem get?_ofList {pairs : List (String × α)} (fresh : (pairs.map Prod.fst).Nodup)
    (key : String) : (ofList pairs).get? key = pairs.lookup key := by
  rw [ofList, get?_insertAll fresh]
  exact Option.or_none

/-! ### Ascending order -/

/-- Sorting changes the order of the entries only. -/
theorem sorted_perm (dict : Dict α) : dict.sorted.Perm dict.entries :=
  List.mergeSort_perm _ _

theorem mem_sorted {dict : Dict α} {entry : String × α} :
    entry ∈ dict.sorted ↔ entry ∈ dict.entries :=
  dict.sorted_perm.mem_iff

theorem mem_keys_sorted {dict : Dict α} {key : String} :
    key ∈ dict.sorted.map Prod.fst ↔ key ∈ dict.keys :=
  (dict.sorted_perm.map Prod.fst).mem_iff

theorem nodup_keys_sorted (dict : Dict α) : (dict.sorted.map Prod.fst).Nodup :=
  (dict.sorted_perm.map Prod.fst).nodup_iff.mpr dict.nodup

/-- The sorted entries have ascending keys. -/
theorem pairwise_sorted (dict : Dict α) :
    dict.sorted.Pairwise fun left right => left.1 ≤ right.1 := by
  have ascending : dict.sorted.Pairwise fun left right => decide (left.1 ≤ right.1) := by
    refine List.pairwise_mergeSort ?_ ?_ dict.entries
    · intro first second third
      simp only [decide_eq_true_eq]
      exact String.le_trans
    · intro left right
      simp only [Bool.or_eq_true, decide_eq_true_eq]
      exact String.le_total left.1 right.1
  simpa only [decide_eq_true_eq] using ascending

/-- No key comes twice, so the sorted keys ascend strictly. -/
theorem strict_keys_sorted (dict : Dict α) : (dict.sorted.map Prod.fst).Pairwise (· < ·) := by
  refine List.Pairwise.imp₂ ?_ (List.pairwise_map.mpr dict.pairwise_sorted) dict.nodup_keys_sorted
  intro lower upper below different
  rw [← String.not_le]
  intro above
  exact different (String.le_antisymm below above)

/-- A sorted list of the entries of a dictionary is the list of its sorted entries. -/
theorem eq_sorted {dict : Dict α} {entries : List (String × α)} (perm : entries.Perm dict.entries)
    (ascending : entries.Pairwise fun left right => left.1 ≤ right.1) :
    entries = dict.sorted := by
  refine List.Perm.eq_of_pairwise ?_ ascending dict.pairwise_sorted
    (perm.trans dict.sorted_perm.symm)
  intro left right here there below above
  exact List.inj_on_of_nodup_map dict.nodup (perm.mem_iff.mp here) (mem_sorted.mp there)
    (String.le_antisymm below above)

/-- Equal dictionaries are sorted into one list. -/
theorem sorted_congr {left right : Dict α} (same : left.Same right) :
    left.sorted = right.sorted :=
  eq_sorted (left.sorted_perm.trans same) left.pairwise_sorted

/-- The dictionary with its keys in ascending order. -/
def ascending (dict : Dict α) : Dict α := ⟨dict.sorted, dict.nodup_keys_sorted⟩

/-- A dictionary equals itself in ascending order. -/
theorem ascending_same (dict : Dict α) : dict.ascending.Same dict := dict.sorted_perm

/-- Each key with a list of its value alone, in ascending order of the keys. -/
def singletons (dict : Dict α) : Dict (List α) where
  entries := dict.sorted.map fun entry => (entry.1, [entry.2])
  nodup := by
    rw [List.map_map]
    exact dict.nodup_keys_sorted

theorem keys_singletons (dict : Dict α) : dict.singletons.keys = dict.sorted.map Prod.fst := by
  rw [keys, singletons, List.map_map]
  rfl

/-- The singletons of a dictionary have its values, each in a list of its own. -/
theorem get?_singletons (dict : Dict α) (key : String) :
    dict.singletons.get? key = (dict.get? key).map fun value => [value] := by
  apply Option.ext
  intro values
  rw [get?_eq_some_iff, Option.map_eq_some_iff, singletons, List.mem_map]
  constructor
  · rintro ⟨entry, member, same⟩
    cases same
    exact ⟨entry.2, get?_eq_some_iff.mpr (mem_sorted.mp member), rfl⟩
  · rintro ⟨value, found, rfl⟩
    exact ⟨(key, value), mem_sorted.mpr (get?_eq_some_iff.mp found), rfl⟩

/-- Pairs with new and distinct keys are stored at the end, in their order. -/
theorem entries_insertAll {pairs : List (String × α)} {dict : Dict α}
    (fresh : (dict.keys ++ pairs.map Prod.fst).Nodup) :
    (dict.insertAll pairs).entries = dict.entries ++ pairs := by
  induction pairs generalizing dict with
  | nil => exact (List.append_nil _).symm
  | cons pair rest ih =>
      have apart := List.nodup_append.mp fresh
      have absent : pair.1 ∉ dict.keys := fun member =>
        apart.2.2 _ member _ List.mem_cons_self rfl
      have stored : (dict.insert pair.1 pair.2).entries = dict.entries ++ [pair] :=
        store_of_not_mem absent pair.2
      have whole : ((dict.insert pair.1 pair.2).insertAll rest).entries =
          (dict.insert pair.1 pair.2).entries ++ rest := by
        refine ih ?_
        rw [keys, stored, List.map_append, List.append_assoc]
        exact fresh
      rw [stored, List.append_assoc] at whole
      exact whole

/-- Storing the entries of a dictionary from scratch gives it back. -/
theorem ofList_entries (dict : Dict α) : ofList dict.entries = dict :=
  ext (entries_insertAll dict.nodup)

/-- Inserting the sorted entries makes the dictionary in ascending order. -/
theorem ofList_sorted (dict : Dict α) : ofList dict.sorted = dict.ascending :=
  ext (entries_insertAll dict.nodup_keys_sorted)

/-- The entries that a dictionary overlays on another one come out of it again. -/
theorem filter_sorted_insertAll (base upper : Dict α) :
    ((base.insertAll upper.entries).sorted.filter fun entry => upper.keys.contains entry.1) =
      upper.sorted := by
  refine eq_sorted ?_ ((base.insertAll upper.entries).pairwise_sorted.filter _)
  refine (List.perm_ext_iff_of_nodup ?_ upper.nodup_entries).mpr ?_
  · exact ((base.insertAll upper.entries).nodup_keys_sorted.of_map).filter _
  · rintro ⟨key, value⟩
    rw [List.mem_filter, mem_sorted, ← get?_eq_some_iff, get?_insertAll_entries,
      ← get?_eq_some_iff, List.contains_iff_mem]
    cases found : upper.get? key with
    | none =>
        have absent := get?_eq_none_iff.mp found
        simp [absent]
    | some other =>
        have present : key ∈ upper.keys :=
          List.mem_map.mpr ⟨_, get?_eq_some_iff.mp found, rfl⟩
        simp [present]

/-! ### Storing again -/

/-- The later of two values under one key is kept. -/
theorem store_store (key : String) (old new : α) (entries : List (String × α)) :
    store key new (store key old entries) = store key new entries := by
  induction entries with
  | nil => simp only [store, ↓reduceIte]
  | cons entry rest ih =>
      by_cases same : entry.1 = key
      · rw [store, if_pos same, store, if_pos rfl, store, if_pos same]
      · rw [store, if_neg same, store, if_neg same, ih, store, if_neg same]

/-- A key that is there keeps its place, so storing under it can wait. -/
theorem store_comm {key other : String} {entries : List (String × α)}
    (present : key ∈ entries.map Prod.fst) (different : key ≠ other) (value content : α) :
    store key value (store other content entries) =
      store other content (store key value entries) := by
  induction entries with
  | nil => cases present
  | cons entry rest ih =>
      by_cases same : entry.1 = key
      · have apart : entry.1 ≠ other := same ▸ different
        rw [store, if_neg apart, store, if_pos same, store, if_pos same, store, if_neg different]
      · have later : key ∈ rest.map Prod.fst := by
          rw [List.map_cons, List.mem_cons] at present
          exact present.resolve_left (Ne.symm same)
        by_cases here : entry.1 = other
        · rw [store, if_pos here, store, if_neg (Ne.symm different), store, if_neg same, store,
            if_pos here]
        · rw [store, if_neg here, store, if_neg same, ih later, store, if_neg same, store,
            if_neg here]

theorem insert_insert (dict : Dict α) (key : String) (old new : α) :
    (dict.insert key old).insert key new = dict.insert key new :=
  ext (store_store key old new dict.entries)

/-- A value for a key that is there may be inserted before or after one for another key: its place
is fixed already. -/
theorem insert_comm {dict : Dict α} {key other : String} (present : key ∈ dict.keys)
    (different : key ≠ other) (value content : α) :
    (dict.insert other content).insert key value = (dict.insert key value).insert other content :=
  ext (store_comm present different value content)

/-- Equal dictionaries stay equal under the same insertion. -/
theorem Same.insert {left right : Dict α} (same : left.Same right) (key : String) (value : α) :
    (left.insert key value).Same (right.insert key value) := by
  rw [same_iff_get?_eq] at same ⊢
  intro query
  rw [get?_insert, get?_insert, same query]

/-- The order in which two keys are stored decides nothing but the order of the entries. -/
theorem insert_comm_same {key other : String} (different : key ≠ other) (dict : Dict α)
    (value content : α) :
    ((dict.insert key value).insert other content).Same
      ((dict.insert other content).insert key value) := by
  rw [same_iff_get?_eq]
  intro query
  simp only [get?_insert]
  by_cases first : query = key
  · rw [if_pos first, if_neg (first ▸ different), if_pos first]
  · rw [if_neg first, if_neg first]

/-- An insertion adds its own key and no other. -/
theorem mem_keys_insert {dict : Dict α} {key other : String} {value : α} :
    other ∈ (dict.insert key value).keys ↔ other ∈ dict.keys ∨ other = key := by
  rw [keys_insert]
  split
  · next present =>
    exact ⟨.inl, fun either => either.elim id fun same => same ▸ present⟩
  · rw [List.mem_append, List.mem_singleton]

theorem ofList_concat (pairs : List (String × α)) (pair : String × α) :
    ofList (pairs ++ [pair]) = (ofList pairs).insert pair.1 pair.2 := by
  rw [ofList, insertAll, List.foldl_append]
  rfl

/-- The keys of pairs that are stored come after those that are there, in their order. -/
theorem keys_insertAll {pairs : List (String × α)} (fresh : (pairs.map Prod.fst).Nodup)
    (dict : Dict α) :
    (dict.insertAll pairs).keys =
      dict.keys ++ (pairs.map Prod.fst).filter fun key => decide (key ∉ dict.keys) := by
  induction pairs generalizing dict with
  | nil => exact (List.append_nil _).symm
  | cons pair rest ih =>
      obtain ⟨new, later⟩ := List.nodup_cons.mp fresh
      have stored : (dict.insertAll (pair :: rest)).keys = _ :=
        ih later (dict.insert pair.1 pair.2)
      rw [stored, keys_insert, List.map_cons]
      by_cases present : pair.1 ∈ dict.keys
      · rw [if_pos present, List.filter_cons_of_neg (by simpa using present)]
      · rw [if_neg present, List.filter_cons_of_pos (by simpa using present), List.append_assoc,
          List.singleton_append]
        refine congrArg (dict.keys ++ pair.1 :: ·) (List.filter_congr fun key member => ?_)
        have apart : key ≠ pair.1 := fun same => new (same ▸ member)
        simp only [List.mem_append, List.mem_singleton, apart, or_false]

/-- The keys in their order and the value of each are all there is to a dictionary. -/
theorem eq_of_keys_eq {left right : Dict α} (keys : left.keys = right.keys)
    (answers : ∀ key, left.get? key = right.get? key) : left = right := by
  have answered : ∀ dict : Dict α, dict.keys.map (fun key => (key, dict.get? key)) =
      dict.entries.map fun entry => (entry.1, some entry.2) := by
    intro dict
    rw [Dict.keys, List.map_map]
    refine List.map_congr_left fun entry member => ?_
    exact congrArg (entry.1, ·) (get?_eq_some_iff.mpr member)
  have paired : Function.Injective fun entry : String × α => (entry.1, some entry.2) := by
    rintro ⟨_, _⟩ ⟨_, _⟩ same
    cases same
    rfl
  apply ext
  apply List.map_injective_iff.mpr paired
  rw [← answered left, ← answered right, keys]
  exact List.map_congr_left fun key _ => congrArg (key, ·) (answers key)

/-! ### Parts of the values -/

/-- The keys of pairs with a part of their values; a pair without that part is left out. -/
def pick (part : α → Option β) (pairs : List (String × α)) : List (String × β) :=
  pairs.filterMap fun pair => (part pair.2).map fun value => (pair.1, value)

theorem pick_cons {part : α → Option β} {pair : String × α} {content : β}
    (picked : part pair.2 = some content) (rest : List (String × α)) :
    pick part (pair :: rest) = (pair.1, content) :: pick part rest :=
  List.filterMap_cons_some (by rw [picked, Option.map_some])

/-- What is picked is a part of a value under its key. -/
theorem mem_pick {part : α → Option β} {pairs : List (String × α)} {key : String} {content : β} :
    (key, content) ∈ pick part pairs ↔
      ∃ value, (key, value) ∈ pairs ∧ part value = some content := by
  rw [pick, List.mem_filterMap]
  constructor
  · rintro ⟨⟨name, value⟩, member, found⟩
    obtain ⟨_, picked, same⟩ := Option.map_eq_some_iff.mp found
    cases same
    exact ⟨value, member, picked⟩
  · rintro ⟨value, member, picked⟩
    exact ⟨(key, value), member, by rw [picked, Option.map_some]⟩

/-- The picked keys are some of the keys, in their order. -/
theorem keys_pick_sublist (part : α → Option β) (pairs : List (String × α)) :
    ((pick part pairs).map Prod.fst).Sublist (pairs.map Prod.fst) := by
  rw [pick]
  induction pairs with
  | nil => exact List.Sublist.refl _
  | cons pair rest ih =>
      rw [List.filterMap_cons]
      cases part pair.2 with
      | none => exact ih.trans (List.sublist_cons_self _ _)
      | some content => exact ih.cons_cons _

/-- Where every value has the part, storing a value stores its part. -/
theorem pick_store {part : α → Option β} {value : α} {content : β}
    (picked : part value = some content) {entries : List (String × α)}
    (whole : ∀ entry ∈ entries, (part entry.2).isSome) (key : String) :
    pick part (store key value entries) = store key content (pick part entries) := by
  induction entries with
  | nil => rw [store, pick_cons picked]; rfl
  | cons entry rest ih =>
      obtain ⟨first, found⟩ := Option.isSome_iff_exists.mp (whole entry List.mem_cons_self)
      have wholeRest : ∀ other ∈ rest, (part other.2).isSome := fun other member =>
        whole other (List.mem_cons_of_mem _ member)
      rw [pick_cons found]
      by_cases same : entry.1 = key
      · rw [store, if_pos same, pick_cons picked, store, if_pos same]
      · rw [store, if_neg same, pick_cons found, ih wholeRest, store, if_neg same]

/-- An entry after storing is the stored one or an old one. -/
theorem mem_store {key : String} {value : α} {entries : List (String × α)} {entry : String × α}
    (member : entry ∈ store key value entries) : entry = (key, value) ∨ entry ∈ entries := by
  induction entries with
  | nil => exact .inl (List.mem_singleton.mp member)
  | cons first rest ih =>
      rw [store] at member
      split at member
      · rcases List.mem_cons.mp member with new | old
        · exact .inl new
        · exact .inr (List.mem_cons_of_mem _ old)
      · rcases List.mem_cons.mp member with here | there
        · exact .inr (here ▸ List.mem_cons_self)
        · exact (ih there).imp_right (List.mem_cons_of_mem _)

theorem mem_of_mem_ofList {pairs : List (String × α)} {entry : String × α}
    (member : entry ∈ (ofList pairs).entries) : entry ∈ pairs := by
  induction pairs using List.reverseRecOn with
  | nil => cases member
  | append_singleton front last ih =>
      rw [ofList_concat] at member
      rcases mem_store member with new | old
      · exact List.mem_append_right _ (new ▸ List.mem_singleton_self _)
      · exact List.mem_append_left _ (ih old)

/-- The parts of the entries that pairs make are the entries that their parts make. -/
theorem pick_entries_ofList {part : α → Option β} {pairs : List (String × α)}
    (whole : ∀ pair ∈ pairs, (part pair.2).isSome) :
    pick part (ofList pairs).entries = (ofList (pick part pairs)).entries := by
  induction pairs using List.reverseRecOn with
  | nil => rfl
  | append_singleton front last ih =>
      have wholeFront : ∀ pair ∈ front, (part pair.2).isSome := fun pair member =>
        whole pair (List.mem_append_left _ member)
      obtain ⟨content, found⟩ := Option.isSome_iff_exists.mp
        (whole last (List.mem_append_right _ (List.mem_singleton_self last)))
      have wholeEntries : ∀ entry ∈ (ofList front).entries, (part entry.2).isSome :=
        fun entry member => wholeFront entry (mem_of_mem_ofList member)
      have parts : pick part (front ++ [last]) = pick part front ++ [(last.1, content)] := by
        rw [pick, List.filterMap_append]
        exact congrArg (pick part front ++ ·) (pick_cons found [])
      rw [parts, ofList_concat, ofList_concat]
      exact (pick_store found wholeEntries last.1).trans
        (congrArg (store last.1 content) (ih wholeFront))

end ConnString.Dict
