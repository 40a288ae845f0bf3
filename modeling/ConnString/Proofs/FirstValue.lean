import ConnString.Proofs.Merge
import ConnString.Proofs.Tail

/-!
# First values of keys

The first value of a key is that of the first piece with the key, whatever comes after it
(`Query.get?_read_head?`). Keys can be set in any order: that decides nothing but the order of the
parameters (`Config.exists_applyPairs_perm`). So two queries that agree on the first values of all
keys are both set or both fail, and set the same (`Config.ofDsn_congr_query`).
-/

namespace ConnString

/-! ### Gathered values -/

namespace Query

theorem head?_append_singleton (values : List String) (value : String) :
    (values ++ [value]).head? = values.head?.or (some value) := by
  cases values <;> rfl

/-- A value that is gathered is the first of its key only if there was none. -/
theorem get?_gather_head? (values : Dict (List String)) (pair : String × String) (key : String) :
    ((gather values pair).get? key).bind List.head? =
      if key = pair.1 then ((values.get? key).bind List.head?).or (some pair.2)
      else (values.get? key).bind List.head? := by
  rw [gather, Dict.get?_insert]
  split
  · next same =>
    rw [same, Option.bind_some, head?_append_singleton]
    cases values.get? pair.1 <;> rfl
  · rfl

/-- Gathering pairs gives each key the first value that it had or gets. -/
theorem get?_foldl_gather_head? (list : List (String × String)) (values : Dict (List String))
    (key : String) :
    ((list.foldl gather values).get? key).bind List.head? =
      ((values.get? key).bind List.head?).or (list.lookup key) := by
  induction list generalizing values with
  | nil => exact Option.or_none.symm
  | cons pair others ih =>
      obtain ⟨name, value⟩ := pair
      rw [List.foldl_cons, ih, get?_gather_head?]
      by_cases same : key = name
      · simp [same]
      · simp [List.lookup_cons, beq_eq_false_iff_ne.mpr same, same]

/-- The first value that is read for a key is that of its first piece. -/
theorem get?_read_head? (query : List Char) (key : String) :
    ((read query).get? key).bind List.head? = (pairs query).lookup key := by
  rw [read, get?_foldl_gather_head?]
  rfl

end Query

namespace Config

/-- The first values of a mapping are those at the heads of its lists. -/
theorem mem_firstValues {mapping : Dict (List String)} {key value : String} :
    (key, value) ∈ firstValues mapping ↔ (mapping.get? key).bind List.head? = some value := by
  simp only [Option.bind_eq_some_iff, Dict.get?_eq_some_iff]
  exact Dict.mem_pick

/-- No key has two first values. -/
theorem nodup_keys_firstValues (mapping : Dict (List String)) :
    ((firstValues mapping).map Prod.fst).Nodup :=
  (Dict.keys_pick_sublist List.head? mapping.entries).nodup mapping.nodup

/-- Queries that agree on the first values have the same first values, perhaps in another order. -/
theorem firstValues_read_perm {left right : List Char}
    (same : ∀ key, (Query.pairs left).lookup key = (Query.pairs right).lookup key) :
    (firstValues (Query.read left)).Perm (firstValues (Query.read right)) := by
  refine (List.perm_ext_iff_of_nodup (nodup_keys_firstValues _).of_map
    (nodup_keys_firstValues _).of_map).mpr ?_
  rintro ⟨key, value⟩
  rw [mem_firstValues, mem_firstValues, Query.get?_read_head?, Query.get?_read_head?, same key]

/-! ### The order of keys -/

theorem SameParams.refl (params : Option (Dict String)) : SameParams params params := by
  cases params with
  | none => trivial
  | some dict => exact List.Perm.refl _

theorem SameParams.trans {first second third : Option (Dict String)}
    (left : SameParams first second) (right : SameParams second third) :
    SameParams first third := by
  cases first <;> cases second <;> cases third
  case none.none.none => trivial
  case some.some.some => exact List.Perm.trans left right
  all_goals first | exact left.elim | exact right.elim

/-- Parameters that agree are equal dictionaries where missing ones count as none. -/
theorem SameParams.getD {left right : Option (Dict String)} (same : SameParams left right) :
    (left.getD ∅).Same (right.getD ∅) := by
  cases left <;> cases right
  case none.none => exact List.Perm.refl _
  case some.some => exact same
  all_goals exact same.elim

/-- Two configurations agree but for the order of their parameters. -/
structure Reordered (left right : Config) : Prop where
  endpoint : left.toEndpoint = right.toEndpoint
  options : left.toTypedOptions = right.toTypedOptions
  params : SameParams left.params right.params

namespace Reordered

variable {left right : Config}

theorem refl (config : Config) : Reordered config config := ⟨rfl, rfl, SameParams.refl _⟩

theorem trans {between : Config} (first : Reordered left between)
    (second : Reordered between right) : Reordered left right where
  endpoint := first.endpoint.trans second.endpoint
  options := first.options.trans second.options
  params := first.params.trans second.params

/-- Configurations that agree but for the order of their parameters are equal as the program
compares them. -/
theorem same (agree : Reordered left right) : left.Same right := by
  refine ⟨agree.endpoint, ?_, agree.params⟩
  rw [agree.options]
  exact TypedOptions.Same.refl _

variable [ZoneDatabase]

/-- Setting a key keeps two configurations alike. -/
theorem set (agree : Reordered left right) {key value : String} {setting : Setting}
    (reads : Setting.Reads key value setting) :
    Reordered (left.set setting) (right.set setting) where
  endpoint := by rw [toEndpoint_set, toEndpoint_set, agree.endpoint]
  options := by
    have options := agree.options
    cases setting with
    | duration option length =>
        exact congrArg (fun typed : TypedOptions => typed.setDuration option length) options
    | location zone =>
        exact congrArg (fun typed => { typed with location := some (.named zone) }) options
    | debug on => exact congrArg (fun typed => { typed with debug := on }) options
    | param key value => exact options
  params := by
    rw [params_set reads, params_set reads]
    split
    · exact agree.params
    · exact agree.params.getD.insert key value

/-- Pairs that can be set on a configuration can be set on one that agrees with it, and leave
agreeing results. -/
theorem exists_applyPairs {pairs : List (String × String)} (agree : Reordered left right)
    {one : Config} (applied : left.applyPairs pairs = .ok one) :
    ∃ other, right.applyPairs pairs = .ok other ∧ Reordered one other := by
  induction pairs generalizing left right with
  | nil =>
      cases applied
      exact ⟨right, rfl, agree⟩
  | cons pair rest ih =>
      obtain ⟨setting, reads, later⟩ := applyPairs_cons_eq_ok_iff.mp applied
      obtain ⟨other, same, alike⟩ := ih (agree.set reads) later
      exact ⟨other, applyPairs_cons_eq_ok_iff.mpr ⟨setting, reads, same⟩, alike⟩

end Reordered

variable [ZoneDatabase]

/-- Two keys can be set in either order. -/
theorem reordered_set_set {key other value content : String} {first second : Setting}
    (config : Config) (reads : Setting.Reads key value first)
    (again : Setting.Reads other content second) (different : key ≠ other) :
    Reordered ((config.set first).set second) ((config.set second).set first) := by
  by_cases reserved : other ∈ OptionKey.reservedKeys
  · rw [set_comm config reads again different reserved]
    exact Reordered.refl _
  by_cases typed : key ∈ OptionKey.reservedKeys
  · rw [set_comm config again reads (Ne.symm different) typed]
    exact Reordered.refl _
  · rw [reads.eq_param typed, again.eq_param reserved]
    exact ⟨rfl, rfl, Dict.insert_comm_same different _ value content⟩

/-- Setting distinct keys in another order succeeds too and has the same result, but for the order
of the parameters. -/
theorem exists_applyPairs_perm {left right : List (String × String)} (perm : left.Perm right)
    (fresh : (left.map Prod.fst).Nodup) {config one : Config}
    (applied : config.applyPairs left = .ok one) :
    ∃ other, config.applyPairs right = .ok other ∧ Reordered one other := by
  induction perm generalizing config one with
  | nil => exact ⟨one, applied, Reordered.refl one⟩
  | cons pair _ ih =>
      obtain ⟨setting, reads, later⟩ := applyPairs_cons_eq_ok_iff.mp applied
      obtain ⟨other, same, alike⟩ := ih (List.nodup_cons.mp fresh).2 later
      exact ⟨other, applyPairs_cons_eq_ok_iff.mpr ⟨setting, reads, same⟩, alike⟩
  | swap second first rest =>
      obtain ⟨before, reads, tail⟩ := applyPairs_cons_eq_ok_iff.mp applied
      obtain ⟨after, again, later⟩ := applyPairs_cons_eq_ok_iff.mp tail
      have different : first.1 ≠ second.1 := fun same =>
        (List.nodup_cons.mp fresh).1 (by rw [same]; exact List.mem_cons_self)
      obtain ⟨other, same, alike⟩ :=
        (reordered_set_set config reads again different).exists_applyPairs later
      refine ⟨other, ?_, alike⟩
      exact applyPairs_cons_eq_ok_iff.mpr
        ⟨after, again, applyPairs_cons_eq_ok_iff.mpr ⟨before, reads, same⟩⟩
  | trans first _ ihFirst ihSecond =>
      obtain ⟨between, same, alike⟩ := ihFirst fresh applied
      obtain ⟨other, final, last⟩ := ihSecond ((first.map Prod.fst).nodup_iff.mp fresh) same
      exact ⟨other, final, alike.trans last⟩

/-! ### Queries of a connection string -/

/-- The text before a query and the query are read apart. -/
theorem ofDsn_append_query_eq_ok_iff {front query : String} (noQuery : '?' ∉ front.toList)
    (noFragment : '#' ∉ front.toList) (plain : '#' ∉ query.toList)
    (visible : query.toList.any isControl = false) {config : Config} :
    ofDsn (front ++ "?" ++ query) = .ok config ↔
      ∃ reference, Reference.read front.toList = .ok reference ∧
        applyPairs { toEndpoint := reference.endpoint } (firstValues (Query.read query.toList)) =
          .ok config := by
  have text : (front ++ "?" ++ query).toList =
      front.toList ++ Reference.tail (some query.toList) none := by
    simp [String.toList_append, Reference.tail]
  have isTail : IsTail (Reference.tail (some query.toList) none) := by
    refine ⟨?_, ?_⟩
    · rintro char ⟨⟩
      exact .inl rfl
    · simpa [Reference.tail, isControl] using visible
  have whole := Reference.read_append_tail noQuery noFragment
    (fun text member => Option.some.inj member ▸ plain) isTail
  rw [← text] at whole
  cases read : Reference.read front.toList with
  | error cause =>
      rw [read] at whole
      constructor
      · intro accepted
        obtain ⟨_, again, _⟩ := exists_reference_of_ofDsn accepted
        cases whole.symm.trans again
      · rintro ⟨_, ⟨⟩, _⟩
  | ok reference =>
      rw [read] at whole
      rw [ofDsn_of_read whole, mapError_option_eq_ok_iff]
      constructor
      · exact fun applied => ⟨reference, rfl, applied⟩
      · rintro ⟨_, ⟨⟩, applied⟩
        exact applied

section

variable {front left right : String} (noQuery : '?' ∉ front.toList)
  (noFragment : '#' ∉ front.toList)
  (leftPlain : '#' ∉ left.toList) (leftVisible : left.toList.any isControl = false)
  (rightPlain : '#' ∉ right.toList) (rightVisible : right.toList.any isControl = false)
  (same : ∀ key, (Query.pairs left.toList).lookup key = (Query.pairs right.toList).lookup key)

include noQuery noFragment leftPlain leftVisible rightPlain rightVisible same

/-- A text with one query is accepted if one with the same first values is. -/
theorem exists_ofDsn_of_lookup_eq {one : Config}
    (accepted : ofDsn (front ++ "?" ++ left) = .ok one) :
    ∃ other, ofDsn (front ++ "?" ++ right) = .ok other ∧ Reordered one other := by
  obtain ⟨reference, read, applied⟩ :=
    (ofDsn_append_query_eq_ok_iff noQuery noFragment leftPlain leftVisible).mp accepted
  obtain ⟨other, again, alike⟩ :=
    exists_applyPairs_perm (firstValues_read_perm same) (nodup_keys_firstValues _) applied
  refine ⟨other, ?_, alike⟩
  exact (ofDsn_append_query_eq_ok_iff noQuery noFragment rightPlain rightVisible).mpr
    ⟨reference, read, again⟩

end

/-- Two connection strings whose queries have the same keys with the same first values are both read
or both not read, and what is read is the same. -/
theorem ofDsn_congr_query {front left right : String} (noQuery : '?' ∉ front.toList)
    (noFragment : '#' ∉ front.toList)
    (leftPlain : '#' ∉ left.toList) (leftVisible : left.toList.any isControl = false)
    (rightPlain : '#' ∉ right.toList) (rightVisible : right.toList.any isControl = false)
    (same : ∀ key,
      (Query.pairs left.toList).lookup key = (Query.pairs right.toList).lookup key) :
    ((∃ one, ofDsn (front ++ "?" ++ left) = .ok one) ↔
      ∃ other, ofDsn (front ++ "?" ++ right) = .ok other) ∧
    ∀ one other, ofDsn (front ++ "?" ++ left) = .ok one →
      ofDsn (front ++ "?" ++ right) = .ok other → one.Same other := by
  refine ⟨⟨?_, ?_⟩, ?_⟩
  · rintro ⟨one, accepted⟩
    obtain ⟨other, again, _⟩ := exists_ofDsn_of_lookup_eq noQuery noFragment leftPlain leftVisible
      rightPlain rightVisible same accepted
    exact ⟨other, again⟩
  · rintro ⟨other, accepted⟩
    obtain ⟨one, again, _⟩ := exists_ofDsn_of_lookup_eq noQuery noFragment rightPlain rightVisible
      leftPlain leftVisible (fun key => (same key).symm) accepted
    exact ⟨one, again⟩
  · intro one other leftRead rightRead
    obtain ⟨_, again, alike⟩ := exists_ofDsn_of_lookup_eq noQuery noFragment leftPlain leftVisible
      rightPlain rightVisible same leftRead
    obtain rfl := Except.ok.inj (rightRead.symm.trans again)
    exact alike.same

end Config

open scoped Tzdata

/-- A text before its query. -/
def queried : String := "ch://u:p@h:9000/db"

/-- A query with blank pieces, escapes, and repeated keys whose later values cannot be read. -/
def repeating : String := "timeout=5s&&x=1&debug=t&timeout=never&y&x=2&debug=perhaps"

/-- The same first values in another order and in other escapes. -/
def permuted : String := "y=&%64ebug=%74&x=%31&time%6Fut=5s&&x"

/-- Repeated keys, blank pieces and escapes against the same first values in another order. -/
theorem Config.ofDsn_congr_query_permuted :
    (∃ config, ofDsn (queried ++ "?" ++ repeating) = .ok config) ∧
      (∀ key, (Query.pairs repeating.toList).lookup key =
        (Query.pairs permuted.toList).lookup key) ∧
      ((∃ one, ofDsn (queried ++ "?" ++ repeating) = .ok one) ↔
        ∃ other, ofDsn (queried ++ "?" ++ permuted) = .ok other) ∧
      ∀ one other, ofDsn (queried ++ "?" ++ repeating) = .ok one →
        ofDsn (queried ++ "?" ++ permuted) = .ok other → one.Same other := by
  have accepted : ofDsn (queried ++ "?" ++ repeating) =
      .ok { toEndpoint := ⟨"ch", "u", "p", "h:9000", "db"⟩
            timeout := ⟨5000000, by decide, by decide⟩
            debug := true
            params := some (.ofList [("x", "1"), ("y", "")]) } := by
    decide +kernel
  have left : Query.pairs repeating.toList =
      [("timeout", "5s"), ("x", "1"), ("debug", "t"), ("timeout", "never"), ("y", ""),
        ("x", "2"), ("debug", "perhaps")] := by
    decide +kernel
  have right : Query.pairs permuted.toList =
      [("y", ""), ("debug", "t"), ("x", "1"), ("timeout", "5s"), ("x", "")] := by
    decide +kernel
  have same : ∀ key, (Query.pairs repeating.toList).lookup key =
      (Query.pairs permuted.toList).lookup key := by
    intro key
    rw [left, right]
    by_cases known : key ∈ ["timeout", "x", "debug", "y"]
    · simp only [List.mem_cons, List.not_mem_nil, or_false] at known
      rcases known with rfl | rfl | rfl | rfl <;> rfl
    · simp only [List.mem_cons, List.not_mem_nil, or_false, not_or] at known
      rw [Dict.lookup_eq_none_iff_not_mem.mpr (by simp [known]),
        Dict.lookup_eq_none_iff_not_mem.mpr (by simp [known])]
  exact ⟨⟨_, accepted⟩, same, ofDsn_congr_query (by decide) (by decide) (by decide) (by decide)
    (by decide) (by decide) same⟩

end ConnString
