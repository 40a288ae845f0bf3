import ConnString.Proofs.Parts

/-!
# Passwords

A password stands between the first `:` of the user part and the last `@` of the authority. Whatever
it holds, it changes nothing in a configuration that is read but the password itself
(`PasswordSlot.exists_ofReference`). So the one event that reading reports is the same for all
passwords, and a text that is not read is not reported (`Config.parse_independent_of_password`).
-/

namespace ConnString

open Text

/-- A connection string with the place of its password left open. -/
structure PasswordSlot where
  scheme : List Char
  user : List Char
  /-- The host, path, query and fragment. -/
  rest : List Char
  named : Reference.isScheme scheme
  firstColon : ':' ∉ user
  inUser : '/' ∉ user ∧ '?' ∉ user ∧ '#' ∉ user
  lastAt : '@' ∉ rest.takeWhile fun char => !Reference.endsAuthority char

namespace PasswordSlot

variable (slot : PasswordSlot) {password : List Char}

/-- The connection string with a password in its place. -/
def dsn (password : List Char) : String :=
  String.ofList
    (slot.scheme ++ ':' :: '/' :: '/' ::
      ((slot.user ++ ':' :: password) ++ '@' :: slot.rest))

/-- The parts of the connection string without user and password. -/
def reference : Reference :=
  Reference.split (slot.scheme ++ ':' :: '/' :: '/' :: slot.rest)

/-- Nothing in a user part with a password of this kind ends the authority. -/
theorem endsAuthority_of_mem_userinfo (inside : '/' ∉ password ∧ '?' ∉ password ∧ '#' ∉ password)
    {char : Char} (member : char ∈ slot.user ++ ':' :: password ++ ['@']) :
    (!Reference.endsAuthority char) = true := by
  rw [List.append_assoc, List.cons_append, List.mem_append, List.mem_cons, List.mem_append,
    List.mem_singleton] at member
  rcases member with user | rfl | secret | rfl
  · rw [Reference.endsAuthority_eq_false slot.inUser user, Bool.not_false]
  · decide
  · rw [Reference.endsAuthority_eq_false inside secret, Bool.not_false]
  · decide

/-- User and password change nothing but the authority. -/
theorem split_dsn (inside : '/' ∉ password ∧ '?' ∉ password ∧ '#' ∉ password) :
    Reference.split (slot.dsn password).toList =
      { slot.reference with
        authority := (slot.user ++ ':' :: password) ++ '@' :: slot.reference.authority } := by
  have kept : ∀ char ∈ slot.user ++ ':' :: password ++ ['@'],
      (!Reference.endsAuthority char) = true :=
    fun _ => slot.endsAuthority_of_mem_userinfo inside
  rw [dsn, String.toList_ofList, reference, Reference.split_scheme_append slot.named,
    Reference.split_scheme_append slot.named, List.append_cons _ '@',
    List.takeWhile_append_of_pos kept, List.dropWhile_append_of_pos kept, ← List.append_cons]

/-- The authority behind the open place holds no `@`. -/
theorem at_not_mem_authority : '@' ∉ slot.reference.authority := by
  rw [reference, Reference.split_scheme_append slot.named]
  exact slot.lastAt

/-- The password goes into its own field and changes no other. -/
theorem endpoint_split_dsn (inside : '/' ∉ password ∧ '?' ∉ password ∧ '#' ∉ password) :
    (Reference.split (slot.dsn password).toList).endpoint =
      { slot.reference.endpoint with
        user := String.ofList (Percent.decode slot.user)
        password := String.ofList (Percent.decode password) } := by
  rw [slot.split_dsn inside]
  simp only [Reference.endpoint, Authority.parts_append slot.at_not_mem_authority,
    Authority.parts_of_not_mem slot.at_not_mem_authority, Option.getD_some,
    cut_append slot.firstColon]

/-- What is read is what the text without user and password describes, with these two added. -/
theorem exists_ofReference [ZoneDatabase]
    (inside : '/' ∉ password ∧ '?' ∉ password ∧ '#' ∉ password)
    {config : Config} (accepted : Config.ofDsn (slot.dsn password) = .ok config) :
    ∃ bare, Config.ofReference slot.reference = .ok bare ∧
      config = { bare with
        user := String.ofList (Percent.decode slot.user)
        password := String.ofList (Percent.decode password) } := by
  obtain ⟨reference, read, applied⟩ := Config.exists_reference_of_ofDsn accepted
  obtain ⟨_, _, rfl⟩ := Reference.read_eq_ok_iff.mp read
  have added := Config.applyPairs_withEndpoint
    (Config.firstValues (Query.read slot.reference.query)) { toEndpoint := slot.reference.endpoint }
    (Reference.split (slot.dsn password).toList).endpoint
  have query : (Reference.split (slot.dsn password).toList).query = slot.reference.query := by
    rw [slot.split_dsn inside]
  rw [query] at applied
  rw [applied] at added
  rw [Config.ofReference, Config.applied_eq_applyPairs]
  cases bare : Config.applyPairs { toEndpoint := slot.reference.endpoint }
      (Config.firstValues (Query.read slot.reference.query)) with
  | error error =>
      rw [bare] at added
      cases added
  | ok result =>
      rw [bare] at added
      have endpoint : result.toEndpoint = slot.reference.endpoint :=
        Config.toEndpoint_applyPairs bare
      refine ⟨result, rfl, ?_⟩
      rw [Except.ok.inj added, slot.endpoint_split_dsn inside, ← endpoint]

end PasswordSlot

namespace Config

variable [ZoneDatabase]

/-- A text that is accepted is recorded once. -/
theorem events_parse_of_ok {dsn : String} {config : Config} (accepted : ofDsn dsn = .ok config) :
    (parse dsn).events = [config.parsed] := by
  rw [events_parse, accepted]

/-- A failure is not recorded. -/
theorem events_parseArgument_of_error {argument : Argument} {error : DsnError}
    (failed : (parseArgument argument).value = .error error) :
    (parseArgument argument).events = [] := by
  cases argument with
  | other kind => rfl
  | text dsn =>
      rw [parseArgument, value_parse] at failed
      rw [parseArgument, events_parse, failed]

/-- If two connection strings that differ in their passwords alone are read, the configurations
differ in their passwords alone, and each is reported by the same one event: a message for
developers with scheme, host and database, and the keys of the parameters in ascending order.
Nothing is reported of what is not read. -/
theorem parse_independent_of_password :
    (∀ (slot : PasswordSlot) {left right : List Char},
      ('/' ∉ left ∧ '?' ∉ left ∧ '#' ∉ left) → ('/' ∉ right ∧ '?' ∉ right ∧ '#' ∉ right) →
      ∀ {one other : Config}, (parse (slot.dsn left)).value = .ok one →
        (parse (slot.dsn right)).value = .ok other →
        { one with password := other.password } = other ∧
        ∃ event keys, (parse (slot.dsn left)).events = [event] ∧
          (parse (slot.dsn right)).events = [event] ∧ event.level = Log.debugLevel ∧
          event.message =
            "Parsed DSN " ++ one.scheme ++ "://" ++ one.host ++ "/" ++ one.database ∧
          event.params? = some keys ∧ keys.Pairwise (· ≤ ·) ∧
          keys.Perm (one.params.getD ∅).keys) ∧
    Log.Event.logger = "clickhouse_dsn.dsn" ∧
    ∀ {argument : Argument} {error : DsnError}, (parseArgument argument).value = .error error →
      (parseArgument argument).events = [] := by
  refine ⟨?_, rfl, fun failed => events_parseArgument_of_error failed⟩
  intro slot left right inLeft inRight one other leftRead rightRead
  rw [value_parse] at leftRead rightRead
  obtain ⟨bare, read, rfl⟩ := slot.exists_ofReference inLeft leftRead
  obtain ⟨_, again, rfl⟩ := slot.exists_ofReference inRight rightRead
  obtain rfl := Except.ok.inj (read.symm.trans again)
  have ascending := (bare.params.getD ∅).pairwise_sorted
  refine ⟨rfl, bare.parsed, _, ?_, ?_, rfl, rfl, rfl, List.pairwise_map.mpr ascending, ?_⟩
  · rw [events_parse_of_ok leftRead]
    rfl
  · rw [events_parse_of_ok rightRead]
    rfl
  · exact (bare.params.getD ∅).sorted_perm.map Prod.fst

end Config

open scoped Tzdata

/-- A place for a password between a user and a host that hold separators of their own. -/
def guarded : PasswordSlot where
  scheme := "CH".toList
  user := "u@%3A".toList
  rest := "[::1]:9/d@e?b=1&a=:@#@".toList
  named := by decide
  firstColon := by decide
  inUser := by decide
  lastAt := by decide

/-- A password of separators and brackets. -/
def knotty : List Char := "]@:[%40".toList

/-- What is read with a password. -/
def guardedConfig (password : String) : Config where
  scheme := "ch"
  user := "u@:"
  password := password
  host := "[::1]:9"
  database := "d@e"
  params := some (.ofList [("b", "1"), ("a", ":@")])

/-- A password of separators and brackets against none at all. -/
theorem Config.parse_independent_of_password_knotty :
    ('/' ∉ knotty ∧ '?' ∉ knotty ∧ '#' ∉ knotty) ∧
      (parse (guarded.dsn knotty)).value = .ok (guardedConfig "]@:[@") ∧
      (parse (guarded.dsn [])).value = .ok (guardedConfig "") ∧
      { guardedConfig "]@:[@" with password := "" } = guardedConfig "" ∧
      (∃ event keys, (parse (guarded.dsn knotty)).events = [event] ∧
        (parse (guarded.dsn [])).events = [event] ∧ event.level = Log.debugLevel ∧
        event.message = "Parsed DSN ch://[::1]:9/d@e" ∧ event.params? = some keys ∧
        keys.Pairwise (· ≤ ·) ∧ keys.Perm ["b", "a"]) ∧
      (∃ error, (parseArgument (.text "http://u:secret@h:port")).value = .error error) ∧
      (parseArgument (.text "http://u:secret@h:port")).events = [] := by
  have plain : '/' ∉ knotty ∧ '?' ∉ knotty ∧ '#' ∉ knotty := by decide
  have left : (parse (guarded.dsn knotty)).value = .ok (guardedConfig "]@:[@") := by
    decide +kernel
  have right : (parse (guarded.dsn [])).value = .ok (guardedConfig "") := by
    decide +kernel
  have failed : (parseArgument (.text "http://u:secret@h:port")).value =
      .error (.malformed (some "http://u:secret@h:port") (.port "port")) := by
    decide +kernel
  obtain ⟨independent, _, silent⟩ := parse_independent_of_password
  obtain ⟨same, event, keys, first, second, level, message, params, ascending, perm⟩ :=
    independent guarded plain (by decide) left right
  exact ⟨plain, left, right, same,
    ⟨event, keys, first, second, level, message, params, ascending, perm⟩, ⟨_, failed⟩,
    silent failed⟩

end ConnString
