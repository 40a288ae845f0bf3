import ConnString.Location.Tzdata
import ConnString.Proofs.ReadBack

/-!
# Round trips

A configuration with a host that stands alone comes back from its connection string
(`ofDsn_toDsn_same`). A configuration that was read comes back too, but for three corners: a missing
scheme, a password without a user, and a host that closes a bracket it does not open
(`ofDsn_toDsn_same_iff`); the first and the last of them make a connection string that is not read
(`exists_ofDsn_toDsn_iff`). Parameters with reserved keys are set like those of a mapping
(`ofDsn_toDsn_eq_apply`).
-/

namespace ConnString

open Text
open scoped Tzdata

/-- A host that is read as it is between `http://` and a slash. -/
def Host.StandsAlone [ZoneDatabase] (host : String) : Prop :=
  ∃ config, Config.ofDsn ("http://" ++ host ++ "/") = .ok config ∧ config.host = host

/-- A sound host between `http://` and a slash is split off as the authority. -/
theorem Reference.split_host {host : String} (sound : Host.fault? host.toList = none) :
    split ("http://" ++ host ++ "/").toList = ⟨"http".toList, host.toList, ['/'], []⟩ := by
  have text : ("http://" ++ host ++ "/").toList =
      "http".toList ++ ':' :: '/' :: '/' :: (host.toList ++ (['/'] ++ tail none none)) := by
    simp [String.toList_append, tail]
  have rooted : ∀ char, ['/'].head? = some char → char = '/' := by
    intro char first
    cases first
    rfl
  have inside : ∀ char ∈ host.toList, endsAuthority char = false := fun char member =>
    endsAuthority_eq_false_of_isHostChar (Host.isHostChar_of_fault?_eq_none sound member)
  rw [text, split_append (by decide) inside rooted (by decide) (by decide) (by simp) none]
  rfl

/-- A host that stands alone is sound as an authority of its own. -/
theorem Host.StandsAlone.writable [ZoneDatabase] {endpoint : Endpoint}
    (alone : StandsAlone endpoint.host)
    (scheme : Reference.isSmallScheme endpoint.scheme.toList) : endpoint.Writable := by
  obtain ⟨config, accepted, same⟩ := alone
  obtain ⟨reference, read, applied⟩ := Config.exists_reference_of_ofDsn accepted
  obtain ⟨authority, escapes, _, host⟩ := Reference.sound_of_read read
  have place : (Authority.parts reference.authority).2 = endpoint.host.toList := by
    have whole := congrArg Endpoint.host (Config.toEndpoint_applyPairs applied)
    rw [← same, whole, Reference.endpoint, String.toList_ofList]
  rw [place] at host
  obtain ⟨_, _, rfl⟩ := Reference.read_eq_ok_iff.mp read
  rw [Reference.split_host host] at authority escapes
  exact ⟨scheme, host, escapes, authority⟩

namespace Config

/-- A configuration without reserved parameters comes back from its connection string, and writing
it reports nothing. -/
theorem ofDsn_toDsn_same [ZoneDatabase] {config : Config} {zone : Zone} {params : Dict String}
    (scheme : Reference.isSmallScheme config.scheme.toList)
    (host : Host.StandsAlone config.host)
    (anonymous : config.user = "" → config.password = "")
    (located : config.location = some (.named zone))
    (loads : Location.load? zone.key = some zone) (present : config.params = some params)
    (free : ∀ key ∈ params.keys, key ∉ OptionKey.reservedKeys) :
    (∃ again, ofDsn config.toDsn = .ok again ∧ again.Same config) ∧ config.format.events = [] := by
  have freeAll : ∀ key ∈ (config.params.getD ∅).keys, key ∉ OptionKey.reservedKeys := by
    rw [present]
    exact free
  have credentials : config.user ≠ "" ∨ config.password = "" := by
    by_cases empty : config.user = ""
    · exact .inr (anonymous empty)
    · exact .inl empty
  refine ⟨⟨config.readBack, ?_, ?_⟩, ?_⟩
  · exact ofDsn_toDsn_of_free (host.writable scheme) located loads freeAll
  · exact (same_readBack_iff located present).mpr credentials
  · rw [format, overriddenKeys_of_free freeAll, List.map_nil]

/-- A configuration with separators, blanks and letters beyond ASCII in every part that may hold
them. -/
def unusual : Config where
  scheme := "ch+tls"
  user := "a:b@ü"
  password := "/?#%5B"
  host := "[fe80::1%25e]:9440"
  database := "d b/ß&=+"
  timeout := ⟨-90000001, by decide, by decide⟩
  idleTimeout := .zero
  writeTimeout := .hour
  location := some (.named ⟨"Europe/Berlin", by decide⟩)
  debug := true
  params := some (.ofList [("z&", "#\n"), ("", ""), ("timeout ", "100%=é+")])

/-- Separators, blanks and letters beyond ASCII in every part. -/
theorem ofDsn_toDsn_same_unusual :
    Reference.isSmallScheme unusual.scheme.toList ∧ Host.StandsAlone unusual.host ∧
      (unusual.user = "" → unusual.password = "") ∧
      (∃ zone, unusual.location = some (.named zone) ∧ Location.load? zone.key = some zone) ∧
      (∃ params, unusual.params = some params ∧
        ∀ key ∈ params.keys, key ∉ OptionKey.reservedKeys) ∧
      (∃ again, ofDsn unusual.toDsn = .ok again ∧ again.Same unusual) ∧
      unusual.format.events = [] := by
  have scheme : Reference.isSmallScheme unusual.scheme.toList := by decide
  have host : Host.StandsAlone unusual.host :=
    ⟨{ host := "[fe80::1%25e]:9440" }, by decide +kernel, rfl⟩
  have named : unusual.user = "" → unusual.password = "" := fun empty =>
    absurd empty (by decide)
  have free : ∀ key ∈ (Dict.ofList [("z&", "#\n"), ("", ""), ("timeout ", "100%=é+")]).keys,
      key ∉ OptionKey.reservedKeys := by decide
  have loads : Location.load? "Europe/Berlin" = some ⟨"Europe/Berlin", by decide⟩ := by
    decide +kernel
  exact ⟨scheme, host, named, ⟨_, rfl, loads⟩, ⟨_, rfl, free⟩,
    ofDsn_toDsn_same scheme host named rfl loads rfl free⟩

/-- A configuration that was read comes back the same but for three corners, and whatever comes
back is written alike. -/
theorem ofDsn_toDsn_same_iff [ZoneDatabase] {dsn : String} {config : Config}
    (accepted : ofDsn dsn = .ok config) :
    ((∃ again, ofDsn config.toDsn = .ok again ∧ again.Same config) ↔
      config.scheme ≠ "" ∧ (config.user ≠ "" ∨ config.password = "") ∧
        (']' ∈ config.host.toList → config.host.toList.head? = some '[')) ∧
    ∀ again, ofDsn config.toDsn = .ok again → again.toDsn = config.toDsn := by
  have regular := regular_of_ofDsn accepted
  obtain ⟨zone, located, _⟩ := regular.location
  obtain ⟨params, present, _⟩ := regular.params
  have same := same_readBack_iff located present
  refine ⟨?_, ?_⟩
  · constructor
    · rintro ⟨again, read, alike⟩
      obtain ⟨writable, rfl⟩ := regular.ofDsn_toDsn_eq_ok_iff.mp read
      obtain ⟨named, closed⟩ := regular.endpoint.writable_iff.mp writable
      exact ⟨named, same.mp alike, closed⟩
    · rintro ⟨named, credentials, closed⟩
      have writable := regular.endpoint.writable_iff.mpr ⟨named, closed⟩
      exact ⟨config.readBack, regular.ofDsn_toDsn_eq_ok_iff.mpr ⟨writable, rfl⟩,
        same.mpr credentials⟩
  · intro again read
    obtain ⟨_, rfl⟩ := regular.ofDsn_toDsn_eq_ok_iff.mp read
    exact toDsn_readBack config

/-- A configuration with a password but no user. -/
def nameless : Config where
  password := "secret"
  host := "[::1]:9000"
  database := "db"
  timeout := ⟨90000000, by decide, by decide⟩
  params := some (.ofList [("x", "1")])

/-- A password without a user, which is lost. -/
theorem ofDsn_toDsn_same_iff_nameless :
    ofDsn "HTTP://:secret@[::1]:9000/d%62?x=1&x=2&timeout=90s" = .ok nameless ∧
      ((∃ again, ofDsn nameless.toDsn = .ok again ∧ again.Same nameless) ↔
        nameless.scheme ≠ "" ∧ (nameless.user ≠ "" ∨ nameless.password = "") ∧
          (']' ∈ nameless.host.toList → nameless.host.toList.head? = some '[')) ∧
      ∀ again, ofDsn nameless.toDsn = .ok again → again.toDsn = nameless.toDsn := by
  have accepted : ofDsn "HTTP://:secret@[::1]:9000/d%62?x=1&x=2&timeout=90s" = .ok nameless := by
    decide +kernel
  exact ⟨accepted, ofDsn_toDsn_same_iff accepted⟩

/-- The connection string of a configuration that was read is read, unless the scheme is missing or
the host closes a bracket that it does not open. -/
theorem exists_ofDsn_toDsn_iff [ZoneDatabase] {dsn : String} {config : Config}
    (accepted : ofDsn dsn = .ok config) :
    (∃ again, ofDsn config.toDsn = .ok again) ↔
      config.scheme ≠ "" ∧
        (']' ∈ config.host.toList → config.host.toList.head? = some '[') := by
  have regular := regular_of_ofDsn accepted
  rw [← regular.endpoint.writable_iff]
  constructor
  · rintro ⟨again, read⟩
    exact (regular.ofDsn_toDsn_eq_ok_iff.mp read).1
  · intro writable
    exact ⟨config.readBack, regular.ofDsn_toDsn_eq_ok_iff.mpr ⟨writable, rfl⟩⟩

/-- A configuration with a bracket in its user and brackets around its host. -/
def bracketed : Config where
  user := "x]"
  password := "y"
  host := "[::1]:"
  database := "a b"

/-- A bracket in the user and a host in brackets. -/
theorem exists_ofDsn_toDsn_iff_bracketed :
    ofDsn "http://x]:y@[::1]:/a%20b" = .ok bracketed ∧
      ((∃ again, ofDsn bracketed.toDsn = .ok again) ↔
        bracketed.scheme ≠ "" ∧
          (']' ∈ bracketed.host.toList → bracketed.host.toList.head? = some '[')) := by
  have accepted : ofDsn "http://x]:y@[::1]:/a%20b" = .ok bracketed := by decide +kernel
  exact ⟨accepted, exists_ofDsn_toDsn_iff accepted⟩

/-- A connection string without a scheme is read, and so is one whose user opens the bracket that
its host closes; but what is written for them is not. -/
theorem not_read_once_written :
    (∃ config, ofDsn "//h/db" = .ok config ∧
      ofDsn config.toDsn = .error (.malformed (some "://h/db") .missingScheme)) ∧
    ∃ config, ofDsn "http://[@v1.a]:1/" = .ok config ∧
      ofDsn config.toDsn =
        .error (.malformed (some "http://%5B@v1.a]:1/") (.authority .brackets)) := by
  refine ⟨⟨{ scheme := "", host := "h", database := "db" }, ?_, ?_⟩,
    ⟨{ user := "[", host := "v1.a]:1" }, ?_, ?_⟩⟩
  · decide +kernel
  · decide +kernel
  · decide +kernel
  · decide +kernel

/-- Reading a connection string has the outcome of setting the parameters, in ascending order of
their keys, on top of the typed options, whether or not their keys are reserved. -/
theorem ofDsn_toDsn_eq_apply [ZoneDatabase] {config : Config} {zone : Zone} {params : Dict String}
    (scheme : Reference.isSmallScheme config.scheme.toList)
    (host : Host.StandsAlone config.host)
    (anonymous : config.user = "" → config.password = "")
    (located : config.location = some (.named zone))
    (loads : Location.load? zone.key = some zone) (present : config.params = some params) :
    ofDsn config.toDsn =
      (applied { config with params := some ∅ } params.singletons).mapError .option := by
  rw [ofDsn_toDsn_of_located (host.writable scheme) located loads,
    Endpoint.readBack_eq_self anonymous, applied_eq_applyPairs, firstValues_singletons, present]
  rfl

/-- A configuration whose parameters have the keys of typed options. -/
def overriding : Config where
  user := "u"
  timeout := ⟨90000000, by decide, by decide⟩
  debug := true
  location := some (.named ⟨"Asia/Tokyo", by decide⟩)
  params := some (.ofList [("query", "q"), ("timeout", "5s"), ("debug", "perhaps"), ("a", "1")])

/-- Parameters under the keys of typed options. -/
theorem ofDsn_toDsn_eq_apply_overriding :
    Reference.isSmallScheme overriding.scheme.toList ∧ Host.StandsAlone overriding.host ∧
      (overriding.user = "" → overriding.password = "") ∧
      (∃ zone, overriding.location = some (.named zone) ∧ Location.load? zone.key = some zone) ∧
      ∃ params, overriding.params = some params ∧
        (∃ key ∈ params.keys, key ∈ OptionKey.reservedKeys) ∧
        ofDsn overriding.toDsn =
          (applied { overriding with params := some ∅ } params.singletons).mapError .option := by
  have scheme : Reference.isSmallScheme overriding.scheme.toList := by decide
  have host : Host.StandsAlone overriding.host :=
    ⟨{ host := "localhost:8123" }, by decide +kernel, rfl⟩
  have named : overriding.user = "" → overriding.password = "" := fun _ => rfl
  have loads : Location.load? "Asia/Tokyo" = some ⟨"Asia/Tokyo", by decide⟩ := by decide +kernel
  exact ⟨scheme, host, named, ⟨_, rfl, loads⟩, _, rfl, ⟨"query", by decide, by decide⟩,
    ofDsn_toDsn_eq_apply scheme host named rfl loads rfl⟩

end Config

end ConnString
