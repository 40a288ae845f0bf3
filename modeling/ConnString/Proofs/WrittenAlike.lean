import ConnString.Proofs.FirstValue
import ConnString.Proofs.Listing
import ConnString.Proofs.Request

/-!
# Configurations that are written alike

The text for an endpoint shows all of a query but the order in which its keys were stored
(`Endpoint.write_eq_iff`), so two request URLs are the same text exactly if they ask for the same
values (`Config.url_eq_url_iff`). A connection string shows a location by its name
(`TypedOptions.written_congr`). Two configurations that differ only in the order of their parameters
and in what their locations are beside their names are written alike and report the same options
(`Config.written_alike`).
-/

namespace ConnString

namespace Endpoint

/-- The entries of a query can be read off its text. -/
theorem pairs_tail_writtenQuery (query : Dict String) :
    Query.pairs (writtenQuery query).tail = query.sorted := by
  rw [writtenQuery]
  split
  · next empty =>
    have unlisted : query.sorted.Perm [] := List.isEmpty_iff.mp empty ▸ query.sorted_perm
    rw [unlisted.eq_nil]
    rfl
  · exact Query.pairs_write query.sorted

/-- Two queries have the same text exactly if they differ in the order of their entries only. -/
theorem write_eq_iff {endpoint : Endpoint} {path : List Char} {left right : Dict String} :
    endpoint.write path left = endpoint.write path right ↔ left.Same right := by
  constructor
  · intro same
    have texts := congrArg String.toList same
    rw [toList_write, toList_write] at texts
    have listed : left.sorted = right.sorted := by
      rw [← pairs_tail_writtenQuery, List.append_cancel_left texts, pairs_tail_writtenQuery]
    exact left.sorted_perm.symm.trans (listed ▸ right.sorted_perm)
  · exact write_congr endpoint path

end Endpoint

/-- The written options show nothing of a location but its name. -/
theorem TypedOptions.written_congr {left right : TypedOptions}
    (duration : ∀ option, left.duration option = right.duration option)
    (location : locationName left.location = locationName right.location)
    (debug : left.debug = right.debug) : left.written = right.written := by
  have durations : left.writtenDurations = right.writtenDurations := by
    rw [writtenDurations, writtenDurations, funext duration]
  have utc : isUtc left.location = isUtc right.location := by rw [isUtc, isUtc, location]
  rw [written, written, durations, utc, location, debug]

namespace Config

section requests

variable {left right : Config} {leftParams rightParams : Dict String}

/-- Two requests to one endpoint have the same URL exactly if they ask for the same values. -/
theorem url_eq_url_iff (endpoint : left.toEndpoint = right.toEndpoint)
    (leftPresent : left.params = some leftParams) (rightPresent : right.params = some rightParams)
    (one other : Option (Dict String)) (inPath : Bool) :
    left.url one inPath = right.url other inPath ↔
      ∀ key, left.requested leftParams one inPath key =
        right.requested rightParams other inPath key := by
  have path : left.requestPath inPath = right.requestPath inPath := by
    rw [requestPath, requestPath, endpoint]
  rw [url_of_params leftPresent, url_of_params rightPresent, Except.ok.injEq, endpoint, path,
    Endpoint.write_eq_iff, Dict.same_iff_get?_eq]
  simp only [get?_requestQuery]

/-- What a request has for a key depends on its dictionaries as such, not on their order. -/
theorem requested_congr (endpoint : left.toEndpoint = right.toEndpoint)
    (params : leftParams.Same rightParams) {one other : Option (Dict String)}
    (extra : (one.getD ∅).Same (other.getD ∅)) (inPath : Bool) (key : String) :
    left.requested leftParams one inPath key = right.requested rightParams other inPath key := by
  rw [requested, requested, endpoint, Dict.same_iff_get?_eq.mp params key,
    Dict.same_iff_get?_eq.mp extra key]

end requests

/-- Two configurations agree on every field. The order of the parameters does not count, and
locations are compared by their names. -/
structure SameByName (left right : Config) : Prop where
  endpoint : left.toEndpoint = right.toEndpoint
  duration : ∀ option,
    left.toTypedOptions.duration option = right.toTypedOptions.duration option
  location : locationName left.location = locationName right.location
  debug : left.debug = right.debug
  params : SameParams left.params right.params

namespace SameByName

variable {left right : Config}

/-- Configurations that agree have the same options to write. -/
theorem written_eq (same : left.SameByName right) :
    left.toTypedOptions.written = right.toTypedOptions.written :=
  TypedOptions.written_congr same.duration same.location same.debug

/-- Configurations that agree have one connection string. -/
theorem toDsn_eq (same : left.SameByName right) : left.toDsn = right.toDsn := by
  have query : left.dsnQuery.Same right.dsnQuery := by
    rw [Dict.same_iff_get?_eq]
    intro key
    rw [get?_dsnQuery, get?_dsnQuery, same.written_eq,
      Dict.same_iff_get?_eq.mp same.params.getD key]
  rw [toDsn, toDsn, same.endpoint, Endpoint.write_congr _ _ query]

/-- Configurations that agree have the same keys that override, in an order that may differ. -/
theorem overriddenKeys_perm (same : left.SameByName right) :
    left.overriddenKeys.Perm right.overriddenKeys := by
  rw [overriddenKeys, overriddenKeys, same.written_eq]
  exact (same.params.getD.map Prod.fst).filter _

/-- Configurations that agree have one request URL for entries that agree. -/
theorem url_eq (same : left.SameByName right) {one other : Option (Dict String)}
    (extra : (one.getD ∅).Same (other.getD ∅)) (inPath : Bool) :
    left.url one inPath = right.url other inPath := by
  have params := same.params
  cases leftPresent : left.params <;> cases rightPresent : right.params <;>
    rw [leftPresent, rightPresent] at params
  case none.none => rw [url, leftPresent, url, rightPresent]
  case some.some leftParams rightParams =>
    exact (url_eq_url_iff same.endpoint leftPresent rightPresent one other inPath).mpr
      (requested_congr same.endpoint params extra inPath)
  all_goals exact params.elim

end SameByName

/-- Configurations that agree by name have the same connection string and report the same options,
each in its own order; with the same further entries they have the same request URL. If the
parameters are not missing there is such a URL, and only requests for the same values share it. -/
theorem written_alike {left right : Config} (same : left.SameByName right) :
    left.format.value = right.format.value ∧
      left.format.events.Perm right.format.events ∧
      (∀ (one other : Option (Dict String)) (inPath : Bool),
        (one.getD ∅).Same (other.getD ∅) → left.url one inPath = right.url other inPath) ∧
      ∀ leftParams rightParams, left.params = some leftParams → right.params = some rightParams →
        ∀ (one other : Option (Dict String)) (inPath : Bool),
          (∃ text, left.url one inPath = .ok text) ∧
            (left.url one inPath = right.url other inPath ↔
              ∀ key, left.requested leftParams one inPath key =
                right.requested rightParams other inPath key) := by
  refine ⟨same.toDsn_eq, same.overriddenKeys_perm.map _, ?_, ?_⟩
  · intro one other inPath extra
    exact same.url_eq extra inPath
  · intro leftParams rightParams leftPresent rightPresent one other inPath
    exact ⟨⟨_, url_of_params leftPresent one inPath⟩,
      url_eq_url_iff same.endpoint leftPresent rightPresent one other inPath⟩

/-- A configuration in a zone, with parameters that have the keys of its options. -/
def inZone : Config :=
  { overriding with
    user := "u:@"
    database := "d b"
    params := some (.ofList [("timeout", "5s"), ("a&", "="), ("debug", "é"), ("database", "p")]) }

/-- The configuration at a fixed offset with the name of the zone, its parameters the other way
round. -/
def atOffset : Config :=
  { inZone with
    location := some (.fixed 32400000000 (some "Asia/Tokyo"))
    params := some (.ofList [("database", "p"), ("debug", "é"), ("a&", "="), ("timeout", "5s")]) }

/-- A zone against an offset of its name, with the parameters in another order. -/
theorem written_alike_reordered :
    ∃ one other leftParams rightParams, inZone.SameByName atOffset ∧ Dict.Same one other ∧
      inZone.params = some leftParams ∧ atOffset.params = some rightParams ∧
      inZone.format.value = atOffset.format.value ∧
      inZone.format.events.Perm atOffset.format.events ∧
      inZone.url (some one) false = atOffset.url (some other) false ∧
      ∃ text, inZone.url (some one) false = .ok text := by
  let one : Dict String := .ofList [("z", "\n"), ("a&", "2"), ("timeout", "")]
  let other : Dict String := .ofList [("timeout", ""), ("z", "\n"), ("a&", "2")]
  have same : inZone.SameByName atOffset :=
    { endpoint := rfl
      duration := fun _ => rfl
      location := rfl
      debug := rfl
      params := by decide }
  have extra : Dict.Same one other := by decide
  obtain ⟨value, events, url, requests⟩ := written_alike same
  exact ⟨one, other, _, _, same, extra, rfl, rfl, value, events,
    url (some one) (some other) false extra, (requests _ _ rfl rfl (some one) (some other) false).1⟩

/-- Two offsets are one location whatever their names, but the names are what is written. -/
example :
    Same { location := some (.fixed 32400000000 (some "JST")) }
      { location := some (.fixed 32400000000 none) } ∧
      toDsn { location := some (.fixed 32400000000 (some "JST")) } =
        "http://localhost:8123/?location=JST" ∧
      toDsn { location := some (.fixed 32400000000 none) } =
        "http://localhost:8123/?location=UTC%2B09%3A00" := by
  decide +kernel

end Config

end ConnString
