import ConnString.Config.Basic
import ConnString.Log.Event
import ConnString.Query

/-!
# Writing connection strings and request URLs

Both texts have the shape `scheme://[user[:password]@]host/path[?query]`: credentials and path are
escaped, the host is written as it is, and the query is sorted by key. A connection string has the
database for its path and the options that differ from their defaults in its query; a parameter with
the key of such an option takes its place and is reported. A request URL has no typed options and
carries the database in its query, or in its path if that is asked for; there is one if the
parameters are not missing (`url_of_params`).
-/

namespace ConnString

open Log

namespace Endpoint

/-- The credentials before the host; a password without a user is not written. -/
def writtenUserinfo (endpoint : Endpoint) : List Char :=
  if endpoint.user = "" then []
  else
    Percent.encode Percent.keptInUserinfo endpoint.user.toList ++
      (if endpoint.password = "" then []
        else ':' :: Percent.encode Percent.keptInUserinfo endpoint.password.toList) ++ ['@']

/-- A query after its question mark, or nothing for an empty query. -/
def writtenQuery (query : Dict String) : List Char :=
  if query.entries.isEmpty then [] else '?' :: Query.write query.sorted

/-- The text for an endpoint with a path, which starts with `/`, and a query. -/
def write (endpoint : Endpoint) (path : List Char) (query : Dict String) : String :=
  String.ofList
    (endpoint.scheme.toList ++ [':', '/', '/'] ++ endpoint.writtenUserinfo ++
      endpoint.host.toList ++ Percent.encode Percent.keptInPath path ++ writtenQuery query)

end Endpoint

/-- Why an operation fails where the parameters are missing. -/
inductive MissingParams
  /-- The parameters were to be read. -/
  | read
  /-- A parameter was to be stored. -/
  | store
deriving DecidableEq, Repr

/-- The words for the failure. -/
def MissingParams.message : MissingParams → String
  | read => "'NoneType' object is not iterable"
  | store => "'NoneType' object does not support item assignment"

namespace Config

/-- The query of a connection string. -/
def dsnQuery (config : Config) : Dict String :=
  (Dict.ofList config.toTypedOptions.written).insertAll (config.params.getD ∅).entries

/-- The connection string of a configuration. -/
def toDsn (config : Config) : String :=
  config.toEndpoint.write ('/' :: config.database.toList) config.dsnQuery

/-- The keys of parameters that take the place of a typed option, in the parameters' order. -/
def overriddenKeys (config : Config) : List String :=
  (config.params.getD ∅).keys.filter fun key =>
    (config.toTypedOptions.written.map Prod.fst).contains key

/-- Write a connection string and report the options that parameters take the place of. -/
def format (config : Config) : Logged String :=
  ⟨config.toDsn, config.overriddenKeys.map .overridden⟩

/-- The query of a request: the database unless it is in the path, the parameters, more entries. -/
def requestQuery (config : Config) (params : Dict String) (extra : Option (Dict String))
    (inPath : Bool) : Dict String :=
  let database : Dict String :=
    if config.database = "" ∨ inPath then ∅ else Dict.empty.insert "database" config.database
  (database.insertAll params.entries).insertAll (extra.getD ∅).entries

/-- The path of a request. -/
def requestPath (config : Config) (inPath : Bool) : List Char :=
  '/' :: if inPath then config.database.toList else []

/-- The URL that requests are sent to. -/
def url (config : Config) (extra : Option (Dict String)) (inPath : Bool) :
    Except MissingParams String :=
  match config.params with
  | none => .error .read
  | some params =>
    .ok (config.toEndpoint.write (config.requestPath inPath)
      (config.requestQuery params extra inPath))

/-- A request URL is written if the parameters are not missing. -/
theorem url_of_params {config : Config} {params : Dict String}
    (present : config.params = some params) (extra : Option (Dict String)) (inPath : Bool) :
    config.url extra inPath =
      .ok (config.toEndpoint.write (config.requestPath inPath)
        (config.requestQuery params extra inPath)) := by
  rw [url, present]

/-- Store one parameter. -/
def putParam (config : Config) (key value : String) : Except MissingParams Config :=
  match config.params with
  | none => .error .store
  | some params => .ok { config with params := some (params.insert key value) }

end Config

end ConnString
