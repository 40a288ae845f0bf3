import ConnString.Location.Tzdata
import ConnString.Log.Journal
import ConnString.Session
import ConnString.Proofs.Dict
import ConnString.Proofs.Apply
import ConnString.Proofs.Percent
import ConnString.Proofs.Query
import ConnString.Proofs.Alphabet
import ConnString.Proofs.Authority
import ConnString.Proofs.Duration
import ConnString.Proofs.Reference
import ConnString.Proofs.Endpoint
import ConnString.Proofs.DsnQuery
import ConnString.Proofs.ReadBack
import ConnString.Proofs.RoundTrip
import ConnString.Proofs.Session
import ConnString.Proofs.Merge
import ConnString.Proofs.Parts
import ConnString.Proofs.Tail
import ConnString.Proofs.Password
import ConnString.Proofs.FirstValue
import ConnString.Proofs.Correlation
import ConnString.Proofs.DurationGrammar
import ConnString.Proofs.DurationRounding
import ConnString.Proofs.DurationCanonical
import ConnString.Proofs.Outcome
import ConnString.Proofs.HostForm
import ConnString.Proofs.Indent
import ConnString.Proofs.Utf8
import ConnString.Proofs.Rootless
import ConnString.Proofs.Request
import ConnString.Proofs.Listing
import ConnString.Proofs.Escaped
import ConnString.Proofs.WrittenAlike
import ConnString.Proofs.LocationName
import ConnString.Proofs.MissingParams
