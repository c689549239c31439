import PoolClient.Text.Blank
import PoolClient.Text.Printable
import PoolClient.Text.Quoted
import PoolClient.Number.Numeral
import PoolClient.Number.Shortest
import PoolClient.Number.Reading
import PoolClient.Text.Base64
import PoolClient.Markup.Node
import PoolClient.Markup.Entity
import PoolClient.Markup.Token
import PoolClient.Markup.Document
import PoolClient.Wire.Value
import PoolClient.Message.Writing
import PoolClient.Time.Instant
import PoolClient.Schema.Decode
import PoolClient.Schema.Encode
import PoolClient.Api.Catalogue
import PoolClient.Api.ErrorCode
import PoolClient.Failure.Error
import PoolClient.Message.Envelope
import PoolClient.ApiVersion
import PoolClient.Endpoint
import PoolClient.Session.Task
import PoolClient.Session.Events
import PoolClient.Rehearsal.Run
import PoolClient.Text.Utf8
import PoolClient.Url.Endpoint
import PoolClient.Rehearsal.Connections
import PoolClient.Toml.Reading
import PoolClient.Toml.Writing
import PoolClient.Certificate.Armour
import PoolClient.Certificate.Der
import PoolClient.Config.Reading
import PoolClient.Config.Writing
import PoolClient.Config.Options
import PoolClient.Proofs.Interleaving
import PoolClient.Proofs.Logout
import PoolClient.Proofs.Alone
import PoolClient.Proofs.Failover
import PoolClient.Proofs.Outcomes
import PoolClient.Proofs.TrustedRoots
import PoolClient.Proofs.Members
import PoolClient.Proofs.Numerals
import PoolClient.Proofs.Blanks
import PoolClient.Proofs.Integers
import PoolClient.Proofs.ValueGrammar
import PoolClient.Proofs.Tokens
import PoolClient.Proofs.Serialization
import PoolClient.Proofs.WrittenForms
import PoolClient.Proofs.Doubles
import PoolClient.Proofs.RoundTrip
import PoolClient.Proofs.Envelopes
import PoolClient.Proofs.TaskResults
import PoolClient.Proofs.ErrorRoutes
import PoolClient.Proofs.Calendar
import PoolClient.Proofs.CivilTime
import PoolClient.Proofs.Instants
import PoolClient.Proofs.Encoding
import PoolClient.Proofs.Conduct
import PoolClient.Proofs.Codec
import PoolClient.Proofs.Spellings
import PoolClient.Proofs.Sorting
import PoolClient.Proofs.Decoding
import PoolClient.Proofs.Catalogue
import PoolClient.Proofs.RecordSweep
import PoolClient.Proofs.Recoding
import PoolClient.Proofs.Footprint
import PoolClient.Proofs.Redirection
import PoolClient.Proofs.SharedRedirect
import PoolClient.Proofs.StaleLogin
import PoolClient.Proofs.Preemption
import PoolClient.Proofs.Renewal
import PoolClient.Proofs.Relogin
import PoolClient.Proofs.LoginTurn
import PoolClient.Proofs.ChangedPassword
import PoolClient.Proofs.Attempts
import PoolClient.Proofs.Operations
import PoolClient.Proofs.LocalSession
import PoolClient.Proofs.SentReference
import PoolClient.Proofs.Pacts
import PoolClient.Proofs.Verbatim
import PoolClient.Proofs.Reencoding
import PoolClient.Proofs.Stages
import PoolClient.Proofs.Intact
import PoolClient.Proofs.Waiting
import PoolClient.Proofs.Addresses
import PoolClient.Proofs.NormalPaths
import PoolClient.Proofs.NumericHosts
import PoolClient.Proofs.DomainNames
import PoolClient.Proofs.NormalUrls
import PoolClient.Proofs.Unwrapping
import PoolClient.Proofs.Layout
import PoolClient.Proofs.Chunks
import PoolClient.Proofs.RootEnd
import PoolClient.Proofs.Labels
import PoolClient.Proofs.CanonicalSets
