import TeamSync.Action
import TeamSync.Client
import TeamSync.Command
import TeamSync.Config
import TeamSync.Connector
import TeamSync.Credential
import TeamSync.Directory
import TeamSync.Directory.Answer
import TeamSync.Envelope
import TeamSync.Error
import TeamSync.Exchange
import TeamSync.Graph.Annotation
import TeamSync.Graph.Entitlement
import TeamSync.Graph.Resource
import TeamSync.Group
import TeamSync.Http.Header
import TeamSync.Http.Message
import TeamSync.Instant
import TeamSync.Json.Decoder
import TeamSync.Json.Fault
import TeamSync.Json.Literal
import TeamSync.Json.Node
import TeamSync.Json.Record
import TeamSync.Json.Scan
import TeamSync.Json.Value
import TeamSync.Log.Event
import TeamSync.Log.Excerpt
import TeamSync.Member
import TeamSync.Mutation
import TeamSync.Number.Binary64
import TeamSync.Number.Shortest
import TeamSync.Operation
import TeamSync.Page
import TeamSync.Proofs.Arguments
import TeamSync.Proofs.BaseUrl
import TeamSync.Proofs.Blame
import TeamSync.Proofs.Call
import TeamSync.Proofs.CallOutcome
import TeamSync.Proofs.Calls
import TeamSync.Proofs.Carry
import TeamSync.Proofs.Catalog
import TeamSync.Proofs.Chain
import TeamSync.Proofs.Change
import TeamSync.Proofs.Construction
import TeamSync.Proofs.Course
import TeamSync.Proofs.Credentials
import TeamSync.Proofs.Cursor
import TeamSync.Proofs.Deliveries
import TeamSync.Proofs.Drain
import TeamSync.Proofs.EnvelopeParts
import TeamSync.Proofs.ErrorReport
import TeamSync.Proofs.ExchangeLog
import TeamSync.Proofs.FailureNames
import TeamSync.Proofs.Feed
import TeamSync.Proofs.FormFields
import TeamSync.Proofs.HeaderFields
import TeamSync.Proofs.HeldToken
import TeamSync.Proofs.HostPass
import TeamSync.Proofs.Identifiers
import TeamSync.Proofs.Json.Grammar
import TeamSync.Proofs.Json.Growth
import TeamSync.Proofs.Json.Objects
import TeamSync.Proofs.Json.Ordered
import TeamSync.Proofs.Json.Printed
import TeamSync.Proofs.Json.ReadBack
import TeamSync.Proofs.Json.WellFormed
import TeamSync.Proofs.Keeps
import TeamSync.Proofs.Keys
import TeamSync.Proofs.LogText
import TeamSync.Proofs.LostLimit
import TeamSync.Proofs.Manner
import TeamSync.Proofs.NewAccount
import TeamSync.Proofs.Numerals
import TeamSync.Proofs.Paging
import TeamSync.Proofs.Quota
import TeamSync.Proofs.QuotaHeaders
import TeamSync.Proofs.RateReport
import TeamSync.Proofs.Requests
import TeamSync.Proofs.Resume
import TeamSync.Proofs.RoleDerivation
import TeamSync.Proofs.RoundTrip
import TeamSync.Proofs.SampleTeam
import TeamSync.Proofs.Schema
import TeamSync.Proofs.Secrecy
import TeamSync.Proofs.Setup
import TeamSync.Proofs.Step
import TeamSync.Proofs.Trail
import TeamSync.Proofs.TwoRuns
import TeamSync.Proofs.UnknownAccess
import TeamSync.Proofs.Url.Address
import TeamSync.Proofs.Url.Authority
import TeamSync.Proofs.Url.DomainName
import TeamSync.Proofs.Url.Encoded
import TeamSync.Proofs.Url.HostText
import TeamSync.Proofs.Url.Joined
import TeamSync.Proofs.Url.NormalForm
import TeamSync.Proofs.Url.Parsed
import TeamSync.Proofs.Url.Path
import TeamSync.Proofs.Url.Punycode
import TeamSync.Proofs.Url.Reading
import TeamSync.Proofs.Url.Segments
import TeamSync.Proofs.Url.Tables
import TeamSync.Proofs.Utf8
import TeamSync.Proofs.Visit
import TeamSync.Proofs.Wire
import TeamSync.RateLimit
import TeamSync.Sample
import TeamSync.Session
import TeamSync.Sync.Groups
import TeamSync.Sync.Pass
import TeamSync.Sync.Roles
import TeamSync.Sync.Syncer
import TeamSync.Sync.Users
import TeamSync.Text.Blank
import TeamSync.Text.Composition
import TeamSync.Text.Composition.Tables
import TeamSync.Text.Form
import TeamSync.Text.Numeral
import TeamSync.Text.Printable
import TeamSync.Text.Quoted
import TeamSync.Text.Split
import TeamSync.Text.Table
import TeamSync.Text.Utf8
import TeamSync.Transport
import TeamSync.Url.Domain
import TeamSync.Url.Domain.Classes
import TeamSync.Url.Domain.Label
import TeamSync.Url.Domain.Mapping
import TeamSync.Url.Host
import TeamSync.Url.Parse
import TeamSync.Url.Percent
import TeamSync.Url.Punycode
import TeamSync.Web
