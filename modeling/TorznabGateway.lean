import TorznabGateway.Auth.ApiKey
import TorznabGateway.Auth.Secret
import TorznabGateway.Cache.Basic
import TorznabGateway.Cache.TickIndex
import TorznabGateway.Config.Basic
import TorznabGateway.Config.Environment
import TorznabGateway.Config.Load
import TorznabGateway.Config.Registry
import TorznabGateway.Config.Validate
import TorznabGateway.Digest.Hmac
import TorznabGateway.Digest.Sha1
import TorznabGateway.Digest.Sha256
import TorznabGateway.Digest.Words
import TorznabGateway.Encoding.Base64Url
import TorznabGateway.Encoding.Form
import TorznabGateway.Encoding.Percent
import TorznabGateway.Gateway
import TorznabGateway.Http.Disposition
import TorznabGateway.Http.Message
import TorznabGateway.Http.Route
import TorznabGateway.Indexer.Basic
import TorznabGateway.Indexer.Capabilities
import TorznabGateway.Indexer.Error
import TorznabGateway.Indexer.Registry
import TorznabGateway.Indexer.Scripted
import TorznabGateway.Jackett.Link
import TorznabGateway.Jackett.Result
import TorznabGateway.Jackett.Server
import TorznabGateway.Json.Basic
import TorznabGateway.Json.Quoted
import TorznabGateway.Json.Reader
import TorznabGateway.Json.Record
import TorznabGateway.Json.Writer
import TorznabGateway.Main
import TorznabGateway.Metrics
import TorznabGateway.Named
import TorznabGateway.Net.Ip
import TorznabGateway.Net.Url.Basic
import TorznabGateway.Net.Url.Host
import TorznabGateway.Net.Url.Origin
import TorznabGateway.Net.Url.Parser
import TorznabGateway.Search.Aggregate
import TorznabGateway.Search.Arrival
import TorznabGateway.Search.DownloadLink
import TorznabGateway.Search.Item
import TorznabGateway.Search.Query
import TorznabGateway.Search.Sample
import TorznabGateway.Search.Seen
import TorznabGateway.Status
import TorznabGateway.Text.AsciiCase
import TorznabGateway.Text.CaseTable
import TorznabGateway.Text.Decimal
import TorznabGateway.Text.Escape
import TorznabGateway.Text.Hex
import TorznabGateway.Text.Lowercase
import TorznabGateway.Text.Scan
import TorznabGateway.Text.Split
import TorznabGateway.Text.Utf8
import TorznabGateway.Text.Utf8.RoundTrip
import TorznabGateway.Text.WhiteSpace
import TorznabGateway.Time.Calendar
import TorznabGateway.Time.Moment
import TorznabGateway.Time.Rfc2822
import TorznabGateway.Time.Rfc3339
import TorznabGateway.Token
import TorznabGateway.Toml.Document
import TorznabGateway.Toml.Number
import TorznabGateway.Toml.Quoted
import TorznabGateway.Toml.Table
import TorznabGateway.Torznab.CapsDocument
import TorznabGateway.Torznab.Error
import TorznabGateway.Torznab.FeedDocument
import TorznabGateway.Torznab.Request
import TorznabGateway.Torznab.Responder
import TorznabGateway.Uuid
import TorznabGateway.Xml
import TorznabGateway.Proofs.Outcome
import TorznabGateway.Proofs.Text.LetterCase
import TorznabGateway.Proofs.Search.Delivery
import TorznabGateway.Proofs.Search.Window
import TorznabGateway.Proofs.Cache.Consistency
import TorznabGateway.Proofs.Cache.Recency
import TorznabGateway.Proofs.Cache.Reference
import TorznabGateway.Proofs.Cache.Memory
import TorznabGateway.Proofs.Search.Sightings
import TorznabGateway.Proofs.Json.Literal
import TorznabGateway.Proofs.Json.RoundTrip
import TorznabGateway.Proofs.Token.Issue
import TorznabGateway.Proofs.Http.Segment
import TorznabGateway.Proofs.Download.Link
import TorznabGateway.Proofs.Gateway.Reach
import TorznabGateway.Proofs.Gateway.Authority
import TorznabGateway.Proofs.Gateway.Secrecy
import TorznabGateway.Proofs.Cache.Values
import TorznabGateway.Proofs.Search.Unlinked
import TorznabGateway.Proofs.Download.Masking
import TorznabGateway.Proofs.Torznab.Redaction
import TorznabGateway.Proofs.Torznab.HiddenLinks
import TorznabGateway.Proofs.Torznab.Parameters
import TorznabGateway.Proofs.Torznab.Decision
import TorznabGateway.Proofs.Search.CacheKey
import TorznabGateway.Proofs.Torznab.Calls
import TorznabGateway.Proofs.Torznab.CachedFeed
import TorznabGateway.Proofs.Config.Acceptance
import TorznabGateway.Proofs.Config.Selection
import TorznabGateway.Proofs.Search.Identity
import TorznabGateway.Proofs.Encoding.Form
import TorznabGateway.Proofs.Net.Reading
import TorznabGateway.Proofs.Net.Escaped
import TorznabGateway.Proofs.Net.Query
import TorznabGateway.Proofs.Net.Reader
import TorznabGateway.Proofs.Jackett.Key
import TorznabGateway.Proofs.Cache.WorkingSet
import TorznabGateway.Proofs.Time.Years
import TorznabGateway.Proofs.Torznab.FeedDates
import TorznabGateway.Proofs.Jackett.Dates
import TorznabGateway.Proofs.Xml.Reading
import TorznabGateway.Proofs.Xml.Elements
import TorznabGateway.Proofs.Torznab.Markup
import TorznabGateway.Proofs.Torznab.Listing
import TorznabGateway.Proofs.Xml.Characters
import TorznabGateway.Proofs.Torznab.Characters
import TorznabGateway.Proofs.Search.Failures
import TorznabGateway.Proofs.Search.Tracking
import TorznabGateway.Proofs.Keyed
import TorznabGateway.Proofs.Text.Written
import TorznabGateway.Proofs.Indexer.Union
import TorznabGateway.Proofs.Indexer.Stages
import TorznabGateway.Proofs.Indexer.Resolution
import TorznabGateway.Proofs.Torznab.Queries
import TorznabGateway.Proofs.Torznab.Spellings
import TorznabGateway.Proofs.Search.SentText
import TorznabGateway.Proofs.Jackett.Forwarding
import TorznabGateway.Proofs.Net.Ip
import TorznabGateway.Proofs.Net.Host
import TorznabGateway.Proofs.Net.Path
import TorznabGateway.Proofs.Net.Authority
import TorznabGateway.Proofs.Net.RoundTrip
import TorznabGateway.Proofs.Net.Origin
import TorznabGateway.Proofs.Jackett.Authorization
import TorznabGateway.Proofs.Jackett.SearchAddress
import TorznabGateway.Proofs.Search.Fingerprint
import TorznabGateway.Proofs.Jackett.Counts
import TorznabGateway.Proofs.Json.Members
import TorznabGateway.Proofs.Json.Order
import TorznabGateway.Proofs.Toml.DistinctNames
import TorznabGateway.Proofs.Config.Environment
import TorznabGateway.Proofs.Config.Override
import TorznabGateway.Proofs.Net.Uri
import TorznabGateway.Proofs.Gateway.HandedOut
import TorznabGateway.Proofs.Http.Matching
import TorznabGateway.Proofs.Http.Labels
import TorznabGateway.Proofs.Gateway.Redirect
import TorznabGateway.Proofs.Download.FileName
import TorznabGateway.Proofs.Indexer.Health
import TorznabGateway.Proofs.Cache.Agreement
