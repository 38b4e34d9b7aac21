import RouteProbe.Main
import RouteProbe.Proofs.Http.AwaitBody
import RouteProbe.Proofs.Http.AwaitHead
import RouteProbe.Proofs.Http.BodyText
import RouteProbe.Proofs.Http.HeadText
import RouteProbe.Session.Step
import RouteProbe.Proofs.Http.Reply
import RouteProbe.Proofs.Http.Ended
import RouteProbe.Proofs.Http.Continuation
import RouteProbe.Proofs.Query.Reply
import RouteProbe.Proofs.Query.UrlError
import RouteProbe.Proofs.Query.Cutting
import RouteProbe.Proofs.Query.Status
import RouteProbe.Proofs.Log.Members
import RouteProbe.Proofs.Log.Routed
import RouteProbe.Proofs.Session.Saying
import RouteProbe.Proofs.Session.Command
import RouteProbe.Proofs.Session.CutShort
import RouteProbe.Proofs.Session.Release
import RouteProbe.Proofs.Session.Ending
import RouteProbe.Proofs.Url.Escape
import RouteProbe.Proofs.Url.Segments
import RouteProbe.Proofs.Url.Reading
import RouteProbe.Proofs.Url.Host
import RouteProbe.Proofs.Route
import RouteProbe.Proofs.Query.Asked
import RouteProbe.Proofs.Query.Sent
import RouteProbe.Proofs.Query.Stray
import RouteProbe.Proofs.Query.Verbatim
import RouteProbe.Proofs.Text.OneLine
import RouteProbe.Proofs.Json.RoundTrip
import RouteProbe.Proofs.Log.Completed
import RouteProbe.Proofs.Log.Line
import RouteProbe.Proofs.Log.Shown
import RouteProbe.Proofs.Query.Notices
import RouteProbe.Proofs.Session.Lines
import RouteProbe.Proofs.Table
import RouteProbe.Proofs.Log.Configured
import RouteProbe.Proofs.Log.Spared
import RouteProbe.Proofs.Log.Once
import RouteProbe.Proofs.Session.History
import RouteProbe.Proofs.Session.Kept
import RouteProbe.Proofs.Session.Reconfigured
import RouteProbe.Proofs.Settings.References
import RouteProbe.Proofs.Settings.Faults
import RouteProbe.Proofs.Settings.Precedence
import RouteProbe.Proofs.Number.Rounding
import RouteProbe.Proofs.Number.Shortest
import RouteProbe.Proofs.Number.Numeral
import RouteProbe.Proofs.Json.Number
import RouteProbe.Proofs.Log.Pinned
import RouteProbe.Proofs.Session.Asked
import RouteProbe.Proofs.Query.Events
import RouteProbe.Proofs.Session.Least
import RouteProbe.Proofs.Session.Paths
import RouteProbe.Proofs.Session.Recovered
import RouteProbe.Proofs.Network.Reads
import RouteProbe.Proofs.Http.Needed
import RouteProbe.Proofs.Query.Needed
import RouteProbe.Proofs.Session.Unwritten
import RouteProbe.Cli.Outcome
import RouteProbe.Proofs.Template.Doubled
import RouteProbe.Proofs.Cli.Pieces
import RouteProbe.Proofs.Cli.Outcome
import RouteProbe.Proofs.Text.Trim
import RouteProbe.Proofs.Settings.Accepted
import RouteProbe.Proofs.Settings.Report
import RouteProbe.Proofs.Settings.Replaced
import RouteProbe.Proofs.Session.HostOption
import RouteProbe.Proofs.Coding.Stored
import RouteProbe.Proofs.Coding.Wrapped
import RouteProbe.Proofs.Coding.Growth
import RouteProbe.Proofs.Coding.Undone
import RouteProbe.Proofs.Http.Decoded
import RouteProbe.Proofs.Http.Codings
import RouteProbe.Proofs.Query.Coded
import RouteProbe.Proofs.Coding.Content
import RouteProbe.Proofs.Query.Delivered
import RouteProbe.Proofs.Query.Deflated
import RouteProbe.Proofs.Query.Truncated
import RouteProbe.Proofs.Url.SentPath
import RouteProbe.Proofs.Query.Named
import RouteProbe.Proofs.Query.Normalised
import RouteProbe.Proofs.Log.Gathered
import RouteProbe.Proofs.Session.Quieted
import RouteProbe.Proofs.Session.FileRead
import RouteProbe.Proofs.Session.Effects
import RouteProbe.Proofs.Session.Merged
