import HealthAlert.Alert.Condition
import HealthAlert.Alert.Input
import HealthAlert.Alert.Mode
import HealthAlert.Alert.Naming
import HealthAlert.Alert.Permissions
import HealthAlert.Alert.Rendering
import HealthAlert.Alert.Template
import HealthAlert.Bicep.Emission
import HealthAlert.Bicep.Literal
import HealthAlert.Bicep.Quoted
import HealthAlert.Bicep.Render
import HealthAlert.Command.Arguments
import HealthAlert.Command.Chore
import HealthAlert.Command.Grammar
import HealthAlert.Command.Invocation
import HealthAlert.Command.Run
import HealthAlert.Decimal.Double
import HealthAlert.Decimal.Layout
import HealthAlert.Decimal.Reading
import HealthAlert.Decimal.Shortest
import HealthAlert.Failure.Basic
import HealthAlert.Failure.Internal
import HealthAlert.Failure.Redaction
import HealthAlert.Files.Access
import HealthAlert.Files.Path
import HealthAlert.Files.Tree
import HealthAlert.Form.Check
import HealthAlert.Form.Field
import HealthAlert.Http.Message
import HealthAlert.Http.Sharing
import HealthAlert.Http.SizeLimit
import HealthAlert.Json.Encoding
import HealthAlert.Json.Reader
import HealthAlert.Json.Surrogates
import HealthAlert.Json.Token
import HealthAlert.Json.Writer
import HealthAlert.Keyed
import HealthAlert.Log.Placeholders
import HealthAlert.Log.Row
import HealthAlert.Log.Setup
import HealthAlert.Log.Structured
import HealthAlert.Log.Timestamp
import HealthAlert.Main
import HealthAlert.Metrics.Basic
import HealthAlert.Metrics.Exposition
import HealthAlert.Metrics.Tally
import HealthAlert.Options.Cache
import HealthAlert.Options.Catalog
import HealthAlert.Options.Kind
import HealthAlert.Options.Loader
import HealthAlert.Options.Session
import HealthAlert.Proofs.Alert.Counting
import HealthAlert.Proofs.Alert.Decoding
import HealthAlert.Proofs.Alert.Dimensions
import HealthAlert.Proofs.Alert.Document
import HealthAlert.Proofs.Alert.Formatting
import HealthAlert.Proofs.Alert.Literals
import HealthAlert.Proofs.Alert.Matching
import HealthAlert.Proofs.Alert.Naming
import HealthAlert.Proofs.Alert.Relevance
import HealthAlert.Proofs.Alert.Results
import HealthAlert.Proofs.Alert.TagRows
import HealthAlert.Proofs.Alert.Tags
import HealthAlert.Proofs.Bicep.BareKeys
import HealthAlert.Proofs.Bicep.Ending
import HealthAlert.Proofs.Bicep.Indenting
import HealthAlert.Proofs.Bicep.Layout
import HealthAlert.Proofs.Bicep.LineBreaks
import HealthAlert.Proofs.Bicep.Lines
import HealthAlert.Proofs.Bicep.OnePass
import HealthAlert.Proofs.Bicep.Quoting
import HealthAlert.Proofs.Bicep.Refusing
import HealthAlert.Proofs.Bicep.ScalarPlaces
import HealthAlert.Proofs.Bicep.Scan
import HealthAlert.Proofs.Bicep.Skeleton
import HealthAlert.Proofs.Bicep.Spacing
import HealthAlert.Proofs.Bicep.UniqueReading
import HealthAlert.Proofs.Command.Endings
import HealthAlert.Proofs.Command.Rendering
import HealthAlert.Proofs.Decimal.Characters
import HealthAlert.Proofs.Decimal.Digits
import HealthAlert.Proofs.Decimal.Rounding
import HealthAlert.Proofs.Decimal.Shortest
import HealthAlert.Proofs.Failure.Leaking
import HealthAlert.Proofs.Failure.Redacting
import HealthAlert.Proofs.Failure.Sparing
import HealthAlert.Proofs.Files.Growth
import HealthAlert.Proofs.Form.Addresses
import HealthAlert.Proofs.Form.AlertNames
import HealthAlert.Proofs.Form.SubscriptionIds
import HealthAlert.Proofs.Form.Trimming
import HealthAlert.Proofs.Json.Bytes
import HealthAlert.Proofs.Json.Cutting
import HealthAlert.Proofs.Json.LineEnds
import HealthAlert.Proofs.Json.LongIntegers
import HealthAlert.Proofs.Json.Numbers
import HealthAlert.Proofs.Json.Printable
import HealthAlert.Proofs.Json.RoundTrip
import HealthAlert.Proofs.Json.Settling
import HealthAlert.Proofs.Json.Spelling
import HealthAlert.Proofs.Json.Telling
import HealthAlert.Proofs.Json.WellFormed
import HealthAlert.Proofs.Json.Whole
import HealthAlert.Proofs.Json.Written
import HealthAlert.Proofs.Log.Lines
import HealthAlert.Proofs.Log.Moments
import HealthAlert.Proofs.Options.Caching
import HealthAlert.Proofs.Options.Entries
import HealthAlert.Proofs.Options.Failing
import HealthAlert.Proofs.Options.Outcomes
import HealthAlert.Proofs.Options.Reading
import HealthAlert.Proofs.Permissions.Completeness
import HealthAlert.Proofs.Permissions.Roles
import HealthAlert.Proofs.Permissions.Supplements
import HealthAlert.Proofs.Request.Accepted
import HealthAlert.Proofs.Request.ActionGroup
import HealthAlert.Proofs.Request.Agreement
import HealthAlert.Proofs.Request.Issues
import HealthAlert.Proofs.Request.Keys
import HealthAlert.Proofs.Request.Refused
import HealthAlert.Proofs.Request.Rendering
import HealthAlert.Proofs.Request.Resubmission
import HealthAlert.Proofs.Request.Scope
import HealthAlert.Proofs.Request.Selections
import HealthAlert.Proofs.Request.Typing
import HealthAlert.Proofs.Service.AccessRows
import HealthAlert.Proofs.Service.Accounting
import HealthAlert.Proofs.Service.Answers
import HealthAlert.Proofs.Service.Discretion
import HealthAlert.Proofs.Service.Endings
import HealthAlert.Proofs.Service.ErrorBodies
import HealthAlert.Proofs.Service.FrontEnds
import HealthAlert.Proofs.Service.MetricsAccess
import HealthAlert.Proofs.Service.MisreadLengths
import HealthAlert.Proofs.Service.OptionLists
import HealthAlert.Proofs.Service.Oversize
import HealthAlert.Proofs.Service.Passage
import HealthAlert.Proofs.Service.RequestIds
import HealthAlert.Proofs.Service.RouteMetrics
import HealthAlert.Proofs.Service.Templates
import HealthAlert.Proofs.Settings.Production
import HealthAlert.Proofs.Text.Ascii
import HealthAlert.Proofs.Text.Encoding
import HealthAlert.Proofs.Value.Documents
import HealthAlert.Proofs.Value.Keyed
import HealthAlert.Proofs.Value.LongIntegers
import HealthAlert.Proofs.Value.Nodes
import HealthAlert.Proofs.Value.Places
import HealthAlert.Request.Reader
import HealthAlert.Service.Endpoint
import HealthAlert.Service.Exchange
import HealthAlert.Service.Observation
import HealthAlert.Service.Payload
import HealthAlert.Service.Route
import HealthAlert.Service.Routing
import HealthAlert.Settings.Basic
import HealthAlert.Settings.Reader
import HealthAlert.Text.Blank
import HealthAlert.Text.CodeSet
import HealthAlert.Text.Digit
import HealthAlert.Text.Hexadecimal
import HealthAlert.Text.Lines
import HealthAlert.Text.Lowercase
import HealthAlert.Text.Printable
import HealthAlert.Text.Quotation
import HealthAlert.Text.Skeleton
import HealthAlert.Text.Surrogates
import HealthAlert.Text.Utf8
import HealthAlert.Text.Wide
import HealthAlert.Text.Word
import HealthAlert.Validation.Issue
import HealthAlert.Validation.Scalar
import HealthAlert.Value.Basic
import HealthAlert.Value.Display
import HealthAlert.Value.Integers
