import Routing.Bytes.Base64
import Routing.Bytes.Hex
import Routing.Bytes.Sha256
import Routing.Cache
import Routing.Calendar
import Routing.Calendar.Reading
import Routing.Calendar.Timestamp
import Routing.Constraint
import Routing.Decimal
import Routing.Definition
import Routing.Definition.Document
import Routing.Dict
import Routing.Event
import Routing.Fault
import Routing.Files.Path
import Routing.Files.Tree
import Routing.Json.Decode
import Routing.Json.Number
import Routing.Json.Tree
import Routing.Json.Value
import Routing.Log
import Routing.Log.Writer
import Routing.Pattern
import Routing.Proofs.Building
import Routing.Proofs.Bytes
import Routing.Proofs.Cache
import Routing.Proofs.CacheRuns
import Routing.Proofs.Changes
import Routing.Proofs.Dict
import Routing.Proofs.Expression
import Routing.Proofs.Files
import Routing.Proofs.History
import Routing.Proofs.Json.Decoding
import Routing.Proofs.Json.Keeping
import Routing.Proofs.Json.Numeral
import Routing.Proofs.Json.Reading
import Routing.Proofs.Key
import Routing.Proofs.Listing
import Routing.Proofs.Lookup
import Routing.Proofs.Made
import Routing.Proofs.Matching
import Routing.Proofs.Outcome
import Routing.Proofs.Paths
import Routing.Proofs.Rebuilding
import Routing.Proofs.Regex.Anchored
import Routing.Proofs.Regex.Block
import Routing.Proofs.Regex.Context
import Routing.Proofs.Regex.Ends
import Routing.Proofs.Regex.Exploration
import Routing.Proofs.Regex.Fragment
import Routing.Proofs.Regex.Fuel
import Routing.Proofs.Regex.Groups
import Routing.Proofs.Regex.Layout
import Routing.Proofs.Regex.Locality
import Routing.Proofs.Regex.Locality.Bracket
import Routing.Proofs.Regex.Locality.Escape
import Routing.Proofs.Regex.Locality.Step
import Routing.Proofs.Regex.LookFree
import Routing.Proofs.Regex.Numbering
import Routing.Proofs.Regex.Reading
import Routing.Proofs.Regex.Settling
import Routing.Proofs.Representation
import Routing.Proofs.RoundTrip
import Routing.Proofs.Shelves
import Routing.Proofs.Spelling
import Routing.Proofs.Startup
import Routing.Proofs.Table
import Routing.Proofs.Traces
import Routing.Proofs.Walk
import Routing.Proofs.Written
import Routing.Proofs.WrittenTable
import Routing.Regex
import Routing.Regex.Bracket
import Routing.Regex.CharClass
import Routing.Regex.Cost
import Routing.Regex.Escape
import Routing.Regex.Fault
import Routing.Regex.Match
import Routing.Regex.Mode
import Routing.Regex.Node
import Routing.Regex.Parser
import Routing.Regex.Program
import Routing.Regex.Property
import Routing.Route
import Routing.Route.Building
import Routing.Route.Json
import Routing.Route.Matching
import Routing.Segment
import Routing.Session
import Routing.Settings
import Routing.Settings.Loading
import Routing.Site
import Routing.Table
import Routing.Table.Json
import Routing.Text.Age
import Routing.Text.Alphabet
import Routing.Text.BinaryProperty
import Routing.Text.BreakProperty
import Routing.Text.CaseOrbit
import Routing.Text.Category
import Routing.Text.CodeSet
import Routing.Text.RangeList
import Routing.Text.Script
import Routing.Toml.Document
import Routing.Toml.Item
import Routing.Toml.Json
import Routing.Toml.Scalar
import Routing.Toml.Text
import Routing.Workspace
import Routing.Proofs.Identity
import Routing.Proofs.Naming
import Routing.Proofs.Payload
import Routing.Proofs.Sessions
import Routing.Proofs.Grammar
import Routing.Proofs.Derivation
import Routing.Proofs.Leaves
import Routing.Proofs.FixedText
import Routing.Proofs.Regex.Property
import Routing.Proofs.Regex.Extent
import Routing.Proofs.Regex.Tokens
import Routing.Proofs.Regex.Enclosing
import Routing.Proofs.Delimiting
import Routing.Proofs.Unnamed
import Routing.Proofs.Omissions
import Routing.Proofs.Reasons
import Routing.Proofs.Parent
import Routing.Proofs.Urls
import Routing.Proofs.Calendar
import Routing.Proofs.Log.Files
import Routing.Proofs.Log.Dates
import Routing.Proofs.Log.Lines
import Routing.Proofs.Json.Denoting
import Routing.Proofs.Settings
import Routing.Proofs.Toml
