import SheetPricing.Action
import SheetPricing.Archive.Basic
import SheetPricing.Archive.Operations
import SheetPricing.Archive.Source
import SheetPricing.Binary64.Basic
import SheetPricing.Binary64.Bits
import SheetPricing.Binary64.Power
import SheetPricing.Binary64.Sum
import SheetPricing.Decimal.Basic
import SheetPricing.Decimal.Layout
import SheetPricing.Decimal.Numeral
import SheetPricing.Decimal.NumeralForm
import SheetPricing.Decimal.Rounding
import SheetPricing.Decimal.Shortest
import SheetPricing.Decimal.Styled
import SheetPricing.Digest.Hexadecimal
import SheetPricing.Digest.Sha256
import SheetPricing.Formula.Engine
import SheetPricing.Formula.Evaluation
import SheetPricing.Formula.Expr
import SheetPricing.Formula.Failure
import SheetPricing.Formula.Lexemes
import SheetPricing.Formula.Range
import SheetPricing.Formula.Reading
import SheetPricing.Formula.Token
import SheetPricing.Json.Access
import SheetPricing.Json.Basic
import SheetPricing.Json.Encoding
import SheetPricing.Json.Filling
import SheetPricing.Json.Placeholder
import SheetPricing.Json.Reading
import SheetPricing.Json.Rounded
import SheetPricing.Json.Shown
import SheetPricing.Loading.CellFile
import SheetPricing.Loading.Container
import SheetPricing.Loading.Coordinate
import SheetPricing.Loading.DateText
import SheetPricing.Loading.FileFormat
import SheetPricing.Loading.Inflation
import SheetPricing.Loading.Loader
import SheetPricing.Loading.Network
import SheetPricing.Loading.Package
import SheetPricing.Loading.SheetTitle
import SheetPricing.Power
import SheetPricing.Pricing.Config
import SheetPricing.Pricing.Dimension
import SheetPricing.Pricing.Input
import SheetPricing.Pricing.LoadError
import SheetPricing.Pricing.Registry
import SheetPricing.Pricing.Sample
import SheetPricing.Pricing.Session
import SheetPricing.Pricing.Template
import SheetPricing.Pricing.Treatment
import SheetPricing.Proofs.Binary64.Interval
import SheetPricing.Proofs.Binary64.Nearest
import SheetPricing.Proofs.Binary64.Shortest
import SheetPricing.Proofs.Decimal.Rounding
import SheetPricing.Proofs.Decimal.Value
import SheetPricing.Proofs.Formula.Afresh
import SheetPricing.Proofs.Formula.Completeness
import SheetPricing.Proofs.Formula.Course
import SheetPricing.Proofs.Formula.Depth
import SheetPricing.Proofs.Formula.Derivation
import SheetPricing.Proofs.Formula.Escape
import SheetPricing.Proofs.Formula.Grammar
import SheetPricing.Proofs.Formula.Nesting
import SheetPricing.Proofs.Formula.Step
import SheetPricing.Proofs.Formula.Trace
import SheetPricing.Proofs.Outcome
import SheetPricing.Proofs.Pricing.Calculation
import SheetPricing.Proofs.Workbook.Finite
import SheetPricing.Schema.Field
import SheetPricing.Schema.Scalar
import SheetPricing.Service.App
import SheetPricing.Service.Database
import SheetPricing.Service.Form
import SheetPricing.Service.Form.Line
import SheetPricing.Service.Form.Multipart
import SheetPricing.Service.HeaderValue
import SheetPricing.Service.LogLevel
import SheetPricing.Service.LogRecord
import SheetPricing.Service.Logging
import SheetPricing.Service.MediaType
import SheetPricing.Service.Origin
import SheetPricing.Service.Outgoing
import SheetPricing.Service.Request
import SheetPricing.Service.Response
import SheetPricing.Service.Settings
import SheetPricing.Service.Submission
import SheetPricing.Service.Threshold
import SheetPricing.Storage.BlobStore
import SheetPricing.Storage.FileTree
import SheetPricing.Storage.Path
import SheetPricing.Table
import SheetPricing.Text.Blank
import SheetPricing.Text.Capital
import SheetPricing.Text.Casing
import SheetPricing.Text.Digit
import SheetPricing.Text.Lexeme
import SheetPricing.Text.Octets
import SheetPricing.Text.Printable
import SheetPricing.Text.Quoted
import SheetPricing.Text.RunTable
import SheetPricing.Text.SmallLetter
import SheetPricing.Text.Split
import SheetPricing.Url.Basic
import SheetPricing.Url.Escape
import SheetPricing.Url.Host
import SheetPricing.Url.Name
import SheetPricing.Url.Name.Composition
import SheetPricing.Url.Name.Direction
import SheetPricing.Url.Name.Joining
import SheetPricing.Url.Name.Rule
import SheetPricing.Url.NumericHost
import SheetPricing.Url.Punycode
import SheetPricing.Url.Reading
import SheetPricing.Workbook.Address
import SheetPricing.Workbook.Basic
import SheetPricing.Workbook.Cell
import SheetPricing.Proofs.Binary64.Propagation
import SheetPricing.Proofs.Formula.Absorption
import SheetPricing.Proofs.Storage.Path
import SheetPricing.Proofs.Storage.FileTree
import SheetPricing.Proofs.Storage.BlobStore
import SheetPricing.Proofs.Archive.Placing
import SheetPricing.Proofs.Archive.Storing
import SheetPricing.Proofs.Archive.Run
import SheetPricing.Proofs.Archive.Backing
import SheetPricing.Proofs.Archive.Consistency
import SheetPricing.Proofs.Archive.Caching
import SheetPricing.Proofs.Formula.Spelling
import SheetPricing.Proofs.Workbook.Address
import SheetPricing.Proofs.Pricing.InputCells
import SheetPricing.Proofs.Archive.Remembering
import SheetPricing.Proofs.Archive.Supply
import SheetPricing.Proofs.Service.Task
import SheetPricing.Proofs.Service.Step
import SheetPricing.Proofs.Service.Freshness
import SheetPricing.Proofs.Archive.Effects
import SheetPricing.Proofs.Loading.Agreement
import SheetPricing.Proofs.Storage.Directories
import SheetPricing.Proofs.Storage.Saving
import SheetPricing.Proofs.Service.Confinement
import SheetPricing.Proofs.Service.Account
import SheetPricing.Proofs.Service.Visiting
import SheetPricing.Proofs.Service.Isolation
import SheetPricing.Proofs.Pricing.Interruption
import SheetPricing.Proofs.Pricing.OneSlot
import SheetPricing.Proofs.Loading.Transparency
import SheetPricing.Proofs.Formula.Writing
import SheetPricing.Proofs.Storage.Containment
import SheetPricing.Proofs.Archive.RoundTrip
import SheetPricing.Proofs.Formula.Failing
import SheetPricing.Proofs.Formula.Cycles
import SheetPricing.Proofs.Formula.Watch
import SheetPricing.Proofs.Formula.Order
import SheetPricing.Proofs.Formula.Alone
import SheetPricing.Proofs.Formula.Chain
import SheetPricing.Proofs.Formula.References
import SheetPricing.Proofs.Formula.Dependence
import SheetPricing.Proofs.Formula.Recall
import SheetPricing.Proofs.Formula.Pinning
import SheetPricing.Proofs.Formula.Moving
import SheetPricing.Proofs.Formula.Corners
import SheetPricing.Proofs.Formula.Columns
import SheetPricing.Proofs.Formula.Rectangle
import SheetPricing.Proofs.Formula.Gathering
import SheetPricing.Proofs.Binary64.Units
import SheetPricing.Proofs.Binary64.Total
import SheetPricing.Proofs.Formula.Extremes
import SheetPricing.Proofs.Formula.OneCell
import SheetPricing.Proofs.Formula.Ahead
import SheetPricing.Proofs.Formula.ArgumentOrder
import SheetPricing.Proofs.Binary64.Closest
import SheetPricing.Proofs.Decimal.Exactness
import SheetPricing.Proofs.Decimal.Order
import SheetPricing.Proofs.Loading.Retrying
import SheetPricing.Proofs.Text.Locality
import SheetPricing.Proofs.Formula.Following
import SheetPricing.Proofs.Formula.Tiling
import SheetPricing.Proofs.Formula.Likeness
import SheetPricing.Proofs.Formula.Respacing
import SheetPricing.Proofs.Formula.Spacing
import SheetPricing.Proofs.Decimal.Points
import SheetPricing.Proofs.Pricing.DutchNumber
import SheetPricing.Proofs.Pricing.Dimensions
import SheetPricing.Proofs.Pricing.Unavailable
import SheetPricing.Proofs.Storage.Mapping
import SheetPricing.Proofs.Formula.Finiteness
import SheetPricing.Proofs.Service.Admission
import SheetPricing.Proofs.Service.SharedTemplate
