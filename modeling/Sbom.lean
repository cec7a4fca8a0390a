import Sbom.Calendar.Date
import Sbom.Calendar.Instant
import Sbom.Calendar.Reader
import Sbom.Conversion.Convert
import Sbom.Conversion.Degradation
import Sbom.Conversion.GeneratedRef
import Sbom.Conversion.Header
import Sbom.Conversion.Interrupt
import Sbom.Conversion.Mapping
import Sbom.Conversion.Registry
import Sbom.Conversion.Relations
import Sbom.Conversion.Root
import Sbom.CycloneDx.Bom
import Sbom.CycloneDx.Component
import Sbom.CycloneDx.Defect
import Sbom.CycloneDx.Downgrade
import Sbom.CycloneDx.Encoder
import Sbom.CycloneDx.SpecVersion
import Sbom.CycloneDx.ValueForm
import Sbom.CycloneDx.XmlForm
import Sbom.Delivery
import Sbom.Failure
import Sbom.Graph.Decode
import Sbom.Graph.Document
import Sbom.Graph.Encode
import Sbom.Graph.Node
import Sbom.Graph.Relationship
import Sbom.Json.Decode
import Sbom.Json.Draft
import Sbom.Json.Magnitude
import Sbom.Json.Number
import Sbom.Json.Value
import Sbom.License.Catalogue
import Sbom.License.Expression
import Sbom.Number.Binary64
import Sbom.Number.Shortest
import Sbom.Number.Word
import Sbom.OrderedMap
import Sbom.PackageUrl
import Sbom.Proofs.AcceptedMarks
import Sbom.Proofs.Accounting
import Sbom.Proofs.Agreement
import Sbom.Proofs.Assembly
import Sbom.Proofs.Bounds
import Sbom.Proofs.Characters
import Sbom.Proofs.Clearing
import Sbom.Proofs.Contexts
import Sbom.Proofs.Dangling
import Sbom.Proofs.Decoding
import Sbom.Proofs.Delivery
import Sbom.Proofs.Digits
import Sbom.Proofs.Downgrade
import Sbom.Proofs.ElementRecovery
import Sbom.Proofs.Encodable
import Sbom.Proofs.Escaping
import Sbom.Proofs.FatalFailure
import Sbom.Proofs.FirstRecord
import Sbom.Proofs.Forest
import Sbom.Proofs.Forest.Tops
import Sbom.Proofs.Growth
import Sbom.Proofs.Halting
import Sbom.Proofs.Independence
import Sbom.Proofs.Instants
import Sbom.Proofs.KeyedRegistry
import Sbom.Proofs.Labels
import Sbom.Proofs.Layout
import Sbom.Proofs.LicenseText
import Sbom.Proofs.LineEnds
import Sbom.Proofs.Locality
import Sbom.Proofs.Lossless
import Sbom.Proofs.Markup
import Sbom.Proofs.MarkupRecovery
import Sbom.Proofs.Members
import Sbom.Proofs.Nesting
import Sbom.Proofs.NodeLosses
import Sbom.Proofs.NodeOrder
import Sbom.Proofs.Occurrence
import Sbom.Proofs.Outline
import Sbom.Proofs.Population
import Sbom.Proofs.Queries
import Sbom.Proofs.Quoting
import Sbom.Proofs.Refusal
import Sbom.Proofs.Registry
import Sbom.Proofs.Regular
import Sbom.Proofs.ReportedRefs
import Sbom.Proofs.Resolution
import Sbom.Proofs.Retention
import Sbom.Proofs.RoundTrip
import Sbom.Proofs.Scanning
import Sbom.Proofs.Sessions
import Sbom.Proofs.SettingsText
import Sbom.Proofs.Shape
import Sbom.Proofs.Skipping
import Sbom.Proofs.Steps
import Sbom.Proofs.Strictness
import Sbom.Proofs.Stripping
import Sbom.Proofs.Texts
import Sbom.Proofs.Traversal
import Sbom.Proofs.Unmoved
import Sbom.Proofs.Validity
import Sbom.Proofs.ValueRecovery
import Sbom.Proofs.VersionNumbers
import Sbom.Proofs.Written
import Sbom.Proofs.WrittenTimes
import Sbom.Proofs.Yaml.Entries
import Sbom.Proofs.Yaml.Escapes
import Sbom.Proofs.Yaml.Lines
import Sbom.Proofs.Yaml.Plain
import Sbom.Proofs.Yaml.Quoted
import Sbom.Proofs.Yaml.Tokens
import Sbom.Settings.Basic
import Sbom.Settings.Preset
import Sbom.Settings.Schema
import Sbom.Settings.Text
import Sbom.Settings.Validation
import Sbom.Text.Blank
import Sbom.Text.CodeRanges
import Sbom.Text.Decimal
import Sbom.Text.Hex
import Sbom.Text.LowerCase
import Sbom.Text.LowerCase.Table
import Sbom.Text.Percent
import Sbom.Text.Quoted
import Sbom.Text.Quoted.Table
import Sbom.Tree
import Sbom.Xml.Element
import Sbom.Xml.Report
import Sbom.Xml.Token
import Sbom.Yaml.Character
import Sbom.Yaml.Decode
import Sbom.Yaml.Event
import Sbom.Yaml.Folding
import Sbom.Yaml.Meaning
import Sbom.Yaml.Position
import Sbom.Yaml.Scalar
import Sbom.Yaml.ScalarForm
import Sbom.Yaml.Token
