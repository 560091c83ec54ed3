import Scim.AttrName
import Scim.AttrPath
import Scim.AttrPath.Pattern
import Scim.Attribute
import Scim.Attribute.Canonical
import Scim.Attribute.Document
import Scim.Attribute.Equality
import Scim.Attribute.Literal
import Scim.Binary64
import Scim.Binary64.Shortest
import Scim.Config
import Scim.Cypher.Condition
import Scim.Cypher.Name
import Scim.Cypher.Text
import Scim.DateTime
import Scim.DateTime.Reader
import Scim.DateTime.Text
import Scim.Document.Assembly
import Scim.Document.Field
import Scim.Document.Reader
import Scim.Document.Report
import Scim.Error
import Scim.Event
import Scim.Filter
import Scim.Filter.Compile
import Scim.Filter.Depth
import Scim.Filter.Problem
import Scim.Filter.Reader
import Scim.Filter.Text
import Scim.Filter.Token
import Scim.Issue
import Scim.Json.Fault
import Scim.Json.Reader
import Scim.Json.Text
import Scim.Json.Writer
import Scim.Lowering
import Scim.Operator
import Scim.Predicate
import Scim.Predicate.Match
import Scim.Proofs.AttrPath.Correspondence
import Scim.Proofs.AttrPath.Spelling
import Scim.Proofs.Attribute.Alike
import Scim.Proofs.Attribute.Binding
import Scim.Proofs.Attribute.Equivalence
import Scim.Proofs.Attribute.Faults
import Scim.Proofs.Attribute.Folding
import Scim.Proofs.Attribute.Reflexivity
import Scim.Proofs.Attribute.Texts
import Scim.Proofs.Attribute.WellFormed
import Scim.Proofs.Attribute.Within
import Scim.Proofs.Binary64.RoundTrip
import Scim.Proofs.Binary64.Rounding
import Scim.Proofs.Cypher.Comparison
import Scim.Proofs.Cypher.Evaluation
import Scim.Proofs.Cypher.Freshness
import Scim.Proofs.Cypher.Layout
import Scim.Proofs.Cypher.Mirroring
import Scim.Proofs.Cypher.Outcomes
import Scim.Proofs.Cypher.Parameters
import Scim.Proofs.Cypher.Quoting
import Scim.Proofs.Cypher.Scanning
import Scim.Proofs.Cypher.Selection
import Scim.Proofs.Cypher.Stored
import Scim.Proofs.Cypher.Usage
import Scim.Proofs.Document.Flattening
import Scim.Proofs.Document.Publication
import Scim.Proofs.Filter.Acceptance
import Scim.Proofs.Filter.Coverage
import Scim.Proofs.Filter.DepthLimit
import Scim.Proofs.Filter.Diagnosis
import Scim.Proofs.Filter.FirstFault
import Scim.Proofs.Filter.Grammar
import Scim.Proofs.Filter.Lexing
import Scim.Proofs.Filter.Literals
import Scim.Proofs.Filter.Reading
import Scim.Proofs.Filter.Respelling
import Scim.Proofs.Filter.RoundTrip
import Scim.Proofs.Filter.Sentences
import Scim.Proofs.Filter.Truncation
import Scim.Proofs.Filter.Unambiguity
import Scim.Proofs.Json.Decoding
import Scim.Proofs.Json.Grammar
import Scim.Proofs.Json.Numerals
import Scim.Proofs.Json.StringLiteral
import Scim.Proofs.Lowering.Chains
import Scim.Proofs.Lowering.Coherence
import Scim.Proofs.Lowering.Congruence
import Scim.Proofs.Lowering.Faults
import Scim.Proofs.Lowering.Leaves
import Scim.Proofs.Lowering.Literals
import Scim.Proofs.Lowering.Matching
import Scim.Proofs.Lowering.Meaning
import Scim.Proofs.Lowering.Outline
import Scim.Proofs.Lowering.Plan
import Scim.Proofs.Lowering.Prefixing
import Scim.Proofs.Lowering.Preservation
import Scim.Proofs.Lowering.Rearrangement
import Scim.Proofs.Lowering.Reference
import Scim.Proofs.Lowering.Resolution
import Scim.Proofs.Lowering.Scoping
import Scim.Proofs.Lowering.Typing
import Scim.Proofs.Outcome
import Scim.Proofs.Registry.Loading
import Scim.Proofs.Registry.Lookup
import Scim.Proofs.Search
import Scim.Proofs.Service.Search
import Scim.Proofs.Store.Admission
import Scim.Proofs.Store.Agreement
import Scim.Proofs.Store.Cursor
import Scim.Proofs.Store.GlobalUniqueness
import Scim.Proofs.Store.History
import Scim.Proofs.Store.Identity
import Scim.Proofs.Store.Retrieval
import Scim.Proofs.Store.Uniqueness
import Scim.Proofs.Store.Writes
import Scim.Proofs.Text.Admission
import Scim.Proofs.Text.Casing
import Scim.Proofs.Text.Code
import Scim.Proofs.Text.Decomposed
import Scim.Proofs.Text.Index
import Scim.Proofs.Text.Lowercase
import Scim.Proofs.Text.NormalForm
import Scim.Proofs.Text.Number
import Scim.Proofs.Text.Pattern
import Scim.Proofs.Text.Refolding
import Scim.Proofs.Validation.Attribution
import Scim.Proofs.Validation.Completion
import Scim.Proofs.Validation.Conformance
import Scim.Proofs.Validation.Immutable
import Scim.Proofs.Validation.Independence
import Scim.Proofs.Validation.Mutability
import Scim.Proofs.Validation.Ordering
import Scim.Proofs.Validation.Origin
import Scim.Proofs.Validation.Paths
import Scim.Proofs.Validation.ReadOnly
import Scim.Proofs.Validation.Reduction
import Scim.Proofs.Validation.Remainder
import Scim.Proofs.Validation.Required
import Scim.Proofs.Validation.Resubmission
import Scim.Proofs.Validation.Rounds
import Scim.Proofs.Validation.Screening
import Scim.Proofs.Validation.Separation
import Scim.Proofs.Validation.SubAttributes
import Scim.Proofs.Validation.Trimming
import Scim.Proofs.Validation.Types
import Scim.Proofs.Value.Part
import Scim.Proofs.Value.Rearrangement
import Scim.Proofs.Value.Sameness
import Scim.Proofs.Value.Trimming
import Scim.Registry
import Scim.Registry.Source
import Scim.Resolution
import Scim.ResourceType
import Scim.ResourceType.Document
import Scim.SchemaUri
import Scim.Search
import Scim.Service
import Scim.Standard.Group
import Scim.Standard.User
import Scim.Store
import Scim.Store.Reserved
import Scim.Text.Assigned
import Scim.Text.Base64
import Scim.Text.Blank
import Scim.Text.CombiningClass
import Scim.Text.Composition
import Scim.Text.Decomposition
import Scim.Text.Digit
import Scim.Text.Ignorable
import Scim.Text.Joining
import Scim.Text.Lowercase
import Scim.Text.NormalForm
import Scim.Text.Number
import Scim.Text.Opaque
import Scim.Text.Pattern
import Scim.Text.Pieces
import Scim.Text.Quoted
import Scim.Text.Ranges
import Scim.Text.Script
import Scim.Text.Word
import Scim.Uniqueness
import Scim.Validation
import Scim.Validation.Conformance
import Scim.Validation.Mutability
import Scim.Validation.Required
import Scim.Validation.Submission
import Scim.Value
import Scim.Value.Display
import Scim.Value.Members
