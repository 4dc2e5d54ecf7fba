import ThreatGraph.Table
import ThreatGraph.Word
import ThreatGraph.Text.Cut
import ThreatGraph.Text.Blank
import ThreatGraph.Text.Lowercase
import ThreatGraph.Binary64.Layout
import ThreatGraph.Binary64.Numeral
import ThreatGraph.Json.Reader
import ThreatGraph.Json.Printer
import ThreatGraph.Timestamp
import ThreatGraph.Graph.Reference
import ThreatGraph.Graph.Draft
import ThreatGraph.ValueType.Inference
import ThreatGraph.ValueType.Literal
import ThreatGraph.Stix.Identifier
import ThreatGraph.Stix.Bundle
import ThreatGraph.Mapping.Defect
import ThreatGraph.Mapping.Encoding
import ThreatGraph.Mapping.Loading
import ThreatGraph.Mapping.Lookup
import ThreatGraph.Mapping.Builtin
import ThreatGraph.Loading.Script
import ThreatGraph.Toml.Printer
import ThreatGraph.Toml.Reader
import ThreatGraph.Settings.File
import ThreatGraph.Mapping.Directory
import ThreatGraph.Host.FileSystem
import ThreatGraph.Cli.Commands
import ThreatGraph.Main
import ThreatGraph.Proofs.Naming
import ThreatGraph.Proofs.Renaming
import ThreatGraph.Proofs.Edits
import ThreatGraph.Proofs.Success
import ThreatGraph.Proofs.Attachment
import ThreatGraph.Proofs.Scope
import ThreatGraph.Proofs.Strictness
import ThreatGraph.Proofs.Gap
import ThreatGraph.Proofs.Omission
import ThreatGraph.Proofs.Remainder
import ThreatGraph.Proofs.Trace
import ThreatGraph.Proofs.Settlement
import ThreatGraph.Proofs.Construction
import ThreatGraph.Proofs.Wording
import ThreatGraph.Proofs.Quoting
import ThreatGraph.Proofs.Legibility
import ThreatGraph.Proofs.Consistency
import ThreatGraph.Proofs.Vocabulary
import ThreatGraph.Proofs.Literals
import ThreatGraph.Proofs.Containment
import ThreatGraph.Proofs.Precedence
import ThreatGraph.Proofs.Failure
import ThreatGraph.Proofs.Acceptance
import ThreatGraph.Proofs.Batching
import ThreatGraph.Proofs.Writability
import ThreatGraph.Proofs.Tables
import ThreatGraph.Proofs.Agreement
import ThreatGraph.Proofs.Verdict
import ThreatGraph.Proofs.Likeness
import ThreatGraph.Proofs.Reordering
import ThreatGraph.Proofs.Conservation
import ThreatGraph.Proofs.Entries
import ThreatGraph.Proofs.Resolution
import ThreatGraph.Proofs.RolePairs
import ThreatGraph.Proofs.Inference
import ThreatGraph.Proofs.Tags
import ThreatGraph.Proofs.Digits
import ThreatGraph.Proofs.Datetimes
import ThreatGraph.Proofs.Transcript
import ThreatGraph.Proofs.Effects
import ThreatGraph.Proofs.HelperTree
import ThreatGraph.Proofs.Processing
import ThreatGraph.Proofs.Filing
import ThreatGraph.Proofs.RolePlayers
import ThreatGraph.Proofs.Mentions
import ThreatGraph.Proofs.Rereading
import ThreatGraph.Proofs.Pairs
import ThreatGraph.Proofs.BuiltinMapping
import ThreatGraph.Proofs.Endpoints
import ThreatGraph.Proofs.Recognition
import ThreatGraph.Proofs.RelationshipTypes
import ThreatGraph.Proofs.ExtensionChoice
import ThreatGraph.Proofs.Adoption
import ThreatGraph.Proofs.Bundles
import ThreatGraph.Proofs.Exactness
import ThreatGraph.Proofs.Assembling
import ThreatGraph.Proofs.Blame
import ThreatGraph.Proofs.Nesting
import ThreatGraph.Proofs.Equality
import ThreatGraph.Proofs.Multimaps
import ThreatGraph.Proofs.Pieces
import ThreatGraph.Proofs.Diagnostics
import ThreatGraph.Proofs.Initialization
import ThreatGraph.Proofs.Requoting
import ThreatGraph.Proofs.Sections
import ThreatGraph.Proofs.Directories
import ThreatGraph.Proofs.Persistence
