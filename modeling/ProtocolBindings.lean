import ProtocolBindings.Doc.Description
import ProtocolBindings.Main
import ProtocolBindings.Session
import ProtocolBindings.Files.Tree
import ProtocolBindings.Schema.Decode
import ProtocolBindings.Proofs.Doc.Docstring
import ProtocolBindings.Proofs.Naming.Characters
import ProtocolBindings.Proofs.Entries
import ProtocolBindings.Proofs.Results
import ProtocolBindings.Proofs.Source.Code
import ProtocolBindings.Proofs.Source.Accepted
import ProtocolBindings.Proofs.Schema.Build
import ProtocolBindings.Proofs.Schema.References
import ProtocolBindings.Proofs.Schema.WellFormed
import ProtocolBindings.Proofs.Source.Hints
import ProtocolBindings.Proofs.Source.Definitions
import ProtocolBindings.Proofs.Source.Documentation
import ProtocolBindings.Proofs.Config
import ProtocolBindings.Proofs.Source.Head
import ProtocolBindings.Proofs.Json.Quoted
import ProtocolBindings.Proofs.Json.RoundTrip
import ProtocolBindings.Proofs.Manifest
import ProtocolBindings.Proofs.Files.Place
import ProtocolBindings.Proofs.Files.Steps
import ProtocolBindings.Proofs.Files.Directories
import ProtocolBindings.Proofs.Generation.Names
import ProtocolBindings.Proofs.Generation.Changes
import ProtocolBindings.Proofs.Generation.Write
import ProtocolBindings.Proofs.Generation.History
import ProtocolBindings.Proofs.Generation.Reach
import ProtocolBindings.Proofs.Generation.Preparation
import ProtocolBindings.Proofs.Generation.Previous
import ProtocolBindings.Proofs.Generation.Record
import ProtocolBindings.Proofs.Schema.Escapes
import ProtocolBindings.Proofs.Schema.FirstError
import ProtocolBindings.Proofs.ProtocolFile
import ProtocolBindings.Proofs.Source.Links
import ProtocolBindings.Proofs.Source.Literals
import ProtocolBindings.Proofs.Source.Captures
import ProtocolBindings.Proofs.Source.Correspondence
import ProtocolBindings.Proofs.Source.Exports
import ProtocolBindings.Proofs.Source.Package
import ProtocolBindings.Proofs.Source.Selection
import ProtocolBindings.Proofs.Generation.Agreement
import ProtocolBindings.Proofs.Files.Interruption
import ProtocolBindings.Proofs.Interruption
import ProtocolBindings.Proofs.Files.Remaking
import ProtocolBindings.Proofs.Generation.Congruence
import ProtocolBindings.Proofs.Generation.Rerun
import ProtocolBindings.Proofs.Source.Rejected
import ProtocolBindings.Proofs.Generation.Repetition
import ProtocolBindings.Proofs.Generation.Refusal
import ProtocolBindings.Proofs.Schema.Fingerprint
import ProtocolBindings.Proofs.Files.Simulation
import ProtocolBindings.Proofs.Simulation
import ProtocolBindings.Proofs.Files.Observation
import ProtocolBindings.Proofs.Source.Version
import ProtocolBindings.Proofs.Generation.Version
import ProtocolBindings.Proofs.Files.Start
import ProtocolBindings.Proofs.Config.Nearest
import ProtocolBindings.Proofs.CommandLine.Runs
import ProtocolBindings.Proofs.CommandLine.Stages
import ProtocolBindings.Proofs.CommandLine.Simulation
import ProtocolBindings.Proofs.CommandLine.Start
import ProtocolBindings.Proofs.OnTree
import ProtocolBindings.Proofs.CommandLine.Escapes
import ProtocolBindings.Proofs.Files.NullCharacter
import ProtocolBindings.Proofs.Generation.Unlabelled
import ProtocolBindings.Proofs.Generation.Failures
import ProtocolBindings.Proofs.Config.Failures
import ProtocolBindings.Proofs.CommandLine.Arguments
import ProtocolBindings.Proofs.CommandLine.Loading
import ProtocolBindings.Proofs.CommandLine.Failures
import ProtocolBindings.Proofs.Schema.Agreement
import ProtocolBindings.Proofs.Doc.Reading
import ProtocolBindings.Proofs.Source.Lines
import ProtocolBindings.Proofs.Source.Header
import ProtocolBindings.Proofs.Source.Imports
import ProtocolBindings.Proofs.Source.Typing
import ProtocolBindings.Proofs.Source.Resolution
import ProtocolBindings.Proofs.Naming.Separation
import ProtocolBindings.Proofs.Naming.NormalForm
import ProtocolBindings.Proofs.Schema.ReferenceText
import ProtocolBindings.Proofs.Source.ImportNames
import ProtocolBindings.Proofs.GenerationError
import ProtocolBindings.Proofs.Source.Layers
import ProtocolBindings.Proofs.Source.Nodes
import ProtocolBindings.Proofs.Source.Returns
import ProtocolBindings.Proofs.Doc.Description
import ProtocolBindings.Proofs.Manifest.Comparison
import ProtocolBindings.Proofs.Config.Search
import ProtocolBindings.Proofs.CommandLine.Diagnostics
