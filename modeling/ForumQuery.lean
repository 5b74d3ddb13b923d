import ForumQuery.CommandLine.Run
import ForumQuery.DateRange
import ForumQuery.Main
import ForumQuery.Proofs.Calendar.Bounds
import ForumQuery.Proofs.Calendar.Days
import ForumQuery.Proofs.Calendar.Numbers
import ForumQuery.Proofs.Calendar.Reading
import ForumQuery.Proofs.Calendar.Tiling
import ForumQuery.Proofs.Calendar.Timestamps
import ForumQuery.Proofs.Resolution.Composition
import ForumQuery.Proofs.Resolution.Questions
import ForumQuery.Proofs.Resolution.Shared
import ForumQuery.Proofs.Token.Covering
import ForumQuery.Proofs.Token.Pieces
import ForumQuery.Proofs.Token.Shape
import ForumQuery.Proofs.Writing.ReadBack
import ForumQuery.Query
import ForumQuery.Settings.Source
import ForumQuery.Proofs.Extraction.Blocks
import ForumQuery.Proofs.Extraction.Quoted
import ForumQuery.Proofs.Terms.Splitting
import ForumQuery.Proofs.Resolution.Places
import ForumQuery.Proofs.Text.Dealing
import ForumQuery.Proofs.Resolution.Provenance
import ForumQuery.Proofs.Resolution.Letters
import ForumQuery.Proofs.Settings.Loading
import ForumQuery.Proofs.CommandLine.Outcome
import ForumQuery.Proofs.CommandLine.Dates
import ForumQuery.Proofs.Json.Unambiguous
import ForumQuery.Proofs.Json.Records
import ForumQuery.Proofs.Toml.Scalars
import ForumQuery.Proofs.Toml.Fields
import ForumQuery.Proofs.Settings.Writing
import ForumQuery.Proofs.Settings.Declaring
import ForumQuery.Proofs.Settings.Straying
import ForumQuery.Proofs.Settings.RoundTrip
import ForumQuery.Proofs.Extraction.Rules
import ForumQuery.Proofs.Extraction.NormalForm
import ForumQuery.Proofs.Terms.Tags
import ForumQuery.Proofs.Terms.Partition
import ForumQuery.Proofs.Interleaving
import ForumQuery.Proofs.Extraction.Dashes
import ForumQuery.Proofs.Resolution.Dropping
import ForumQuery.Proofs.Terms.Stability
import ForumQuery.Proofs.Calendar.Recognition
import ForumQuery.Proofs.Resolution.Agreement
import ForumQuery.Proofs.CommandLine.Validity
import ForumQuery.Proofs.CommandLine.Lines
import ForumQuery.Proofs.Text.Boundaries
import ForumQuery.Proofs.Token.Offsets
import ForumQuery.Proofs.Token.Slices
import ForumQuery.Proofs.Slices
