import SpillSelection.Analysis.Run
import SpillSelection.Catalog.Listing
import SpillSelection.Category
import SpillSelection.Command.Execution
import SpillSelection.Config
import SpillSelection.Config.Load
import SpillSelection.Digest
import SpillSelection.Exposure
import SpillSelection.Files.Tree
import SpillSelection.Json.Decode
import SpillSelection.Json.Printer
import SpillSelection.Main
import SpillSelection.Manifest
import SpillSelection.Records.Summary
import SpillSelection.Registry
import SpillSelection.Spill.Decode
import SpillSelection.Spill.Encode
import SpillSelection.Spill.Energy
import SpillSelection.Standard.Catalog
import SpillSelection.Table
import SpillSelection.Text.Blank
import SpillSelection.Text.Lines
import SpillSelection.Toml.Document
import SpillSelection.Proofs.Outcome
import SpillSelection.Proofs.Resolution
import SpillSelection.Proofs.CutLists
import SpillSelection.Proofs.Requests
import SpillSelection.Proofs.RowSemantics
import SpillSelection.Proofs.CutSets
import SpillSelection.Proofs.TruthOnData
import SpillSelection.Proofs.Inversion
import SpillSelection.Proofs.MutualMatches
import SpillSelection.Proofs.Alignment
import SpillSelection.Proofs.Processing
import SpillSelection.Proofs.RunFiles
import SpillSelection.Proofs.TableNames
import SpillSelection.Proofs.TableText
import SpillSelection.Proofs.TableFiles
import SpillSelection.Proofs.ExposureRows
import SpillSelection.Proofs.JoinById
import SpillSelection.Proofs.Registration
import SpillSelection.Proofs.Slots
import SpillSelection.Proofs.JsonText
import SpillSelection.Proofs.Numerals
import SpillSelection.Proofs.FloatText
import SpillSelection.Proofs.FloatRange
import SpillSelection.Proofs.SpillCodec
import SpillSelection.Proofs.RecordLines
import SpillSelection.Proofs.RecordRoundTrip
import SpillSelection.Proofs.FailedRuns
import SpillSelection.Proofs.TableRows
import SpillSelection.Proofs.CatalogHistory
import SpillSelection.Proofs.RegistrationOrder
import SpillSelection.Proofs.Reduction
import SpillSelection.Proofs.CheckedRuns
import SpillSelection.Proofs.RecordFields
import SpillSelection.Proofs.JsonLayout
import SpillSelection.Proofs.WrittenFiles
import SpillSelection.Proofs.ManifestRoundTrip
import SpillSelection.Proofs.CheckedCuts
import SpillSelection.Proofs.TruthRows
import SpillSelection.Proofs.FloatOrder
import SpillSelection.Proofs.ClosestPair
import SpillSelection.Proofs.LeadingParticles
import SpillSelection.Proofs.Summaries
import SpillSelection.Proofs.ByteOrder
import SpillSelection.Proofs.RegistryHistory
import SpillSelection.Proofs.Listings
import SpillSelection.Proofs.WholeNumbers
import SpillSelection.Proofs.Categories
import SpillSelection.Proofs.ClosestFlash
import SpillSelection.Proofs.FinalStates
import SpillSelection.Proofs.PhotonThresholds
import SpillSelection.Proofs.TableLayout
