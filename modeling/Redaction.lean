import Redaction.Main
import Redaction.Render.Messages
import Redaction.Render.Plain
import Redaction.Render.Time
import Redaction.Render.WellKnown
import Redaction.Log.Capture
import Redaction.Sample.Build
import Redaction.Sample.Messages
import Redaction.Proofs.PlainForms
import Redaction.Proofs.SampleMessages
import Redaction.Proofs.Readers
import Redaction.Proofs.Records
import Redaction.Proofs.Scalars
import Redaction.Proofs.Merging
import Redaction.Proofs.UndeclaredRecords
import Redaction.Proofs.RoundTrips
import Redaction.Proofs.Declarations
import Redaction.Proofs.SplitRules
import Redaction.Proofs.StrictMasks
import Redaction.Proofs.References
import Redaction.Proofs.FileOrder
import Redaction.Proofs.DeclarationSites
import Redaction.Proofs.WellFormedness
import Redaction.Proofs.Enumeration
import Redaction.Proofs.FieldEmission
import Redaction.Json.Reader
import Redaction.Proofs.ShortestDecimals
import Redaction.Proofs.JsonNumbers
import Redaction.Proofs.JsonDocuments
import Redaction.Proofs.OneofMembers
import Redaction.Proofs.ResolvedMasks
import Redaction.Proofs.EmittedLiterals
import Redaction.Proofs.OutputLines
import Redaction.Proofs.OutputNames
import Redaction.Proofs.MapObjects
import Redaction.Render.TimeReader
import Redaction.Proofs.Calendar
import Redaction.Proofs.Fractions
import Redaction.Proofs.Durations
import Redaction.Proofs.Timestamps
import Redaction.Proofs.Identifiers
import Redaction.Proofs.FieldMasks
import Redaction.Proofs.ExactValues
import Redaction.Proofs.IntegralDoubles
import Redaction.Proofs.DynamicDocuments
import Redaction.Proofs.OptionSteps
import Redaction.Proofs.CratePaths
