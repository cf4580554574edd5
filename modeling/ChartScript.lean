import ChartScript.Chart.Index
import ChartScript.Main
import ChartScript.Proofs.AxesPart
import ChartScript.Proofs.Emission
import ChartScript.Proofs.FaithfulNumbers
import ChartScript.Proofs.IndexAnswers
import ChartScript.Proofs.SafeNames
import ChartScript.Proofs.Warnings
import ChartScript.Proofs.Mirror
import ChartScript.Proofs.PlainScript
import ChartScript.Proofs.Recording
import ChartScript.Proofs.Recovery
import ChartScript.Proofs.ScopedScript
import ChartScript.Proofs.Shapes
import ChartScript.Proofs.Siblings
import ChartScript.Proofs.Stages
import ChartScript.Proofs.Variation
import ChartScript.Proofs.Addressed
import ChartScript.Proofs.Opened
import ChartScript.Proofs.KeyOrder
import ChartScript.Proofs.CommandOutcome
import ChartScript.Proofs.WholeNumbers
import ChartScript.Proofs.Places
import ChartScript.Proofs.ClosedFields
import ChartScript.Proofs.Defaults
import ChartScript.Proofs.Overrides
import ChartScript.Proofs.Duplicates
import ChartScript.Proofs.PlacedAgain
import ChartScript.Proofs.ListOrder
import ChartScript.Proofs.ReportJson
import ChartScript.Proofs.Indentation
import ChartScript.Proofs.NestedEvents
import ChartScript.Proofs.PlaceText
import ChartScript.Proofs.ReportLines
import ChartScript.Proofs.QuotedText
import ChartScript.Proofs.RowByRow
