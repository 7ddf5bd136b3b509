import Intake.Plan.Compiler
import Intake.Plan.Inspect
import Intake.Plan.Sanitize
import Intake.Rule.Extra
import Intake.Schema.Reader
import Intake.Schema.Writer
import Intake.Types.Extra
import Intake.Proofs.Conformance
import Intake.Proofs.Idempotence
import Intake.Proofs.StructuredRules
import Intake.Proofs.TypeLists
import Intake.Proofs.Disclosures
import Intake.Proofs.OutputOrder
import Intake.Proofs.Defaults
import Intake.Proofs.SchemaRoundTrip
import Intake.Proofs.Quantities
import Intake.Proofs.Equivalence
import Intake.Proofs.DistinctElements
import Intake.Proofs.Annotations
import Intake.Proofs.Bounds
import Intake.Proofs.Multiples
import Intake.Proofs.Normalization
import Intake.Proofs.Decimals
import Intake.Proofs.CollectedTexts
import Intake.Proofs.ElementwiseArrays
import Intake.Proofs.WrittenValues
import Intake.Proofs.WrittenDates
import Intake.Proofs.SchemaGrammar
import Intake.Proofs.MailAddresses
import Intake.Proofs.ReadPatterns
