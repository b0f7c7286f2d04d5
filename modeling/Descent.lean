import Descent.Grammar.Workbench
import Descent.Main
import Descent.Proofs.Discipline
import Descent.Proofs.LeftRecursion
import Descent.Proofs.Observation
import Descent.Proofs.Remainder
import Descent.Proofs.Settings.Concatenation
import Descent.Proofs.Settings.Failure
import Descent.Proofs.Survivors
import Descent.Proofs.Numeral
import Descent.Proofs.Settings.Listing
import Descent.Proofs.Simulation
import Descent.Proofs.Inlining
import Descent.Proofs.Restoration
import Descent.Proofs.Reports
import Descent.Proofs.Rejection
import Descent.Proofs.Settings.Repeats
import Descent.Proofs.Settings.LineBreaks
import Descent.Proofs.Check.Files
import Descent.Proofs.Check.Outcome
import Descent.Proofs.Handles
import Descent.Proofs.Regex.Anchoring
import Descent.Proofs.Repetition
import Descent.Proofs.Settings.Numbers
import Descent.Proofs.Turns
import Descent.Proofs.Optional
import Descent.Proofs.TextEnd
import Descent.Proofs.Nesting
import Descent.Proofs.Trace
import Descent.Proofs.Diagnosis
import Descent.Proofs.Cuts
import Descent.Proofs.Tokens
