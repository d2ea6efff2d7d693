import Worksheet.Session.Run
import Worksheet.Proofs.Address.Spelling
import Worksheet.Proofs.Dependency.Readers
import Worksheet.Proofs.Dependency.Loop
import Worksheet.Proofs.Recalculation.Outcome
import Worksheet.Proofs.Recalculation.Recompute
import Worksheet.Proofs.Recalculation.Schedule
import Worksheet.Proofs.Recalculation.Settled
import Worksheet.Proofs.Recalculation.Soundness
import Worksheet.Proofs.Session.Quiet
import Worksheet.Proofs.Session.Invariant
import Worksheet.Proofs.Session.Status
import Worksheet.Proofs.Recalculation.Timely
import Worksheet.Proofs.Session.Completeness
import Worksheet.Proofs.Session.Coverage
import Worksheet.Proofs.Formula.Cut
import Worksheet.Proofs.Formula.Grammar
import Worksheet.Proofs.Formula.Recognition
import Worksheet.Proofs.Markup.Assembly
import Worksheet.Proofs.Markup.RoundTrip
import Worksheet.Proofs.Archive.RoundTrip
import Worksheet.Proofs.Archive.Acceptance
import Worksheet.Proofs.Session.Unheard
import Worksheet.Proofs.Session.Loading
import Worksheet.Proofs.Session.Timeline
import Worksheet.Proofs.Recalculation.Restored
import Worksheet.Proofs.Session.Reloading
import Worksheet.Proofs.Session.Rules
import Worksheet.Proofs.Session.Checking
import Worksheet.Proofs.Session.Mirror
import Worksheet.Proofs.Session.Reporting
import Worksheet.Proofs.Session.Replacing
import Worksheet.Proofs.Session.Saving
import Worksheet.Proofs.Dependency.Search
import Worksheet.Proofs.Session.Logging
import Worksheet.Proofs.Session.Guarding
import Worksheet.Proofs.Session.Literal
import Worksheet.Proofs.Formula.Operands
import Worksheet.Proofs.Formula.Tokens
import Worksheet.Proofs.Recalculation.Spread
import Worksheet.Proofs.Session.Sweeping
import Worksheet.Proofs.Recalculation.Levels
import Worksheet.Proofs.Session.Repair
import Worksheet.Proofs.Recalculation.Passes
import Worksheet.Proofs.Session.Convergence
import Worksheet.Proofs.Session.Obedience
import Worksheet.Proofs.Session.Undoing
import Worksheet.Proofs.Address.Keys
import Worksheet.Proofs.Session.Adding
import Worksheet.Proofs.Number.Rounding
import Worksheet.Proofs.Number.Decimals
import Worksheet.Proofs.Number.Texts
import Worksheet.Proofs.Number.Displays
import Worksheet.Proofs.Number.Seen
import Worksheet.Proofs.Formula.Seen
import Worksheet.Proofs.Formula.Ending
import Worksheet.Proofs.Formula.Dependence
