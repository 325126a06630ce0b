import PatchSurvey.Log.Session
import PatchSurvey.Report.Record
import PatchSurvey.Report.Summary
import PatchSurvey.Service
import PatchSurvey.Proofs.Analysis.Agreement
import PatchSurvey.Proofs.Analysis.Aliases
import PatchSurvey.Proofs.Analysis.Identity
import PatchSurvey.Proofs.Analysis.LineEndings
import PatchSurvey.Proofs.Analysis.Mail
import PatchSurvey.Proofs.Diff.Context
import PatchSurvey.Proofs.Hunk.BothSides
import PatchSurvey.Proofs.Hunk.Segment
import PatchSurvey.Proofs.Report.ClosingTags
import PatchSurvey.Proofs.Report.RoundTrip
import PatchSurvey.Proofs.Report.Unambiguous
import PatchSurvey.Proofs.ChangeSet.BoundaryLine
import PatchSurvey.Proofs.ChangeSet.RoundTrip
import PatchSurvey.Proofs.Signal.Branches
import PatchSurvey.Proofs.Signal.Comments
import PatchSurvey.Proofs.Signal.ExclusiveForms
import PatchSurvey.Proofs.Signal.TypeParameters
import PatchSurvey.Proofs.Pattern.Seam
import PatchSurvey.Proofs.Signal.Continued
import PatchSurvey.Proofs.Pattern.Indentation
import PatchSurvey.Proofs.Pattern.Trailing
import PatchSurvey.Proofs.Signal.Indentation
import PatchSurvey.Proofs.Signal.JavaThrows
import PatchSurvey.Proofs.Signal.Trimmed
import PatchSurvey.Proofs.Signal.TestHeaders
import PatchSurvey.Proofs.Path.Directories
import PatchSurvey.Proofs.Settings.Validity
import PatchSurvey.Proofs.Log.Session
