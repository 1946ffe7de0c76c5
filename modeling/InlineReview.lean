import InlineReview.Main
import InlineReview.Proofs.Patch.DiffPositions
import InlineReview.Proofs.Patch.Cursor
import InlineReview.Proofs.Patch.HeaderLanguage
import InlineReview.Proofs.Patch.Numbering
import InlineReview.Proofs.Patch.Alike
import InlineReview.Proofs.Patch.Splitting
import InlineReview.Proofs.Path.Relative
import InlineReview.Proofs.Run.Outcome
import InlineReview.Proofs.Run.Traffic
import InlineReview.Proofs.Run.Calls
import InlineReview.Proofs.Run.Deeds
import InlineReview.Proofs.Run.Supervision
import InlineReview.Proofs.Run.Heeding
import InlineReview.Proofs.Remote.Requests
import InlineReview.Proofs.Suggestion.Asking
import InlineReview.Proofs.Review.Inputs
import InlineReview.Proofs.Review.Steps
import InlineReview.Proofs.Review.Findings
import InlineReview.Proofs.Review.Runs
import InlineReview.Proofs.Review.Comments
import InlineReview.Proofs.Review.Endings
import InlineReview.Proofs.Review.Attribution
import InlineReview.Proofs.Review.Cancellation
import InlineReview.Proofs.Review.ChangedFiles
import InlineReview.Proofs.Review.Published
import InlineReview.Proofs.Review.Isolation
import InlineReview.Proofs.Review.Escapes
import InlineReview.Proofs.Review.Excerpts
import InlineReview.Proofs.Suggestion.Blocks
import InlineReview.Proofs.Review.Listing
import InlineReview.Proofs.Lint.StaleReports
import InlineReview.Proofs.Lint.Reading
import InlineReview.Proofs.Lint.Noise
import InlineReview.Proofs.Review.Payloads
import InlineReview.Proofs.Review.Bodies
import InlineReview.Proofs.Review.Agreement
import InlineReview.Proofs.Review.Commits
import InlineReview.Proofs.Journal.Setups
import InlineReview.Proofs.Settings.Agreement
import InlineReview.Proofs.Settings.Timeouts
import InlineReview.Proofs.Suggestion.Languages
