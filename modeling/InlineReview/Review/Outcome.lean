import InlineReview.Review.Comment
import InlineReview.Settings

/-!
# How a review ends

A review ends with comments, or without any issue, or without any file to lint.  Only the last
two are summarised on the commit, and so is a review that failed.
-/

namespace InlineReview

/-- What is published about a whole run. -/
structure Summary where
  title : String
  summary : String
  text : String
  deriving DecidableEq, Repr

namespace Summary

/-- There was nothing to lint. -/
def noFiles : Summary where
  title := Settings.defaultCheckName
  summary := "No files changed"
  text := "No JS/TS files to lint. ✅"

/-- Nothing was found. -/
def noIssues : Summary where
  title := Settings.defaultCheckName
  summary := "No ESLint issues found 🎉"
  text := "Great job! No problems detected."

/-- The run failed with an error. -/
def failed (error : String) : Summary where
  title := Settings.defaultCheckName
  summary := "Action failed ❌"
  text := error

end Summary

/-- How a review ends. -/
inductive Outcome where
  | noFilesChanged
  | issuesFound (comments : List InlineComment)
  | noIssuesFound
  deriving DecidableEq, Repr

namespace Outcome

/-- The name of an outcome. -/
def status : Outcome → String
  | .noFilesChanged => "no_files_changed"
  | .issuesFound _ => "issues_found"
  | .noIssuesFound => "no_issues_found"

/-- The comments of a review. -/
def comments : Outcome → List InlineComment
  | .issuesFound comments => comments
  | _ => []

/-- What is published about a review. -/
def summary? : Outcome → Option Summary
  | .noFilesChanged => some .noFiles
  | .issuesFound _ => none
  | .noIssuesFound => some .noIssues

end Outcome

end InlineReview
