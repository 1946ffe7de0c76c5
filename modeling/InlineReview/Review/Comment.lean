import InlineReview.Json.Display
import InlineReview.Suggestion.Answer

/-!
# Inline comments

The body of a comment: what the linter says, with a link to the rule if one is named, and then
the suggested code in a fenced block with its explanation.
-/

namespace InlineReview

/-- A comment at a place of a file's patch. -/
structure InlineComment where
  path : String
  position : Nat
  body : String
  deriving DecidableEq, Repr

namespace InlineComment

/-- Where the rules are documented. -/
def ruleDocs : String := "https://eslint.org/docs/latest/rules/"

/-- What the linter says. -/
def header (message rule : Json) : String :=
  if rule.isGiven then
    let name := rule.text
    s!"**ESLint [{name}]({ruleDocs}{name})**: {message.text}\n\n"
  else s!"**ESLint**: {message.text}\n\n"

/-- The suggested code and its explanation. -/
def advice (s : Suggestion) : String :=
  "💡 **AI Suggestion:**\n" ++ s!"\n```js\n{s.code}\n```\n\n📌 {s.explanation}\n"

/-- The body of a comment. -/
def bodyOf (message rule : Json) (suggestion : Option Suggestion) : String :=
  match suggestion with
  | none => header message rule
  | some s => header message rule ++ advice s

end InlineComment

end InlineReview
