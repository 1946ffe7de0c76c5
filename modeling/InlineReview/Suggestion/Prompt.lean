/-!
# The question put to the model

A prompt shows the linter's message and the code around the line, and asks for one suggestion as
a JSON object.
-/

namespace InlineReview

/-- The question about a message and the code that it is about. -/
def prompt (message code : String) : String :=
  String.intercalate "\n" [
    "Here is a JavaScript/TypeScript ESLint error message and a code snippet.",
    "Please suggest 1 alternative code snippet that fixes the issue.",
    "Include a brief explanation including 2 or 3 sentences.",
    "",
    "Respond ONLY in raw JSON. Do NOT use Markdown or backticks.",
    "Wrap all code and text in valid JSON strings using double quotes.",
    "",
    "**ESLint Error:**",
    message,
    "",
    "**Original Code:**",
    code,
    "",
    "**Expected JSON Response Format:**",
    "\x7b",
    "  \x22suggestions\x22: [",
    "    \x7b",
    "      \x22code\x22: \x22<alternative code snippet>\x22,",
    "      \x22explanation\x22: \x22<brief explanation of why this is a better approach>\x22",
    "    \x7d",
    "  ]",
    "\x7d"]

end InlineReview
