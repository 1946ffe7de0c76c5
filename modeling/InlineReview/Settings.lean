import InlineReview.Decimal.Reading
import InlineReview.Path
import InlineReview.Text.Search
import InlineReview.Web.Address

/-!
# Settings

The settings of a run come from an environment of named texts.  A blank value counts as absent
and blanks around a value do not count.  Four values must be given; the others have defaults.
-/

namespace InlineReview

open Text

/-- Named texts. -/
abbrev Environment := List (String × String)

/-- The settings of a run. -/
structure Settings where
  hostToken : String
  modelKey : String
  repository : String
  eventPath : Path
  workspace : Path
  hostAddress : WebAddress
  modelAddress : WebAddress
  modelName : String
  extensions : List String
  linter : String
  linterConfig : String
  linterDirectory : Option Path
  reportPath : Option Path
  timeout : Double
  postLintOnly : Bool
  checkName : String
  deriving DecidableEq, Repr

/-- Why an environment gives no settings. -/
inductive SettingsFault where
  | missing (names : List String)
  | badRepository (value : String)
  | badTimeout
  | invalid
  deriving DecidableEq, Repr

/-- The wording of a fault. -/
def SettingsFault.message : SettingsFault → String
  | .missing names =>
    let listed := String.intercalate ", " names
    s!"Lint review is not configured. Missing environment variables: {listed}."
  | .badRepository value =>
    s!"Invalid GITHUB_REPOSITORY value '{value}'. Expected 'owner/repo'."
  | .badTimeout => "Invalid value for INPUT_REQUEST_TIMEOUT. It must be a number."
  | .invalid => "Invalid action configuration."

namespace Settings

/-! ## Defaults -/

/-- The title of every summary, and the name of the check run unless another one is set. -/
def defaultCheckName : String := "ESLint Gemini Suggestions"

/-- The extensions of source files. -/
def defaultExtensions : List String := [".js", ".ts"]

/-- The code host's address. -/
def defaultHostAddress : String := "https://api.github.com"

/-- The model's address. -/
def defaultModelAddress : String := "https://generativelanguage.googleapis.com/v1beta"

/-- The model's name. -/
def defaultModelName : String := "gemini-2.0-flash"

/-- The linter's program. -/
def defaultLinter : String := "./node_modules/.bin/eslint"

/-- The linter's configuration. -/
def defaultLinterConfig : String := ".eslintrc.json"

/-- The deadline of a request in seconds: thirty. -/
def defaultTimeout : Double := Double.ofRatio false 30 1

/-- The names of all values that are read. -/
def variableNames : List String :=
  ["INPUT_GITHUB_TOKEN", "GITHUB_TOKEN", "INPUT_GEMINI_API_KEY", "GEMINI_API_KEY",
    "GITHUB_REPOSITORY", "GITHUB_EVENT_PATH", "GITHUB_WORKSPACE", "GITHUB_API_URL",
    "GEMINI_API_BASE_URL", "INPUT_GEMINI_MODEL", "INPUT_FILE_EXTENSIONS", "INPUT_ESLINT_BIN",
    "INPUT_ESLINT_CONFIG", "INPUT_ESLINT_CWD", "INPUT_REQUEST_TIMEOUT",
    "INPUT_POST_LINT_ONLY_COMMENTS"]

/-! ## Reading single values -/

/-- The value of a name without the blanks around it, if it is not blank. -/
def given? (env : Environment) (name : String) : Option String :=
  (Assoc.get? name env).bind fun value =>
    let value := trim value
    if value = "" then none else some value

/-- The first value given among several names. -/
def firstGiven? (env : Environment) (names : List String) : Option String :=
  names.findSome? (given? env)

/-- The texts that switch something on, in any case of letters. -/
def affirmations : List String := ["1", "true", "yes", "on"]

/-- Does a value switch something on?  One that is absent or blank leaves it as it is by default. -/
def isAffirmed (default : Bool) (value : Option String) : Bool :=
  match value with
  | none => default
  | some s =>
    if allBlank s then default
    else affirmations.contains (String.ofList ((trimL s.toList).map lowerAscii))

/-- One extension of a list, with its dot; none if it is blank. -/
def extensionOf? (item : List Char) : Option String :=
  match trimL item with
  | [] => none
  | '.' :: r => some (String.ofList ('.' :: r))
  | s => some (String.ofList ('.' :: s))

/-- The extensions of a list between commas. -/
def extensionsOf (value : Option String) : List String :=
  match value with
  | none => defaultExtensions
  | some s =>
    if allBlank s then defaultExtensions
    else
      let found := (pieces ',' s.toList).filterMap extensionOf?
      if found.isEmpty then defaultExtensions else found

/-- Is this a repository with an owner: two parts with one slash between them? -/
def isRepository (value : String) : Bool :=
  match pieces '/' value.toList with
  | [owner, name] => ! owner.isEmpty && ! name.isEmpty
  | _ => false

/-! ## Reading an environment -/

/-- The values that must be given. -/
structure Required where
  hostToken : String
  modelKey : String
  repository : String
  eventPath : String
  deriving DecidableEq, Repr

/-- The values that must be given, or the names of those that are not. -/
def required (env : Environment) : Except (List String) Required :=
  let hostToken := firstGiven? env ["INPUT_GITHUB_TOKEN", "GITHUB_TOKEN"]
  let modelKey := firstGiven? env ["INPUT_GEMINI_API_KEY", "GEMINI_API_KEY"]
  let repository := given? env "GITHUB_REPOSITORY"
  let eventPath := given? env "GITHUB_EVENT_PATH"
  match hostToken, modelKey, repository, eventPath with
  | some hostToken, some modelKey, some repository, some eventPath =>
    .ok { hostToken, modelKey, repository, eventPath }
  | _, _, _, _ =>
    let missing (name : String) (value : Option String) : List String :=
      if value.isSome then [] else [name]
    .error (missing "INPUT_GITHUB_TOKEN" hostToken ++ missing "INPUT_GEMINI_API_KEY" modelKey ++
      missing "GITHUB_REPOSITORY" repository ++ missing "GITHUB_EVENT_PATH" eventPath)

/-- The deadline that an environment sets. -/
def timeoutOf (env : Environment) : Except SettingsFault Double :=
  match given? env "INPUT_REQUEST_TIMEOUT" with
  | none => .ok defaultTimeout
  | some value =>
    match Double.read? value with
    | none => .error .badTimeout
    | some timeout => .ok timeout

/-- The settings that an environment gives, for a program that runs in the root directory. -/
def ofEnvironment (env : Environment) : Except SettingsFault Settings := do
  let r ← (required env).mapError .missing
  if ! isRepository r.repository then throw (.badRepository r.repository)
  let timeout ← timeoutOf env
  let address (name default : String) := WebAddress.read? ((given? env name).getD default)
  match address "GITHUB_API_URL" defaultHostAddress,
      address "GEMINI_API_BASE_URL" defaultModelAddress, timeout.isPositive with
  | some hostAddress, some modelAddress, true =>
    pure {
      hostToken := r.hostToken
      modelKey := r.modelKey
      repository := r.repository
      eventPath := Path.ofText r.eventPath
      workspace := Path.ofText ((given? env "GITHUB_WORKSPACE").getD "/")
      hostAddress
      modelAddress
      modelName := (given? env "INPUT_GEMINI_MODEL").getD defaultModelName
      extensions := extensionsOf (Assoc.get? "INPUT_FILE_EXTENSIONS" env)
      linter := (given? env "INPUT_ESLINT_BIN").getD defaultLinter
      linterConfig := (given? env "INPUT_ESLINT_CONFIG").getD defaultLinterConfig
      linterDirectory := (given? env "INPUT_ESLINT_CWD").map Path.ofText
      reportPath := none
      timeout
      postLintOnly := isAffirmed false (Assoc.get? "INPUT_POST_LINT_ONLY_COMMENTS" env)
      checkName := defaultCheckName }
  | _, _, _ => throw .invalid

/-! ## What follows from the settings -/

/-- The address of the code host without slashes at its end. -/
def hostBase (s : Settings) : String := String.ofList (dropTrailing '/' s.hostAddress.text.toList)

/-- The address of the model without slashes at its end. -/
def modelBase (s : Settings) : String :=
  String.ofList (dropTrailing '/' s.modelAddress.text.toList)

/-- Where the linter runs. -/
def linterPlace (s : Settings) : Path :=
  s.linterDirectory.getD (s.workspace.join (Path.ofText "action"))

/-- Where the linter leaves its report. -/
def reportPlace (s : Settings) : Path :=
  s.reportPath.getD (s.workspace.join (Path.ofText "eslint-report.json"))

end Settings

end InlineReview
