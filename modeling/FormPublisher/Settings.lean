import FormPublisher.Publish.Publisher
import FormPublisher.Text.Case

/-!
# Settings

The settings of the program and how they are read from environment variables.  A variable that is
not set leaves its setting at its default.  The time to wait is the only one that can be wrong.
-/

namespace FormPublisher

/-- The settings of the program. -/
structure Settings where
  mode : String := "development"
  logLevel : String := "INFO"
  apiKey : Value := .null
  apiUrl : String := defaultApiUrl
  timeout : Value := defaultTimeout
  abortOnFailure : Bool := false
  allowOrigin : String := "*"
  deriving Repr, Inhabited

namespace Settings

/-- The settings under an environment. -/
def ofEnvironment (env : String → Option String) : Except LiteralError Settings := do
  let timeout ← (env "JOTFORM_TIMEOUT").mapM fun s => integerIn 10 s.toList
  return {
    mode := (env "FLASK_ENV").getD "development"
    logLevel := Text.toUpper ((env "LOG_LEVEL").getD "INFO")
    apiKey := Value.ofText? (env "JOTFORM_API_KEY")
    apiUrl := (env "JOTFORM_API_URL").getD defaultApiUrl
    timeout := (timeout.map .int).getD defaultTimeout
    abortOnFailure :=
      Text.toLower ((env "QUESTION_UPDATES_ABORT_ON_FAILURE").getD "False") == "true"
    allowOrigin := (env "CORS_ALLOW_ORIGIN").getD "*" }

/-- The publisher that works under settings. -/
def publisher (s : Settings) : Publisher where
  configuredKey := s.apiKey
  abortOnFailure := s.abortOnFailure
  apiUrl := s.apiUrl
  timeout := s.timeout

end Settings

end FormPublisher
