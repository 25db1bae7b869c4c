/-!
# Refused settings

What validation finds wrong with settings, in the words in which it is reported.
-/

namespace EventOutbox.Settings

/-- What is wrong with settings. -/
inductive Problem where
  /-- A required value is blank; the variable that sets it is named. -/
  | missing (variable_ : String)
  | databaseUrl
  | streamUrl
  | poolTooSmall
  | poolTooLarge
  | acquireTimeout
  | batchSize
  | pollInterval
  | maxAttempts
  | logFilter (reason : String)
  /-- The log filter cannot be checked to its end, and no report is given. -/
  | logFilterFault
deriving DecidableEq, Repr

/-- The wording of a problem. -/
def Problem.message : Problem → String
  | .missing variable_ => s!"Required configuration missing: {variable_}"
  | .databaseUrl => "Invalid database URL format"
  | .streamUrl => "Invalid Redis URL format"
  | .poolTooSmall =>
    "Pool needs at least 2 connections: the dispatcher holds one while units of work commit"
  | .poolTooLarge => "Pool size exceeds maximum allowed (100)"
  | .acquireTimeout => "Database acquire timeout must be positive"
  | .batchSize => "Dispatcher batch size must be between 1 and 1000"
  | .pollInterval => "Dispatcher poll interval must be positive"
  | .maxAttempts => "Dispatcher max_attempts must be positive when set"
  | .logFilter reason => s!"Invalid log filter: {reason}"
  | .logFilterFault => "The log filter cannot be checked"

end EventOutbox.Settings
