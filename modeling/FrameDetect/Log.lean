/-!
# Log lines

What the program tells its operator while it runs.
-/

namespace FrameDetect

/-- How urgent a log line is. -/
inductive Level where
  | info
  | warn
  | error
deriving Repr, DecidableEq

/-- The level as it is written. -/
def Level.name : Level → String
  | .info => "INFO"
  | .warn => "WARN"
  | .error => "ERROR"

/-- A computation that can write log lines. -/
class MonadLog (m : Type → Type) where
  log : Level → String → m Unit

export MonadLog (log)

instance {m n : Type → Type} [MonadLift m n] [MonadLog m] : MonadLog n where
  log level text := monadLift (log level text : m Unit)

/-- A line that reports progress. -/
def logInfo {m : Type → Type} [MonadLog m] (text : String) : m Unit := log .info text

/-- A line that reports something unexpected. -/
def logWarn {m : Type → Type} [MonadLog m] (text : String) : m Unit := log .warn text

/-- A line that reports a failure. -/
def logError {m : Type → Type} [MonadLog m] (text : String) : m Unit := log .error text

end FrameDetect
