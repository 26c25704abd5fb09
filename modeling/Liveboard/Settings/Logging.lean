import Liveboard.Settings.Basic
import Liveboard.Settings.Filter

/-!
# Setting up the log

The log is set up once for a whole process. To set it up again fails, but only
after its filter has been read, so that a filter which is none is reported
either way. What a filter is can be said by others (`LogSetup.install`).
-/

namespace Liveboard

/-- **How the log is to be set up.** -/
inductive LogSetup where
  /-- As JSON lines, with the filter of the environment. -/
  | json
  /-- For the eye, with the filter of the environment. -/
  | console
  /-- As the settings say. -/
  | settings (log : LogSettings)

/-- **Why the log cannot be set up.** -/
inductive LogFault where
  /-- The filter is none. -/
  | badFilter (level : String)
  /-- It is set up already. -/
  | alreadyInstalled
  deriving DecidableEq, Repr

/-- The wording of a fault. -/
def LogFault.message : LogFault → String
  | .badFilter level => s!"Invalid log level: {level}"
  | .alreadyInstalled => "A global tracing subscriber is already installed"

namespace LogSetup

/-- The filter that is read from the settings. -/
def filter? : LogSetup → Option String
  | .settings log => some log.level
  | _ => none

/-- **The attempt to set up the log.** `installed` tells whether it is set
up already, and `isFilter` what a filter is. -/
def install (setup : LogSetup) (installed : Bool)
    (isFilter : String → Bool := LogFilter.isPlain) : Except LogFault Unit :=
  match setup.filter?.filter (!isFilter ·) with
  | some level => .error (.badFilter level)
  | none => if installed then .error .alreadyInstalled else .ok ()

end LogSetup

end Liveboard
