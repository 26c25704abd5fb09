import Liveboard.Text.Blank
import Liveboard.Wire.Scalar

/-!
# Reporting periods

Usage is reported for one of four periods that end now. A period is
written by its short name, on the command line and in settings, in
requests and in answers. Where a person writes it, white space around the
name does no harm (`Period.parse`); in an answer the name must be exact
(`Period.ofJson`).
-/

namespace Liveboard

/-- **A reporting period.** -/
inductive Period where
  /-- The last day. -/
  | last24Hours
  /-- The last week. -/
  | last7Days
  /-- The last month. -/
  | last30Days
  /-- The last quarter. -/
  | last90Days
  deriving DecidableEq, Repr, Inhabited

namespace Period

/-- The period that is used where none is named. -/
def standard : Period := .last30Days

/-- The name of a period. -/
def name : Period → String
  | .last24Hours => "24h"
  | .last7Days => "7d"
  | .last30Days => "30d"
  | .last90Days => "90d"

/-- The long name of a period, for diagnostics. -/
def longName : Period → String
  | .last24Hours => "Last24Hours"
  | .last7Days => "Last7Days"
  | .last30Days => "Last30Days"
  | .last90Days => "Last90Days"

/-- All periods, the shortest first. -/
def all : List Period := [.last24Hours, .last7Days, .last30Days, .last90Days]

/-- The periods by name. -/
def named : List (String × Period) := all.map fun p => (p.name, p)

/-- A text that names no period. -/
structure Unknown where
  /-- The text as it was given. -/
  text : String

/-- The wording of the complaint; it shows the text as it was given. -/
def Unknown.message (u : Unknown) : String :=
  s!"Unsupported period '{u.text}' (expected one of 24h, 7d, 30d, 90d)"

/-- **The period of a text.** White space around the name is ignored. -/
def parse (s : String) : Except Unknown Period :=
  match all.find? (·.name = Blank.trim s) with
  | some p => .ok p
  | none => .error ⟨s⟩

/-- The period of a JSON value. -/
def ofJson : Json → Except Fault Period :=
  Scalar.variant named

end Period

end Liveboard
