import TypeStubs.Fault
import TypeStubs.Value.Basic

/-!
# Readers of settings texts

Settings are written in a notation that comes with a reader of its own. A reader tells a text that
it does not accept from all else that may go wrong.
-/

namespace TypeStubs

/-- Why a reader gives no value. -/
inductive LoadFault where
  /-- The text is not accepted. -/
  | refused
  /-- Something else went wrong. -/
  | stray (f : Fault)

namespace LoadFault

/-- A text that is not accepted makes malformed settings; any other fault stays what it is. -/
def fault : LoadFault → Fault
  | refused => .malformedSettings
  | stray f => f

def ofFault : Fault → LoadFault
  | .malformedSettings => refused
  | f => stray f

end LoadFault

/-- A reader of texts. -/
abbrev Loader := String → Except LoadFault Value

end TypeStubs
