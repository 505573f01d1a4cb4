import Reconcile.Text.Ascii

namespace Reconcile

inductive Level where
  | trace | debug | info | warn | error
deriving DecidableEq, Repr

def Level.text : Level → String
  | .trace => "trace"
  | .debug => "debug"
  | .info => "info"
  | .warn => "warn"
  | .error => "error"

def Level.all : List Level := [.trace, .debug, .info, .warn, .error]

-- In letters of either case.
def Level.ofText? (text : String) : Option Level := all.find? (·.text = Text.lowerAscii text)

-- Whether a log that starts at one level shows another.
def Level.shows (least level : Level) : Bool := (all.dropWhile (· ≠ least)).contains level

-- One line of the log, its fields already written out.
structure Event where
  level : Level
  message : String
  fields : List (String × String) := []
deriving DecidableEq, Repr

def Event.line (e : Event) : String :=
  " ".intercalate (e.level.text :: e.message :: e.fields.map fun (name, value) => name ++ "=" ++ value)

end Reconcile
