import SharpToJava.Text.Blank
import SharpToJava.Text.Lowercase
import SharpToJava.Text.Uppercase

/-!
Settings from environment variables. A variable that is unset or blank leaves the default.
-/

namespace SharpToJava

structure Settings where
  enforce : Bool := true
  target : String := "java"
  logLevel : String := "WARNING"
  deriving DecidableEq, Repr, Inhabited

namespace Settings

/-- The value of a variable without the blanks around it, empty if it is unset. -/
def value (environment : String → Option String) (name : String) : String :=
  Text.trim ((environment name).getD "")

def orDefault (value default : String) : String := if value.isEmpty then default else value

/-- A flag is set by `1`, `true`, `yes` and `on`, in any case, and unset by anything else. -/
def flag (value : String) (default : Bool) : Bool :=
  let plain := Text.lower value
  if plain.isEmpty then default else ["1", "true", "yes", "on"].contains plain

def ofEnvironment (environment : String → Option String) : Settings where
  enforce := flag (value environment "JCC_ENFORCE_CONVENTIONS") true
  target := orDefault (Text.lower (value environment "JCC_DEFAULT_TARGET")) "java"
  logLevel := orDefault (Text.upper (value environment "JCC_LOG_LEVEL")) "WARNING"

end Settings

end SharpToJava
