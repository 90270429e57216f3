import SharpToJava.Json.Basic
import SharpToJava.Text.Blank
import SharpToJava.Text.Lowercase

/-!
The languages a unit can be compiled to. A target is named in any case and with blanks around it.
-/

namespace SharpToJava

inductive Target where
  | java
  | kotlin
  deriving DecidableEq, Repr, Inhabited

namespace Target

def name : Target → String
  | .java => "java"
  | .kotlin => "kotlin"

def all : List Target := [.java, .kotlin]

def ofName? (name : String) : Option Target :=
  let plain := Text.lower (Text.trim name)
  all.find? (·.name == plain)

/-- Only a text can name a target. -/
def ofJson? : Json → Option Target
  | .string name => ofName? name
  | _ => none

/-- Says that a name is no target. -/
def unsupported (name : String) : String :=
  "Unsupported target '" ++ name ++ "'. Supported: " ++ ", ".intercalate (all.map Target.name) ++ "."

end Target

end SharpToJava
