/-!
Calls that take several Java statements. The statements share a helper object, held by a variable
with a fresh name; the arguments of the call go into their places.
-/

namespace SharpToJava

/-- A piece of a statement. -/
inductive IdiomPiece where
  | text (text : String)
  /-- The type of the helper object. -/
  | helper
  /-- The variable that holds it. -/
  | holder
  | argument (index : Nat)
  deriving DecidableEq, Repr, Inhabited

structure Idiom where
  /-- The Java text of the callee. -/
  callee : String
  /-- What the names of the helper variables start with. -/
  tag : String
  helper : String
  /-- The least number of arguments. -/
  arity : Nat
  steps : List (List IdiomPiece)
  deriving DecidableEq, Repr, Inhabited

namespace Idiom

/-- Writing a whole file takes a writer that is opened, used, flushed and closed. -/
def writeAllText : Idiom where
  callee := "File.WriteAllText"
  tag := "writer"
  helper := "PrintWriter"
  arity := 2
  steps :=
    [[.helper, .text " ", .holder, .text " = new ", .helper, .text "(", .argument 0, .text ")"],
     [.holder, .text ".write(", .argument 1, .text ")"],
     [.holder, .text ".flush()"],
     [.holder, .text ".close()"]]

def all : List Idiom := [writeAllText]

def find? (callee : String) : Option Idiom := all.find? (·.callee == callee)

def pieceText (idiom : Idiom) (holder : String) (arguments : List String) :
    IdiomPiece → String
  | .text text => text
  | .helper => idiom.helper
  | .holder => holder
  | .argument index => (arguments[index]?).getD ""

/-- The statements, each on a line of its own; the last one is left without a semicolon. -/
def expand (idiom : Idiom) (indent holder : String) (arguments : List String) : String :=
  (";\n" ++ indent).intercalate (idiom.steps.map fun step =>
    String.join (step.map (idiom.pieceText holder arguments)))

end Idiom

end SharpToJava
