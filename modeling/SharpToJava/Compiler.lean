import SharpToJava.Decl.Harvest
import SharpToJava.Java.Source
import SharpToJava.Target

/-!
Compiling a tree. Each run starts from a fresh journal, so that nothing leaks from one run into the
next; what a compiler shows afterwards is what its last run left.
-/

namespace SharpToJava

/-- A journal at the start of a run. -/
def Journal.java : Journal := { imports := Imports.java }

def Profile.java (enforce : Bool) : Profile := { enforce, types := TypeMap.java }

structure Compiler where
  /-- A compiler without a target can do nothing. -/
  target : Option Target
  root : Node
  output : String := ""
  debug : List String := []
  /-- The declarations found by the last run that did not fail. -/
  unit : Option UnitDecl := none

namespace Compiler

def targetName (compiler : Compiler) : String :=
  match compiler.target with
  | some target => target.name
  | none => ""

/-- Forgets the text of the last run. -/
def reset (compiler : Compiler) : Compiler := { compiler with output := "", debug := [] }

/-- One run, which gives the output text. There is no Kotlin text yet. -/
def run (compiler : Compiler) (enforce : Bool) : Except Fault String × Compiler :=
  match compiler.target with
  | none => (.error .noTarget, compiler.reset)
  | some .kotlin => (.ok "", compiler.reset)
  | some .java =>
    match (Place.unitDecl ⟨compiler.root, []⟩ (Profile.java enforce)).run Journal.java with
    | .ok unit journal =>
      let output := unit.source enforce journal.imports.list
      (.ok output, { compiler with output, debug := journal.notes, unit := some unit })
    | .error fault _ => (.error fault, compiler.reset)

end Compiler

/-- The outcome of a compilation. -/
structure Output where
  text : String := ""
  /-- Whether there was no target to compile to. -/
  failed : Bool := false
  debug : List String := []
  unit : Option UnitDecl := none
  deriving DecidableEq, Repr, Inhabited

namespace Output

/-- The debug lines as one text. -/
def debugText (output : Output) : String := String.join (output.debug.map (· ++ "\n"))

end Output

/-- Compiles a tree; without a target the output is empty and failed. -/
def compile (root : Node) (target : Option Target) (enforce : Bool) : Except Fault Output :=
  match target with
  | none => .ok { failed := true }
  | some target =>
    match Compiler.run { target := some target, root } enforce with
    | (.ok _, compiler) =>
      .ok { text := compiler.output, debug := compiler.debug, unit := compiler.unit }
    | (.error fault, _) => .error fault

end SharpToJava
