import SharpToJava.Imports
import SharpToJava.Text.Lowercase

/-!
One run: what it is told (`Profile`), what it records on the way (`Journal`) and how it can fail
(`Fault`). A run that fails keeps what it has recorded.
-/

namespace SharpToJava

/-- What a run is told and does not change. -/
structure Profile where
  /-- Whether Java naming conventions are enforced. -/
  enforce : Bool
  types : TypeMap
  deriving DecidableEq, Repr, Inhabited

/-- Lower-cases the first letter of a name when conventions are enforced. -/
def camel (enforce : Bool) (name : String) : String :=
  if enforce then Text.lowerFirst name else name

/-- Why no Java text comes out. -/
inductive Fault where
  /-- A member access without any child has no member to name. -/
  | memberWithoutName
  /-- A compiler without a target has nothing to build. -/
  | noTarget
  deriving DecidableEq, Repr, Inhabited

def Fault.message : Fault → String
  | .memberWithoutName => "list index out of range"
  | .noTarget => ""

/-- Something a run left out or could not do, for whoever reads the debug lines. -/
inductive Note where
  | noExpressionRule (kind : String)
  | noStatementRule (kind : String)
  | dropped (child parent : String)
  /-- A call that would be expanded, had it enough arguments. -/
  | tooFewArguments (callee : String) (expected given : Nat)
  | noTextArgument (type : String)
  /-- The initializer of an object that no variable holds; `type` is its source type. -/
  | droppedInitializer (type : String)
  | skippedTopLevel (kind : String)
  | skippedMember (owner kind : String)
  | replacedBase (owner base replaced : String)
  | fieldWithoutDeclaration
  deriving DecidableEq, Repr, Inhabited

def Note.message (types : TypeMap) : Note → String
  | .noExpressionRule kind => "no expression rule for " ++ kind ++ ", descending"
  | .noStatementRule kind => "no statement rule for " ++ kind ++ ", descending"
  | .dropped child parent => "dropped " ++ child ++ " inside " ++ parent
  | .tooFewArguments callee expected given =>
    callee ++ ": expected " ++ toString expected ++ " arguments, got " ++ toString given ++
      "; not expanded"
  | .noTextArgument type => "Enum.Parse: no string argument for " ++ type
  | .droppedInitializer type =>
    "object initializer on new " ++ types.map .body type ++ " outside a declaration dropped"
  | .skippedTopLevel kind => "top-level " ++ kind ++ " skipped"
  | .skippedMember owner kind => owner ++ ": member " ++ kind ++ " skipped"
  | .replacedBase owner base replaced =>
    owner ++ ": second base class " ++ base ++ " replaces " ++ replaced
  | .fieldWithoutDeclaration => "field without a variable declaration skipped"

/-- What a run records. -/
structure Journal where
  imports : Imports
  /-- How many names were made up for discarded values. -/
  discards : Nat := 0
  /-- How many helper variables were made up for each tag, in the order of first use. -/
  temps : List (String × Nat) := []
  /-- The debug lines, in order. -/
  notes : List String := []
  deriving DecidableEq, Repr, Inhabited

namespace Journal

def tempCount (journal : Journal) (tag : String) : Nat := (journal.temps.lookup tag).getD 0

/-- One more of a tag; a new tag comes last. -/
def countTemp : List (String × Nat) → String → List (String × Nat)
  | [], tag => [(tag, 1)]
  | (name, count) :: rest, tag =>
    if name = tag then (name, count + 1) :: rest else (name, count) :: countTemp rest tag

end Journal

abbrev RunM : Type → Type := EStateM Fault Journal

namespace RunM

/-- A fresh name for a value that nobody reads. -/
def nextDiscard : RunM String := do
  let journal ← get
  set { journal with discards := journal.discards + 1 }
  return "_dummy_" ++ toString journal.discards

/-- A fresh name for a helper variable. -/
def nextTemp (tag : String) : RunM String := do
  let journal ← get
  set { journal with temps := Journal.countTemp journal.temps tag }
  return tag ++ "_" ++ toString (journal.tempCount tag + 1)

def noteLine (line : String) : RunM Unit :=
  modify fun journal => { journal with notes := journal.notes ++ [line] }

def note (profile : Profile) (note : Note) : RunM Unit := noteLine (note.message profile.types)

/-- Records a type for the imports. -/
def touch (type : String) : RunM Unit :=
  modify fun journal => { journal with imports := journal.imports.touch type }

/-- The Java text of a source type, recorded for the imports. -/
def mapType (profile : Profile) (use : TypeUse) (type : String) : RunM String := do
  let mapped := profile.types.map use type
  touch mapped
  return mapped

variable {α β : Type}

/-- Runs over a list and keeps what comes out. -/
def collect (f : α → RunM (Option β)) : List α → RunM (List β)
  | [] => return []
  | item :: rest => do
    match ← f item with
    | some result => return result :: (← collect f rest)
    | none => collect f rest

end RunM

end SharpToJava
