import SharpToJava.Graph.Basic
import SharpToJava.Run

/-!
Sessions: calls made one after the other on a type map, on the imports of a unit, on a graph or
within a run, with what each of them answers. A call that is refused changes nothing, and the calls
after it go on from there.
-/

namespace SharpToJava

/-- Makes calls one after the other, and collects the answers. -/
def session {State Call Answer : Type} (make : State → Call → Answer × State) (start : State) :
    List Call → List Answer × State
  | [] => ([], start)
  | call :: rest =>
    let (answer, next) := make start call
    let (answers, last) := session make next rest
    (answer :: answers, last)

/-- What is there after a session is what the calls leave one after the other. -/
theorem session_snd {State Call Answer : Type} (make : State → Call → Answer × State)
    (start : State) (calls : List Call) :
    (session make start calls).2 = calls.foldl (fun state call => (make state call).2) start := by
  induction calls generalizing start with
  | nil => rfl
  | cons call rest ih => exact ih (make start call).2

namespace TypeMap

inductive Call where
  | add (name mapped : String)
  | remove (name : String)
  | isUnsupported (name : String)
  | map (use : TypeUse) (type : String)
  deriving DecidableEq, Repr

inductive Answer where
  | done
  | refused (duplicate : DuplicateName)
  | truth (value : Bool)
  | text (value : String)
  deriving DecidableEq, Repr

def call (types : TypeMap) : Call → Answer × TypeMap
  | .add name mapped =>
    match types.add name mapped with
    | .ok next => (.done, next)
    | .error duplicate => (.refused duplicate, types)
  | .remove name =>
    let (known, next) := types.remove name
    (.truth known, next)
  | .isUnsupported name => (.truth (types.isUnsupported name), types)
  | .map use type => (.text (types.map use type), types)

end TypeMap

namespace Imports

inductive Call where
  | touch (type : String)
  | remove (name : String)
  | clear
  | setDefaults (paths : List String)
  deriving DecidableEq, Repr

/-- Only forgetting a name has an answer: whether the name was touched. -/
def call (imports : Imports) : Call → Option Bool × Imports
  | .touch type => (none, imports.touch type)
  | .remove name => (some (imports.touched.contains name), imports.erase name)
  | .clear => (none, imports.clear)
  | .setDefaults paths => (none, { imports with defaults := paths })

end Imports

namespace Multigraph

inductive Call (α : Type) where
  | addVertex (name : String) (data : α)
  | addEdge (edge : Edge)
  deriving DecidableEq, Repr

def call {G α : Type} [Multigraph G α] (graph : G) : Call α → G
  | .addVertex name data => addVertex graph name data
  | .addEdge edge => addEdge graph edge

end Multigraph

namespace RunM

/-- What a fresh name can be asked for. -/
inductive Request where
  /-- A value that nobody reads. -/
  | discard
  /-- A helper variable. -/
  | temp (tag : String)
  deriving DecidableEq, Repr

inductive Call where
  | name (request : Request)
  | note (line : String)
  | mapType (use : TypeUse) (type : String)
  deriving DecidableEq, Repr

/-- Only a note has no answer. -/
def call (profile : Profile) : Call → RunM (Option String)
  | .name .discard => some <$> nextDiscard
  | .name (.temp tag) => some <$> nextTemp tag
  | .note line => (fun _ => none) <$> noteLine line
  | .mapType use type => some <$> mapType profile use type

end RunM

end SharpToJava
