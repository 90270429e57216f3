import SharpToJava.Compiler
import SharpToJava.Decimal.Binary64
import SharpToJava.Dump.Reader
import SharpToJava.Graph.OfUnit
import SharpToJava.Settings

/-!
The compilation service: requests as JSON values, what is wrong with them, and the answers.
-/

namespace SharpToJava.Service

/-- The state a service that runs reports. -/
def health : String := "ok"

structure Request where
  tree : Json
  target : String
  enforce : Bool
  includeGraph : Bool

/-- Whether a number is an integer of 64 bits: one that is written as an integer exactly, any other
by the double nearest to it, which may not reach the ends of that range. -/
def isWord (number : Decimal) (double : Binary64) : Bool :=
  let limit := Binary64.twoPower 63
  if number.exponent = 0 then
    number.coefficient < limit || (number.negative && number.coefficient == limit)
  else
    let (units, unit) := Binary64.scale double.significand 1 double.exponent
    units % unit == 0 && units < limit * unit

/-- Whether a double is exactly one. -/
def isOne (double : Binary64) : Bool :=
  let (units, unit) := Binary64.scale double.significand 1 double.exponent
  !double.negative && units == unit

/-- Zero and one are truth values; other integers cannot be read as one, and other numbers
are no flag at all. -/
def checkFlagNumber (number : Decimal) : Checked Bool :=
  match number.toBinary64? with
  | none => Checked.fail .notFlag
  | some double =>
    if double.significand = 0 then .ok false
    else if isOne double then .ok true
    else if isWord number double then Checked.fail .unreadableFlag
    else Checked.fail .notFlag

def checkFlagText (text : String) : Checked Bool :=
  let plain := Text.lower text
  if ["0", "off", "f", "false", "n", "no"].contains plain then .ok false
  else if ["1", "on", "t", "true", "y", "yes"].contains plain then .ok true
  else Checked.fail .unreadableFlag

def checkFlag : Json → Checked Bool
  | .bool value => .ok value
  | .string text => checkFlagText text
  | .number number => checkFlagNumber number
  | _ => Checked.fail .notFlag

def checkObject : Json → Checked Json
  | .object fields => .ok (.object fields)
  | _ => Checked.fail .notObject

/-- A request names at least a tree; unknown keys do not matter. -/
def readRequest (settings : Settings) : Json → Checked Request
  | .object fields =>
    let tree := Json.checkRequired fields "tree" checkObject
    let target := Json.checkOptional fields "target" settings.target Json.checkText
    let enforce := Json.checkOptional fields "enforce_conventions" settings.enforce checkFlag
    let includeGraph := Json.checkOptional fields "include_ir" false checkFlag
    (tree.both (target.both (enforce.both includeGraph))).map
      fun (tree, target, enforce, includeGraph) => { tree, target, enforce, includeGraph }
  | _ => Checked.fail .notRecord

structure Response where
  output : String
  failed : Bool
  debug : List String
  /-- The graph of the unit, if it was asked for and there is a unit. -/
  graph : Option (Graph.Listing Entity)

inductive Refusal where
  | unsupportedTarget (name : String)
  | invalidTree (issues : List Issue)
  | fault (fault : Fault)
  /-- A graph with a vertex that nothing describes. -/
  | incompleteGraph
  deriving DecidableEq, Repr

/-- Both kinds of bad request have this status. -/
def badRequest : Nat := 400

def graphOf (request : Request) (output : Output) :
    Except Refusal (Option (Graph.Listing Entity)) :=
  match request.includeGraph, output.unit with
  | true, some unit =>
    match (Graph.ofUnit unit).listing? with
    | some listing => .ok (some listing)
    | none => .error .incompleteGraph
  | _, _ => .ok none

/-- The target is looked at before the tree. -/
def answer (request : Request) : Except Refusal Response :=
  match Target.ofName? request.target with
  | none => .error (.unsupportedTarget request.target)
  | some target =>
    match Dump.node request.tree with
    | .error issues => .error (.invalidTree issues)
    | .ok root =>
      match compile root (some target) request.enforce with
      | .error fault => .error (.fault fault)
      | .ok output =>
        (graphOf request output).map fun graph =>
          { output := output.text, failed := output.failed, debug := output.debug, graph }

end SharpToJava.Service
