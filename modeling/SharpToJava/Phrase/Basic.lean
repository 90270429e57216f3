import SharpToJava.Fragment
import SharpToJava.Phrase.Idiom
import SharpToJava.Run

/-!
Phrases: the Java text of an expression with holes for what only a run can say, such as the Java
name of a type or a name nobody uses yet. What a phrase is depends on the tree alone; writing it
fills the holes from left to right and records what it used.
-/

namespace SharpToJava

inductive Phrase where
  | text (written : String)
  /-- The Java name of a source type, which is then imported. -/
  | type (source : String)
  /-- The Java name of a source type that is not imported. -/
  | unimportedType (source : String)
  /-- A fresh name for a value nobody reads. -/
  | discard
  /-- Nothing in the text, a line in the debug lines. -/
  | note (entry : Note)
  /-- A new line, indented like the current one. -/
  | newline
  | join (parts : List Phrase)
  /-- A text in front of another, unless that one turns out empty. -/
  | ledBy (lead : String) (body : Phrase)
  | byConvention (enforced otherwise : Phrase)
  /-- A call, or the statements it stands for. -/
  | call (callee : Phrase) (arguments : List Phrase)
  /-- A member access that names no member: writing it fails. -/
  | memberWithoutName

namespace Phrase

def empty : Phrase := .join []

/-- The phrase of a child that need not be there. -/
def ofOption : Option Phrase → Phrase
  | some phrase => phrase
  | none => empty

/-- The phrases with a text between each two. -/
def separated (separator : String) (parts : List Phrase) : Phrase :=
  .join (parts.intersperse (.text separator))

def parenthesized (parts : List Phrase) : Phrase :=
  .join [.text "(", separated ", " parts, .text ")"]

/-- A call with its arguments, or, where the callee asks for several statements and there are
arguments enough for them, those statements. -/
def callText (profile : Profile) (depth : Int) (callee : String) (count : Nat)
    (arguments : RunM (List String)) : RunM String := do
  let plain (texts : List String) : String := callee ++ "(" ++ ", ".intercalate texts ++ ")"
  match Idiom.find? callee with
  | none => return plain (← arguments)
  | some idiom =>
    if idiom.arity ≤ count then
      RunM.touch idiom.helper
      let holder ← RunM.nextTemp idiom.tag
      return idiom.expand (indentation depth) holder (← arguments)
    else
      RunM.note profile (.tooFewArguments callee idiom.arity count)
      return plain (← arguments)

mutual
/-- Writes a phrase at the end of a fragment. A callee and arguments are written apart first. -/
def writeTo (profile : Profile) : Phrase → Fragment → RunM Fragment
  | .text written, fragment => return fragment.append written
  | .type source, fragment => return fragment.append (← RunM.mapType profile .body source)
  | .unimportedType source, fragment => return fragment.append (profile.types.map .body source)
  | .discard, fragment => return fragment.append (← RunM.nextDiscard)
  | .note entry, fragment => do
    RunM.note profile entry
    return fragment
  | .newline, fragment => return (fragment.append "\n").append fragment.indent
  | .join parts, fragment => writeAllTo profile parts fragment
  | .ledBy lead body, fragment => do
    let text := (← body.writeTo profile { depth := fragment.depth }).text
    return if text.isEmpty then fragment else fragment.append (lead ++ text)
  | .byConvention enforced otherwise, fragment =>
    if profile.enforce then enforced.writeTo profile fragment
    else otherwise.writeTo profile fragment
  | .call callee arguments, fragment => do
    let callee := (← callee.writeTo profile { depth := fragment.depth }).text
    let text ← callText profile fragment.depth callee arguments.length
      (writeApart profile fragment.depth arguments)
    return fragment.append text
  | .memberWithoutName, _ => throw .memberWithoutName

/-- Writes phrases one after the other. -/
def writeAllTo (profile : Profile) : List Phrase → Fragment → RunM Fragment
  | [], fragment => return fragment
  | phrase :: rest, fragment => do writeAllTo profile rest (← phrase.writeTo profile fragment)

/-- Writes each phrase into a fragment of its own. -/
def writeApart (profile : Profile) (depth : Int) : List Phrase → RunM (List String)
  | [] => return []
  | phrase :: rest => do
    let text := (← phrase.writeTo profile { depth }).text
    return text :: (← writeApart profile depth rest)
end

/-- The text of a phrase on a line of the given depth. -/
def render (profile : Profile) (depth : Int) (phrase : Phrase) : RunM String :=
  return (← phrase.writeTo profile { depth }).text

end Phrase

end SharpToJava
