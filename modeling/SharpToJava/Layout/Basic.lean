import SharpToJava.Phrase.Basic

/-!
Layouts: the Java text of a statement as instructions to a fragment, which knows how deep the
current line is indented and whether a line has just begun. As with phrases, what a layout is
depends on the tree alone.
-/

namespace SharpToJava

inductive Layout where
  | phrase (content : Phrase)
  /-- The tabs in front of a line. -/
  | indent
  /-- Deeper by so many levels, for the lines that follow. -/
  | shift (levels : Int)
  | join (parts : List Layout)
  /-- A layout that depends on whether a line has just begun. -/
  | byLineStart (choose : Bool → Layout)

namespace Layout

def empty : Layout := .join []

def ofOption : Option Layout → Layout
  | some layout => layout
  | none => empty

def text (written : String) : Layout := .phrase (.text written)

def note (entry : Note) : Layout := .phrase (.note entry)

def newline : Layout := text "\n"

/-- Ends the current line, unless it is still empty. -/
def finishLine : Layout := .byLineStart fun fresh => if fresh then empty else newline

def deeper (layout : Layout) : Layout := .join [.shift 1, layout, .shift (-1)]

/-- A line that holds a phrase and ends with a semicolon. -/
def statement (content : Phrase) : Layout := .join [.indent, .phrase content, text ";\n"]

/-- Statements in braces, the opening one on the current line or on a line of its own. -/
def block (inline : Bool) (statements : List Layout) : Layout :=
  .join [if inline then text " \x7b\n" else .join [.indent, text "\x7b\n"],
    deeper (.join statements), .indent, text "\x7d"]

mutual
def write (profile : Profile) : Layout → Fragment → RunM Fragment
  | .phrase content, fragment =>
    return fragment.append (← content.render profile fragment.depth)
  | .indent, fragment => return fragment.append fragment.indent
  | .shift levels, fragment => return fragment.shift levels
  | .join parts, fragment => writeAll profile parts fragment
  | .byLineStart choose, fragment => (choose fragment.atLineStart).write profile fragment

def writeAll (profile : Profile) : List Layout → Fragment → RunM Fragment
  | [], fragment => return fragment
  | layout :: rest, fragment => do writeAll profile rest (← layout.write profile fragment)
end

/-- The text of a layout that starts on a line of the given depth. -/
def render (profile : Profile) (depth : Int) (layout : Layout) : RunM String :=
  return (← layout.write profile { depth }).text

end Layout

end SharpToJava
