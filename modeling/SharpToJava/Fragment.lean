/-!
A buffer for the text of one body: it only grows, and it knows how deep the next line is indented.
-/

namespace SharpToJava

structure Fragment where
  depth : Int := 0
  /-- The pieces appended so far, none of them empty. -/
  parts : Array String := #[]
  deriving DecidableEq, Repr, Inhabited

/-- The tabs in front of a line; none at a negative depth. -/
def indentation (depth : Int) : String := String.ofList (List.replicate depth.toNat '\t')

namespace Fragment

def append (fragment : Fragment) (text : String) : Fragment :=
  if text.isEmpty then fragment else { fragment with parts := fragment.parts.push text }

def indent (fragment : Fragment) : String := indentation fragment.depth

def text (fragment : Fragment) : String := String.join fragment.parts.toList

def shift (fragment : Fragment) (levels : Int) : Fragment :=
  { fragment with depth := fragment.depth + levels }

/-- Whether a text ends a line. -/
def endsLine (text : String) : Bool := text.toList.getLast? == some '\n'

/-- Whether the next character is the first of its line. -/
def atLineStart (fragment : Fragment) : Bool :=
  match fragment.parts.back? with
  | none => true
  | some part => endsLine part

end Fragment

end SharpToJava
