import SharpToJava.Json.Check
import SharpToJava.Json.Reader
import SharpToJava.Tree.Node

/-!
Syntax dumps: the JSON form in which an analyser hands over a tree. A node is an object with a
`kind`, a token one with a `token`; no object is both, so a dump determines its tree. Every key is
accounted for, and a child that is neither a node nor a token is reported as both.
-/

namespace SharpToJava.Dump

/-- Says that a text or a value is no dump; the issues say why. -/
def invalid : String := "Invalid syntax dump"

/-- What the text of a dump may ask of its reader. -/
def limits : Json.Limits := { nesting := 200, wholePart := 4300 }

/-- A symbol of a kind that nobody knows is no symbol at all. -/
def symbolOf (kind : String) (containingType : Option String) : Option Symbol :=
  (SymbolKind.ofDumpName? kind).map fun kind => { kind, containingType }

/-- The key of the containing type: it has two spellings, and the first one wins. -/
def containingKey (fields : List (String × Json)) : String :=
  if (fields.lookup "containingType").isSome then "containingType" else "containing_type"

def symbol : Json → Checked (Option Symbol)
  | .object fields =>
    let key := containingKey fields
    let kind := Json.checkRequired fields "kind" Json.checkText
    let containing := Json.checkOptional fields key none Json.checkTextOrNull
    let keys := Json.checkKeys fields ["kind", key]
    (kind.both (containing.both keys)).map fun (kind, containing, _) => symbolOf kind containing
  | _ => Checked.fail .notRecord

def symbolOrNull : Json → Checked (Option Symbol)
  | .null => .ok none
  | json => symbol json

def token : Json → Checked Token
  | .object fields =>
    let kind := Json.checkRequired fields "token" Json.checkText
    let text := Json.checkRequired fields "text" Json.checkText
    let role := Json.checkOptional fields "role" none Json.checkTextOrNull
    let keys := Json.checkKeys fields ["token", "text", "role"]
    (kind.both (text.both (role.both keys))).map fun (kind, text, role, _) =>
      { kind := TokenKind.ofName kind, text, role }
  | _ => Checked.fail .notRecord

/-- The label of a node; the name in the dump is kept where it is not the kind's own. -/
def labelOf (name : String) (role typeName : Option String) (symbol : Option Symbol) : Label :=
  let kind := NodeKind.ofName name
  { kind, role, typeName, symbol, rawName := if name = kind.name then none else some name }

/-- A child is a node if it can be read as one, else a token. -/
def childOf : Checked Node → Checked Token → Checked Child
  | .ok node, _ => .ok (.node node)
  | .error _, .ok token => .ok (.token token)
  | .error asNode, .error asToken =>
    .error (asNode.map (Issue.inside "NodeDump") ++ asToken.map (Issue.inside "TokenDump"))

def node (json : Json) : Checked Node :=
  match json with
  | .object fields =>
    let kind := Json.checkRequired fields "kind" Json.checkText
    let role := Json.checkOptional fields "role" none Json.checkTextOrNull
    let typeName := Json.checkOptional fields "type" none Json.checkTextOrNull
    let symbol := Json.checkOptional fields "symbol" none symbolOrNull
    let children : Checked (List Child) :=
      match _found : fields.lookup "children" with
      | none => .ok []
      | some (.array items) =>
        (Checked.all (items.attach.mapIdx fun index item =>
          (childOf (node item.val) (token item.val)).inside (toString index))).inside "children"
      | some _ => (Checked.fail .notList).inside "children"
    let keys := Json.checkKeys fields ["kind", "role", "type", "symbol", "children"]
    (kind.both (role.both (typeName.both (symbol.both (children.both keys))))).map
      fun (kind, role, typeName, symbol, children, _) =>
        .mk (labelOf kind role typeName symbol) children
  | _ => Checked.fail .notRecord
termination_by sizeOf json
decreasing_by
  have itemBound := List.sizeOf_lt_of_mem item.property
  have arrayBound := Json.sizeOf_lt_of_lookup _found
  simp only [Json.array.sizeOf_spec] at arrayBound
  omega

/-- The tree of a dump given as text. -/
def parse (text : String) : Checked Node :=
  match Json.read? limits text with
  | some json => node json
  | none => Checked.fail .invalidText

end SharpToJava.Dump
