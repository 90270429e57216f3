import SharpToJava.Tree.Node

/-!
Members of the standard library that go by another name in Java. A rule names a member, and may
ask for the kind of symbol and for the type it belongs to; where the dump says nothing about the
symbol, the name alone decides. The first rule that matches counts.
-/

namespace SharpToJava

/-- How a member is written. -/
inductive MemberForm where
  /-- After the expression the member belongs to. -/
  | suffix (text : String)
  /-- Instead of that expression: a new, empty text. -/
  | emptyText
  deriving DecidableEq, Repr, Inhabited

namespace MemberForm

/-- The form as a template, with a hole where the Java name of `string` goes. -/
def template : MemberForm → String
  | .suffix text => text
  | .emptyText => "new \x7bstring\x7d()"

def replacesBase : MemberForm → Bool
  | .suffix _ => false
  | .emptyText => true

end MemberForm

structure MemberRule where
  member : String
  form : MemberForm
  symbol : SymbolKind
  /-- The type the member has to belong to, if that matters. -/
  containing : Option String := none
  deriving DecidableEq, Repr, Inhabited

namespace MemberRule

def all : List MemberRule :=
  [⟨"Empty", .emptyText, .field, some "String"⟩,
   ⟨"ToString", .suffix ".toString", .method, none⟩,
   ⟨"Replace", .suffix ".replace", .method, none⟩,
   ⟨"Split", .suffix ".split", .method, none⟩,
   ⟨"ToLower", .suffix ".toLowerCase", .method, none⟩,
   ⟨"Trim", .suffix ".trim", .method, none⟩,
   ⟨"StartsWith", .suffix ".startsWith", .method, none⟩,
   ⟨"EndsWith", .suffix ".endsWith", .method, none⟩,
   ⟨"Length", .suffix ".length", .property, some "Array"⟩,
   ⟨"ToArray", .suffix ".toArray", .method, some "List"⟩,
   ⟨"Clear", .suffix ".clear", .method, some "List"⟩,
   ⟨"Contains", .suffix ".contains", .method, some "List"⟩,
   ⟨"Count", .suffix ".size()", .property, some "List"⟩,
   ⟨"Length", .suffix ".length()", .property, none⟩,
   ⟨"Add", .suffix ".add", .method, some "List"⟩]

/-- Whether a known symbol is one the rule is meant for. -/
def accepts (rule : MemberRule) (symbol : Symbol) : Bool :=
  symbol.kind == rule.symbol &&
    (rule.containing.isNone || symbol.containingType == rule.containing)

def applies (rule : MemberRule) (member : String) (symbol : Option Symbol) : Bool :=
  rule.member == member && symbol.all rule.accepts

def find? (member : String) (symbol : Option Symbol) : Option MemberRule :=
  all.find? (·.applies member symbol)

end MemberRule

end SharpToJava
