import SharpToJava.Json.Basic

/-!
Checking the shape of JSON values. A check collects every problem of a value, each with the path
that leads to it, and gives a result only if there is none.
-/

namespace SharpToJava

/-- What can be wrong with a value. -/
inductive Problem where
  /-- The text is no JSON document. -/
  | invalidText
  /-- A value that must be a record is no object. -/
  | notRecord
  | missing
  | notText
  | notList
  /-- A key that the record does not have. -/
  | unknownKey
  | notObject
  /-- A text or an integer that stands for no truth value. -/
  | unreadableFlag
  | notFlag
  deriving DecidableEq, Repr, Inhabited

namespace Problem

def code : Problem → String
  | .invalidText => "json_invalid"
  | .notRecord => "model_type"
  | .missing => "missing"
  | .notText => "string_type"
  | .notList => "list_type"
  | .unknownKey => "extra_forbidden"
  | .notObject => "dict_type"
  | .unreadableFlag => "bool_parsing"
  | .notFlag => "bool_type"

end Problem

structure Issue where
  /-- Keys and indexes from the root to the value. -/
  path : List String
  problem : Problem
  deriving DecidableEq, Repr, Inhabited

namespace Issue

def location (issue : Issue) : String := ".".intercalate issue.path

def inside (key : String) (issue : Issue) : Issue := { issue with path := key :: issue.path }

/-- By location, then by the code of the problem. -/
def before (first second : Issue) : Bool :=
  first.location < second.location ||
    (first.location == second.location && first.problem.code ≤ second.problem.code)

def sort (issues : List Issue) : List Issue := issues.mergeSort before

end Issue

/-- A value, or everything that is wrong with its JSON. -/
abbrev Checked (α : Type) : Type := Except (List Issue) α

namespace Checked

variable {α β : Type}

/-- A single problem with the value at hand. -/
def fail (problem : Problem) : Checked α := .error [⟨[], problem⟩]

/-- Moves the issues of a part below the key of that part. -/
def inside (key : String) : Checked α → Checked α
  | .ok value => .ok value
  | .error issues => .error (issues.map (Issue.inside key))

/-- Both values, or the issues of both. -/
def both : Checked α → Checked β → Checked (α × β)
  | .ok first, .ok second => .ok (first, second)
  | .ok _, .error issues => .error issues
  | .error issues, .ok _ => .error issues
  | .error issues, .error more => .error (issues ++ more)

/-- All values, or the issues of all. -/
def all : List (Checked α) → Checked (List α)
  | [] => .ok []
  | first :: rest => (both first (all rest)).map fun (value, values) => value :: values

end Checked

namespace Json

variable {α : Type}

def checkText : Json → Checked String
  | .string value => .ok value
  | _ => Checked.fail .notText

def checkTextOrNull : Json → Checked (Option String)
  | .null => .ok none
  | .string value => .ok (some value)
  | _ => Checked.fail .notText

def checkRequired (fields : List (String × Json)) (key : String) (check : Json → Checked α) :
    Checked α :=
  match fields.lookup key with
  | some value => (check value).inside key
  | none => (Checked.fail .missing).inside key

def checkOptional (fields : List (String × Json)) (key : String) (absent : α)
    (check : Json → Checked α) : Checked α :=
  match fields.lookup key with
  | some value => (check value).inside key
  | none => .ok absent

/-- No keys but these. -/
def checkKeys (fields : List (String × Json)) (known : List String) : Checked Unit :=
  match fields.filter fun field => !known.contains field.1 with
  | [] => .ok ()
  | others => .error (others.map fun field => ⟨[field.1], .unknownKey⟩)

theorem sizeOf_lt_of_lookup {fields : List (String × Json)} {key : String} {value : Json}
    (found : fields.lookup key = some value) : sizeOf value < sizeOf (object fields) := by
  induction fields with
  | nil => simp at found
  | cons field rest ih =>
      obtain ⟨name, first⟩ := field
      rw [List.lookup_cons] at found
      split at found
      · simp only [Option.some.injEq] at found
        subst found
        simp only [object.sizeOf_spec, List.cons.sizeOf_spec, Prod.mk.sizeOf_spec]
        omega
      · have bound := ih found
        simp only [object.sizeOf_spec, List.cons.sizeOf_spec] at bound ⊢
        omega

end Json

end SharpToJava
