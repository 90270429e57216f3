import SharpToJava.Decimal.Basic

/-!
JSON values. An object holds each key once, in the order in which the keys first appeared.
-/

namespace SharpToJava

inductive Json where
  | null
  | bool (value : Bool)
  | number (value : Decimal)
  /-- `NaN` or an infinity, which some writers use although JSON has no such number. -/
  | nonFinite
  | string (value : String)
  | array (items : List Json)
  | object (fields : List (String × Json))
  deriving Inhabited

namespace Json

/-- Adds a field; a key that is there already keeps its place and takes the new value. -/
def insertField (fields : List (String × Json)) (key : String) (value : Json) :
    List (String × Json) :=
  match fields with
  | [] => [(key, value)]
  | field :: rest =>
    if field.1 = key then (key, value) :: rest else field :: insertField rest key value

def field? (json : Json) (key : String) : Option Json :=
  match json with
  | .object fields => fields.lookup key
  | _ => none

end Json

end SharpToJava
