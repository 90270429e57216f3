import SharpToJava.Json.Basic

/-!
Reading JSON text. The text is cut into lexemes first; the values are then built by a machine that
holds the arrays and objects still open, so that its height is the nesting depth. What a text may
ask of the reader is limited, by depth and by the length of its numbers.
-/

namespace SharpToJava.Json

structure Limits where
  /-- How deep arrays and objects may be nested; an empty one does not count. -/
  nesting : Nat
  /-- The length of a number in front of its point or exponent, the sign included. -/
  wholePart : Nat
  deriving DecidableEq, Repr, Inhabited

inductive Lexeme where
  | openBrace
  | closeBrace
  | openBracket
  | closeBracket
  | colon
  | comma
  | string (value : String)
  /-- A value of one word: a number, a truth value or null. -/
  | word (value : Json)

def hexValue? (c : Char) : Option Nat :=
  if '0' ≤ c ∧ c ≤ '9' then some (c.toNat - '0'.toNat)
  else if 'a' ≤ c ∧ c ≤ 'f' then some (c.toNat - 'a'.toNat + 10)
  else if 'A' ≤ c ∧ c ≤ 'F' then some (c.toNat - 'A'.toNat + 10)
  else none

def hexUnit? (a b c d : Char) : Option Nat := do
  let a ← hexValue? a
  let b ← hexValue? b
  let c ← hexValue? c
  let d ← hexValue? d
  some (((a * 16 + b) * 16 + c) * 16 + d)

def isHighSurrogate (unit : Nat) : Bool := 0xD800 ≤ unit && unit < 0xDC00

def isLowSurrogate (unit : Nat) : Bool := 0xDC00 ≤ unit && unit < 0xE000

/-- The character that two surrogates stand for. -/
def joinSurrogates (high low : Nat) : Char :=
  Char.ofNat (0x10000 + (high - 0xD800) * 0x400 + (low - 0xDC00))

def simpleEscape? (c : Char) : Option Char :=
  if c = '"' ∨ c = '\\' ∨ c = '/' then some c
  else if c = 'b' then some '\x08'
  else if c = 'f' then some '\x0c'
  else if c = 'n' then some '\n'
  else if c = 'r' then some '\r'
  else if c = 't' then some '\t'
  else none

/-- The characters up to the closing quote, given nearest last, and what follows the quote.
Control characters must be escaped, and a surrogate counts only in a pair. -/
def lexString? (read : List Char) : List Char → Option (List Char × List Char)
  | '"' :: rest => some (read, rest)
  | '\\' :: 'u' :: a :: b :: c :: d :: rest =>
    match hexUnit? a b c d with
    | none => none
    | some unit =>
      if isHighSurrogate unit then
        match rest with
        | '\\' :: 'u' :: e :: f :: g :: h :: rest =>
          match hexUnit? e f g h with
          | none => none
          | some low =>
            if isLowSurrogate low then lexString? (joinSurrogates unit low :: read) rest else none
        | _ => none
      else if isLowSurrogate unit then none
      else lexString? (Char.ofNat unit :: read) rest
  | '\\' :: c :: rest =>
    match simpleEscape? c with
    | none => none
    | some c => lexString? (c :: read) rest
  | c :: rest => if c.toNat < 0x20 then none else lexString? (c :: read) rest
  | [] => none

theorem lexString?_length {read text value rest : List Char}
    (lexed : lexString? read text = some (value, rest)) : rest.length < text.length := by
  fun_induction lexString? read text <;> simp_all <;> omega

def isWordChar (c : Char) : Bool := c.isAlphanum || c == '+' || c == '-' || c == '.'

/-- The number up to its point or exponent. -/
def wholePart (text : List Char) : List Char := text.takeWhile fun c => c == '-' || c.isDigit

def number? (limits : Limits) (text : List Char) : Option Json :=
  if (wholePart text).length ≤ limits.wholePart then (Decimal.read? text).map .number else none

def word? (limits : Limits) (text : List Char) : Option Json :=
  if text = "null".toList then some .null
  else if text = "true".toList then some (.bool true)
  else if text = "false".toList then some (.bool false)
  else if text = "NaN".toList ∨ text = "Infinity".toList ∨ text = "-Infinity".toList then
    some .nonFinite
  else number? limits text

def punctuation? (c : Char) : Option Lexeme :=
  if c = '{' then some .openBrace
  else if c = '}' then some .closeBrace
  else if c = '[' then some .openBracket
  else if c = ']' then some .closeBracket
  else if c = ':' then some .colon
  else if c = ',' then some .comma
  else none

def isSpace (c : Char) : Bool := c == ' ' || c == '\t' || c == '\n' || c == '\r'

/-- The lexemes of a text, given in front of those read before, the last one first. -/
def lexemes? (limits : Limits) (read : List Lexeme) (text : List Char) : Option (List Lexeme) :=
  match text with
  | [] => some read
  | c :: rest =>
    if isSpace c then lexemes? limits read rest
    else
      match punctuation? c with
      | some lexeme => lexemes? limits (lexeme :: read) rest
      | none =>
        if c = '"' then
          match _lexed : lexString? [] rest with
          | some (value, rest) =>
            lexemes? limits (.string (String.ofList value.reverse) :: read) rest
          | none => none
        else if isWordChar c then
          match word? limits (c :: rest.takeWhile isWordChar) with
          | some value => lexemes? limits (.word value :: read) (rest.dropWhile isWordChar)
          | none => none
        else none
termination_by text.length
decreasing_by
  · simp
  · simp
  · have := lexString?_length _lexed
    simp
    omega
  · have := (List.dropWhile_suffix (l := rest) isWordChar).length_le
    simp
    omega

/-- An array or object that is still open, with what it holds so far; of an array the last item
stands first. -/
inductive Frame where
  | array (items : List Json)
  | object (fields : List (String × Json))
  /-- An object that waits for the value of `key`. -/
  | field (fields : List (String × Json)) (key : String)

/-- What may come next. -/
inductive Expected where
  | value
  /-- After an opening bracket. -/
  | valueOrEnd
  | key
  /-- After an opening brace. -/
  | keyOrEnd
  | colon
  /-- After a value: what holds it goes on or ends. -/
  | more (value : Json)

structure Machine where
  expected : Expected
  /-- The frames, the innermost first. -/
  frames : List Frame

namespace Machine

/-- The lexeme that starts a value. -/
def value? (frames : List Frame) : Lexeme → Option Machine
  | .word value => some ⟨.more value, frames⟩
  | .string value => some ⟨.more (.string value), frames⟩
  | .openBracket => some ⟨.valueOrEnd, .array [] :: frames⟩
  | .openBrace => some ⟨.keyOrEnd, .object [] :: frames⟩
  | _ => none

/-- The lexeme that starts a key. -/
def key? : List Frame → Lexeme → Option Machine
  | .object fields :: frames, .string key => some ⟨.colon, .field fields key :: frames⟩
  | _, _ => none

/-- The lexeme after a complete value. -/
def more? (value : Json) : List Frame → Lexeme → Option Machine
  | .array items :: frames, .comma => some ⟨.value, .array (value :: items) :: frames⟩
  | .array items :: frames, .closeBracket =>
    some ⟨.more (.array (value :: items).reverse), frames⟩
  | .field fields key :: frames, .comma =>
    some ⟨.key, .object (insertField fields key value) :: frames⟩
  | .field fields key :: frames, .closeBrace =>
    some ⟨.more (.object (insertField fields key value)), frames⟩
  | _, _ => none

/-- Whether the innermost array or object may hold anything at its depth. -/
def mayHold (limits : Limits) (frames : List Frame) : Bool := frames.length ≤ limits.nesting

def step? (limits : Limits) (machine : Machine) (lexeme : Lexeme) : Option Machine :=
  match machine.expected, machine.frames, lexeme with
  | .valueOrEnd, _ :: frames, .closeBracket => some ⟨.more (.array []), frames⟩
  | .valueOrEnd, frames, _ => if mayHold limits frames then value? frames lexeme else none
  | .value, frames, _ => value? frames lexeme
  | .keyOrEnd, _ :: frames, .closeBrace => some ⟨.more (.object []), frames⟩
  | .keyOrEnd, frames, _ => if mayHold limits frames then key? frames lexeme else none
  | .key, frames, _ => key? frames lexeme
  | .colon, frames, .colon => some ⟨.value, frames⟩
  | .more value, frames, _ => more? value frames lexeme
  | _, _, _ => none

def run? (limits : Limits) : Machine → List Lexeme → Option Machine
  | machine, [] => some machine
  | machine, lexeme :: rest =>
    match machine.step? limits lexeme with
    | some next => run? limits next rest
    | none => none

end Machine

/-- The value of a text that is one JSON document and keeps to the limits. A repeated key takes its
last value. -/
def read? (limits : Limits) (text : String) : Option Json :=
  match lexemes? limits [] text.toList with
  | none => none
  | some lexemes =>
    match Machine.run? limits ⟨.value, []⟩ lexemes.reverse with
    | some ⟨.more value, []⟩ => some value
    | _ => none

end SharpToJava.Json
