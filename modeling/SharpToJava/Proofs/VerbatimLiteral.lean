import SharpToJava.Compiler
import SharpToJava.Proofs.Phrase.Rendering

/-!
Verbatim literals. In the source a verbatim literal is its content with every double quote doubled.
In Java a string literal is read in two passes, Unicode escapes first and then the escapes of the
literal itself. Only backslashes are escaped on the way from one to the other. So the value is kept
exactly if the content has neither a double quote nor a line break; otherwise there is no Java
string literal at all.
-/

namespace SharpToJava

namespace JavaLiteral

/-- The UTF-16 code units of a character. -/
def units (c : Char) : List Nat :=
  let code := c.toNat
  if code < 0x10000 then [code]
  else [0xD800 + (code - 0x10000) / 0x400, 0xDC00 + (code - 0x10000) % 0x400]

def unitsOf (text : List Char) : List Nat := text.flatMap units

/-- The value of a digit of a base up to 16. -/
def digit? (base unit : Nat) : Option Nat :=
  let value :=
    if '0'.toNat ≤ unit ∧ unit ≤ '9'.toNat then unit - '0'.toNat
    else if 'A'.toNat ≤ unit ∧ unit ≤ 'F'.toNat then unit - 'A'.toNat + 10
    else if 'a'.toNat ≤ unit ∧ unit ≤ 'f'.toNat then unit - 'a'.toNat + 10
    else base
  if value < base then some value else none

/-- What was read last, where Unicode escapes are looked for. -/
inductive Pending where
  | nothing
  /-- A backslash that may begin an escape. -/
  | backslash
  /-- The beginning of an escape, with the value of its digits so far. -/
  | escape (value missing : Nat)

/-- Replaces Unicode escapes by the units that they name. Of two backslashes the second one begins
no escape. -/
def unescape : Pending → List Nat → Option (List Nat)
  | .nothing, [] => some []
  | .backslash, [] => some ['\\'.toNat]
  | .escape _ _, [] => none
  | .nothing, unit :: rest =>
    if unit = '\\'.toNat then unescape .backslash rest
    else (unescape .nothing rest).map (unit :: ·)
  | .backslash, unit :: rest =>
    if unit = 'u'.toNat then unescape (.escape 0 4) rest
    else (unescape .nothing rest).map (['\\'.toNat, unit] ++ ·)
  | .escape value missing, unit :: rest =>
    -- the letter in front of the digits may be repeated
    if missing = 4 ∧ unit = 'u'.toNat then unescape (.escape value missing) rest
    else
      match digit? 16 unit with
      | none => none
      | some digit =>
        if missing = 1 then (unescape .nothing rest).map ((16 * value + digit) :: ·)
        else unescape (.escape (16 * value + digit) (missing - 1)) rest

/-- What a character after a backslash stands for. -/
def escapes : List (Char × Char) :=
  [('b', '\x08'), ('s', ' '), ('t', '\t'), ('n', '\n'), ('f', '\x0c'), ('r', '\r'), ('"', '"'),
    ('\x27', '\x27'), ('\\', '\\')]

/-- What the units after a backslash stand for, and how many of them do. An escape by number takes
as many of three octal digits as stay below 256. -/
def escape? : List Nat → Option (Nat × Nat)
  | [] => none
  | first :: rest =>
    match escapes.find? (·.1.toNat == first) with
    | some (_, named) => some (named.toNat, 1)
    | none =>
      match digit? 8 first, rest[0]?.bind (digit? 8), rest[1]?.bind (digit? 8) with
      | none, _, _ => none
      | some high, none, _ => some (high, 1)
      | some high, some middle, none => some (8 * high + middle, 2)
      | some high, some middle, some low =>
        if high ≤ 3 then some (64 * high + 8 * middle + low, 3) else some (8 * high + middle, 2)

/-- The value of what follows the opening quote of a literal, if the closing quote ends it. -/
def body? (units : List Nat) : Option (List Nat) :=
  match units with
  | [] => none
  | unit :: rest =>
    if unit = '"'.toNat then if rest = [] then some [] else none
    else if unit = '\n'.toNat ∨ unit = '\r'.toNat then none
    else if unit = '\\'.toNat then
      match escape? rest with
      | none => none
      | some (value, taken) => (body? (rest.drop taken)).map (value :: ·)
    else (body? rest).map (unit :: ·)
termination_by units.length

/-- The value of a text that is a single string literal, in UTF-16 code units. -/
def value? (text : String) : Option (List Nat) :=
  match unescape .nothing (unitsOf text.toList) with
  | some (unit :: rest) => if unit = '"'.toNat then body? rest else none
  | _ => none

example : value? "\"a\\n\\101\\4000\\u0041\\\\u0041\"" =
    some (unitsOf "a\nA 00A\\u0041".toList) := by cbv

theorem unitsOf_append (first second : List Char) :
    unitsOf (first ++ second) = unitsOf first ++ unitsOf second :=
  List.flatMap_append

theorem mem_units_iff {c special : Char} (small : special.toNat < 0xD800) :
    special.toNat ∈ units c ↔ c = special := by
  rw [← Char.toNat_inj]
  unfold units
  dsimp only
  split
  case isTrue => rw [List.mem_singleton, eq_comm]
  case isFalse large =>
    simp only [List.mem_cons, List.not_mem_nil, or_false]
    omega

theorem unescape_append {plain : List Nat} (free : '\\'.toNat ∉ plain) (rest : List Nat) :
    unescape .nothing (plain ++ rest) = (unescape .nothing rest).map (plain ++ ·) := by
  induction plain with
  | nil => simp
  | cons unit others ih =>
      have first : unit ≠ '\\'.toNat := fun same => free (same ▸ List.mem_cons_self)
      have later : '\\'.toNat ∉ others := fun member => free (List.mem_cons_of_mem _ member)
      rw [List.cons_append, unescape, if_neg first, ih later, Option.map_map]
      rfl

theorem body?_append {plain : List Nat}
    (free : ∀ special ∈ ['"', '\n', '\r', '\\'], special.toNat ∉ plain) (rest : List Nat) :
    body? (plain ++ rest) = (body? rest).map (plain ++ ·) := by
  induction plain with
  | nil => simp
  | cons unit others ih =>
      have first : ∀ special ∈ ['"', '\n', '\r', '\\'], unit ≠ special.toNat :=
        fun special listed same => free special listed (same ▸ List.mem_cons_self)
      have later : ∀ special ∈ ['"', '\n', '\r', '\\'], special.toNat ∉ others :=
        fun special listed member => free special listed (List.mem_cons_of_mem _ member)
      have unbroken : ¬(unit = '\n'.toNat ∨ unit = '\r'.toNat) :=
        not_or.mpr ⟨first '\n' (by simp), first '\r' (by simp)⟩
      rw [List.cons_append, body?, if_neg (first '"' (by simp)), if_neg unbroken,
        if_neg (first '\\' (by simp)), ih later, Option.map_map]
      rfl

end JavaLiteral

namespace Verbatim

open JavaLiteral

/-- The verbatim literal of a content: quotes are doubled and everything else stands for itself. -/
def literal (content : String) : String :=
  let doubled := content.toList.flatMap fun c => if c = '"' then ['"', '"'] else [c]
  "@\"" ++ String.ofList doubled ++ "\""

/-- What is written for a character of a verbatim literal. -/
def written (c : Char) : List Char :=
  if c = '"' then ['"', '"'] else if c = '\\' then ['\\', '\\'] else [c]

theorem unverbatim_literal (content : String) :
    unverbatim (literal content) =
      "\"" ++ String.ofList (content.toList.flatMap written) ++ "\"" := by
  have spelled : (literal content).toList = '@' :: '"' ::
      (content.toList.flatMap fun c => if c = '"' then ['"', '"'] else [c]) ++ ['"'] := by
    simp [literal]
  have doubled : ∀ c, (if c = '"' then ['"', '"'] else [c]).flatMap
      (fun c => if c = '\\' then ['\\', '\\'] else [c]) = written c := by
    intro c
    unfold written
    split <;> simp
  apply String.toList_inj.mp
  simp [unverbatim, spelled, List.flatMap_assoc, doubled]

/-- A character that a Java string literal can hold, as it is or after a backslash. -/
def isPlain (c : Char) : Bool := c != '"' && c != '\n' && c != '\r'

theorem all_isPlain_iff {content : List Char} :
    content.all isPlain = true ↔ ∀ c ∈ content, c ≠ '"' ∧ c ≠ '\n' ∧ c ≠ '\r' := by
  simp [isPlain, and_assoc]

variable {c : Char}

theorem unescape_written (c : Char) (rest : List Nat) :
    unescape .nothing (unitsOf (written c) ++ rest) =
      (unescape .nothing rest).map (unitsOf (written c) ++ ·) := by
  unfold written
  split
  case isTrue => exact unescape_append (by decide) rest
  case isFalse =>
    split
    case isTrue => rfl
    case isFalse other =>
      rw [unitsOf, List.flatMap_singleton]
      exact unescape_append (fun member => other ((mem_units_iff (by decide)).mp member)) rest

theorem body?_of_isPlain (plain : isPlain c = true) (rest : List Nat) :
    body? (unitsOf (written c) ++ rest) = (body? rest).map (units c ++ ·) := by
  simp only [isPlain, Bool.and_eq_true, bne_iff_ne] at plain
  obtain ⟨⟨quote, newline⟩, carriage⟩ := plain
  rw [written, if_neg quote]
  split
  case isTrue slash =>
    rw [slash]
    change body? ('\\'.toNat :: '\\'.toNat :: rest) = _
    rw [body?, if_neg (by decide), if_neg (by decide), if_pos rfl]
    rfl
  case isFalse other =>
    rw [unitsOf, List.flatMap_singleton]
    refine body?_append ?_ rest
    simp only [List.mem_cons, List.not_mem_nil, or_false]
    rintro special (rfl | rfl | rfl | rfl)
    · exact fun member => quote ((mem_units_iff (by decide)).mp member)
    · exact fun member => newline ((mem_units_iff (by decide)).mp member)
    · exact fun member => carriage ((mem_units_iff (by decide)).mp member)
    · exact fun member => other ((mem_units_iff (by decide)).mp member)

/-- The first of two quotes ends the literal too early, and a line break must not be in it. -/
theorem body?_of_not_isPlain (special : isPlain c = false) (rest : List Nat) :
    body? (unitsOf (written c) ++ rest) = none := by
  simp only [isPlain, Bool.and_eq_false_iff, bne_eq_false_iff_eq] at special
  rcases special with (rfl | rfl) | rfl
  · change body? ('"'.toNat :: '"'.toNat :: rest) = none
    rw [body?, if_pos rfl, if_neg (List.cons_ne_nil _ _)]
  · change body? ('\n'.toNat :: rest) = none
    rw [body?, if_neg (by decide), if_pos (.inl rfl)]
  · change body? ('\r'.toNat :: rest) = none
    rw [body?, if_neg (by decide), if_pos (.inr rfl)]

theorem unescape_content (content : List Char) (rest : List Nat) :
    unescape .nothing (unitsOf (content.flatMap written) ++ rest) =
      (unescape .nothing rest).map (unitsOf (content.flatMap written) ++ ·) := by
  induction content with
  | nil => simp [unitsOf]
  | cons c others ih =>
      rw [List.flatMap_cons, unitsOf_append, List.append_assoc, unescape_written, ih,
        Option.map_map]
      simp [Function.comp_def]

theorem body?_content (content : List Char) :
    body? (unitsOf (content.flatMap written) ++ ['"'.toNat]) =
      if content.all isPlain then some (unitsOf content) else none := by
  induction content with
  | nil => rw [List.flatMap_nil, unitsOf, List.flatMap_nil, List.nil_append, body?]; rfl
  | cons c others ih =>
      rw [List.flatMap_cons, unitsOf_append, List.append_assoc, List.all_cons]
      cases plain : isPlain c with
      | true =>
          rw [body?_of_isPlain plain, ih, Bool.true_and]
          cases others.all isPlain <;> rfl
      | false => rw [body?_of_not_isPlain plain, Bool.false_and]; rfl

theorem value?_unverbatim (content : String) :
    value? (unverbatim (literal content)) =
      if content.toList.all isPlain then some (unitsOf content.toList) else none := by
  have spelled : unitsOf (unverbatim (literal content)).toList =
      ['"'.toNat] ++ (unitsOf (content.toList.flatMap written) ++ ['"'.toNat]) := by
    rw [unverbatim_literal]
    simp only [String.toList_append, String.toList_ofList, unitsOf_append, List.append_assoc]
    rfl
  rw [value?, spelled, unescape_append (by decide), unescape_content]
  exact body?_content content.toList

end Verbatim

/-- A verbatim literal is written as a Java string literal of the same value exactly if its content
has neither a double quote nor a line break. Otherwise what is written is no string literal. -/
theorem verbatim_value_kept_iff (place : Place) (token : Token) (content : String)
    (kind : place.kind = .literal) (first : place.node.firstToken? = some token)
    (string : token.kind = .stringLiteral) (verbatim : token.text = Verbatim.literal content)
    (profile : Profile) (depth : Int) :
    ∃ text, (∀ journal, (place.expression profile depth).run journal = .ok text journal) ∧
      (JavaLiteral.value? text = some (JavaLiteral.unitsOf content.toList) ↔
        ∀ c ∈ content.toList, c ≠ '"' ∧ c ≠ '\n' ∧ c ≠ '\r') ∧
      (JavaLiteral.value? text = none ↔ ∃ c ∈ content.toList, c = '"' ∨ c = '\n' ∨ c = '\r') := by
  have rendered :
      place.expression profile depth = pure (unverbatim (Verbatim.literal content)) := by
    have phrase : place.phrase = .text place.node.literalText := by
      rw [Place.phrase]
      simp only [show place.node.kind = .literal from kind]
    rw [Place.expression, phrase, Phrase.render_text, Node.literalText, first]
    simp only [string, if_true, verbatim]
  refine ⟨_, fun journal => by rw [rendered]; rfl, ?_, ?_⟩
  · rw [Verbatim.value?_unverbatim, ← Verbatim.all_isPlain_iff]
    cases content.toList.all Verbatim.isPlain <;> simp
  · have special : (∃ c ∈ content.toList, c = '"' ∨ c = '\n' ∨ c = '\r') ↔
        ¬content.toList.all Verbatim.isPlain = true := by
      rw [Verbatim.all_isPlain_iff]
      grind
    rw [Verbatim.value?_unverbatim, special]
    cases content.toList.all Verbatim.isPlain <;> simp

/-- `@"C:\dir"` -/
def Place.verbatimPath : Place where
  node := .mk { kind := .literal } [.token { kind := .stringLiteral, text := "@\"C:\\dir\"" }]

/-- `@"say ""hi"""` -/
def Place.verbatimQuotes : Place where
  node := .mk { kind := .literal }
    [.token { kind := .stringLiteral, text := "@\"say \"\"hi\"\"\"" }]

/-- A path keeps its value, a content with quotes does not. -/
theorem verbatim_value_kept_path :
    (∃ text, (∀ journal, (Place.verbatimPath.expression (Profile.java true) 0).run journal =
        .ok text journal) ∧
      JavaLiteral.value? text = some (JavaLiteral.unitsOf "C:\\dir".toList)) ∧
    ∃ text, (∀ journal, (Place.verbatimQuotes.expression (Profile.java true) 0).run journal =
        .ok text journal) ∧
      JavaLiteral.value? text = none := by
  constructor
  · obtain ⟨text, written, kept, -⟩ := verbatim_value_kept_iff Place.verbatimPath _ "C:\\dir"
      rfl rfl rfl (by decide) (Profile.java true) 0
    exact ⟨text, written, kept.mpr (Verbatim.all_isPlain_iff.mp (by decide))⟩
  · obtain ⟨text, written, -, lost⟩ := verbatim_value_kept_iff Place.verbatimQuotes _ "say \"hi\""
      rfl rfl rfl (by decide) (Profile.java true) 0
    exact ⟨text, written, lost.mpr ⟨'"', by decide, .inl rfl⟩⟩

end SharpToJava
