import Schemata.Json.Basic

/-!
# JSON text

Two layouts of the same tokens: `Json.compact` writes no space at all, `Json.pretty` indents by two
spaces, puts one blank after a colon and keeps empty containers closed. Strings escape the quote,
the backslash and the control characters below U+0020, and nothing else.
-/

namespace Schemata

namespace Json

/-- A lower-case hexadecimal digit. -/
private def hexDigit (n : Nat) : Char :=
  if n < 10 then Char.ofNat (48 + n) else Char.ofNat (87 + n)

/-- One character of a string literal, after `acc`. -/
def escapeChar (acc : String) (c : Char) : String :=
  match c with
  | '"' => acc ++ "\\\""
  | '\\' => acc ++ "\\\\"
  | '\x08' => acc ++ "\\b"
  | '\t' => acc ++ "\\t"
  | '\n' => acc ++ "\\n"
  | '\x0c' => acc ++ "\\f"
  | '\r' => acc ++ "\\r"
  | c =>
    if c.toNat < 0x20 then
      ((acc ++ "\\u00").push (hexDigit (c.toNat / 16))).push (hexDigit (c.toNat % 16))
    else acc.push c

/-- A string literal, after `acc`. -/
def quoteOnto (acc : String) (s : String) : String :=
  (s.toList.foldl escapeChar (acc.push '"')).push '"'

/-- A string literal. -/
def quote (s : String) : String := quoteOnto "" s

mutual

/-- The compact text, after `acc`. -/
def compactOnto (acc : String) : Json → String
  | .null => acc ++ "null"
  | .bool true => acc ++ "true"
  | .bool false => acc ++ "false"
  | .number n => acc ++ n.text
  | .string s => quoteOnto acc s
  | .array items => (compactItems (acc.push '[') true items).push ']'
  | .object members => (compactMembers (acc.push '{') true members).push '}'

/-- The items of an array with commas between them. -/
def compactItems (acc : String) (first : Bool) : List Json → String
  | [] => acc
  | item :: rest =>
    compactItems (compactOnto (if first then acc else acc.push ',') item) false rest

/-- The members of an object with commas between them. -/
def compactMembers (acc : String) (first : Bool) : List (String × Json) → String
  | [] => acc
  | (key, value) :: rest =>
    let acc := (quoteOnto (if first then acc else acc.push ',') key).push ':'
    compactMembers (compactOnto acc value) false rest

end

/-- The text without any space. -/
def compact (doc : Json) : String := compactOnto "" doc

/-- A line break and the indentation of a nesting level, after `acc`. -/
private def breakLine (acc : String) (level : Nat) : String :=
  acc ++ String.ofList ('\n' :: List.replicate (2 * level) ' ')

mutual

/-- The indented text at a nesting level, after `acc`. -/
def prettyOnto (acc : String) (level : Nat) : Json → String
  | .array [] => acc ++ "[]"
  | .object [] => acc ++ "\x7b\x7d"
  | .array items => (breakLine (prettyItems (acc.push '[') (level + 1) true items) level).push ']'
  | .object members =>
    (breakLine (prettyMembers (acc.push '{') (level + 1) true members) level).push '}'
  | other => compactOnto acc other

/-- The items of an array, one a line. -/
def prettyItems (acc : String) (level : Nat) (first : Bool) : List Json → String
  | [] => acc
  | item :: rest =>
    let acc := breakLine (if first then acc else acc.push ',') level
    prettyItems (prettyOnto acc level item) level false rest

/-- The members of an object, one a line. -/
def prettyMembers (acc : String) (level : Nat) (first : Bool) : List (String × Json) → String
  | [] => acc
  | (key, value) :: rest =>
    let acc := quoteOnto (breakLine (if first then acc else acc.push ',') level) key ++ ": "
    prettyMembers (prettyOnto acc level value) level false rest

end

/-- The text indented by two spaces a level. -/
def pretty (doc : Json) : String := prettyOnto "" 0 doc

/-- The text in one of the two layouts. -/
def render (doc : Json) (indented : Bool) : String := if indented then doc.pretty else doc.compact

end Json

end Schemata
