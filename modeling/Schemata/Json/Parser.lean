import Schemata.Json.Basic

/-!
# Reading JSON text

`Json.parseRaw` reads a text as it stands, repeated member names included; `Json.parse` merges them.
Blanks are space, tab, line feed and carriage return. Containers nest at most `depthLimit` deep:
`textDepthLimit` is the limit for texts that a user supplies.
-/

namespace Schemata

namespace Json

/-- Why a text is not JSON. -/
inductive Fault where
  /-- The text ends too early. -/
  | endOfText
  /-- A character that cannot stand here. -/
  | unexpected (c : Char)
  /-- Containers nest too deep. -/
  | tooDeep
  /-- An escape that is not defined, or a surrogate without its partner. -/
  | badEscape
  /-- A control character inside a string. -/
  | controlCharacter
  /-- A number too large for binary64. -/
  | outOfRange
  deriving DecidableEq

/-- The text of a fault. -/
def Fault.message : Fault → String
  | .endOfText => "unexpected end of text"
  | .unexpected c => "unexpected character " ++ String.singleton c
  | .tooDeep => "recursion limit exceeded"
  | .badEscape => "invalid escape"
  | .controlCharacter => "control character in a string"
  | .outOfRange => "number out of range"

/-- How deep containers nest in a text that a user supplies. -/
def textDepthLimit : Nat := 127

/-- The fault of meeting the rest of a text where something else is needed. -/
private def Fault.meeting : List Char → Fault
  | [] => .endOfText
  | c :: _ => .unexpected c

/-- Blanks between tokens. -/
def isBlank (c : Char) : Bool := c == ' ' || c == '\t' || c == '\n' || c == '\r'

/-- Drop leading blanks. -/
def skipBlanks (cs : List Char) : List Char := cs.dropWhile isBlank

/-- The value of a hexadecimal digit of either case. -/
def hexValue? (c : Char) : Option Nat :=
  if c.isDigit then some (c.toNat - 48)
  else if 'a' ≤ c ∧ c ≤ 'f' then some (c.toNat - 87)
  else if 'A' ≤ c ∧ c ≤ 'F' then some (c.toNat - 55)
  else none

/-- The code of four hexadecimal digits. -/
private def hexCode? : List Char → Option (Nat × List Char)
  | a :: b :: c :: d :: rest => do
    let a ← hexValue? a
    let b ← hexValue? b
    let c ← hexValue? c
    let d ← hexValue? d
    return (((a * 16 + b) * 16 + c) * 16 + d, rest)
  | _ => none

/-- The character of a four-digit escape; a leading surrogate takes its partner along. -/
private def codeEscape (cs : List Char) : Except Fault (Char × List Char) :=
  match hexCode? cs with
  | none => .error .badEscape
  | some (high, rest) =>
    if 0xD800 ≤ high ∧ high < 0xDC00 then
      match rest with
      | '\\' :: 'u' :: rest =>
        match hexCode? rest with
        | some (low, rest) =>
          if 0xDC00 ≤ low ∧ low < 0xE000 then
            .ok (Char.ofNat (0x10000 + (high - 0xD800) * 0x400 + (low - 0xDC00)), rest)
          else .error .badEscape
        | none => .error .badEscape
      | _ => .error .badEscape
    else if 0xDC00 ≤ high ∧ high < 0xE000 then .error .badEscape
    else .ok (Char.ofNat high, rest)

/-- The rest of a string literal after its opening quote; `fuel` bounds the characters read. -/
private def stringBody :
    (fuel : Nat) → (acc : String) → List Char → Except Fault (String × List Char)
  | 0, _, _ => .error .endOfText
  | _ + 1, _, [] => .error .endOfText
  | _ + 1, acc, '"' :: rest => .ok (acc, rest)
  | fuel + 1, acc, '\\' :: c :: rest =>
    match c with
    | '"' | '\\' | '/' => stringBody fuel (acc.push c) rest
    | 'b' => stringBody fuel (acc.push '\x08') rest
    | 'f' => stringBody fuel (acc.push '\x0c') rest
    | 'n' => stringBody fuel (acc.push '\n') rest
    | 'r' => stringBody fuel (acc.push '\r') rest
    | 't' => stringBody fuel (acc.push '\t') rest
    | 'u' =>
      match codeEscape rest with
      | .ok (c, rest) => stringBody fuel (acc.push c) rest
      | .error fault => .error fault
    | _ => .error .badEscape
  | fuel + 1, acc, c :: rest =>
    if c.toNat < 0x20 then .error .controlCharacter else stringBody fuel (acc.push c) rest

/-- A number from its digits. -/
private def digitsValue (digits : List Char) : Nat :=
  digits.foldl (fun n c ↦ n * 10 + (c.toNat - 48)) 0

/-- Split off leading decimal digits. -/
private def spanDigits (cs : List Char) : List Char × List Char :=
  (cs.takeWhile Char.isDigit, cs.dropWhile Char.isDigit)

/-- The optional exponent of a number, none where its digits are missing. -/
private def exponent? (cs : List Char) : Except Fault (Option Int × List Char) :=
  match cs with
  | e :: rest =>
    if e == 'e' || e == 'E' then
      let (negative, rest) := match rest with
        | '-' :: rest => (true, rest)
        | '+' :: rest => (false, rest)
        | rest => (false, rest)
      let (digits, rest) := spanDigits rest
      if digits.isEmpty then .error (.meeting rest)
      else
        let n : Int := digitsValue digits
        .ok (some (if negative then -n else n), rest)
    else .ok (none, cs)
  | [] => .ok (none, [])

/-- The optional fraction digits of a number. -/
private def fraction? (cs : List Char) : Except Fault (Option (List Char) × List Char) :=
  match cs with
  | '.' :: rest =>
    let (digits, rest) := spanDigits rest
    if digits.isEmpty then .error (.meeting rest) else .ok (some digits, rest)
  | cs => .ok (none, cs)

/-- A number after its sign. -/
private def numberBody (negative : Bool) (cs : List Char) : Except Fault (Number × List Char) := do
  let (whole, rest) := match cs with
    | '0' :: rest => (['0'], rest)
    | cs => spanDigits cs
  if whole.isEmpty then throw (.meeting rest)
  let (fraction, rest) ← fraction? rest
  let (exponent, rest) ← exponent? rest
  let number := match fraction, exponent with
    | none, none => Number.ofIntegerToken? negative (digitsValue whole)
    | fraction, exponent =>
      let fraction := fraction.getD []
      (Binary64.ofDecimal? negative (digitsValue (whole ++ fraction))
        (exponent.getD 0 - fraction.length)).map .float
  match number with
  | some number => return (number, rest)
  | none => throw .outOfRange

mutual

/-- One document after blanks; `fuel` bounds the steps and `depth` the containers still allowed. -/
private def parseValue (fuel depth : Nat) (cs : List Char) : Except Fault (Json × List Char) :=
  match fuel with
  | 0 => .error .endOfText
  | fuel + 1 =>
    match skipBlanks cs with
    | 'n' :: 'u' :: 'l' :: 'l' :: rest => .ok (.null, rest)
    | 't' :: 'r' :: 'u' :: 'e' :: rest => .ok (.bool true, rest)
    | 'f' :: 'a' :: 'l' :: 's' :: 'e' :: rest => .ok (.bool false, rest)
    | '"' :: rest =>
      match stringBody (rest.length + 1) "" rest with
      | .ok (s, rest) => .ok (.string s, rest)
      | .error fault => .error fault
    | '[' :: rest =>
      match depth with
      | 0 => .error .tooDeep
      | depth + 1 =>
        match skipBlanks rest with
        | ']' :: rest => .ok (.array [], rest)
        | rest => parseItems fuel depth [] rest
    | '{' :: rest =>
      match depth with
      | 0 => .error .tooDeep
      | depth + 1 =>
        match skipBlanks rest with
        | '}' :: rest => .ok (.object [], rest)
        | rest => parseMembers fuel depth [] rest
    | '-' :: rest =>
      match numberBody true rest with
      | .ok (n, rest) => .ok (.number n, rest)
      | .error fault => .error fault
    | c :: rest =>
      if c.isDigit then
        match numberBody false (c :: rest) with
        | .ok (n, rest) => .ok (.number n, rest)
        | .error fault => .error fault
      else .error (.unexpected c)
    | [] => .error .endOfText

/-- The items of an array up to its closing bracket; `items` holds those read, last first. -/
private def parseItems (fuel depth : Nat) (items : List Json) (cs : List Char) :
    Except Fault (Json × List Char) :=
  match fuel with
  | 0 => .error .endOfText
  | fuel + 1 =>
    match parseValue fuel depth cs with
    | .error fault => .error fault
    | .ok (item, rest) =>
      match skipBlanks rest with
      | ',' :: rest => parseItems fuel depth (item :: items) rest
      | ']' :: rest => .ok (.array (item :: items).reverse, rest)
      | rest => .error (.meeting rest)

/-- The members of an object up to its closing brace; `members` holds those read, last first. -/
private def parseMembers (fuel depth : Nat) (members : List (String × Json)) (cs : List Char) :
    Except Fault (Json × List Char) :=
  match fuel with
  | 0 => .error .endOfText
  | fuel + 1 =>
    match skipBlanks cs with
    | '"' :: rest =>
      match stringBody (rest.length + 1) "" rest with
      | .error fault => .error fault
      | .ok (key, rest) =>
        match skipBlanks rest with
        | ':' :: rest =>
          match parseValue fuel depth rest with
          | .error fault => .error fault
          | .ok (value, rest) =>
            match skipBlanks rest with
            | ',' :: rest => parseMembers fuel depth ((key, value) :: members) rest
            | '}' :: rest => .ok (.object ((key, value) :: members).reverse, rest)
            | rest => .error (.meeting rest)
        | rest => .error (.meeting rest)
    | rest => .error (.meeting rest)

end

/-- Read a text as one document, keeping repeated member names. -/
def parseRaw (text : String) (depthLimit : Nat := textDepthLimit) : Except Fault Json :=
  let cs := text.toList
  match parseValue (2 * cs.length + 2) depthLimit cs with
  | .error fault => .error fault
  | .ok (doc, rest) =>
    match skipBlanks rest with
    | [] => .ok doc
    | c :: _ => .error (.unexpected c)

/-- Read a text as one document, merging repeated member names. -/
def parse (text : String) (depthLimit : Nat := textDepthLimit) : Except Fault Json :=
  (parseRaw text depthLimit).map normalize

end Json

end Schemata
