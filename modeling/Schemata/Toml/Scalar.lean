import Schemata.Number.Binary64
import Schemata.Toml.Basic

/-!
# TOML scalars

Strings, numbers, dates and times. Each reader takes the characters from the first one of its scalar
on and returns what it read together with the rest.
-/

namespace Schemata

namespace Toml

/-- Reading something off the front of a text. -/
abbrev Reader (α : Type) := List Char → Except Fault (α × List Char)

/-- The fault of meeting the rest of a text where something else is needed. -/
def Fault.meeting : List Char → Fault
  | [] => .endOfText
  | c :: _ => .unexpected c

/-- Blanks within a line. -/
def isSpace (c : Char) : Bool := c == ' ' || c == '\t'

/-- Drop leading blanks. -/
def skipSpaces (cs : List Char) : List Char := cs.dropWhile isSpace

/-- Control characters other than the tab may not stand in strings and comments. -/
def isControl (c : Char) : Bool := (c.toNat < 0x20 && c != '\t') || c.toNat == 0x7F

/-- The value of a digit to a base. -/
def digitValue? (base : Nat) (c : Char) : Option Nat :=
  let value :=
    if c.isDigit then c.toNat - 48
    else if 'a' ≤ c ∧ c ≤ 'f' then c.toNat - 87
    else if 'A' ≤ c ∧ c ≤ 'F' then c.toNat - 55
    else base
  if value < base then some value else none

/-- The number that digits to a base stand for. -/
def digitsToNat (base : Nat) (digits : List Char) : Nat :=
  digits.foldl (fun n c ↦ n * base + (digitValue? base c).getD 0) 0

/-- The character of an escape of `count` hexadecimal digits. -/
def codeEscape (count : Nat) : Reader Char := fun cs ↦
  let digits := cs.take count
  let code := digitsToNat 16 digits
  let wellFormed := digits.length = count && digits.all fun c ↦ (digitValue? 16 c).isSome
  if wellFormed && code.isValidChar then
    .ok (Char.ofNat code, cs.drop count)
  else .error .badEscape

/-- The character of an escape after its backslash. -/
def escape : Reader Char
  | 'b' :: rest => .ok ('\x08', rest)
  | 't' :: rest => .ok ('\t', rest)
  | 'n' :: rest => .ok ('\n', rest)
  | 'f' :: rest => .ok ('\x0c', rest)
  | 'r' :: rest => .ok ('\r', rest)
  | 'e' :: rest => .ok ('\x1b', rest)
  | '"' :: rest => .ok ('"', rest)
  | '\\' :: rest => .ok ('\\', rest)
  | 'x' :: rest => codeEscape 2 rest
  | 'u' :: rest => codeEscape 4 rest
  | 'U' :: rest => codeEscape 8 rest
  | _ => .error .badEscape

/-- The rest of a string of one line after its opening quote; escapes count in basic strings only.
-/
def lineBody (quote : Char) (escapes : Bool) : (fuel : Nat) → (acc : String) → Reader String
  | 0, _, _ => .error .endOfText
  | _ + 1, _, [] => .error .endOfText
  | fuel + 1, acc, c :: rest =>
    if c == quote then .ok (acc, rest)
    else if c == '\\' && escapes then
      match escape rest with
      | .ok (c, rest) => lineBody quote escapes fuel (acc.push c) rest
      | .error fault => .error fault
    else if isControl c then .error (.unexpected c)
    else lineBody quote escapes fuel (acc.push c) rest

/-- Drop a line end, if one stands here. -/
def lineEnd? : List Char → Option (List Char)
  | '\n' :: rest => some rest
  | '\r' :: '\n' :: rest => some rest
  | _ => none

/-- Drop blanks and line ends. -/
def skipLines : (fuel : Nat) → List Char → List Char
  | 0, cs => cs
  | fuel + 1, cs =>
    match lineEnd? (skipSpaces cs) with
    | some rest => skipLines fuel rest
    | none => skipSpaces cs

/-- The rest of a string of several lines after its opening quotes. Up to two quotes may stand
before the closing three; a backslash at the end of a line drops the blanks that follow. -/
def linesBody (quote : Char) (escapes : Bool) : (fuel : Nat) → (acc : String) → Reader String
  | 0, _, _ => .error .endOfText
  | _ + 1, _, [] => .error .endOfText
  | fuel + 1, acc, c :: rest =>
    if c == quote then
      let quotes := (c :: rest).takeWhile (· == quote)
      if quotes.length < 3 then linesBody quote escapes fuel (acc.push c) rest
      else
        let count := min quotes.length 5
        .ok (acc ++ String.ofList (quotes.take (count - 3)), (c :: rest).drop count)
    else if c == '\\' && escapes then
      match lineEnd? (skipSpaces rest) with
      | some after => linesBody quote escapes fuel acc (skipLines fuel after)
      | none =>
        match escape rest with
        | .ok (c, rest) => linesBody quote escapes fuel (acc.push c) rest
        | .error fault => .error fault
    else
      match lineEnd? (c :: rest) with
      | some after =>
        let taken := (c :: rest).take ((c :: rest).length - after.length)
        linesBody quote escapes fuel (acc ++ String.ofList taken) after
      | none =>
        if isControl c then .error (.unexpected c)
        else linesBody quote escapes fuel (acc.push c) rest

/-- A string of one line. -/
def lineString : Reader String
  | '"' :: rest => lineBody '"' true (rest.length + 1) "" rest
  | '\'' :: rest => lineBody '\'' false (rest.length + 1) "" rest
  | cs => .error (.meeting cs)

/-- A string of several lines after its opening quotes; a line end directly after them is dropped.
-/
def linesString (quote : Char) (escapes : Bool) : Reader String := fun cs ↦
  let rest := (lineEnd? cs).getD cs
  linesBody quote escapes (rest.length + 1) "" rest

/-- A string of any form. -/
def anyString : Reader String
  | '"' :: '"' :: '"' :: rest => linesString '"' true rest
  | '\'' :: '\'' :: '\'' :: rest => linesString '\'' false rest
  | cs => lineString cs

/-- Split off a sign; there is none, or one of the two. -/
def splitSign : List Char → Option Char × List Char
  | '+' :: rest => (some '+', rest)
  | '-' :: rest => (some '-', rest)
  | cs => (none, cs)

/-- Drop the underscores of a number. Each stands between two digits; `behind` says that a digit
stands in front. -/
def ungroup? (isDigit : Char → Bool) (behind : Bool) : List Char → Option (List Char)
  | [] => some []
  | '_' :: rest =>
    if behind && rest.head?.any isDigit then ungroup? isDigit false rest else none
  | c :: rest => (ungroup? isDigit (isDigit c) rest).map (c :: ·)

/-- Whether a character is a digit to some base, which is what underscores in integers go by. -/
def isAnyDigit (c : Char) : Bool := (digitValue? 16 c).isSome

/-- The count of integers of 128 bits: 2^128. -/
def integerLimit : Nat := 1 <<< 128

/-- The integer with some digits, if 128 bits hold it, signed or unsigned. -/
def heldInteger (base : Nat) (negative : Bool) (digits : List Char) : Node :=
  let magnitude := digitsToNat base digits
  if digits.isEmpty || digits.any fun c ↦ (digitValue? base c).isNone then .unheld
  else if negative then if 2 * magnitude ≤ integerLimit then .integer (-magnitude) else .unheld
  else if magnitude < integerLimit then .integer magnitude
  else .unheld

/-- An integer to base ten, which has no leading zero. Behind an underscore, other characters than
digits are not looked at before its value is asked for. -/
def decimalInteger? (sign : Option Char) (cs : List Char) : Option Node :=
  if cs.head? == some '0' && cs.length != 1 then none
  else (ungroup? isAnyDigit false cs).map (heldInteger 10 (sign == some '-'))

/-- An integer after the prefix for its base. -/
def prefixedInteger? (base : Nat) (cs : List Char) : Option Node :=
  if cs.all fun c ↦ c == '_' || (digitValue? base c).isSome then
    (ungroup? isAnyDigit false cs).map (heldInteger base false)
  else none

/-- Whether a character starts an exponent. -/
def isExponentMark (c : Char) : Bool := c == 'e' || c == 'E'

/-- Decimal digits, with underscores, and the rest behind them. There is at least one digit, and
several do not start with a zero unless they are `padded`. -/
def digitRun? (padded : Bool) (cs : List Char) : Option (List Char × List Char) :=
  let run := cs.takeWhile fun c ↦ c.isDigit || c == '_'
  let count := run.countP Char.isDigit
  if count = 0 || (!padded && 1 < count && run.head? == some '0') then none
  else some (run, cs.drop run.length)

/-- The number that decimal digits with underscores stand for. -/
def runToNat (run : List Char) : Nat := digitsToNat 10 (run.filter Char.isDigit)

/-- A float: digits with a fraction, an exponent or both. -/
def float? (sign : Option Char) (cs : List Char) : Option Node := do
  let (whole, rest) ← digitRun? false cs
  let (fraction, rest) ← match rest with
    | '.' :: rest => digitRun? true rest
    | rest => some ([], rest)
  let (exponent, rest) ← match rest with
    | [] => some (0, [])
    | mark :: rest =>
      if !isExponentMark mark then none
      else
        let (exponentSign, rest) := splitSign rest
        (digitRun? true rest).map fun (run, rest) ↦
          (if exponentSign == some '-' then -(runToNat run : Int) else runToNat run, rest)
  if !rest.isEmpty then none
  let digits ← ungroup? Char.isDigit false cs
  let value := Binary64.ofDecimal? (sign == some '-') (runToNat (whole ++ fraction))
    (exponent - (fraction.countP Char.isDigit : Int))
  return if value.isSome then .float (String.ofList (sign.toList ++ digits)) else .unheld

/-- A number that is given by all of its characters. -/
def number? (cs : List Char) : Option Node :=
  let (sign, digits) := splitSign cs
  let rest := digits.dropWhile Char.isDigit
  match cs with
  | '0' :: 'x' :: cs => prefixedInteger? 16 cs
  | '0' :: 'o' :: cs => prefixedInteger? 8 cs
  | '0' :: 'b' :: cs => prefixedInteger? 2 cs
  | _ =>
    if digits == ['i', 'n', 'f'] || digits == ['n', 'a', 'n'] then some (.float (String.ofList cs))
    else if digits.isEmpty then none
    else if rest.any fun c ↦ c == '.' || isExponentMark c then float? sign digits
    else if rest.isEmpty || rest.head? == some '_' then decimalInteger? sign digits
    else none

/-- A number of two digits in a range. -/
def twoDigits? (least greatest : Nat) (a b : Char) : Option Nat :=
  if a.isDigit && b.isDigit then
    let n := digitsToNat 10 [a, b]
    if least ≤ n && n ≤ greatest then some n else none
  else none

/-- The number of days in a month. -/
def daysInMonth (year month : Nat) : Nat :=
  if month = 2 then
    if year % 4 = 0 && (year % 100 != 0 || year % 400 == 0) then 29 else 28
  else if month = 4 || month = 6 || month = 9 || month = 11 then 30
  else 31

/-- Whether the characters are a date. -/
def isDate : List Char → Bool
  | [y₁, y₂, y₃, y₄, '-', m₁, m₂, '-', d₁, d₂] =>
    [y₁, y₂, y₃, y₄].all Char.isDigit &&
      match twoDigits? 1 12 m₁ m₂ with
      | some month =>
        (twoDigits? 1 (daysInMonth (digitsToNat 10 [y₁, y₂, y₃, y₄]) month) d₁ d₂).isSome
      | none => false
  | _ => false

/-- Drop a fraction of a second, if there is one; a point needs digits. -/
def dropFraction? : List Char → Option (List Char)
  | '.' :: c :: rest => if c.isDigit then some (rest.dropWhile Char.isDigit) else none
  | '.' :: [] => none
  | cs => some cs

/-- What follows a time of day, none where there is no time of day. Seconds may be left out. -/
def afterTime? : List Char → Option (List Char)
  | h₁ :: h₂ :: ':' :: m₁ :: m₂ :: rest =>
    if (twoDigits? 0 23 h₁ h₂).isSome && (twoDigits? 0 59 m₁ m₂).isSome then
      match rest with
      | ':' :: s₁ :: s₂ :: rest =>
        if (twoDigits? 0 60 s₁ s₂).isSome then dropFraction? rest else none
      | rest => some rest
    else none
  | _ => none

/-- Whether the characters are an offset from universal time, or none at all. -/
def isOffset : List Char → Bool
  | [] => true
  | [c] => c == 'Z' || c == 'z'
  | [sign, h₁, h₂, ':', m₁, m₂] =>
    (sign == '+' || sign == '-') && (twoDigits? 0 23 h₁ h₂).isSome && (twoDigits? 0 59 m₁ m₂).isSome
  | _ => false

/-- Whether the characters are a time of day without an offset. -/
def isTime (cs : List Char) : Bool := afterTime? cs == some []

/-- Whether the characters are a date, a time, or both with or without an offset. -/
def isDatetime (cs : List Char) : Bool :=
  isDate cs || isTime cs ||
    (isDate (cs.take 10) && ((cs.drop 10).take 1).all (fun c ↦ c == 'T' || c == 't' || c == ' ')
      && ((afterTime? (cs.drop 11)).map isOffset).getD false)

/-- Characters of a value without quotes and brackets. -/
def isTokenChar (c : Char) : Bool := !"=,[]{} \t#\r\n".toList.contains c

/-- Split off a token. A blank belongs to it between a date and a time. -/
def splitToken (cs : List Char) : List Char × List Char :=
  let token := cs.takeWhile isTokenChar
  let rest := cs.dropWhile isTokenChar
  match rest with
  | ' ' :: c :: more =>
    if isDate token && c.isDigit then
      (token ++ ' ' :: (c :: more).takeWhile isTokenChar, (c :: more).dropWhile isTokenChar)
    else (token, rest)
  | _ => (token, rest)

/-- Whether digits and a hyphen or a colon come first, as in dates and times. -/
def isDatelike (cs : List Char) : Bool :=
  match cs.dropWhile Char.isDigit with
  | c :: rest => rest.length + 1 < cs.length && (c == '-' || c == ':')
  | [] => false

/-- A truth value, a number, a date or a time. -/
def plainScalar : Reader Node := fun cs ↦
  let (token, rest) := splitToken cs
  if token.isEmpty then .error (.meeting cs)
  else if token == "true".toList then .ok (.boolean true, rest)
  else if token == "false".toList then .ok (.boolean false, rest)
  else if isDatelike token then
    if isDatetime token then .ok (.datetime, rest) else .error .badDate
  else
    match number? token with
    | some node => .ok (node, rest)
    | none => .error .badNumber

end Toml

end Schemata
