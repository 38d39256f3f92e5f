import Schemata.Pattern.Tree

/-!
# Escapes in patterns

What a backslash and the characters behind it stand for. A verbose pattern may hold blanks, and
comments from `#` to the end of the line, between the parts of an escape; readers take `verbose` and
pass over them.
-/

namespace Schemata.Pattern

/-- Reading something off the front of a pattern. -/
abbrev Reader (α : Type) := List Char → Option (α × List Char)

/-- Blanks of a verbose pattern. -/
def isBlank (c : Char) : Bool := CharSet.whiteSpace.contains c

/-- Drop leading blanks and comments; the text begins inside a comment if `inComment`. -/
def dropBlanks (inComment : Bool) : List Char → List Char
  | [] => []
  | c :: rest =>
    if inComment then dropBlanks (c != '\n') rest
    else if isBlank c then dropBlanks false rest
    else if c == '#' then dropBlanks true rest
    else c :: rest

/-- Pass over blanks and comments in a verbose pattern. -/
def skip (verbose : Bool) (cs : List Char) : List Char :=
  if verbose then dropBlanks false cs else cs

/-- A single character, an escape or not, in a class or outside. -/
inductive Atom where
  /-- A character. -/
  | literal (literal : Literal)
  /-- A class that a letter stands for. -/
  | shorthand (shorthand : Shorthand) (negated : Bool)
  /-- The characters with a property. -/
  | property (query : PropertyQuery) (negated : Bool)
  /-- A condition on the place. -/
  | place (place : Place)

namespace Atom

/-- The tree of an atom outside classes. -/
def toTree : Atom → Tree
  | .literal l => .literal l
  | .shorthand s negated => .shorthand s negated
  | .property query negated => .property query negated
  | .place p => .place p

/-- The item that an atom is in a class, where places have no meaning. -/
def classItem? : Atom → Option ClassTree
  | .literal l => some (.literal l)
  | .shorthand s negated => some (.shorthand s negated)
  | .property query negated => some (.property query negated)
  | .place _ => none

end Atom

/-- The value of a hexadecimal digit. -/
def hexValue? (c : Char) : Option Nat :=
  if c.isDigit then some (c.toNat - 48)
  else if 'a' ≤ c ∧ c ≤ 'f' then some (c.toNat - 87)
  else if 'A' ≤ c ∧ c ≤ 'F' then some (c.toNat - 55)
  else none

/-- The character with a code, if it is one. -/
def charOf? (code : Nat) : Option Char :=
  if code.isValidChar then some (Char.ofNat code) else none

/-- The number that `count` hexadecimal digits stand for, after those in `value`. -/
def hexDigits (verbose : Bool) : (count value : Nat) → Reader Nat
  | 0, value, cs => some (value, skip verbose cs)
  | count + 1, value, cs => do
    let c :: rest := skip verbose cs | none
    let digit ← hexValue? c
    hexDigits verbose count (value * 16 + digit) rest

/-- The characters up to a closing brace, which is dropped; `read` holds those so far, last first.
-/
def untilBrace (verbose inComment : Bool) (read : List Char) : Reader (List Char)
  | [] => none
  | c :: rest =>
    if inComment then untilBrace verbose (c != '\n') read rest
    else if c == '}' then some (read.reverse, rest)
    else if verbose && isBlank c then untilBrace verbose false read rest
    else if verbose && c == '#' then untilBrace verbose true read rest
    else untilBrace verbose false (c :: read) rest

/-- The character of a hexadecimal escape of `count` digits, or of any number of them in braces. Two
digits without braces give a byte. -/
def hexEscape (verbose : Bool) (count : Nat) : Reader Literal := fun cs ↦
  match skip verbose cs with
  | '{' :: rest => do
    let (digits, rest) ← untilBrace verbose false [] rest
    if digits.isEmpty then none
    let values ← digits.mapM hexValue?
    let c ← charOf? (values.foldl (fun n digit ↦ n * 16 + digit) 0)
    return (⟨c, false⟩, skip verbose rest)
  | cs => do
    let (code, rest) ← hexDigits verbose count 0 cs
    let c ← charOf? code
    return (⟨c, count == 2⟩, rest)

/-- Split at the first occurrence of a word, which is dropped. -/
def splitAt? (word : List Char) : List Char → Option (List Char × List Char)
  | [] => none
  | c :: rest =>
    if word.isPrefixOf (c :: rest) then some ([], (c :: rest).drop word.length)
    else (splitAt? word rest).map fun (before, after) ↦ (c :: before, after)

/-- The query between the braces of a property escape, and whether `!=` negates it. -/
def bracedQuery (name : List Char) : PropertyQuery × Bool :=
  let valued (property value : List Char) : PropertyQuery :=
    .valued (String.ofList property) (String.ofList value)
  match splitAt? ['!', '='] name with
  | some (property, value) => (valued property value, true)
  | none =>
    match splitAt? [':'] name <|> splitAt? ['='] name with
    | some (property, value) => (valued property value, false)
    | none => (.alone (String.ofList name), false)

/-- A property escape after its letter: a name in braces or of one letter. -/
def propertyEscape (verbose negated : Bool) : Reader Atom := fun cs ↦
  match skip verbose cs with
  | [] => none
  | '\\' :: _ => none
  | '{' :: rest => do
    let (name, rest) ← untilBrace verbose false [] rest
    let (query, differs) := bracedQuery name
    return (.property query (negated != differs), rest)
  | c :: rest => some (.property (.alone (String.singleton c)) negated, skip verbose rest)

/-- Letters and hyphens; `fuel` bounds their number. -/
def boundaryName (verbose : Bool) : (fuel : Nat) → List Char → List Char × List Char
  | 0, cs => ([], cs)
  | fuel + 1, cs =>
    match skip verbose cs with
    | [] => ([], [])
    | c :: rest =>
      if c.isAlpha || c == '-' then
        let (name, rest) := boundaryName verbose fuel rest
        (c :: name, rest)
      else ([], c :: rest)

/-- A word boundary after its letter, with an optional name in braces. Braces that start with
anything but a letter or a hyphen belong to a repetition. A name has at most 10 characters, so it is
enough to read one more. -/
def boundaryEscape (verbose : Bool) : Reader Place := fun cs ↦
  match cs with
  | '{' :: rest =>
    match boundaryName verbose 11 rest with
    | ([], []) => none
    | ([], _ :: _) => some (.wordBoundary, cs)
    | (name, '}' :: rest) =>
      match String.ofList name with
      | "start" => some (.wordStart, rest)
      | "end" => some (.wordEnd, rest)
      | "start-half" => some (.noWordBefore, rest)
      | "end-half" => some (.noWordAfter, rest)
      | _ => none
    | _ => none
  | _ => some (.wordBoundary, cs)

/-- An escape after its backslash. Any character of ASCII that is neither a letter nor a digit
stands for itself. -/
def escape (verbose : Bool) : Reader Atom
  | [] => none
  | c :: rest =>
    let literal (c : Char) : Option (Atom × List Char) := some (.literal ⟨c, false⟩, rest)
    let place (place : Place) : Option (Atom × List Char) := some (.place place, rest)
    let shorthand (shorthand : Shorthand) (negated : Bool) : Option (Atom × List Char) :=
      some (.shorthand shorthand negated, rest)
    let hex (count : Nat) : Option (Atom × List Char) :=
      (hexEscape verbose count rest).map fun (literal, rest) ↦ (.literal literal, rest)
    match c with
    | 'x' => hex 2
    | 'u' => hex 4
    | 'U' => hex 8
    | 'p' => propertyEscape verbose false rest
    | 'P' => propertyEscape verbose true rest
    | 'd' => shorthand .digit false
    | 'D' => shorthand .digit true
    | 's' => shorthand .space false
    | 'S' => shorthand .space true
    | 'w' => shorthand .word false
    | 'W' => shorthand .word true
    | 'a' => literal '\x07'
    | 'f' => literal '\x0c'
    | 't' => literal '\t'
    | 'n' => literal '\n'
    | 'r' => literal '\r'
    | 'v' => literal '\x0b'
    | 'A' => place .textStart
    | 'z' => place .textEnd
    | 'b' => (boundaryEscape verbose rest).map fun (place, rest) ↦ (.place place, rest)
    | 'B' => place .noWordBoundary
    | '<' => place .wordStart
    | '>' => place .wordEnd
    | c => if c.toNat < 0x80 && !c.isAlphanum then literal c else none

end Schemata.Pattern
