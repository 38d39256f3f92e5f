import Schemata.Pattern.Escape

/-!
# Classes in brackets

The inside of brackets: characters and escapes, ranges, ASCII classes by name, classes within, and
set operations, which bind to the left.
-/

namespace Schemata.Pattern

/-- How deep the parts of a pattern may nest. -/
def nestLimit : Nat := 250

/-- An ASCII class by name, after its bracket and colon and up to a colon and a bracket. -/
def namedClass : Reader ClassTree := fun cs ↦
  let (negated, cs) := match cs with
    | '^' :: rest => (true, rest)
    | _ => (false, cs)
  match cs.dropWhile (· != ':') with
  | ':' :: ']' :: rest =>
    (CharSet.asciiClass? (String.ofList (cs.takeWhile (· != ':')))).map fun set ↦
      (.ascii set negated, rest)
  | _ => none

/-- An escape, or the character itself. -/
def classAtom (verbose : Bool) : Reader Atom
  | [] => none
  | '\\' :: rest => escape verbose rest
  | c :: rest => some (.literal ⟨c, false⟩, rest)

/-- What follows a hyphen once blanks are passed over. Of a comment only its sign and the blanks
behind it are, and where nothing else is left, it is the character directly after the hyphen. -/
def afterHyphen? (verbose : Bool) (cs : List Char) : Option Char :=
  if verbose then
    match cs.dropWhile isBlank with
    | '#' :: rest => (rest.dropWhile isBlank).head? <|> cs.head?
    | rest => rest.head? <|> cs.head?
  else cs.head?

/-- A range of characters, or a single item. A hyphen makes no range before a closing bracket or
another hyphen. -/
def classRange (verbose : Bool) : Reader ClassTree := fun cs ↦ do
  let (first, rest) ← classAtom verbose cs
  match skip verbose rest with
  | [] => none
  | '-' :: after =>
    let next := afterHyphen? verbose after
    if next == some ']' || next == some '-' then
      let item ← first.classItem?
      return (item, '-' :: after)
    else
      let (last, rest) ← classAtom verbose (skip verbose after)
      match first, last with
      | .literal first, .literal last =>
        if first.char ≤ last.char then some (.range first last, rest) else none
      | _, _ => none
  | rest =>
    let item ← first.classItem?
    return (item, rest)

/-- Leading hyphens of a class, which stand for themselves; `fuel` bounds their number. -/
def leadingHyphens (verbose : Bool) : (fuel : Nat) → List Char → List ClassTree × List Char
  | 0, cs => ([], cs)
  | fuel + 1, cs =>
    match skip verbose cs with
    | '-' :: rest =>
      let (hyphens, rest) := leadingHyphens verbose fuel rest
      (.literal ⟨'-', false⟩ :: hyphens, rest)
    | rest => ([], rest)

/-- How a class begins after its bracket: whether it is negated, and the hyphens or the closing
bracket that stand first and for themselves. -/
def classOpening (verbose : Bool) (cs : List Char) : Bool × List ClassTree × List Char :=
  let (negated, rest) := match skip verbose cs with
    | '^' :: rest => (true, rest)
    | rest => (false, rest)
  match leadingHyphens verbose rest.length rest with
  | ([], ']' :: rest) => (negated, [.literal ⟨']', false⟩], rest)
  | (hyphens, rest) => (negated, hyphens, rest)

/-- The rest of a class up to its closing bracket. `room` says how many brackets may still open,
`pending` is the operation that waits for its right side, and `items` holds that side so far, last
first. -/
def classBody (verbose : Bool) : (fuel room : Nat) → (pending : Option (SetOp × ClassTree)) →
    (items : List ClassTree) → Reader ClassTree
  | 0, _, _, _, _ => none
  | fuel + 1, room, pending, items, cs =>
    let side := ClassTree.ofItems items
    let settled := match pending with
      | some (op, left) => .operation op left side
      | none => side
    match skip verbose cs with
    | [] => none
    | ']' :: rest => some (settled, rest)
    | '[' :: rest =>
      match (match rest with | ':' :: rest => namedClass rest | _ => none) with
      | some (item, rest) => classBody verbose fuel room pending (item :: items) rest
      | none =>
        match room with
        | 0 => none
        | room + 1 =>
          let (negated, opening, rest) := classOpening verbose rest
          match classBody verbose fuel room none opening rest with
          | none => none
          | some (body, rest) =>
            classBody verbose fuel (room + 1) pending (.nested negated body :: items) rest
    | '&' :: '&' :: rest => classBody verbose fuel room (some (.inter, settled)) [] rest
    | '-' :: '-' :: rest => classBody verbose fuel room (some (.diff, settled)) [] rest
    | '~' :: '~' :: rest => classBody verbose fuel room (some (.symmDiff, settled)) [] rest
    | cs =>
      match classRange verbose cs with
      | none => none
      | some (item, rest) => classBody verbose fuel room pending (item :: items) rest

/-- A class after its opening bracket. -/
def bracketed (verbose : Bool) : Reader Tree := fun cs ↦ do
  let (negated, opening, rest) := classOpening verbose cs
  let (body, rest) ← classBody verbose (rest.length + 1) nestLimit none opening rest
  return (.bracketed negated body, rest)

end Schemata.Pattern
