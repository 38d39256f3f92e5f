import Schemata.Pattern.Brackets

/-!
# Reading patterns

The syntax of patterns: literals and escapes, classes, groups with names and switches, alternatives,
greedy and lazy repetition, and conditions on a place. Look-around and back-references are no part
of it. `Tree.parse?` reads a whole pattern.
-/

namespace Schemata.Pattern

/-- The capturing groups so far. -/
structure Groups where
  /-- How many there are. -/
  count : Nat := 0
  /-- The names they have. -/
  names : List String := []

/-- One more group, whose name must be new. -/
def Groups.add? (groups : Groups) (name : Option String) : Option Groups :=
  if name.any groups.names.contains then none
  else some ⟨groups.count + 1, name.toList ++ groups.names⟩

/-- What follows the opening parenthesis of a group. -/
inductive GroupHead where
  /-- A group that captures, with its name. -/
  | capture (name : Option String)
  /-- A group that sets switches for its inside. -/
  | scoped (change : FlagChange)
  /-- Switches for the rest of the enclosing group. -/
  | flags (change : FlagChange)

/-- The switch that a letter names. -/
def Flag.ofLetter? : Char → Option Flag
  | 'i' => some .ignoreCase
  | 'm' => some .multiLine
  | 's' => some .dotAll
  | 'R' => some .crlf
  | 'u' => some .unicode
  | 'U' => some .fewFirst
  | 'x' => some .verbose
  | _ => none

/-- How a change leaves the reading of blanks. -/
def FlagChange.verbose (change : FlagChange) (verbose : Bool) : Bool :=
  (change.lookup .verbose).getD verbose

/-- The switches of a group after its question mark, up to a colon or a closing parenthesis, which
stays. `read` holds the switches so far, last first; they are set while `on`, which a hyphen ends,
and `hyphen` says that it stands directly before. -/
def flagChange (read : FlagChange) (on hyphen : Bool) : Reader FlagChange
  | [] => none
  | c :: rest =>
    if c == ':' || c == ')' then if hyphen then none else some (read.reverse, c :: rest)
    else if c == '-' then if on then flagChange read false true rest else none
    else
      match Flag.ofLetter? c with
      | none => none
      | some flag =>
        if (read.lookup flag).isSome then none
        else flagChange ((flag, on) :: read) on false rest

/-- The name of a group up to its closing angle bracket; `read` holds its characters so far, last
first. -/
def groupName (read : List Char) : Reader String
  | [] => none
  | '>' :: rest => if read.isEmpty then none else some (String.ofList read.reverse, rest)
  | c :: rest =>
    let isFirst := c == '_' || CharSet.alphabetic.contains c
    let isInner := isFirst || c == '.' || c == '[' || c == ']' || CharSet.numeric.contains c
    if if read.isEmpty then isFirst else isInner then groupName (c :: read) rest else none

/-- The head of a group after its opening parenthesis. -/
def groupHead : Reader GroupHead := fun cs ↦
  let named (cs : List Char) : Option (GroupHead × List Char) :=
    (groupName [] cs).map fun (name, rest) ↦ (.capture (some name), rest)
  match cs with
  | '?' :: '=' :: _ | '?' :: '!' :: _ | '?' :: '<' :: '=' :: _ | '?' :: '<' :: '!' :: _ => none
  | '?' :: 'P' :: '<' :: rest => named rest
  | '?' :: '<' :: rest => named rest
  | '?' :: rest =>
    match flagChange [] true false rest with
    | some (change, ':' :: rest) => some (.scoped change, rest)
    | some (change, ')' :: rest) => if change.isEmpty then none else some (.flags change, rest)
    | _ => none
  | cs => some (.capture none, cs)

/-- Decimal digits; `fuel` bounds their number. -/
def digits (verbose : Bool) : (fuel : Nat) → List Char → List Char × List Char
  | 0, cs => ([], cs)
  | _ + 1, [] => ([], [])
  | fuel + 1, c :: rest =>
    if c.isDigit then
      let (more, rest) := digits verbose fuel (skip verbose rest)
      (c :: more, rest)
    else ([], c :: rest)

/-- A decimal number of 32 bits, with blanks around it. -/
def decimal (verbose : Bool) : Reader Nat := fun cs ↦
  let cs := cs.dropWhile isBlank
  let (digits, rest) := digits verbose cs.length cs
  let value := digits.foldl (fun n c ↦ n * 10 + (c.toNat - 48)) 0
  if digits.isEmpty || 4294967295 < value then none else some (value, rest.dropWhile isBlank)

/-- The bounds of a counted repetition after its brace. -/
def bounds (verbose : Bool) : Reader (Nat × Option Nat) := fun cs ↦ do
  let (min, rest) ← decimal verbose (skip verbose cs)
  match rest with
  | '}' :: rest => return ((min, some min), skip verbose rest)
  | ',' :: rest =>
    match skip verbose rest with
    | '}' :: rest => return ((min, none), skip verbose rest)
    | rest =>
      let (max, rest) ← decimal verbose rest
      match rest with
      | '}' :: rest => if min ≤ max then some ((min, some max), skip verbose rest) else none
      | _ => none
  | _ => none

/-- Repeat the last item. Without one, or behind switches, there is nothing to repeat. -/
def repeatLast? (min : Nat) (max : Option Nat) (greedy : Bool) : List Tree → Option (List Tree)
  | [] => none
  | .flags _ :: _ => none
  | item :: items => some (.times min max greedy item :: items)

/-- Read alternatives up to a closing parenthesis, which stays, or the end. `room` says how many
groups may still open, `branches` holds the finished alternatives and `items` the parts of the one
under way, both last first. -/
def alternatives : (fuel room : Nat) → (verbose : Bool) → (groups : Groups) →
    (branches items : List Tree) → Reader (Tree × Groups)
  | 0, _, _, _, _, _, _ => none
  | fuel + 1, room, verbose, groups, branches, items, cs =>
    let push (read : Option (Tree × List Char)) : Option ((Tree × Groups) × List Char) :=
      match read with
      | some (item, rest) => alternatives fuel room verbose groups branches (item :: items) rest
      | none => none
    let replace (min : Nat) (max : Option Nat) (rest : List Char) :
        Option ((Tree × Groups) × List Char) :=
      let (greedy, rest) := match rest with
        | '?' :: rest => (false, rest)
        | _ => (true, rest)
      match repeatLast? min max greedy items with
      | some items => alternatives fuel room verbose groups branches items rest
      | none => none
    match skip verbose cs with
    | [] => some ((Tree.ofBranches (Tree.ofItems items :: branches), groups), [])
    | ')' :: rest => some ((Tree.ofBranches (Tree.ofItems items :: branches), groups), ')' :: rest)
    | '|' :: rest =>
      alternatives fuel room verbose groups (Tree.ofItems items :: branches) [] rest
    | '(' :: rest =>
      match groupHead (skip verbose rest) with
      | none => none
      | some (.flags change, rest) =>
        let verbose := change.verbose verbose
        alternatives fuel room verbose groups branches (.flags change :: items) rest
      | some (.capture name, rest) =>
        match room, groups.add? name with
        | room + 1, some inner =>
          match alternatives fuel room verbose inner [] [] rest with
          | some ((body, inner), ')' :: rest) =>
            alternatives fuel (room + 1) verbose inner branches
              (.capture (groups.count + 1) body :: items) rest
          | _ => none
        | _, _ => none
      | some (.scoped change, rest) =>
        match room with
        | 0 => none
        | room + 1 =>
          match alternatives fuel room (change.verbose verbose) groups [] [] rest with
          | some ((body, groups), ')' :: rest) =>
            alternatives fuel (room + 1) verbose groups branches (.scoped change body :: items) rest
          | _ => none
    | '[' :: rest => push (bracketed verbose rest)
    | '?' :: rest => replace 0 (some 1) rest
    | '*' :: rest => replace 0 none rest
    | '+' :: rest => replace 1 none rest
    | '{' :: rest =>
      match bounds verbose rest with
      | some ((min, max), rest) => replace min max rest
      | none => none
    | '.' :: rest => push (some (.dot, rest))
    | '^' :: rest => push (some (.place .caret, rest))
    | '$' :: rest => push (some (.place .dollar, rest))
    | '\\' :: rest => push ((escape verbose rest).map fun (atom, rest) ↦ (atom.toTree, rest))
    | c :: rest => push (some (.literal ⟨c, false⟩, rest))

/-- Read a pattern; none where it is malformed or nests too deep. -/
def Tree.parse? (text : String) : Option Tree :=
  let cs := text.toList
  match alternatives (cs.length + 1) nestLimit false {} [] [] cs with
  | some ((tree, _), []) => if tree.depth ≤ nestLimit then some tree else none
  | _ => none

end Schemata.Pattern
