import Schemata.Toml.Scalar

/-!
# Reading TOML

A document is read line by line: a header opens a table or adds one to an array, and a line with a
key adds a value to the table that was opened last.
-/

namespace Schemata

namespace Toml

/-- Drop a comment, if one stands here. -/
def skipComment : List Char → Except Fault (List Char)
  | '#' :: rest =>
    match rest.dropWhile (fun c ↦ !isControl c) with
    | '\r' :: '\n' :: after => .ok ('\r' :: '\n' :: after)
    | '\n' :: after => .ok ('\n' :: after)
    | [] => .ok []
    | c :: _ => .error (.unexpected c)
  | cs => .ok cs

/-- Drop blanks, comments and line ends. -/
def skipFiller : (fuel : Nat) → List Char → Except Fault (List Char)
  | 0, _ => .error .endOfText
  | fuel + 1, cs => do
    let rest ← skipComment (skipSpaces cs)
    match lineEnd? rest with
    | some after => skipFiller fuel after
    | none => return rest

/-- Characters of bare keys. -/
def isBareKeyChar (c : Char) : Bool := c.isAlphanum || c == '_' || c == '-'

/-- A key without dots. -/
def simpleKey : Reader String := fun cs ↦
  match cs with
  | '"' :: _ => lineString cs
  | '\'' :: _ => lineString cs
  | _ =>
    let key := cs.takeWhile isBareKeyChar
    if key.isEmpty then .error (.meeting cs)
    else .ok (String.ofList key, cs.dropWhile isBareKeyChar)

/-- How deep arrays and inline tables may nest, and how many parts may precede the last of a key. -/
def nestLimit : Nat := 80

/-- The parts of a key before its last dot and the part after; blanks around dots are dropped. -/
def keyParts : (fuel : Nat) → Reader (List String × String)
  | 0, _ => .error .endOfText
  | fuel + 1, cs => do
    let (first, rest) ← simpleKey (skipSpaces cs)
    match skipSpaces rest with
    | '.' :: rest =>
      let ((before, last), rest) ← keyParts fuel rest
      return ((first :: before, last), rest)
    | rest => return (([], first), rest)

/-- A key, as the parts before its last dot and the part after. -/
def key : Reader (List String × String) := fun cs ↦ do
  let ((before, last), rest) ← keyParts (cs.length + 1) cs
  if nestLimit < before.length then throw .tooDeep
  return ((before, last), rest)

mutual

/-- A value; `room` says how many arrays and inline tables may still open. -/
def value : (fuel room : Nat) → Reader Node
  | 0, _, _ => .error .endOfText
  | fuel + 1, room, cs =>
    match cs with
    | '"' :: _ => (anyString cs).map fun (text, rest) ↦ (.string text, rest)
    | '\'' :: _ => (anyString cs).map fun (text, rest) ↦ (.string text, rest)
    | '[' :: rest =>
      match room with
      | 0 => .error .tooDeep
      | room + 1 => (items fuel room rest).map fun (items, rest) ↦ (.array items, rest)
    | '{' :: rest =>
      match room with
      | 0 => .error .tooDeep
      | room + 1 =>
        (members fuel room [] rest).map fun (table, rest) ↦ (.table .inline table, rest)
    | _ => plainScalar cs

/-- The items of an array up to its closing bracket; lines may end between them, and a comma may
follow the last. -/
def items : (fuel room : Nat) → Reader (List Node)
  | 0, _, _ => .error .endOfText
  | fuel + 1, room, cs => do
    match ← skipFiller (cs.length + 1) cs with
    | ']' :: rest => return ([], rest)
    | rest =>
      let (item, rest) ← value fuel room rest
      match ← skipFiller (rest.length + 1) rest with
      | ',' :: rest =>
        let (more, rest) ← items fuel room rest
        return (item :: more, rest)
      | ']' :: rest => return ([item], rest)
      | rest => throw (.meeting rest)

/-- The members of an inline table up to its closing brace, after those in `table`; lines may end
between all of its parts, and a comma may follow the last member. -/
def members : (fuel room : Nat) → (table : Table) → Reader Table
  | 0, _, _, _ => .error .endOfText
  | fuel + 1, room, table, cs => do
    match ← skipFiller (cs.length + 1) cs with
    | '}' :: rest => return (table, rest)
    | rest =>
      let ((before, last), rest) ← key rest
      match ← skipFiller (rest.length + 1) rest with
      | '=' :: rest =>
        let (node, rest) ← value fuel room (← skipFiller (rest.length + 1) rest)
        let table ← addValue before last node .inline table
        match ← skipFiller (rest.length + 1) rest with
        | ',' :: rest => members fuel room table rest
        | '}' :: rest => return (table, rest)
        | rest => throw (.meeting rest)
      | rest => throw (.meeting rest)

end

/-- A document on the way: its root and the path of the table that was opened last. -/
structure Draft where
  /-- The root table. -/
  root : Table := []
  /-- The path of the open table. -/
  current : List String := []

/-- Open the table of a header, or add one to the array of a double header. -/
def Draft.openHeader (draft : Draft) (double : Bool) (before : List String) (last : String) :
    Except Fault Draft := do
  let change := if double then pushTable last else openTable last
  let root ← changeAt false change before .header draft.root
  return { root, current := before ++ [last] }

/-- Add a value to the open table. -/
def Draft.add (draft : Draft) (before : List String) (last : String) (node : Node) :
    Except Fault Draft := do
  let root ← changeAt false (addValue before last node) draft.current .header draft.root
  return { draft with root }

/-- One line without its end: a header, a key with its value, or nothing. -/
def line (draft : Draft) (cs : List Char) : Except Fault (Draft × List Char) :=
  let fuel := 2 * cs.length + 2
  match skipSpaces cs with
  | '[' :: '[' :: rest => do
    let ((before, last), rest) ← key rest
    match rest with
    | ']' :: ']' :: rest => return (← draft.openHeader true before last, rest)
    | rest => throw (.meeting rest)
  | '[' :: rest => do
    let ((before, last), rest) ← key rest
    match rest with
    | ']' :: rest => return (← draft.openHeader false before last, rest)
    | rest => throw (.meeting rest)
  | [] => return (draft, [])
  | c :: rest =>
    if c == '#' || (lineEnd? (c :: rest)).isSome then .ok (draft, c :: rest)
    else do
      let ((before, last), rest) ← key (c :: rest)
      match rest with
      | '=' :: rest =>
        let (node, rest) ← value fuel nestLimit (skipSpaces rest)
        return (← draft.add before last node, rest)
      | rest => throw (.meeting rest)

/-- All lines. -/
def lines : (fuel : Nat) → Draft → List Char → Except Fault Table
  | 0, _, _ => .error .endOfText
  | fuel + 1, draft, cs => do
    let (draft, rest) ← line draft cs
    match ← skipComment (skipSpaces rest) with
    | [] => return draft.root
    | rest =>
      match lineEnd? rest with
      | some after => lines fuel draft after
      | none => throw (.meeting rest)

/-- Read a document. A byte order mark in front is passed over. -/
def parse (text : String) : Except Fault Table :=
  let cs := match text.toList with
    | '\uFEFF' :: rest => rest
    | cs => cs
  lines (cs.length + 1) {} cs

end Toml

end Schemata
