import Schemata.Pattern.Look

/-!
# Expressions

What a pattern stands for, in a simple form. The constructors `ofSet`, `seqOf`, `altOf` and
`repeated` keep it simple: neighbouring literals are one literal, sequences and alternatives do not
nest, single characters to choose from are one set, and what all alternatives begin with stands
before them.
-/

namespace Schemata.Pattern

/-- A simple expression. -/
inductive Expr where
  /-- The empty text. -/
  | empty
  /-- A text, which is not empty. -/
  | literal (text : List Char)
  /-- One character of a set, which does not hold just one; `unicode` is off for a set of bytes. -/
  | chars (unicode : Bool) (set : CharSet)
  /-- A condition on the place. -/
  | look (condition : Look)
  /-- From `min` to `max` copies in a row, without an upper limit where `max` is none; `greedy`
  where many are tried first. -/
  | times (min : Nat) (max : Option Nat) (greedy : Bool) (body : Expr)
  /-- The group with a number, in the order of the opening parentheses. -/
  | group (index : Nat) (body : Expr)
  /-- One after the other. -/
  | seq (parts : List Expr)
  /-- One or the other. -/
  | alt (branches : List Expr)

/-- How many bytes the character with a code point takes. -/
def codeSize (code : Nat) : Nat :=
  if code < 0x80 then 1 else if code < 0x800 then 2 else if code < 0x10000 then 3 else 4

namespace Expr

/-- What matches nothing, not even the empty text. -/
def fail : Expr := .chars false CharSet.empty

/-- Whether two expressions are the same. -/
def same : Expr → Expr → Bool
  | .empty, .empty => true
  | .literal s, .literal t => s == t
  | .chars u s, .chars v t => u == v && s == t
  | .look a, .look b => a == b
  | .times min max greedy e, .times min' max' greedy' f =>
    min == min' && max == max' && greedy == greedy' && e.same f
  | .group i e, .group j f => i == j && e.same f
  | .seq es, .seq fs => sameAll es fs
  | .alt es, .alt fs => sameAll es fs
  | _, _ => false
where
  /-- Whether two lists hold the same expressions. -/
  sameAll : List Expr → List Expr → Bool
  | [], [] => true
  | e :: es, f :: fs => e.same f && sameAll es fs
  | _, _ => false

/-- How many expressions there are in one. -/
def size : Expr → Nat
  | .times _ _ _ body => body.size + 1
  | .group _ body => body.size + 1
  | .seq parts => sizes parts + 1
  | .alt branches => sizes branches + 1
  | _ => 1
where
  /-- How many expressions there are in those of a list. -/
  sizes : List Expr → Nat
  | [] => 0
  | e :: es => e.size + sizes es

/-- The least number of bytes of a match, unless there is none. -/
def minSize : Expr → Option Nat
  | .empty => some 0
  | .literal text => some ((text.map Char.utf8Size).sum)
  | .chars _ set => set.ranges.head?.map fun range ↦ codeSize range.first
  | .look _ => some 0
  | .times min _ _ body => body.minSize.map (· * min)
  | .group _ body => body.minSize
  | .seq parts => total parts
  | .alt branches => least branches
where
  /-- The sum over all parts. -/
  total : List Expr → Option Nat
  | [] => some 0
  | e :: es =>
    match e.minSize, total es with
    | some m, some n => some (m + n)
    | _, _ => none
  /-- The least over all branches, unless one of them never matches. -/
  least : List Expr → Option Nat
  | [] => none
  | [e] => e.minSize
  | e :: es =>
    match e.minSize, least es with
    | some m, some n => some (Nat.min m n)
    | _, _ => none

/-- The greatest number of bytes of a match, unless there is none. -/
def maxSize : Expr → Option Nat
  | .empty => some 0
  | .literal text => some ((text.map Char.utf8Size).sum)
  | .chars _ set => set.ranges.getLast?.map fun range ↦ codeSize range.last
  | .look _ => some 0
  | .times _ max _ body =>
    match max, body.maxSize with
    | some m, some n => some (m * n)
    | _, _ => none
  | .group _ body => body.maxSize
  | .seq parts => total parts
  | .alt branches => greatest branches
where
  /-- The sum over all parts. -/
  total : List Expr → Option Nat
  | [] => some 0
  | e :: es =>
    match e.maxSize, total es with
    | some m, some n => some (m + n)
    | _, _ => none
  /-- The greatest over all branches. -/
  greatest : List Expr → Option Nat
  | [] => none
  | [e] => e.maxSize
  | e :: es =>
    match e.maxSize, greatest es with
    | some m, some n => some (Nat.max m n)
    | _, _ => none

/-- Whether the condition stands first in every match: at the end of `back`, at the start otherwise.
The parts of a sequence count up to the first that can match a character. -/
def demands (condition : Look) (back : Bool) : Expr → Bool
  | .look other => other == condition
  | .times min _ _ body => decide (0 < min) && body.demands condition back
  | .group _ body => body.demands condition back
  | .seq parts => if back then inLast parts else inFirst parts
  | .alt branches => inAll branches
  | _ => false
where
  /-- Whether one of the first parts demands it. -/
  inFirst : List Expr → Bool
  | [] => false
  | e :: es => e.demands condition back || (e.maxSize == some 0 && inFirst es)
  /-- Whether one of the last parts demands it. -/
  inLast : List Expr → Bool
  | [] => false
  | e :: es => inLast es || (es.all (fun part ↦ part.maxSize == some 0) && e.demands condition back)
  /-- Whether all branches demand it. -/
  inAll : List Expr → Bool
  | [] => true
  | e :: es => e.demands condition back && inAll es

/-- One character of a set. -/
def ofSet (unicode : Bool) (set : CharSet) : Expr :=
  if set.isEmpty then fail
  else
    match set.only? with
    | some c => .literal [c]
    | none => .chars unicode set

/-- The parts of a sequence. -/
def parts : Expr → List Expr
  | .empty => []
  | .seq parts => parts
  | e => [e]

/-- The literal of some characters, given last first, in front of a list. -/
def flush (pending : List Char) (es : List Expr) : List Expr :=
  if pending.isEmpty then es else .literal pending.reverse :: es

/-- Join neighbouring literals; `pending` holds the characters under way, last first. -/
def joinLiterals (pending : List Char) : List Expr → List Expr
  | [] => flush pending []
  | .literal text :: rest => joinLiterals (text.reverseAux pending) rest
  | e :: rest => flush pending (e :: joinLiterals [] rest)

/-- One expression after the other. -/
def seqOf (es : List Expr) : Expr :=
  match joinLiterals [] (es.flatMap parts) with
  | [] => .empty
  | [e] => e
  | es => .seq es

/-- The branches of an alternative. -/
def branches : Expr → List Expr
  | .alt branches => branches
  | e => [e]

/-- The character of a literal of one character. -/
def char? : Expr → Option Char
  | .literal [c] => some c
  | _ => none

/-- The set of an expression for one character of a set. -/
def set? : Expr → Option CharSet
  | .chars _ set => some set
  | _ => none

/-- The parts of an expression that is a sequence. -/
def seq? : Expr → Option (List Expr)
  | .seq parts => some parts
  | _ => none

/-- What two lists begin with. -/
def sharedStart : List Expr → List Expr → List Expr
  | e :: es, f :: fs => if e.same f then e :: sharedStart es fs else []
  | _, _ => []

/-- The set of single characters, if there is nothing else. -/
def singleChars? (es : List Expr) : Option CharSet :=
  (es.mapM char?).map CharSet.ofList <|> (es.mapM set?).map CharSet.unions

/-- What all sequences begin with and how they go on; none if they have no common start. -/
def splitStart? (es : List Expr) : Option (List Expr × List (List Expr)) :=
  match es.mapM seq? with
  | some (first :: rest) =>
    let start := rest.foldl sharedStart first
    if start.isEmpty then none
    else some (start, (first :: rest).map fun parts ↦ parts.drop start.length)
  | _ => none

/-- One expression or the other; `fuel` bounds how often a common start is taken out. -/
def altWithin : (fuel : Nat) → List Expr → Expr
  | 0, es => .alt es
  | fuel + 1, es =>
    match es.flatMap branches with
    | [] => fail
    | [e] => e
    | es =>
      match singleChars? es with
      | some set => ofSet true set
      | none =>
        match splitStart? es with
        | some (start, rests) => seqOf (start ++ [altWithin fuel (rests.map seqOf)])
        | none => .alt es

/-- One expression or the other. Taking out a common start leaves fewer expressions, so their number
is fuel enough. -/
def altOf (es : List Expr) : Expr := altWithin (size.sizes es + 1) es

/-- From `min` to `max` copies in a row. What matches the empty text alone is repeated at most once.
-/
def repeated (min : Nat) (max : Option Nat) (greedy : Bool) (body : Expr) : Expr :=
  let (min, max) := if body.maxSize == some 0 then (Nat.min min 1, some (Nat.min (max.getD 1) 1))
    else (min, max)
  if min == 0 && max == some 0 then .empty
  else if min == 1 && max == some 1 then body
  else .times min max greedy body

/-- Whether the expression is a choice of literals alone. -/
def isLiterals : Expr → Bool
  | .alt branches => branches.all fun e ↦ match e with | .literal _ => true | _ => false
  | _ => false

end Expr

end Schemata.Pattern
