import Schemata.Pattern.Property

/-!
# Syntax trees of patterns

A pattern as it is written: literals and classes before flags have settled what they match, groups,
repetitions, sequences and alternatives. `Tree.depth` measures how deep its parts nest.
-/

namespace Schemata.Pattern

/-- A switch that patterns set and clear. -/
inductive Flag where
  /-- Letters match in either case. -/
  | ignoreCase
  /-- `^` and `$` match at lines. -/
  | multiLine
  /-- `.` matches a line feed. -/
  | dotAll
  /-- Lines end in carriage return and line feed. -/
  | crlf
  /-- Classes and case follow Unicode. -/
  | unicode
  /-- Repetitions try few copies first unless marked. -/
  | fewFirst
  /-- Blanks and comments in the pattern are passed over. -/
  | verbose
  deriving DecidableEq

/-- Switches in the order that a group sets or clears them. -/
abbrev FlagChange := List (Flag × Bool)

/-- A single character as written; `byte` where it was given as a byte of two digits. -/
structure Literal where
  /-- The character. -/
  char : Char
  /-- Whether it was given as a byte. -/
  byte : Bool := false

/-- The classes that a letter stands for. -/
inductive Shorthand where
  /-- Decimal digits. -/
  | digit
  /-- White space. -/
  | space
  /-- Characters of a word. -/
  | word

/-- How a pattern names a property of characters. -/
inductive PropertyQuery where
  /-- By a name that says all. -/
  | alone (name : String)
  /-- By a property and its value. -/
  | valued (property value : String)

/-- The set that a query selects. -/
def PropertyQuery.set? : PropertyQuery → Option CharSet
  | .alone name => CharSet.named? name
  | .valued property value => CharSet.valued? property value

/-- The set operations inside classes. -/
inductive SetOp where
  /-- Intersection. -/
  | inter
  /-- Difference. -/
  | diff
  /-- Symmetric difference. -/
  | symmDiff

/-- Apply a set operation. -/
def SetOp.apply : SetOp → CharSet → CharSet → CharSet
  | .inter => CharSet.inter
  | .diff => CharSet.diff
  | .symmDiff => CharSet.symmDiff

/-- The inside of a class in brackets. -/
inductive ClassTree where
  /-- Nothing. -/
  | empty
  /-- A character. -/
  | literal (literal : Literal)
  /-- The characters from one to another. -/
  | range (first last : Literal)
  /-- A class of ASCII characters with a name of its own. -/
  | ascii (set : CharSet) (negated : Bool)
  /-- The characters with a property. -/
  | property (query : PropertyQuery) (negated : Bool)
  /-- A class that a letter stands for. -/
  | shorthand (shorthand : Shorthand) (negated : Bool)
  /-- A class in brackets. -/
  | nested (negated : Bool) (body : ClassTree)
  /-- Several items. -/
  | union (items : List ClassTree)
  /-- A set operation on what stands before and behind it. -/
  | operation (op : SetOp) (left right : ClassTree)

namespace ClassTree

/-- The items of a class, last first, as one tree. -/
def ofItems : List ClassTree → ClassTree
  | [] => .empty
  | [item] => item
  | items => .union items.reverse

/-- How deep brackets, lists of items and operations nest. -/
def depth : ClassTree → Nat
  | .nested _ body => body.depth + 1
  | .union items => deepest items + 1
  | .operation _ left right => Nat.max left.depth right.depth + 1
  | _ => 0
where
  /-- The depth of the deepest item. -/
  deepest : List ClassTree → Nat
  | [] => 0
  | item :: items => Nat.max item.depth (deepest items)

end ClassTree

/-- A place that a pattern asks something of, before flags have settled what. -/
inductive Place where
  /-- The start of the text or of a line. -/
  | caret
  /-- The end of the text or of a line. -/
  | dollar
  /-- The start of the text. -/
  | textStart
  /-- The end of the text. -/
  | textEnd
  /-- A word starts or ends. -/
  | wordBoundary
  /-- No word starts or ends. -/
  | noWordBoundary
  /-- A word starts. -/
  | wordStart
  /-- A word ends. -/
  | wordEnd
  /-- No word character stands before. -/
  | noWordBefore
  /-- No word character stands after. -/
  | noWordAfter

/-- A pattern as written. -/
inductive Tree where
  /-- The empty text. -/
  | empty
  /-- Switches for the rest of the enclosing group. -/
  | flags (change : FlagChange)
  /-- A character. -/
  | literal (literal : Literal)
  /-- Any character. -/
  | dot
  /-- A condition on the place. -/
  | place (place : Place)
  /-- A class that a letter stands for. -/
  | shorthand (shorthand : Shorthand) (negated : Bool)
  /-- The characters with a property. -/
  | property (query : PropertyQuery) (negated : Bool)
  /-- A class in brackets. -/
  | bracketed (negated : Bool) (body : ClassTree)
  /-- From `min` to `max` copies in a row, without an upper limit where `max` is none; `greedy`
  where it is not marked to try few first. -/
  | times (min : Nat) (max : Option Nat) (greedy : Bool) (body : Tree)
  /-- A group that captures, with its number. -/
  | capture (index : Nat) (body : Tree)
  /-- A group that sets switches for its inside. -/
  | scoped (change : FlagChange) (body : Tree)
  /-- One after the other. -/
  | seq (items : List Tree)
  /-- One or the other. -/
  | alt (branches : List Tree)

namespace Tree

/-- The items of a sequence, last first, as one tree. -/
def ofItems : List Tree → Tree
  | [] => .empty
  | [item] => item
  | items => .seq items.reverse

/-- The branches of an alternative, last first, as one tree. -/
def ofBranches : List Tree → Tree
  | [] => .empty
  | [branch] => branch
  | branches => .alt branches.reverse

/-- How deep classes, repetitions, groups, sequences and alternatives nest. -/
def depth : Tree → Nat
  | .bracketed _ body => body.depth + 1
  | .times _ _ _ body => body.depth + 1
  | .capture _ body => body.depth + 1
  | .scoped _ body => body.depth + 1
  | .seq items => deepest items + 1
  | .alt branches => deepest branches + 1
  | _ => 0
where
  /-- The depth of the deepest tree. -/
  deepest : List Tree → Nat
  | [] => 0
  | tree :: trees => Nat.max tree.depth (deepest trees)

end Tree

end Schemata.Pattern
