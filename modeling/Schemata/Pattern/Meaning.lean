import Schemata.Pattern.Expr
import Schemata.Pattern.Tree
import Schemata.Pattern.Unicode.CaseFold

/-!
# What patterns stand for

Flags settle what the parts of a pattern match. `Tree.expr?` turns a pattern into an expression; it
fails on an unknown property and, while Unicode is off, on whatever could match part of a character.
-/

namespace Schemata.Pattern

/-- The switches in force at a place of a pattern. -/
structure Flags where
  /-- Letters match in either case. -/
  ignoreCase : Bool := false
  /-- `^` and `$` match at lines. -/
  multiLine : Bool := false
  /-- `.` matches a line feed. -/
  dotAll : Bool := false
  /-- Lines end in carriage return and line feed. -/
  crlf : Bool := false
  /-- Classes and case follow Unicode. -/
  unicode : Bool := true
  /-- Repetitions try few copies first unless marked. -/
  fewFirst : Bool := false

namespace Flags

/-- Set or clear a switch; blanks have been passed over by now. -/
def set (flags : Flags) : Flag × Bool → Flags
  | (.ignoreCase, on) => { flags with ignoreCase := on }
  | (.multiLine, on) => { flags with multiLine := on }
  | (.dotAll, on) => { flags with dotAll := on }
  | (.crlf, on) => { flags with crlf := on }
  | (.unicode, on) => { flags with unicode := on }
  | (.fewFirst, on) => { flags with fewFirst := on }
  | (.verbose, _) => flags

/-- Set and clear switches. -/
def apply (flags : Flags) (change : FlagChange) : Flags := change.foldl set flags

/-- The set that a written one stands for, with both cases of its letters if case is ignored. -/
def fold (flags : Flags) (set : CharSet) : CharSet :=
  if !flags.ignoreCase then set
  else if flags.unicode then set.foldCase
  else set.foldCaseAscii

/-- The complement of a set if `negated`; without Unicode it could match part of a character. -/
def negate? (flags : Flags) (negated : Bool) (set : CharSet) : Option CharSet :=
  if negated && !flags.unicode then none else some (set.complIf negated)

end Flags

/-- The set of a class that a letter stands for. -/
def Shorthand.set (shorthand : Shorthand) (unicode : Bool) : CharSet :=
  match shorthand, unicode with
  | .digit, true => CharSet.decimalDigits
  | .digit, false => CharSet.asciiDigit
  | .space, true => CharSet.whiteSpace
  | .space, false => CharSet.asciiSpace
  | .word, true => CharSet.wordChars
  | .word, false => CharSet.asciiWord

/-- The set of a class that a letter stands for, or its complement. -/
def Shorthand.set? (shorthand : Shorthand) (flags : Flags) (negated : Bool) : Option CharSet :=
  flags.negate? negated (shorthand.set flags.unicode)

/-- The characters with a property, which only Unicode has. -/
def PropertyQuery.meaning? (query : PropertyQuery) (flags : Flags) (negated : Bool) :
    Option CharSet := do
  if !flags.unicode then none
  let set ← query.set?
  flags.negate? negated (flags.fold set)

/-- The expression of a single character. A byte beyond ASCII is a part of a character while Unicode
is off. -/
def Literal.expr? (literal : Literal) (flags : Flags) : Option Expr :=
  let isAscii := decide (literal.char.toNat < 0x80)
  if !flags.unicode && literal.byte && !isAscii then none
  else if flags.ignoreCase && (flags.unicode || isAscii) then
    some (Expr.ofSet flags.unicode (flags.fold (CharSet.single literal.char)))
  else some (.literal [literal.char])

/-- Whether a character may stand in a class. -/
def Literal.isClassItem (literal : Literal) (flags : Flags) : Bool :=
  flags.unicode || decide (literal.char.toNat < 0x80)

namespace ClassTree

/-- The set that the inside of brackets stands for. -/
def set? (flags : Flags) : ClassTree → Option CharSet
  | .empty => some CharSet.empty
  | .literal l => if l.isClassItem flags then some (CharSet.single l.char) else none
  | .range first last =>
    if first.isClassItem flags && last.isClassItem flags then
      some (CharSet.range first.char last.char)
    else none
  | .ascii set negated => flags.negate? negated (flags.fold set)
  | .property query negated => query.meaning? flags negated
  | .shorthand s negated => s.set? flags negated
  | .nested negated body => do
    let set ← body.set? flags
    flags.negate? negated (flags.fold set)
  | .union items => do
    let sets ← sets? items
    return CharSet.unions sets
  | .operation op left right => do
    let left ← left.set? flags
    let right ← right.set? flags
    return op.apply (flags.fold left) (flags.fold right)
where
  /-- The sets of all items. -/
  sets? : List ClassTree → Option (List CharSet)
  | [] => some []
  | item :: items => do
    let set ← item.set? flags
    let sets ← sets? items
    return set :: sets

end ClassTree

/-- The condition of a place. -/
def Place.look (place : Place) (flags : Flags) : Look :=
  match place with
  | .caret => if flags.multiLine then .lineStart flags.crlf else .textStart
  | .dollar => if flags.multiLine then .lineEnd flags.crlf else .textEnd
  | .textStart => .textStart
  | .textEnd => .textEnd
  | .wordBoundary => .wordBoundary flags.unicode
  | .noWordBoundary => .noWordBoundary flags.unicode
  | .wordStart => .wordStart flags.unicode
  | .wordEnd => .wordEnd flags.unicode
  | .noWordBefore => .noWordBefore flags.unicode
  | .noWordAfter => .noWordAfter flags.unicode

/-- The expression of a dot: any character but those that end a line. -/
def dot? (flags : Flags) : Option Expr :=
  if !flags.unicode then none
  else if flags.dotAll then some (.chars true CharSet.all)
  else
    let lineEnds := CharSet.ofList (if flags.crlf then ['\r', '\n'] else ['\n'])
    some (.chars true lineEnds.compl)

namespace Tree

/-- The expression of a tree, and the switches after it: those set inside a group end with it,
others last to the end of the enclosing group. -/
def meaning? (flags : Flags) : Tree → Option (Expr × Flags)
  | .empty => some (.empty, flags)
  | .flags change => some (.empty, flags.apply change)
  | .literal l => (l.expr? flags).map fun e ↦ (e, flags)
  | .dot => (dot? flags).map fun e ↦ (e, flags)
  | .place p => some (.look (p.look flags), flags)
  | .shorthand s negated =>
    (s.set? flags negated).map fun set ↦ (Expr.ofSet flags.unicode set, flags)
  | .property query negated =>
    (query.meaning? flags negated).map fun set ↦ (Expr.ofSet flags.unicode set, flags)
  | .bracketed negated body => do
    let set ← body.set? flags
    let set ← flags.negate? negated (flags.fold set)
    return (Expr.ofSet flags.unicode set, flags)
  | .times min max greedy body => do
    let (e, _) ← body.meaning? flags
    return (Expr.repeated min max (greedy != flags.fewFirst) e, flags)
  | .capture index body => do
    let (e, _) ← body.meaning? flags
    return (.group index e, flags)
  | .scoped change body => do
    let (e, _) ← body.meaning? (flags.apply change)
    return (e, flags)
  | .seq items => do
    let (es, flags) ← meanings? flags items
    return (Expr.seqOf es, flags)
  | .alt branches => do
    let (es, flags) ← meanings? flags branches
    return (Expr.altOf es, flags)
where
  /-- The expressions of trees that follow each other. -/
  meanings? (flags : Flags) : List Tree → Option (List Expr × Flags)
  | [] => some ([], flags)
  | tree :: trees => do
    let (e, flags) ← tree.meaning? flags
    let (es, flags) ← meanings? flags trees
    return (e :: es, flags)

/-- The expression that a pattern stands for. -/
def expr? (tree : Tree) : Option Expr := (tree.meaning? {}).map Prod.fst

end Tree

end Schemata.Pattern
