import Schemata.Pattern.Expr

/-!
# Regular expressions

An expression carries its own state: a mark on a character set says that a match under way has just
read a character there. `Regex.shift` reads one character, moving every mark on; it is structural,
and conditions see the characters on both sides of the place they are tested at. A part that no
match has entered is `live` nowhere, and is passed over. `Regex.search` accepts where a match starts
and ends anywhere in the text.
-/

namespace Schemata.Pattern

/-- A regular expression with marks. A composite expression knows whether it holds one. -/
inductive Regex where
  /-- The empty text. -/
  | empty
  /-- One character of a set; marked when it has just been read. -/
  | chars (set : CharSet) (marked : Bool)
  /-- A condition on the place. -/
  | look (condition : Look)
  /-- One after the other; `live` if there are marks. -/
  | seq (live : Bool) (first second : Regex)
  /-- One or the other; `live` if there are marks. -/
  | alt (live : Bool) (left right : Regex)
  /-- Any number of repetitions; `live` if there are marks. -/
  | star (live : Bool) (body : Regex)

namespace Regex

/-- Whether there are marks. -/
def isLive : Regex → Bool
  | .chars _ marked => marked
  | .seq live _ _ => live
  | .alt live _ _ => live
  | .star live _ => live
  | _ => false

/-- One expression after the other. -/
def seqOf (r s : Regex) : Regex := .seq (r.isLive || s.isLive) r s

/-- One expression or the other. -/
def altOf (r s : Regex) : Regex := .alt (r.isLive || s.isLive) r s

/-- Any number of repetitions of an expression. -/
def starOf (r : Regex) : Regex := .star r.isLive r

/-- Whether the empty text between `before` and `after` matches. -/
def nullable (before after : Option Char) : Regex → Bool
  | .empty => true
  | .chars _ _ => false
  | .look condition => condition.holds before after
  | .seq _ r s => r.nullable before after && s.nullable before after
  | .alt _ r s => r.nullable before after || s.nullable before after
  | .star _ _ => true

/-- Whether a match under way may end between `before` and `after`. -/
def final (before after : Option Char) : Regex → Bool
  | .empty => false
  | .chars _ marked => marked
  | .look _ => false
  | .seq live r s =>
    live && ((r.final before after && s.nullable before after) || s.final before after)
  | .alt live r s => live && (r.final before after || s.final before after)
  | .star live r => live && r.final before after

/-- Read the character `c` after `before`; `start` says whether a match may start at this place. -/
def shift (before : Option Char) (c : Char) (start : Bool) : Regex → Regex
  | .empty => .empty
  | .chars set _ => .chars set (start && set.contains c)
  | .look condition => .look condition
  | .seq live r s =>
    if start || live then
      let enter := (start && r.nullable before (some c)) || r.final before (some c)
      seqOf (r.shift before c start) (s.shift before c enter)
    else .seq live r s
  | .alt live r s =>
    if start || live then altOf (r.shift before c start) (s.shift before c start)
    else .alt live r s
  | .star live r =>
    if start || live then starOf (r.shift before c (start || r.final before (some c)))
    else .star live r

/-- Whether a match that starts at or after this place ends at or after it. -/
def search (before : Option Char) : List Char → Regex → Bool
  | [], r => r.nullable before none || r.final before none
  | c :: rest, r =>
    r.nullable before (some c) || r.final before (some c) ||
      search (some c) rest (r.shift before c true)

/-- `count` copies in a row, as a balanced tree; `fuel` bounds its height. -/
def power (r : Regex) : (fuel count : Nat) → Regex
  | 0, _ => .empty
  | fuel + 1, count =>
    if count = 0 then .empty
    else if count = 1 then r
    else seqOf (r.power fuel (count / 2)) (r.power fuel (count - count / 2))

/-- The empty text or a match. -/
def opt (r : Regex) : Regex := altOf r .empty

/-- From `min` to `max` copies in a row, without an upper limit where `max` is none. -/
def times (r : Regex) (min : Nat) (max : Option Nat) : Regex :=
  match max with
  | none => seqOf (r.power 40 min) (starOf r)
  | some max => seqOf (r.power 40 min) (r.opt.power 40 (max - min))

/-- The characters of a text, one after the other. -/
def ofText : List Char → Regex
  | [] => .empty
  | [c] => .chars (CharSet.single c) false
  | c :: rest => seqOf (.chars (CharSet.single c) false) (ofText rest)

end Regex

namespace Expr

/-- The regular expression of an expression, without marks. Groups and the order in which copies are
tried make no difference to what matches. -/
def toRegex : Expr → Regex
  | .empty => .empty
  | .literal text => Regex.ofText text
  | .chars _ set => .chars set false
  | .look condition => .look condition
  | .times min max _ body => body.toRegex.times min max
  | .group _ body => body.toRegex
  | .seq parts => sequence parts
  | .alt branches => choice branches
where
  /-- One part after the other. -/
  sequence : List Expr → Regex
  | [] => .empty
  | [e] => e.toRegex
  | e :: es => Regex.seqOf e.toRegex (sequence es)
  /-- One branch or another; without branches nothing matches. -/
  choice : List Expr → Regex
  | [] => .chars CharSet.empty false
  | [e] => e.toRegex
  | e :: es => Regex.altOf e.toRegex (choice es)

end Expr

end Schemata.Pattern
