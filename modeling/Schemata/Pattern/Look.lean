import Schemata.Pattern.Property

/-!
# Conditions on a place

Some parts of a pattern match no character, but ask something of the characters beside a place.
-/

namespace Schemata.Pattern

/-- A condition on the place between two characters. Where words matter, `unicode` says whether they
hold characters beyond ASCII. -/
inductive Look where
  /-- The start of the text. -/
  | textStart
  /-- The end of the text. -/
  | textEnd
  /-- The start of a line; with `crlf`, carriage return and line feed end lines together. -/
  | lineStart (crlf : Bool)
  /-- The end of a line. -/
  | lineEnd (crlf : Bool)
  /-- A word starts or ends here. -/
  | wordBoundary (unicode : Bool)
  /-- No word starts or ends here. -/
  | noWordBoundary (unicode : Bool)
  /-- A word starts here. -/
  | wordStart (unicode : Bool)
  /-- A word ends here. -/
  | wordEnd (unicode : Bool)
  /-- No word character stands before. -/
  | noWordBefore (unicode : Bool)
  /-- No word character stands after. -/
  | noWordAfter (unicode : Bool)
  deriving DecidableEq

namespace Look

/-- Whether there is a character of a word. -/
def isWord (unicode : Bool) (c : Option Char) : Bool :=
  c.any (if unicode then CharSet.wordChars else CharSet.asciiWord).contains

/-- Whether the condition holds between the characters `before` and `after`. -/
def holds (look : Look) (before after : Option Char) : Bool :=
  match look with
  | .textStart => before.isNone
  | .textEnd => after.isNone
  | .lineStart false => before.isNone || before == some '\n'
  | .lineStart true =>
    before.isNone || before == some '\n' || (before == some '\r' && after != some '\n')
  | .lineEnd false => after.isNone || after == some '\n'
  | .lineEnd true =>
    after.isNone || after == some '\r' || (after == some '\n' && before != some '\r')
  | .wordBoundary unicode => isWord unicode before != isWord unicode after
  | .noWordBoundary unicode => isWord unicode before == isWord unicode after
  | .wordStart unicode => !isWord unicode before && isWord unicode after
  | .wordEnd unicode => isWord unicode before && !isWord unicode after
  | .noWordBefore unicode => !isWord unicode before
  | .noWordAfter unicode => !isWord unicode after

end Look

end Schemata.Pattern
