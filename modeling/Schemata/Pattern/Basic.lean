import Schemata.Pattern.Automaton
import Schemata.Pattern.Meaning
import Schemata.Pattern.Parser
import Schemata.Pattern.Regex

/-!
# Patterns

A pattern is read as a tree, its switches settle the expression that it stands for, and it is
accepted if its automata are not too large. It matches a text if it matches a part of it.
-/

namespace Schemata

/-- A pattern that texts can be matched against. -/
structure Pattern where
  /-- The regular expression, without marks. -/
  regex : Pattern.Regex

namespace Pattern

/-- Read a pattern; none where it is malformed, has no meaning or is too large. -/
def parse? (text : String) : Option Pattern := do
  let tree ← Tree.parse? text
  let e ← tree.expr?
  if e.fits then some ⟨e.toRegex⟩ else none

/-- Whether the pattern matches somewhere in the text. -/
def isMatch (pattern : Pattern) (text : String) : Bool :=
  pattern.regex.search none text.toList

end Pattern

end Schemata
