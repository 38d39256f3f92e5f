import Schemata.Pattern.Expr

/-!
# Patterns for a few texts

An expression may stand for a few texts alone, which can be looked for one by one. `Expr.texts?`
finds them, in order of preference, as long as they stay few and short. What follows a part that
never matches is not looked at, so such an expression may still be large.

Texts are looked for one by one only if shorter beginnings of them would not serve: `isSought`
compares the list with what is left when texts are cut to their common start, or to a few bytes
each.
-/

namespace Schemata.Pattern

/-- A text by its bytes. -/
abbrev Bytes := List UInt8

namespace Texts

/-- How many texts are few. -/
def countLimit : Nat := 250

/-- How many bytes a short text has. -/
def sizeLimit : Nat := 100

/-- How many characters of a set are written out. -/
def charLimit : Nat := 10

/-- How many copies of a repetition are written out. -/
def copyLimit : Nat := 10

/-- Drop texts that repeat the one before. -/
def dropRepeats : List Bytes → List Bytes
  | [] => []
  | text :: texts =>
    match dropRepeats texts with
    | [] => [text]
    | next :: rest => if text = next then next :: rest else text :: next :: rest

/-- The texts that consist of one of each list. -/
def cross? (xs ys : List Bytes) : Option (List Bytes) :=
  if countLimit < xs.length * ys.length then none
  else
    let texts := dropRepeats (xs.flatMap fun x ↦ ys.map fun y ↦ x ++ y)
    if texts.any fun text ↦ sizeLimit < text.length then none else some texts

/-- The texts of both lists. Where they are many, texts that repeat the one before are dropped,
which is done for the shortest texts alone. -/
def unite? (xs ys : List Bytes) : Option (List Bytes) :=
  if xs.length + ys.length ≤ countLimit then some (dropRepeats (xs ++ ys))
  else
    let xs := dropRepeats xs
    let ys := dropRepeats ys
    if (xs ++ ys).all (fun text ↦ text.length ≤ 4) && xs.length + ys.length ≤ countLimit then
      some (dropRepeats (xs ++ ys))
    else none

/-- The texts that consist of a number of copies. -/
def copies? (texts : List Bytes) : (count : Nat) → Option (List Bytes)
  | 0 => some [[]]
  | count + 1 => do
    let before ← copies? texts count
    if before.isEmpty then some [] else cross? before texts

/-- The characters of a set, if they are few. -/
def ofSet? (set : CharSet) : Option (List Bytes) :=
  let count := set.ranges.foldl (fun count range ↦ count + (range.last + 1 - range.first)) 0
  if charLimit < count then none
  else some (set.ranges.flatMap fun range ↦
    (List.range' range.first (range.last + 1 - range.first)).map fun code ↦
      String.utf8EncodeChar (Char.ofNat code))

/-- A list of texts that stands for others besides, unless there is none. -/
def besides? (texts : List Bytes) : Option (List Bytes) := if texts.isEmpty then some [] else none

/-- The bytes of ASCII that are often met in texts. -/
def commonBytes : Bytes :=
  "\n\r (),-./0129:_abcdefghilmnoprstuvxy|".toUTF8.toList

/-- Whether a byte is seldom met; bytes beyond ASCII are not. -/
def isSeldom (byte : UInt8) : Bool := byte < 0x80 && !commonBytes.contains byte

/-- Drop the texts that an earlier one begins; `kept` holds those kept so far, last first. -/
def dropCovered (kept : List Bytes) : List Bytes → List Bytes
  | [] => kept.reverse
  | text :: texts =>
    if kept.any fun other ↦ other.isPrefixOf text then dropCovered kept texts
    else dropCovered (text :: kept) texts

/-- What two texts begin with. -/
def sharedStart : Bytes → Bytes → Bytes
  | a :: as, b :: bs => if a = b then a :: sharedStart as bs else []
  | _, _ => []

/-- What all texts begin with. -/
def commonStart : List Bytes → Bytes
  | [] => []
  | text :: texts => texts.foldl sharedStart text

/-- How texts are cut while they are too many: to how many bytes, and how many are not too many. -/
def cuts : List (Nat × Nat) := [(5, 10), (4, 10), (3, 64), (2, 64), (1, 10)]

/-- Cut texts step by step until they are not too many, and say whether all are still `whole`. -/
def cut (whole : Bool) (texts : List Bytes) : List (Nat × Nat) → Bool × List Bytes
  | [] => (whole, texts)
  | (size, enough) :: rest =>
    if texts.length ≤ enough then (whole, texts)
    else
      cut (whole && texts.all fun text ↦ text.length ≤ size)
        (dropCovered [] (texts.map fun text ↦ text.take size)) rest

/-- Whether texts are looked for as they are. They are not if their common start is all that is
looked for, or if cutting them leaves beginnings that are neither short nor many. -/
def isSought (texts : List Bytes) : Bool :=
  let kept := dropCovered [] texts
  let start := commonStart kept
  let isWhole (size : Nat) : Bool := kept.all fun text ↦ text.length ≤ size
  if texts.isEmpty || texts.any List.isEmpty then false
  else if 1 < texts.length && start.length ≤ 3 && start.head?.any isSeldom then isWhole 1
  else if (4 < start.length || (1 < start.length && 16 < kept.length)) && !isWhole start.length then
    false
  else
    let (whole, beginnings) := cut true kept cuts
    whole || (beginnings.any fun text ↦ text.length ≤ 2) || 64 < beginnings.length

end Texts

namespace Expr

/-- The texts that the expression stands for, in order of preference, if they are few and short and
it stands for no others. -/
def texts? : Expr → Option (List Bytes)
  | .empty => some [[]]
  | .literal text =>
    let bytes := text.flatMap String.utf8EncodeChar
    if Texts.sizeLimit < bytes.length then none else some [bytes]
  | .chars _ set => Texts.ofSet? set
  | .look _ => some [[]]
  | .times min max greedy body => do
    let texts ← body.texts?
    if min = 0 then
      let texts ← if max = some 1 then some texts else Texts.besides? texts
      if greedy then Texts.unite? texts [[]] else Texts.unite? [[]] texts
    else
      let texts ← Texts.copies? texts (Nat.min min Texts.copyLimit)
      if max = some min && min ≤ Texts.copyLimit then some texts else Texts.besides? texts
  | .group _ body => body.texts?
  | .seq parts => inSequence [[]] parts
  | .alt branches => inChoice [] branches
where
  /-- The texts of parts behind those in `texts`. -/
  inSequence (texts : List Bytes) : List Expr → Option (List Bytes)
  | [] => some texts
  | e :: es =>
    if texts.isEmpty then some []
    else do
      let texts ← Texts.cross? texts (← e.texts?)
      inSequence texts es
  /-- The texts of branches behind those in `texts`. -/
  inChoice (texts : List Bytes) : List Expr → Option (List Bytes)
  | [] => some texts
  | e :: es => do
    let texts ← Texts.unite? texts (← e.texts?)
    inChoice texts es

/-- Whether there is no group and no condition on a place. -/
def isPlain : Expr → Bool
  | .look _ => false
  | .group _ _ => false
  | .times _ _ _ body => body.isPlain
  | .seq parts => arePlain parts
  | .alt branches => arePlain branches
  | _ => true
where
  /-- Whether there is no group and no condition in any. -/
  arePlain : List Expr → Bool
  | [] => true
  | e :: es => e.isPlain && arePlain es

/-- Whether the expression stands for a few texts, which are looked for one by one. -/
def isFewTexts (e : Expr) : Bool := e.isPlain && (e.texts?.map Texts.isSought).getD false

end Expr

end Schemata.Pattern
