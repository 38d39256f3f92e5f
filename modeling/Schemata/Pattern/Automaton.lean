import Std.Data.HashMap
import Schemata.Pattern.Texts
import Schemata.Pattern.Utf8

/-!
# The size of automata

A pattern is accepted if the automata that read its matches forward and backward, byte by byte, stay
within a limit. The automata themselves are never built: this module counts their states, and the
bytes that the states' lists of transitions take.

A state with one way out takes the room of a state alone. Where a character is read, bytes that lead
to the same place are shared: forward, equal states of one set of characters are one state as long
as the first of them is remembered; backward, equal ends of encodings are. A choice of texts alone
is read through a tree of their bytes.
-/

namespace Schemata.Pattern

/-- The size of an automaton. -/
structure Size where
  /-- How many states there are. -/
  states : Nat := 0
  /-- How many bytes their lists take. -/
  listed : Nat := 0

namespace Size

/-- How many bytes a state takes. -/
def stateBytes : Nat := 32

/-- How many bytes a way out of a list of plain ways takes. -/
def wayBytes : Nat := 4

/-- How many bytes a way out takes that is open to a range of bytes. -/
def rangeBytes : Nat := 8

/-- How many bytes an automaton may take. -/
def limit : Nat := 10485760

/-- How many bytes an automaton takes. -/
def bytes (size : Size) : Nat := stateBytes * size.states + size.listed

/-- Some more states, with `ways` plain ways and `ranges` ways open to bytes in their lists; none
beyond the limit. -/
def add? (states ways ranges : Nat) (size : Size) : Option Size :=
  let size := ⟨size.states + states, size.listed + wayBytes * ways + rangeBytes * ranges⟩
  if size.bytes ≤ limit then some size else none

end Size

/-- What a part adds to the size of an automaton; none beyond the limit. -/
abbrev Growth := Size → Option Size

/-- What a number of copies adds. -/
def Growth.copies (growth : Growth) : (count : Nat) → Growth
  | 0, size => some size
  | count + 1, size =>
    match growth size with
    | some size => copies growth count size
    | none => none

/-- Take one more number into a hash. -/
def hashStep (hash : UInt64) (value : Nat) : UInt64 := (hash ^^^ value.toUInt64) * 1099511628211

/-- The hash of some numbers. -/
def hashOf (values : List Nat) : UInt64 := values.foldl hashStep 14695981039346656037

/-- States that are remembered by what they are known for. Each key has one place, which the latest
key of the place takes. -/
structure Remembered (Key : Type) where
  /-- The keys and their states, by place. -/
  places : Std.HashMap Nat (Key × Nat) := {}

namespace Remembered

variable {Key : Type} [DecidableEq Key]

/-- The state of a key at a place. -/
def find? (remembered : Remembered Key) (place : Nat) (key : Key) : Option Nat :=
  match remembered.places[place]? with
  | some (other, state) => if other = key then some state else none
  | none => none

/-- Remember the state of a key at its place. -/
def keep (remembered : Remembered Key) (place : Nat) (key : Key) (state : Nat) :
    Remembered Key :=
  ⟨remembered.places.insert place (key, state)⟩

end Remembered

/-- A way out of a state, open to a range of bytes. -/
structure Way where
  /-- The bytes. -/
  range : ByteRange
  /-- The state that it leads to, by number. -/
  target : Nat
  deriving DecidableEq

/-- An automaton on the way, and the states of the current set of characters. -/
structure Draft (Key : Type) where
  /-- The size so far. -/
  size : Size
  /-- The states that may be shared. -/
  remembered : Remembered Key := {}

namespace Draft

/-- How many places there are for the states that read a set forward. -/
def forwardPlaces : UInt64 := 10000

/-- How many places there are for the states that read a set backward. -/
def backwardPlaces : UInt64 := 1000

/-- The state with some ways out, and the automaton with it. -/
def state? (draft : Draft (List Way)) (ways : List Way) :
    Option (Nat × Draft (List Way)) :=
  let hash := hashOf
    (ways.flatMap fun way ↦ [way.range.first.toNat, way.range.last.toNat, way.target])
  let place := (hash % forwardPlaces).toNat
  match draft.remembered.find? place ways with
  | some state => some (state, draft)
  | none =>
    (draft.size.add? 1 0 ways.length).map fun size ↦
      (draft.size.states, ⟨size, draft.remembered.keep place ways draft.size.states⟩)

/-- The state from which encodings lead to the state `target`. They are in ascending order and hold
at most `depth` ranges each; those with the same first range share the way out. -/
def forward? (target : Nat) : (depth : Nat) → List (List ByteRange) → Draft (List Way) →
    Option (Nat × Draft (List Way))
  | 0, _, draft => some (target, draft)
  | depth + 1, encodings, draft =>
    if encodings.all List.isEmpty then some (target, draft)
    else do
      let groups := encodings.splitBy fun a b ↦ a.head? == b.head?
      let (ways, draft) ← groups.foldlM (fun (ways, draft) group ↦ do
        let (next, draft) ← forward? target depth (group.map List.tail) draft
        let way := (group.head?.bind List.head?).map fun range ↦ ⟨range, next⟩
        return (way.toList ++ ways, draft)) (([] : List Way), draft)
      draft.state? ways.reverse

/-- The automaton with the states that read an encoding backward: the first byte is read last, and
leads to the state `target`. -/
def backward? (target : Nat) : List ByteRange → Draft (Nat × ByteRange) →
    Option (Draft (Nat × ByteRange))
  | [], draft => some draft
  | range :: rest, draft =>
    let key := (target, range)
    let hash := hashOf [target, range.first.toNat, range.last.toNat]
    let place := (hash % backwardPlaces).toNat
    match draft.remembered.find? place key with
    | some state => backward? state rest draft
    | none =>
      match draft.size.add? 1 0 0 with
      | some size =>
        backward? draft.size.states rest
          ⟨size, draft.remembered.keep place key draft.size.states⟩
      | none => none

end Draft

namespace CharSet

/-- What reading one character of the set forward adds. -/
def forwardGrowth (set : CharSet) : Growth := fun size ↦ do
  let start ← size.add? 1 0 0
  let (_, draft) ← Draft.forward? size.states 4 set.encodings ⟨start, {}⟩
  return draft.size

/-- What reading one character of the set backward adds. -/
def backwardGrowth (set : CharSet) : Growth := fun size ↦ do
  let start ← size.add? 2 0 0
  let draft ← set.encodings.foldlM (fun draft encoding ↦ do
    let draft ← Draft.backward? (size.states + 1) encoding draft
    let size ← draft.size.add? 0 1 0
    return { draft with size }) (⟨start, {}⟩ : Draft (Nat × ByteRange))
  return draft.size

/-- What reading one character of the set adds. -/
def growth (set : CharSet) (back : Bool) : Growth :=
  if set.isAscii then Size.add? 2 0 set.ranges.length
  else if back then set.backwardGrowth
  else set.forwardGrowth

end CharSet

/-- A tree of texts by their bytes. Texts come in an order of preference: once a text ends at a
node, those that follow it take ways of their own, so the ways out of a node are kept in `settled`
lists and an open one. -/
inductive TextTree where
  /-- A node with its ways out. -/
  | node (settled : List (List (UInt8 × TextTree))) (ways : List (UInt8 × TextTree))

namespace TextTree

/-- A tree without texts. -/
def empty : TextTree := .node [] []

/-- Whether no way leads out of the root. -/
def isLeaf : TextTree → Bool
  | .node settled ways => settled.all List.isEmpty && ways.isEmpty

/-- Let a text end at the root. A leaf where one ends already stays as it is. -/
def settle : TextTree → TextTree
  | .node settled ways =>
    if (TextTree.node settled ways).isLeaf && !settled.isEmpty then .node settled ways
    else .node (ways :: settled) []

/-- Change the subtree at a byte. -/
def change (byte : UInt8) (f : TextTree → TextTree) :
    List (UInt8 × TextTree) → List (UInt8 × TextTree)
  | [] => [(byte, f empty)]
  | (other, tree) :: rest =>
    if other = byte then (other, f tree) :: rest else (other, tree) :: change byte f rest

/-- Add a text, given by its bytes. -/
def insert : List UInt8 → TextTree → TextTree
  | [], tree => tree.settle
  | byte :: rest, .node settled ways => .node settled (change byte (insert rest) ways)

/-- The tree of some texts. -/
def ofTexts (texts : List (List UInt8)) : TextTree :=
  texts.foldl (fun tree text ↦ tree.insert text) empty

/-- What the tree adds. Its leaves are the state where all texts end, which the caller adds. Each
list of ways is a state, and one more joins the lists and the ends of texts at a node. -/
def growth : TextTree → Growth
  | .node settled ways => fun size ↦ do
    let size ← inWays ways size
    let size ← inLists settled size
    let lists := (ways :: settled).countP (!·.isEmpty)
    size.add? 1 (lists + settled.length) 0
where
  /-- What lists of ways add. -/
  inLists : List (List (UInt8 × TextTree)) → Growth
  | [] => some
  | ways :: rest => fun size ↦ do
    let size ← inWays ways size
    inLists rest size
  /-- What a list of ways adds: the state that holds it behind the subtrees. -/
  inWays (ways : List (UInt8 × TextTree)) : Growth := fun size ↦ do
    let size ← inSubtrees ways size
    match ways with
    | [] => return size
    | [_] => size.add? 1 0 0
    | ways => size.add? 1 0 ways.length
  /-- What the subtrees of a list of ways add. -/
  inSubtrees : List (UInt8 × TextTree) → Growth
  | [] => some
  | (_, tree) :: rest => fun size ↦ do
    let size ← if tree.isLeaf then some size else growth tree size
    inSubtrees rest size

end TextTree

namespace Expr

/-- The bytes of a literal. -/
def bytes? : Expr → Option (List UInt8)
  | .literal text => some (text.flatMap String.utf8EncodeChar)
  | _ => none

/-- What reading the matches of an expression adds; groups leave no trace backward. A repetition
counts the copies that it demands, and has a way around each copy beyond them. -/
def growth (back : Bool) : Expr → Growth
  | .empty => Size.add? 1 0 0
  | .literal text => Size.add? (text.flatMap String.utf8EncodeChar).length 0 0
  | .chars _ set => set.growth back
  | .look _ => Size.add? 1 0 0
  | .group _ body =>
    if back then growth back body
    else fun size ↦ do
      let size ← size.add? 1 0 0
      let size ← growth back body size
      size.add? 1 0 0
  | .times min max _ body =>
    let skippable : Growth := fun size ↦ do
      let size ← size.add? 1 2 0
      growth back body size
    match min, max with
    | 0, none =>
      if body.minSize.getD 0 = 0 then fun size ↦ do
        let size ← growth back body size
        size.add? 3 4 0
      else skippable
    | min, none => fun size ↦ do
      let size ← Growth.copies (growth back body) min size
      size.add? 1 2 0
    | 0, some 1 => fun size ↦ do
      let size ← skippable size
      size.add? 1 0 0
    | min, some max =>
      if min = max then Growth.copies (growth back body) min
      else fun size ↦ do
        let size ← if min = 0 then size.add? 1 0 0 else Growth.copies (growth back body) min size
        let size ← size.add? 1 0 0
        Growth.copies skippable (max - min) size
  | .seq parts => if back then inReverse parts else inOrder parts
  | .alt branches =>
    match branches.mapM bytes? with
    | some texts => fun size ↦ do
      let size ← size.add? 1 0 0
      (TextTree.ofTexts (if back then texts.map List.reverse else texts)).growth size
    | none => choices branches
where
  /-- What parts add from the first to the last. -/
  inOrder : List Expr → Growth
  | [] => some
  | e :: es => fun size ↦ do
    let size ← growth back e size
    inOrder es size
  /-- What parts add from the last to the first. -/
  inReverse : List Expr → Growth
  | [] => some
  | e :: es => fun size ↦ do
    let size ← inReverse es size
    growth back e size
  /-- What branches add; the states where they part and meet stand behind the first two. -/
  choices : List Expr → Growth
  | e :: f :: es => fun size ↦ do
    let size ← growth back e size
    let size ← growth back f size
    let size ← size.add? 2 (es.length + 2) 0
    inOrder es size
  | es => inOrder es

/-- The size of the automaton that reads matches forward or backward. Unless every match starts at
the beginning, it first passes over any bytes. -/
def size? (e : Expr) (back : Bool) : Option Size := do
  let isFixed := e.demands (if back then .textEnd else .textStart) back
  let size ← if isFixed then Size.add? 1 0 0 {} else Size.add? 3 2 1 {}
  let size ← growth back (if back then e else .group 0 e) size
  size.add? 1 0 0

/-- How many texts make a choice large enough to be searched for all at once. -/
def manyTexts : Nat := 3000

/-- Whether the automata of an expression stay within the limit. A few texts and a large choice of
texts alone need none. -/
def fits (e : Expr) : Bool :=
  ((e.size? false).isSome && (e.size? true).isSome) ||
    (e.isLiterals && decide (manyTexts ≤ e.branches.length)) || e.isFewTexts

end Expr

end Schemata.Pattern
