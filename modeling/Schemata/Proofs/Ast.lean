import Mathlib.Data.List.Basic
import Schemata.Ast.Basic
import Schemata.Proofs.Entries

/-!
# Parts of a description

The parts of a description are found by their places, each below the parts around it (`Ast.At`). A
property of parts is spread over a description by `Ast.All`. What a stub designates is one of the
parts around it (`Ast.Designates`).
-/

namespace Schemata

namespace Ast

/-- The names of the fields that must be present, in order. -/
def requiredNames (fields : Entries Ast) : List String :=
  (fields.filter fun field ↦ !field.2.isOptional).map Prod.fst

/-- The descriptions directly below a description, in order. -/
def children : Ast → List Ast
  | .array item _ => [item]
  | .tuple elements => elements
  | .struct fields _ _ => Entries.values fields
  | .record key value => [key, value]
  | .union members => members
  | .discriminatedUnion _ variants => Entries.values variants
  | .optional inner _ => [inner]
  | .transform inner _ => [inner]
  | _ => []

/-- Induction on a description: what holds of all children is given for them. -/
@[elab_as_elim]
theorem induction {motive : Ast → Prop}
    (step : ∀ ast : Ast, (∀ child ∈ ast.children, motive child) → motive ast) (ast : Ast) :
    motive ast :=
  @Ast.rec motive (fun asts ↦ ∀ ast ∈ asts, motive ast)
    (fun entries ↦ ∀ ast ∈ Entries.values entries, motive ast) (fun entry ↦ motive entry.2)
    (fun _ ↦ step _ (by simp [children])) (fun _ ↦ step _ (by simp [children]))
    (fun _ ↦ step _ (by simp [children])) (step _ (by simp [children]))
    (step _ (by simp [children])) (step _ (by simp [children]))
    (fun _ ↦ step _ (by simp [children]))
    (fun _ _ item ↦ step _ (by simpa [children] using item))
    (fun _ elements ↦ step _ elements) (fun _ _ _ fields ↦ step _ fields)
    (fun _ _ key value ↦ step _ (by simpa [children] using ⟨key, value⟩))
    (fun _ members ↦ step _ members) (fun _ _ variants ↦ step _ variants)
    (fun _ _ inner ↦ step _ (by simpa [children] using inner))
    (fun _ _ inner ↦ step _ (by simpa [children] using inner))
    (fun _ _ _ ↦ step _ (by simp [children]))
    (by simp) (fun _ _ head tail ↦ List.forall_mem_cons.2 ⟨head, tail⟩)
    (by simp [Entries.values]) (fun _ _ head tail ↦ List.forall_mem_cons.2 ⟨head, tail⟩)
    (fun _ _ ast ↦ ast) ast

/-- A property holds of a description and of all its parts. -/
inductive All (p : Ast → Prop) : Ast → Prop where
  /-- It holds here and of all children. -/
  | intro {ast : Ast} (here : p ast) (below : ∀ child ∈ ast.children, All p child) : All p ast

theorem All.here {p : Ast → Prop} {ast : Ast} (h : ast.All p) : p ast := by
  cases h with
  | intro here _ => exact here

theorem All.child {p : Ast → Prop} {ast child : Ast} (h : ast.All p)
    (member : child ∈ ast.children) : child.All p := by
  cases h with
  | intro _ below => exact below child member

theorem All.imp {p q : Ast → Prop} {ast : Ast} (h : ast.All p) (imp : ∀ part, p part → q part) :
    ast.All q := by
  induction h with
  | intro here _ ih => exact .intro (imp _ here) ih

/-- A property of all parts, written out for the whole. -/
theorem all_iff {p : Ast → Prop} (ast : Ast) :
    ast.All p ↔ p ast ∧ ∀ child ∈ ast.children, child.All p :=
  ⟨fun h ↦ ⟨h.here, fun _ ↦ h.child⟩, fun h ↦ .intro h.1 h.2⟩

/-- A description holds a stub if it is one or if one of its children holds one. -/
theorem hasStub_eq (ast : Ast) :
    ast.hasStub = (anyStub ast.children || decide (ast.kind = .lazy)) := by
  have entries (asts : List (String × Ast)) : anyStubIn asts = anyStub (Entries.values asts) := by
    induction asts with
    | nil => rfl
    | cons entry rest ih => simp [anyStubIn, anyStub, Entries.values, ih]
  cases ast <;> simp [hasStub, anyStub, kind, children, entries]

theorem anyStub_eq_false_iff {asts : List Ast} :
    anyStub asts = false ↔ ∀ ast ∈ asts, ast.hasStub = false := by
  induction asts with
  | nil => simp [anyStub]
  | cons ast rest ih => simp [anyStub, ih]

/-! ### Places -/

/-- A part of a description, with its place and the parts around it, innermost first. -/
inductive At (root : Ast) : (around : List Ast) → List Nat → (part : Ast) → Prop where
  /-- The whole description. -/
  | root : At root [] [] root
  /-- A child of a part. -/
  | child {around : List Ast} {place : List Nat} {parent child : Ast} {i : Nat}
      (parentAt : At root around place parent) (found : parent.children[i]? = some child) :
      At root (parent :: around) (i :: place) child

variable {root : Ast} {around : List Ast} {place : List Nat} {part : Ast}

theorem At.length_eq (h : root.At around place part) : around.length = place.length := by
  induction h with
  | root => rfl
  | child _ _ ih => simp [ih]

/-- A part of a part is a part. -/
theorem At.trans {inner : List Ast} {below : List Nat} {sub : Ast} (h : root.At around place part)
    (subAt : part.At inner below sub) : root.At (inner ++ around) (below ++ place) sub := by
  induction subAt with
  | root => exact h
  | child _ found ih => exact .child ih found

/-- The part that stands `up` levels above another. -/
theorem At.above (h : root.At around place part) {up : Nat} {target : Ast}
    (found : around[up]? = some target) :
    root.At (around.drop (up + 1)) (place.drop (up + 1)) target := by
  induction h generalizing up with
  | root => simp at found
  | @child around place parent child i parentAt _ ih =>
    cases up with
    | zero =>
      obtain rfl : parent = target := by simpa using found
      simpa using parentAt
    | succ up =>
      rw [List.drop_succ_cons, List.drop_succ_cons]
      exact ih (by simpa using found)

/-- The parts around another have children. -/
theorem At.children_ne_nil (h : root.At around place part) {up : Nat} {target : Ast}
    (found : around[up]? = some target) : target.children ≠ [] := by
  induction h generalizing up with
  | root => simp at found
  | @child around place parent child i _ there ih =>
    cases up with
    | zero =>
      obtain rfl : parent = target := by simpa using found
      intro none
      simp [none] at there
    | succ up => exact ih (by simpa using found)

/-- What holds of all parts holds of every part at a place. -/
theorem All.at {p : Ast → Prop} (h : root.All p) (partAt : root.At around place part) :
    part.All p := by
  induction partAt with
  | root => exact h
  | child _ found ih => exact ih.child (List.mem_of_getElem? found)

/-- A stub of a kind with a depth designates one of the parts around it: it is of the kind, stands
as far up as the depth says, where 1 is the parent, and is the nearest of the kind where the stub
has no depth. -/
structure Designates (around : List Ast) (kind : Kind) (depth : Option Nat) (up : Nat)
    (target : Ast) : Prop where
  /-- At least one level up. -/
  pos : 1 ≤ up
  /-- The part that stands there. -/
  found : around[up - 1]? = some target
  /-- The part has the kind. -/
  ofKind : target.kind = kind
  /-- The depth is the one that the stub has. -/
  atDepth : ∀ k, depth = some k → up = k
  /-- Nothing nearer has the kind, where the stub has no depth. -/
  nearest : depth = none → ∀ j nearer, j + 1 < up → around[j]? = some nearer → nearer.kind ≠ kind

end Ast

end Schemata
