import Schemata.Proofs.Schema.Building
import Schemata.Proofs.Ast.WireFormat

/-!
# Distinct keys

Decoding repeats no key: what decodes from a value without repeated keys has none either, at any
depth (`wellFormed_of_decodeAt`). Structs declare each name once and records merge what collides;
the rest is copied, or is a default. Transforms are excluded, and no description has one left.
-/

namespace Schemata

/-- What keeps keys distinct: no field is declared twice, no default repeats a key, and nothing is
transformed. -/
def Node.KeepsDistinct : Node → Prop
  | .struct _ fields _ => Entries.Distinct fields
  | .optional _ _ (some default) => default.WellFormed
  | .transform _ _ _ _ => False
  | _ => True

section Decoding

variable {references : References} {limit levels : Nat}

private theorem wellFormed_decodeStruct {decoder : Decoder} {fields : List (String × Node)}
    (distinct : Entries.Distinct fields) {input : Entries Value}
    (formed : (Value.object input).WellFormed) {out : List (String × Value)}
    (oks : decodeFields decoder input fields = .ok out)
    (each : ∀ name node, (name, node) ∈ fields → ∀ raw d : Value, raw.WellFormed →
      decoder node raw = .ok d → d.WellFormed)
    (defaults : ∀ name node, (name, node) ∈ fields → ∀ default, node.absent? = some (some default) →
      default.WellFormed) (extraKeys : ExtraKeys) :
    (Value.object
      (out ++ if extraKeys = .include then undeclared fields input else [])).WellFormed := by
  have distinctInput := (Value.wellFormed_object_iff.1 formed).1
  have distinctOut := distinct_decodeStruct oks distinct distinctInput extraKeys
  refine Value.wellFormed_object_iff.2 ⟨distinctOut, fun ⟨key, decoded⟩ member ↦ ?_⟩
  have found := Entries.get?_eq_some_of_mem distinctOut member
  rw [get?_decodeStruct oks] at found
  split at found
  · next declared =>
    obtain ⟨⟨_, node⟩, among, rfl⟩ := List.mem_map.1 declared
    have field := get?_of_decodeFields distinct oks among
    rw [found] at field
    cases written : Entries.get? _ input with
    | none =>
      rw [written] at field
      exact defaults _ node among decoded field
    | some raw =>
      rw [written] at field
      obtain ⟨d, ok, same⟩ := field
      cases same
      exact each _ node among raw decoded (formed.of_get? written) ok
  · split at found
    · exact formed.of_get? found
    · cases found

/-- What decodes from a value without repeated keys repeats none. -/
theorem wellFormed_of_decodeAt
    (resolved : ∀ reference, (references.resolve reference).All Node.KeepsDistinct) {node : Node}
    (good : node.All Node.KeepsDistinct) {value decoded : Value} (formed : value.WellFormed)
    (ok : decodeAt references limit levels node value = .ok decoded) : decoded.WellFormed := by
  -- On the levels left, and within a level on the node.
  induction levels using Nat.strongRecOn generalizing node value decoded with
  | ind levels deeper =>
    have next (l : Nat) (eq : levels = l + 1) {n : Node} (h : n.All Node.KeepsDistinct)
        {raw d : Value} (formed : raw.WellFormed)
        (ok : decodeAt references limit l n raw = .ok d) : d.WellFormed :=
      deeper l (by omega) h formed ok
    induction good generalizing decoded with
    | @intro node here below ih =>
      have good : node.All Node.KeepsDistinct := .intro here below
      cases node with
      | string | number | integer | boolean | null | symbol =>
        simp only [decodeAt_string, decodeAt_number, decodeAt_integer, decodeAt_boolean,
          decodeAt_null, decodeAt_symbol] at ok
        grind [Value.WellFormed]
      | literal =>
        obtain ⟨-, -, rfl⟩ := decodeAt_literal.1 ok
        exact formed
      | array =>
        obtain ⟨l, items, out, eq, rfl, -, oks, rfl⟩ := decodeAt_array.1 ok
        rw [Value.wellFormed_array_iff] at formed ⊢
        intro d member
        obtain ⟨raw, among, okItem⟩ := forall₂_exists_of_mem oks.flip member
        exact next l eq good.item (formed raw among) okItem
      | tuple =>
        obtain ⟨l, items, out, eq, rfl, -, oks, rfl⟩ := decodeAt_tuple.1 ok
        rw [Value.wellFormed_array_iff] at formed ⊢
        intro d member
        obtain ⟨⟨element, raw⟩, among, okElement⟩ := forall₂_exists_of_mem oks.flip member
        obtain ⟨amongElements, amongItems⟩ := List.of_mem_zip among
        exact next l eq (good.element amongElements) (formed raw amongItems) okElement
      | struct place fields extraKeys =>
        obtain ⟨l, input, out, eq, rfl, -, oks, rfl⟩ := decodeAt_struct.1 ok
        refine wellFormed_decodeStruct here formed oks (fun name node member raw d ↦ ?_)
          (fun name node member default absent ↦ ?_) extraKeys
        · exact next l eq (good.field member)
        · cases node with
          | optional _ _ default' =>
            cases absent
            exact (good.field member).here
          | _ => cases absent
      | record =>
        obtain ⟨l, input, out, eq, rfl, oks, rfl⟩ := decodeAt_record.1 ok
        refine Value.wellFormed_object_iff.2 ⟨Entries.distinct_ofList out, fun o member ↦ ?_⟩
        obtain ⟨entry, among, -, okValue⟩ :=
          forall₂_exists_of_mem oks.flip (Entries.mem_of_mem_ofList member)
        exact next l eq good.value ((Value.wellFormed_object_iff.1 formed).2 entry among) okValue
      | union =>
        obtain ⟨before, member, after, rfl, -, okMember⟩ := decodeAt_union.1 ok
        exact ih member (by simp [Node.children]) okMember
      | discriminatedUnion =>
        obtain ⟨input, tag, variant, rfl, -, found, okVariant⟩ := decodeAt_discriminatedUnion.1 ok
        have member := Entries.mem_of_get?_eq_some found
        exact ih variant (List.mem_map.2 ⟨_, member, rfl⟩) okVariant
      | optional place inner default =>
        rcases decodeAt_optional.1 ok with ⟨-, rfl⟩ | ⟨-, okInner⟩
        · cases default with
          | none => exact trivial
          | some default => exact here
        · exact ih inner (by simp [Node.children]) okInner
      | transform => exact here.elim
      | lazy name reference =>
        obtain ⟨l, eq, okTarget⟩ := decodeAt_lazy.1 ok
        exact next l eq (resolved reference) formed okTarget

end Decoding

/-! ### Descriptions -/

private theorem keepsDistinct_null : Node.null.All Node.KeepsDistinct :=
  .intro trivial (by simp [Node.children])

private theorem keepsDistinct_assemble {references : References} {enclosing : List (Kind × Place)}
    {place : Place} {nodes : List Node} {ast : Ast} (formed : ast.Formed)
    (length : nodes.length = ast.children.length)
    (below : ∀ node ∈ nodes, node.All Node.KeepsDistinct)
    (noStub : ∀ inner default, ast = .optional inner (some default) → inner.hasStub = false →
      (nodes.getD 0 .null).All (Node.Refers fun _ ↦ False)) {node : Node}
    (assembled : ast.assemble references enclosing place nodes = .ok node) :
    node.All Node.KeepsDistinct := by
  have nothing : ∀ reference, (References.resolve [] reference).All Node.KeepsDistinct :=
    fun _ ↦ keepsDistinct_null
  by_cases notLazy : ast.kind ≠ .lazy
  · refine all_assemble trivial (fun _ ↦ trivial) below notLazy assembled fun _ ↦ ?_
    cases ast with
    | string | literal =>
      obtain ⟨_, -, last⟩ := bind_eq_ok_iff.1 assembled
      cases last
      trivial
    | number | integer | boolean | null | symbol | array | tuple | record | union =>
      cases assembled
      trivial
    | struct fields required extraKeys =>
      cases assembled
      have keys : Entries.keys ((Entries.keys fields).zip nodes) = Entries.keys fields :=
        Entries.keys_zip (by simpa [Ast.children, Entries.values] using length)
      have named : Entries.Distinct ((Entries.keys fields).zip nodes) := by
        rw [Entries.Distinct, keys]
        exact formed
      show Entries.Distinct _
      simpa [Entries.Distinct, Entries.keys, Function.comp_def] using named
    | discriminatedUnion discriminator variants =>
      obtain ⟨_, -, last⟩ := bind_eq_ok_iff.1 assembled
      cases last
      trivial
    | optional inner default =>
      cases default with
      | none =>
        cases assembled
        trivial
      | some default =>
        rw [Ast.assemble] at assembled
        split at assembled
        · cases assembled
          exact formed
        · next stub =>
          obtain ⟨decoded, ok, rfl⟩ := optionalWithDefault_eq_ok assembled
          have refers := noStub inner default rfl (by simpa using stub)
          have alone : decodeAt [] defaultMaxDepth defaultMaxDepth (nodes.getD 0 .null) default =
              .ok decoded :=
            (decodeAt_of_refers refers default).trans ok
          exact wellFormed_of_decodeAt nothing (all_getD trivial below 0) formed alone
    | transform =>
      cases assembled
      exact (all_getD trivial below 0).here
    | lazy => exact absurd rfl notLazy
  · cases ast with
    | lazy =>
      rw [Ast.assemble] at assembled
      split at assembled
      · cases assembled
        exact .intro trivial (by simp [Node.children])
      · cases assembled
    | _ => simp [Ast.kind] at notLazy

/-- Everything that is built from a description keeps keys distinct. -/
theorem keepsDistinct_of_buildNode {enclosing : List (Kind × Place)} {place : Place} {ast : Ast}
    (formed : ast.All Ast.Formed) {part : Part} (built : buildNode enclosing place ast = .ok part) :
    part.node.All Node.KeepsDistinct
      ∧ ∀ entry ∈ part.published, entry.2.All Node.KeepsDistinct := by
  induction ast using Ast.induction generalizing enclosing place part with
  | step ast ih =>
    obtain ⟨parts, node, children, assembled, rfl⟩ := buildNode_eq_ok_iff.1 built
    have below (part : Part) (among : part ∈ parts) : part.node.All Node.KeepsDistinct
        ∧ ∀ entry ∈ part.published, entry.2.All Node.KeepsDistinct := by
      obtain ⟨child, member, _, builtChild⟩ := exists_of_mem_buildList children among
      exact ih child member (formed.child member) builtChild
    have here : node.All Node.KeepsDistinct := by
      refine keepsDistinct_assemble formed.here ?_ (List.forall_mem_map.2 fun part among ↦ ?_)
        (refers_of_buildList children) assembled
      · rw [List.length_map, length_of_buildList children]
      · exact (below part among).1
    refine ⟨here, List.forall_mem_cons.2 ⟨here, fun entry member ↦ ?_⟩⟩
    obtain ⟨part, among, inPart⟩ := List.mem_flatMap.1 member
    exact (below part among).2 entry inPart

/-- The schema of a description keeps keys distinct. -/
theorem Schema.keepsDistinct_of_ofAst {ast : Ast} (formed : ast.All Ast.Formed) {schema : Schema}
    (built : Schema.ofAst ast = .ok schema) : schema.All Node.KeepsDistinct := by
  obtain ⟨whole, builtWhole, last⟩ := bind_eq_ok_iff.1 built
  obtain ⟨_, -, last⟩ := bind_eq_ok_iff.1 last
  cases last
  obtain ⟨root, published⟩ := keepsDistinct_of_buildNode formed builtWhole
  exact ⟨root, References.resolve_induction published keepsDistinct_null⟩

end Schemata
