import Schemata.Proofs.Schema.Nodes
import Schemata.Proofs.Value
import Schemata.Schema.Decode

/-!
# What decoding yields

For every kind of node, exactly when decoding succeeds and with what: one equivalence
`decodeAt_<kind>` each, in terms of the decoder one level below. Proofs about decoded values go
through these and never unfold the decoder.
-/

namespace Schemata

theorem located_eq_ok_iff {α : Type} {segment : PathSegment} {result : Except DecodeError α}
    {a : α} : located segment result = .ok a ↔ result = .ok a := by
  cases result <;> simp [located]

theorem nonNull_eq_ok_iff {α : Type} {value : Value} {result : Except DecodeError α} {a : α} :
    nonNull value result = .ok a ↔ value ≠ .null ∧ result = .ok a := by
  rw [nonNull, ne_eq, ← Value.isNull_eq_true_iff]
  split <;> simp [*]

theorem unlessBroken_eq_ok_iff {α : Type} {violation : Option Violation}
    {result : Except DecodeError α} {a : α} :
    unlessBroken violation result = .ok a ↔ violation = none ∧ result = .ok a := by
  cases violation <;> simp [unlessBroken]

/-! ### Sequences of children -/

theorem decodeItems_eq_ok_iff {decode : Value → Except DecodeError Value} {i : Nat}
    {items out : List Value} :
    decodeItems decode i items = .ok out ↔
      List.Forall₂ (fun item decoded ↦ decode item = .ok decoded) items out := by
  induction items generalizing i out with
  | nil => cases out <;> simp [decodeItems]
  | cons item rest ih =>
    rw [decodeItems, bind_eq_ok_iff, List.forall₂_cons_left_iff]
    simp only [located_eq_ok_iff, bind_eq_ok_iff, ih, pure, Except.pure, Except.ok.injEq]
    constructor
    · rintro ⟨decoded, ok, decodedRest, oks, rfl⟩
      exact ⟨decoded, decodedRest, ok, oks, rfl⟩
    · rintro ⟨decoded, decodedRest, ok, oks, rfl⟩
      exact ⟨decoded, ok, decodedRest, oks, rfl⟩

theorem decodeElements_eq_ok_iff {decoder : Decoder} {i : Nat} {nodes : List Node}
    {items out : List Value} (length : items.length = nodes.length) :
    decodeElements decoder i nodes items = .ok out ↔
      List.Forall₂ (fun pair decoded ↦ decoder pair.1 pair.2 = .ok decoded) (nodes.zip items)
        out := by
  induction nodes generalizing i items out with
  | nil => cases out <;> simp [decodeElements]
  | cons node nodes ih =>
    cases items with
    | nil => simp at length
    | cons item rest =>
      rw [decodeElements, bind_eq_ok_iff, List.zip_cons_cons, List.forall₂_cons_left_iff]
      simp only [located_eq_ok_iff, bind_eq_ok_iff, ih (Nat.succ.inj length), pure, Except.pure,
        Except.ok.injEq]
      constructor
      · rintro ⟨decoded, ok, decodedRest, oks, rfl⟩
        exact ⟨decoded, decodedRest, ok, oks, rfl⟩
      · rintro ⟨decoded, decodedRest, ok, oks, rfl⟩
        exact ⟨decoded, ok, decodedRest, oks, rfl⟩

theorem decodeEntries_eq_ok_iff {decoder : Decoder} {key value : Node}
    {entries out : List (String × Value)} :
    decodeEntries decoder key value entries = .ok out ↔
      List.Forall₂ (fun entry decoded ↦
        (∃ k, decoder key (.string entry.1) = .ok k ∧ k.toKey = decoded.1)
          ∧ decoder value entry.2 = .ok decoded.2) entries out := by
  induction entries generalizing out with
  | nil => cases out <;> simp [decodeEntries]
  | cons entry rest ih =>
    obtain ⟨name, v⟩ := entry
    rw [decodeEntries, bind_eq_ok_iff, List.forall₂_cons_left_iff]
    simp only [located_eq_ok_iff, bind_eq_ok_iff, ih, pure, Except.pure, Except.ok.injEq]
    constructor
    · rintro ⟨k, okKey, decoded, ok, decodedRest, oks, rfl⟩
      exact ⟨(k.toKey, decoded), decodedRest, ⟨⟨k, okKey, rfl⟩, ok⟩, oks, rfl⟩
    · rintro ⟨⟨_, decoded⟩, decodedRest, ⟨⟨k, okKey, rfl⟩, ok⟩, oks, rfl⟩
      exact ⟨k, okKey, decoded, ok, decodedRest, oks, rfl⟩

/-- What an absent field is replaced by: the default of an optional node, where it has one. A field
that must be present has no such value at all. -/
def Node.absent? : Node → Option (Option Value)
  | .optional _ _ default => some default
  | _ => none

/-- What decoding one field puts into the result, from what the input has under its name. -/
def FieldDecoded (decoder : Decoder) (node : Node) (raw out : Option Value) : Prop :=
  match raw with
  | some raw => ∃ decoded, decoder node raw = .ok decoded ∧ out = some decoded
  | none => node.absent? = some out

theorem decodeFields_cons_eq_ok_iff {decoder : Decoder} {input : Entries Value} {name : String}
    {node : Node} {rest : List (String × Node)} {out : List (String × Value)} :
    decodeFields decoder input ((name, node) :: rest) = .ok out ↔
      ∃ decoded fields, FieldDecoded decoder node (Entries.get? name input) decoded
        ∧ decodeFields decoder input rest = .ok fields
        ∧ out = (decoded.map fun d ↦ (name, d)).toList ++ fields := by
  cases found : Entries.get? name input with
  | some raw =>
    simp only [decodeFields, found, bind_eq_ok_iff, located_eq_ok_iff, FieldDecoded]
    constructor
    · rintro ⟨decoded, ok, fields, oks, eq⟩
      refine ⟨some decoded, fields, ⟨decoded, ok, rfl⟩, oks, ?_⟩
      simpa [pure, Except.pure] using eq.symm
    · rintro ⟨_, fields, ⟨decoded, ok, rfl⟩, oks, rfl⟩
      exact ⟨decoded, ok, fields, oks, rfl⟩
  | none =>
    cases node with
    | optional place inner default =>
      simp only [FieldDecoded, Node.absent?, Option.some.injEq]
      cases default with
      | none =>
        simp only [decodeFields, found]
        constructor
        · exact fun oks ↦ ⟨none, out, rfl, oks, rfl⟩
        · rintro ⟨_, fields, rfl, oks, rfl⟩
          exact oks
      | some default =>
        simp only [decodeFields, found, bind_eq_ok_iff]
        constructor
        · rintro ⟨fields, oks, eq⟩
          refine ⟨some default, fields, rfl, oks, ?_⟩
          simpa [pure, Except.pure] using eq.symm
        · rintro ⟨_, fields, rfl, oks, rfl⟩
          exact ⟨fields, oks, rfl⟩
    | _ => simp [decodeFields, found, located, FieldDecoded, Node.absent?]

/-- The decoded fields stand in order of declaration. -/
theorem keys_sublist_of_decodeFields {decoder : Decoder} {input : Entries Value}
    {fields : List (String × Node)} {out : List (String × Value)}
    (ok : decodeFields decoder input fields = .ok out) :
    (Entries.keys out).Sublist (Entries.keys fields) := by
  induction fields generalizing out with
  | nil =>
    cases ok
    exact .slnil
  | cons field rest ih =>
    obtain ⟨name, node⟩ := field
    obtain ⟨decoded, decodedRest, -, oks, rfl⟩ := decodeFields_cons_eq_ok_iff.1 ok
    cases decoded with
    | none => exact (ih oks).cons _
    | some d => exact (ih oks).cons_cons _

/-- Under the name of a declared field stands what decoding it put there; under any other, nothing.
-/
theorem get?_of_decodeFields {decoder : Decoder} {input : Entries Value}
    {fields : List (String × Node)} {out : List (String × Value)}
    (distinct : Entries.Distinct fields) (ok : decodeFields decoder input fields = .ok out)
    {name : String} {node : Node} (member : (name, node) ∈ fields) :
    FieldDecoded decoder node (Entries.get? name input) (Entries.get? name out) := by
  induction fields generalizing out with
  | nil => simp at member
  | cons field rest ih =>
    obtain ⟨first, firstNode⟩ := field
    obtain ⟨fresh, distinctRest⟩ := List.nodup_cons.1 distinct
    obtain ⟨decoded, decodedRest, here, oks, rfl⟩ := decodeFields_cons_eq_ok_iff.1 ok
    rw [Entries.get?_append]
    rcases List.mem_cons.1 member with eq | tail
    · cases eq
      have absent : Entries.get? name decodedRest = none :=
        Entries.get?_eq_none_iff.2 fun h ↦ fresh ((keys_sublist_of_decodeFields oks).subset h)
      cases decoded <;> simpa [Entries.get?_cons, absent] using here
    · have other : first ≠ name := by
        rintro rfl
        exact fresh (Entries.mem_keys tail)
      have later := ih distinctRest oks tail
      cases decoded <;> simpa [Entries.get?_cons, other] using later

/-- Each field of a struct that decodes is decoded or stands for its absence. -/
theorem each_of_decodeFields {decoder : Decoder} {input : Entries Value}
    {fields : List (String × Node)} {out : List (String × Value)}
    (ok : decodeFields decoder input fields = .ok out) :
    ∀ name node, (name, node) ∈ fields →
      ∃ decoded, FieldDecoded decoder node (Entries.get? name input) decoded := by
  induction fields generalizing out with
  | nil => simp
  | cons field rest ih =>
    obtain ⟨first, firstNode⟩ := field
    obtain ⟨decoded, _, here, oks, -⟩ := decodeFields_cons_eq_ok_iff.1 ok
    intro name node member
    rcases List.mem_cons.1 member with eq | tail
    · cases eq
      exact ⟨decoded, here⟩
    · exact ih oks name node tail

/-- Fields decode only where those that must be present are. -/
theorem mem_keys_of_decodeFields {decoder : Decoder} {input : Entries Value}
    {fields : List (String × Node)} {out : List (String × Value)}
    (ok : decodeFields decoder input fields = .ok out) {name : String}
    (required : name ∈ Node.requiredNames fields) : name ∈ Entries.keys input := by
  obtain ⟨⟨_, node⟩, kept, rfl⟩ := List.mem_map.1 required
  obtain ⟨member, notOptional⟩ := List.mem_filter.1 kept
  obtain ⟨decoded, here⟩ := each_of_decodeFields ok _ node member
  by_contra absent
  rw [Entries.get?_eq_none_iff.2 absent] at here
  cases node with
  | optional => cases notOptional
  | _ => cases here

/-- Only what the input has under the names of fields is decoded. -/
theorem decodeFields_of_agree {decoder : Decoder} {input input' : Entries Value}
    {fields : List (String × Node)} {out : List (String × Value)}
    (agree : ∀ name ∈ Entries.keys fields, Entries.get? name input' = Entries.get? name input)
    (ok : decodeFields decoder input fields = .ok out) :
    decodeFields decoder input' fields = .ok out := by
  induction fields generalizing out with
  | nil => exact ok
  | cons field rest ih =>
    obtain ⟨name, node⟩ := field
    rw [Entries.keys_cons, List.forall_mem_cons] at agree
    obtain ⟨decoded, later, here, oks, rfl⟩ := decodeFields_cons_eq_ok_iff.1 ok
    apply decodeFields_cons_eq_ok_iff.2
    rw [agree.1]
    exact ⟨decoded, later, here, ih agree.2 oks, rfl⟩

/-- Fields decode together if each of them does. -/
theorem decodeFields_ok_of_forall {decoder : Decoder} {input : Entries Value}
    {fields : List (String × Node)}
    (each : ∀ name node, (name, node) ∈ fields →
      ∃ out, FieldDecoded decoder node (Entries.get? name input) out) :
    ∃ out, decodeFields decoder input fields = .ok out := by
  induction fields with
  | nil => exact ⟨[], rfl⟩
  | cons field rest ih =>
    obtain ⟨name, node⟩ := field
    obtain ⟨decoded, here⟩ := each name node List.mem_cons_self
    obtain ⟨fields, oks⟩ := ih fun n m member ↦ each n m (List.mem_cons_of_mem _ member)
    exact ⟨_, decodeFields_cons_eq_ok_iff.2 ⟨decoded, fields, here, oks, rfl⟩⟩

theorem get?_undeclared {α : Type} (fields : Entries α) (input : Entries Value) (key : String) :
    Entries.get? key (undeclared fields input) =
      if key ∈ Entries.keys fields then none else Entries.get? key input := by
  rw [undeclared, Entries.get?_filter_keys (fun k ↦ !Entries.contains k fields)]
  by_cases h : key ∈ Entries.keys fields
  · simp [h, Entries.contains_eq_true_iff.2 h]
  · have absent : Entries.contains key fields = false := by
      rw [← Bool.not_eq_true, Entries.contains_eq_true_iff]
      exact h
    simp [h, absent]

theorem undeclared_congr {α β : Type} {fields : Entries α} {fields' : Entries β}
    (keys : Entries.keys fields' = Entries.keys fields) (input : Entries Value) :
    undeclared fields' input = undeclared fields input := by
  refine List.filter_congr fun entry _ ↦ ?_
  rw [Bool.not_inj_iff, Bool.eq_iff_iff, Entries.contains_eq_true_iff,
    Entries.contains_eq_true_iff, keys]

theorem undeclared_eq_nil_iff {α : Type} {fields : Entries α} {input : Entries Value} :
    undeclared fields input = [] ↔ ∀ key ∈ Entries.keys input, key ∈ Entries.keys fields := by
  simp only [undeclared, List.filter_eq_nil_iff, Bool.not_eq_true, Bool.not_eq_false',
    Entries.contains_eq_true_iff]
  constructor
  · intro h key member
    obtain ⟨entry, inInput, rfl⟩ := List.mem_map.1 member
    exact h entry inInput
  · exact fun h entry member ↦ h _ (Entries.mem_keys member)

/-- What a struct decodes to is found under the names of its fields, and under the other names of
the input where these are kept. -/
theorem get?_decodeStruct {decoder : Decoder} {input : Entries Value}
    {fields : List (String × Node)} {out : List (String × Value)}
    (ok : decodeFields decoder input fields = .ok out) (extraKeys : ExtraKeys) (key : String) :
    Entries.get? key (out ++ if extraKeys = .include then undeclared fields input else []) =
      if key ∈ Entries.keys fields then Entries.get? key out
      else if extraKeys = .include then Entries.get? key input else none := by
  have sub := keys_sublist_of_decodeFields ok
  rw [Entries.get?_append]
  by_cases declared : key ∈ Entries.keys fields
  · rw [if_pos declared]
    split <;> simp [get?_undeclared, declared]
  · have absent : Entries.get? key out = none :=
      Entries.get?_eq_none_iff.2 fun h ↦ declared (sub.subset h)
    rw [if_neg declared, absent]
    split <;> simp [get?_undeclared, declared]

theorem distinct_decodeStruct {decoder : Decoder} {input : Entries Value}
    {fields : List (String × Node)} {out : List (String × Value)}
    (ok : decodeFields decoder input fields = .ok out) (distinct : Entries.Distinct fields)
    (distinctInput : Entries.Distinct input) (extraKeys : ExtraKeys) :
    Entries.Distinct (out ++ if extraKeys = .include then undeclared fields input else []) := by
  have sub := keys_sublist_of_decodeFields ok
  have decoded : Entries.Distinct out := distinct.sublist sub
  split
  · have extra : Entries.Distinct (undeclared fields input) := distinctInput.filter _
    refine decoded.append extra fun key h undeclared ↦ ?_
    rw [← Entries.contains_eq_true_iff, Entries.contains, get?_undeclared,
      if_pos (sub.subset h)] at undeclared
    simp at undeclared
  · simpa using decoded

/-! ### Choices between children -/

theorem decodeMembers_eq_ok_iff {references : References} {limit : Nat} {below : Option Decoder}
    {members : List Node} {value decoded : Value} :
    decodeMembers references limit below members value = .ok decoded ↔
      ∃ before member after, members = before ++ member :: after
        ∧ (∀ m ∈ before, ∀ d, decodeNode references limit below m value ≠ .ok d)
        ∧ decodeNode references limit below member value = .ok decoded := by
  induction members with
  | nil => simp [decodeMembers]
  | cons first rest ih =>
    cases result : decodeNode references limit below first value with
    | ok d =>
      simp only [decodeMembers, result, Except.ok.injEq]
      constructor
      · rintro rfl
        exact ⟨[], first, rest, rfl, by simp, result⟩
      · rintro ⟨before, member, after, split, rejected, ok⟩
        cases before with
        | nil =>
          cases split
          rw [result] at ok
          exact Except.ok.inj ok
        | cons =>
          cases split
          exact absurd result (rejected first List.mem_cons_self d)
    | error failure =>
      have tail : decodeMembers references limit below (first :: rest) value = .ok decoded ↔
          decodeMembers references limit below rest value = .ok decoded := by
        rw [decodeMembers, result]
        cases decodeMembers references limit below rest value <;> simp
      rw [tail, ih]
      constructor
      · rintro ⟨before, member, after, rfl, rejected, ok⟩
        refine ⟨first :: before, member, after, rfl, ?_, ok⟩
        exact List.forall_mem_cons.2 ⟨fun d h ↦ by simp [result] at h, rejected⟩
      · rintro ⟨before, member, after, split, rejected, ok⟩
        cases before with
        | nil =>
          cases split
          simp [result] at ok
        | cons m before =>
          cases split
          exact ⟨before, member, after, rfl, (List.forall_mem_cons.1 rejected).2, ok⟩

theorem decodeVariant_eq (references : References) (limit : Nat) (below : Option Decoder)
    (tag : String) (variants : List (String × Node)) (value : Value) :
    decodeVariant references limit below tag variants value =
      (Entries.get? tag variants).map fun variant ↦
        decodeNode references limit below variant value := by
  induction variants with
  | nil => rfl
  | cons entry rest ih =>
    obtain ⟨t, variant⟩ := entry
    by_cases h : t = tag
    · simp [decodeVariant, Entries.get?_cons, h]
    · simp [decodeVariant, Entries.get?_cons, h, ih]

/-! ### Nodes -/

/-- The decoder one level below, where a level is left. -/
def decoderBelow (references : References) (limit : Nat) : (levels : Nat) → Option Decoder
  | 0 => none
  | levels + 1 => some (decodeAt references limit levels)

theorem decodeAt_eq (references : References) (limit levels : Nat) (node : Node) (value : Value) :
    decodeAt references limit levels node value =
      decodeNode references limit (decoderBelow references limit levels) node value := by
  cases levels <;> rfl

theorem deeper_eq_ok_iff {α : Type} {references : References} {limit levels : Nat}
    {run : Decoder → Except DecodeError α} {a : α} :
    deeper limit (decoderBelow references limit levels) run = .ok a ↔
      ∃ l, levels = l + 1 ∧ run (decodeAt references limit l) = .ok a := by
  cases levels <;> simp [deeper, decoderBelow]

section Kinds

variable {references : References} {limit levels : Nat} {place : Option Place}
  {value decoded : Value}

theorem decodeAt_string {type : StringType} :
    decodeAt references limit levels (.string type) value = .ok decoded ↔
      ∃ text, value = .string text ∧ type.violation? text = none ∧ .string text = decoded := by
  rw [decodeAt_eq]
  show nonNull value (type.decode value) = .ok decoded ↔ _
  cases value <;>
    simp [nonNull_eq_ok_iff, StringType.decode, mismatch, unlessBroken_eq_ok_iff]

theorem decodeAt_number {c : NumericConstraints} :
    decodeAt references limit levels (.number c) value = .ok decoded ↔
      ∃ n, value = .number n ∧ c.violation? n = none ∧ .number n = decoded := by
  rw [decodeAt_eq]
  show nonNull value (c.decode value) = .ok decoded ↔ _
  cases value <;>
    simp [nonNull_eq_ok_iff, NumericConstraints.decode, mismatch, unlessBroken_eq_ok_iff]

theorem decodeAt_integer {c : NumericConstraints} :
    decodeAt references limit levels (.integer c) value = .ok decoded ↔
      ∃ n, value = .number n ∧ n.isIntegral = true ∧ c.violation? n = none
        ∧ .number n = decoded := by
  rw [decodeAt_eq]
  show nonNull value (c.decodeInteger value) = .ok decoded ↔ _
  cases value with
  | number n =>
    cases integral : n.isIntegral <;>
      simp [nonNull_eq_ok_iff, NumericConstraints.decodeInteger, integral, mismatch,
        unlessBroken_eq_ok_iff]
  | _ => simp [nonNull_eq_ok_iff, NumericConstraints.decodeInteger, mismatch]

theorem decodeAt_boolean :
    decodeAt references limit levels .boolean value = .ok decoded ↔
      ∃ b, value = .bool b ∧ .bool b = decoded := by
  rw [decodeAt_eq]
  cases value <;> simp [decodeNode, nonNull_eq_ok_iff, mismatch]

theorem decodeAt_null :
    decodeAt references limit levels .null value = .ok decoded ↔
      value = .null ∧ .null = decoded := by
  rw [decodeAt_eq]
  cases value <;> simp [decodeNode, mismatch]

theorem decodeAt_symbol :
    decodeAt references limit levels .symbol value = .ok decoded ↔
      ∃ name, (value = .string name ∨ value = .symbol name) ∧ .symbol name = decoded := by
  rw [decodeAt_eq]
  cases value <;> simp [decodeNode, nonNull_eq_ok_iff, mismatch]

theorem decodeAt_literal {type : LiteralType} :
    decodeAt references limit levels (.literal type) value = .ok decoded ↔
      value ≠ .null ∧ (∃ allowed ∈ type.values, allowed.looselyEq value = true)
        ∧ value = decoded := by
  rw [decodeAt_eq]
  show nonNull value (type.decode value) = .ok decoded ↔ _
  rw [nonNull_eq_ok_iff, LiteralType.decode]
  split
  · next listed => simp [List.any_eq_true.1 listed]
  · next unlisted =>
    rw [List.any_eq_true] at unlisted
    simp [unlisted]

theorem decodeAt_array {item : Node} {c : ArrayConstraints} :
    decodeAt references limit levels (.array place item c) value = .ok decoded ↔
      ∃ l items out, levels = l + 1 ∧ value = .array items ∧ c.violation? items = none
        ∧ List.Forall₂ (fun i o ↦ decodeAt references limit l item i = .ok o) items out
        ∧ decoded = .array out := by
  rw [decodeAt_eq]
  show nonNull value (decodeArray limit (decoderBelow references limit levels) item c value) =
      .ok decoded ↔ _
  rw [nonNull_eq_ok_iff]
  cases value with
  | array items =>
    simp only [decodeArray, unlessBroken_eq_ok_iff, deeper_eq_ok_iff, map_eq_ok_iff,
      decodeItems_eq_ok_iff]
    constructor
    · rintro ⟨-, sound, l, rfl, out, oks, rfl⟩
      exact ⟨l, items, out, rfl, rfl, sound, oks, rfl⟩
    · rintro ⟨l, _, out, rfl, eq, sound, oks, rfl⟩
      cases eq
      exact ⟨by simp, sound, l, rfl, out, oks, rfl⟩
  | _ => simp [decodeArray, mismatch]

theorem decodeAt_tuple {elements : List Node} :
    decodeAt references limit levels (.tuple place elements) value = .ok decoded ↔
      ∃ l items out, levels = l + 1 ∧ value = .array items ∧ items.length = elements.length
        ∧ List.Forall₂ (fun pair o ↦ decodeAt references limit l pair.1 pair.2 = .ok o)
          (elements.zip items) out
        ∧ decoded = .array out := by
  rw [decodeAt_eq]
  show nonNull value (decodeTuple limit (decoderBelow references limit levels) elements value) =
      .ok decoded ↔ _
  rw [nonNull_eq_ok_iff]
  cases value with
  | array items =>
    rw [decodeTuple]
    split
    · next length =>
      simp only [deeper_eq_ok_iff, map_eq_ok_iff, decodeElements_eq_ok_iff length]
      constructor
      · rintro ⟨-, l, rfl, out, oks, rfl⟩
        exact ⟨l, items, out, rfl, rfl, length, oks, rfl⟩
      · rintro ⟨l, _, out, rfl, eq, -, oks, rfl⟩
        cases eq
        exact ⟨by simp, l, rfl, out, oks, rfl⟩
    · next length =>
      simp only [reduceCtorEq, and_false, false_iff]
      rintro ⟨_, _, _, -, eq, fits, -⟩
      cases eq
      exact length fits
  | _ => simp [decodeTuple, mismatch]

theorem decodeAt_struct {fields : List (String × Node)} {extraKeys : ExtraKeys} :
    decodeAt references limit levels (.struct place fields extraKeys) value = .ok decoded ↔
      ∃ l input out, levels = l + 1 ∧ value = .object input
        ∧ (extraKeys = .reject → undeclared fields input = [])
        ∧ decodeFields (decodeAt references limit l) input fields = .ok out
        ∧ decoded =
          .object (out ++ if extraKeys = .include then undeclared fields input else []) := by
  rw [decodeAt_eq]
  show nonNull value
      (decodeStruct limit (decoderBelow references limit levels) fields extraKeys value) =
      .ok decoded ↔ _
  rw [nonNull_eq_ok_iff]
  cases value with
  | object input =>
    simp only [decodeStruct]
    split
    · next unexpected =>
      simp only [reduceCtorEq, and_false, false_iff]
      rintro ⟨_, _, _, -, eq, expected, -⟩
      cases eq
      simp_all
    · next expected =>
      simp only [deeper_eq_ok_iff, bind_eq_ok_iff, pure, Except.pure, Except.ok.injEq]
      constructor
      · rintro ⟨-, l, rfl, out, oks, rfl⟩
        refine ⟨l, input, out, rfl, rfl, fun reject ↦ ?_, oks, rfl⟩
        simpa [reject] using expected
      · rintro ⟨l, _, out, rfl, eq, -, oks, rfl⟩
        cases eq
        exact ⟨by simp, l, rfl, out, oks, rfl⟩
  | _ => simp [decodeStruct, mismatch]

theorem decodeAt_record {key item : Node} :
    decodeAt references limit levels (.record place key item) value = .ok decoded ↔
      ∃ l input out, levels = l + 1 ∧ value = .object input
        ∧ List.Forall₂ (fun entry o ↦
            (∃ k, decodeAt references limit l key (.string entry.1) = .ok k ∧ k.toKey = o.1)
              ∧ decodeAt references limit l item entry.2 = .ok o.2) input out
        ∧ decoded = .object (Entries.ofList out) := by
  rw [decodeAt_eq]
  show nonNull value (decodeRecord limit (decoderBelow references limit levels) key item value) =
      .ok decoded ↔ _
  rw [nonNull_eq_ok_iff]
  cases value with
  | object input =>
    simp only [decodeRecord, deeper_eq_ok_iff, map_eq_ok_iff, decodeEntries_eq_ok_iff]
    constructor
    · rintro ⟨-, l, rfl, out, oks, rfl⟩
      exact ⟨l, input, out, rfl, rfl, oks, rfl⟩
    · rintro ⟨l, _, out, rfl, eq, oks, rfl⟩
      cases eq
      exact ⟨by simp, l, rfl, out, oks, rfl⟩
  | _ => simp [decodeRecord, mismatch]

theorem decodeAt_union {members : List Node} :
    decodeAt references limit levels (.union place members) value = .ok decoded ↔
      ∃ before member after, members = before ++ member :: after
        ∧ (∀ m ∈ before, ∀ d, decodeAt references limit levels m value ≠ .ok d)
        ∧ decodeAt references limit levels member value = .ok decoded := by
  simp only [decodeAt_eq, decodeNode]
  rw [← decodeMembers_eq_ok_iff]
  split <;> simp [*]

/-- A union decodes what one of its members decodes. -/
theorem exists_decodeAt_union {members : List Node} {member : Node} (among : member ∈ members)
    (ok : decodeAt references limit levels member value = .ok decoded) :
    ∃ d, decodeAt references limit levels (.union place members) value = .ok d := by
  induction members with
  | nil => cases among
  | cons first rest ih =>
    by_cases okFirst : ∃ d, decodeAt references limit levels first value = .ok d
    · obtain ⟨d, okFirst⟩ := okFirst
      exact ⟨d, decodeAt_union.2 ⟨[], first, rest, rfl, by simp, okFirst⟩⟩
    · rcases List.mem_cons.1 among with rfl | inRest
      · exact absurd ⟨decoded, ok⟩ okFirst
      · obtain ⟨d, okRest⟩ := ih inRest
        obtain ⟨before, m, after, rfl, rejected, okMember⟩ := decodeAt_union.1 okRest
        refine ⟨d, decodeAt_union.2 ⟨first :: before, m, after, rfl, ?_, okMember⟩⟩
        exact List.forall_mem_cons.2 ⟨fun d ok ↦ okFirst ⟨d, ok⟩, rejected⟩

theorem decodeAt_discriminatedUnion {discriminator : String} {variants : List (String × Node)} :
    decodeAt references limit levels (.discriminatedUnion place discriminator variants) value
        = .ok decoded ↔
      ∃ input tag variant, value = .object input ∧ Entries.get? discriminator input = some tag
        ∧ Entries.get? tag.toKey variants = some variant
        ∧ decodeAt references limit levels variant value = .ok decoded := by
  simp only [decodeAt_eq]
  cases value with
  | object input =>
    cases tagged : Entries.get? discriminator input with
    | none => simp [decodeNode, nonNull_eq_ok_iff, tagged]
    | some tag =>
      cases found : Entries.get? tag.toKey variants <;>
        simp [decodeNode, nonNull_eq_ok_iff, decodeVariant_eq, tagged, found]
  | _ => simp [decodeNode, nonNull_eq_ok_iff, mismatch]

theorem decodeAt_optional {inner : Node} {default : Option Value} :
    decodeAt references limit levels (.optional place inner default) value = .ok decoded ↔
      (value = .null ∧ decoded = default.getD .null)
        ∨ (value ≠ .null ∧ decodeAt references limit levels inner value = .ok decoded) := by
  simp only [decodeAt_eq]
  show (if value.isNull then .ok (default.getD .null)
    else decodeNode references limit (decoderBelow references limit levels) inner value) =
      .ok decoded ↔ _
  rw [ne_eq, ← Value.isNull_eq_true_iff]
  split <;> simp [*, eq_comm]

theorem decodeAt_transform {inner : Node} {target : String} {conversion : Conversion} :
    decodeAt references limit levels (.transform place inner target conversion) value
        = .ok decoded ↔
      ∃ d, decodeAt references limit levels inner value = .ok d
        ∧ decoded = conversion.decode d := by
  simp only [decodeAt_eq]
  show (decodeNode references limit (decoderBelow references limit levels) inner value).map
      conversion.decode = .ok decoded ↔ _
  rw [map_eq_ok_iff]
  simp [eq_comm]

theorem decodeAt_lazy {name : String} {reference : Place} :
    decodeAt references limit levels (.lazy name reference) value = .ok decoded ↔
      ∃ l, levels = l + 1
        ∧ decodeAt references limit l (references.resolve reference) value = .ok decoded := by
  rw [decodeAt_eq]
  exact deeper_eq_ok_iff

end Kinds

/-- A variant decodes the discriminator to itself, so what it decodes belongs to the same variant.
-/
theorem get?_discriminator_of_decodeAt {references : References} {limit levels : Nat}
    {discriminator tag : String} {variant : Node} (formed : variant.Formed)
    (fits : Node.variantFault? discriminator tag variant = none) {input : Entries Value}
    {written decoded : Value} (tagged : Entries.get? discriminator input = some written)
    (ok : decodeAt references limit levels variant (.object input) = .ok decoded) :
    decoded.get? discriminator = some written := by
  obtain ⟨place, fields, extraKeys, type, only, rfl, declared, -, -⟩ :=
    Node.variantFault?_eq_none fits
  obtain ⟨l, _, out, rfl, eq, -, oks, rfl⟩ := decodeAt_struct.1 ok
  cases eq
  have member := Entries.mem_of_get?_eq_some declared
  have field := get?_of_decodeFields formed oks member
  rw [tagged] at field
  obtain ⟨d, okField, found⟩ := field
  obtain ⟨-, -, rfl⟩ := decodeAt_literal.1 okField
  rw [Value.get?, get?_decodeStruct oks, if_pos (Entries.mem_keys member), found]

/-- Decoding a string yields that string, or the symbol of that name. -/
theorem decodeAt_text {references : References} {limit levels : Nat}
    (resolved : ∀ reference, (references.resolve reference).All Node.NoTransform) {node : Node}
    (plain : node.All Node.NoTransform) {text : String} {decoded : Value}
    (ok : decodeAt references limit levels node (.string text) = .ok decoded) :
    decoded = .string text ∨ decoded = .symbol text := by
  induction levels using Nat.strongRecOn generalizing node decoded with
  | ind levels deeper =>
    induction plain generalizing decoded with
    | @intro node here below ih =>
      cases node with
      | string type =>
        obtain ⟨_, eq, -, rfl⟩ := decodeAt_string.1 ok
        exact .inl eq.symm
      | symbol =>
        obtain ⟨_, eq | eq, rfl⟩ := decodeAt_symbol.1 ok
        · cases eq
          exact .inr rfl
        · cases eq
      | literal type =>
        obtain ⟨-, -, rfl⟩ := decodeAt_literal.1 ok
        exact .inl rfl
      | union place members =>
        obtain ⟨before, member, after, rfl, -, okMember⟩ := decodeAt_union.1 ok
        exact ih member (by simp [Node.children]) okMember
      | optional place inner default =>
        rcases decodeAt_optional.1 ok with ⟨eq, -⟩ | ⟨-, okInner⟩
        · cases eq
        · exact ih inner (by simp [Node.children]) okInner
      | transform => exact here.elim
      | lazy name reference =>
        obtain ⟨l, rfl, okTarget⟩ := decodeAt_lazy.1 ok
        exact deeper l (Nat.lt_succ_self l) (resolved reference) okTarget
      | number | integer | boolean | null | array | tuple | struct | record
        | discriminatedUnion =>
        simp [decodeAt_number, decodeAt_integer, decodeAt_boolean, decodeAt_null, decodeAt_array,
          decodeAt_tuple, decodeAt_struct, decodeAt_record, decodeAt_discriminatedUnion] at ok

theorem toKey_of_decodeAt {references : References} {limit levels : Nat}
    (resolved : ∀ reference, (references.resolve reference).All Node.NoTransform) {node : Node}
    (plain : node.All Node.NoTransform) {text : String} {decoded : Value}
    (ok : decodeAt references limit levels node (.string text) = .ok decoded) :
    decoded.toKey = text := by
  rcases decodeAt_text resolved plain ok with rfl | rfl <;> rfl

/-- A record keeps its keys. -/
theorem keys_of_decodeEntries {references : References} {limit levels : Nat}
    (resolved : ∀ reference, (references.resolve reference).All Node.NoTransform) {key item : Node}
    (plain : key.All Node.NoTransform) {input out : Entries Value}
    (oks : List.Forall₂ (fun entry o ↦
      (∃ k, decodeAt references limit levels key (.string entry.1) = .ok k ∧ k.toKey = o.1)
        ∧ decodeAt references limit levels item entry.2 = .ok o.2) input out) :
    List.Forall₂ (fun entry o ↦
      entry.1 = o.1 ∧ decodeAt references limit levels item entry.2 = .ok o.2) input out :=
  oks.imp fun _ _ ⟨⟨_, okKey, eq⟩, ok⟩ ↦ ⟨toKey_of_decodeAt resolved plain okKey ▸ eq, ok⟩

/-- Entries decoded under distinct keys are not merged. -/
theorem distinct_of_decodeEntries {references : References} {limit levels : Nat}
    (resolved : ∀ reference, (references.resolve reference).All Node.NoTransform) {key item : Node}
    (plain : key.All Node.NoTransform) {input out : Entries Value}
    (distinct : Entries.Distinct input)
    (oks : List.Forall₂ (fun entry o ↦
      (∃ k, decodeAt references limit levels key (.string entry.1) = .ok k ∧ k.toKey = o.1)
        ∧ decodeAt references limit levels item entry.2 = .ok o.2) input out) :
    Entries.Distinct out ∧ Entries.ofList out = out := by
  have keys : Entries.keys input = Entries.keys out := List.forall₂_eq_eq_eq ▸
    List.forall₂_map_left_iff.2 (List.forall₂_map_right_iff.2
      ((keys_of_decodeEntries resolved plain oks).imp fun _ _ h ↦ h.1))
  have distinctOut : Entries.Distinct out := by
    rw [Entries.Distinct, ← keys]
    exact distinct
  exact ⟨distinctOut, Entries.ofList_of_distinct distinctOut⟩

end Schemata
