import Schemata.Proofs.Schema.Tracing

/-!
# Nulls that defaults fill in

Where a field is absent, a null default puts null into the decoded value and no default leaves the
field out. `Node.Fills` relates a node to one that lacks some of its null defaults, by what the two
decode: both fail with the same error, or both succeed and the values differ in entries that are
null (`Value.Filled`). The relation is kept by every kind of node, one lemma each, so it need only
be shown where a default is dropped (`Node.Fills.optional`).
-/

namespace Schemata

/-! ### Values -/

/-- The first entries are the second ones, with related values, and others that are null. -/
inductive Entries.Padded (r : Value → Value → Prop) : Entries Value → Entries Value → Prop where
  /-- There are none. -/
  | nil : Padded r [] []
  /-- Both have an entry. -/
  | keep (key : String) {x y : Value} {xs ys : Entries Value} (value : r x y)
      (rest : Padded r xs ys) : Padded r ((key, x) :: xs) ((key, y) :: ys)
  /-- Only the first ones have an entry. -/
  | fill (key : String) {xs ys : Entries Value} (rest : Padded r xs ys) :
      Padded r ((key, .null) :: xs) ys

namespace Entries.Padded

variable {r : Value → Value → Prop} {xs ys : Entries Value}

theorem of_forall₂ (h : List.Forall₂ (fun x y ↦ x.1 = y.1 ∧ r x.2 y.2) xs ys) :
    Padded r xs ys := by
  induction h with
  | nil => exact .nil
  | @cons x y _ _ head _ ih =>
    obtain ⟨key, x⟩ := x
    obtain ⟨_, y⟩ := y
    obtain ⟨rfl, value⟩ := head
    exact .keep key value ih

theorem append (h : Padded r xs ys) {zs : Entries Value} (refl : ∀ value, r value value) :
    Padded r (xs ++ zs) (ys ++ zs) := by
  induction h with
  | nil => exact of_forall₂ (List.forall₂_same.2 fun entry _ ↦ ⟨rfl, refl entry.2⟩)
  | keep key value _ ih => exact .keep key value ih
  | fill key _ ih => exact .fill key ih

end Entries.Padded

namespace Value

/-- The first value is the second one with null entries filled in, at any depth. -/
inductive Filled : Value → Value → Prop where
  /-- Nothing is filled in. -/
  | refl (value : Value) : Filled value value
  /-- Within the items of an array. -/
  | array {xs ys : List Value} (items : List.Forall₂ Filled xs ys) : Filled (.array xs) (.array ys)
  /-- Within an object, and within the values that it had. -/
  | object {xs ys : Entries Value} (entries : Entries.Padded Filled xs ys) :
      Filled (.object xs) (.object ys)

/-- The first default is the second one filled in, or a null that the second one lacks. -/
inductive FilledDefault : Option Value → Option Value → Prop where
  /-- Neither is there. -/
  | none : FilledDefault none none
  /-- Both are there. -/
  | some {x y : Value} (filled : Filled x y) : FilledDefault (some x) (some y)
  /-- Null was dropped. -/
  | dropped : FilledDefault (some .null) none

theorem FilledDefault.getD {x y : Option Value} (h : FilledDefault x y) :
    Filled (x.getD .null) (y.getD .null) := by
  cases h with
  | none => exact .refl _
  | some filled => exact filled
  | dropped => exact .refl _

end Value

/-! ### Outcomes -/

/-- Both results are the same error, or values that are related. -/
inductive SameOutcome {ε α β : Type} (r : α → β → Prop) : Except ε α → Except ε β → Prop where
  /-- Both succeed. -/
  | ok {a : α} {b : β} (related : r a b) : SameOutcome r (.ok a) (.ok b)
  /-- Both fail. -/
  | error (e : ε) : SameOutcome r (.error e) (.error e)

namespace SameOutcome

variable {ε α β γ δ : Type} {r : α → β → Prop} {s : γ → δ → Prop}

theorem refl {r : α → α → Prop} (refl : ∀ a, r a a) (result : Except ε α) :
    SameOutcome r result result := by
  cases result with
  | ok a => exact .ok (refl a)
  | error e => exact .error e

section Results

variable {x : Except ε α} {y : Except ε β}

theorem ok_or_error (h : SameOutcome r x y) :
    (∃ a b, x = .ok a ∧ y = .ok b ∧ r a b) ∨ ∃ e, x = .error e ∧ y = .error e := by
  cases h with
  | ok related => exact .inl ⟨_, _, rfl, rfl, related⟩
  | error e => exact .inr ⟨e, rfl, rfl⟩

theorem bind (h : SameOutcome r x y) {f : α → Except ε γ} {g : β → Except ε δ}
    (next : ∀ a b, r a b → SameOutcome s (f a) (g b)) : SameOutcome s (x >>= f) (y >>= g) := by
  cases h with
  | ok related => exact next _ _ related
  | error e => exact .error e

theorem map (h : SameOutcome r x y) {f : α → γ} {g : β → δ} (step : ∀ a b, r a b → s (f a) (g b)) :
    SameOutcome s (x.map f) (y.map g) := by
  cases h with
  | ok related => exact .ok (step _ _ related)
  | error e => exact .error e

theorem map_left (h : SameOutcome r x y) {f : α → γ} {s : γ → β → Prop}
    (step : ∀ a b, r a b → s (f a) b) : SameOutcome s (x.map f) y := by
  cases h with
  | ok related => exact .ok (step _ _ related)
  | error e => exact .error e

end Results

section Decoding

variable {x : Except DecodeError α} {y : Except DecodeError β}

theorem located (h : SameOutcome r x y) (segment : PathSegment) :
    SameOutcome r (Schemata.located segment x) (Schemata.located segment y) := by
  cases h with
  | ok related => exact .ok related
  | error e => exact .error _

theorem nonNull (h : SameOutcome r x y) (value : Value) :
    SameOutcome r (Schemata.nonNull value x) (Schemata.nonNull value y) := by
  rw [Schemata.nonNull, Schemata.nonNull]
  split
  · exact .error _
  · exact h

theorem unlessBroken (h : SameOutcome r x y) (violation : Option Violation) :
    SameOutcome r (Schemata.unlessBroken violation x) (Schemata.unlessBroken violation y) := by
  cases violation with
  | none => exact h
  | some => exact .error _

theorem deeper {references references' : References} {limit levels : Nat}
    {run : Decoder → Except DecodeError α} {run' : Decoder → Except DecodeError β}
    (same : ∀ l, SameOutcome r (run (decodeAt references limit l))
      (run' (decodeAt references' limit l))) :
    SameOutcome r (Schemata.deeper limit (decoderBelow references limit levels) run)
      (Schemata.deeper limit (decoderBelow references' limit levels) run') := by
  cases levels with
  | zero => exact .error _
  | succ l => exact same l

end Decoding

end SameOutcome

/-! ### Nodes -/

namespace Node

open Value (Filled FilledDefault)

/-- The first node decodes as the second one does, but for nulls that it fills in, whatever the
levels left and the references. -/
def Fills (node node' : Node) : Prop :=
  ∀ (references references' : References) (limit levels : Nat) (value : Value),
    SameOutcome Filled (decodeAt references limit levels node value)
      (decodeAt references' limit levels node' value)

/-- The same of two fields, which may be absent. -/
structure FillsField (node node' : Node) : Prop where
  /-- Where they are present. -/
  present : node.Fills node'
  /-- Where they are absent. -/
  absent : Option.Rel FilledDefault node.absent? node'.absent?

namespace Fills

variable {place place' : Option Place}

/-- A node that refers nowhere decodes as it does, on any table of references. -/
theorem refl {node : Node} (refers : node.All (Node.Refers fun _ ↦ False)) : node.Fills node := by
  intro references references' limit levels value
  rw [@decodeAt_of_refers references references' limit levels node refers value]
  exact .refl .refl _

private theorem sameOutcome_decodeItems {decode decode' : Value → Except DecodeError Value}
    (same : ∀ value, SameOutcome Filled (decode value) (decode' value)) (i : Nat)
    (items : List Value) :
    SameOutcome (List.Forall₂ Filled) (decodeItems decode i items)
      (decodeItems decode' i items) := by
  induction items generalizing i with
  | nil => exact .ok .nil
  | cons item rest ih =>
    refine ((same item).located _).bind fun x y filled ↦ ?_
    exact (ih (i + 1)).bind fun xs ys filledRest ↦ .ok (.cons filled filledRest)

theorem array {item item' : Node} (fills : item.Fills item') (c : ArrayConstraints) :
    (Node.array place item c).Fills (.array place' item' c) := by
  intro references references' limit levels value
  rw [decodeAt_eq, decodeAt_eq, decodeNode, decodeNode]
  refine SameOutcome.nonNull ?_ value
  cases value with
  | array items =>
    refine .unlessBroken (.deeper fun l ↦ ?_) _
    have same := sameOutcome_decodeItems (fills references references' limit l) 0 items
    exact same.map fun _ _ ↦ .array
  | _ => exact .error _

private theorem sameOutcome_decodeElements {decoder decoder' : Decoder} {nodes nodes' : List Node}
    (same : List.Forall₂ (fun n n' ↦ ∀ value, SameOutcome Filled (decoder n value)
      (decoder' n' value)) nodes nodes') (i : Nat) (items : List Value) :
    SameOutcome (List.Forall₂ Filled) (decodeElements decoder i nodes items)
      (decodeElements decoder' i nodes' items) := by
  induction same generalizing i items with
  | nil => cases items <;> exact .ok .nil
  | cons head _ ih =>
    cases items with
    | nil => exact .ok .nil
    | cons item rest =>
      refine ((head item).located _).bind fun x y filled ↦ ?_
      exact (ih (i + 1) rest).bind fun xs ys filledRest ↦ .ok (.cons filled filledRest)

theorem tuple {elements elements' : List Node} (fills : List.Forall₂ Fills elements elements') :
    (Node.tuple place elements).Fills (.tuple place' elements') := by
  intro references references' limit levels value
  rw [decodeAt_eq, decodeAt_eq, decodeNode, decodeNode]
  refine SameOutcome.nonNull ?_ value
  cases value with
  | array items =>
    rw [decodeTuple, decodeTuple, fills.length_eq]
    split
    · refine .deeper fun l ↦ ?_
      have same := fills.imp fun _ _ h ↦ h references references' limit l
      exact (sameOutcome_decodeElements same 0 items).map fun _ _ ↦ .array
    · exact .error _
  | _ => exact .error _

private theorem sameOutcome_decodeFields {decoder decoder' : Decoder}
    {fields fields' : List (String × Node)}
    (same : List.Forall₂ (fun f f' ↦ f.1 = f'.1
      ∧ (∀ value, SameOutcome Filled (decoder f.2 value) (decoder' f'.2 value))
      ∧ Option.Rel FilledDefault f.2.absent? f'.2.absent?) fields fields')
    (input : Entries Value) :
    SameOutcome (Entries.Padded Filled) (decodeFields decoder input fields)
      (decodeFields decoder' input fields') := by
  induction same with
  | nil => exact .ok .nil
  | @cons f f' rest rest' head _ ih =>
    obtain ⟨name, node⟩ := f
    obtain ⟨_, node'⟩ := f'
    obtain ⟨rfl, present, absent⟩ := head
    cases found : Entries.get? name input with
    | some raw =>
      simp only [decodeFields, found]
      refine ((present raw).located _).bind fun x y filled ↦ ?_
      exact ih.bind fun xs ys padded ↦ .ok (.keep name filled padded)
    | none =>
      rw [decodeFields_absent found, decodeFields_absent found]
      dsimp only at absent
      generalize node.absent? = default, node'.absent? = default' at absent ⊢
      cases absent with
      | none => exact .error _
      | some filled =>
        cases filled with
        | none => exact ih
        | some filled => exact ih.map fun xs ys padded ↦ .keep name filled padded
        | dropped => exact ih.map_left fun xs ys padded ↦ .fill name padded

theorem struct {fields fields' : List (String × Node)}
    (fills : List.Forall₂ (fun f f' ↦ f.1 = f'.1 ∧ f.2.FillsField f'.2) fields fields')
    (extraKeys : ExtraKeys) :
    (Node.struct place fields extraKeys).Fills (.struct place' fields' extraKeys) := by
  intro references references' limit levels value
  rw [decodeAt_eq, decodeAt_eq, decodeNode, decodeNode]
  refine SameOutcome.nonNull ?_ value
  cases value with
  | object input =>
    have keys := (Entries.keys_eq_of_forall₂ fills).symm
    simp only [decodeStruct, undeclared_congr keys input]
    split
    · exact .error _
    · refine .deeper fun l ↦ ?_
      have same := sameOutcome_decodeFields (fills.imp fun _ _ h ↦
        ⟨h.1, h.2.present references references' limit l, h.2.absent⟩) input
      exact same.bind fun xs ys padded ↦ .ok (.object (padded.append .refl))
  | _ => exact .error _

private theorem sameOutcome_decodeEntries {decoder decoder' : Decoder} {key item item' : Node}
    (sameKey : ∀ name, decoder' key (.string name) = decoder key (.string name))
    (same : ∀ value, SameOutcome Filled (decoder item value) (decoder' item' value))
    (input : List (String × Value)) :
    SameOutcome (List.Forall₂ fun x y ↦ x.1 = y.1 ∧ Filled x.2 y.2)
      (decodeEntries decoder key item input)
      (decodeEntries decoder' key item' input) := by
  induction input with
  | nil => exact .ok .nil
  | cons entry rest ih =>
    obtain ⟨name, value⟩ := entry
    rw [decodeEntries, decodeEntries, sameKey name]
    refine (SameOutcome.refl (@rfl _) _).bind fun k k' eq ↦ ?_
    refine ((same value).located _).bind fun x y filled ↦ ?_
    exact ih.bind fun xs ys filledRest ↦ .ok (.cons ⟨congrArg Value.toKey eq, filled⟩ filledRest)

/-- The keys of a record must decode alike, since they may be merged. -/
theorem record {key item item' : Node} (refers : key.All (Node.Refers fun _ ↦ False))
    (fills : item.Fills item') :
    (Node.record place key item).Fills (.record place' key item') := by
  intro references references' limit levels value
  rw [decodeAt_eq, decodeAt_eq, decodeNode, decodeNode]
  refine SameOutcome.nonNull ?_ value
  cases value with
  | object input =>
    refine .deeper fun l ↦ ?_
    have sameKey (name : String) : decodeAt references' limit l key (.string name) =
        decodeAt references limit l key (.string name) :=
      decodeAt_of_refers refers (.string name)
    have same := sameOutcome_decodeEntries sameKey (fills references references' limit l) input
    exact same.map fun xs ys h ↦ .object (.of_forall₂ (Entries.forall₂_ofList h))
  | _ => exact .error _

private theorem sameOutcome_decodeMembers {references references' : References} {limit levels : Nat}
    {members members' : List Node} (fills : List.Forall₂ Fills members members') (value : Value) :
    SameOutcome Filled
      (decodeMembers references limit (decoderBelow references limit levels) members value)
      (decodeMembers references' limit (decoderBelow references' limit levels) members'
        value) := by
  induction fills with
  | nil => exact .error _
  | @cons member member' _ _ head _ ih =>
    have here := head references references' limit levels value
    rw [decodeAt_eq, decodeAt_eq] at here
    rw [decodeMembers, decodeMembers]
    rcases here.ok_or_error with ⟨x, y, okX, okY, filled⟩ | ⟨failure, failed, failed'⟩
    · rw [okX, okY]
      exact .ok filled
    · rw [failed, failed']
      rcases ih.ok_or_error with ⟨x, y, okX, okY, filled⟩ | ⟨failures, failed, failed'⟩
      · rw [okX, okY]
        exact .ok filled
      · rw [failed, failed']
        exact .error _

theorem union {members members' : List Node} (fills : List.Forall₂ Fills members members') :
    (Node.union place members).Fills (.union place' members') := by
  intro references references' limit levels value
  have same := @sameOutcome_decodeMembers references references' limit levels _ _ fills value
  rw [decodeAt_eq, decodeAt_eq, decodeNode, decodeNode]
  rcases same.ok_or_error with ⟨x, y, okX, okY, filled⟩ | ⟨failures, failed, failed'⟩
  · rw [okX, okY]
    exact .ok filled
  · rw [failed, failed']
    exact .error _

theorem discriminatedUnion {variants variants' : List (String × Node)}
    (fills : List.Forall₂ (fun v v' ↦ v.1 = v'.1 ∧ v.2.Fills v'.2) variants variants')
    (discriminator : String) :
    (Node.discriminatedUnion place discriminator variants).Fills
      (.discriminatedUnion place' discriminator variants') := by
  intro references references' limit levels value
  simp only [decodeAt_eq, decodeNode]
  refine SameOutcome.nonNull ?_ value
  cases value with
  | object input =>
    dsimp only
    cases Entries.get? discriminator input with
    | none => exact .error _
    | some tag =>
      have related := Entries.Related.of_forall₂ fills tag.toKey
      simp only [decodeVariant_eq, Entries.keys_eq_of_forall₂ fills]
      generalize Entries.get? tag.toKey variants = found, Entries.get? tag.toKey variants' = found'
        at related ⊢
      cases related with
      | none => exact .error _
      | some fills =>
        have same := fills references references' limit levels (.object input)
        rwa [decodeAt_eq, decodeAt_eq] at same
  | _ => exact .error _

theorem optional {inner inner' : Node} {default default' : Option Value}
    (fills : inner.Fills inner') (filled : FilledDefault default default') :
    (Node.optional place inner default).Fills (.optional place' inner' default') := by
  intro references references' limit levels value
  rw [decodeAt_eq, decodeAt_eq, decodeNode, decodeNode]
  split
  · exact .ok filled.getD
  · have same := fills references references' limit levels value
    rwa [decodeAt_eq, decodeAt_eq] at same

end Fills

namespace FillsField

theorem of_fills {node node' : Node} (fills : node.Fills node') (required : node.absent? = none)
    (required' : node'.absent? = none) : node.FillsField node' :=
  ⟨fills, by rw [required, required']; exact .none⟩

theorem optional {place place' : Option Place} {inner inner' : Node}
    {default default' : Option Value} (fills : inner.Fills inner')
    (filled : FilledDefault default default') :
    (Node.optional place inner default).FillsField (.optional place' inner' default') :=
  ⟨fills.optional filled, .some filled⟩

theorem leaf {node : Node} (noChild : node.children = []) (notLazy : node.kind ≠ .lazy) :
    node.FillsField node := by
  have refers : node.Refers fun _ ↦ False := by
    cases node <;> trivial
  have required : node.absent? = none := by
    cases node <;> trivial
  exact .of_fills (.refl (.intro refers (by simp [noChild]))) required required

theorem isOptional_eq {node node' : Node} (fills : node.FillsField node') :
    node.isOptional = node'.isOptional := by
  have absent := fills.absent
  cases node <;> cases node' <;> first | rfl | cases absent

end FillsField

end Node

end Schemata
