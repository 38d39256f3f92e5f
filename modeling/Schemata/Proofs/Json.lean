import Schemata.Json.Document
import Schemata.Proofs.Value

/-!
# Documents

Induction on a document, the documents of values, and what looking a member of an object up gives.
-/

namespace Schemata

namespace Json

open Entries (Distinct)

/-- The documents directly inside a document, in order. -/
def children : Json → List Json
  | .array items => items
  | .object members => Entries.values members
  | _ => []

/-- Induction on a document: what holds of all children is given for them. -/
@[elab_as_elim]
theorem induction {motive : Json → Prop}
    (step : ∀ doc : Json, (∀ child ∈ doc.children, motive child) → motive doc) (doc : Json) :
    motive doc :=
  @Json.rec motive (fun docs ↦ ∀ doc ∈ docs, motive doc)
    (fun members ↦ ∀ doc ∈ Entries.values members, motive doc) (fun m ↦ motive m.2)
    (step _ (by simp [children])) (fun _ ↦ step _ (by simp [children]))
    (fun _ ↦ step _ (by simp [children])) (fun _ ↦ step _ (by simp [children]))
    (fun _ items ↦ step _ items) (fun _ members ↦ step _ members)
    (by simp) (fun _ _ head tail ↦ List.forall_mem_cons.2 ⟨head, tail⟩)
    (by simp [Entries.values]) (fun _ _ head tail ↦ List.forall_mem_cons.2 ⟨head, tail⟩)
    (fun _ _ doc ↦ doc) doc

theorem mem_children_of_get? {key : String} {members : Entries Json} {doc : Json}
    (found : Entries.get? key members = some doc) : doc ∈ (object members).children :=
  List.mem_map_of_mem (Entries.mem_of_get?_eq_some found)

theorem wellFormed_array_iff {items : List Json} :
    (array items).WellFormed ↔ ∀ item ∈ items, item.WellFormed := by
  rw [WellFormed]
  induction items with
  | nil => simp [WellFormedItems]
  | cons item rest ih => simp [WellFormedItems, ih]

theorem wellFormed_object_iff {members : Entries Json} :
    (object members).WellFormed ↔
      Distinct members ∧ ∀ doc ∈ Entries.values members, doc.WellFormed := by
  have values : WellFormedMembers members ↔ ∀ doc ∈ Entries.values members, doc.WellFormed := by
    induction members with
    | nil => simp [WellFormedMembers, Entries.values]
    | cons m rest ih =>
      rw [WellFormedMembers, ih]
      exact List.forall_mem_cons.symm
  rw [WellFormed, values]

theorem WellFormed.child {doc child : Json} (formed : doc.WellFormed)
    (member : child ∈ doc.children) : child.WellFormed := by
  cases doc with
  | array => exact wellFormed_array_iff.1 formed child member
  | object => exact (wellFormed_object_iff.1 formed).2 child member
  | _ => simp [children] at member

/-! ### Documents and values -/

theorem normalizeItems_eq (items : List Json) : normalizeItems items = items.map normalize := by
  induction items with
  | nil => rfl
  | cons item rest ih => simp [normalizeItems, ih]

theorem normalizeMembers_eq (members : List (String × Json)) :
    normalizeMembers members = members.map fun m ↦ (m.1, m.2.normalize) := by
  induction members with
  | nil => rfl
  | cons m rest ih => simp [normalizeMembers, ih]

end Json

namespace Value

theorem toJsonItems_eq (items : List Value) : toJsonItems items = items.map toJson := by
  induction items with
  | nil => rfl
  | cons item rest ih => simp [toJsonItems, ih]

theorem toJsonEntries_eq (entries : List (String × Value)) :
    toJsonEntries entries = entries.map fun entry ↦ (entry.1, entry.2.toJson) := by
  induction entries with
  | nil => rfl
  | cons entry rest ih => simp [toJsonEntries, ih]

theorem ofJsonItems_eq (docs : List Json) : ofJsonItems docs = docs.map ofJson := by
  induction docs with
  | nil => rfl
  | cons doc rest ih => simp [ofJsonItems, ih]

theorem ofJsonMembers_eq (members : List (String × Json)) :
    ofJsonMembers members = members.map fun m ↦ (m.1, ofJson m.2) := by
  induction members with
  | nil => rfl
  | cons m rest ih => simp [ofJsonMembers, ih]

/-- A document without repeated members gives a value without repeated keys. -/
theorem wellFormed_ofJson {doc : Json} (formed : doc.WellFormed) : (ofJson doc).WellFormed := by
  induction doc using Json.induction with
  | step doc ih =>
    have below (child : Json) (member : child ∈ doc.children) : (ofJson child).WellFormed :=
      ih child member (formed.child member)
    cases doc with
    | array items =>
      rw [ofJson, wellFormed_array_iff, ofJsonItems_eq]
      exact List.forall_mem_map.2 below
    | object members =>
      rw [ofJson, wellFormed_object_iff, ofJsonMembers_eq, Entries.Distinct, Entries.keys_map]
      refine ⟨(Json.wellFormed_object_iff.1 formed).1, List.forall_mem_map.2 fun m member ↦ ?_⟩
      exact below m.2 (List.mem_map_of_mem member)
    | _ => trivial

/-- No document holds a symbol. -/
theorem symbolFree_ofJson (doc : Json) : (ofJson doc).SymbolFree := by
  induction doc using Json.induction with
  | step doc below =>
    cases doc with
    | array items =>
      rw [ofJson, symbolFree_array_iff, ofJsonItems_eq]
      exact List.forall_mem_map.2 below
    | object members =>
      rw [ofJson, symbolFree_object_iff, ofJsonMembers_eq]
      exact List.forall_mem_map.2 fun m member ↦ below m.2 (List.mem_map_of_mem member)
    | _ => trivial

/-- The document of a value without repeated keys repeats no member. -/
theorem normalize_toJson {value : Value} (formed : value.WellFormed) :
    value.toJson.normalize = value.toJson := by
  induction value using Value.induction with
  | null | bool | number | string | symbol => rfl
  | array items ih =>
    rw [toJson, Json.normalize, Json.normalizeItems_eq, toJsonItems_eq, List.map_map]
    refine congrArg Json.array (List.map_congr_left fun item member ↦ ?_)
    exact ih item member (wellFormed_array_iff.1 formed item member)
  | object entries ih =>
    obtain ⟨distinct, values⟩ := wellFormed_object_iff.1 formed
    rw [toJson, Json.normalize, Json.normalizeMembers_eq, toJsonEntries_eq, List.map_map]
    have same : entries.map ((fun m : String × Json ↦ (m.1, m.2.normalize)) ∘
        fun entry ↦ (entry.1, entry.2.toJson)) =
          entries.map fun entry ↦ (entry.1, entry.2.toJson) :=
      List.map_congr_left fun entry member ↦
        congrArg (Prod.mk entry.1) (ih entry member (values entry member))
    rw [same, Entries.ofList_of_distinct]
    rwa [Entries.Distinct, Entries.keys_map]

end Value

/-! ### Members -/

namespace Json

variable {key : String} {ms ms' : Entries Json}

/-- The order of members does not matter. -/
theorem member?_perm (key : String) (perm : ms.Perm ms') : member? key ms = member? key ms' := by
  have found := perm.filter fun m ↦ m.1 == key
  rw [member?, member?]
  generalize ms.filter (fun m ↦ m.1 == key) = xs at found
  generalize ms'.filter (fun m ↦ m.1 == key) = ys at found
  match xs, ys, found with
  | [], ys, found => rw [List.nil_perm.1 found]
  | [x], ys, found => rw [List.singleton_perm.1 found]
  | _ :: _ :: _, [], found => exact absurd found.length_eq (by simp)
  | _ :: _ :: _, [_], found => exact absurd found.length_eq (by simp)
  | _ :: _ :: _, _ :: _ :: _, _ => rfl

/-- A member under another key does not matter. -/
theorem member?_cons_of_ne {name : String} (ne : name ≠ key) (doc : Json) (ms : Entries Json) :
    member? key ((name, doc) :: ms) = member? key ms := by
  simp [member?, ne]

/-- A member that stands once is found. -/
theorem member?_append_cons (key : String) (before after : Entries Json) (doc : Json) :
    member? key (before ++ (key, doc) :: after) =
      if key ∈ Entries.keys before ∨ key ∈ Entries.keys after then .error (.repeated key)
      else .ok (some doc) := by
  have absent {ms : Entries Json} :
      ms.filter (fun m ↦ m.1 == key) = [] ↔ key ∉ Entries.keys ms := by
    simp only [List.filter_eq_nil_iff, beq_iff_eq, Entries.keys, List.mem_map, not_exists, not_and]
  rw [member?, List.filter_append, List.filter_cons_of_pos (by simp)]
  by_cases inBefore : key ∈ Entries.keys before
  · rw [if_pos (.inl inBefore)]
    obtain ⟨x, xs, eq⟩ := List.exists_cons_of_ne_nil (mt absent.1 (not_not_intro inBefore))
    rw [eq]
    cases xs <;> rfl
  · rw [absent.2 inBefore]
    by_cases inAfter : key ∈ Entries.keys after
    · rw [if_pos (.inr inAfter)]
      obtain ⟨x, xs, eq⟩ := List.exists_cons_of_ne_nil (mt absent.1 (not_not_intro inAfter))
      rw [eq]
      rfl
    · rw [absent.2 inAfter, if_neg (not_or.2 ⟨inBefore, inAfter⟩)]
      rfl

theorem member?_cons_self (key : String) (doc : Json) (rest : Entries Json) :
    member? key ((key, doc) :: rest) =
      if key ∈ Entries.keys rest then .error (.repeated key) else .ok (some doc) := by
  simpa using member?_append_cons key [] rest doc

/-- What stands under one key does not matter under another. -/
theorem member?_replace {name : String} (ne : name ≠ key) (before after : Entries Json)
    (doc doc' : Json) :
    member? key (before ++ (name, doc) :: after) =
      member? key (before ++ (name, doc') :: after) := by
  simp [member?, ne]

section Readers

variable {α : Type} {reader : Json → Option α} {a default : α} {doc : Json}

theorem requiredMember_of_found (found : member? key ms = .ok (some doc))
    (reads : reader doc = some a) : requiredMember key reader ms = .ok a := by
  simp only [requiredMember, found, bind, Except.bind, reads]
  rfl

theorem memberOr_of_found (found : member? key ms = .ok (some doc)) (reads : reader doc = some a) :
    memberOr key reader default ms = .ok a := by
  simp only [memberOr, found, bind, Except.bind, reads]
  rfl

theorem memberOr_of_absent (absent : member? key ms = .ok none) :
    memberOr key reader default ms = .ok default := by
  rw [memberOr, absent]
  rfl

end Readers

end Json

end Schemata
