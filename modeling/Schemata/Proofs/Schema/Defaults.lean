import Schemata.Proofs.Schema.Declaring
import Schemata.Proofs.Schema.Tracing

/-!
# Defaults of declared schemas

A default is decoded when its node is made, on a table that is not finished. In the finished schema
it is still what the inner type decodes some value to (`Blueprint.toSchema_defaultDecoded`): what
the decode looked up then either was finished and stays as it was, or was too early and stands for
null for good.
-/

namespace Schemata

/-- A default is what the inner type decodes some value to. -/
def Node.DefaultDecoded (references : References) : Node → Prop
  | .optional _ inner (some default) =>
    ∃ raw, decodeAt references defaultMaxDepth defaultMaxDepth inner raw = .ok default
  | _ => True

theorem Node.DefaultDecoded.of_noDefault {references : References} {node : Node}
    (noDefault : node.NoDefault) : node.DefaultDecoded references := by
  cases node with
  | optional _ _ default =>
    cases default with
    | none => trivial
    | some => exact noDefault.elim
  | _ => trivial

/-! ### How a declaration goes on -/

namespace Progress

/-- A reference that was made. -/
def Made (progress : Progress) (r : Place) : Prop :=
  ∃ name, progress.references.lookup r = some name

/-- A later point of a declaration: what is finished stays, what is referred to stays, and no
reference is missed that could have been looked up. -/
structure Later (earlier later : Progress) : Prop where
  /-- Finished definitions stay. -/
  finished : ∀ name node, Entries.get? name earlier.finished = some node →
    Entries.get? name later.finished = some node
  /-- References stay to the same definition. -/
  references : ∀ r name, earlier.references.lookup r = some name →
    later.references.lookup r = some name
  /-- Missed references stay missed. -/
  kept : ∀ r ∈ earlier.missed, r ∈ later.missed
  /-- Only early and later references are missed in between. -/
  missed : ∀ r ∈ later.missed, earlier.Made r → r ∈ earlier.missed ∨ earlier.isEarly r = true

variable {progress progress' progress'' : Progress} {r : Place}

theorem isEarly_eq_true_iff :
    progress.isEarly r = true ↔ ∃ name, progress.references.lookup r = some name
      ∧ Entries.get? name progress.finished = none := by
  rw [isEarly]
  cases progress.references.lookup r with
  | none => simp
  | some name => simp [Entries.contains]

namespace Later

theorem refl (progress : Progress) : progress.Later progress :=
  ⟨fun _ _ ↦ id, fun _ _ ↦ id, fun _ ↦ id, fun _ missed _ ↦ .inl missed⟩

theorem made (later : progress.Later progress') (made : progress.Made r) : progress'.Made r := by
  obtain ⟨name, found⟩ := made
  exact ⟨name, later.references r name found⟩

theorem trans (first : progress.Later progress') (second : progress'.Later progress'') :
    progress.Later progress'' where
  finished name node found := second.finished name node (first.finished name node found)
  references r name found := second.references r name (first.references r name found)
  kept r missed := second.kept r (first.kept r missed)
  missed r missed made := by
    rcases second.missed r missed (first.made made) with missed | early
    · exact first.missed r missed made
    · right
      obtain ⟨name, found⟩ := made
      obtain ⟨name', found', absent⟩ := isEarly_eq_true_iff.1 early
      rw [first.references r name found, Option.some.injEq] at found'
      subst found'
      refine isEarly_eq_true_iff.2 ⟨name, found, ?_⟩
      rw [Option.eq_none_iff_forall_ne_some]
      intro node there
      simp [first.finished name node there] at absent

end Later

private theorem lookup_map (f : Place × String → Node) (references : List (Place × String))
    (r : Place) :
    (references.map fun entry ↦ (entry.1, f entry)).lookup r =
      (references.lookup r).map fun name ↦ f (r, name) := by
  induction references with
  | nil => rfl
  | cons entry rest ih =>
    obtain ⟨place, name⟩ := entry
    by_cases same : r = place
    · simp [same]
    · simpa [List.lookup_cons, beq_false_of_ne same] using ih

theorem resolve_table {name : String} (found : progress.references.lookup r = some name) :
    progress.table.resolve r =
      if progress.missed.contains r then .null else progress.node name := by
  rw [References.resolve, table, lookup_map, found]
  rfl

/-- What a reference stands for changes only where it was early and nothing looked it up. -/
theorem Later.resolve_table (later : progress.Later progress') (made : progress.Made r)
    (early : progress.isEarly r = true → r ∈ progress'.missed) :
    progress'.table.resolve r = progress.table.resolve r := by
  obtain ⟨name, found⟩ := made
  rw [Progress.resolve_table found, Progress.resolve_table (later.references r name found)]
  simp only [List.contains_iff_mem]
  by_cases missed : r ∈ progress.missed
  · rw [if_pos missed, if_pos (later.kept r missed)]
  · rw [if_neg missed]
    cases there : Entries.get? name progress.finished with
    | none =>
      rw [if_pos (early (isEarly_eq_true_iff.2 ⟨name, found, there⟩)), node, there]
      rfl
    | some node =>
      have notMissed : r ∉ progress'.missed := by
        intro missed'
        rcases later.missed r missed' ⟨name, found⟩ with missed' | early
        · exact missed missed'
        · obtain ⟨name', found', absent⟩ := isEarly_eq_true_iff.1 early
          rw [found, Option.some.injEq] at found'
          subst found'
          simp [there] at absent
      rw [if_neg notMissed, Progress.node, Progress.node, there, later.finished name node there]

/-- After a default was decoded, early references that it looked up are missed. -/
theorem later_afterDecoding (progress : Progress) (type : Node) (default : Value) :
    progress.Later (progress.afterDecoding type default) where
  finished _ _ := id
  references _ _ := id
  kept _ missed := List.mem_append_left _ missed
  missed r missed _ := by
    rcases List.mem_append.1 missed with missed | visited
    · exact .inl missed
    · exact .inr (List.mem_filter.1 visited).2

end Progress

/-! ### What was made so far -/

/-- A node that refers to what was made, with a default that is decoded whatever follows. -/
structure Node.Lasts (progress : Progress) (node : Node) : Prop where
  /-- References are to what was made. -/
  refers : node.Refers progress.Made
  /-- The default is decoded at every later point. -/
  decoded : ∀ later, progress.Later later → node.DefaultDecoded later.table

/-- All finished nodes last. -/
def Progress.Lasts (progress : Progress) : Prop :=
  ∀ entry ∈ progress.finished, entry.2.All (Node.Lasts progress)

/-- New nodes last, in a region where no reference was made before. -/
structure Lasting (region : Place → Prop) (progress progress' : Progress) (nodes : List Node) :
    Prop where
  /-- The declaration goes on. -/
  later : (∀ r, progress.Made r → ¬region r) → progress.Later progress'
  /-- New references are made in the region. -/
  within : ∀ r, progress'.Made r → progress.Made r ∨ region r
  /-- No definition was finished. -/
  finished : progress'.finished = progress.finished
  /-- The new nodes last as the finished ones do. -/
  lasts : (∀ r, progress.Made r → ¬region r) → progress.Lasts →
    ∀ node ∈ nodes, node.All (Node.Lasts progress')

section Steps

variable {progress progress' progress'' : Progress} {place : Place}

theorem Node.Lasts.mono {node : Node} (lasts : node.All (Node.Lasts progress))
    (later : progress.Later progress') : node.All (Node.Lasts progress') := by
  refine lasts.imp fun node here ↦ ⟨?_, fun _ next ↦ here.decoded _ (later.trans next)⟩
  have refers := here.refers
  cases node with
  | lazy => exact later.made refers
  | _ => trivial

theorem Progress.Lasts.mono (lasts : progress.Lasts) (later : progress.Later progress')
    (finished : progress'.finished = progress.finished) : progress'.Lasts :=
  fun entry member ↦ Node.Lasts.mono (lasts entry (finished ▸ member)) later

theorem Node.lasts_null (progress : Progress) : Node.null.All (Node.Lasts progress) :=
  .intro ⟨trivial, fun _ _ ↦ trivial⟩ fun _ none ↦ by cases none

theorem Progress.Lasts.node (lasts : progress.Lasts) (name : String) :
    (progress.node name).All (Node.Lasts progress) := by
  rw [Progress.node]
  cases found : Entries.get? name progress.finished with
  | none => exact Node.lasts_null progress
  | some node => exact lasts _ (Entries.mem_of_get?_eq_some found)

theorem Progress.Lasts.resolve (lasts : progress.Lasts) (r : Place) :
    (progress.table.resolve r).All (Node.Lasts progress) := by
  refine References.resolve_induction (fun entry member ↦ ?_) (Node.lasts_null progress) r
  obtain ⟨reference, -, rfl⟩ := List.mem_map.1 member
  dsimp only
  split
  · exact Node.lasts_null progress
  · exact lasts.node reference.2

/-- A default that was decoded stays decoded. -/
theorem Progress.Lasts.decodeAt_table (lasts : progress.Lasts) {type : Node}
    (lastsType : type.All (Node.Lasts progress)) (default : Value)
    (later : (progress.afterDecoding type default).Later progress') :
    decodeAt progress'.table defaultMaxDepth defaultMaxDepth type default =
      decodeAt progress.table defaultMaxDepth defaultMaxDepth type default := by
  refine decodeAt_of_traceAt fun r traced ↦ ?_
  have made : progress.Made r :=
    mem_traceAt (fun r _ ↦ (lasts.resolve r).imp fun _ ↦ Node.Lasts.refers)
      (lastsType.imp fun _ ↦ Node.Lasts.refers) traced
  refine ((progress.later_afterDecoding type default).trans later).resolve_table made fun early ↦ ?_
  exact later.kept r (List.mem_append_right _ (List.mem_filter.2 ⟨traced, early⟩))

/-- A node around children that last. -/
private theorem Lasting.node {node : Node} {nodes : List Node} (notLazy : node.kind ≠ .lazy)
    (noDefault : node.NoDefault) (sub : ∀ child ∈ node.children, child ∈ nodes)
    (children : Lasting (place.From 0) progress progress' nodes) :
    Lasting (place <:+ ·) progress progress' [node] where
  later free := children.later fun r made inside ↦ free r made inside.below
  within r made := (children.within r made).imp_right Place.From.below
  finished := children.finished
  lasts free known := by
    refine List.forall_mem_singleton.2 (.intro ⟨?_, fun _ _ ↦ .of_noDefault noDefault⟩ ?_)
    · cases node with
      | lazy => exact absurd rfl notLazy
      | _ => trivial
    · exact fun child member ↦ children.lasts
        (fun r made inside ↦ free r made inside.below) known child (sub child member)

private theorem Lasting.lazy (name target : String) :
    Lasting (place <:+ ·) progress
      { progress with references := (place, target) :: progress.references }
      [.lazy name place] where
  later free := by
    refine ⟨fun _ _ ↦ id, fun r name found ↦ ?_, fun _ ↦ id, fun _ missed _ ↦ .inl missed⟩
    have other : r ≠ place := by
      rintro rfl
      exact free r ⟨name, found⟩ (List.suffix_refl r)
    rwa [List.lookup_cons, beq_false_of_ne other]
  within r made := by
    obtain ⟨name, found⟩ := made
    rw [List.lookup_cons] at found
    split at found
    · next same => exact .inr (beq_iff_eq.1 same ▸ List.suffix_refl r)
    · exact .inl ⟨name, found⟩
  finished := rfl
  lasts _ _ := by
    refine List.forall_mem_singleton.2 (.intro ⟨⟨target, ?_⟩, fun _ _ ↦ trivial⟩ ?_)
    · rw [List.lookup_cons, beq_self_eq_true]
    · exact fun _ none ↦ by cases none

private theorem Lasting.cons {i : Nat} {node : Node} {nodes : List Node}
    (head : Lasting ((i :: place) <:+ ·) progress progress' [node])
    (tail : Lasting (place.From (i + 1)) progress' progress'' nodes) :
    Lasting (place.From i) progress progress'' (node :: nodes) := by
  have freeHead (free : ∀ r, progress.Made r → ¬place.From i r) (r : Place)
      (made : progress.Made r) : ¬(i :: place) <:+ r :=
    fun below ↦ free r made (.head below)
  have freeTail (free : ∀ r, progress.Made r → ¬place.From i r) (r : Place)
      (made : progress'.Made r) : ¬place.From (i + 1) r := by
    rcases head.within r made with old | new
    · exact fun inside ↦ free r old inside.tail
    · exact Place.From.apart new
  exact
    { later := fun free ↦ (head.later (freeHead free)).trans (tail.later (freeTail free))
      within := fun r made ↦ by
        rcases tail.within r made with before | inside
        · exact (head.within r before).imp_right .head
        · exact .inr inside.tail
      finished := tail.finished.trans head.finished
      lasts := fun free known ↦ by
        have known' := known.mono (head.later (freeHead free)) head.finished
        refine List.forall_mem_cons.2 ⟨?_, tail.lasts (freeTail free) known'⟩
        have here := head.lasts (freeHead free) known node List.mem_cons_self
        exact Node.Lasts.mono here (tail.later (freeTail free)) }

private theorem Lasting.default {type : Node} {default decoded : Value}
    (ok : decodeAt progress'.table defaultMaxDepth defaultMaxDepth type default = .ok decoded)
    (child : Lasting (place.From 0) progress progress' [type]) :
    Lasting (place <:+ ·) progress (progress'.afterDecoding type default)
      [.optional (some place) type (some decoded)] where
  later free :=
    (child.later fun r made inside ↦ free r made inside.below).trans
      (progress'.later_afterDecoding type default)
  within r made := (child.within r made).imp_right Place.From.below
  finished := child.finished
  lasts free known := by
    have free' (r : Place) (made : progress.Made r) : ¬place.From 0 r :=
      fun inside ↦ free r made inside.below
    have lastsType := child.lasts free' known type List.mem_cons_self
    have known' := known.mono (child.later free') child.finished
    refine List.forall_mem_singleton.2 (.intro ⟨trivial, fun later after ↦ ⟨default, ?_⟩⟩ ?_)
    · rw [known'.decodeAt_table lastsType default after, ok]
    · exact List.forall_mem_singleton.2
        (Node.Lasts.mono lastsType (progress'.later_afterDecoding type default))

private theorem kept_lasting : Declaring.Kept Lasting where
  leaf {_ progress node} leaf notLazy _ _ :=
    { later := fun _ ↦ .refl progress
      within := fun _ ↦ .inl
      finished := rfl
      lasts := fun _ _ ↦ by
        refine List.forall_mem_singleton.2 (.intro ?_ (by simp [leaf]))
        cases node with
        | lazy => exact absurd rfl notLazy
        | optional => cases leaf
        | _ => exact ⟨trivial, fun _ _ ↦ trivial⟩ }
  lazy := .lazy
  definition {_ progress} name :=
    { later := fun _ ↦ .refl progress
      within := fun _ ↦ .inl
      finished := rfl
      lasts := fun _ known ↦ List.forall_mem_singleton.2 (known.node name) }
  nil {_ _ progress} :=
    { later := fun _ ↦ .refl progress
      within := fun _ ↦ .inl
      finished := rfl
      lasts := fun _ _ _ none ↦ absurd none List.not_mem_nil }
  cons := .cons
  node _ noDefault notLazy _ sub children := .node notLazy noDefault sub children
  default := .default

end Steps

namespace Blueprint

/-- References are made at places of the definitions before the `i`th. -/
private def MadeBefore (progress : Progress) (i : Nat) : Prop :=
  ∀ r, progress.Made r → ∃ j < i, [j] <:+ r

private theorem MadeBefore.free {progress : Progress} {i : Nat} (before : MadeBefore progress i)
    (r : Place) (made : progress.Made r) : ¬[i] <:+ r := by
  intro here
  obtain ⟨j, lt, below⟩ := before r made
  have same := Place.index_eq_of_suffix below here
  omega

/-- A definition of a new name is finished. -/
private theorem later_insert {progress : Progress} {name : String} (node : Node)
    (new : Entries.get? name progress.finished = none) :
    progress.Later { progress with finished := Entries.insert name node progress.finished } where
  finished other found there := by
    have ne : other ≠ name := by
      rintro rfl
      simp [new] at there
    rw [Entries.get?_insert_of_ne ne, there]
  references _ _ := id
  kept _ := id
  missed _ missed _ := .inl missed

private theorem lasts_declareDefinitions {definitions : List (String × Blueprint)} {i : Nat}
    {progress progress' : Progress}
    (new : ∀ name ∈ Entries.keys definitions, Entries.get? name progress.finished = none)
    (distinct : Entries.Distinct definitions) (before : MadeBefore progress i)
    (known : progress.Lasts)
    (ok : declareDefinitions i definitions progress = .ok ((), progress')) :
    progress'.Lasts ∧ MadeBefore progress' (i + definitions.length) := by
  induction definitions generalizing i progress with
  | nil =>
    cases ok
    exact ⟨known, before⟩
  | cons definition rest ih =>
    obtain ⟨name, blueprint⟩ := definition
    obtain ⟨node, middle, here, later⟩ := Declaring.bind_eq_ok_iff.1 ok
    obtain ⟨_, _, modified, later⟩ := Declaring.bind_eq_ok_iff.1 later
    cases modified
    obtain ⟨fresh, distinctRest⟩ := List.nodup_cons.1 distinct
    obtain ⟨newName, newRest⟩ := List.forall_mem_cons.1 new
    have lasting := kept_declare kept_lasting blueprint here
    have newName' : Entries.get? name middle.finished = none := by rw [lasting.finished, newName]
    have inserted := later_insert node newName'
    rw [List.length_cons, Nat.add_comm _ 1, ← Nat.add_assoc]
    refine ih (fun other member ↦ ?_) distinctRest (fun r made ↦ ?_) (fun entry member ↦ ?_) later
    · have ne : other ≠ name := by
        rintro rfl
        exact fresh member
      rw [Entries.get?_insert_of_ne ne, lasting.finished, newRest other member]
    · rcases lasting.within r made with old | inside
      · obtain ⟨j, lt, below⟩ := before r old
        exact ⟨j, Nat.lt_succ_of_lt lt, below⟩
      · exact ⟨i, Nat.lt_succ_self i, inside⟩
    · rcases Entries.mem_insert member with rfl | old
      · have lasts := lasting.lasts before.free known node List.mem_cons_self
        exact Node.Lasts.mono lasts inserted
      · have known' := known.mono (lasting.later before.free) lasting.finished
        exact Node.Lasts.mono (known' entry old) inserted

/-- In a schema declared with definitions of different names, every default is decoded. -/
theorem toSchema_defaultDecoded {definitions : List (String × Blueprint)} {root : Blueprint}
    (distinct : Entries.Distinct definitions) {schema : Schema}
    (ok : toSchema definitions root = .ok schema) :
    schema.All (Node.DefaultDecoded schema.references) := by
  obtain ⟨⟨node, progress⟩, declared, last⟩ := Schemata.bind_eq_ok_iff.1 ok
  cases last
  obtain ⟨_, progress', first, rest⟩ := Declaring.bind_eq_ok_iff.1 declared
  obtain ⟨known, before⟩ := lasts_declareDefinitions (i := 0) (fun _ _ ↦ rfl) distinct
    (fun _ made ↦ by cases made.choose_spec) (fun _ none ↦ absurd none List.not_mem_nil) first
  rw [Nat.zero_add] at before
  have lasting := kept_declare kept_lasting root rest
  have decoded (node : Node) (lasts : node.Lasts progress) : node.DefaultDecoded progress.table :=
    lasts.decoded progress (.refl progress)
  have known' := known.mono (lasting.later before.free) lasting.finished
  exact ⟨(lasting.lasts before.free known node List.mem_cons_self).imp decoded,
    fun r ↦ (known'.resolve r).imp decoded⟩

end Blueprint

end Schemata
