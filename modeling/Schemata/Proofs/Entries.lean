import Mathlib.Data.List.Perm.Subperm
import Schemata.Entries
import Schemata.Proofs.Basic

/-!
# Entries by key

Entries as finite maps: what a look-up finds after appending, mapping and collecting, and when two
lists of entries hold the same keys. `Related r` compares two lists key by key and so forgets the
order in which they stand.
-/

namespace Schemata

namespace Entries

universe u v

variable {α : Type u} {β : Type v}

/-- The keys of both lists are the same, and `r` holds between the values of every key. -/
def Related (r : α → β → Prop) (xs : Entries α) (ys : Entries β) : Prop :=
  ∀ key, Option.Rel r (get? key xs) (get? key ys)

theorem mem_keys {key : String} {a : α} {entries : Entries α} (h : (key, a) ∈ entries) :
    key ∈ keys entries :=
  List.mem_map.2 ⟨(key, a), h, rfl⟩

theorem get?_append (key : String) (xs ys : Entries α) :
    get? key (xs ++ ys) = (get? key xs).or (get? key ys) := by
  induction xs with
  | nil => rfl
  | cons e rest ih =>
    obtain ⟨k, a⟩ := e
    by_cases h : k = key
    · simp [get?_cons, h]
    · simp [get?_cons, h, ih]

/-- A look-up where the values change depending on their keys. -/
theorem get?_map_keyed (f : String → α → β) (key : String) (xs : Entries α) :
    get? key (xs.map fun e ↦ (e.1, f e.1 e.2)) = (get? key xs).map (f key) := by
  induction xs with
  | nil => rfl
  | cons e rest ih =>
    obtain ⟨k, a⟩ := e
    by_cases h : k = key
    · simp [get?_cons, h]
    · simp [get?_cons, h, ih]

theorem get?_map (f : α → β) (key : String) (xs : Entries α) :
    get? key (xs.map fun e ↦ (e.1, f e.2)) = (get? key xs).map f :=
  get?_map_keyed (fun _ ↦ f) key xs

theorem keys_map (f : α → β) (xs : Entries α) : keys (xs.map fun e ↦ (e.1, f e.2)) = keys xs := by
  simp [keys, Function.comp_def]

/-- Other values under the same keys. -/
theorem keys_zip {entries : Entries α} {values : List β} (length : values.length = entries.length) :
    keys ((keys entries).zip values) = keys entries := by
  rw [keys, List.map_fst_zip]
  simp [keys, length]

theorem values_zip {entries : Entries α} {others : List β}
    (length : others.length = entries.length) : values ((keys entries).zip others) = others := by
  rw [values, List.map_snd_zip]
  simp [keys, length]

theorem zip_keys_values (entries : Entries α) : (keys entries).zip (values entries) = entries := by
  rw [keys, values, List.zip_map', List.map_id'']
  exact fun _ ↦ rfl

theorem forall₂_zip_keys {r : α → β → Prop} {entries : Entries α} {others : List β}
    (h : List.Forall₂ r (values entries) others) :
    List.Forall₂ (fun e e' ↦ e.1 = e'.1 ∧ r e.2 e'.2) entries ((keys entries).zip others) := by
  induction entries generalizing others with
  | nil => exact .nil
  | cons e rest ih =>
    cases h with
    | cons head tail => exact .cons ⟨rfl, head⟩ (ih tail)

theorem contains_eq_true_iff {key : String} {entries : Entries α} :
    contains key entries = true ↔ key ∈ keys entries := by
  rw [contains, Option.isSome_iff_ne_none, ne_eq, get?_eq_none_iff, not_not]

/-- Keeping the entries of some keys changes no look-up of these keys. -/
theorem get?_filter_keys (p : String → Bool) (key : String) (entries : Entries α) :
    get? key (entries.filter fun e ↦ p e.1) = if p key then get? key entries else none := by
  induction entries with
  | nil => simp
  | cons e rest ih =>
    obtain ⟨k, a⟩ := e
    by_cases h : k = key
    · subst h
      cases hp : p k <;> simp [hp, get?_cons, ih]
    · cases hp : p k <;> simp [hp, get?_cons, h, ih]

theorem Distinct.filter {entries : Entries α} (distinct : Distinct entries)
    (p : String × α → Bool) : Distinct (entries.filter p) :=
  distinct.sublist (List.filter_sublist.map Prod.fst)

theorem Distinct.append {xs ys : Entries α} (hx : Distinct xs) (hy : Distinct ys)
    (disjoint : ∀ key ∈ keys xs, key ∉ keys ys) : Distinct (xs ++ ys) := by
  rw [Distinct, keys_append]
  exact List.nodup_append.2 ⟨hx, hy, fun key h other h' eq ↦ disjoint key h (eq ▸ h')⟩

/-- Inserting entries with fresh keys one by one appends them. -/
theorem foldl_insert_of_distinct {xs acc : Entries α} (distinct : Distinct (acc ++ xs)) :
    xs.foldl (fun acc e ↦ insert e.1 e.2 acc) acc = acc ++ xs := by
  induction xs generalizing acc with
  | nil => simp
  | cons e rest ih =>
    obtain ⟨k, a⟩ := e
    have absent : k ∉ keys acc := by
      intro member
      rw [Distinct, keys_append] at distinct
      exact (List.nodup_append.1 distinct).2.2 k member k (by simp) rfl
    have step : insert k a acc = acc ++ [(k, a)] := insert_of_not_mem absent a
    have later : Distinct (acc ++ [(k, a)] ++ rest) := by simpa using distinct
    rw [List.foldl_cons, step, ih later]
    simp

/-- Entries that are inserted one after another replace what stood under their keys. -/
theorem get?_foldl_insert {xs acc : Entries α} (distinct : Distinct xs) (key : String) :
    get? key (xs.foldl (fun acc e ↦ insert e.1 e.2 acc) acc) = (get? key xs).or (get? key acc) := by
  induction xs generalizing acc with
  | nil => rfl
  | cons e rest ih =>
    obtain ⟨k, a⟩ := e
    obtain ⟨fresh, distinctRest⟩ := List.nodup_cons.1 distinct
    rw [List.foldl_cons, ih distinctRest, get?_cons]
    split
    · next same =>
      subst same
      rw [get?_eq_none_iff.2 fresh, get?_insert_self]
      rfl
    · next ne => rw [get?_insert_of_ne (Ne.symm ne)]

theorem ofList_of_distinct {xs : Entries α} (distinct : Distinct xs) : ofList xs = xs := by
  rw [ofList]
  exact foldl_insert_of_distinct distinct

/-- Inserting adds no other entry. -/
theorem mem_insert {key : String} {a : α} {entries : Entries α} {e : String × α}
    (member : e ∈ insert key a entries) : e = (key, a) ∨ e ∈ entries := by
  induction entries with
  | nil => exact .inl (List.mem_singleton.1 member)
  | cons head rest ih =>
    obtain ⟨k, b⟩ := head
    rw [insert] at member
    split at member
    · next same =>
      rcases List.mem_cons.1 member with rfl | tail
      · exact .inl (by rw [same])
      · exact .inr (List.mem_cons_of_mem _ tail)
    · rcases List.mem_cons.1 member with rfl | tail
      · exact .inr List.mem_cons_self
      · exact (ih tail).imp_right (List.mem_cons_of_mem _)

theorem distinct_ofList (xs : List (String × α)) : Distinct (ofList xs) := by
  rw [ofList]
  refine List.foldlRecOn xs _ List.nodup_nil fun acc distinct e _ ↦ ?_
  exact Distinct.insert distinct e.1 e.2

theorem mem_of_mem_ofList {xs : List (String × α)} {e : String × α} (member : e ∈ ofList xs) :
    e ∈ xs := by
  have sub : ∀ e ∈ ofList xs, e ∈ xs := by
    refine List.foldlRecOn (motive := fun acc ↦ ∀ e ∈ acc, e ∈ xs) xs _
      (fun _ none ↦ absurd none List.not_mem_nil) fun acc sub head member e inserted ↦ ?_
    rcases mem_insert inserted with rfl | old
    · exact member
    · exact sub e old
  exact sub e member

/-- Entries that agree position by position have the same keys. -/
theorem keys_eq_of_forall₂ {r : α → β → Prop} {xs : Entries α} {ys : Entries β}
    (h : List.Forall₂ (fun x y ↦ x.1 = y.1 ∧ r x.2 y.2) xs ys) : keys xs = keys ys := by
  induction h with
  | nil => rfl
  | cons head _ ih => rw [keys_cons, keys_cons, head.1, ih]

theorem forall₂_insert {r : α → β → Prop} {xs : Entries α} {ys : Entries β}
    (h : List.Forall₂ (fun x y ↦ x.1 = y.1 ∧ r x.2 y.2) xs ys) (key : String) {a : α} {b : β}
    (related : r a b) :
    List.Forall₂ (fun x y ↦ x.1 = y.1 ∧ r x.2 y.2) (insert key a xs) (insert key b ys) := by
  induction h with
  | nil => exact .cons ⟨rfl, related⟩ .nil
  | @cons x y _ _ head rest ih =>
    obtain ⟨k, x⟩ := x
    obtain ⟨_, y⟩ := y
    obtain ⟨rfl, here⟩ := head
    rw [insert, insert]
    split
    · exact .cons ⟨rfl, related⟩ rest
    · exact .cons ⟨rfl, here⟩ ih

/-- Entries that agree position by position do so after merging. -/
theorem forall₂_ofList {r : α → β → Prop} {xs : List (String × α)} {ys : List (String × β)}
    (h : List.Forall₂ (fun x y ↦ x.1 = y.1 ∧ r x.2 y.2) xs ys) :
    List.Forall₂ (fun x y ↦ x.1 = y.1 ∧ r x.2 y.2) (ofList xs) (ofList ys) := by
  suffices merged : ∀ {as : Entries α} {bs : Entries β},
      List.Forall₂ (fun x y ↦ x.1 = y.1 ∧ r x.2 y.2) as bs →
        List.Forall₂ (fun x y ↦ x.1 = y.1 ∧ r x.2 y.2)
          (xs.foldl (fun acc e ↦ insert e.1 e.2 acc) as)
          (ys.foldl (fun acc e ↦ insert e.1 e.2 acc) bs) from merged .nil
  induction h with
  | nil => exact id
  | @cons x y _ _ head _ ih =>
    intro as bs before
    rw [List.foldl_cons, List.foldl_cons, head.1]
    exact ih (forall₂_insert before y.1 head.2)

/-- Lists with the same distinct keys are equally long. -/
theorem length_eq_of_keys {xs : Entries α} {ys : Entries β} (hx : Distinct xs) (hy : Distinct ys)
    (same : ∀ key, key ∈ keys xs ↔ key ∈ keys ys) : xs.length = ys.length := by
  have perm : (keys xs).Perm (keys ys) := (List.perm_ext_iff_of_nodup hx hy).2 same
  simpa [keys] using perm.length_eq

/-- Lists of equal length, the keys of one among those of the other, have the same keys. -/
theorem keys_iff_of_length {xs : Entries α} {ys : Entries β} (hx : Distinct xs)
    (length : xs.length = ys.length) (sub : ∀ key ∈ keys xs, key ∈ keys ys) (key : String) :
    key ∈ keys xs ↔ key ∈ keys ys := by
  have perm : (keys xs).Perm (keys ys) :=
    (List.subperm_of_subset hx sub).perm_of_length_le (by simp [keys, length])
  exact perm.mem_iff

namespace Related

variable {r : α → β → Prop} {xs : Entries α} {ys : Entries β}

/-- A key of the first list is found in the second, with a related value. -/
theorem some_left (h : Related r xs ys) {key : String} {x : α} (found : get? key xs = some x) :
    ∃ y, get? key ys = some y ∧ r x y := by
  have rel := h key
  rw [found] at rel
  cases hy : get? key ys with
  | none => rw [hy] at rel; cases rel
  | some y =>
    rw [hy] at rel
    cases rel with
    | some related => exact ⟨y, rfl, related⟩

/-- A key that the first list lacks is not in the second. -/
theorem none_left (h : Related r xs ys) {key : String} (absent : get? key xs = none) :
    get? key ys = none := by
  have rel := h key
  rw [absent] at rel
  cases hy : get? key ys with
  | none => rfl
  | some y => rw [hy] at rel; cases rel

theorem flip (h : Related r xs ys) : Related (fun y x ↦ r x y) ys xs := by
  intro key
  cases hx : get? key xs with
  | none => rw [h.none_left hx]; exact .none
  | some x =>
    obtain ⟨y, hy, related⟩ := h.some_left hx
    rw [hy]
    exact .some related

theorem mem_keys_iff (h : Related r xs ys) (key : String) : key ∈ keys xs ↔ key ∈ keys ys := by
  rw [← contains_eq_true_iff, ← contains_eq_true_iff, contains, contains]
  cases hx : get? key xs with
  | none => simp [h.none_left hx]
  | some x =>
    obtain ⟨y, hy, -⟩ := h.some_left hx
    simp [hy]

theorem imp {s : α → β → Prop} (h : Related r xs ys) (step : ∀ x y, r x y → s x y) :
    Related s xs ys :=
  fun key ↦ optionRel_imp (h key) step

theorem map {γ δ : Type*} {s : γ → δ → Prop} {f : α → γ} {g : β → δ} (h : Related r xs ys)
    (step : ∀ x y, r x y → s (f x) (g y)) :
    Related s (xs.map fun e ↦ (e.1, f e.2)) (ys.map fun e ↦ (e.1, g e.2)) := by
  intro key
  rw [get?_map, get?_map]
  exact optionRel_map (h key) step

/-- Entries that agree position by position are related key by key. -/
theorem of_forall₂ (h : List.Forall₂ (fun x y ↦ x.1 = y.1 ∧ r x.2 y.2) xs ys) :
    Related r xs ys := by
  intro key
  induction h with
  | nil => exact .none
  | @cons x y _ _ head _ ih =>
    obtain ⟨k, a⟩ := x
    obtain ⟨l, b⟩ := y
    obtain ⟨rfl, related⟩ := head
    by_cases hk : k = key
    · simpa [get?_cons, hk] using Option.Rel.some related
    · simpa [get?_cons, hk] using ih

end Related

end Entries

end Schemata
