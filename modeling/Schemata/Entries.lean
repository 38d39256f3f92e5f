/-!
# Entries

String-keyed entries in insertion order: the shape of JSON objects, of a struct's fields and of a
discriminated union's variants. Inserting under a present key keeps the entry's place and replaces
its value, so `get?_insert_self` and `keys_insert_of_mem` hold together.
-/

namespace Schemata

universe u v

/-- String-keyed entries in insertion order. -/
abbrev Entries (α : Type u) := List (String × α)

namespace Entries

variable {α : Type u} {β : Type v}

/-- The keys, in order. -/
def keys (entries : Entries α) : List String := entries.map Prod.fst

/-- The values, in order. -/
def values (entries : Entries α) : List α := entries.map Prod.snd

/-- The value of the first entry under `key`. -/
def get? (key : String) : Entries α → Option α
  | [] => none
  | (k, a) :: rest => if k = key then some a else get? key rest

/-- Whether some entry stands under `key`. -/
def contains (key : String) (entries : Entries α) : Bool := (get? key entries).isSome

/-- Replace the value under `key` where it stands, or append a new entry. -/
def insert (key : String) (a : α) : Entries α → Entries α
  | [] => [(key, a)]
  | (k, b) :: rest => if k = key then (k, a) :: rest else (k, b) :: insert key a rest

/-- Insert one entry after another: the first place and the last value of each key remain. -/
def ofList (entries : List (String × α)) : Entries α :=
  entries.foldl (fun acc e ↦ insert e.1 e.2 acc) []

/-- No key occurs twice. -/
def Distinct (entries : Entries α) : Prop := (keys entries).Nodup

/-- Distinctness of the keys is decided by comparing them. -/
instance (entries : Entries α) : Decidable (Distinct entries) :=
  inferInstanceAs (Decidable (keys entries).Nodup)

@[simp] theorem keys_nil : keys ([] : Entries α) = [] := rfl

@[simp] theorem keys_cons (e : String × α) (rest : Entries α) :
    keys (e :: rest) = e.1 :: keys rest := rfl

@[simp] theorem keys_append (xs ys : Entries α) : keys (xs ++ ys) = keys xs ++ keys ys := by
  simp [keys]

@[simp] theorem get?_nil (key : String) : get? key ([] : Entries α) = none := rfl

theorem get?_cons (key k : String) (a : α) (rest : Entries α) :
    get? key ((k, a) :: rest) = if k = key then some a else get? key rest := rfl

/-- A look-up fails exactly for keys that no entry has. -/
theorem get?_eq_none_iff {key : String} {entries : Entries α} :
    get? key entries = none ↔ key ∉ keys entries := by
  induction entries with
  | nil => simp
  | cons e rest ih =>
    obtain ⟨k, a⟩ := e
    by_cases h : k = key
    · simp [get?_cons, h]
    · simp [get?_cons, h, ih, Ne.symm h]

/-- What a look-up finds is an entry. -/
theorem mem_of_get?_eq_some {key : String} {a : α} {entries : Entries α}
    (h : get? key entries = some a) : (key, a) ∈ entries := by
  induction entries with
  | nil => simp at h
  | cons e rest ih =>
    obtain ⟨k, b⟩ := e
    by_cases hk : k = key
    · simp [get?_cons, hk] at h
      simp [hk, h]
    · simp only [get?_cons, if_neg hk] at h
      exact List.mem_cons_of_mem _ (ih h)

/-- With distinct keys, every entry is found. -/
theorem get?_eq_some_of_mem {key : String} {a : α} {entries : Entries α}
    (distinct : Distinct entries) (h : (key, a) ∈ entries) : get? key entries = some a := by
  induction entries with
  | nil => simp at h
  | cons e rest ih =>
    obtain ⟨k, b⟩ := e
    have parts := List.nodup_cons.1 distinct
    rcases List.mem_cons.1 h with eq | tail
    · cases eq
      simp [get?_cons]
    · have found : k ≠ key := fun eq ↦ parts.1 (eq ▸ List.mem_map.2 ⟨(key, a), tail, rfl⟩)
      simp [get?_cons, found, ih parts.2 tail]

/-- A key just written reads back. -/
theorem get?_insert_self (key : String) (a : α) (entries : Entries α) :
    get? key (insert key a entries) = some a := by
  induction entries with
  | nil => simp [insert, get?_cons]
  | cons e rest ih =>
    obtain ⟨k, b⟩ := e
    by_cases h : k = key <;> simp [insert, get?_cons, h, ih]

/-- Writing one key leaves the others alone. -/
theorem get?_insert_of_ne {key other : String} (ne : other ≠ key) (a : α) (entries : Entries α) :
    get? other (insert key a entries) = get? other entries := by
  induction entries with
  | nil => simp [insert, get?_cons, Ne.symm ne]
  | cons e rest ih =>
    obtain ⟨k, b⟩ := e
    by_cases h : k = key
    · simp [insert, get?_cons, h, Ne.symm ne]
    · simp [insert, get?_cons, h, ih]

/-- Writing a present key moves nothing. -/
theorem keys_insert_of_mem {key : String} {entries : Entries α} (present : key ∈ keys entries)
    (a : α) : keys (insert key a entries) = keys entries := by
  induction entries with
  | nil => simp at present
  | cons e rest ih =>
    obtain ⟨k, b⟩ := e
    by_cases h : k = key
    · simp [insert, h]
    · have tail : key ∈ keys rest := by
        simpa [Ne.symm h] using present
      simp [insert, h, ih tail]

/-- Writing an absent key appends an entry. -/
theorem insert_of_not_mem {key : String} {entries : Entries α} (absent : key ∉ keys entries)
    (a : α) : insert key a entries = entries ++ [(key, a)] := by
  induction entries with
  | nil => rfl
  | cons e rest ih =>
    obtain ⟨k, b⟩ := e
    have parts : key ≠ k ∧ key ∉ keys rest := by simpa using absent
    simp [insert, Ne.symm parts.1, ih parts.2]

/-- Writing keeps keys distinct. -/
theorem Distinct.insert {entries : Entries α} (distinct : Distinct entries) (key : String) (a : α) :
    Distinct (Entries.insert key a entries) := by
  by_cases h : key ∈ keys entries
  · simpa [Distinct, keys_insert_of_mem h] using distinct
  · rw [insert_of_not_mem h]
    simpa [Distinct, List.nodup_append] using
      ⟨distinct, fun k hk eq ↦ h (eq ▸ hk)⟩

end Entries

end Schemata
