import Mathlib.Data.List.Forall2

/-!
# Results, options and lists

When a sequence of steps succeeds, and what `Option.Rel` and `List.Forall₂` say about options and
lists that stand side by side.
-/

namespace Schemata

/-- A sequence of two steps succeeds if both do. -/
theorem bind_eq_ok_iff {ε α β : Type} {first : Except ε α} {next : α → Except ε β} {b : β} :
    (first >>= next) = .ok b ↔ ∃ a, first = .ok a ∧ next a = .ok b := by
  cases first with
  | error e => simp [bind, Except.bind]
  | ok a => simp [bind, Except.bind]

/-- A sequence of two steps fails with the first failure. -/
theorem bind_eq_error_iff {ε α β : Type} {first : Except ε α} {next : α → Except ε β} {e : ε} :
    (first >>= next) = .error e ↔ first = .error e ∨ ∃ a, first = .ok a ∧ next a = .error e := by
  cases first with
  | error e => simp [bind, Except.bind]
  | ok a => simp [bind, Except.bind]

theorem map_eq_ok_iff {ε α β : Type} {f : α → β} {result : Except ε α} {b : β} :
    result.map f = .ok b ↔ ∃ a, result = .ok a ∧ f a = b := by
  cases result <;> simp [Except.map]

/-- Options that are related stay so in a weaker relation of other values. -/
theorem optionRel_map {α β γ δ : Type*} {r : α → β → Prop} {s : γ → δ → Prop} {f : α → γ}
    {g : β → δ} {a : Option α} {b : Option β} (h : Option.Rel r a b)
    (step : ∀ x y, r x y → s (f x) (g y)) : Option.Rel s (a.map f) (b.map g) := by
  cases h with
  | none => exact .none
  | some related => exact .some (step _ _ related)

theorem optionRel_imp {α β : Type*} {r s : α → β → Prop} {a : Option α} {b : Option β}
    (h : Option.Rel r a b) (step : ∀ x y, r x y → s x y) : Option.Rel s a b := by
  cases h with
  | none => exact .none
  | some related => exact .some (step _ _ related)

variable {α β γ : Type} {r : α → β → Prop} {as : List α} {bs : List β}

theorem forall₂_exists_of_mem (h : List.Forall₂ r as bs) {a : α} (member : a ∈ as) :
    ∃ b ∈ bs, r a b := by
  obtain ⟨i, hi, rfl⟩ := List.mem_iff_getElem.1 member
  have hj : i < bs.length := h.length_eq ▸ hi
  exact ⟨bs[i], List.getElem_mem hj, h.get hi hj⟩

theorem forall₂_singleton_left {a : α} (h : List.Forall₂ r [a] bs) : ∃ b, r a b ∧ bs = [b] := by
  cases h with
  | cons head tail =>
    cases tail
    exact ⟨_, head, rfl⟩

theorem forall₂_pair_left {a a' : α} (h : List.Forall₂ r [a, a'] bs) :
    ∃ b b', r a b ∧ r a' b' ∧ bs = [b, b'] := by
  cases h with
  | cons head tail =>
    obtain ⟨b', last, rfl⟩ := forall₂_singleton_left tail
    exact ⟨_, b', head, last, rfl⟩

theorem forall₂_and {s : α → β → Prop} (hr : List.Forall₂ r as bs) (hs : List.Forall₂ s as bs) :
    List.Forall₂ (fun a b ↦ r a b ∧ s a b) as bs := by
  induction hr with
  | nil => exact .nil
  | cons head _ ih =>
    cases hs with
    | cons head' tail' => exact .cons ⟨head, head'⟩ (ih tail')

theorem forall₂_mem_left (h : List.Forall₂ r as bs) :
    List.Forall₂ (fun a b ↦ a ∈ as ∧ r a b) as bs := by
  induction h with
  | nil => exact .nil
  | cons head _ ih =>
    exact .cons ⟨List.mem_cons_self, head⟩
      (ih.imp fun _ _ tail ↦ ⟨List.mem_cons_of_mem _ tail.1, tail.2⟩)

/-- Items that stand beside the same items stand beside each other. -/
theorem forall₂_comp {s : β → γ → Prop} {t : α → γ → Prop} {cs : List γ}
    (hr : List.Forall₂ r as bs) (hs : List.Forall₂ s bs cs)
    (step : ∀ a b c, r a b → s b c → t a c) : List.Forall₂ t as cs := by
  induction hr generalizing cs with
  | nil =>
    cases hs
    exact .nil
  | cons head _ ih =>
    cases hs with
    | cons head' tail' => exact .cons (step _ _ _ head head') (ih tail')

/-- If each item has a partner, there is a list of partners. -/
theorem exists_forall₂ (each : ∀ a ∈ as, ∃ b, r a b) : ∃ bs, List.Forall₂ r as bs := by
  induction as with
  | nil => exact ⟨[], .nil⟩
  | cons a as ih =>
    obtain ⟨⟨b, here⟩, rest⟩ := List.forall_mem_cons.1 each
    obtain ⟨bs, tail⟩ := ih rest
    exact ⟨b :: bs, .cons here tail⟩

/-- Partners of one list are carried over to a list that stands beside it. -/
theorem exists_forall₂_of_forall₂ {p : α → α → Prop} {q : β → β → Prop} {as' : List α}
    (moved : List.Forall₂ p as as') (oks : List.Forall₂ r as bs)
    (step : ∀ a a' b, p a a' → r a b → ∃ b', r a' b' ∧ q b b') :
    ∃ bs', List.Forall₂ r as' bs' ∧ List.Forall₂ q bs bs' := by
  induction moved generalizing bs with
  | nil =>
    cases oks
    exact ⟨[], .nil, .nil⟩
  | cons head _ ih =>
    cases oks with
    | cons ok oks =>
      obtain ⟨b', okHead, movedHead⟩ := step _ _ _ head ok
      obtain ⟨bs', okTail, movedTail⟩ := ih oks
      exact ⟨b' :: bs', .cons okHead okTail, .cons movedHead movedTail⟩

/-- A third list beside two others. -/
theorem forall₂_zip_left {p : β → β → Prop} (as : List α) {xs ys : List β}
    (moved : List.Forall₂ p xs ys) :
    List.Forall₂ (fun x y ↦ x.1 = y.1 ∧ x.1 ∈ as ∧ p x.2 y.2) (as.zip xs) (as.zip ys) := by
  induction moved generalizing as with
  | nil => simp
  | cons head _ ih =>
    cases as with
    | nil => simp
    | cons a as =>
      refine .cons ⟨rfl, List.mem_cons_self, head⟩ ((ih as).imp ?_)
      exact fun _ _ ⟨eq, member, tail⟩ ↦ ⟨eq, List.mem_cons_of_mem _ member, tail⟩

/-- The second and third of three lists may change places. -/
theorem forall₂_zip_zip {s : α → β → γ → Prop} {cs : List γ} (length : bs.length = as.length)
    (h : List.Forall₂ (fun pair c ↦ s pair.1 pair.2 c) (as.zip bs) cs) :
    List.Forall₂ (fun pair b ↦ s pair.1 b pair.2) (as.zip cs) bs := by
  induction as generalizing bs cs with
  | nil =>
    cases bs with
    | nil => simp
    | cons => simp at length
  | cons a as ih =>
    cases bs with
    | nil => simp at length
    | cons b bs =>
      cases h with
      | cons head tail => exact .cons head (ih (Nat.succ.inj length) tail)

end Schemata
