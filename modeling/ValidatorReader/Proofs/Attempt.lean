import Mathlib

/-!
# Steps that may fail

A sequence of steps succeeds exactly when each of its steps does, and a traversal of a list gives one
result for each item, in order. A sequence that fails has the error of its first step that does.
-/

namespace ValidatorReader.Attempt

variable {α β ε δ : Type}

@[simp]
theorem bind_eq_ok_iff {x : Except ε α} {f : α → Except ε β} {b : β} :
    x >>= f = .ok b ↔ ∃ a, x = .ok a ∧ f a = .ok b := by
  cases x <;> simp [bind, Except.bind]

@[simp]
theorem map_eq_ok_iff {x : Except ε α} {f : α → β} {b : β} :
    f <$> x = .ok b ↔ ∃ a, x = .ok a ∧ f a = b := by
  cases x <;> simp [Functor.map, Except.map]

@[simp]
theorem mapError_eq_ok_iff {x : Except ε α} {f : ε → δ} {a : α} :
    x.mapError f = .ok a ↔ x = .ok a := by
  cases x <;> simp [Except.mapError]

@[simp]
theorem pure_eq_ok_iff {a b : α} : (pure a : Except ε α) = .ok b ↔ a = b := by
  simp [pure, Except.pure]

/-- A traversal succeeds with the results that its steps give one by one. -/
theorem mapM_eq_ok_iff {f : α → Except ε β} {items : List α} {results : List β} :
    items.mapM f = .ok results ↔ List.Forall₂ (fun a b ↦ f a = .ok b) items results := by
  induction items generalizing results with
  | nil => cases results <;> simp
  | cons a items ih =>
    simp only [List.mapM_cons, bind_eq_ok_iff, pure_eq_ok_iff]
    constructor
    · rintro ⟨b, hb, bs, hbs, rfl⟩
      exact .cons hb (ih.1 hbs)
    · rintro (_ | ⟨hb, hbs⟩)
      exact ⟨_, hb, _, ih.2 hbs, rfl⟩

theorem length_of_mapM_eq_ok {f : α → Except ε β} {items : List α} {results : List β}
    (h : items.mapM f = .ok results) : results.length = items.length :=
  (mapM_eq_ok_iff.1 h).length_eq.symm

theorem getElem?_of_mapM_eq_ok {f : α → Except ε β} {items : List α} {results : List β}
    (h : items.mapM f = .ok results) {index : Nat} {a : α} (ha : items[index]? = some a) :
    ∃ b, results[index]? = some b ∧ f a = .ok b := by
  obtain ⟨hlength, hget⟩ := List.forall₂_iff_get.1 (mapM_eq_ok_iff.1 h)
  obtain ⟨hindex, rfl⟩ := List.getElem?_eq_some_iff.1 ha
  exact ⟨results[index], List.getElem?_eq_getElem _, hget index hindex (hlength ▸ hindex)⟩

/-- Each result of a traversal comes from the item at its place. -/
theorem exists_getElem?_of_mapM_eq_ok {f : α → Except ε β} {items : List α} {results : List β}
    (h : items.mapM f = .ok results) {index : Nat} {b : β} (hb : results[index]? = some b) :
    ∃ a, items[index]? = some a ∧ f a = .ok b := by
  obtain ⟨hlength, hget⟩ := List.forall₂_iff_get.1 (mapM_eq_ok_iff.1 h)
  obtain ⟨hindex, rfl⟩ := List.getElem?_eq_some_iff.1 hb
  exact ⟨items[index], List.getElem?_eq_getElem _, hget index (hlength ▸ hindex) hindex⟩

/-- If every step succeeds, so do all of them together. -/
theorem exists_mapM_eq_ok (f : α → Except ε β) (items : List α)
    (h : ∀ a ∈ items, ∃ b, f a = .ok b) : ∃ results, items.mapM f = .ok results := by
  induction items with
  | nil => exact ⟨[], rfl⟩
  | cons a items ih =>
    obtain ⟨b, hb⟩ := h a List.mem_cons_self
    obtain ⟨bs, hbs⟩ := ih fun a ha ↦ h a (List.mem_cons_of_mem _ ha)
    exact ⟨b :: bs, by simp [hb, hbs]⟩

/-! ## Errors -/

/-- The error of a step, if it fails. -/
def fault? : Except ε α → Option ε
  | .ok _ => none
  | .error e => some e

@[simp]
theorem fault?_ok (a : α) : fault? (.ok a : Except ε α) = none := rfl

@[simp]
theorem fault?_error (e : ε) : fault? (.error e : Except ε α) = some e := rfl

theorem fault?_eq_some_iff {x : Except ε α} {e : ε} : fault? x = some e ↔ x = .error e := by
  cases x <;> simp

theorem fault?_map (f : α → β) (x : Except ε α) : fault? (f <$> x) = fault? x := by
  cases x <;> rfl

theorem fault?_bind_ok (a : α) (f : α → Except ε β) : fault? (.ok a >>= f) = fault? (f a) := rfl

theorem fault?_bind_error (e : ε) (f : α → Except ε β) : fault? (.error e >>= f) = some e := rfl

theorem bind_eq_error_iff {x : Except ε α} {f : α → Except ε β} {e : ε} :
    x >>= f = .error e ↔ x = .error e ∨ ∃ a, x = .ok a ∧ f a = .error e := by
  cases x <;> simp [bind, Except.bind]

/-- A run over items fails at the first of them whose step fails from where the run then is. -/
theorem foldlM_eq_error_iff {f : β → α → Except ε β} {items : List α} {b : β} {e : ε} :
    items.foldlM f b = .error e ↔ ∃ before a after reached, items = before ++ a :: after ∧
      before.foldlM f b = .ok reached ∧ f reached a = .error e := by
  induction items generalizing b with
  | nil => simp [pure, Except.pure]
  | cons a items ih =>
    simp only [List.foldlM_cons, bind_eq_error_iff, ih]
    constructor
    · rintro (hstep | ⟨next, hnext, before, a', after, reached, rfl, hreached, hstep⟩)
      · exact ⟨[], a, items, b, rfl, rfl, hstep⟩
      · exact ⟨a :: before, a', after, reached, rfl, by simp [hnext, hreached], hstep⟩
    · rintro ⟨before, a', after, reached, hitems, hreached, hstep⟩
      cases before with
      | nil =>
        obtain ⟨rfl, rfl⟩ := List.cons.inj hitems
        obtain rfl := Except.ok.inj hreached
        exact .inl hstep
      | cons first before =>
        obtain ⟨rfl, rfl⟩ := List.cons.inj hitems
        rw [List.foldlM_cons, bind_eq_ok_iff] at hreached
        obtain ⟨next, hnext, hreached⟩ := hreached
        exact .inr ⟨next, hnext, before, a', after, reached, rfl, hreached, hstep⟩

/-- A traversal fails as the first of its steps that fails. -/
theorem fault?_mapM (f : α → Except ε β) (items : List α) :
    fault? (items.mapM f) = items.findSome? fun a ↦ fault? (f a) := by
  induction items with
  | nil => rfl
  | cons a items ih =>
    rw [List.mapM_cons, List.findSome?_cons]
    cases f a with
    | error e => rfl
    | ok b =>
      rw [fault?_bind_ok, fault?_ok, ← ih]
      exact fault?_map (b :: ·) (items.mapM f)

theorem findSome?_eq_of_forall₂ {f : α → Option ε} {g : β → Option ε} {items : List α}
    {others : List β} (h : List.Forall₂ (fun a b ↦ f a = g b) items others) :
    items.findSome? f = others.findSome? g := by
  induction h with
  | nil => rfl
  | cons hstep _ ih => rw [List.findSome?_cons, List.findSome?_cons, hstep, ih]

theorem findSome?_flatMap (f : β → Option ε) (g : α → List β) (items : List α) :
    (items.flatMap g).findSome? f = items.findSome? fun a ↦ (g a).findSome? f := by
  induction items with
  | nil => rfl
  | cons a items ih =>
    rw [List.flatMap_cons, List.findSome?_append, List.findSome?_cons, ih]
    cases (g a).findSome? f <;> rfl

end ValidatorReader.Attempt
