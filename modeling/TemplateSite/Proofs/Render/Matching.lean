import TemplateSite.Render.Fault

/-!
# Outcomes that match

Two renderings are compared by their outcomes: both give results in a relation, or both fail in the
same way. Some failures of the first one can be excused, whatever the second one does.
-/
namespace TemplateSite

/-- Outcomes that are alike: two results in the relation, the same failure, or a failure of the
first one that is excused. -/
inductive Outcome.Matches {α β : Type} (excused : Failure RenderFault → Prop)
    (R : α → β → Prop) : Outcome α → Outcome β → Prop where
  | ok {a : α} {b : β} (h : R a b) : Matches excused R (.ok a) (.ok b)
  | same (failure : Failure RenderFault) : Matches excused R (.error failure) (.error failure)
  | excuse {failure : Failure RenderFault} (h : excused failure) (y : Outcome β) :
    Matches excused R (.error failure) y

namespace Outcome.Matches

variable {α β γ δ ι : Type} {excused : Failure RenderFault → Prop} {R : α → β → Prop}
  {S : γ → δ → Prop} {x : Outcome α} {y : Outcome β}

theorem mono {T : α → β → Prop} (h : Matches excused R x y) (hr : ∀ a b, R a b → T a b) :
    Matches excused T x y := by
  cases h with
  | ok h => exact .ok (hr _ _ h)
  | same failure => exact .same failure
  | excuse h y => exact .excuse h y

theorem bind {f : α → Outcome γ} {g : β → Outcome δ} (h : Matches excused R x y)
    (hf : ∀ a b, R a b → Matches excused S (f a) (g b)) :
    Matches excused S (x >>= f) (y >>= g) := by
  cases h with
  | ok h => exact hf _ _ h
  | same failure => exact .same failure
  | excuse h y => exact .excuse h _

theorem bind_left {f : α → γ} {T : γ → β → Prop} (h : Matches excused R x y)
    (hf : ∀ a b, R a b → T (f a) b) : Matches excused T (x >>= fun a => .ok (f a)) y := by
  cases h with
  | ok h => exact .ok (hf _ _ h)
  | same failure => exact .same failure
  | excuse h y => exact .excuse h y

theorem bind_right {g : β → δ} {T : α → δ → Prop} (h : Matches excused R x y)
    (hg : ∀ a b, R a b → T a (g b)) : Matches excused T x (y >>= fun b => .ok (g b)) := by
  cases h with
  | ok h => exact .ok (hg _ _ h)
  | same failure => exact .same failure
  | excuse h y => exact .excuse h _

theorem with_result (h : Matches excused R x y) :
    Matches excused (fun a b => R a b ∧ y = .ok b) x y := by
  cases h with
  | ok h => exact .ok ⟨h, rfl⟩
  | same failure => exact .same failure
  | excuse h y => exact .excuse h y

theorem refl (excused : Failure RenderFault → Prop) (x : Outcome α) :
    Matches excused (· = ·) x x := by
  cases x with
  | error failure => exact .same failure
  | ok a => exact .ok rfl

theorem of_eq {x y : Outcome α} {R : α → α → Prop} (h : x = y) (hr : ∀ a, R a a) :
    Matches excused R x y := by
  subst h
  apply (refl excused x).mono
  rintro a _ rfl
  exact hr a

theorem bind_eq {f : α → Outcome γ} {g : α → Outcome δ} {y : Outcome α}
    (h : Matches excused (· = ·) x y) (hf : ∀ a, Matches excused S (f a) (g a)) :
    Matches excused S (x >>= f) (y >>= g) := by
  apply h.bind
  rintro a b rfl
  exact hf a

theorem map_eq {y : Outcome α} (h : Matches excused (· = ·) x y) (f : α → γ) :
    Matches excused (· = ·) (x.map f) (y.map f) := by
  cases h with
  | ok h => exact .ok (congrArg f h)
  | same failure => exact .same failure
  | excuse h y => exact .excuse h _

theorem foldlM {f : α → ι → Outcome α} {g : β → ι → Outcome β} {items : List ι}
    (hf : ∀ i ∈ items, ∀ a b, R a b → Matches excused R (f a i) (g b i)) {a : α} {b : β}
    (h : R a b) : Matches excused R (items.foldlM f a) (items.foldlM g b) := by
  induction items generalizing a b with
  | nil => exact .ok h
  | cons i items ih =>
    rw [List.foldlM_cons, List.foldlM_cons]
    apply (hf i (List.mem_cons_self ..) a b h).bind
    intro a b h
    exact ih (fun j hj => hf j (List.mem_cons_of_mem _ hj)) h

theorem mapM {f g : ι → Outcome α} {items : List ι}
    (hf : ∀ i ∈ items, Matches excused (· = ·) (f i) (g i)) :
    Matches excused (· = ·) (items.mapM f) (items.mapM g) := by
  induction items with
  | nil => exact refl excused _
  | cons i items ih =>
    rw [List.mapM_cons, List.mapM_cons]
    apply (hf i (List.mem_cons_self ..)).bind_eq
    intro a
    apply (ih fun j hj => hf j (List.mem_cons_of_mem _ hj)).bind_eq
    intro more
    exact .ok rfl

/-- Where no failure is excused, outcomes with equal results are equal. -/
theorem eq {y : Outcome α} (h : Matches (fun _ => False) (· = ·) x y) : x = y := by
  cases h with
  | ok h => rw [h]
  | same failure => rfl
  | excuse h y => exact h.elim

theorem eq_map {f : β → α} (h : Matches (fun _ => False) (fun a b => a = f b) x y) :
    x = y.map f := by
  cases h with
  | ok h => rw [h, Except.map]
  | same failure => rfl
  | excuse h y => exact h.elim

/-- Unless a failure of the first outcome is excused, outcomes with equal results are equal. -/
theorem eq_or_excused {y : Outcome α} (h : Matches excused (· = ·) x y) :
    x = y ∨ ∃ failure, x = .error failure ∧ excused failure := by
  cases h with
  | ok h => exact Or.inl (by rw [h])
  | same failure => exact Or.inl rfl
  | excuse h y => exact Or.inr ⟨_, rfl, h⟩

/-- Where no failure is excused, one outcome is a result only if the other is a related one. -/
theorem exists_of_ok {a : α} (h : Matches excused R (.ok a) y) : ∃ b, y = .ok b ∧ R a b := by
  cases h with
  | ok h => exact ⟨_, rfl, h⟩

theorem exists_of_ok_right {b : β} (h : Matches (fun _ => False) R x (.ok b)) :
    ∃ a, x = .ok a ∧ R a b := by
  cases h with
  | ok h => exact ⟨_, rfl, h⟩
  | excuse h _ => exact h.elim

end Outcome.Matches
end TemplateSite
