/-!
# When a computation succeeds

A computation made of parts succeeds exactly when its parts do, each on what the one before it gave.
It fails when one of them does, as the first of them that does. Where it is known what stands in the
way of each part, the first of all that does decides the whole.
-/
namespace TemplateSite

variable {ε δ α β : Type}

theorem bind_eq_ok_iff {x : Except ε α} {f : α → Except ε β} {b : β} :
    (x >>= f) = .ok b ↔ ∃ a, x = .ok a ∧ f a = .ok b := by
  cases x with
  | error e => simp [bind, Except.bind]
  | ok a => simp [bind, Except.bind]

theorem map_eq_ok_iff {x : Except ε α} {f : α → β} {b : β} :
    x.map f = .ok b ↔ ∃ a, x = .ok a ∧ f a = b := by
  cases x with
  | error e => simp [Except.map]
  | ok a => simp [Except.map]

theorem mapError_ok (f : ε → δ) (a : α) :
    (.ok a : Except ε α).mapError f = .ok a := rfl

theorem mapError_error (f : ε → δ) (e : ε) :
    (.error e : Except ε α).mapError f = .error (f e) := rfl

theorem mapError_eq_ok_iff {x : Except ε α} {f : ε → δ} {a : α} :
    x.mapError f = .ok a ↔ x = .ok a := by
  cases x with
  | error e =>
    constructor
    · intro h
      cases h
    · intro h
      cases h
  | ok b => exact Iff.intro (fun h => by cases h; rfl) (fun h => by cases h; rfl)

theorem toOption_eq_some_iff {x : Except ε α} {a : α} : x.toOption = some a ↔ x = .ok a := by
  cases x with
  | error e => simp [Except.toOption]
  | ok b => simp [Except.toOption]

theorem exists_eq_ok_of_isSome {x : Except ε α} (h : x.toOption.isSome = true) :
    ∃ a, x = .ok a := by
  cases x with
  | error e => cases h
  | ok a => exact ⟨a, rfl⟩

theorem exists_eq_error_of_isNone {x : Except ε α} (h : x.toOption.isNone = true) :
    ∃ e, x = .error e := by
  cases x with
  | error e => exact ⟨e, rfl⟩
  | ok a => cases h

theorem exists_eq_ok_of_any {x : Except ε α} {p : α → Bool} (h : x.toOption.any p = true) :
    ∃ a, x = .ok a ∧ p a = true := by
  cases x with
  | error e => cases h
  | ok a => exact ⟨a, rfl, h⟩

theorem bind_eq_error_iff {x : Except ε α} {f : α → Except ε β} {e : ε} :
    (x >>= f) = .error e ↔ x = .error e ∨ ∃ a, x = .ok a ∧ f a = .error e := by
  cases x with
  | error e => simp [bind, Except.bind]
  | ok a => simp [bind, Except.bind]

theorem map_eq_error_iff {x : Except ε α} {f : α → β} {e : ε} :
    x.map f = .error e ↔ x = .error e := by
  cases x with
  | error e => simp [Except.map]
  | ok a => simp [Except.map]

theorem mapError_eq_error_iff {x : Except ε α} {f : ε → δ} {e : δ} :
    x.mapError f = .error e ↔ ∃ cause, x = .error cause ∧ f cause = e := by
  cases x with
  | error cause => simp [mapError_error]
  | ok a => simp [mapError_ok]

/-- A computation is decided by what stands in its way: it fails as the first of that, and if there
is nothing it succeeds with a result that is as expected. -/
def Decides (obstacles : List ε) (x : Except ε α) (P : α → Prop) : Prop :=
  match obstacles with
  | [] => ∃ a, x = .ok a ∧ P a
  | e :: _ => x = .error e

namespace Decides

variable {obstacles more : List ε} {x : Except ε α} {f : α → Except ε β} {P : α → Prop}
  {Q : β → Prop}

theorem ok {a : α} (h : P a) : Decides ([] : List ε) (.ok a) P :=
  ⟨a, rfl, h⟩

theorem error (e : ε) (P : α → Prop) : Decides [e] (.error e) P :=
  rfl

/-- What stands in the way of one computation comes before what stands in the way of the next. -/
theorem bind (h : Decides obstacles x P) (next : ∀ a, P a → Decides more (f a) Q) :
    Decides (obstacles ++ more) (x >>= f) Q := by
  cases obstacles with
  | nil =>
    rcases h with ⟨a, rfl, expected⟩
    exact next a expected
  | cons e rest => exact bind_eq_error_iff.mpr (.inl h)

theorem mono {P' : α → Prop} (h : Decides obstacles x P) (next : ∀ a, P a → P' a) :
    Decides obstacles x P' := by
  cases obstacles with
  | nil =>
    rcases h with ⟨a, succeeds, expected⟩
    exact ⟨a, succeeds, next a expected⟩
  | cons e rest => exact h

theorem map {g : α → β} (h : Decides obstacles x P) (next : ∀ a, P a → Q (g a)) :
    Decides obstacles (x.map g) Q := by
  cases obstacles with
  | nil =>
    rcases h with ⟨a, rfl, expected⟩
    exact ⟨g a, rfl, next a expected⟩
  | cons e rest => exact map_eq_error_iff.mpr h

theorem eq_error_iff (h : Decides obstacles x P) {e : ε} :
    x = .error e ↔ obstacles.head? = some e := by
  cases obstacles with
  | nil =>
    rcases h with ⟨a, rfl, -⟩
    simp
  | cons first rest =>
    rw [show x = .error first from h]
    simp

theorem exists_ok (h : Decides ([] : List ε) x P) : ∃ a, x = .ok a ∧ P a :=
  h

theorem of_ok (h : Decides obstacles x P) {a : α} (succeeds : x = .ok a) : P a := by
  cases obstacles with
  | nil =>
    rcases h with ⟨b, rfl, expected⟩
    cases succeeds
    exact expected
  | cons first rest =>
    rw [show x = .error first from h] at succeeds
    cases succeeds

end Decides

end TemplateSite
