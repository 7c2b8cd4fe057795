import Mathlib.Data.List.Induction
import Mathlib.Data.String.Basic
import TemplateSite.Data.Record

/-!
# What records hold

Inserting into a record loses none of its names. In a record whose names are in order each name is
there once, so what is erased is gone.
-/
namespace TemplateSite.Record

variable {α : Type} {key name : String} {value : α} {first second third record : Record α}

/-- Every name of the first record is a name of the second one. -/
def Grows (first second : Record α) : Prop :=
  ∀ name, (first.get? name).isSome = true → (second.get? name).isSome = true

namespace Grows

theorem refl (record : Record α) : record.Grows record :=
  fun _ h => h

theorem trans (h : first.Grows second) (more : second.Grows third) : first.Grows third :=
  fun name there => more name (h name there)

theorem insert (h : first.Grows second) (key : String) (value : α) :
    first.Grows (second.insert key value) := by
  intro name there
  rw [get?_insert]
  split
  · rfl
  · exact h name there

end Grows

/-- A name after all others is put at the end. -/
theorem insert_of_last (h : ∀ entry ∈ record, entry.1 < key) (value : α) :
    record.insert key value = record ++ [(key, value)] := by
  induction record with
  | nil => rfl
  | cons head rest ih =>
    rcases head with ⟨k, v⟩
    rcases List.forall_mem_cons.mp h with ⟨less, later⟩
    rw [Record.insert, if_neg less.ne, if_neg (lt_asymm less), ih later, List.cons_append]

namespace Ordered

/-- In a record whose names are in order, an entry is what is found under its name. -/
theorem mem_iff (h : record.Ordered) : (key, value) ∈ record ↔ record.get? key = some value := by
  induction record with
  | nil => simp
  | cons head rest ih =>
    rcases head with ⟨k, v⟩
    rcases List.pairwise_cons.mp h with ⟨before, ordered⟩
    rw [List.mem_cons, ih ordered, get?, Prod.mk.injEq]
    by_cases same : k = key
    · subst same
      rw [if_pos rfl, Option.some.injEq]
      constructor
      · rintro (⟨-, rfl⟩ | later)
        · rfl
        · exact absurd (before _ ((ih ordered).mpr later)) (lt_irrefl _)
      · rintro rfl
        exact Or.inl ⟨rfl, rfl⟩
    · rw [if_neg same]
      constructor
      · rintro (⟨rfl, -⟩ | later)
        · exact absurd rfl same
        · exact later
      · exact Or.inr

/-- Records whose names are in order are told apart by what they hold. -/
theorem ext (h : first.Ordered) (h' : second.Ordered)
    (same : ∀ name, first.get? name = second.get? name) : first = second := by
  have nodup : ∀ {record : Record α}, record.Ordered → record.Nodup := fun ordered =>
    List.Pairwise.imp (fun before equal => absurd (equal ▸ before) (lt_irrefl _)) ordered
  have members : first.Perm second := by
    rw [List.perm_ext_iff_of_nodup (nodup h) (nodup h')]
    rintro ⟨name, value⟩
    rw [mem_iff h, mem_iff h', same]
  exact members.eq_of_pairwise
    (fun _ _ _ _ before after => absurd (lt_trans before after) (lt_irrefl _)) h h'

theorem get?_erase_self (h : record.Ordered) (key : String) :
    (record.erase key).get? key = none := by
  induction record with
  | nil => rfl
  | cons head rest ih =>
    rcases head with ⟨k, v⟩
    rcases List.pairwise_cons.mp h with ⟨before, ordered⟩
    rw [Record.erase]
    by_cases same : k = key
    · subst same
      rw [if_pos rfl, Option.eq_none_iff_forall_ne_some]
      intro w found
      exact absurd (before _ ((mem_iff ordered).mpr found)) (lt_irrefl _)
    · rw [if_neg same, get?, if_neg same]
      exact ih ordered

end Ordered

theorem get?_erase_of_ne (h : name ≠ key) (record : Record α) :
    (record.erase key).get? name = record.get? name := by
  induction record with
  | nil => rfl
  | cons head rest ih =>
    rcases head with ⟨k, v⟩
    rw [erase, get?]
    by_cases same : k = key
    · rw [if_pos same, if_neg (same ▸ Ne.symm h)]
    · rw [if_neg same, get?, ih]

/-! ## Records of entries -/

section Entries

variable {entries : List (String × α)}

def addAll (record : Record α) (entries : List (String × α)) : Record α :=
  entries.foldl (fun record entry => record.insert entry.1 entry.2) record

theorem addAll_append (record : Record α) (entries more : List (String × α)) :
    record.addAll (entries ++ more) = (record.addAll entries).addAll more :=
  List.foldl_append

theorem Grows.addAll (h : first.Grows second) (entries : List (String × α)) :
    first.Grows (second.addAll entries) := by
  induction entries generalizing second with
  | nil => exact h
  | cons entry rest ih => exact ih (h.insert entry.1 entry.2)

/-- What is put into a record keeps its name. -/
theorem get?_addAll_of_mem (h : (key, value) ∈ entries) (record : Record α) :
    ((record.addAll entries).get? key).isSome = true := by
  rcases List.append_of_mem h with ⟨front, back, rfl⟩
  rw [addAll_append]
  have put : (((record.addAll front).insert key value).get? key).isSome = true := by
    rw [get?_insert_self]
    rfl
  exact (Grows.refl _).addAll back key put

/-- A record holds exactly the names of entries, each with the value of the last entry under it. -/
structure HoldsLast (record : Record α) (entries : List (String × α)) : Prop where
  ordered : record.Ordered
  mem_iff : ∀ name value, (name, value) ∈ record ↔ entries.reverse.lookup name = some value

theorem holdsLast_ofEntries (entries : List (String × α)) :
    (ofEntries entries).HoldsLast entries := by
  induction entries using List.reverseRecOn with
  | nil =>
    refine ⟨List.Pairwise.nil, ?_⟩
    intro name value
    exact iff_of_false List.not_mem_nil (by simp)
  | append_singleton front last ih =>
    rcases last with ⟨k, v⟩
    have added : ofEntries (front ++ [(k, v)]) = (ofEntries front).insert k v :=
      addAll_append [] front [(k, v)]
    have ordered := ih.ordered.insert k v
    rw [added]
    refine ⟨ordered, ?_⟩
    intro name value
    rw [ordered.mem_iff, get?_insert, List.reverse_concat, List.lookup_cons]
    by_cases same : k = name
    · rw [if_pos same, same, beq_self_eq_true]
    · rw [if_neg same, beq_false_of_ne (Ne.symm same), ← ih.ordered.mem_iff, ih.mem_iff]

theorem HoldsLast.mem_entries (h : record.HoldsLast entries) {entry : String × α}
    (there : entry ∈ record) : entry ∈ entries := by
  rcases List.lookup_eq_some_iff.mp ((h.mem_iff entry.1 entry.2).mp there) with
    ⟨front, back, split, -⟩
  rw [← List.mem_reverse, split]
  exact List.mem_append_right _ List.mem_cons_self

theorem HoldsLast.eq (h : record.HoldsLast entries) : record = ofEntries entries := by
  have held := holdsLast_ofEntries entries
  refine h.ordered.ext held.ordered ?_
  intro name
  rw [Option.ext_iff]
  intro value
  rw [← h.ordered.mem_iff, ← held.ordered.mem_iff, h.mem_iff, held.mem_iff]

end Entries

end TemplateSite.Record
