/-!
# Records

A record holds values under names, each name once, in ascending order of the names. Inserting keeps
the order and replaces the value of a name that is already there.
-/
namespace TemplateSite

/-- Values under names, in ascending order of the names. -/
abbrev Record (α : Type) := List (String × α)

namespace Record
variable {α : Type}

def get? (key : String) : Record α → Option α
  | [] => none
  | (k, v) :: rest => if k = key then some v else get? key rest

def insert (key : String) (value : α) : Record α → Record α
  | [] => [(key, value)]
  | (k, v) :: rest =>
    if k = key then (key, value) :: rest
    else if key < k then (key, value) :: (k, v) :: rest
    else (k, v) :: insert key value rest

def erase (key : String) : Record α → Record α
  | [] => []
  | (k, v) :: rest => if k = key then rest else (k, v) :: erase key rest

/-- The record of a list of entries; of several entries under one name the last one counts. -/
def ofEntries (entries : List (String × α)) : Record α :=
  entries.foldl (fun record entry => record.insert entry.1 entry.2) []

def keys (record : Record α) : List String :=
  record.map Prod.fst

/-- Whether the names are in strictly ascending order. -/
def Ordered (record : Record α) : Prop :=
  record.Pairwise fun a b => a.1 < b.1

@[simp] theorem get?_nil (key : String) : get? key ([] : Record α) = none := rfl

theorem get?_insert_self (key : String) (value : α) (record : Record α) :
    get? key (record.insert key value) = some value := by
  induction record with
  | nil => simp [insert, get?]
  | cons entry rest ih =>
    obtain ⟨k, v⟩ := entry
    by_cases hk : k = key
    · simp [insert, get?, hk]
    · by_cases hlt : key < k <;> simp [insert, get?, hk, hlt, ih]

theorem get?_insert_of_ne {key other : String} (h : other ≠ key) (value : α)
    (record : Record α) : get? other (record.insert key value) = get? other record := by
  induction record with
  | nil => simp [insert, get?, Ne.symm h]
  | cons entry rest ih =>
    obtain ⟨k, v⟩ := entry
    by_cases hk : k = key
    · subst hk
      simp [insert, get?, Ne.symm h]
    · by_cases hlt : key < k
      · simp [insert, get?, hk, hlt, Ne.symm h]
      · simp [insert, get?, hk, hlt, ih]

theorem get?_insert (key other : String) (value : α) (record : Record α) :
    get? other (record.insert key value) =
      if key = other then some value else get? other record := by
  by_cases h : key = other
  · rw [if_pos h, h, get?_insert_self]
  · rw [if_neg h, get?_insert_of_ne (Ne.symm h)]

/-! ### The order of the names -/

theorem mem_insert {entry : String × α} {key : String} {value : α} {record : Record α}
    (h : entry ∈ record.insert key value) : entry = (key, value) ∨ entry ∈ record := by
  induction record with
  | nil => exact Or.inl (List.mem_singleton.mp h)
  | cons head rest ih =>
    rcases head with ⟨k, v⟩
    rw [insert] at h
    split at h
    · rcases List.mem_cons.mp h with rfl | there
      · exact Or.inl rfl
      · exact Or.inr (List.mem_cons_of_mem _ there)
    · split at h
      · rcases List.mem_cons.mp h with rfl | there
        · exact Or.inl rfl
        · exact Or.inr there
      · rcases List.mem_cons.mp h with rfl | there
        · exact Or.inr (List.mem_cons_self ..)
        · exact (ih there).imp_right (List.mem_cons_of_mem _)

theorem erase_sublist (record : Record α) (key : String) :
    (record.erase key).Sublist record := by
  induction record with
  | nil => exact List.Sublist.refl _
  | cons head rest ih =>
    rcases head with ⟨k, v⟩
    rw [erase]
    split
    · exact List.sublist_cons_self _ _
    · exact ih.cons_cons _

theorem ordered_nil : Ordered ([] : Record α) :=
  List.Pairwise.nil

theorem Ordered.insert {record : Record α} (h : record.Ordered) (key : String) (value : α) :
    (record.insert key value).Ordered := by
  induction record with
  | nil => exact List.pairwise_singleton _ _
  | cons head rest ih =>
    rcases head with ⟨k, v⟩
    rcases List.pairwise_cons.mp h with ⟨before, ordered⟩
    rw [Record.insert]
    by_cases same : k = key
    · subst same
      rw [if_pos rfl]
      exact List.pairwise_cons.mpr ⟨before, ordered⟩
    · rw [if_neg same]
      by_cases less : key < k
      · rw [if_pos less]
        refine List.pairwise_cons.mpr ⟨?_, h⟩
        intro entry there
        rcases List.mem_cons.mp there with rfl | there
        · exact less
        · exact String.lt_trans less (before entry there)
      · rw [if_neg less]
        refine List.pairwise_cons.mpr ⟨?_, ih ordered⟩
        intro entry there
        rcases mem_insert there with rfl | there
        · exact Std.lt_of_le_of_ne (String.not_lt.mp less) same
        · exact before entry there

theorem Ordered.erase {record : Record α} (h : record.Ordered) (key : String) :
    (record.erase key).Ordered :=
  List.Pairwise.sublist (erase_sublist record key) h

end Record
end TemplateSite
