import TemplateSite.Data.Shape
import TemplateSite.Proofs.Data.Obstacles

/-!
# Describing values and building them again

A value describes itself, and what is built from its description is the value again. So building is
done after the first time: what it gives is described and built again as it is.
-/
namespace TemplateSite

/-- The fields of every object in a value, at any depth, form a record. -/
inductive Value.InOrder : Value → Prop where
  | nil : InOrder .nil
  | bool (b : Bool) : InOrder (.bool b)
  | int (n : Int64) : InOrder (.int n)
  | float (x : Float) : InOrder (.float x)
  | text (s : String) : InOrder (.text s)
  | list {items : List Value} (h : ∀ item ∈ items, InOrder item) : InOrder (.list items)
  | object {fields : List (String × Value)} (ordered : Record.Ordered fields)
    (h : ∀ field ∈ fields, InOrder field.2) : InOrder (.object fields)

namespace Description

/-! ## The description of a value -/

section Again

theorem buildItems_describeItems {items : List Value}
    (h : ∀ item ∈ items, item.describe.build = .ok item) :
    buildItems (Value.describeItems items) = .ok items := by
  induction items with
  | nil => rw [Value.describeItems, buildItems]
  | cons item rest ih =>
    rcases List.forall_mem_cons.mp h with ⟨first, later⟩
    rw [Value.describeItems, buildItems, first, ih later]
    rfl

theorem buildParts_entry {value : Value} (h : value.describe.build = .ok value)
    (record : Record Value) (name : String) (rest : List (MapPart × Description)) :
    buildParts ⟨record, none⟩ (entryParts (some (.text name), value.describe) ++ rest) =
      buildParts ⟨record.insert name value, none⟩ rest := by
  rw [entryParts, List.cons_append, List.cons_append, List.nil_append, buildParts, buildPart, build]
  change buildParts ⟨record, some name⟩ ((.value, value.describe) :: rest) = _
  rw [buildParts, buildPart, h]
  rfl

/-- Fields in order are put into the map one after the other, each at the end. -/
theorem buildParts_describeFields {fields : Record Value} {front : Record Value}
    (ordered : Record.Ordered (front ++ fields))
    (h : ∀ field ∈ fields, field.2.describe.build = .ok field.2) :
    buildParts ⟨front, none⟩ ((Value.describeFields fields).flatMap entryParts) =
      .ok ⟨front ++ fields, none⟩ := by
  induction fields generalizing front with
  | nil => rw [Value.describeFields, List.flatMap_nil, buildParts, List.append_nil]
  | cons field rest ih =>
    rcases field with ⟨name, value⟩
    rcases List.forall_mem_cons.mp h with ⟨first, later⟩
    have last : ∀ entry ∈ front, entry.1 < name := fun entry there =>
      (List.pairwise_append.mp ordered).2.2 entry there _ List.mem_cons_self
    rw [Value.describeFields, List.flatMap_cons, buildParts_entry first,
      Record.insert_of_last last]
    rw [List.append_cons front (name, value) rest] at ordered ⊢
    exact ih ordered later

theorem build_describe {v : Value} (h : v.InOrder) : v.describe.build = .ok v := by
  induction h with
  | nil | bool | int | float | text => rw [Value.describe, build]
  | list _ ih =>
    rw [Value.describe, build, buildItems_describeItems ih]
    rfl
  | object ordered _ ih =>
    rw [Value.describe, map, build, MapBuilder.empty,
      buildParts_describeFields (List.nil_append _ ▸ ordered) ih]
    rfl

end Again

/-! ## What is built -/

mutual

theorem LaysOut.inOrder : ∀ {d : Description} {v : Value}, LaysOut d v → v.InOrder
  | _, _, .truth _ => .bool _
  | _, _, .signed _ | _, _, .unsigned _ => .int _
  | _, _, .large _ | _, _, .float _ => .float _
  | _, _, .text _ => .text _
  | _, _, .bytes _ => .list (List.forall_mem_map.mpr fun n _ => .int n)
  | _, _, .nothing => .nil
  | _, _, .wrapped h => h.inOrder
  | _, _, .sequence h => .list h.inOrder
  | _, _, .mapping given held =>
    .object held.ordered fun _ there => given.inOrder _ (held.mem_entries there)
  | _, _, .structure given held =>
    .object held.ordered fun _ there => given.inOrder _ (held.mem_entries there)

theorem LaysOutAll.inOrder : ∀ {items : List Description} {values : List Value},
    LaysOutAll items values → ∀ v ∈ values, v.InOrder
  | _, _, .nil => List.forall_mem_nil _
  | _, _, .cons first later => List.forall_mem_cons.mpr ⟨first.inOrder, later.inOrder⟩

theorem Takes.inOrder : ∀ {waiting next : Option String} {part : MapPart × Description}
    {given : List (String × Value)}, Takes waiting part next given →
    ∀ entry ∈ given, entry.2.InOrder
  | _, _, _, _, .key _ _ => List.forall_mem_nil _
  | _, _, _, _, .value h => List.forall_mem_singleton.mpr h.inOrder

theorem Gives.inOrder : ∀ {waiting : Option String} {parts : List (MapPart × Description)}
    {entries : List (String × Value)}, Gives waiting parts entries →
    ∀ entry ∈ entries, entry.2.InOrder
  | _, _, _, .done _ => List.forall_mem_nil _
  | _, _, _, .part first later => List.forall_mem_append.mpr ⟨first.inOrder, later.inOrder⟩

theorem GivesFields.inOrder : ∀ {fields : List (String × Description)}
    {entries : List (String × Value)}, GivesFields fields entries →
    ∀ entry ∈ entries, entry.2.InOrder
  | _, _, .done => List.forall_mem_nil _
  | _, _, .field h later => List.forall_mem_cons.mpr ⟨h.inOrder, later.inOrder⟩

end

theorem inOrder_of_build {d : Description} {v : Value} (h : d.build = .ok v) : v.InOrder :=
  ((decides_build d).of_ok h).inOrder

end Description

/-- Describing a value and building it again gives exactly the values whose objects are records, so
it gives back all that is ever built. -/
theorem build_describe_exact : (∀ v : Value, v.describe.build = .ok v ↔ v.InOrder) ∧
    ∀ (d : Description) (v : Value), d.build = .ok v → v.describe.build = d.build := by
  refine ⟨?_, ?_⟩
  · intro v
    exact ⟨Description.inOrder_of_build, Description.build_describe⟩
  · intro d v built
    rw [built, Description.build_describe (Description.inOrder_of_build built)]

/-- A map whose keys come in no order, two of them for one name, around a structure in a list: it is
built in order, and built again as it is. -/
theorem build_describe_exact_of_map :
    let d : Description := .mapping [(.key, .text "b"), (.value, .sequence [.float 0.5, .structure
      [("x", .nothing)]]), (.key, .signed 10), (.value, .truth true), (.key, .text "10"),
      (.value, .unsigned 7)]
    let v : Value := .object [("10", .int 7), ("b", .list [.float 0.5, .object [("x", .nil)]])]
    d.build = .ok v ∧ v.describe.build = .ok v := by
  intro d v
  have built : d.build = .ok v := rfl
  exact ⟨built, (build_describe_exact.2 d v built).trans built⟩

/-! ## Integers of all widths -/

namespace Shape

/-- The integer of a shape, if it has one of at most 64 bits. -/
def integer? : Shape → Option Int
  | .int8 n => some n.toInt
  | .int16 n => some n.toInt
  | .int32 n => some n.toInt
  | .int64 n => some n.toInt
  | .uint8 n => some n.toNat
  | .uint16 n => some n.toNat
  | .uint32 n => some n.toNat
  | .uint64 n => some n.toNat
  | _ => none

variable {shape : Shape} {n : Int}

theorem describe_of_integer (h : shape.integer? = some n) :
    (∃ k : Int64, k.toInt = n ∧ shape.describe = .signed k) ∨
      ∃ m : UInt64, (m.toNat : Int) = n ∧ shape.describe = .unsigned m := by
  cases shape with
  | int8 k | int16 k | int32 k | int64 k =>
    cases h
    exact Or.inl ⟨_, by simp, rfl⟩
  | uint8 m | uint16 m | uint32 m | uint64 m =>
    cases h
    exact Or.inr ⟨_, by simp, rfl⟩
  | _ => cases h

/-- An integer keeps its value whatever its width is, and becomes a double where it is too large. -/
theorem build_of_integer (h : shape.integer? = some n) :
    (∀ i : Int64, i.toInt = n → shape.describe.build = .ok (.int i)) ∧
      (Int64.maxValue.toInt < n →
        ∃ m : UInt64, (m.toNat : Int) = n ∧ shape.describe.build = .ok (.float m.toFloat)) := by
  rcases describe_of_integer h with ⟨k, rfl, described⟩ | ⟨m, rfl, described⟩
  · rw [described, Description.build]
    constructor
    · intro i same
      rw [Int64.toInt_inj.mp same]
    · intro more
      exact absurd k.toInt_le (not_le.mpr more)
  · rw [described, Description.build]
    constructor
    · intro i same
      rw [Description.ofUnsigned_of_fits same]
    · intro more
      exact ⟨m, rfl, by rw [Description.ofUnsigned_of_large more]⟩

end Shape
end TemplateSite
