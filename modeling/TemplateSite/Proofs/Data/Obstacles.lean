import TemplateSite.Proofs.Data.Record
import TemplateSite.Proofs.Decimal.Integer
import TemplateSite.Proofs.Success
import TemplateSite.Data.Description

/-!
# What stands in the way of a value

A description is visited in order, and whatever has no counterpart among values is an obstacle. A
description with obstacles is refused for the first of them. One without obstacles is laid out as a
value: items in their order, and under every name of a map or a structure the last value that is
given for it.
-/
namespace TemplateSite

/-- The names by which keys are known: texts as they are, integers in decimal, and truth values in
words. -/
inductive Value.Names : Value → String → Prop where
  | text (s : String) : Names (.text s) s
  | int (n : Int64) : Names (.int n) (toString n.toInt)
  | yes : Names (.bool true) "true"
  | no : Names (.bool false) "false"

namespace Description

/-- The kind of value that a description is about, unless it fails by itself. -/
def kind? : Description → Option Value.Kind
  | .truth _ => some .boolean
  | .signed _ => some .integer
  | .unsigned n => some (if (n.toNat : Int) ≤ Int64.maxValue.toInt then .integer else .float)
  | .wide _ => none
  | .float _ => some .float
  | .text _ => some .string
  | .bytes _ => some .array
  | .nothing => some .nil
  | .wrapped d => kind? d
  | .sequence _ => some .array
  | .mapping _ => some .object
  | .structure _ => some .object
  | .failing _ => none

/-- What keeps a description from being a key, other than its own obstacles. -/
def keyObstacles (d : Description) : List ValueFault :=
  match d.kind? with
  | some kind => if kind ∈ [.string, .integer, .boolean] then [] else [.keyKind kind]
  | none => []

mutual

/-- Everything that a visit in order meets and that no value can stand for. -/
def obstacles : Description → List ValueFault
  | .wide typeName => [.unsupported typeName]
  | .failing message => [.custom message]
  | .wrapped d => obstacles d
  | .sequence items => obstaclesOfItems items
  | .mapping parts => obstaclesOfParts false parts
  | .structure fields => obstaclesOfFields fields
  | _ => []

def obstaclesOfItems : List Description → List ValueFault
  | [] => []
  | d :: rest => obstacles d ++ obstaclesOfItems rest

/-- What a visit of the parts of a map meets; the flag says whether a key waits for its value. -/
def obstaclesOfParts (waiting : Bool) : List (MapPart × Description) → List ValueFault
  | [] => []
  | part :: rest => obstaclesOfPart waiting part ++ obstaclesOfParts (part.1 == .key) rest

/-- What a visit of a part of a map meets: a key is checked after it, and whether a key waits is
checked after a value. -/
def obstaclesOfPart (waiting : Bool) : MapPart × Description → List ValueFault
  | (.key, d) => obstacles d ++ keyObstacles d
  | (.value, d) => obstacles d ++ if waiting then [] else [.missingKey]

def obstaclesOfFields : List (String × Description) → List ValueFault
  | [] => []
  | field :: rest => obstaclesOfField field ++ obstaclesOfFields rest

def obstaclesOfField : String × Description → List ValueFault
  | (_, d) => obstacles d

end

mutual

/-- The value that a description lays out. -/
inductive LaysOut : Description → Value → Prop where
  | truth (b : Bool) : LaysOut (.truth b) (.bool b)
  | signed (n : Int64) : LaysOut (.signed n) (.int n)
  | unsigned {n : UInt64} {i : Int64} (same : i.toInt = n.toNat) : LaysOut (.unsigned n) (.int i)
  | large {n : UInt64} (more : Int64.maxValue.toInt < n.toNat) :
    LaysOut (.unsigned n) (.float n.toFloat)
  | float (x : Float) : LaysOut (.float x) (.float x)
  | text (s : String) : LaysOut (.text s) (.text s)
  | bytes {octets : List UInt8} {items : List Int64}
    (same : items.map Int64.toInt = octets.map fun octet => (octet.toNat : Int)) :
    LaysOut (.bytes octets) (.list (items.map .int))
  | nothing : LaysOut .nothing .nil
  | wrapped {d : Description} {v : Value} (h : LaysOut d v) : LaysOut (.wrapped d) v
  | sequence {items : List Description} {values : List Value} (h : LaysOutAll items values) :
    LaysOut (.sequence items) (.list values)
  | mapping {parts : List (MapPart × Description)} {entries : List (String × Value)}
    {record : Record Value} (given : Gives none parts entries) (held : record.HoldsLast entries) :
    LaysOut (.mapping parts) (.object record)
  | structure {fields : List (String × Description)} {entries : List (String × Value)}
    {record : Record Value} (given : GivesFields fields entries)
    (held : record.HoldsLast entries) : LaysOut (.structure fields) (.object record)

inductive LaysOutAll : List Description → List Value → Prop where
  | nil : LaysOutAll [] []
  | cons {d : Description} {v : Value} {rest : List Description} {values : List Value}
    (first : LaysOut d v) (later : LaysOutAll rest values) :
    LaysOutAll (d :: rest) (v :: values)

/-- What a part of a map does to the name that waits for its value, and the entries that it gives. A
key waits, in place of one before it; a value is given for the name that waits, and then none
does. -/
inductive Takes : Option String → MapPart × Description → Option String →
    List (String × Value) → Prop where
  | key {waiting : Option String} {d : Description} {key : Value} {name : String}
    (h : LaysOut d key) (names : key.Names name) : Takes waiting (.key, d) (some name) []
  | value {d : Description} {v : Value} {name : String} (h : LaysOut d v) :
    Takes (some name) (.value, d) none [(name, v)]

/-- The entries that the parts of a map give, in order. -/
inductive Gives : Option String → List (MapPart × Description) → List (String × Value) → Prop where
  | done (waiting : Option String) : Gives waiting [] []
  | part {waiting next : Option String} {part : MapPart × Description}
    {rest : List (MapPart × Description)} {given entries : List (String × Value)}
    (first : Takes waiting part next given) (later : Gives next rest entries) :
    Gives waiting (part :: rest) (given ++ entries)

/-- The entries that the fields of a structure give. -/
inductive GivesFields : List (String × Description) → List (String × Value) → Prop where
  | done : GivesFields [] []
  | field {d : Description} {v : Value} {name : String} {rest : List (String × Description)}
    {entries : List (String × Value)} (h : LaysOut d v) (later : GivesFields rest entries) :
    GivesFields ((name, d) :: rest) ((name, v) :: entries)

end

section Parts

variable {d : Description} {v : Value}

theorem Takes.waiting_iff {waiting next : Option String} {part : MapPart × Description}
    {given : List (String × Value)} (h : Takes waiting part next given) :
    next.isSome = (part.1 == .key) := by
  cases h <;> rfl

theorem kind?_of_laysOut : ∀ {d : Description} {v : Value}, LaysOut d v → d.kind? = some v.kind
  | _, _, .truth _ | _, _, .signed _ | _, _, .float _ | _, _, .text _ | _, _, .bytes _
  | _, _, .nothing | _, _, .sequence _ | _, _, .mapping _ _ | _, _, .structure _ _ => rfl
  | _, _, .unsigned (i := i) same => by
    have within := (Decimal.fits_toInt i).2
    rw [kind?, if_pos (same ▸ within)]
    rfl
  | _, _, .large more => by
    rw [kind?, if_neg (not_le.mpr more)]
    rfl
  | _, _, .wrapped h => by
    rw [kind?]
    exact kind?_of_laysOut h

theorem laysOut_ofUnsigned (n : UInt64) : LaysOut (.unsigned n) (.ofUnsigned n) := by
  rw [Value.ofUnsigned]
  split
  · rename_i i found
    exact .unsigned (Decimal.int64?_eq_some_iff.mp found)
  · rename_i none
    have least : Int64.minValue.toInt ≤ 0 := by decide
    refine .large (not_le.mp fun within => ?_)
    exact Decimal.int64?_eq_none_iff.mp none ⟨least.trans (Int.natCast_nonneg _), within⟩

theorem toInt_octets (octets : List UInt8) :
    (octets.map fun octet => Int64.ofNat octet.toNat).map Int64.toInt =
      octets.map fun octet => (octet.toNat : Int) := by
  rw [List.map_map]
  refine List.map_congr_left fun octet _ => ?_
  have small := octet.toNat_lt
  exact Int64.toInt_ofNat_of_lt (by omega)

theorem laysOut_bytes (octets : List UInt8) : LaysOut (.bytes octets)
    (.list (octets.map fun octet => .int (Int64.ofNat octet.toNat))) := by
  have items := LaysOut.bytes (toInt_octets octets)
  rwa [List.map_map] at items

/-- A value is taken for a key if it has a name, and otherwise its kind is an obstacle. -/
theorem decides_addKey (h : LaysOut d v) (builder : MapBuilder) :
    Decides (keyObstacles d) (builder.addKey v) fun next =>
      ∃ name, v.Names name ∧ next = { builder with pending := some name } := by
  rw [keyObstacles, kind?_of_laysOut h]
  cases v with
  | text s => exact .ok ⟨s, .text s, rfl⟩
  | int n => exact .ok ⟨_, .int n, rfl⟩
  | bool b =>
    cases b with
    | true => exact .ok ⟨_, .yes, rfl⟩
    | false => exact .ok ⟨_, .no, rfl⟩
  | _ => exact .error _ _

theorem decides_addValue (builder : MapBuilder) (v : Value) :
    Decides (if builder.pending.isSome then [] else [.missingKey]) (builder.addValue v) fun next =>
      ∃ name, builder.pending = some name ∧ next = ⟨builder.record.insert name v, none⟩ := by
  rcases builder with ⟨record, _ | name⟩
  · exact .error _ _
  · exact .ok ⟨name, rfl, rfl⟩

end Parts

/-! ## Building is decided by the obstacles -/

mutual

theorem decides_build : ∀ d : Description, Decides d.obstacles d.build d.LaysOut
  | .truth b => .ok (.truth b)
  | .signed n => .ok (.signed n)
  | .unsigned n => .ok (laysOut_ofUnsigned n)
  | .wide _ => .error _ _
  | .float x => .ok (.float x)
  | .text s => .ok (.text s)
  | .bytes octets => .ok (laysOut_bytes octets)
  | .nothing => .ok .nothing
  | .wrapped d => by
    rw [obstacles, build]
    exact (decides_build d).mono fun _ => .wrapped
  | .sequence items => by
    rw [obstacles, build]
    exact (decides_buildItems items).map fun _ => .sequence
  | .mapping parts => by
    rw [obstacles, build]
    refine (decides_buildParts parts .empty).map ?_
    rintro builder ⟨entries, given, held⟩
    exact .mapping given (held ▸ Record.holdsLast_ofEntries entries)
  | .structure fields => by
    rw [obstacles, build]
    refine (decides_buildFields fields []).map ?_
    rintro record ⟨entries, given, held⟩
    exact .structure given (held ▸ Record.holdsLast_ofEntries entries)
  | .failing _ => .error _ _

theorem decides_buildItems : ∀ items : List Description,
    Decides (obstaclesOfItems items) (buildItems items) (LaysOutAll items)
  | [] => .ok .nil
  | d :: rest => by
    rw [obstaclesOfItems, buildItems]
    refine (decides_build d).bind fun v first => ?_
    exact (decides_buildItems rest).map fun values later => .cons first later

theorem decides_buildParts : ∀ (parts : List (MapPart × Description)) (builder : MapBuilder),
    Decides (obstaclesOfParts builder.pending.isSome parts) (buildParts builder parts) fun after =>
      ∃ entries, Gives builder.pending parts entries ∧ after.record = builder.record.addAll entries
  | [], builder => .ok ⟨[], .done _, rfl⟩
  | part :: rest, builder => by
    rw [obstaclesOfParts, buildParts]
    refine (decides_buildPart part builder).bind ?_
    rintro next ⟨given, first, added⟩
    rw [← first.waiting_iff]
    refine (decides_buildParts rest next).mono ?_
    rintro after ⟨entries, later, held⟩
    exact ⟨given ++ entries, .part first later, by rw [held, added, Record.addAll_append]⟩

theorem decides_buildPart : ∀ (part : MapPart × Description) (builder : MapBuilder),
    Decides (obstaclesOfPart builder.pending.isSome part) (buildPart builder part) fun next =>
      ∃ given, Takes builder.pending part next.pending given ∧
        next.record = builder.record.addAll given
  | (.key, d), builder => by
    rw [obstaclesOfPart, buildPart]
    refine (decides_build d).bind fun v h => (decides_addKey h builder).mono ?_
    rintro _ ⟨name, names, rfl⟩
    exact ⟨[], .key h names, rfl⟩
  | (.value, d), builder => by
    rw [obstaclesOfPart, buildPart]
    refine (decides_build d).bind fun v h => (decides_addValue builder v).mono ?_
    rintro _ ⟨name, waits, rfl⟩
    exact ⟨[(name, v)], waits ▸ .value h, rfl⟩

theorem decides_buildFields : ∀ (fields : List (String × Description)) (record : Record Value),
    Decides (obstaclesOfFields fields) (buildFields record fields) fun after =>
      ∃ entries, GivesFields fields entries ∧ after = record.addAll entries
  | [], record => .ok ⟨[], .done, rfl⟩
  | field :: rest, record => by
    rw [obstaclesOfFields, buildFields]
    refine (decides_buildField field record).bind ?_
    rintro next ⟨v, h, rfl⟩
    refine (decides_buildFields rest _).mono ?_
    rintro after ⟨entries, later, held⟩
    exact ⟨(field.1, v) :: entries, .field h later, held⟩

theorem decides_buildField : ∀ (field : String × Description) (record : Record Value),
    Decides (obstaclesOfField field) (buildField record field) fun after =>
      ∃ v, field.2.LaysOut v ∧ after = record.insert field.1 v
  | (name, d), record => by
    rw [obstaclesOfField, buildField]
    exact (decides_build d).map fun v h => ⟨v, h, rfl⟩

end

/-! ## What is laid out is built -/

theorem ofUnsigned_of_fits {n : UInt64} {i : Int64} (same : i.toInt = n.toNat) :
    Value.ofUnsigned n = .int i := by
  rw [Value.ofUnsigned, Decimal.int64?_eq_some_iff.mpr same]

theorem ofUnsigned_of_large {n : UInt64} (more : Int64.maxValue.toInt < n.toNat) :
    Value.ofUnsigned n = .float n.toFloat := by
  have outside : ¬ Decimal.Fits n.toNat := fun fits => absurd fits.2 (not_le.mpr more)
  rw [Value.ofUnsigned, Decimal.int64?_eq_none_iff.mpr outside]

theorem eq_of_toInt_octets {octets : List UInt8} {items : List Int64}
    (same : items.map Int64.toInt = octets.map fun octet => (octet.toNat : Int)) :
    items = octets.map fun octet => Int64.ofNat octet.toNat :=
  List.map_injective_iff.mpr (fun _ _ => Int64.toInt_inj.mp)
    (same.trans (toInt_octets octets).symm)

theorem keyText?_of_names {v : Value} {name : String} (h : v.Names name) :
    v.keyText? = .ok name := by
  cases h <;> rfl

mutual

theorem build_of_laysOut : ∀ {d : Description} {v : Value}, LaysOut d v → d.build = .ok v
  | _, _, .truth _ | _, _, .signed _ | _, _, .float _ | _, _, .text _ | _, _, .nothing => rfl
  | _, _, .unsigned same => by rw [build, ofUnsigned_of_fits same]
  | _, _, .large more => by rw [build, ofUnsigned_of_large more]
  | _, _, .bytes same => by
    rw [build, eq_of_toInt_octets same, List.map_map]
    rfl
  | _, _, .wrapped h => by
    rw [build]
    exact build_of_laysOut h
  | _, _, .sequence h => by
    rw [build, buildItems_of_laysOutAll h]
    rfl
  | _, _, .mapping given held => by
    rcases buildParts_of_gives given [] with ⟨pending, built⟩
    rw [build, MapBuilder.empty, built, held.eq]
    rfl
  | _, _, .structure given held => by
    rw [build, buildFields_of_gives given [], held.eq]
    rfl

theorem buildItems_of_laysOutAll : ∀ {items : List Description} {values : List Value},
    LaysOutAll items values → buildItems items = .ok values
  | _, _, .nil => rfl
  | _, _, .cons first later => by
    rw [buildItems, build_of_laysOut first, buildItems_of_laysOutAll later]
    rfl

theorem buildPart_of_takes : ∀ {waiting next : Option String} {part : MapPart × Description}
    {given : List (String × Value)}, Takes waiting part next given → ∀ record : Record Value,
    buildPart ⟨record, waiting⟩ part = .ok ⟨record.addAll given, next⟩
  | _, _, _, _, .key h names, _ => by
    rw [buildPart, build_of_laysOut h]
    exact map_eq_ok_iff.mpr ⟨_, keyText?_of_names names, rfl⟩
  | _, _, _, _, .value h, _ => by
    rw [buildPart, build_of_laysOut h]
    rfl

theorem buildParts_of_gives : ∀ {waiting : Option String} {parts : List (MapPart × Description)}
    {entries : List (String × Value)}, Gives waiting parts entries → ∀ record : Record Value,
    ∃ pending, buildParts ⟨record, waiting⟩ parts = .ok ⟨record.addAll entries, pending⟩
  | _, _, _, .done waiting, record => ⟨waiting, rfl⟩
  | _, _, _, @Gives.part _ _ _ _ given _ first later, record => by
    rcases buildParts_of_gives later (record.addAll given) with ⟨pending, built⟩
    refine ⟨pending, ?_⟩
    rw [buildParts, buildPart_of_takes first record, Record.addAll_append]
    exact built

theorem buildFields_of_gives : ∀ {fields : List (String × Description)}
    {entries : List (String × Value)}, GivesFields fields entries → ∀ record : Record Value,
    buildFields record fields = .ok (record.addAll entries)
  | _, _, .done, _ => rfl
  | _, _, .field h later, record => by
    rw [buildFields, buildField, build_of_laysOut h]
    exact buildFields_of_gives later _

end

end Description

/-- Building is decided by the obstacles that a visit in order meets. It fails exactly if there are
any, for the first of them. Without any there is a value, and a value is built exactly if it is laid
out: items are in order, integers are exact unless they exceed the 64 bits, when they are doubles,
and a map or a structure has exactly the names that are given values, each with the last one. -/
theorem build_decided (d : Description) :
    (∀ fault, d.build = .error fault ↔ d.obstacles.head? = some fault) ∧
    (d.obstacles = [] → ∃ v, d.build = .ok v ∧ d.LaysOut v) ∧
    ∀ v, d.build = .ok v ↔ d.LaysOut v := by
  have decided := Description.decides_build d
  refine ⟨fun _ => decided.eq_error_iff, ?_, ?_⟩
  · intro clear
    rw [clear] at decided
    exact decided.exists_ok
  · intro v
    exact ⟨decided.of_ok, Description.build_of_laysOut⟩

/-- A map in which a key is replaced, a name is given twice, and a key is left at the end; and a
list in which a value has no key, but fails before that is seen. -/
theorem build_decided_of_parts :
    let parts : Description := .mapping [(.key, .signed 2), (.value, .nothing), (.key, .text "lost"),
      (.key, .wrapped (.text "2")), (.value, .unsigned 18446744073709551615), (.key, .truth true)]
    let items : Description := .sequence [parts, .mapping [(.key, .truth true), (.value, .text "a"),
      (.value, .failing "no value")], .wide "i128"]
    parts.obstacles = [] ∧ (∃ v, parts.build = .ok v) ∧
      parts.LaysOut (.object [("2", .float (18446744073709551615 : UInt64).toFloat)]) ∧
      items.obstacles = [.custom "no value", .missingKey, .unsupported "i128"] ∧
      items.build = .error (.custom "no value") := by
  intro parts items
  have clear : parts.obstacles = [] := rfl
  have met : items.obstacles = [.custom "no value", .missingKey, .unsupported "i128"] := rfl
  rcases build_decided parts with ⟨-, succeeds, laidOut⟩
  rcases succeeds clear with ⟨v, built, -⟩
  exact ⟨clear, ⟨v, built⟩, (laidOut _).mp rfl, met,
    ((build_decided items).1 _).mpr (met ▸ rfl)⟩

end TemplateSite
