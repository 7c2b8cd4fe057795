import TemplateSite.Proofs.Decimal.Integer
import TemplateSite.Proofs.Success
import TemplateSite.Render.Evaluate
import TemplateSite.Render.Filter

/-!
# Parts and sizes of sequences

A list is read by a position, by a property, and by a filter. All three find the same items and the
same size. Positions are found at every integer of 64 bits, and in words of 64 bits.
-/
namespace TemplateSite

namespace Value

/-- What is at a position of a list: an item counted from the start, or from the end if the position
is negative, or nothing where the list does not reach. -/
inductive ItemAt (items : List Value) (position : Int64) : Option Value → Prop where
  | fromStart {k : Nat} (h : k < items.length) (place : position.toInt = k) :
    ItemAt items position (some items[k])
  | fromEnd {k : Nat} (h : k < items.length) (place : items.length + position.toInt = k)
    (negative : position.toInt < 0) : ItemAt items position (some items[k])
  | outside (h : position.toInt < -items.length ∨ items.length ≤ position.toInt) :
    ItemAt items position none

/-- What is at a position, found in words of 64 bits: the number of items must be one, and so must
the position counted from the start. A step that leaves the 64 bits has no answer. -/
def itemAtInWords (items : List Value) (position : Int64) : Option (Option Value) := do
  let size ← Decimal.int64? items.length
  let index ←
    if position.toInt < 0 then Decimal.int64? (size.toInt + position.toInt) else some position
  return if index.toInt < 0 then none else items[index.toInt.toNat]?

/-- A value is the integer that counts so many things, of which there are at most as many as 64 bits
can count. -/
def Counts (n : Nat) (v : Value) : Prop :=
  ∃ i : Int64, v = .int i ∧ (Decimal.Fits n → i.toInt = n)

section Items

variable {items : List Value} {position : Int64}

theorem itemAt?_of_start {k : Nat} (place : position.toInt = k) :
    itemAt? items position = items[k]? := by
  have nonneg : ¬ position.toInt < 0 := by omega
  rw [itemAt?, if_neg nonneg, if_neg nonneg, place, Int.toNat_natCast]

theorem itemAt?_of_end {k : Nat} (place : items.length + position.toInt = k)
    (negative : position.toInt < 0) : itemAt? items position = items[k]? := by
  rw [itemAt?, if_pos negative, place, if_neg (by omega), Int.toNat_natCast]

theorem itemAt?_of_before (before : position.toInt < -items.length) :
    itemAt? items position = none := by
  have negative : position.toInt < 0 := by omega
  rw [itemAt?, if_pos negative, if_pos (by omega)]

theorem itemAt_itemAt? (items : List Value) (position : Int64) :
    ItemAt items position (itemAt? items position) := by
  by_cases negative : position.toInt < 0
  · by_cases before : position.toInt < -items.length
    · rw [itemAt?_of_before before]
      exact .outside (.inl before)
    · rcases Int.eq_ofNat_of_zero_le (a := items.length + position.toInt) (by omega) with ⟨k, place⟩
      have within : k < items.length := by omega
      rw [itemAt?_of_end place negative, List.getElem?_eq_getElem within]
      exact .fromEnd within place negative
  · rcases Int.eq_ofNat_of_zero_le (not_lt.mp negative) with ⟨k, place⟩
    rw [itemAt?_of_start place]
    by_cases within : k < items.length
    · rw [List.getElem?_eq_getElem within]
      exact .fromStart within place
    · rw [List.getElem?_eq_none (not_lt.mp within)]
      exact .outside (.inr (by omega))

theorem ItemAt.eq {found : Option Value} (h : ItemAt items position found) :
    found = itemAt? items position := by
  cases h with
  | fromStart h place => rw [itemAt?_of_start place, List.getElem?_eq_getElem h]
  | fromEnd h place negative => rw [itemAt?_of_end place negative, List.getElem?_eq_getElem h]
  | outside h =>
    rcases h with before | after
    · rw [itemAt?_of_before before]
    · rw [itemAt?_of_start (k := position.toInt.toNat) (by omega),
        List.getElem?_eq_none (by omega)]

/-- No step leaves the 64 bits: the position from the start lies between the given one and the
size. -/
theorem itemAtInWords_eq (sized : Decimal.Fits items.length) (position : Int64) :
    itemAtInWords items position = some (itemAt? items position) := by
  have word := Decimal.toInt_ofInt sized
  have low := (Decimal.fits_toInt position).1
  have high := (Decimal.fits_toInt position).2
  simp only [itemAtInWords, itemAt?, Decimal.int64?_of_fits sized, Option.bind_eq_bind,
    Option.bind_some, Option.pure_def, word]
  by_cases negative : position.toInt < 0
  · have index : Decimal.Fits (items.length + position.toInt) := by
      refine ⟨by omega, ?_⟩
      have := sized.2
      omega
    simp only [if_pos negative, Decimal.int64?_of_fits index, Option.bind_some,
      Decimal.toInt_ofInt index]
  · simp only [if_neg negative]

theorem counts_ofCount (n : Nat) : Counts n (ofCount n) :=
  ⟨_, rfl, fun fits => Decimal.toInt_ofInt fits⟩

end Items

/-! ## Properties -/

section Properties

variable {items : List Value} {fields : Record Value}

theorem step?_position (items : List Value) (position : Int64) :
    (list items).step? (.int position) = itemAt? items position := by
  rw [step?.eq_def, get?]
  cases itemAt? items position <;> rfl

theorem itemAt?_first : itemAt? items 0 = items.head? := by
  rw [itemAt?_of_start (k := 0) rfl, List.head?_eq_getElem?]

theorem itemAt?_last : itemAt? items (-1) = items.getLast? := by
  rw [List.getLast?_eq_getElem?]
  cases items with
  | nil => rfl
  | cons item rest =>
    have place : ((item :: rest).length : Int) + (-1 : Int64).toInt = rest.length := by
      have last : (-1 : Int64).toInt = -1 := by decide
      rw [List.length_cons, last]
      omega
    exact itemAt?_of_end place (by decide)

theorem step?_first : (list items).step? (.text "first") = itemAt? items 0 :=
  itemAt?_first.symm

theorem step?_last : (list items).step? (.text "last") = itemAt? items (-1) :=
  itemAt?_last.symm

theorem step?_own {name : String} {own : Value} (h : fields.get? name = some own) :
    (object fields).step? (.text name) = some own := by
  rw [step?, get?, h]

theorem step?_size_object (h : fields.get? "size" = none) :
    (object fields).step? (.text "size") = some (ofCount fields.length) := by
  simp only [step?, property?, get?, h]

end Properties

end Value

/-! ## Filters -/

section Filters

variable (strict : Bool) (now : Calendar.Moment) (items args : List Value)

theorem applyFilter_first : applyFilter strict now "first" (.list items) args =
    .ok ((Value.itemAt? items 0).getD .nil) := by
  rw [Value.itemAt?_first]
  rfl

theorem applyFilter_last : applyFilter strict now "last" (.list items) args =
    .ok ((Value.itemAt? items (-1)).getD .nil) := by
  rw [Value.itemAt?_last]
  rfl

end Filters

/-! ## Paths -/

/-- Where a path leads: to a value, or nowhere after its root. -/
def Context.Leads (strict : Bool) (ctx : Context) (root : String) (segments : List Segment)
    (found : Option Value) : Prop :=
  ∃ start, ctx.get? root = some start ∧ Segment.follow strict ctx start segments = .ok found

section Paths

variable {strict : Bool} {ctx : Context} {root : String} {segment : Segment}
  {segments more : List Segment} {v key : Value}

theorem Segment.follow_cons (known : segment.evalKey strict ctx = .ok key) (start : Value)
    (rest : List Segment) : Segment.follow strict ctx start (segment :: rest) =
      (start.step? key).elim (.ok none) fun part => Segment.follow strict ctx part rest := by
  rw [Segment.follow, known]
  simp only [bind, Except.bind]
  cases start.step? key <;> rfl

theorem Segment.follow_append {start : Value}
    (h : Segment.follow strict ctx start segments = .ok (some v)) :
    Segment.follow strict ctx start (segments ++ more) = Segment.follow strict ctx v more := by
  induction segments generalizing start with
  | nil =>
    rw [Segment.follow] at h
    rw [List.nil_append, Option.some.inj (Except.ok.inj h)]
  | cons segment rest ih =>
    have evaluated := h
    rw [Segment.follow, bind_eq_ok_iff] at evaluated
    rcases evaluated with ⟨key, known, -⟩
    rw [Segment.follow_cons known] at h
    rw [List.cons_append, Segment.follow_cons known]
    cases found : start.step? key with
    | none =>
      rw [found] at h
      cases h
    | some part =>
      rw [found] at h
      exact ih h

namespace Context.Leads

/-- A path that leads to a value leads on, or nowhere, by one more step. -/
theorem step (h : ctx.Leads strict root segments (some v))
    (known : segment.evalKey strict ctx = .ok key) :
    ctx.Leads strict root (segments ++ [segment]) (v.step? key) := by
  rcases h with ⟨start, defined, follows⟩
  refine ⟨start, defined, ?_⟩
  rw [Segment.follow_append follows, Segment.follow_cons known]
  cases v.step? key with
  | none => rfl
  | some part =>
    rw [Option.elim_some, Segment.follow]

theorem index {e : Expr} (h : ctx.Leads strict root segments (some v))
    (known : e.eval strict ctx = .ok key) :
    ctx.Leads strict root (segments ++ [.index e]) (v.step? key) :=
  h.step (by rw [Segment.evalKey, known])

theorem property (h : ctx.Leads strict root segments (some v)) (name : String) :
    ctx.Leads strict root (segments ++ [.key name]) (v.step? (.text name)) :=
  h.step (by rw [Segment.evalKey])

/-- The value of a path is what it leads to; a path that leads nowhere is undefined. -/
theorem eval {found : Option Value} (h : ctx.Leads strict root segments found) :
    (Expr.path root segments).eval strict ctx =
      definedOr strict (Expr.path root segments).shown found := by
  rcases h with ⟨start, defined, follows⟩
  rw [Expr.eval, defined]
  simp only [follows, bind, Except.bind]

end Context.Leads

open Value

/-- Paths and filters agree on sequences. On a list a position finds the item that it counts from
the start or from the end, and nothing outside, in words of 64 bits as well; the properties for the
two ends find what is at the first and at the last position, and the filters give it, or nil where
there is nothing. Property and filter give the same size of a list, a text, and an object that has
no such field of its own. A field of an object comes before the property of its name. -/
theorem sequences_agree (h : ctx.Leads strict root segments (some v)) (strictFilters : Bool)
    (now : Calendar.Moment) (args : List Value) :
    (∀ items, v = .list items →
      (∀ e i, e.eval strict ctx = .ok (.int i) → ∃ found, ItemAt items i found ∧
        ctx.Leads strict root (segments ++ [.index e]) found ∧
        (Decimal.Fits items.length → itemAtInWords items i = some found)) ∧
      (∀ name position, (name, position) ∈ [("first", (0 : Int64)), ("last", -1)] →
        ∃ found, ItemAt items position found ∧
          (∀ e, e.eval strict ctx = .ok (.int position) →
            ctx.Leads strict root (segments ++ [.index e]) found) ∧
          ctx.Leads strict root (segments ++ [.key name]) found ∧
          applyFilter strictFilters now name v args = .ok (found.getD .nil)) ∧
      ∃ size, Counts items.length size ∧
        ctx.Leads strict root (segments ++ [.key "size"]) (some size) ∧
        applyFilter strictFilters now "size" v args = .ok size) ∧
    (∀ s, v = .text s → ∃ size, Counts s.length size ∧
      ctx.Leads strict root (segments ++ [.key "size"]) (some size) ∧
      applyFilter strictFilters now "size" v args = .ok size) ∧
    (∀ fields : Record Value, v = .object fields →
      (∃ size, Counts fields.length size ∧
        (fields.get? "size" = none →
          ctx.Leads strict root (segments ++ [.key "size"]) (some size)) ∧
        applyFilter strictFilters now "size" v args = .ok size) ∧
      ∀ name ∈ ["size", "first", "last"], ∀ own, fields.get? name = some own →
        ctx.Leads strict root (segments ++ [.key name]) (some own)) ∧
    ∀ steps found, ctx.Leads strict root steps found →
      (Expr.path root steps).eval strict ctx =
        definedOr strict (Expr.path root steps).shown found := by
  refine ⟨?_, ?_, ?_, fun _ _ => Context.Leads.eval⟩
  · rintro items rfl
    refine ⟨?_, ?_, ?_⟩
    · intro e i known
      exact ⟨_, itemAt_itemAt? items i, step?_position items i ▸ h.index known,
        fun sized => itemAtInWords_eq sized i⟩
    · intro name position there
      refine ⟨_, itemAt_itemAt? items position, ?_, ?_⟩
      · intro e known
        exact step?_position items position ▸ h.index known
      · simp only [List.mem_cons, Prod.mk.injEq, List.not_mem_nil, or_false] at there
        rcases there with ⟨rfl, rfl⟩ | ⟨rfl, rfl⟩
        · exact ⟨step?_first ▸ h.property "first", applyFilter_first ..⟩
        · exact ⟨step?_last ▸ h.property "last", applyFilter_last ..⟩
    · exact ⟨_, counts_ofCount _, h.property "size", rfl⟩
  · rintro s rfl
    exact ⟨_, counts_ofCount _, h.property "size", rfl⟩
  · rintro fields rfl
    refine ⟨⟨_, counts_ofCount _, ?_, rfl⟩, ?_⟩
    · intro free
      exact step?_size_object free ▸ h.property "size"
    · intro name _ own there
      exact step?_own there ▸ h.property name

/-- A list of two items inside an object with a field `size`: the least position of 64 bits is
outside, the end of the list is nil and not undefined, and the object's size is its field. -/
theorem sequences_agree_of_list :
    let items : List Value := [.int 7, .nil]
    let fields : Record Value := [("items", .list items), ("size", .text "two")]
    let ctx : Context := .initial (.object [("data", .object fields)])
    let path (segments : List Segment) : Outcome Value :=
      (Expr.path "data" segments).eval true ctx
    ctx.Leads true "data" [] (some (.object fields)) ∧
      ctx.Leads true "data" [.key "items"] (some (.list items)) ∧
      path [.key "size"] = .ok (.text "two") ∧
      path [.key "items", .key "last"] = .ok .nil ∧
      path [.key "items", .index (.literal (.int Int64.minValue))] =
        .fault (.undefinedVariable "data.items[Int(-9223372036854775808)]") ∧
      applyFilter false .epoch "first" (.list items) [] = .ok (.int 7) := by
  intro items fields ctx path
  have start : ctx.Leads true "data" [] (some (.object fields)) := ⟨_, rfl, rfl⟩
  have list : ctx.Leads true "data" [.key "items"] (some (.list items)) := ⟨_, rfl, rfl⟩
  have object := sequences_agree start false .epoch []
  have sequence := sequences_agree list false .epoch []
  rcases sequence.1 items rfl with ⟨positions, ends, -⟩
  have evaluated := sequence.2.2.2
  refine ⟨start, list, ?_, ?_, ?_, ?_⟩
  · exact evaluated _ _ ((object.2.2.1 fields rfl).2 "size" (by simp) _ rfl)
  · rcases ends "last" (-1) (by simp) with ⟨found, place, -, leads, -⟩
    rw [place.eq] at leads
    exact evaluated _ _ leads
  · rcases positions (.literal (.int Int64.minValue)) _ (by rw [Expr.eval]) with
      ⟨found, place, leads, -⟩
    rw [place.eq, itemAt?_of_before (by decide)] at leads
    refine (evaluated _ _ leads).trans ?_
    exact congrArg (fun shown => Outcome.fault (.undefinedVariable shown)) (by decide)
  · rcases ends "first" 0 (by simp) with ⟨found, place, -, -, given⟩
    rw [place.eq] at given
    exact given

end Paths
end TemplateSite
