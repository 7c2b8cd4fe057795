import Mathlib.Data.String.Basic

/-!
# The order of texts and of their octets

Texts are ordered by code points. Their spellings in UTF-8 are in the same order octet by octet:
of two code points the smaller one has the smaller spelling, whatever follows it.
-/
namespace TemplateSite.Text

/-- The octets that spell a text in UTF-8. -/
def octets (s : String) : List UInt8 :=
  s.toUTF8.data.toList

theorem octets_ofList (s : List Char) :
    octets (String.ofList s) = s.flatMap String.utf8EncodeChar := by
  rw [octets, String.toUTF8_eq_toByteArray, String.toByteArray_ofList, List.utf8Encode]
  simp

/-- An octet that is smaller decides the order, whatever follows it. -/
theorem ofNat_cons_lt {a b : Nat} (h : a < b) (hb : b < 256) (x y : List UInt8) :
    UInt8.ofNat a :: x < UInt8.ofNat b :: y := by
  rw [List.cons_lt_cons_iff, UInt8.lt_iff_toNat_lt, UInt8.toNat_ofNat', UInt8.toNat_ofNat',
    Nat.mod_eq_of_lt (by omega), Nat.mod_eq_of_lt hb]
  exact .inl h

/-- Below a bound the spelling of the smaller number is the smaller one, whatever follows it. -/
def Ascending (bound : Nat) (spelling : Nat → List UInt8) : Prop :=
  ∀ v w, v < w → w < bound → ∀ x y, spelling v ++ x < spelling w ++ y

theorem ascending_first (bound mark : Nat) (h : bound + mark ≤ 256) :
    Ascending bound fun v => [UInt8.ofNat (v % bound + mark)] := by
  intro v w less below x y
  beta_reduce
  rw [Nat.mod_eq_of_lt (by omega), Nat.mod_eq_of_lt below]
  exact ofNat_cons_lt (by omega) (by omega) x y

/-- An octet that continues a spelling adds a digit to the base of 64. -/
theorem Ascending.continued {bound : Nat} {spelling : Nat → List UInt8}
    (h : Ascending bound spelling) :
    Ascending (bound * 64) fun v => spelling (v / 64) ++ [UInt8.ofNat (v % 64 + 0x80)] := by
  intro v w less below x y
  beta_reduce
  rw [List.append_assoc, List.append_assoc]
  by_cases same : v / 64 = w / 64
  · rw [same]
    exact List.append_left_lt (ofNat_cons_lt (by omega) (by omega) x y)
  · exact h _ _ (by omega) (by omega) _ _

/-- Spellings below and above a number, if those below it are smaller. -/
theorem Ascending.split {last bound : Nat} {low high : Nat → List UInt8}
    (hl : Ascending (last + 1) low) (hh : Ascending bound high)
    (between : ∀ v w, v ≤ last → last < w → w < bound → ∀ x y, low v ++ x < high w ++ y) :
    Ascending bound fun v => if v ≤ last then low v else high v := by
  intro v w less below x y
  beta_reduce
  by_cases hw : w ≤ last
  · rw [if_pos (by omega), if_pos hw]
    exact hl v w less (by omega) x y
  · rw [if_neg hw]
    by_cases hv : v ≤ last
    · rw [if_pos hv]
      exact between v w hv (by omega) below x y
    · rw [if_neg hv]
      exact hh v w less below x y

/-- The spelling of a code point as a function of its number. -/
theorem ascending_utf8 : Ascending 0x110000 fun v =>
    if v ≤ 0x7f then [UInt8.ofNat v]
    else if v ≤ 0x7ff then [UInt8.ofNat (v / 64 % 0x20 + 0xc0), UInt8.ofNat (v % 0x40 + 0x80)]
    else if v ≤ 0xffff then
      [UInt8.ofNat (v / 4096 % 0x10 + 0xe0), UInt8.ofNat (v / 64 % 0x40 + 0x80),
        UInt8.ofNat (v % 0x40 + 0x80)]
    else
      [UInt8.ofNat (v / 262144 % 0x08 + 0xf0), UInt8.ofNat (v / 4096 % 0x40 + 0x80),
        UInt8.ofNat (v / 64 % 0x40 + 0x80), UInt8.ofNat (v % 0x40 + 0x80)] := by
  have one : Ascending (0x7f + 1) fun v => [UInt8.ofNat v] :=
    fun v w less below x y => ofNat_cons_lt less (by omega) x y
  have two := (ascending_first 0x20 0xc0 (by decide)).continued
  have three := (ascending_first 0x10 0xe0 (by decide)).continued.continued
  have four := (ascending_first 0x08 0xf0 (by decide)).continued.continued.continued
  simp only [Nat.div_div_eq_div_mul, List.cons_append, List.nil_append] at two three four
  refine one.split (.split two (.split three ?_ ?_) ?_) ?_
  · exact fun v w less below => four v w less (by omega)
  · intro v w _ _ _ x y
    exact ofNat_cons_lt (by omega) (by omega) _ _
  · intro v w _ _ _ x y
    split
    · exact ofNat_cons_lt (by omega) (by omega) _ _
    · exact ofNat_cons_lt (by omega) (by omega) _ _
  · intro v w _ _ _ x y
    split
    · exact ofNat_cons_lt (by omega) (by omega) _ _
    · split
      · exact ofNat_cons_lt (by omega) (by omega) _ _
      · exact ofNat_cons_lt (by omega) (by omega) _ _

/-- The smaller code point has the smaller spelling, whatever follows it. -/
theorem utf8EncodeChar_append_lt {c d : Char} (h : c < d) (x y : List UInt8) :
    String.utf8EncodeChar c ++ x < String.utf8EncodeChar d ++ y := by
  have bound : d.val.toNat < 0x110000 := by
    have := d.valid
    omega
  exact ascending_utf8 c.val.toNat d.val.toNat h bound x y

theorem flatMap_utf8EncodeChar_lt {s t : List Char} (h : s < t) :
    s.flatMap String.utf8EncodeChar < t.flatMap String.utf8EncodeChar := by
  induction h with
  | @nil c t =>
    rcases List.exists_cons_of_ne_nil (String.utf8EncodeChar_ne_nil (c := c)) with ⟨a, rest, first⟩
    rw [List.flatMap_cons, first]
    exact List.nil_lt_cons _ _
  | rel less => exact utf8EncodeChar_append_lt less _ _
  | cons _ ih => exact List.append_left_lt ih

theorem octets_lt_iff {a b : String} : octets a < octets b ↔ a < b := by
  have ascending : ∀ {a b : String}, a < b → octets a < octets b := by
    intro a b less
    rw [← String.ofList_toList (s := a), ← String.ofList_toList (s := b), octets_ofList,
      octets_ofList]
    exact flatMap_utf8EncodeChar_lt less
  refine ⟨?_, ascending⟩
  intro less
  rcases lt_trichotomy a b with h | rfl | h
  · exact h
  · exact absurd less (List.lt_irrefl _)
  · exact absurd less (List.lt_asymm (ascending h))

end TemplateSite.Text
