import TemplateSite.Proofs.Success
import TemplateSite.Template.Fault

/-!
# Slices by octet offsets

A text is addressed by the number of octets before a place when it is spelled in UTF-8. Taking a
slice breaks down if an offset lies behind the end of the text or inside a character, or if the
slice would end before it starts; so does a subtraction below zero. A slice between the offsets of
two places is the text between them.
-/
namespace TemplateSite.Offset

variable {E : Type}

/-- The number of octets that spell a text. -/
def size : List Char → Nat
  | [] => 0
  | c :: s => c.utf8Size + size s

def dropTo (n : Nat) : List Char → Except (Failure E) (List Char)
  | [] => if n = 0 then .ok [] else .error .breakdown
  | c :: s =>
    if n = 0 then .ok (c :: s)
    else if c.utf8Size ≤ n then dropTo (n - c.utf8Size) s
    else .error .breakdown

def takeTo (n : Nat) : List Char → Except (Failure E) (List Char)
  | [] => if n = 0 then .ok [] else .error .breakdown
  | c :: s =>
    if n = 0 then .ok []
    else if c.utf8Size ≤ n then (takeTo (n - c.utf8Size) s).map (c :: ·)
    else .error .breakdown

def slice (first last : Nat) (s : List Char) : Except (Failure E) (List Char) :=
  if first ≤ last then dropTo first s >>= takeTo (last - first) else .error .breakdown

/-- A difference that may not fall below zero. -/
def minus (n m : Nat) : Except (Failure E) Nat :=
  if m ≤ n then .ok (n - m) else .error .breakdown

/-- The offset of the first place where a text starts with `p`. -/
def find (p : List Char) : List Char → Option Nat
  | [] => if p.isEmpty then some 0 else none
  | c :: s => if p.isPrefixOf (c :: s) then some 0 else (find p s).map (c.utf8Size + ·)

def findChar (p : Char → Bool) : List Char → Option Nat
  | [] => none
  | c :: s => if p c then some 0 else (findChar p s).map (c.utf8Size + ·)

@[simp] theorem size_nil : size [] = 0 := rfl

@[simp] theorem size_cons (c : Char) (s : List Char) : size (c :: s) = c.utf8Size + size s := rfl

@[simp] theorem size_append (s t : List Char) : size (s ++ t) = size s + size t := by
  induction s with
  | nil => simp
  | cons c s ih => simp [ih, Nat.add_assoc]

theorem size_eq (s : List Char) : size s = (String.ofList s).utf8ByteSize := by
  induction s with
  | nil => rfl
  | cons c s ih =>
    rw [size_cons, String.ofList_cons, String.utf8ByteSize_append, String.utf8ByteSize_singleton, ih]

theorem size_sub (s t : List Char) : size (s ++ t) - size t = size s := by
  rw [size_append, Nat.add_sub_cancel]

theorem size_pos {s : List Char} (h : s ≠ []) : 0 < size s := by
  cases s with
  | nil => exact absurd rfl h
  | cons c s =>
    have := c.utf8Size_pos
    rw [size_cons]
    omega

@[simp] theorem dropTo_size (s t : List Char) :
    dropTo (size s) (s ++ t) = (.ok t : Except (Failure E) (List Char)) := by
  induction s with
  | nil => cases t <;> rfl
  | cons c s ih =>
    have := c.utf8Size_pos
    rw [List.cons_append, dropTo, size_cons, if_neg (by omega), if_pos (by omega),
      Nat.add_sub_cancel_left, ih]

@[simp] theorem takeTo_size (s t : List Char) :
    takeTo (size s) (s ++ t) = (.ok s : Except (Failure E) (List Char)) := by
  induction s with
  | nil => cases t <;> rfl
  | cons c s ih =>
    have := c.utf8Size_pos
    rw [List.cons_append, takeTo, size_cons, if_neg (by omega), if_pos (by omega),
      Nat.add_sub_cancel_left, ih]
    rfl

theorem slice_size (s t u : List Char) {last : Nat} (h : last = size s + size t) :
    slice (size s) last (s ++ (t ++ u)) = (.ok t : Except (Failure E) (List Char)) := by
  rw [slice, if_pos (by omega), dropTo_size, h, Nat.add_sub_cancel_left]
  exact takeTo_size t u

/-- An offset from which a text goes on is that of a place in it. -/
theorem dropTo_eq_ok {n : Nat} {s t : List Char}
    (h : dropTo n s = (.ok t : Except (Failure E) (List Char))) : ∃ u, s = u ++ t ∧ n = size u := by
  induction s generalizing n with
  | nil =>
    rw [dropTo] at h
    split at h
    · rename_i hn
      cases h
      exact ⟨[], rfl, hn⟩
    · cases h
  | cons c s ih =>
    rw [dropTo] at h
    split at h
    · rename_i hn
      cases h
      exact ⟨[], rfl, hn⟩
    · split at h
      · rename_i hc
        rcases ih h with ⟨u, rfl, hu⟩
        refine ⟨c :: u, rfl, ?_⟩
        rw [size_cons, ← hu]
        omega
      · cases h

/-- A text goes on from the offsets that are valid positions of its string: not behind its end and
not inside a character. -/
theorem dropTo_isValid {n : Nat} (s : String) :
    (∃ t, dropTo n s.toList = (.ok t : Except (Failure E) (List Char))) ↔
      String.Pos.Raw.IsValid s ⟨n⟩ := by
  rw [String.Pos.Raw.isValid_iff_exists_append]
  constructor
  · rintro ⟨t, h⟩
    rcases dropTo_eq_ok h with ⟨u, hs, rfl⟩
    refine ⟨String.ofList u, String.ofList t, ?_, ?_⟩
    · rw [← String.ofList_append, ← hs, String.ofList_toList]
    · rw [size_eq]
      rfl
  · rintro ⟨first, last, rfl, hn⟩
    have hsize : n = size first.toList := by
      rw [size_eq, String.ofList_toList]
      exact congrArg String.Pos.Raw.byteIdx hn
    refine ⟨last.toList, ?_⟩
    rw [String.toList_append, hsize, dropTo_size]

/-- Of two texts at the front of the same text, the one with fewer octets is at the front of the
other. -/
theorem eq_append_of_size_le {s t u v : List Char} (h : s ++ t = u ++ v) (hs : size s ≤ size u) :
    ∃ w, u = s ++ w ∧ t = w ++ v := by
  rcases List.append_eq_append_iff.mp h with ⟨w, rfl, rfl⟩ | ⟨w, rfl, rfl⟩
  · exact ⟨w, rfl, rfl⟩
  · cases w with
    | nil => exact ⟨[], by simp⟩
    | cons c w =>
      have := size_pos (s := c :: w) (by simp)
      rw [size_append] at hs
      omega

theorem takeTo_eq_ok {n : Nat} {s t : List Char}
    (h : takeTo n s = (.ok t : Except (Failure E) (List Char))) : ∃ u, s = t ++ u ∧ n = size t := by
  induction s generalizing n t with
  | nil =>
    rw [takeTo] at h
    split at h
    · rename_i hn
      cases h
      exact ⟨[], rfl, hn⟩
    · cases h
  | cons c s ih =>
    rw [takeTo] at h
    split at h
    · rename_i hn
      cases h
      exact ⟨c :: s, rfl, hn⟩
    · split at h
      · rename_i hc
        rcases map_eq_ok_iff.mp h with ⟨t, ht, rfl⟩
        rcases ih ht with ⟨u, rfl, hu⟩
        refine ⟨u, rfl, ?_⟩
        rw [size_cons, ← hu]
        omega
      · cases h

/-- A slice can be taken between two valid positions that are in order. -/
theorem slice_isValid {first last : Nat} (s : String) :
    (∃ t, slice first last s.toList = (.ok t : Except (Failure E) (List Char))) ↔
      first ≤ last ∧ String.Pos.Raw.IsValid s ⟨first⟩ ∧ String.Pos.Raw.IsValid s ⟨last⟩ := by
  rw [← dropTo_isValid (E := E) s, ← dropTo_isValid (E := E) s]
  constructor
  · rintro ⟨t, h⟩
    rw [slice] at h
    split at h
    · rename_i hle
      rcases bind_eq_ok_iff.mp h with ⟨rest, hrest, ht⟩
      rcases dropTo_eq_ok hrest with ⟨u, hs, rfl⟩
      rcases takeTo_eq_ok ht with ⟨v, rfl, hn⟩
      have hlast : last = size (u ++ t) := by
        rw [size_append]
        omega
      refine ⟨hle, ⟨_, hrest⟩, v, ?_⟩
      rw [hs, hlast, ← List.append_assoc, dropTo_size]
    · cases h
  · rintro ⟨hle, ⟨rest, hrest⟩, ⟨v, hv⟩⟩
    rcases dropTo_eq_ok hrest with ⟨u, hs, rfl⟩
    rcases dropTo_eq_ok hv with ⟨u', hs', rfl⟩
    rcases eq_append_of_size_le (hs.symm.trans hs') hle with ⟨w, rfl, rfl⟩
    refine ⟨w, ?_⟩
    rw [hs, slice_size u w v (size_append u w)]

theorem minus_eq {n m d : Nat} (h : n = d + m) : minus n m = (.ok d : Except (Failure E) Nat) := by
  rw [minus, if_pos (by omega)]
  congr 1
  omega

theorem isPrefixOf_pair {a b c : Char} {s : List Char} :
    [a, b].isPrefixOf (c :: s) = true ↔ c = a ∧ s.head? = some b := by
  cases s with
  | nil => simp [List.isPrefixOf]
  | cons d s =>
    simp only [List.isPrefixOf, Bool.and_true, Bool.and_eq_true, beq_iff_eq, List.head?_cons,
      Option.some.injEq]
    exact and_congr eq_comm eq_comm

theorem find_pair (a b c : Char) (s : List Char) : find [a, b] (c :: s) =
    if c = a ∧ s.head? = some b then some 0 else (find [a, b] s).map (c.utf8Size + ·) := by
  simp only [find, isPrefixOf_pair]

theorem findChar_eq (p : Char → Bool) (s : List Char) : findChar p s =
    if (s.dropWhile fun c => !p c).isEmpty then none
    else some (size (s.takeWhile fun c => !p c)) := by
  induction s with
  | nil => rfl
  | cons c s ih =>
    rw [findChar]
    cases hc : p c with
    | true => simp [hc]
    | false =>
      rw [if_neg (by simp), ih, List.dropWhile_cons_of_pos (by simp [hc]),
        List.takeWhile_cons_of_pos (by simp [hc])]
      split
      · rfl
      · rfl

end TemplateSite.Offset
