import TemplateSite.Proofs.Decimal.Integer
import TemplateSite.Proofs.Expression.Grammar

/-!
# Spelling tokens

A token can be spelled in one or more ways, a double in none. Tokens that are spelled in order, with
at least one blank between two of them, are read back as they are.
-/
namespace TemplateSite
open Text

def Mark.spelling : Mark → List Char
  | .dot => ['.']
  | .dots => ['.', '.']
  | .openBracket => ['[']
  | .closeBracket => [']']
  | .openParen => ['(']
  | .closeParen => [')']
  | .pipe => ['|']
  | .colon => [':']
  | .comma => [',']
  | .assign => ['=']

/-- The spellings of a comparison that is not a word. -/
inductive Comparison.Spelled : Comparison → List Char → Prop where
  | eq : Spelled .eq ['=', '=']
  | ne : Spelled .ne ['!', '=']
  | apart : Spelled .ne ['<', '>']
  | lt : Spelled .lt ['<']
  | gt : Spelled .gt ['>']
  | le : Spelled .le ['<', '=']
  | ge : Spelled .ge ['>', '=']

namespace Token

inductive Spelled : Token → List Char → Prop where
  | word {name : String} (valid : Identifier name.toList) : Spelled (.word name) name.toList
  | text {q : Char} {s : List Char} (mark : Reference.isQuote q = true) (absent : q ∉ s) :
    Spelled (.text (String.ofList s)) (q :: (s ++ [q]))
  | int {n : Int64} {digits : List Char} (nonempty : digits ≠ [])
    (each : ∀ d ∈ digits, isDigit d = true) (value : n.toInt = natOfDigits digits) :
    Spelled (.int n) digits
  | negative {n : Int64} {digits : List Char} (nonempty : digits ≠ [])
    (each : ∀ d ∈ digits, isDigit d = true) (value : n.toInt = -natOfDigits digits) :
    Spelled (.int n) ('-' :: digits)
  | mark (m : Mark) : Spelled (.mark m) m.spelling
  | comparison {op : Comparison} {s : List Char} (spelled : op.Spelled s) :
    Spelled (.comparison op) s

/-- The spelling of tokens in order: blanks may stand anywhere around them, and at least one stands
between two of them. -/
inductive Spaced : List Token → List Char → Prop where
  | nil {s : List Char} (blank : ∀ c ∈ s, isBlank c = true) : Spaced [] s
  | cons {t : Token} {ts : List Token} {before s rest : List Char}
    (blank : ∀ c ∈ before, isBlank c = true) (spelled : t.Spelled s) (apart : Apart rest)
    (more : Spaced ts rest) : Spaced (t :: ts) (before ++ s ++ rest)

/-- A character that no literal, mark or operator starts with. -/
def Opening (c : Char) : Prop :=
  Reference.isQuote c = false ∧ c ≠ '.' ∧ markOf? c = none ∧ ∀ s, operator? c s = none

/-- The characters that literals, marks and operators start with. -/
def openingMarks : List Char :=
  ['\x27', '\x22', '.', '[', ']', '(', ')', '|', ':', ',', '=', '!', '<', '>']

theorem opening_of_not_mem {c : Char} (h : c ∉ openingMarks) : Opening c := by
  have ne : ∀ d ∈ openingMarks, c ≠ d := fun d hd hc => h (hc ▸ hd)
  refine ⟨?_, ne '.' (by decide), ?_, ?_⟩
  · rw [Reference.isQuote, Bool.or_eq_false_iff, beq_eq_false_iff_ne, beq_eq_false_iff_ne]
    exact ⟨ne _ (by decide), ne _ (by decide)⟩
  · rw [markOf?.eq_def]
    split
    all_goals first | rfl | exact absurd rfl (ne _ (by decide))
  · intro s
    rw [operator?.eq_def]
    split
    all_goals first | rfl | exact absurd rfl (ne _ (by decide))

/-- What holds of a character and of none of the opening marks. -/
theorem opening_of {p : Char → Bool} (each : openingMarks.all fun c => !p c) {c : Char}
    (h : p c = true) : Opening c := by
  refine opening_of_not_mem ?_
  intro hm
  have := List.all_eq_true.mp each c hm
  rw [h] at this
  cases this

theorem next_of_opening {c : Char} (h : Opening c) (s : List Char) :
    next c s =
      if isDigit c || (c = '-' && startsWithDigit s) then
        (ofNumber (numberRest s).1.1 (c :: (numberRest s).1.2)).map (·, (numberRest s).2)
      else if startsWord c then .ok (.word (String.ofList (c :: (wordRest s).1)), (wordRest s).2)
      else .error (.unexpectedCharacter c) := by
  rcases h with ⟨quote, dot, mark, operator⟩
  rw [next.eq_def, if_neg (by simp [quote]), if_neg dot, mark]
  simp only [operator s]

theorem not_number_of_startsWord {c : Char} (h : startsWord c = true) (s : List Char) :
    (isDigit c || (decide (c = '-') && startsWithDigit s)) = false := by
  have digit : isDigit c = false := by
    by_contra hd
    have hd : c ∈ ['0', '1', '2', '3', '4', '5', '6', '7', '8', '9'] := by
      have hd : '0' ≤ c ∧ c ≤ '9' := by simpa [isDigit] using hd
      have low : 48 ≤ c.toNat := hd.1
      have high : c.toNat ≤ 57 := hd.2
      have codes : c.toNat ∈ [48, 49, 50, 51, 52, 53, 54, 55, 56, 57] := by
        simp only [List.mem_cons, List.not_mem_nil, or_false]
        omega
      rw [← Char.ofNat_toNat c]
      exact List.mem_map_of_mem (f := Char.ofNat) codes
    have none : ['0', '1', '2', '3', '4', '5', '6', '7', '8', '9'].all (fun d => !startsWord d) =
        true := by decide +kernel
    simpa [h] using List.all_eq_true.mp none c hd
  have dash : c ≠ '-' := by
    rintro rfl
    exact absurd h (by decide +kernel)
  simp [digit, dash]

theorem continuesWord_rest {s : List Char} (h : ∀ d ∈ s, continuesWord d = true) :
    wordRest s = (s, []) := by
  have hd : s.dropWhile continuesWord = [] := List.dropWhile_eq_nil_iff.mpr h
  have ht : s.takeWhile continuesWord = s := List.takeWhile_eq_self_iff.mpr h
  rw [wordRest.eq_def, hd, ht]

theorem continuesWord_rest_asking {s : List Char} (h : ∀ d ∈ s, continuesWord d = true) :
    wordRest (s ++ ['?']) = (s ++ ['?'], []) := by
  have stop : continuesWord '?' = false := by decide +kernel
  rw [wordRest.eq_def, List.dropWhile_append_of_pos h, List.takeWhile_append_of_pos h]
  simp [stop]

theorem next_identifier {c : Char} {s : List Char} (h : Identifier (c :: s)) :
    next c s = .ok (.word (String.ofList (c :: s)), []) := by
  have word : ∀ {first : Char}, startsWord first = true → Opening first :=
    opening_of (by decide +kernel)
  cases h with
  | plain first rest =>
    rw [next_of_opening (word first), not_number_of_startsWord first, continuesWord_rest rest,
      if_pos first]
    rfl
  | asking first rest =>
    rw [next_of_opening (word first), not_number_of_startsWord first,
      continuesWord_rest_asking rest, if_pos first]
    rfl

theorem digits_rest {s : List Char} (h : ∀ d ∈ s, isDigit d = true) :
    numberRest s = ((false, s), []) := by
  have hd : s.dropWhile isDigit = [] := List.dropWhile_eq_nil_iff.mpr h
  have ht : s.takeWhile isDigit = s := List.takeWhile_eq_self_iff.mpr h
  rw [numberRest.eq_def, hd, ht]

theorem ofNumber_digits {n : Int64} {d : Char} {digits : List Char}
    (each : ∀ c ∈ d :: digits, isDigit c = true) (value : n.toInt = natOfDigits (d :: digits)) :
    ofNumber false (d :: digits) = .ok (.int n) := by
  have sign := Decimal.splitSign_of_digit (each d (List.mem_cons_self ..)) digits
  have read : Decimal.readInteger? (d :: digits) = some n := by
    rw [Decimal.readInteger?_eq sign (List.cons_ne_nil _ _) each, Decimal.int64?_eq_some_iff]
    exact value
  rw [ofNumber]
  simp [read]

theorem ofNumber_negative {n : Int64} {digits : List Char} (nonempty : digits ≠ [])
    (each : ∀ c ∈ digits, isDigit c = true) (value : n.toInt = -natOfDigits digits) :
    ofNumber false ('-' :: digits) = .ok (.int n) := by
  have sign : Decimal.splitSign ('-' :: digits) = (true, digits) := rfl
  have read : Decimal.readInteger? ('-' :: digits) = some n := by
    rw [Decimal.readInteger?_eq sign nonempty each, Decimal.int64?_eq_some_iff]
    exact value
  rw [ofNumber]
  simp [read]

theorem next_digits {n : Int64} {d : Char} {digits : List Char}
    (each : ∀ c ∈ d :: digits, isDigit c = true) (value : n.toInt = natOfDigits (d :: digits)) :
    next d digits = .ok (.int n, []) := by
  have digit := each d (List.mem_cons_self ..)
  rw [next_of_opening (opening_of (p := isDigit) (by decide) digit), if_pos (by simp [digit]),
    digits_rest fun c hc => each c (List.mem_cons_of_mem _ hc), ofNumber_digits each value]
  rfl

theorem next_negative {n : Int64} {digits : List Char} (nonempty : digits ≠ [])
    (each : ∀ c ∈ digits, isDigit c = true) (value : n.toInt = -natOfDigits digits) :
    next '-' digits = .ok (.int n, []) := by
  have starts : startsWithDigit digits = true := by
    cases digits with
    | nil => exact absurd rfl nonempty
    | cons d digits => exact each d (List.mem_cons_self ..)
  rw [next_of_opening (opening_of (p := (· == '-')) (by decide) rfl), if_pos (by simp [starts]),
    digits_rest each, ofNumber_negative nonempty each value]
  rfl

/-- A token is read from each of its spellings, which starts with no blank. -/
theorem Spelled.next {t : Token} {s : List Char} (h : t.Spelled s) :
    ∃ c rest, s = c :: rest ∧ isBlank c = false ∧ Token.next c rest = .ok (t, []) ∧
      (Reference.isQuote c = true → c ∈ rest) := by
  have notBlank : ∀ {p : Char → Bool} {c : Char}, (∀ n ∈ blankCodes, p (Char.ofNat n) = false) →
      p c = true → isBlank c = false := by
    intro p c each hc
    by_contra hb
    have := of_isBlank (P := fun c => p c = false) each (by simpa using hb)
    rw [hc] at this
    cases this
  have notQuote : ∀ {c : Char} {rest : List Char}, Opening c →
      Reference.isQuote c = true → c ∈ rest := by
    intro c rest ho hq
    rw [ho.1] at hq
    cases hq
  cases h with
  | @word name valid =>
    have first : ∃ c rest, name.toList = c :: rest ∧ startsWord c = true := by
      cases hn : name.toList with
      | nil =>
        rw [hn] at valid
        cases valid
      | cons c rest =>
        rw [hn] at valid
        cases valid with
        | plain first rest => exact ⟨_, _, rfl, first⟩
        | asking first rest => exact ⟨_, _, rfl, first⟩
    rcases first with ⟨c, rest, hn, hc⟩
    rw [hn] at valid
    refine ⟨c, rest, hn, notBlank (p := startsWord) (by decide +kernel) hc, ?_,
      notQuote (opening_of (p := startsWord) (by decide +kernel) hc)⟩
    rw [next_identifier valid, ← hn, String.ofList_toList]
  | @text q inside mark absent =>
    refine ⟨q, inside ++ [q], rfl, notBlank (p := Reference.isQuote) (by decide) mark, ?_, by simp⟩
    rw [Token.next.eq_def, if_pos mark, textRest_closed absent]
  | int nonempty each value =>
    rcases List.exists_cons_of_ne_nil nonempty with ⟨d, digits, rfl⟩
    have digit := each d (List.mem_cons_self ..)
    exact ⟨d, digits, rfl, notBlank (p := isDigit) (by decide) digit, next_digits each value,
      notQuote (opening_of (p := isDigit) (by decide) digit)⟩
  | negative nonempty each value =>
    exact ⟨'-', _, rfl, by decide, next_negative nonempty each value,
      notQuote (opening_of_not_mem (by decide))⟩
  | mark m =>
    cases m with
    | _ => exact ⟨_, _, rfl, by decide, rfl, by decide⟩
  | comparison spelled =>
    cases spelled with
    | _ => exact ⟨_, _, rfl, by decide, rfl, by decide⟩

theorem tokens_spaced {ts : List Token} {s : List Char} (h : Spaced ts s) :
    tokens s = .ok ts := by
  induction h with
  | nil blank => exact tokens_of_blank blank
  | cons blank spelled apart more ih =>
    rcases spelled.next with ⟨c, rest, rfl, hb, hn, hq⟩
    rw [List.append_assoc, tokens_of_blank_append blank, List.cons_append, tokens_cons hb,
      next_append apart fun hquote => Or.inl (hq hquote), hn]
    simp only [Except.map, bind, Except.bind, List.nil_append, ih]

end Token
end TemplateSite
