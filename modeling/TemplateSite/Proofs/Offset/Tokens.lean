import TemplateSite.Proofs.Offset.Slice
import TemplateSite.Proofs.Template.Closing
import TemplateSite.Proofs.Template.Regular

/-!
# Reading tokens by index

Expressions are read from an array of characters, with an index that runs over it. An access behind
the end, or a part of the array that does not lie in it, breaks the reading down. It never does, and
the tokens are those that are read from the text itself.
-/
namespace TemplateSite.Offset
open TemplateSite.Text

variable {ε : Type}

def charAt (chars : List Char) (i : Nat) : Except (Failure ε) Char :=
  match chars[i]? with
  | some c => .ok c
  | none => .error .breakdown

def charsFrom (chars : List Char) (i : Nat) : Except (Failure ε) (List Char) :=
  if i ≤ chars.length then .ok (chars.drop i) else .error .breakdown

def charsBetween (chars : List Char) (i j : Nat) : Except (Failure ε) (List Char) :=
  if i ≤ j ∧ j ≤ chars.length then .ok ((chars.drop i).take (j - i)) else .error .breakdown

/-- The index of the next character that is not of a kind. -/
def skipWhile (p : Char → Bool) (chars : List Char) (i : Nat) : Nat :=
  if h : i < chars.length then
    if p chars[i] then skipWhile p chars (i + 1) else i
  else i
termination_by chars.length - i

/-- The operator that starts with a character, by the character after it, and its width. -/
def operatorAt : Char → Option Char → Option (Token × Nat)
  | '=', some '=' => some (.comparison .eq, 2)
  | '!', some '=' => some (.comparison .ne, 2)
  | '<', some '>' => some (.comparison .ne, 2)
  | '<', some '=' => some (.comparison .le, 2)
  | '>', some '=' => some (.comparison .ge, 2)
  | '<', _ => some (.comparison .lt, 1)
  | '>', _ => some (.comparison .gt, 1)
  | '=', _ => some (.mark .assign, 1)
  | _, _ => none

def textAt (chars : List Char) (i : Nat) (q : Char) : Except (Failure SyntaxFault) (Token × Nat) := do
  let rest ← charsFrom chars i
  match rest.findIdx? (· == q) with
  | none => throw (.fault .unterminatedString)
  | some n =>
    let text ← charsBetween chars i (i + n)
    return (.text (String.ofList text), i + n + 1)

def numberAt (chars : List Char) (i : Nat) : Except (Failure SyntaxFault) (Token × Nat) := do
  let whole := skipWhile isDigit chars (i + 1)
  let isFloat := chars[whole]? == some '.' && (chars[whole + 1]?).any isDigit
  let last := if isFloat then skipWhile isDigit chars (whole + 1) else whole
  let text ← charsBetween chars i last
  let token ← (Token.ofNumber isFloat text).mapError .fault
  return (token, last)

def wordAt (chars : List Char) (i : Nat) : Except (Failure SyntaxFault) (Token × Nat) := do
  let last := skipWhile Token.continuesWord chars i
  let last := if chars[last]? = some '?' then last + 1 else last
  let text ← charsBetween chars i last
  return (.word (String.ofList text), last)

/-- The token that starts at the index of a character that is not blank, and the index after it. -/
def nextAt (chars : List Char) (i : Nat) (c : Char) : Except (Failure SyntaxFault) (Token × Nat) :=
  if Reference.isQuote c then textAt chars (i + 1) c
  else if c = '.' then
    if chars[i + 1]? = some '.' then .ok (.mark .dots, i + 2) else .ok (.mark .dot, i + 1)
  else
    match Token.markOf? c with
    | some m => .ok (.mark m, i + 1)
    | none =>
      if c = '=' ∨ c = '!' ∨ c = '<' ∨ c = '>' then
        match operatorAt c chars[i + 1]? with
        | some (token, width) => .ok (token, i + width)
        | none => .error (.fault (.unexpectedCharacter c))
      else if isDigit c || (c = '-' && (chars[i + 1]?).any isDigit) then numberAt chars i
      else if Token.startsWord c then wordAt chars i
      else .error (.fault (.unexpectedCharacter c))

/-- The tokens from an index on. A token that takes no character breaks the reading down. -/
def tokensFrom (chars : List Char) (i : Nat) : Except (Failure SyntaxFault) (List Token) :=
  if i < chars.length then
    match charAt chars i with
    | .error failure => .error failure
    | .ok c =>
      if isBlank c then tokensFrom chars (i + 1)
      else
        match nextAt chars i c with
        | .error failure => .error failure
        | .ok (token, j) =>
          if i < j then (tokensFrom chars j).map (token :: ·) else .error .breakdown
  else .ok []
termination_by chars.length - i

theorem charAt_append (u s : List Char) (c : Char) :
    charAt (u ++ c :: s) u.length = (.ok c : Except (Failure ε) Char) := by
  rw [charAt, List.getElem?_append_right (Nat.le_refl _), Nat.sub_self]
  rfl

theorem charsFrom_append (u s : List Char) {i : Nat} (h : i = u.length) :
    charsFrom (u ++ s) i = (.ok s : Except (Failure ε) (List Char)) := by
  rw [charsFrom, if_pos (by simp [h]), h, List.drop_left]

theorem charsBetween_append (u t s : List Char) {i j : Nat} (hi : i = u.length)
    (hj : j = i + t.length) :
    charsBetween (u ++ (t ++ s)) i j = (.ok t : Except (Failure ε) (List Char)) := by
  rw [charsBetween, if_pos (by simp [hi, hj]), hi, List.drop_left, hj, hi, Nat.add_sub_cancel_left,
    List.take_left]

theorem skipWhile_append (p : Char → Bool) (u s : List Char) {i : Nat} (h : i = u.length) :
    skipWhile p (u ++ s) i = i + (s.takeWhile p).length := by
  induction s generalizing u i with
  | nil =>
    rw [skipWhile, dif_neg (by simp [h])]
    simp
  | cons c s ih =>
    have hi : i < (u ++ c :: s).length := by simp [h]
    have hc : (u ++ c :: s)[i] = c := by simp [h]
    rw [skipWhile, dif_pos hi, hc]
    cases hp : p c with
    | true =>
      have hnext := ih (u ++ [c]) (i := i + 1) (by simp [h])
      rw [List.append_assoc, List.singleton_append] at hnext
      rw [if_pos rfl, hnext, List.takeWhile_cons_of_pos hp, List.length_cons]
      omega
    | false => rw [if_neg (by simp), List.takeWhile_cons_of_neg (by simp [hp])]; rfl

/-- What is read of a text, with the index at which the reading of an array arrives. -/
def arrival (chars : List Char) (found : Except SyntaxFault (Token × List Char)) :
    Except (Failure SyntaxFault) (Token × Nat) :=
  (found.map fun (token, rest) => (token, chars.length - rest.length)).mapError .fault

theorem arrival_ok (u s rest : List Char) (token : Token) {j : Nat} (h : j = u.length + s.length) :
    arrival (u ++ (s ++ rest)) (.ok (token, rest)) = .ok (token, j) := by
  have hj : (u ++ (s ++ rest)).length - rest.length = j := by
    simp only [List.length_append]
    omega
  rw [← hj]
  rfl

theorem getElem?_after (u s : List Char) (k : Nat) : (u ++ s)[u.length + k]? = s[k]? := by
  rw [List.getElem?_append_right (Nat.le_add_right ..), Nat.add_sub_cancel_left]

theorem findIdx?_closed {q : Char} {inside : List Char} (hi : q ∉ inside) (rest : List Char) :
    (inside ++ q :: rest).findIdx? (· == q) = some inside.length := by
  induction inside with
  | nil => rw [List.nil_append, List.findIdx?_cons, if_pos (by simp)]; rfl
  | cons c inside ih =>
    rw [List.mem_cons, not_or] at hi
    rw [List.cons_append, List.findIdx?_cons, if_neg (by simpa using Ne.symm hi.1), ih hi.2]
    rfl

theorem textAt_eq (u s : List Char) (q c : Char) :
    textAt (u ++ c :: s) (u.length + 1) q = arrival (u ++ c :: s) (Token.textRest q s) := by
  have hchars : u ++ c :: s = (u ++ [c]) ++ s := by simp
  rw [textAt, hchars, charsFrom_append (u ++ [c]) s (by simp)]
  by_cases hs : q ∈ s
  · rcases List.eq_append_cons_of_mem hs with ⟨inside, after, rfl, hi⟩
    have hafter : inside ++ q :: after = (inside ++ [q]) ++ after := by simp
    rw [Token.textRest_closed hi]
    simp only [bind, Except.bind, findIdx?_closed hi]
    rw [charsBetween_append (u ++ [c]) inside (q :: after) (by simp) rfl, hafter,
      arrival_ok (u ++ [c]) (inside ++ [q]) after _ rfl]
    simp [pure, Except.pure, Nat.add_assoc]
  · have hnone : s.findIdx? (· == q) = none := by
      rw [List.findIdx?_eq_none_iff]
      intro d hd
      simpa using fun h : d = q => hs (h ▸ hd)
    rw [Token.textRest_of_not_mem hs]
    simp only [bind, Except.bind, hnone]
    rfl

theorem startsWithDigit_eq (s : List Char) :
    Token.startsWithDigit s = (s[0]?).any isDigit := by
  cases s <;> rfl

/-- What stands behind the characters of a kind that follow a character. -/
theorem getElem?_dropWhile (p : Char → Bool) (u s : List Char) (c : Char) (k : Nat) :
    (u ++ c :: s)[u.length + 1 + (s.takeWhile p).length + k]? = (s.dropWhile p)[k]? := by
  have h := getElem?_after (u ++ c :: s.takeWhile p) (s.dropWhile p) k
  rw [List.append_assoc, List.cons_append, List.takeWhile_append_dropWhile] at h
  rw [← h]
  congr 1
  simp only [List.length_append, List.length_cons]
  omega

theorem number_arrival (u : List Char) {s text rest : List Char} {c : Char} {last : Nat}
    (ht : c :: s = text ++ rest) (hl : last = u.length + text.length) (isFloat : Bool) :
    (do
      let text ← charsBetween (u ++ c :: s) u.length last
      let token ← (Token.ofNumber isFloat text).mapError Failure.fault
      return (token, last)) =
    arrival (u ++ c :: s) ((Token.ofNumber isFloat text).map (·, rest)) := by
  rw [ht, charsBetween_append u text rest rfl hl]
  cases hn : Token.ofNumber isFloat text with
  | error fault => simp [bind, Except.bind, hn, arrival, mapError_error, Except.map]
  | ok token =>
    have ha := arrival_ok u text rest token hl
    simp [bind, Except.bind, hn, mapError_ok, Except.map, pure, Except.pure, ← ha]

theorem word_arrival (u : List Char) {s text rest : List Char} {c : Char} {last : Nat}
    (ht : c :: s = text ++ rest) (hl : last = u.length + text.length) :
    (do
      let text ← charsBetween (u ++ c :: s) u.length last
      return (Token.word (String.ofList text), last)) =
    arrival (u ++ c :: s) (.ok (.word (String.ofList text), rest)) := by
  rw [ht, charsBetween_append u text rest rfl hl, arrival_ok u text rest _ hl]
  rfl

theorem numberAt_eq (u s : List Char) (c : Char) :
    numberAt (u ++ c :: s) u.length = arrival (u ++ c :: s)
      ((Token.ofNumber (Token.numberRest s).1.1 (c :: (Token.numberRest s).1.2)).map
        (·, (Token.numberRest s).2)) := by
  have digits : skipWhile isDigit (u ++ c :: s) (u.length + 1) =
      u.length + 1 + (s.takeWhile isDigit).length := by
    have h := skipWhile_append isDigit (u ++ [c]) s (i := u.length + 1) (by simp)
    rwa [List.append_assoc, List.singleton_append] at h
  have hs := List.takeWhile_append_dropWhile (p := isDigit) (l := s)
  have after := getElem?_dropWhile isDigit u s c
  have point : (u ++ c :: s)[u.length + 1 + (s.takeWhile isDigit).length]? =
      (s.dropWhile isDigit)[0]? := after 0
  rw [numberAt, Token.numberRest]
  simp only [digits, point, after]
  generalize s.takeWhile isDigit = whole at *
  have hwhole : c :: s = (c :: whole) ++ s.dropWhile isDigit := by rw [List.cons_append, hs]
  have hlast : u.length + 1 + whole.length = u.length + (c :: whole).length := by
    rw [List.length_cons]
    omega
  -- Without a point before a digit the number ends here.
  have short := number_arrival u hwhole hlast false
  cases htail : s.dropWhile isDigit with
  | nil =>
    rw [htail] at short
    simpa using short
  | cons d rest =>
    rw [htail] at short hs
    by_cases hd : d = '.'
    · subst hd
      cases hr : Token.startsWithDigit rest with
      | false =>
        have hnone : (rest[0]?).any isDigit = false := by rw [← startsWithDigit_eq, hr]
        simpa [hr, hnone] using short
      | true =>
        have hsome : (rest[0]?).any isDigit = true := by rw [← startsWithDigit_eq, hr]
        have fraction : skipWhile isDigit (u ++ c :: s) (u.length + 1 + whole.length + 1) =
            u.length + 1 + whole.length + 1 + (rest.takeWhile isDigit).length := by
          have h := skipWhile_append isDigit (u ++ c :: (whole ++ ['.'])) rest
            (i := u.length + 1 + whole.length + 1) (by simp; omega)
          rw [← hs]
          simpa using h
        have hall : c :: s =
            (c :: (whole ++ '.' :: rest.takeWhile isDigit)) ++ rest.dropWhile isDigit := by
          simp [← hs]
        have hend : u.length + 1 + whole.length + 1 + (rest.takeWhile isDigit).length =
            u.length + (c :: (whole ++ '.' :: rest.takeWhile isDigit)).length := by
          simp only [List.length_cons, List.length_append]
          omega
        simpa [hr, hsome, fraction] using number_arrival u hall hend true
    · simpa [hd, beq_eq_false_iff_ne.mpr hd] using short

theorem continuesWord_of_startsWord {c : Char} (h : Token.startsWord c = true) :
    Token.continuesWord c = true := by
  rw [Token.startsWord, Bool.or_eq_true] at h
  rcases h with hl | hu
  · simp [Token.continuesWord, isLetterOrNumber_of_isLetter hl]
  · simp [Token.continuesWord, hu]

theorem wordAt_eq (u s : List Char) {c : Char} (hc : Token.startsWord c = true) :
    wordAt (u ++ c :: s) u.length = arrival (u ++ c :: s)
      (.ok (.word (String.ofList (c :: (Token.wordRest s).1)), (Token.wordRest s).2)) := by
  have letters : skipWhile Token.continuesWord (u ++ c :: s) u.length =
      u.length + 1 + (s.takeWhile Token.continuesWord).length := by
    rw [skipWhile_append _ u (c :: s) rfl,
      List.takeWhile_cons_of_pos (continuesWord_of_startsWord hc), List.length_cons]
    omega
  have hs := List.takeWhile_append_dropWhile (p := Token.continuesWord) (l := s)
  have mark : (u ++ c :: s)[u.length + 1 + (s.takeWhile Token.continuesWord).length]? =
      (s.dropWhile Token.continuesWord)[0]? := getElem?_dropWhile Token.continuesWord u s c 0
  rw [wordAt, Token.wordRest]
  simp only [letters, mark]
  generalize s.takeWhile Token.continuesWord = whole at *
  have hwhole : c :: s = (c :: whole) ++ s.dropWhile Token.continuesWord := by
    rw [List.cons_append, hs]
  have hlast : u.length + 1 + whole.length = u.length + (c :: whole).length := by
    rw [List.length_cons]
    omega
  have short := word_arrival u hwhole hlast
  cases htail : s.dropWhile Token.continuesWord with
  | nil =>
    rw [htail] at short
    simpa using short
  | cons d rest =>
    rw [htail] at short hwhole
    by_cases hd : d = '?'
    · subst hd
      have hmarked : c :: s = (c :: (whole ++ ['?'])) ++ rest := by simp [hwhole]
      have hend : u.length + 1 + whole.length + 1 = u.length + (c :: (whole ++ ['?'])).length := by
        simp only [List.length_cons, List.length_append, List.length_nil]
        omega
      simpa using word_arrival u hmarked hend
    · simpa [hd] using short

/-- The operator by the next character is the one that is read from the text. -/
theorem operatorAt_eq (c : Char) (s : List Char) : Token.operator? c s =
    (operatorAt c s[0]?).map fun found => (found.1, s.drop (found.2 - 1)) := by
  rw [Token.operator?.eq_def, operatorAt.eq_def]
  cases s with
  | nil => split <;> simp_all
  | cons d s => split <;> simp_all

/-- An operator starts with one of four characters and takes the next one only if there is one. -/
theorem operatorAt_eq_some {c : Char} {next : Option Char} {token : Token} {width : Nat}
    (h : operatorAt c next = some (token, width)) :
    (c = '=' ∨ c = '!' ∨ c = '<' ∨ c = '>') ∧ (width = 1 ∨ width = 2 ∧ next.isSome = true) := by
  rw [operatorAt.eq_def] at h
  split at h <;> cases h <;> simp

/-- Of the four characters, only an exclamation mark may start no operator. -/
theorem operatorAt_eq_none {c : Char} {next : Option Char} (h : operatorAt c next = none) :
    c ≠ '=' ∧ c ≠ '<' ∧ c ≠ '>' := by
  refine ⟨?_, ?_, ?_⟩
  all_goals
    rintro rfl
    rw [operatorAt.eq_def] at h
    split at h <;> simp_all

theorem nextAt_eq (u s : List Char) (c : Char) :
    nextAt (u ++ c :: s) u.length c = arrival (u ++ c :: s) (Token.next c s) := by
  have hafter : (u ++ c :: s)[u.length + 1]? = s[0]? := getElem?_after u (c :: s) 1
  have short (token : Token) :
      arrival (u ++ c :: s) (.ok (token, s)) = .ok (token, u.length + 1) :=
    arrival_ok u [c] s token rfl
  rw [nextAt, Token.next.eq_def, hafter]
  split
  · exact textAt_eq u s c c
  · split
    · cases s with
      | nil => exact (short (.mark .dot)).symm
      | cons d s =>
        by_cases hd : d = '.'
        · subst hd
          exact (arrival_ok u [c, '.'] s (.mark .dots) rfl).symm
        · simpa [hd] using (short (.mark .dot)).symm
    · cases Token.markOf? c with
      | some m => exact (short (.mark m)).symm
      | none =>
        simp only [operatorAt_eq]
        cases ho : operatorAt c s[0]? with
        | some found =>
          rcases found with ⟨token, width⟩
          rcases operatorAt_eq_some ho with ⟨hc, hw⟩
          simp only [if_pos hc, Option.map_some]
          rcases hw with rfl | ⟨rfl, hd⟩
          · exact (short token).symm
          · cases s with
            | nil => cases hd
            | cons d s => exact (arrival_ok u [c, d] s token rfl).symm
        | none =>
          simp only [Option.map_none]
          split
          · rename_i hc
            have hbang : c = '!' := by
              have := operatorAt_eq_none ho
              simpa [this] using hc
            subst hbang
            have letter : Token.startsWord '!' = false := by decide +kernel
            simp [letter, isDigit, arrival, Except.map, mapError_error]
          · rw [startsWithDigit_eq]
            split
            · exact numberAt_eq u s c
            · split
              · rename_i hw
                exact wordAt_eq u s hw
              · rfl

theorem tokensFrom_cons (u s : List Char) (c : Char) :
    tokensFrom (u ++ c :: s) u.length =
      if isBlank c then tokensFrom (u ++ c :: s) (u.length + 1)
      else
        match arrival (u ++ c :: s) (Token.next c s) with
        | .error failure => .error failure
        | .ok (token, j) =>
          if u.length < j then (tokensFrom (u ++ c :: s) j).map (token :: ·)
          else .error .breakdown := by
  rw [tokensFrom, if_pos (by simp), charAt_append]
  simp only [nextAt_eq]

/-- The tokens that are read by index are those of the text. -/
theorem tokensFrom_eq (u s : List Char) :
    tokensFrom (u ++ s) u.length = (Token.tokens s).mapError .fault := by
  -- After a token, the reading goes on where the rest of the text stands.
  have onward {u s rest : List Char} {c : Char} {token : Token} (hc : ¬ isBlank c = true)
      (hn : Token.next c s = .ok (token, rest))
      (ih : ∀ u, tokensFrom (u ++ rest) u.length = (Token.tokens rest).mapError .fault) :
      tokensFrom (u ++ c :: s) u.length = (Token.tokens (c :: s)).mapError .fault := by
    rcases Token.takes_of_next (d := '%') (Or.inr rfl) hn with ⟨taken, ht, -⟩
    have hlen : taken.length + rest.length = s.length + 1 := by
      rw [← List.length_append, ← ht, List.length_cons]
    have hshort := Token.next_length_le hn
    have hrest := ih (u ++ taken)
    rw [List.append_assoc, List.length_append] at hrest
    rw [tokensFrom_cons, if_neg hc, hn, ht, arrival_ok u taken rest token rfl]
    simp only
    rw [if_pos (by omega), hrest, ← ht, Token.tokens_cons (by simpa using hc), hn]
    simp only [bind, Except.bind]
    cases Token.tokens rest <;> rfl
  induction s using Token.tokens.induct generalizing u with
  | case1 =>
    rw [tokensFrom, if_neg (by simp), Token.tokens_nil]
    rfl
  | case2 c s hc ih =>
    have hnext := ih (u ++ [c])
    rw [List.append_assoc, List.singleton_append, List.length_append] at hnext
    rw [tokensFrom_cons, if_pos hc, Token.tokens_cons_of_blank hc]
    exact hnext
  | case3 c s hc fault hn =>
    rw [tokensFrom_cons, if_neg hc, hn, Token.tokens_cons (by simpa using hc), hn]
    rfl
  | case4 c s hc token rest hn fault hr ih => exact onward hc hn ih
  | case5 c s hc token rest hn more hr ih => exact onward hc hn ih

def read {α : Type} (f : List Token → Except SyntaxFault α) (s : List Char) :
    Except (Failure SyntaxFault) α := do
  let tokens ← tokensFrom s 0
  (f tokens).mapError .fault

theorem read_eq {α : Type} (f : List Token → Except SyntaxFault α) (s : List Char) :
    read f s = (Token.tokens s >>= f).mapError .fault := by
  have h := tokensFrom_eq [] s
  rw [List.nil_append, List.length_nil] at h
  rw [read, h]
  cases Token.tokens s <;> rfl

def referenceEnd (s : List Char) : Except (Failure SyntaxFault) Nat :=
  match s with
  | [] => .error (.fault .missingFileName)
  | c :: _ =>
    if Reference.isQuote c then do
      let inside ← dropTo 1 s
      match findChar (· == c) inside with
      | none => throw (.fault .unterminatedFileName)
      | some close => return close + 2
    else .ok ((findChar (fun d => isBlank d || d == ',') s).getD (size s))

def readReference (s : List Char) : Except (Failure SyntaxFault) FileRef := do
  let s := trim s
  let last ← referenceEnd s
  let raw ← takeTo last s
  let rest ← dropTo last s
  let args ← read (fun tokens => Reading.arguments tokens.length tokens) rest
  return ⟨String.ofList raw, args⟩

theorem size_quote {c : Char} (h : Reference.isQuote c = true) : c.utf8Size = 1 := by
  rw [Reference.isQuote, Bool.or_eq_true, beq_iff_eq, beq_iff_eq] at h
  rcases h with rfl | rfl <;> decide

theorem referenceEnd_eq (s : List Char) :
    referenceEnd s = ((FileRef.split s).map fun found => size found.1).mapError .fault := by
  cases s with
  | nil => rfl
  | cons c s =>
    rw [referenceEnd, FileRef.split]
    by_cases hq : Reference.isQuote c = true
    · have hinside : dropTo 1 (c :: s) = (.ok s : Except (Failure SyntaxFault) (List Char)) := by
        have h := dropTo_size (E := SyntaxFault) [c] s
        rwa [size_cons, size_nil, size_quote hq] at h
      have hfind : findChar (· == c) s = if (s.dropWhile (· != c)).isEmpty then none
          else some (size (s.takeWhile (· != c))) := findChar_eq _ s
      simp only [if_pos hq, hinside, bind, Except.bind, hfind]
      cases s.dropWhile (· != c) with
      | nil => rfl
      | cons d after =>
        simp [size_quote hq, Except.map, mapError_ok, pure, Except.pure]
        omega
    · have hs := List.takeWhile_append_dropWhile
        (p := fun d => !(isBlank d || d == ',')) (l := c :: s)
      simp only [if_neg hq, findChar_eq]
      cases hd : (c :: s).dropWhile fun d => !(isBlank d || d == ',') with
      | nil =>
        rw [hd, List.append_nil] at hs
        simp only [List.isEmpty_nil, if_true, Option.getD_none, Except.map, mapError_ok, hs]
      | cons d after => rfl

theorem readReference_eq (s : List Char) :
    readReference s = (FileRef.parse s).mapError .fault := by
  rw [readReference, FileRef.parse]
  simp only [referenceEnd_eq]
  cases hsplit : FileRef.split (trim s) with
  | error fault => rfl
  | ok found =>
    rcases found with ⟨raw, rest⟩
    rw [(FileRef.split_eq_ok hsplit).1]
    simp only [Except.map, mapError_ok, bind, Except.bind, takeTo_size, dropTo_size, read_eq]
    cases Token.tokens rest with
    | error fault => rfl
    | ok tokens =>
      simp only
      cases Reading.arguments tokens.length tokens <;> rfl

def readOutput : List Char → Except (Failure SyntaxFault) Output :=
  read fun tokens => Reading.whole (Reading.output tokens)

def readCondition : List Char → Except (Failure SyntaxFault) Expr :=
  read fun tokens =>
    match tokens with
    | [] => throw .missingCondition
    | tokens => Reading.whole (Reading.logical tokens)

def readAssignment : List Char → Except (Failure SyntaxFault) (String × Output) :=
  read fun tokens => do
    let (name, rest) ← Reading.word tokens
    let rest ← Reading.token (.mark .assign) rest
    let value ← Reading.whole (Reading.output rest)
    return (name, value)

def readLoop : List Char → Except (Failure SyntaxFault) LoopSpec :=
  read fun tokens => do
    let (item, rest) ← Reading.word tokens
    match rest with
    | .word "in" :: rest =>
      let (collection, rest) ← Reading.operand rest
      Reading.loopParameters rest.length ⟨item, collection, none, none, false⟩ rest
    | _ => throw (.expectedIn rest.head?)

theorem readOutput_eq (s : List Char) : readOutput s = (Output.parse s).mapError .fault :=
  read_eq _ s

theorem readCondition_eq (s : List Char) :
    readCondition s = (Expr.parseCondition s).mapError .fault :=
  read_eq _ s

theorem readAssignment_eq (s : List Char) :
    readAssignment s = (Output.parseAssignment s).mapError .fault :=
  read_eq _ s

theorem readLoop_eq (s : List Char) : readLoop s = (LoopSpec.parse s).mapError .fault :=
  read_eq _ s

end TemplateSite.Offset
