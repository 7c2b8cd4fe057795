import TemplateSite.Decimal.Numeral
import TemplateSite.Expression.Fault
import TemplateSite.Reference
import TemplateSite.Text.Blank

/-!
# Splitting text into tokens

Tokens are read from the left, each as long as it can be, and blanks between them are skipped. A
token takes at least one character, so the reading ends.
-/
namespace TemplateSite.Token
open TemplateSite.Text

def continuesWord (c : Char) : Bool :=
  isLetterOrNumber c || c == '_' || c == '-'

def startsWord (c : Char) : Bool :=
  isLetter c || c == '_'

/-- Reads the rest of a word; one question mark may end it. -/
def wordRest (s : List Char) : List Char × List Char :=
  match s.dropWhile continuesWord with
  | '?' :: rest => (s.takeWhile continuesWord ++ ['?'], rest)
  | rest => (s.takeWhile continuesWord, rest)

def startsWithDigit : List Char → Bool
  | [] => false
  | c :: _ => isDigit c

/-- Reads the rest of a number after its first character. A point belongs to the number only before
a digit, and then the number is a double. -/
def numberRest (s : List Char) : (Bool × List Char) × List Char :=
  let whole := s.takeWhile isDigit
  match s.dropWhile isDigit with
  | '.' :: rest =>
    if startsWithDigit rest then
      ((true, whole ++ '.' :: rest.takeWhile isDigit), rest.dropWhile isDigit)
    else ((false, whole), '.' :: rest)
  | rest => ((false, whole), rest)

def ofNumber (isFloat : Bool) (s : List Char) : Except SyntaxFault Token :=
  let read :=
    if isFloat then (Decimal.readFloat? s).map Token.float
    else (Decimal.readInteger? s).map Token.int
  match read with
  | some token => .ok token
  | none => .error (.invalidNumber (String.ofList s))

def markOf? : Char → Option Mark
  | '[' => some .openBracket
  | ']' => some .closeBracket
  | '(' => some .openParen
  | ')' => some .closeParen
  | '|' => some .pipe
  | ':' => some .colon
  | ',' => some .comma
  | _ => none

/-- Reads an operator that starts with an equals sign, an exclamation mark or an angle bracket. -/
def operator? : Char → List Char → Option (Token × List Char)
  | '=', '=' :: rest => some (.comparison .eq, rest)
  | '!', '=' :: rest => some (.comparison .ne, rest)
  | '<', '>' :: rest => some (.comparison .ne, rest)
  | '<', '=' :: rest => some (.comparison .le, rest)
  | '>', '=' :: rest => some (.comparison .ge, rest)
  | '<', rest => some (.comparison .lt, rest)
  | '>', rest => some (.comparison .gt, rest)
  | '=', rest => some (.mark .assign, rest)
  | _, _ => none

/-- Reads a text literal after its opening quotation mark, up to the same mark. -/
def textRest (q : Char) (s : List Char) : Except SyntaxFault (Token × List Char) :=
  match s.dropWhile (· != q) with
  | [] => .error .unterminatedString
  | _ :: rest => .ok (.text (String.ofList (s.takeWhile (· != q))), rest)

/-- Reads the token that starts with a character that is not blank. -/
def next (c : Char) (s : List Char) : Except SyntaxFault (Token × List Char) :=
  if Reference.isQuote c then textRest c s
  else if c = '.' then
    match s with
    | '.' :: rest => .ok (.mark .dots, rest)
    | _ => .ok (.mark .dot, s)
  else
    match markOf? c with
    | some m => .ok (.mark m, s)
    | none =>
      match operator? c s with
      | some found => .ok found
      | none =>
        if isDigit c || (c = '-' && startsWithDigit s) then
          let ((isFloat, digits), rest) := numberRest s
          (ofNumber isFloat (c :: digits)).map (·, rest)
        else if startsWord c then
          let (name, rest) := wordRest s
          .ok (.word (String.ofList (c :: name)), rest)
        else .error (.unexpectedCharacter c)

theorem wordRest_length_le (s : List Char) : (wordRest s).2.length ≤ s.length := by
  have h := (List.dropWhile_sublist (p := continuesWord) (l := s)).length_le
  unfold wordRest
  split
  · rename_i rest heq
    rw [heq] at h
    simp at h
    simp
    omega
  · exact h

theorem numberRest_length_le (s : List Char) : (numberRest s).2.length ≤ s.length := by
  have h := (List.dropWhile_sublist (p := isDigit) (l := s)).length_le
  unfold numberRest
  split
  · rename_i rest heq
    rw [heq] at h
    have h' := (List.dropWhile_sublist (p := isDigit) (l := rest)).length_le
    simp at h
    split <;> simp <;> omega
  · exact h

theorem operator?_length_le {c : Char} {s rest : List Char} {token : Token}
    (h : operator? c s = some (token, rest)) : rest.length ≤ s.length := by
  unfold operator? at h
  split at h <;> cases h <;> simp only [List.length_cons, Nat.le_refl, Nat.le_add_right]

theorem textRest_length_le {q : Char} {s rest : List Char} {token : Token}
    (h : textRest q s = .ok (token, rest)) : rest.length ≤ s.length := by
  have hs := (List.dropWhile_sublist (p := (· != q)) (l := s)).length_le
  unfold textRest at h
  split at h
  · simp at h
  · rename_i heq
    rw [heq] at hs
    simp at h hs
    obtain ⟨-, rfl⟩ := h
    omega

theorem next_length_le {c : Char} {s rest : List Char} {token : Token}
    (h : next c s = .ok (token, rest)) : rest.length ≤ s.length := by
  unfold next at h
  split at h
  · exact textRest_length_le h
  · split at h
    · split at h <;> simp at h <;> obtain ⟨-, rfl⟩ := h <;> simp
    · split at h
      · simp at h
        obtain ⟨-, rfl⟩ := h
        exact Nat.le_refl _
      · split at h
        · rename_i heq
          simp at h
          subst h
          exact operator?_length_le heq
        · split at h
          · have hn := numberRest_length_le s
            generalize numberRest s = found at h hn
            obtain ⟨⟨isFloat, digits⟩, tail⟩ := found
            cases hnum : ofNumber isFloat (c :: digits) with
            | error e => simp [hnum, Except.map] at h
            | ok t =>
              simp [hnum, Except.map] at h
              obtain ⟨-, rfl⟩ := h
              exact hn
          · split at h
            · have hw := wordRest_length_le s
              simp at h
              obtain ⟨-, rfl⟩ := h
              exact hw
            · simp at h

def tokens : List Char → Except SyntaxFault (List Token)
  | [] => .ok []
  | c :: s =>
    if isBlank c then tokens s
    else
      match _h : next c s with
      | .error fault => .error fault
      | .ok (token, rest) =>
        match tokens rest with
        | .error fault => .error fault
        | .ok more => .ok (token :: more)
termination_by s => s.length
decreasing_by
  · simp
  · have := next_length_le _h
    simp
    omega

end TemplateSite.Token
