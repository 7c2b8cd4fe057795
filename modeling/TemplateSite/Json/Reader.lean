import TemplateSite.Json.Numeral

/-!
# Reading JSON

The strict grammar: no blanks but space, tab and line ends, no zeros in front of a number, no
control characters in a text. An escape may spell half of a surrogate pair; a text with an unpaired
half is well formed but stands for no text.
-/
namespace TemplateSite

/-- A JSON document. A text is absent where its escapes spell none. -/
inductive Json where
  | null
  | bool (b : Bool)
  | number (n : Json.Numeral)
  | text (s : Option String)
  | array (items : List Json)
  | object (entries : List (Option String × Json))
deriving Inhabited

namespace Json
open Text

def isSpace (c : Char) : Bool :=
  c == ' ' || c == '\t' || c == '\n' || c == '\x0d'

def skipSpace (s : List Char) : List Char :=
  s.dropWhile isSpace

def hexValue? (c : Char) : Option Nat :=
  if isDigit c then some (c.toNat - 48)
  else if 'a' ≤ c && c ≤ 'f' then some (c.toNat - 87)
  else if 'A' ≤ c && c ≤ 'F' then some (c.toNat - 55)
  else none

/-- The number that the four digits of an escape spell. -/
def hexUnit? (a b c d : Char) : Option Nat := do
  let a ← hexValue? a
  let b ← hexValue? b
  let c ← hexValue? c
  let d ← hexValue? d
  return ((a * 16 + b) * 16 + c) * 16 + d

/-- The character after a backslash that stands for one character. -/
def simpleEscape? : Char → Option Char
  | '\x22' => some '\x22'
  | '\\' => some '\\'
  | '/' => some '/'
  | 'b' => some '\x08'
  | 'f' => some '\x0c'
  | 'n' => some '\n'
  | 'r' => some '\x0d'
  | 't' => some '\t'
  | _ => none

/-- Whether a number is the first half of a surrogate pair. -/
def isHighSurrogate (n : Nat) : Bool :=
  0xD800 ≤ n && n ≤ 0xDBFF

/-- Whether a number is the second half of a surrogate pair. -/
def isLowSurrogate (n : Nat) : Bool :=
  0xDC00 ≤ n && n ≤ 0xDFFF

/-- Joins characters and escaped numbers to a text, if every surrogate has its other half next to
it. -/
def joinUnits : List (Char ⊕ Nat) → Option (List Char)
  | [] => some []
  | .inl c :: rest => (joinUnits rest).map (c :: ·)
  | .inr high :: .inr low :: rest =>
    if isHighSurrogate high && isLowSurrogate low then
      (joinUnits rest).map (Char.ofNat (0x10000 + (high - 0xD800) * 0x400 + (low - 0xDC00)) :: ·)
    else if isHighSurrogate high || isLowSurrogate high then none
    else (joinUnits (.inr low :: rest)).map (Char.ofNat high :: ·)
  | .inr n :: rest =>
    if isHighSurrogate n || isLowSurrogate n then none
    else (joinUnits rest).map (Char.ofNat n :: ·)

/-- Reads the characters and escapes of a text up to its closing quotation mark. -/
def readUnits : List Char → Option (List (Char ⊕ Nat) × List Char)
  | [] => none
  | c :: rest =>
    if c == '\x22' then some ([], rest)
    else if c == '\\' then
      match rest with
      | [] => none
      | e :: rest =>
        if e == 'u' then
          match rest with
          | a :: b :: c :: d :: rest => do
            let unit ← hexUnit? a b c d
            let (units, rest) ← readUnits rest
            return (.inr unit :: units, rest)
          | _ => none
        else do
          let c ← simpleEscape? e
          let (units, rest) ← readUnits rest
          return (.inl c :: units, rest)
    else if c.toNat < 0x20 then none
    else do
      let (units, rest) ← readUnits rest
      return (.inl c :: units, rest)

def readText (s : List Char) : Option (Option String × List Char) :=
  (readUnits s).map fun (units, rest) => ((joinUnits units).map String.ofList, rest)

/-- Reads the digits before the point: a zero alone, or digits that start with another one. -/
def readWhole : List Char → Option (List Char × List Char)
  | '0' :: rest =>
    match rest with
    | c :: _ => if isDigit c then none else some (['0'], rest)
    | [] => some (['0'], [])
  | s =>
    let digits := s.takeWhile isDigit
    if digits.isEmpty then none else some (digits, s.dropWhile isDigit)

def readDigits (s : List Char) : Option (List Char × List Char) :=
  let digits := s.takeWhile isDigit
  if digits.isEmpty then none else some (digits, s.dropWhile isDigit)

def readFraction : List Char → Option (Option (List Char) × List Char)
  | '.' :: rest => (readDigits rest).map fun (digits, rest) => (some digits, rest)
  | s => some (none, s)

/-- Reads the sign of an exponent; true stands for a minus. -/
def readSign : List Char → Bool × List Char
  | '-' :: rest => (true, rest)
  | '+' :: rest => (false, rest)
  | s => (false, s)

def readExponent : List Char → Option (Option (Bool × List Char) × List Char)
  | [] => some (none, [])
  | c :: rest =>
    if c == 'e' || c == 'E' then
      let (negative, rest) := readSign rest
      (readDigits rest).map fun (digits, rest) => (some (negative, digits), rest)
    else some (none, c :: rest)

def readNumber (s : List Char) : Option (Numeral × List Char) := do
  let (negative, s) :=
    match s with
    | '-' :: rest => (true, rest)
    | _ => (false, s)
  let (whole, s) ← readWhole s
  let (fraction, s) ← readFraction s
  let (exponent, s) ← readExponent s
  return (⟨negative, whole, fraction, exponent⟩, s)

/-- Reads one of the three words. -/
def readWord (s : List Char) : Option (Json × List Char) :=
  if "null".toList.isPrefixOf s then some (.null, s.drop 4)
  else if "true".toList.isPrefixOf s then some (.bool true, s.drop 4)
  else if "false".toList.isPrefixOf s then some (.bool false, s.drop 5)
  else none

mutual

/-- Reads a document that starts here or after blanks, with calls nested at most `n` deep. -/
def readWithin : Nat → List Char → Option (Json × List Char)
  | 0, _ => none
  | n + 1, s =>
    match skipSpace s with
    | [] => none
    | '\x22' :: rest => (readText rest).map fun (t, rest) => (.text t, rest)
    | '[' :: rest =>
      match skipSpace rest with
      | ']' :: rest => some (.array [], rest)
      | rest => (itemsWithin n rest).map fun (items, rest) => (.array items, rest)
    | '\x7b' :: rest =>
      match skipSpace rest with
      | '\x7d' :: rest => some (.object [], rest)
      | rest => (entriesWithin n rest).map fun (entries, rest) => (.object entries, rest)
    | c :: rest =>
      if c == '-' || isDigit c then (readNumber (c :: rest)).map fun (x, rest) => (.number x, rest)
      else readWord (c :: rest)

def itemsWithin : Nat → List Char → Option (List Json × List Char)
  | 0, _ => none
  | n + 1, s =>
    match readWithin n s with
    | none => none
    | some (item, rest) =>
      match skipSpace rest with
      | ',' :: rest => (itemsWithin n rest).map fun (items, rest) => (item :: items, rest)
      | ']' :: rest => some ([item], rest)
      | _ => none

def entriesWithin : Nat → List Char → Option (List (Option String × Json) × List Char)
  | 0, _ => none
  | n + 1, s =>
    match skipSpace s with
    | '\x22' :: rest =>
      match readText rest with
      | none => none
      | some (key, rest) =>
        match skipSpace rest with
        | ':' :: rest =>
          match readWithin n rest with
          | none => none
          | some (item, rest) =>
            match skipSpace rest with
            | ',' :: rest =>
              (entriesWithin n rest).map fun (entries, rest) => ((key, item) :: entries, rest)
            | '\x7d' :: rest => some ([(key, item)], rest)
            | _ => none
        | _ => none
    | _ => none

end

def read (s : List Char) : Option Json :=
  match readWithin (2 * s.length + 1) s with
  | none => none
  | some (json, rest) => if (skipSpace rest).isEmpty then some json else none

mutual

/-- The number of arrays and objects around the innermost part, this one counted. -/
def depth : Json → Nat
  | .array items => depthItems items + 1
  | .object entries => depthEntries entries + 1
  | _ => 0

def depthItems : List Json → Nat
  | [] => 0
  | item :: rest => max (depth item) (depthItems rest)

def depthEntries : List (Option String × Json) → Nat
  | [] => 0
  | (_, item) :: rest => max (depth item) (depthEntries rest)

end

mutual

/-- The value of a document, if all its texts and numbers have one. Of several entries under one
name the last one counts. -/
def toValue? : Json → Option Value
  | .null => some .nil
  | .bool b => some (.bool b)
  | .number n => n.toValue?
  | .text s => s.map .text
  | .array items => (toValues? items).map .list
  | .object entries => (toFields? [] entries).map .object

def toValues? : List Json → Option (List Value)
  | [] => some []
  | item :: rest =>
    match toValue? item with
    | none => none
    | some value => (toValues? rest).map (value :: ·)

def toFields? (record : Record Value) :
    List (Option String × Json) → Option (Record Value)
  | [] => some record
  | (key, item) :: rest =>
    match key, toValue? item with
    | some name, some value => toFields? (record.insert name value) rest
    | _, _ => none

end

/-- The deepest nesting that is read into values. -/
def maxDepth : Nat := 127

end Json
end TemplateSite
