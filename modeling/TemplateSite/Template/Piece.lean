import TemplateSite.Template.Fault
import TemplateSite.Text.Blank

/-!
# Cutting a source into pieces

A source is cut, from the left, into plain texts, outputs, tags, and the raw and comment regions,
inside which no tag counts. The closing delimiter of an output or a tag is the first one outside
quotation marks. A dash next to a delimiter asks for the text on that side to be trimmed.
-/
namespace TemplateSite
open Text

/-- The dashes next to the delimiters of an output or a tag. -/
structure Dashes where
  left : Bool
  right : Bool
deriving DecidableEq, Repr

/-- A piece of a source with the line it starts on. -/
inductive Piece where
  | text (line : Nat) (s : List Char)
  | output (line : Nat) (dashes : Dashes) (body : List Char)
  | tag (line : Nat) (dashes : Dashes) (name args : List Char)
  /-- A raw region: the dashes of its opening tag, its body, and the dashes of its closing tag. -/
  | raw (line : Nat) (opening : Dashes) (body : List Char) (closing : Dashes)
  /-- A comment region with the dashes of its two tags. -/
  | comment (line : Nat) (opening closing : Dashes)
deriving DecidableEq

def lineEnds (s : List Char) : Nat :=
  s.count '\n'

/-- Splits a source before its first opening delimiter. -/
def splitAtOpening : List Char → List Char × List Char
  | [] => ([], [])
  | c :: rest =>
    if c = '\x7b' ∧ (rest.head? = some '\x7b' ∨ rest.head? = some '%') then ([], c :: rest)
    else
      let (before, after) := splitAtOpening rest
      (c :: before, after)

/-- Splits the text after an opening delimiter at the closing delimiter that starts with `d`, which
does not count between quotation marks. The first argument is the quotation mark that is open. -/
def splitAtClosing (d : Char) : Option Char → List Char → Option (List Char × List Char)
  | _, [] => none
  | some q, c :: rest =>
    (splitAtClosing d (if c = q then none else some q) rest).map fun (body, after) =>
      (c :: body, after)
  | none, c :: rest =>
    if c = '\x27' ∨ c = '\x22' then
      (splitAtClosing d (some c) rest).map fun (body, after) => (c :: body, after)
    else if c = d ∧ rest.head? = some '\x7d' then some ([], rest.tail)
    else (splitAtClosing d none rest).map fun (body, after) => (c :: body, after)

/-- Takes the dashes off the two ends of the body of an output or a tag. -/
def stripDashes (body : List Char) : List Char × Dashes :=
  let (left, rest) :=
    match body with
    | '-' :: rest => (true, rest)
    | _ => (false, body)
  if rest.getLast? = some '-' then (rest.dropLast, ⟨left, true⟩) else (rest, ⟨left, false⟩)

/-- Splits the body of a tag into its name and its arguments. -/
def splitName (body : List Char) : List Char × List Char :=
  let body := trim body
  (body.takeWhile fun c => !isBlank c, trim (body.dropWhile fun c => !isBlank c))

/-- The regions in which no tag counts. -/
inductive Region where
  | raw
  | comment
deriving DecidableEq, Repr

def Region.name : Region → String
  | .raw => "raw"
  | .comment => "comment"

def Region.closing : Region → String
  | .raw => "endraw"
  | .comment => "endcomment"

def Region.ofName? (name : List Char) : Option Region :=
  if name = Region.raw.name.toList then some .raw
  else if name = Region.comment.name.toList then some .comment
  else none

/-- Splits a text at its first closing delimiter of a tag, whether or not it is quoted. -/
def splitAtTagEnd : List Char → Option (List Char × List Char)
  | [] => none
  | c :: rest =>
    if c = '%' ∧ rest.head? = some '\x7d' then some ([], rest.tail)
    else (splitAtTagEnd rest).map fun (body, after) => (c :: body, after)

/-- What the search for the end of a region finds. -/
inductive RegionEnd where
  /-- The closing tag: the body before it, its dashes, the line after it and the rest. -/
  | found (body : List Char) (dashes : Dashes) (line : Nat) (rest : List Char)
  /-- No closing tag. -/
  | missing
  /-- On this line, an opening delimiter that is never closed. -/
  | unterminated (line : Nat)
  /-- An opening delimiter that shares its second character with a closing one. -/
  | breakdown
deriving DecidableEq

/-- Puts a character before the body that was found. -/
def RegionEnd.cons (c : Char) : RegionEnd → RegionEnd
  | .found body dashes line rest => .found (c :: body) dashes line rest
  | other => other

/-- The line of the character after `c` when `c` is on the given line. -/
def lineAfter (c : Char) (line : Nat) : Nat :=
  if c = '\n' then line + 1 else line

/-- Searches for the end of a region. Every opening delimiter of a tag is tried with the first
closing delimiter after it; the first pair around the name of the closing tag ends the region. -/
def findRegionEnd (region : Region) (line : Nat) : List Char → RegionEnd
  | [] => .missing
  | c :: rest =>
    if c = '\x7b' ∧ rest.head? = some '%' then
      if rest.tail.head? = some '\x7d' then .breakdown
      else
        match splitAtTagEnd rest.tail with
        | none => .unterminated line
        | some (body, after) =>
          let (inner, dashes) := stripDashes body
          if trim inner = region.closing.toList then
            .found [] dashes (line + lineEnds body) after
          else (findRegionEnd region (lineAfter c line) rest).cons c
    else (findRegionEnd region (lineAfter c line) rest).cons c

/-- Why the cutting of a source stops. -/
inductive Stop where
  /-- The source is at its end. -/
  | finished
  | failed (failure : Failure CompileFault)
deriving DecidableEq

/-- The next step of cutting: a piece with the line and the text after it, or a stop. -/
inductive Cut where
  | piece (p : Piece) (line : Nat) (rest : List Char)
  | stop (s : Stop)
deriving DecidableEq

/-- Cuts a region whose opening tag has been read. -/
def cutRegion (region : Region) (start : Nat) (opening : Dashes) (line : Nat)
    (rest : List Char) : Cut :=
  match findRegionEnd region line rest with
  | .found body closing line rest =>
    match region with
    | .raw => .piece (.raw start opening body closing) line rest
    | .comment => .piece (.comment start opening closing) line rest
  | .missing => .stop (.failed (.fault (.unclosed start region.name)))
  | .unterminated line => .stop (.failed (.fault (.unterminated line .tag)))
  | .breakdown => .stop (.failed .breakdown)

def cutOutput (line : Nat) (s : List Char) : Cut :=
  match splitAtClosing '\x7d' none s with
  | none => .stop (.failed (.fault (.unterminated line .output)))
  | some (body, rest) =>
    let (inner, dashes) := stripDashes body
    .piece (.output line dashes inner) (line + lineEnds body) rest

def cutTag (line : Nat) (s : List Char) : Cut :=
  match splitAtClosing '%' none s with
  | none => .stop (.failed (.fault (.unterminated line .tag)))
  | some (body, rest) =>
    let (inner, dashes) := stripDashes body
    let (name, args) := splitName inner
    match Region.ofName? name with
    | some region => cutRegion region line dashes (line + lineEnds body) rest
    | none => .piece (.tag line dashes name args) (line + lineEnds body) rest

/-- Cuts the output or the tag that a source starts with; a source that starts with none is at its
end. -/
def cutDelimited (line : Nat) : List Char → Cut
  | _ :: c :: rest => if c = '\x7b' then cutOutput line rest else cutTag line rest
  | _ => .stop .finished

/-- Cuts the next piece off a source that is on the given line. -/
def cut (line : Nat) (s : List Char) : Cut :=
  let (before, after) := splitAtOpening s
  if before.isEmpty then cutDelimited line after
  else .piece (.text line before) (line + lineEnds before) after

end TemplateSite
