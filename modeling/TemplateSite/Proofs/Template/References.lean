import TemplateSite.Proofs.Expression.Written
import TemplateSite.Proofs.Template.Preorder

/-!
# Tags that name files

An include or a layout starts with the reference of a file, which is cut off the front of its text,
and the tokens of the rest are those of its arguments. A text that is blank names no file and is
refused. So is one that starts with a comma, unless arguments follow and the tag is an include: then
the reference is empty.
-/
namespace TemplateSite
open Text Grammar

/-- A text that names no file: it is blank, or a comma comes first. -/
def FileRef.Unnamed (s : List Char) : Prop :=
  trim s = [] ∨ (trim s).head? = some ','

/-- What a reference and its arguments are read from: the reference is the front of the trimmed
text, and the rest has just the tokens of the arguments. -/
structure FileRef.Reads (s : List Char) (ref : FileRef) (rest : List Char) (ts : List Token) :
    Prop where
  front : trim s = ref.raw.toList ++ rest
  written : Reference.Written ref.raw.toList
  ends : Reference.isQuoted ref.raw.toList = false → ∀ c ∈ rest.head?, isBlank c = true ∨ c = ','
  tokens : Token.tokens rest = .ok ts
  arguments : ArgumentsWritten ref.args ts
  grammar : ∀ arg ∈ ref.args, Identifier arg.1.toList ∧ Logical Value.IsLiteral arg.2
  comma : ref.raw = "" ↔ (trim s).head? = some ','
  nonempty : ref.raw = "" → ref.args ≠ []

theorem Text.trim_head? {s : List Char} : ∀ c ∈ (trim s).head?, isBlank c = false := by
  intro c hc
  have first := List.head?_dropWhile_not isBlank s
  have there : (trimStart s).head? = some c := trimEnd_head? c hc
  rw [trimStart] at there
  rw [there] at first
  simpa using first

theorem Token.ne_nil_of_comma {s : List Char} {ts : List Token} (first : s.head? = some ',')
    (h : tokens s = .ok ts) : ts ≠ [] := by
  rcases List.head?_eq_some_iff.mp first with ⟨tail, rfl⟩
  rw [tokens_cons (by decide)] at h
  rcases bind_eq_ok_iff.mp h with ⟨found, -, h⟩
  rcases map_eq_ok_iff.mp h with ⟨more, -, rfl⟩
  simp

theorem ArgumentsWritten.ne_nil {args : List Argument} {ts : List Token}
    (h : ArgumentsWritten args ts) (nonempty : ts ≠ []) : args ≠ [] := by
  cases h with
  | nil => exact absurd rfl nonempty
  | cons optional value more => simp

namespace FileRef

theorem raw_eq_nil_iff {s raw rest : List Char} (nonblank : trim s ≠ [])
    (front : trim s = raw ++ rest) (written : Reference.Written raw)
    (ends : Reference.isQuoted raw = false → ∀ c ∈ rest.head?, isBlank c = true ∨ c = ',') :
    raw = [] ↔ (trim s).head? = some ',' := by
  constructor
  · rintro rfl
    rcases List.exists_cons_of_ne_nil nonblank with ⟨c, tail, text⟩
    have unblank : isBlank c = false := trim_head? c (by rw [text]; rfl)
    rcases ends rfl c (by rw [← List.nil_append rest, ← front, text]; rfl) with blank | comma
    · rw [blank] at unblank
      cases unblank
    · rw [text, comma]
      rfl
  · intro first
    rw [front] at first
    cases written with
    | @quoted q inside mark absent =>
      cases first
      cases mark
    | bare mark unbroken =>
      cases raw with
      | nil => rfl
      | cons c raw =>
        cases first
        exact absurd rfl (unbroken ',' (List.mem_cons_self ..)).2

theorem parse_reads {s : List Char} {ref : FileRef} (h : FileRef.parse s = .ok ref) :
    ∃ rest ts, FileRef.Reads s ref rest ts := by
  have grammar := parse_arguments h
  rcases bind_eq_ok_iff.mp h with ⟨⟨raw, rest⟩, hs, h⟩
  rcases bind_eq_ok_iff.mp h with ⟨ts, tokens, h⟩
  rcases bind_eq_ok_iff.mp h with ⟨args, ha, h⟩
  cases h
  rcases split_eq_ok hs with ⟨front, written, ends⟩
  have nonblank : trim s ≠ [] := by
    intro blank
    rw [blank] at hs
    cases hs
  have arguments := Reading.arguments_written (Nat.le_refl _) ha
  have comma := raw_eq_nil_iff nonblank front written ends
  have empty : String.ofList raw = "" ↔ raw = [] := String.ofList_eq_empty_iff
  refine ⟨rest, ts, ?_, ?_, ?_, tokens, arguments, grammar, empty.trans comma, ?_⟩
  · rw [String.toList_ofList]
    exact front
  · rw [String.toList_ofList]
    exact written
  · rw [String.toList_ofList]
    exact ends
  · intro hraw
    have none := empty.mp hraw
    have first := comma.mp none
    rw [front, none, List.nil_append] at first
    exact arguments.ne_nil (Token.ne_nil_of_comma first tokens)

theorem arguments_of_unnamed {s : List Char} {ref : FileRef} (unnamed : Unnamed s)
    (h : FileRef.parse s = .ok ref) :
    ref.args ≠ [] ∧ ∃ ts, Token.tokens s = .ok ts ∧ ArgumentsWritten ref.args ts := by
  rcases parse_reads h with ⟨rest, ts, reads⟩
  rcases unnamed with blank | comma
  · rw [FileRef.parse, blank] at h
    cases h
  · have empty := reads.comma.mpr comma
    have front := reads.front
    rw [empty] at front
    refine ⟨reads.nonempty empty, ts, ?_, reads.arguments⟩
    rw [← Token.tokens_trim, front]
    exact reads.tokens

end FileRef

/-! ## Tags -/

/-- One of the pieces is a tag that gives the entry, on its own line. -/
def Entry.GivenBy (e : Entry) (ps : List Piece) : Prop :=
  ∃ dashes name args keyword given, Piece.tag e.line dashes name args ∈ ps ∧
    Keyword.ofName? name = some keyword ∧ keyword.Gives e.line args given ∧ e ∈ given

theorem Entry.GivenBy.later {e : Entry} {ps : List Piece} (h : e.GivenBy ps) (p : Piece) :
    e.GivenBy (p :: ps) := by
  rcases h with ⟨dashes, name, args, keyword, given, piece, gives⟩
  exact ⟨dashes, name, args, keyword, given, List.mem_cons_of_mem _ piece, gives⟩

theorem TextRun.kind_of_mem {run : TextRun} {e : Entry} (there : e ∈ run.entries) :
    ∃ s, e.kind = .text s := by
  cases run with
  | none => cases there
  | some found =>
    cases List.mem_singleton.mp there
    exact ⟨_, rfl⟩

/-- Every entry of a transcript is a text, an output, or given by a tag. -/
theorem Transcript.mem_cases {run : TextRun} {trimNext : Bool} {ps : List Piece} {es : List Entry}
    (h : Transcript run trimNext ps es) {e : Entry} (there : e ∈ es) :
    (∃ s, e.kind = .text s) ∨ (∃ o, e.kind = .output o) ∨ e.GivenBy ps := by
  have later {p : Piece} {ps : List Piece}
      (h : (∃ s, e.kind = .text s) ∨ (∃ o, e.kind = .output o) ∨ e.GivenBy ps) :
      (∃ s, e.kind = .text s) ∨ (∃ o, e.kind = .output o) ∨ e.GivenBy (p :: ps) :=
    h.imp_right (Or.imp_right fun given => given.later p)
  induction h with
  | nil run trimNext => exact Or.inl (TextRun.kind_of_mem there)
  | text line s more ih => exact later (ih there)
  | output trimNext line dashes body read more ih =>
    rcases List.mem_append.mp there with there | there
    · exact Or.inl (TextRun.kind_of_mem there)
    · rcases List.mem_cons.mp there with rfl | there
      · exact Or.inr (Or.inl ⟨_, rfl⟩)
      · exact later (ih there)
  | @tag run ps es given keyword name args trimNext line dashes known gives more ih =>
    rcases List.mem_append.mp there with there | there
    · exact Or.inl (TextRun.kind_of_mem there)
    · rcases List.mem_append.mp there with there | there
      · have place := gives.line_eq e there
        subst place
        have piece := List.mem_cons_self (a := Piece.tag e.line dashes name args) (l := ps)
        exact Or.inr (Or.inr ⟨dashes, name, args, keyword, given, piece, known, gives, there⟩)
      · exact later (ih there)
  | raw trimNext line opening body closing more ih => exact later (ih there)
  | comment trimNext line opening closing more ih => exact later (ih there)

/-- Of the entries that a tag gives, those of includes and layouts carry the reference that is read
from its text. -/
theorem Keyword.Gives.mem_cases {line : Nat} {args : List Char} {keyword : Keyword}
    {given : List Entry} (h : keyword.Gives line args given) {e : Entry} (there : e ∈ given) :
    (e.kind ≠ .layout ∧ ∀ args, e.kind ≠ .include args) ∨
      ∃ ref, FileRef.parse args = .ok ref ∧ e.file = some ref.raw ∧
        (keyword = .include ∧ e.kind = .include ref.args ∨
          keyword = .layout ∧ e.kind = .layout) := by
  cases h with
  | «include» read =>
    cases List.mem_singleton.mp there
    exact Or.inr ⟨_, read, rfl, Or.inl ⟨rfl, rfl⟩⟩
  | layout read =>
    cases List.mem_singleton.mp there
    exact Or.inr ⟨_, read, rfl, Or.inr ⟨rfl, rfl⟩⟩
  | conditional negated read =>
    rcases List.mem_cons.mp there with rfl | there
    · exact Or.inl (by simp)
    · cases List.mem_singleton.mp there
      exact Or.inl (by simp)
  | closing c => cases there
  | _ =>
    cases List.mem_singleton.mp there
    exact Or.inl (by simp)

namespace Builder

theorem exists_accepted {ps : List Piece} {b last : Builder} {p : Piece}
    (h : b.addAll ps = .ok last) (hp : p ∈ ps) : ∃ before after, add before p = .ok after := by
  induction ps generalizing b with
  | nil => cases hp
  | cons q ps ih =>
    rw [addAll_cons] at h
    rcases bind_eq_ok_iff.mp h with ⟨next, added, h⟩
    rcases List.mem_cons.mp hp with rfl | hp
    · exact ⟨b, next, added⟩
    · exact ih h hp

theorem addAll_append (b : Builder) (first rest : List Piece) :
    b.addAll (first ++ rest) = b.addAll first >>= fun b => b.addAll rest := by
  rw [addAll, List.foldlM_append]
  rfl

/-- The tags that a reference stands in alone: a layout, which takes no arguments, and an include in
whose text no arguments are written. -/
def Bare (keyword : Keyword) (text : List Char) : Prop :=
  keyword = .layout ∨ keyword = .include ∧
    ∀ args ts, Token.tokens text = .ok ts → ArgumentsWritten args ts → args = []

theorem layoutFile_of_unnamed (b : Builder) {text : List Char} (unnamed : FileRef.Unnamed text) :
    ∃ fault, b.layoutFile text = .error fault := by
  cases h : b.layoutFile text with
  | error fault => exact ⟨fault, rfl⟩
  | ok file =>
    rcases layoutFile_eq_ok h with ⟨-, ref, read, bare, -⟩
    exact absurd bare (FileRef.arguments_of_unnamed unnamed read).1

/-- A tag that names no file is refused, whatever stands before it. -/
theorem add_unnamed (b : Builder) {name text : List Char} {keyword : Keyword}
    (known : Keyword.ofName? name = some keyword) (bare : Bare keyword text)
    (unnamed : FileRef.Unnamed text) (line : Nat) (dashes : Dashes) :
    ∃ fault, b.add (.tag line dashes name text) = .error (.invalid line keyword.name fault) := by
  rw [add_tag known]
  rcases bare with rfl | ⟨rfl, bare⟩
  · rcases (b.applyDashes dashes).layoutFile_of_unnamed unnamed with ⟨fault, refused⟩
    refine ⟨fault, ?_⟩
    rw [tag, refused]
    rfl
  · cases h : FileRef.parse text with
    | error fault =>
      refine ⟨fault, ?_⟩
      rw [tag, h]
      rfl
    | ok ref =>
      rcases FileRef.arguments_of_unnamed unnamed h with ⟨given, ts, tokens, arguments⟩
      exact absurd (bare _ ts tokens arguments) given

end Builder

/-- In a tree that compiles, a layout names a file, and so does an include whose text does not start
with a comma. -/
theorem names_of_compile {source : String} {nodes : List Node} (h : compile source = .ok nodes)
    {e : Entry} (there : e ∈ Node.entriesAll nodes) :
    (e.kind = .layout → ∃ raw, e.file = some raw ∧ raw ≠ "") ∧
    ∀ args, e.kind = .include args → ∃ dashes name text ref rest ts,
      Piece.tag e.line dashes name text ∈ (pieces 1 source.toList).1 ∧
      Keyword.ofName? name = some .include ∧ FileRef.Reads text ref rest ts ∧
      e.file = some ref.raw ∧ args = ref.args := by
  rcases Builder.compile_eq_ok h with ⟨-, b, added, -⟩
  rcases (compile_preorder h).2.1.mem_cases there with ⟨s, kind⟩ | ⟨o, kind⟩ |
    ⟨dashes, name, text, keyword, given, piece, known, gives, there⟩
  · rw [kind]
    simp
  · rw [kind]
    simp
  · rcases gives.mem_cases there with ⟨noLayout, noInclude⟩ | ⟨ref, read, file, naming⟩
    · exact ⟨fun kind => absurd kind noLayout, fun args kind => absurd kind (noInclude args)⟩
    · rcases FileRef.parse_reads read with ⟨rest, ts, reads⟩
      rcases naming with ⟨rfl, kind⟩ | ⟨rfl, kind⟩
      · rw [kind]
        refine ⟨by simp, ?_⟩
        intro args same
        have arguments : args = ref.args := by simpa using same.symm
        exact ⟨dashes, name, text, ref, rest, ts, piece, known, reads, file, arguments⟩
      · rw [kind]
        refine ⟨fun _ => ⟨ref.raw, file, ?_⟩, by simp⟩
        -- the tag of the layout was accepted, which it is not where no file is named
        intro empty
        rcases Builder.exists_accepted added piece with ⟨before, after, accepted⟩
        have unnamed : FileRef.Unnamed text := Or.inr (reads.comma.mp empty)
        rcases before.add_unnamed known (Or.inl rfl) unnamed e.line dashes with ⟨fault, refused⟩
        rw [refused] at accepted
        cases accepted

/-- A source is refused for the first piece that is refused. -/
theorem Builder.compile_of_refused {source : String} {before after : List Piece} {p : Piece}
    {e : CompileFault} (h : (pieces 1 source.toList).1 = before ++ p :: after) {b : Builder}
    (accepted : empty.addAll before = .ok b) (refused : b.add p = .error e) :
    compile source = .error (.fault e) := by
  rw [compile_eq_compileFrom, compileFrom, h, addAll_append, accepted]
  change ((b.addAll (p :: after)).mapError _ >>= _) = _
  rw [addAll_cons, refused]
  rfl

/-- The reference that is read from a text is cut off its front, and the arguments take all tokens
after it. The reference is empty exactly if the text starts with a comma, and then there are
arguments. So in a tree that compiles every layout names a file, and so does every include but those
whose text starts with a comma. A tag that names no file and has no arguments is refused for its
text. -/
theorem files_named (s : List Char) (source : String) :
    (∀ ref, FileRef.parse s = .ok ref → ∃ rest ts, FileRef.Reads s ref rest ts) ∧
    (∀ nodes, compile source = .ok nodes → ∀ e ∈ Node.entriesAll nodes,
      (e.kind = .layout → ∃ raw, e.file = some raw ∧ raw ≠ "") ∧
      ∀ args, e.kind = .include args → ∃ dashes name text ref rest ts,
        Piece.tag e.line dashes name text ∈ (pieces 1 source.toList).1 ∧
        Keyword.ofName? name = some .include ∧ FileRef.Reads text ref rest ts ∧
        e.file = some ref.raw ∧ args = ref.args) ∧
    ∀ before line dashes name text after keyword,
      (pieces 1 source.toList).1 = before ++ Piece.tag line dashes name text :: after →
      Keyword.ofName? name = some keyword → Builder.Bare keyword text → FileRef.Unnamed text →
      (∀ nodes, compile source ≠ .ok nodes) ∧
      ∀ b, Builder.empty.addAll before = .ok b → ∃ fault,
        compile source = .error (.fault (.invalid line keyword.name fault)) := by
  refine ⟨fun ref => FileRef.parse_reads, fun nodes h e => names_of_compile h, ?_⟩
  intro before line dashes name text after keyword cut known bare unnamed
  refine ⟨?_, ?_⟩
  · intro nodes h
    rcases Builder.compile_eq_ok h with ⟨-, b, added, -⟩
    have there : Piece.tag line dashes name text ∈ (pieces 1 source.toList).1 := by simp [cut]
    rcases Builder.exists_accepted added there with ⟨reached, next, accepted⟩
    rcases reached.add_unnamed known bare unnamed line dashes with ⟨fault, refused⟩
    rw [refused] at accepted
    cases accepted
  · intro b accepted
    rcases b.add_unnamed known bare unnamed line dashes with ⟨fault, refused⟩
    exact ⟨fault, Builder.compile_of_refused cut accepted refused⟩

/-- A quoted name with its arguments right after it, an include before a layout, and a layout that
starts with a comma. -/
theorem files_named_of_pages :
    let s := " 'a, b'title: x.y or z, n: 1".toList
    let page := [Node.mk (.include [("n", .literal (.int 1))]) 1 (some "nav") none,
      Node.mk .layout 1 (some "'b'") (some [])]
    let other := "a\x7b% layout , n: 1 %\x7d"
    (∃ ref rest ts, FileRef.parse s = .ok ref ∧ ref.raw = "'a, b'" ∧
      FileRef.Reads s ref rest ts) ∧
    (compile "\x7b% include nav, n: 1 %\x7d\x7b% layout 'b' %\x7d" = .ok page ∧
      ∃ e ∈ Node.entriesAll page, e.kind = .layout ∧ ∃ raw, e.file = some raw ∧ raw ≠ "") ∧
    ∃ fault, compile other = .error (.fault (.invalid 1 "layout" fault)) := by
  intro s page other
  refine ⟨?_, ?_, ?_⟩
  · have read : (FileRef.parse s).toOption.any (fun ref => ref.raw == "'a, b'") = true := by
      decide +kernel
    rcases exists_eq_ok_of_any read with ⟨ref, read, raw⟩
    rcases (files_named s "").1 ref read with ⟨rest, ts, reads⟩
    exact ⟨ref, rest, ts, read, by simpa using raw, reads⟩
  · have compiled : compile "\x7b% include nav, n: 1 %\x7d\x7b% layout 'b' %\x7d" = .ok page := by
      with_unfolding_all rfl
    have there : (⟨.layout, 1, some "'b'"⟩ : Entry) ∈ Node.entriesAll page := by
      simp [page, Node.entries, Node.entriesOf]
    exact ⟨compiled, _, there, rfl, ((files_named s _).2.1 _ compiled _ there).1 rfl⟩
  · have cut : (pieces 1 other.toList).1 = [.text 1 ['a']] ++
        Piece.tag 1 ⟨false, false⟩ "layout".toList ", n: 1".toList :: [] := by
      decide +kernel
    have unnamed : FileRef.Unnamed ", n: 1".toList := Or.inr (by decide +kernel)
    have known : Keyword.ofName? "layout".toList = some .layout := by decide +kernel
    have accepted : Builder.empty.addAll [.text 1 ['a']] =
      .ok (Builder.empty.appendText 1 ['a']) := rfl
    exact ((files_named s other).2.2 _ _ _ _ _ _ _ cut known (Or.inl rfl) unnamed).2 _ accepted

/-- A comma with arguments after it: the reference is empty, and the include is compiled. -/
theorem files_named_of_comma :
    FileRef.parse ", x: 1".toList = .ok ⟨"", [("x", .literal (.int 1))]⟩ ∧
      compile "\x7b% include , x: 1 %\x7d" =
        .ok [.mk (.include [("x", .literal (.int 1))]) 1 (some "") none] := by
  constructor
  · with_unfolding_all rfl
  · with_unfolding_all rfl

end TemplateSite
