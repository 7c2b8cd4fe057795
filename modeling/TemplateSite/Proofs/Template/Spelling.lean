import TemplateSite.Proofs.Template.Closing
import TemplateSite.Proofs.Template.Position
import TemplateSite.Proofs.Template.Regular

/-!
# Spelling templates

A template tree can be spelled: texts as they are, outputs and tags between their delimiters with a
blank on each side, and the nodes inside a tag between it and the tag that closes it. Cutting such a
source gives back the texts, the outputs and the tags.
-/
namespace TemplateSite
open Text

namespace Node

mutual

/-- A node with all lines forgotten. -/
def unlined : Node → Node
  | .mk kind _ file children => .mk kind 0 file (unlinedOf children)

def unlinedOf : Option (List Node) → Option (List Node)
  | none => none
  | some nodes => some (unlinedAll nodes)

def unlinedAll : List Node → List Node
  | [] => []
  | node :: rest => node.unlined :: unlinedAll rest

end

@[simp] theorem unlinedAll_nil : unlinedAll [] = [] := by
  rw [unlinedAll]

@[simp] theorem unlinedAll_cons (node : Node) (nodes : List Node) :
    unlinedAll (node :: nodes) = node.unlined :: unlinedAll nodes := by
  rw [unlinedAll]

@[simp] theorem unlinedAll_append (first rest : List Node) :
    unlinedAll (first ++ rest) = unlinedAll first ++ unlinedAll rest := by
  induction first with
  | nil => simp
  | cons node first ih => simp [ih]

@[simp] theorem unlined_leaf (kind : NodeKind) (line : Nat) :
    (leaf kind line).unlined = leaf kind 0 := by
  rw [leaf, unlined, unlinedOf, leaf]

@[simp] theorem unlined_container (kind : NodeKind) (line : Nat) (nodes : List Node) :
    (container kind line nodes).unlined = container kind 0 (unlinedAll nodes) := by
  rw [container, unlined, unlinedOf, container]

@[simp] theorem text?_unlined (node : Node) : node.unlined.text? = node.text? := by
  rcases node with ⟨kind, line, file, children⟩
  rw [unlined]
  cases kind <;> rfl

end Node

def outputText (body : List Char) : List Char :=
  '\x7b' :: '\x7b' :: ' ' :: (body ++ [' ', '\x7d', '\x7d'])

/-- The spelling of a tag with what stands between its name and its last blank. -/
def tagText (k : Keyword) (tail : List Char) : List Char :=
  '\x7b' :: '%' :: ' ' :: (k.name.toList ++ (tail ++ [' ', '%', '\x7d']))

abbrev Keyword.alone (k : Keyword) : List Char :=
  tagText k []

/-- The spelling of a tag that has arguments. -/
abbrev Keyword.before (k : Keyword) (args : List Char) : List Char :=
  tagText k (' ' :: args)

/-- A reference that is quoted, or has neither a quotation mark nor the end of a tag in it. -/
def Reference.Spellable (raw : List Char) : Prop :=
  isQuoted raw = true ∨ (∀ c ∈ raw, isQuote c = false) ∧ ¬ ['%', '\x7d'] <:+: raw

/-- The name of a block: an identifier, or nothing. -/
def BlockLabel (name : List Char) : Prop :=
  ∀ c ∈ name, Token.continuesWord c = true ∨ c = '?'

mutual

/-- The spelling of nodes that have no lines. -/
inductive Spells : List Node → List Char → Prop where
  | nil : Spells [] []
  | text {t s : List Char} {nodes : List Node} (nonempty : t ≠ []) (plain : Plain t)
    (last : t.getLast? ≠ some '\x7b') (apart : ∀ node ∈ nodes.head?, node.text? = none)
    (more : Spells nodes s) : Spells (.leaf (.text (String.ofList t)) 0 :: nodes) (t ++ s)
  | output {body s : List Char} {o : Output} {nodes : List Node}
    (read : Output.parse body = .ok o) (more : Spells nodes s) :
    Spells (.leaf (.output o) 0 :: nodes) (outputText body ++ s)
  | assign {args s : List Char} {name : String} {value : Output} {nodes : List Node}
    (read : Output.parseAssignment args = .ok (name, value)) (more : Spells nodes s) :
    Spells (.leaf (.assign name value) 0 :: nodes) (Keyword.assign.before args ++ s)
  | include {args s : List Char} {ref : FileRef} {nodes : List Node}
    (read : FileRef.parse args = .ok ref) (spellable : Reference.Spellable ref.raw.toList)
    (more : Spells nodes s) :
    Spells (.mk (.include ref.args) 0 (some ref.raw) none :: nodes)
      (Keyword.include.before args ++ s)
  | loop {args inner s : List Char} {spec : LoopSpec} {body nodes : List Node}
    (read : LoopSpec.parse args = .ok spec) (inside : Spells body inner) (more : Spells nodes s) :
    Spells (.container (.loop spec) 0 body :: nodes)
      ((Keyword.opening .loop).before args ++ (inner ++ (Keyword.closing .loop).alone) ++ s)
  | block {name inner s : List Char} {body nodes : List Node} (label : BlockLabel name)
    (inside : Spells body inner) (more : Spells nodes s) :
    Spells (.container (.block (String.ofList name)) 0 body :: nodes)
      ((Keyword.opening .block).before name ++ (inner ++ (Keyword.closing .block).alone) ++ s)
  | conditional {args inner tail s : List Char} {test : Expr} {body branches nodes : List Node}
    (negated : Bool) (read : Expr.parseCondition args = .ok test) (first : Spells body inner)
    (rest : SpellsBranches branches tail) (more : Spells nodes s) :
    Spells (.container .conditional 0 (branchNode (some test) negated 0 body :: branches) :: nodes)
      ((Keyword.opening (.conditional negated)).before args ++
        (inner ++ (tail ++ (Keyword.closing (.conditional negated)).alone)) ++ s)

/-- The spelling of the branches of a conditional after the first one. -/
inductive SpellsBranches : List Node → List Char → Prop where
  | nil : SpellsBranches [] []
  | otherwise {inner : List Char} {body : List Node} (inside : Spells body inner) :
    SpellsBranches [branchNode none false 0 body] (Keyword.otherwise.alone ++ inner)
  | elseIf {args inner tail : List Char} {test : Expr} {body branches : List Node}
    (read : Expr.parseCondition args = .ok test) (inside : Spells body inner)
    (more : SpellsBranches branches tail) :
    SpellsBranches (branchNode (some test) false 0 body :: branches)
      (Keyword.elseIf.before args ++ (inner ++ tail))

end

/-- The spelling of a template, which may end in a layout around the rest of it. -/
inductive SpellsTemplate : List Node → List Char → Prop where
  | plain {nodes : List Node} {s : List Char} (all : Spells nodes s) : SpellsTemplate nodes s
  | laidOut {before body : List Node} {args s inner : List Char} {ref : FileRef}
    (front : Spells before s) (read : FileRef.parse args = .ok ref) (bare : ref.args = [])
    (spellable : Reference.Spellable ref.raw.toList) (inside : Spells body inner) :
    SpellsTemplate (before ++ [.mk .layout 0 (some ref.raw) (some body)])
      (s ++ (Keyword.layout.before args ++ inner))

/-- The end of a source, or a text that starts with an opening delimiter. -/
def Opens (s : List Char) : Prop :=
  s = [] ∨ ∃ d rest, s = '\x7b' :: d :: rest ∧ (d = '\x7b' ∨ d = '%')

theorem opens_outputText (body rest : List Char) : Opens (outputText body ++ rest) :=
  Or.inr ⟨'\x7b', _, rfl, Or.inl rfl⟩

theorem opens_tagText (k : Keyword) (tail rest : List Char) : Opens (tagText k tail ++ rest) :=
  Or.inr ⟨'%', _, rfl, Or.inr rfl⟩

theorem Opens.splitAtOpening {s : List Char} (h : Opens s) : splitAtOpening s = ([], s) := by
  rcases h with rfl | ⟨d, rest, rfl, hd⟩
  · rfl
  · rw [TemplateSite.splitAtOpening, if_pos ⟨rfl, by simpa using hd⟩]

/-- A plain text may stand before any source, unless its last character opens a delimiter with what
follows. -/
theorem splitAtOpening_append_text {t : List Char} (plain : Plain t)
    (last : t.getLast? ≠ some '\x7b') (after : List Char) :
    splitAtOpening (t ++ after) = (t ++ (splitAtOpening after).1, (splitAtOpening after).2) := by
  induction t with
  | nil => rfl
  | cons c t ih =>
    have hplain : Plain t := by
      refine ⟨?_, ?_⟩
      · exact fun hi => plain.1 (List.infix_cons_iff.mpr (Or.inr hi))
      · exact fun hi => plain.2 (List.infix_cons_iff.mpr (Or.inr hi))
    have hc : ¬ (c = '\x7b' ∧ ((t ++ after).head? = some '\x7b' ∨
        (t ++ after).head? = some '%')) := by
      rintro ⟨rfl, hh⟩
      cases t with
      | nil => exact last rfl
      | cons e t =>
        rcases hh with hh | hh
        · cases hh
          exact plain.1 (List.infix_cons_iff.mpr (Or.inl ⟨t, rfl⟩))
        · cases hh
          exact plain.2 (List.infix_cons_iff.mpr (Or.inl ⟨t, rfl⟩))
    have hlast : t.getLast? ≠ some '\x7b' := by
      intro hl
      cases t with
      | nil => cases hl
      | cons e t => exact last (by rw [List.getLast?_cons_cons, hl])
    rw [List.cons_append, splitAtOpening, if_neg hc, ih hplain hlast]
    rfl

theorem splitAtOpening_text {t after : List Char} (plain : Plain t)
    (last : t.getLast? ≠ some '\x7b') (h : Opens after) :
    splitAtOpening (t ++ after) = (t, after) := by
  rw [splitAtOpening_append_text plain last, h.splitAtOpening, List.append_nil]

theorem cut_text {t after : List Char} (nonempty : t ≠ []) (plain : Plain t)
    (last : t.getLast? ≠ some '\x7b') (h : Opens after) (line : Nat) :
    cut line (t ++ after) = .piece (.text line t) (line + lineEnds t) after := by
  rw [cut, splitAtOpening_text plain last h]
  simp [nonempty]

/-- The search for a closing delimiter ends at the first one after what it passes over. -/
theorem Passes.splitAtClosing {d : Char} {s : List Char} (hs : Passes d s) (hd : Closes d)
    (rest : List Char) : splitAtClosing d none (s ++ d :: '\x7d' :: rest) = some (s, rest) := by
  have hq : ¬ (d = '\x27' ∨ d = '\x22') := by
    rcases hd with rfl | rfl <;> decide
  rw [hs, TemplateSite.splitAtClosing, if_neg hq, if_pos ⟨rfl, rfl⟩]
  simp

theorem passes_blanks {d : Char} (hd : Closes d) {s : List Char}
    (h : ∀ c ∈ s, isBlank c = true) : Passes d s := by
  refine .of_bland ?_
  intro c hc
  exact hd.bland (p := isBlank) (by decide) (h c hc)

theorem passes_blank {d : Char} (hd : Closes d) : Passes d [' '] :=
  passes_blanks hd isBlank_space

/-- A body that has blanks at both ends has no dashes there. -/
theorem stripDashes_blanks (s : List Char) :
    stripDashes (' ' :: (s ++ [' '])) = (' ' :: (s ++ [' ']), ⟨false, false⟩) := by
  have hl : (' ' :: (s ++ [' '])).getLast? = some ' ' := by
    rw [← List.cons_append, List.getLast?_concat]
  rw [stripDashes_of_head (by simp), hl]
  rfl

theorem cut_outputText {body : List Char} (h : Passes '\x7d' body) (line : Nat)
    (rest : List Char) : ∃ line', cut line (outputText body ++ rest) =
      .piece (.output line ⟨false, false⟩ (' ' :: (body ++ [' ']))) line' rest := by
  have hp : Passes '\x7d' (' ' :: (body ++ [' '])) :=
    .append (s := [' ']) (passes_blank (Or.inl rfl)) (h.append (passes_blank (Or.inl rfl)))
  have hs : outputText body ++ rest =
      '\x7b' :: '\x7b' :: (' ' :: (body ++ [' ']) ++ '\x7d' :: '\x7d' :: rest) := by
    simp [outputText]
  refine ⟨line + lineEnds (' ' :: (body ++ [' '])), ?_⟩
  rw [cut, (opens_outputText body rest).splitAtOpening, hs]
  simp only [List.isEmpty_nil, if_true, cutDelimited]
  rw [cutOutput, hp.splitAtClosing (Or.inl rfl)]
  simp only [stripDashes_blanks]

theorem Keyword.mem_all (k : Keyword) : k ∈ Keyword.all := by
  cases k with
  | opening c =>
    cases c with
    | conditional negated => cases negated <;> decide
    | _ => decide
  | closing c =>
    cases c with
    | conditional negated => cases negated <;> decide
    | _ => decide
  | regionEnd r => cases r <;> decide
  | _ => decide

theorem Keyword.name_letters (k : Keyword) : ∀ c ∈ k.name.toList, isAsciiLetter c = true :=
  List.all_eq_true.mp
    ((by decide +kernel : ∀ k ∈ Keyword.all, k.name.toList.all isAsciiLetter) k k.mem_all)

theorem Keyword.name_nonempty (k : Keyword) : k.name.toList ≠ [] :=
  (by decide +kernel : ∀ k ∈ Keyword.all, k.name.toList ≠ []) k k.mem_all

theorem Keyword.ofName?_name (k : Keyword) : Keyword.ofName? k.name.toList = some k :=
  (by decide +kernel : ∀ k ∈ Keyword.all, Keyword.ofName? k.name.toList = some k) k k.mem_all

theorem Region.ofName?_name (k : Keyword) : Region.ofName? k.name.toList = none :=
  (by decide +kernel : ∀ k ∈ Keyword.all, Region.ofName? k.name.toList = none) k k.mem_all

theorem Keyword.name_not_blank (k : Keyword) : ∀ c ∈ k.name.toList, isBlank c = false := by
  intro c hc
  by_contra hb
  have hb : isBlank c = true := by simpa using hb
  have hn : isAsciiLetter c = false := of_isBlank (P := fun c => isAsciiLetter c = false)
    (by decide) hb
  rw [k.name_letters c hc] at hn
  cases hn

theorem Keyword.name_passes (k : Keyword) : Passes '%' k.name.toList := by
  refine .of_bland ?_
  intro c hc
  exact Closes.bland (Or.inr rfl) (p := isAsciiLetter) (by decide) (k.name_letters c hc)

theorem splitName_spelled (k : Keyword) {tail : List Char} (ht : Token.Apart tail) :
    splitName (' ' :: (k.name.toList ++ (tail ++ [' ']))) = (k.name.toList, trim tail) := by
  have hn := k.name_not_blank
  have hlast : trimEnd k.name.toList = k.name.toList := trimEnd_of_not_blank hn
  have hbody : trim (' ' :: (k.name.toList ++ (tail ++ [' ']))) =
      k.name.toList ++ trimEnd tail := by
    have hs : ' ' :: (k.name.toList ++ (tail ++ [' '])) =
        [' '] ++ (k.name.toList ++ tail) ++ [' '] := by simp
    rw [hs, trim_append isBlank_space _ isBlank_space, trim]
    cases hname : k.name.toList with
    | nil => exact absurd hname k.name_nonempty
    | cons c name =>
      rw [List.cons_append, trimStart_cons_of_not_blank (hn c (by simp [hname])),
        ← List.cons_append, ← hname, trimEnd_append]
      split
      · rename_i he
        rw [List.isEmpty_iff.mp he, hlast, List.append_nil]
      · rfl
  have notBlank : ∀ c ∈ k.name.toList, (!isBlank c) = true := by
    intro c hc
    simp [hn c hc]
  have hstop : ∀ c ∈ (trimEnd tail).head?, (!isBlank c) = false := by
    intro c hc
    simp [ht c (trimEnd_head? c hc)]
  rw [splitName]
  simp only [hbody]
  rw [List.takeWhile_append_of_pos notBlank, List.dropWhile_append_of_pos notBlank]
  rcases takeWhile_before [] hstop with ⟨hw, hd⟩
  rw [List.nil_append] at hw hd
  rw [hw, hd, List.takeWhile_nil, List.dropWhile_nil, List.append_nil, List.nil_append,
    trim_trimEnd]

theorem cut_tagText (k : Keyword) {tail : List Char} (ht : Token.Apart tail)
    (hp : Passes '%' (tail ++ [' '])) (line : Nat) (rest : List Char) :
    ∃ line', cut line (tagText k tail ++ rest) =
      .piece (.tag line ⟨false, false⟩ k.name.toList (trim tail)) line' rest := by
  have hp : Passes '%' (' ' :: (k.name.toList ++ (tail ++ [' ']))) :=
    .append (s := [' ']) (passes_blank (Or.inr rfl)) (k.name_passes.append hp)
  have hs : tagText k tail ++ rest =
      '\x7b' :: '%' :: (' ' :: (k.name.toList ++ (tail ++ [' '])) ++ '%' :: '\x7d' :: rest) := by
    simp [tagText]
  have hstrip := stripDashes_blanks (k.name.toList ++ tail)
  rw [List.append_assoc] at hstrip
  refine ⟨line + lineEnds (' ' :: (k.name.toList ++ (tail ++ [' ']))), ?_⟩
  rw [cut, (opens_tagText k tail rest).splitAtOpening, hs]
  simp only [List.isEmpty_nil, if_true, cutDelimited]
  rw [if_neg (by decide), cutTag, hp.splitAtClosing (Or.inr rfl)]
  simp only [hstrip, splitName_spelled k ht, Region.ofName?_name]

/-- The search for the end of a tag passes over a spellable reference and the arguments after it. -/
theorem FileRef.passes {s : List Char} {ref : FileRef} (h : FileRef.parse s = .ok ref)
    (hr : Reference.Spellable ref.raw.toList) : Passes '%' (s ++ [' ']) := by
  rcases bind_eq_ok_iff.mp h with ⟨⟨raw, rest⟩, hsplit, h⟩
  rcases bind_eq_ok_iff.mp h with ⟨ts, htokens, h⟩
  rcases bind_eq_ok_iff.mp h with ⟨args, -, h⟩
  cases h
  rw [String.toList_ofList] at hr
  rcases FileRef.split_eq_ok hsplit with ⟨htrim, hw, hstop⟩
  rcases eq_append_trim s with ⟨before, after, hb, ha, hs⟩
  have hlast : Passes '%' (rest ++ (after ++ [' '])) :=
    (Token.passes_of_tokens (Or.inr rfl) htokens).append
      ((passes_blanks (Or.inr rfl) ha).append (passes_blank (Or.inr rfl)))
  have hspelled : s ++ [' '] = before ++ (raw ++ (rest ++ (after ++ [' ']))) := by
    rw [hs, htrim]
    simp
  rw [hspelled]
  refine (passes_blanks (Or.inr rfl) hb).append ?_
  rcases hr with hq | ⟨hn, hc⟩
  · cases hw with
    | quoted mark absent => exact (Passes.quoted mark absent).append hlast
    | bare mark _ =>
      rw [mark] at hq
      cases hq
  · have hq : Reference.isQuoted raw = false := by
      cases raw with
      | nil => rfl
      | cons c raw => exact hn c (List.mem_cons_self ..)
    have hhead : ∃ e, (rest ++ (after ++ [' '])).head? = some e ∧ (isBlank e = true ∨ e = ',') := by
      cases rest with
      | cons e rest => exact ⟨e, rfl, hstop hq e rfl⟩
      | nil =>
        cases after with
        | nil => exact ⟨' ', rfl, Or.inl (by decide)⟩
        | cons e after => exact ⟨e, rfl, Or.inl (ha e (List.mem_cons_self ..))⟩
    rcases hhead with ⟨e, he, hblank⟩
    refine Passes.bare hn hc he ?_ hlast
    rintro rfl
    rcases hblank with hb | hb
    · exact absurd hb (by decide)
    · exact absurd hb (by decide)

theorem Reference.stripQuotes_of_no_quotes {s : List Char}
    (h : ∀ c ∈ s, Reference.isQuote c = false) :
    Reference.stripQuotes s = s := by
  cases s with
  | nil => rfl
  | cons c s =>
    have hc := h c (List.mem_cons_self ..)
    rw [Reference.stripQuotes]
    simp only [hc, Bool.false_eq_true, if_false]
    cases hl : (c :: s).getLast? with
    | none => simp at hl
    | some e =>
      have he := h e (List.mem_of_mem_getLast? hl)
      simp [he]

theorem BlockLabel.bland {name : List Char} (h : BlockLabel name) :
    ∀ c ∈ name, isBlank c = false ∧ Bland '%' c := by
  intro c hc
  rcases h c hc with hw | rfl
  · refine ⟨?_, Closes.bland (Or.inr rfl) (p := Token.continuesWord) (by decide +kernel) hw⟩
    by_contra hb
    rw [Token.continuesWord_of_isBlank (by simpa using hb)] at hw
    cases hw
  · exact ⟨by decide, Closes.bland (Or.inr rfl) (p := (· == '?')) (by decide) rfl⟩

end TemplateSite
