import TemplateSite.Proofs.Template.Refusal
import TemplateSite.Proofs.Template.Grafting
import TemplateSite.Proofs.Template.Unlining

/-!
# Dashes trim the texts next to them

A source is an alternating sequence of plain texts and of outputs and tags. The dashes of an output
or a tag do nothing but trim the text on their side: the source compiles, line numbers aside, as the
one without dashes in which those texts are trimmed beforehand.
-/
namespace TemplateSite
open Text

/-- The character after the brace of the opening delimiter. -/
def Delimiter.first : Delimiter → Char
  | .output => '\x7b'
  | .tag => '%'

/-- The character before the brace of the closing delimiter. -/
def Delimiter.last : Delimiter → Char
  | .output => '\x7d'
  | .tag => '%'

/-- A body that ends where its closing delimiter is found, has no dash at its ends and does not open
a region. The delimiter is searched for without a dash before it: after a brace at the end of the
body a dash would hide that the body ends earlier. -/
structure Delimiter.Encloses (d : Delimiter) (body : List Char) : Prop where
  closed : splitAtClosing d.last none (body ++ [d.last, '\x7d']) = some (body, [])
  head : body.head? ≠ some '-'
  tail : body.getLast? ≠ some '-'
  region : d = .tag → Region.ofName? (splitName body).1 = none

/-- A source as an alternating sequence of texts, and of outputs and tags between them. -/
inductive Markup where
  | last (text : List Char)
  | mark (text : List Char) (delimiter : Delimiter) (dashes : Dashes) (body : List Char)
      (rest : Markup)

/-- A text without the blanks at its ends that the dashes on its sides ask to be dropped. -/
def trimBetween (before after : Bool) (t : List Char) : List Char :=
  let t := if before then trimStart t else t
  if after then trimEnd t else t

namespace Markup

def chars : Markup → List Char
  | last t => t
  | mark t d dashes body rest => t ++ (enclosed d.first d.last dashes body ++ rest.chars)

def texts : Markup → List (List Char)
  | last t => [t]
  | mark t _ _ _ rest => t :: rest.texts

/-- The bodies of the outputs and the tags, each with its delimiter. -/
def bodies : Markup → List (Delimiter × List Char)
  | last _ => []
  | mark _ d _ body rest => (d, body) :: rest.bodies

/-- The source without dashes, with every text trimmed as the dashes on its sides ask. The argument
says whether a dash stands before the first text. -/
def trimmed (before : Bool) : Markup → Markup
  | last t => last (trimBetween before false t)
  | mark t d dashes body rest =>
    mark (trimBetween before dashes.left t) d .absent body (rest.trimmed dashes.right)

end Markup

/-- A text that no delimiter opens in, nor at its end with what follows it. -/
structure Inert (t : List Char) : Prop where
  plain : Plain t
  last : t.getLast? ≠ some '\x7b'

/-- A compiled tree, or why there is none, with all lines forgotten. -/
def withoutLines (outcome : Except (Failure CompileFault) (List Node)) :
    Except (Failure CompileFault) (List Node) :=
  (outcome.map Node.unlinedAll).mapError (Failure.map CompileFault.unlined)

/-! ## Cutting -/

theorem Delimiter.closes (d : Delimiter) : Closes d.last := by
  cases d
  · exact Or.inl rfl
  · exact Or.inr rfl

theorem Delimiter.bland_dash (d : Delimiter) : Bland d.last '-' :=
  d.closes.bland (p := (· == '-')) (by decide) rfl

/-- A dash before the closing delimiter belongs to what stands before the delimiter. -/
theorem splitAtClosing_dash {d : Delimiter} {q : Option Char} {s : List Char}
    (h : splitAtClosing d.last q (s ++ [d.last, '\x7d']) = some (s, [])) (t : List Char) :
    splitAtClosing d.last q (s ++ '-' :: d.last :: '\x7d' :: t) = some (s ++ ['-'], t) := by
  induction s generalizing q with
  | nil =>
    cases q with
    | none => cases d <;> simp [splitAtClosing, Delimiter.last]
    | some q =>
      rw [List.nil_append, splitAtClosing, Option.map_eq_some_iff] at h
      rcases h with ⟨⟨_, _⟩, -, he⟩
      cases he
  | cons c s ih =>
    cases q with
    | some q =>
      rw [List.cons_append, splitAtClosing] at h ⊢
      rcases Option.map_eq_some_iff.mp h with ⟨⟨body, after⟩, hs, he⟩
      cases he
      rw [ih hs]
      rfl
    | none =>
      rw [List.cons_append, splitAtClosing] at h ⊢
      split at h
      · rename_i hq
        rcases Option.map_eq_some_iff.mp h with ⟨⟨body, after⟩, hs, he⟩
        cases he
        rw [if_pos hq, ih hs]
        rfl
      · rename_i hq
        split at h
        · cases h
        · rename_i hd
          rcases Option.map_eq_some_iff.mp h with ⟨⟨body, after⟩, hs, he⟩
          cases he
          have still_open : ¬ (c = d.last ∧
              (s ++ '-' :: d.last :: '\x7d' :: t).head? = some '\x7d') := by
            cases s with
            | nil => simp
            | cons e s => exact hd
          rw [if_neg hq, if_neg still_open, ih hs]
          rfl

namespace Delimiter

variable {d : Delimiter} {body : List Char}

def piece (d : Delimiter) (line : Nat) (dashes : Dashes) (body : List Char) : Piece :=
  match d with
  | .output => .output line dashes body
  | .tag => .tag line dashes (splitName body).1 (splitName body).2

theorem Encloses.splitAtClosing (h : d.Encloses body) (dashes : Dashes) (t : List Char) :
    TemplateSite.splitAtClosing d.last none
      (dash dashes.left ++ body ++ dash dashes.right ++ d.last :: '\x7d' :: t) =
        some (dash dashes.left ++ body ++ dash dashes.right, t) := by
  have left : Passes d.last (dash dashes.left) := by
    refine .of_bland ?_
    intro c hc
    cases hl : dashes.left <;> simp [dash, hl] at hc
    subst hc
    exact d.bland_dash
  have right : TemplateSite.splitAtClosing d.last none
      (body ++ dash dashes.right ++ d.last :: '\x7d' :: t) =
        some (body ++ dash dashes.right, t) := by
    cases dashes.right with
    | false => simpa [dash] using splitAtClosing_front h.closed t
    | true => simpa [dash] using splitAtClosing_dash h.closed t
  rw [List.append_assoc, List.append_assoc, left, ← List.append_assoc body, right]
  simp

/-- Dashes around a body are recognized, but for the one dash in a body that is empty otherwise,
which counts as the left one. -/
theorem Encloses.stripDashes (h : d.Encloses body) (dashes : Dashes) :
    ∃ found, TemplateSite.stripDashes (dash dashes.left ++ body ++ dash dashes.right) =
      (body, found) ∧ (found = dashes ∨ body = []) := by
  by_cases hb : body = []
  · subst hb
    rcases dashes with ⟨left, right⟩
    cases left <;> cases right <;> exact ⟨_, rfl, Or.inr rfl⟩
  · exact ⟨dashes, stripDashes_dash h.head h.tail hb dashes, Or.inl rfl⟩

theorem opens (d : Delimiter) (dashes : Dashes) (body t : List Char) :
    Opens (enclosed d.first d.last dashes body ++ t) := by
  cases d
  · exact Or.inr ⟨'\x7b', _, rfl, Or.inl rfl⟩
  · exact Or.inr ⟨'%', _, rfl, Or.inr rfl⟩

theorem Encloses.cut (h : d.Encloses body) (dashes : Dashes) (line : Nat) (t : List Char) :
    ∃ line' found, TemplateSite.cut line (enclosed d.first d.last dashes body ++ t) =
      .piece (d.piece line found body) line' t ∧ (found = dashes ∨ body = []) := by
  rcases h.stripDashes dashes with ⟨found, hstrip, hfound⟩
  have hs : enclosed d.first d.last dashes body ++ t = '\x7b' :: d.first ::
      (dash dashes.left ++ body ++ dash dashes.right ++ d.last :: '\x7d' :: t) := by
    simp [enclosed]
  have hsplit := h.splitAtClosing dashes t
  generalize dash dashes.left ++ body ++ dash dashes.right = whole at hs hsplit hstrip
  refine ⟨line + lineEnds whole, found, ?_, hfound⟩
  rw [(d.opens dashes body t).cut, hs, cutDelimited]
  cases d with
  | output =>
    have hcut : cutOutput line (whole ++ '\x7d' :: '\x7d' :: t) =
        .piece (.output line found body) (line + lineEnds whole) t := by
      have hsplit : TemplateSite.splitAtClosing '\x7d' none (whole ++ '\x7d' :: '\x7d' :: t) =
        some (whole, t) := hsplit
      rw [cutOutput, hsplit]
      simp only [hstrip]
    exact hcut
  | tag =>
    have hcut : cutTag line (whole ++ '%' :: '\x7d' :: t) =
        .piece (Delimiter.tag.piece line found body) (line + lineEnds whole) t := by
      have hsplit : TemplateSite.splitAtClosing '%' none (whole ++ '%' :: '\x7d' :: t) =
        some (whole, t) := hsplit
      rw [cutTag, hsplit]
      simp only [hstrip, h.region rfl]
      rfl
    exact hcut

end Delimiter

namespace Builder

theorem compileFrom_of_cut {line line' : Nat} {s rest : List Char} {p : Piece}
    (h : cut line s = .piece p line' rest) (b : Builder) :
    b.compileFrom line s =
      (b.add p).mapError .fault >>= fun next => next.compileFrom line' rest := by
  cases hp : b.add p with
  | error e => exact compileFrom_of_refused h hp
  | ok next => exact compileFrom_of_piece h hp

/-- An empty body is refused whatever its dashes are. -/
theorem add_empty (b : Builder) (d : Delimiter) (line : Nat) (dashes found : Dashes) :
    b.add (d.piece line dashes []) = b.add (d.piece line found []) := by
  cases d with
  | tag => rfl
  | output =>
    have refused : (Output.parse []).toOption.isNone := by decide +kernel
    rcases exists_eq_error_of_isNone refused with ⟨fault, hf⟩
    simp only [Delimiter.piece, add, hf]
    rfl

theorem compileFrom_enclosed {d : Delimiter} {body : List Char} (h : d.Encloses body)
    (dashes : Dashes) (b : Builder) (line : Nat) (t : List Char) :
    ∃ line', b.compileFrom line (enclosed d.first d.last dashes body ++ t) =
      (b.add (d.piece line dashes body)).mapError .fault >>= fun next =>
        next.compileFrom line' t := by
  rcases h.cut dashes line t with ⟨line', found, hcut, rfl | rfl⟩
  · exact ⟨line', compileFrom_of_cut hcut b⟩
  · refine ⟨line', ?_⟩
    rw [compileFrom_of_cut hcut, b.add_empty d line found dashes]

def addText (b : Builder) (line : Nat) (t : List Char) : Builder :=
  if t.isEmpty then b else b.appendText line t

theorem compileFrom_inert {t rest : List Char} (h : Inert t) (hr : Opens rest) (b : Builder)
    (line : Nat) :
    ∃ line', b.compileFrom line (t ++ rest) = (b.addText line t).compileFrom line' rest := by
  rw [addText]
  split
  · rename_i ht
    rw [List.isEmpty_iff.mp ht]
    exact ⟨line, rfl⟩
  · rename_i ht
    have cut := cut_text (by simpa using ht) h.plain h.last hr line
    exact ⟨_, compileFrom_of_piece cut rfl⟩

/-! ## Adding trimmed texts -/

/-- A builder at whose place no text stands last. -/
def Apart (b : Builder) : Prop :=
  ∀ node ∈ b.siblings.head?, node.text? = none

/-- The builder with its lines forgotten and nothing to be trimmed. -/
def bare (b : Builder) : Builder :=
  { b.unlined with trimNext := false }

/-- The builder with another text at its place, from which nothing is trimmed. -/
def joined (b : Builder) (t : List Char) : Builder :=
  { b with siblings := joinText 0 t b.siblings }

theorem trimLast_joinText {siblings : List Node}
    (h : ∀ node ∈ siblings.head?, node.text? = none) (line : Nat) (t : List Char) :
    trimLast (joinText line t siblings) = joinText line (trimEnd t) siblings := by
  by_cases ht : t.isEmpty = true
  · rw [List.isEmpty_iff.mp ht, joinText_of_isEmpty rfl, trimEnd_nil, joinText_of_isEmpty rfl,
      trimLast_of_no_text h]
  · have ht : t.isEmpty = false := by simpa using ht
    rw [joinText_of_no_text ht line h, Node.leaf, trimLast_of_text, String.toList_ofList]
    split
    · rename_i he
      rw [joinText_of_isEmpty he]
    · rename_i he
      rw [joinText_of_no_text (by simpa using he) line h, Node.leaf]

/-- A text that is trimmed by the dashes on its sides is the trimmed text. -/
theorem bare_addText {b : Builder} (h : b.Apart) (line : Nat) (t : List Char) (dashes : Dashes) :
    ((b.addText line t).applyDashes dashes).bare =
      b.bare.joined (trimBetween b.trimNext dashes.left t) := by
  have siblings : (b.addText line t).siblings =
      joinText line (if b.trimNext then trimStart t else t) b.siblings := by
    rw [addText]
    split
    · rename_i ht
      rw [List.isEmpty_iff.mp ht, trimStart_nil, ite_self, joinText_of_isEmpty rfl]
    · rfl
  have frames : (b.addText line t).frames = b.frames := by
    rw [addText]
    split <;> rfl
  have dashed : ((b.addText line t).applyDashes dashes).siblings =
      joinText line (trimBetween b.trimNext dashes.left t) b.siblings := by
    rw [applyDashes, siblings, trimBetween]
    split
    · exact trimLast_joinText h line _
    · rfl
  rw [bare, unlined, applyDashes_frames, frames, dashed, ← joinText_unlined]
  rfl

/-! ## Adding without dashes -/

/-- The outcome of a step with all lines forgotten and nothing to be trimmed. -/
def bareStep (outcome : Except CompileFault Builder) : Except CompileFault Builder :=
  (outcome.map bare).mapError CompileFault.unlined

/-- A tag does not look at what is to be trimmed. -/
theorem tag_trimNext (b : Builder) (present : Bool) (line : Nat) (keyword : Keyword)
    (args : List Char) :
    { b with trimNext := present }.tag line keyword args =
      (b.tag line keyword args).map fun next => { next with trimNext := present } := by
  have read {α : Type} {tag : String} (r : Except SyntaxFault α) {there here : α → Builder}
      (h : ∀ a, there a = { here a with trimNext := present }) :
      (onTag line tag r >>= fun a => pure (there a)) =
        (onTag line tag r >>= fun a => pure (here a)).map fun next =>
          { next with trimNext := present } := by
    cases r with
    | error fault => rfl
    | ok a => exact congrArg Except.ok (h a)
  have branch (k : Keyword) (test : Except CompileFault (Option Expr)) :
      { b with trimNext := present }.nextBranch line k test =
        (b.nextBranch line k test).map fun next => { next with trimNext := present } := by
    rcases b with ⟨_ | ⟨⟨tag, start, outer⟩, frames⟩, siblings, trimNext⟩
    · rfl
    · cases tag with
      | conditional negated branches oldTest negate branchLine isSealed =>
        cases isSealed with
        | true => rfl
        | false => cases test <;> rfl
      | _ => rfl
  cases keyword with
  | opening c => cases c <;> exact read _ fun _ => rfl
  | closing c =>
    rw [tag, tag, close.eq_def, close.eq_def]
    cases b.frames with
    | nil => rfl
    | cons frame frames =>
      simp only
      split <;> rfl
  | elseIf => exact branch _ _
  | otherwise => exact branch _ _
  | «include» => exact read _ fun _ => rfl
  | layout => exact read _ fun _ => rfl
  | assign => exact read _ fun _ => rfl
  | regionEnd r => rfl

/-- Adding an output or a tag trims what its dashes ask for and adds it without them. -/
theorem bareStep_add (b : Builder) (d : Delimiter) (line : Nat) (dashes : Dashes)
    (body : List Char) : bareStep (b.add (d.piece line dashes body)) =
      (b.applyDashes dashes).bare.add (d.piece 0 .absent body) := by
  have forgotten : bareStep (b.add (d.piece line dashes body)) =
      (b.unlined.add (d.piece 0 dashes body)).map fun next => { next with trimNext := false } := by
    have h := b.add_unlined (d.piece line dashes body)
    have piece : (d.piece line dashes body).unlined = d.piece 0 dashes body := by
      cases d <;> rfl
    rw [piece] at h
    rw [h]
    cases b.add (d.piece line dashes body) <;> rfl
  rw [forgotten, bare, ← applyDashes_unlined]
  cases d with
  | output =>
    rw [Delimiter.piece, add, Delimiter.piece, add]
    cases Output.parse body <;> rfl
  | tag =>
    rw [Delimiter.piece, add, Delimiter.piece, add]
    split
    · rfl
    · split
      · rfl
      · exact (tag_trimNext _ false 0 _ _).symm

theorem apart_of_add {b next : Builder} {d : Delimiter} {line : Nat} {dashes : Dashes}
    {body : List Char} (h : b.add (d.piece line dashes body) = .ok next) :
    next.Apart ∧ next.trimNext = dashes.right := by
  have nothing : ∀ node ∈ ([] : List Node).head?, node.text? = none := by simp
  have first {node : Node} (hn : node.text? = none) (rest : List Node) :
      ∀ other ∈ (node :: rest).head?, other.text? = none := by
    rintro _ ⟨⟩
    exact hn
  cases d with
  | output =>
    cases adds_of_add h with
    | output line dashes body read => exact ⟨first rfl _, rfl⟩
  | tag =>
    cases adds_of_add h with
    | closing line dashes c name keyword frame construct =>
      exact ⟨first (OpenTag.text?_node ..) _, rfl⟩
    | assign line dashes name keyword read => exact ⟨first rfl _, rfl⟩
    | «include» line dashes name keyword read => exact ⟨first rfl _, rfl⟩
    | _ => exact ⟨nothing, rfl⟩

theorem withoutLines_finish (b : Builder) :
    withoutLines (b.finish.mapError .fault) =
      (finishFrames b.bare.siblings b.bare.frames).mapError .fault := by
  have h : finishFrames b.bare.siblings b.bare.frames = unlinedOutcome b.finish :=
    finishFrames_unlined b.siblings b.frames
  rw [h]
  cases b.finish <;> rfl

/-- The text at the end of a source is trimmed by the dash before it only. -/
theorem compileFrom_last {b : Builder} (h : b.Apart) {t : List Char} (ht : Inert t) (line : Nat) :
    withoutLines (b.compileFrom line t) =
      (finishFrames (b.bare.joined (trimBetween b.trimNext false t)).siblings
        b.bare.frames).mapError .fault := by
  rcases compileFrom_inert ht (Or.inl rfl) b line with ⟨line', hc⟩
  have hf := withoutLines_finish ((b.addText line t).applyDashes .absent)
  rw [bare_addText h] at hf
  rw [List.append_nil, compileFrom_nil] at hc
  rw [hc]
  exact hf

/-- A text and the output or the tag after it are added, the text being trimmed by the dashes on its
two sides, before what follows them is cut. -/
theorem compileFrom_mark {b : Builder} (h : b.Apart) {t : List Char} (ht : Inert t) {d : Delimiter}
    {body : List Char} (hb : d.Encloses body) (dashes : Dashes) (line : Nat) (more : List Char) :
    ∃ line' outcome,
      b.compileFrom line (t ++ (enclosed d.first d.last dashes body ++ more)) =
        (outcome.mapError .fault >>= fun next => next.compileFrom line' more) ∧
      (∀ next, outcome = .ok next → next.Apart ∧ next.trimNext = dashes.right) ∧
      bareStep outcome = (b.bare.joined (trimBetween b.trimNext dashes.left t)).add
        (d.piece 0 .absent body) := by
  rcases compileFrom_inert ht (d.opens dashes body more) b line with ⟨line₁, h₁⟩
  rcases compileFrom_enclosed hb dashes (b.addText line t) line₁ more with ⟨line₂, h₂⟩
  refine ⟨line₂, _, h₁.trans h₂, fun next => apart_of_add, ?_⟩
  rw [bareStep_add, bare_addText h]

/-- From builders that differ in lines only a source and its trimmed form compile alike. -/
theorem compileFrom_trimmed {m : Markup} {b c : Builder} (alike : b.bare = c.bare)
    (apart : b.Apart) (apart' : c.Apart) (untrimmed : c.trimNext = false)
    (texts : ∀ t ∈ m.texts, Inert t) (trimmed : ∀ t ∈ (m.trimmed b.trimNext).texts, Inert t)
    (bodies : ∀ part ∈ m.bodies, part.1.Encloses part.2) (line line' : Nat) :
    withoutLines (b.compileFrom line m.chars) =
      withoutLines (c.compileFrom line' (m.trimmed b.trimNext).chars) := by
  -- What carries the induction is that no text stands last after an output or a tag: a dash trims
  -- the text next to it and nothing before that.
  induction m generalizing b c line line' with
  | last t =>
    have whole : Inert t := texts t (List.mem_singleton_self t)
    have cut : Inert (trimBetween b.trimNext false t) := trimmed _ (List.mem_singleton_self _)
    rw [Markup.chars, Markup.trimmed, Markup.chars, compileFrom_last apart whole,
      compileFrom_last apart' cut, alike, untrimmed]
    rfl
  | mark t d dashes body rest ih =>
    rw [Markup.texts, List.forall_mem_cons] at texts
    rw [Markup.trimmed, Markup.texts, List.forall_mem_cons] at trimmed
    rw [Markup.bodies, List.forall_mem_cons] at bodies
    rcases compileFrom_mark apart texts.1 bodies.1 dashes line rest.chars with
      ⟨line₁, first, h₁, after₁, bare₁⟩
    rcases compileFrom_mark apart' trimmed.1 bodies.1 .absent line'
      (rest.trimmed dashes.right).chars with ⟨line₂, second, h₂, after₂, bare₂⟩
    have same : bareStep first = bareStep second := by
      rw [bare₁, bare₂, alike, untrimmed]
      rfl
    rw [Markup.chars, Markup.trimmed, Markup.chars, h₁, h₂]
    cases first with
    | error e =>
      cases second with
      | error e' =>
        have refused : e.unlined = e'.unlined := Except.error.inj same
        exact congrArg (fun e => Except.error (Failure.fault e)) refused
      | ok next' => cases same
    | ok next =>
      cases second with
      | error e' => cases same
      | ok next' =>
        rcases after₁ next rfl with ⟨apart, hright⟩
        rcases after₂ next' rfl with ⟨apart', untrimmed⟩
        rw [← hright] at trimmed
        have rest_alike := ih (Except.ok.inj same) apart apart' untrimmed texts.2 trimmed.2 bodies.2
          line₁ line₂
        rw [hright] at rest_alike
        exact rest_alike

end Builder

/-- Compiling with dashes is compiling trimmed texts without them: the same tree, or the same
failure, line numbers aside. -/
theorem compile_trimmed {m : Markup} (texts : ∀ t ∈ m.texts, Inert t)
    (trimmed : ∀ t ∈ (m.trimmed false).texts, Inert t)
    (bodies : ∀ part ∈ m.bodies, part.1.Encloses part.2) :
    withoutLines (compile (String.ofList m.chars)) =
      withoutLines (compile (String.ofList (m.trimmed false).chars)) := by
  have apart : Builder.empty.Apart := by simp [Builder.Apart, Builder.empty]
  rw [Builder.compile_eq_compileFrom, Builder.compile_eq_compileFrom, String.toList_ofList,
    String.toList_ofList]
  exact Builder.compileFrom_trimmed rfl apart apart rfl texts trimmed bodies 1 1

/-- Dashes around the tags of a conditional, one of them next to a text that is trimmed away. -/
theorem compile_trimmed_of_conditional :
    let m := Markup.mark ['a', ' '] .tag ⟨true, true⟩ " if x ".toList
      (.mark [' ', '\n'] .output ⟨false, true⟩ ['y']
        (.mark [' ', 'b'] .tag ⟨false, true⟩ " endif ".toList (.last [' ', 'c'])))
    String.ofList m.chars =
        "a \x7b%- if x -%\x7d \n\x7b\x7by-\x7d\x7d b\x7b% endif -%\x7d c" ∧
      String.ofList (m.trimmed false).chars =
        "a\x7b% if x %\x7d\x7b\x7by\x7d\x7db\x7b% endif %\x7dc" ∧
      withoutLines (compile (String.ofList m.chars)) =
        withoutLines (compile (String.ofList (m.trimmed false).chars)) := by
  intro m
  have inert : ∀ t ∈ m.texts ++ (m.trimmed false).texts, Inert t := by
    have plain : ∀ t ∈ m.texts ++ (m.trimmed false).texts, '\x7b' ∉ t := by decide +kernel
    intro t ht
    exact ⟨⟨fun h => plain t ht (h.subset (by simp)), fun h => plain t ht (h.subset (by simp))⟩,
      fun h => plain t ht (List.mem_of_getLast? h)⟩
  have bodies : ∀ part ∈ m.bodies, part.1.Encloses part.2 := by
    have checked : ∀ part ∈ m.bodies,
        splitAtClosing part.1.last none (part.2 ++ [part.1.last, '\x7d']) = some (part.2, []) ∧
          part.2.head? ≠ some '-' ∧ part.2.getLast? ≠ some '-' ∧
          Region.ofName? (splitName part.2).1 = none := by
      decide +kernel
    intro part hp
    rcases checked part hp with ⟨closed, head, tail, region⟩
    exact ⟨closed, head, tail, fun _ => region⟩
  exact ⟨by decide +kernel, by decide +kernel,
    compile_trimmed (fun t ht => inert t (List.mem_append_left _ ht))
      (fun t ht => inert t (List.mem_append_right _ ht)) bodies⟩

end TemplateSite
