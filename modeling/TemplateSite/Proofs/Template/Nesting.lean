import TemplateSite.Proofs.Template.Refusal

/-!
# Tags left open

The pieces of a source open and close tags in pairs. The tags that are open at some place are those
whose counterpart has not come yet, and what stands after the innermost of them is balanced. That is
the tag for which a source is refused whose tags all fit.
-/
namespace TemplateSite

def Piece.keyword? : Piece → Option Keyword
  | .tag _ _ name _ => Keyword.ofName? name
  | _ => none

/-- Whether a tag opens or closes anything. -/
def Keyword.nests : Keyword → Bool
  | .opening _ | .closing _ | .layout => true
  | _ => false

/-- Pieces in which every tag that is opened is closed by its counterpart, and nothing else is
closed. -/
inductive Balanced : List Piece → Prop where
  | nil : Balanced []
  | neutral {p : Piece} {ps : List Piece} (keyword : ∀ k ∈ p.keyword?, k.nests = false)
    (more : Balanced ps) : Balanced (p :: ps)
  | nested {p q : Piece} {inner ps : List Piece} (c : Construct)
    (opening : p.keyword? = some (.opening c)) (inside : Balanced inner)
    (closing : q.keyword? = some (.closing c)) (more : Balanced ps) :
    Balanced (p :: (inner ++ q :: ps))

theorem Balanced.append {ps qs : List Piece} (hp : Balanced ps) (hq : Balanced qs) :
    Balanced (ps ++ qs) := by
  induction hp with
  | nil => exact hq
  | neutral keyword more ih => exact .neutral keyword ih
  | nested c opening inside closing more _ ih =>
    rw [List.cons_append, List.append_assoc, List.cons_append]
    exact .nested c opening inside closing ih

/-- Tags that are open, innermost first, with their lines. A layout has no counterpart. -/
abbrev OpenTags := List (Option Construct × Nat)

/-- The tags that are open after pieces. What stands after the innermost one is balanced. -/
inductive Leaves : List Piece → OpenTags → Prop where
  | none {ps : List Piece} (balanced : Balanced ps) : Leaves ps []
  | layout {front after : List Piece} {p : Piece} (outer : Leaves front [])
    (keyword : p.keyword? = some .layout) (balanced : Balanced after) :
    Leaves (front ++ p :: after) [(.none, p.line)]
  | tag {front after : List Piece} {p : Piece} {tags : OpenTags} (c : Construct)
    (outer : Leaves front tags) (keyword : p.keyword? = some (.opening c))
    (balanced : Balanced after) : Leaves (front ++ p :: after) ((some c, p.line) :: tags)

theorem Leaves.append {ps qs : List Piece} {tags : OpenTags} (h : Leaves ps tags)
    (hq : Balanced qs) : Leaves (ps ++ qs) tags := by
  cases h with
  | none balanced => exact .none (balanced.append hq)
  | layout outer keyword balanced =>
    rw [List.append_assoc, List.cons_append]
    exact .layout outer keyword (balanced.append hq)
  | tag c outer keyword balanced =>
    rw [List.append_assoc, List.cons_append]
    exact .tag c outer keyword (balanced.append hq)

/-- What a piece does to the tags that are open. -/
inductive Turns (p : Piece) : OpenTags → OpenTags → Prop where
  | keeps {tags : OpenTags} (keyword : ∀ k ∈ p.keyword?, k.nests = false) : Turns p tags tags
  | opens {tags : OpenTags} (c : Construct) (keyword : p.keyword? = some (.opening c)) :
    Turns p tags ((some c, p.line) :: tags)
  | lays (keyword : p.keyword? = some .layout) : Turns p [] [(none, p.line)]
  | closes {tags : OpenTags} (c : Construct) (line : Nat)
    (keyword : p.keyword? = some (.closing c)) : Turns p ((some c, line) :: tags) tags

theorem Leaves.turns {ps : List Piece} {p : Piece} {tags tags' : OpenTags} (h : Leaves ps tags)
    (hp : Turns p tags tags') : Leaves (ps ++ [p]) tags' := by
  cases hp with
  | keeps keyword => exact h.append (.neutral keyword .nil)
  | opens c keyword => exact .tag c h keyword .nil
  | lays keyword => exact .layout h keyword .nil
  | closes c line keyword =>
    cases h with
    | tag _ outer opening balanced =>
      rw [List.append_assoc, List.cons_append]
      exact outer.append (.nested c opening balanced keyword .nil)

namespace Builder

def openTags (b : Builder) : OpenTags :=
  b.frames.map fun frame => (frame.tag.construct?, frame.line)

theorem openTags_of_frames {b : Builder} {tag : OpenTag} {start : Nat} {outer : List Node}
    {frames : List Frame} (h : b.frames = ⟨tag, start, outer⟩ :: frames) :
    b.openTags = (tag.construct?, start) :: frames.map fun f => (f.tag.construct?, f.line) := by
  rw [openTags, h]
  rfl

theorem openTags_applyDashes (b : Builder) (dashes : Dashes) :
    (b.applyDashes dashes).openTags = b.openTags := rfl

theorem openTags_enter (b : Builder) (tag : OpenTag) (line : Nat) :
    (b.enter tag line).openTags = (tag.construct?, line) :: b.openTags := rfl

theorem Adds.turns {b b' : Builder} {p : Piece} (h : Adds b p b') :
    Turns p b.openTags b'.openTags := by
  have plain {k : Keyword} (hp : p.keyword? = some k) (hk : k.nests = false) :
      ∀ k ∈ p.keyword?, k.nests = false := by
    intro k' hk'
    rw [hp] at hk'
    cases hk'
    exact hk
  cases h with
  | text line s => exact .keeps (by rintro _ ⟨⟩)
  | output line dashes body read => exact .keeps (by rintro _ ⟨⟩)
  | raw line opening body closing => exact .keeps (by rintro _ ⟨⟩)
  | comment line opening closing => exact .keeps (by rintro _ ⟨⟩)
  | assign line dashes name keyword read => exact .keeps (plain keyword rfl)
  | «include» line dashes name keyword read => exact .keeps (plain keyword rfl)
  | conditional line dashes negated name keyword read => exact .opens (.conditional negated) keyword
  | loop line dashes name keyword read => exact .opens .loop keyword
  | block line dashes name keyword read => exact .opens .block keyword
  | layout line dashes name keyword top read bare =>
    have hb : b.openTags = [] := by
      rw [openTags, top]
      rfl
    rw [openTags_enter, openTags_applyDashes, hb]
    exact .lays keyword
  | elseIf line dashes name keyword read frame =>
    rw [openTags_of_frames frame]
    exact .keeps (plain keyword rfl)
  | otherwise line dashes name keyword frame =>
    rw [openTags_of_frames frame]
    exact .keeps (plain keyword rfl)
  | closing line dashes c name keyword frame construct =>
    rw [openTags_of_frames frame, construct]
    exact .closes c _ keyword

theorem leaves_addAll {b b' : Builder} {before ps : List Piece} (hb : Leaves before b.openTags)
    (h : b.addAll ps = .ok b') : Leaves (before ++ ps) b'.openTags := by
  induction ps generalizing b before with
  | nil =>
    cases h
    rwa [List.append_nil]
  | cons p ps ih =>
    rw [addAll_cons] at h
    rcases bind_eq_ok_iff.mp h with ⟨next, hp, h⟩
    have hn := ih (hb.turns (adds_of_add hp).turns) h
    rwa [List.append_assoc] at hn

/-- At the end of a source, the fault is that of the innermost open tag. -/
theorem finish_eq_error {b : Builder} {ps : List Piece} {e : CompileFault}
    (hb : Leaves ps b.openTags) (h : b.finish = .error e) :
    ∃ front p after c, ps = front ++ p :: after ∧ p.keyword? = some (.opening c) ∧
      Balanced after ∧ e = .unclosed p.line c.name := by
  rcases finishFrames_eq_error h with ⟨layouts, frame, more, c, hframes, hl, hc, rfl⟩
  rw [openTags, hframes, List.map_append, List.map_cons, hc] at hb
  cases layouts with
  | nil =>
    generalize hline : frame.line = line at hb
    cases hb with
    | tag _ outer keyword balanced => exact ⟨_, _, _, c, rfl, keyword, balanced, rfl⟩
  | cons first layouts =>
    rw [List.map_cons, hl first (List.mem_cons_self ..), List.cons_append] at hb
    generalize hline : first.line = line at hb
    generalize hrest : layouts.map (fun f => (f.tag.construct?, f.line)) ++ _ = rest at hb
    cases hb with
    | layout outer keyword balanced => exact absurd hrest (by simp)

end Builder

theorem Tiled.split {before s : List Char} {ps qs : List Piece} {p : Piece}
    (h : Tiled before s (ps ++ p :: qs)) :
    ∃ front chunk after, s = front ++ (chunk ++ after) ∧ Tiled before front ps ∧
      p.Spelled chunk ∧ p.line = 1 + lineEnds (before ++ front) ∧
      Tiled (before ++ front ++ chunk) after qs := by
  induction ps generalizing before s with
  | nil =>
    cases h with
    | @cons _ chunk rest _ _ spelled place more =>
      exact ⟨[], chunk, rest, rfl, .nil before, spelled, by rwa [List.append_nil],
        by rwa [List.append_nil]⟩
  | cons q ps ih =>
    cases h with
    | @cons _ first rest _ _ spelled place more =>
      rcases ih more with ⟨front, chunk, after, rfl, hfront, hp, hline, hafter⟩
      refine ⟨first ++ front, chunk, after, by simp, .cons spelled place hfront, hp, ?_, ?_⟩
      · rwa [← List.append_assoc]
      · rwa [← List.append_assoc before]

/-- The stretch `tag` of a source, which stands between `before` and `after`, is a tag that opens a
construct, and the pieces after it are balanced: no tag further in is open at the end. -/
def InnermostOpen (c : Construct) (before tag after : List Char) : Prop :=
  ∃ front p rest, pieces 1 (before ++ (tag ++ after)) = (front ++ p :: rest, .finished) ∧
    Tiled [] before front ∧ p.Spelled tag ∧ p.keyword? = some (.opening c) ∧
    Tiled (before ++ tag) after rest ∧ Balanced rest

/-- A source whose tags all fit and that is cut to its end is refused for the innermost tag that is
left open. -/
theorem exists_innermostOpen {source : String} {line : Nat} {name : String}
    (h : compile source = .error (.fault (.unclosed line name)))
    (hn : ∀ region : Region, name ≠ region.name) :
    ∃ c before tag after, source.toList = before ++ (tag ++ after) ∧
      InnermostOpen c before tag after ∧ line = 1 + lineEnds before ∧ name = c.name := by
  rw [Builder.compile_eq_compileFrom, Builder.compileFrom] at h
  rcases bind_eq_error_iff.mp h with h | ⟨b, hb, h⟩
  · rcases mapError_eq_error_iff.mp h with ⟨cause, hc, he⟩
    cases he
    exact absurd (Builder.ofTag_of_addAll hc) (by simp [CompileFault.ofTag])
  · cases hs : (pieces 1 source.toList).2 with
    | failed failure =>
      rw [hs] at h
      cases h
      cases cutFails_of_pieces hs with
      | unclosed _ region => exact absurd rfl (hn region)
    | finished =>
      rw [hs] at h
      rcases mapError_eq_error_iff.mp h with ⟨cause, hf, he⟩
      cases he
      have hl := Builder.leaves_addAll (b := Builder.empty) (.none .nil) (mapError_eq_ok_iff.mp hb)
      rcases Builder.finish_eq_error hl hf with ⟨front, p, rest, c, hp, keyword, balanced, he⟩
      cases he
      rw [List.nil_append] at hp
      have tiled : Tiled [] source.toList (pieces 1 source.toList).1 := tiled_pieces rfl hs
      rw [hp] at tiled
      rcases tiled.split with ⟨before, tag, after, heq, hfront, spelled, hline, hafter⟩
      refine ⟨c, before, tag, after, heq, ⟨front, p, rest, ?_, hfront, spelled, keyword, hafter,
        balanced⟩, hline, rfl⟩
      rw [← heq, ← hp, ← hs]

/-- Whether a source is refused does not depend on what follows the tag that decides. A fault of a
single tag is that of the first tag or output that is refused, on the line where it starts, and
stays the same however the source goes on. A fault of a construct left open is that of the innermost
tag that is open at the end. -/
theorem compile_decided {source : String} {e : CompileFault}
    (h : compile source = .error (.fault e)) :
    (e.ofTag = true → (∃ before tag after, source.toList = before ++ (tag ++ after) ∧
        Builder.empty.Offends 1 e before tag ∧ e.line = 1 + lineEnds before) ∧
      ∀ more, compile (source ++ more) = .error (.fault e)) ∧
    ∀ line name, e = .unclosed line name → (∀ region : Region, name ≠ region.name) →
      ∃ c before tag after, source.toList = before ++ (tag ++ after) ∧
        InnermostOpen c before tag after ∧ line = 1 + lineEnds before ∧ name = c.name := by
  refine ⟨?_, ?_⟩
  · intro he
    rw [Builder.compile_eq_compileFrom] at h
    rcases Builder.exists_offends h he with ⟨before, tag, after, hs, -, offends⟩
    refine ⟨⟨before, tag, after, hs, offends, offends.place⟩, ?_⟩
    intro more
    rw [Builder.compile_eq_compileFrom, String.toList_append, hs, List.append_assoc,
      List.append_assoc]
    exact offends.lasting (after ++ more.toList)
  · rintro line name rfl hn
    exact exists_innermostOpen h hn

/-- An `else` outside all conditionals on the second line, and a block that is left open there after
a conditional that is closed and inside a loop that is left open too. -/
theorem compile_decided_of_else :
    (∀ more, compile ("a\n\x7b% else %\x7d" ++ more) =
      .error (.fault (.unexpectedTag 2 "else"))) ∧
    let source := "\x7b% for x in y %\x7d\n\x7b% block b %\x7d\x7b% if x %\x7d\x7b% endif %\x7d"
    ∃ c before tag after, source.toList = before ++ (tag ++ after) ∧
      InnermostOpen c before tag after ∧ 2 = 1 + lineEnds before ∧ "block" = c.name := by
  have unexpected : (compile "a\n\x7b% else %\x7d").map (fun _ => ()) =
      .error (.fault (.unexpectedTag 2 "else")) := by
    decide +kernel
  refine ⟨((compile_decided (map_eq_error_iff.mp unexpected)).1 rfl).2, ?_⟩
  intro source
  have unclosed : (compile source).map (fun _ => ()) =
      .error (.fault (.unclosed 2 "block")) := by
    decide +kernel
  refine (compile_decided (map_eq_error_iff.mp unclosed)).2 2 "block" rfl ?_
  intro region
  cases region <;> decide

end TemplateSite
