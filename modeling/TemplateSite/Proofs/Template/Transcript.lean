import TemplateSite.Proofs.Template.Position
import TemplateSite.Template.Builder

/-!
# Transcripts

The transcript of pieces is what they give from left to right, one entry for each node. It knows
nothing of open tags. It keeps the text under way, which every output and every tag ends, and
whether the next text is trimmed. The entries stand in the order of their lines if the pieces tile a
source.
-/
namespace TemplateSite
open Text

/-- A node without the nodes inside it. -/
structure Entry where
  kind : NodeKind
  line : Nat
  file : Option String

namespace Node

mutual

/-- A node and the nodes inside it, each before those inside it. -/
def entries : Node → List Entry
  | .mk kind line file children => ⟨kind, line, file⟩ :: entriesOf children

def entriesOf : Option (List Node) → List Entry
  | none => []
  | some nodes => entriesAll nodes

def entriesAll : List Node → List Entry
  | [] => []
  | node :: rest => node.entries ++ entriesAll rest

end

@[simp] theorem entriesAll_nil : entriesAll [] = [] := by
  rw [entriesAll]

@[simp] theorem entriesAll_cons (node : Node) (nodes : List Node) :
    entriesAll (node :: nodes) = node.entries ++ entriesAll nodes := by
  rw [entriesAll]

@[simp] theorem entriesAll_append (first rest : List Node) :
    entriesAll (first ++ rest) = entriesAll first ++ entriesAll rest := by
  induction first with
  | nil => simp
  | cons node first ih => simp [ih]

@[simp] theorem entries_container (kind : NodeKind) (line : Nat) (nodes : List Node) :
    (container kind line nodes).entries = ⟨kind, line, none⟩ :: entriesAll nodes := by
  rw [container, entries, entriesOf]

end Node

/-- The text under way: the line it starts on and its characters, of which there is at least one. -/
abbrev TextRun := Option (Nat × List Char)

namespace TextRun

/-- Continues the text under way, or starts one on the given line. -/
def join (line : Nat) (s : List Char) (run : TextRun) : TextRun :=
  if s.isEmpty then run
  else
    match run with
    | none => some (line, s)
    | some (start, t) => some (start, t ++ s)

/-- The text under way as the dashes of what follows leave it. -/
def before (dashes : Dashes) (run : TextRun) : TextRun :=
  if dashes.left then
    run.bind fun (line, s) => if (trimEnd s).isEmpty then none else some (line, trimEnd s)
  else run

def entries : TextRun → List Entry
  | none => []
  | some (line, s) => [⟨.text (String.ofList s), line, none⟩]

end TextRun

/-- The entries that a tag gives. -/
inductive Keyword.Gives (line : Nat) (args : List Char) : Keyword → List Entry → Prop where
  | conditional {test : Expr} (negated : Bool) (read : Expr.parseCondition args = .ok test) :
    Gives line args (.opening (.conditional negated))
      [⟨.conditional, line, none⟩, ⟨.branch (some test) negated, line, none⟩]
  | elseIf {test : Expr} (read : Expr.parseCondition args = .ok test) :
    Gives line args .elseIf [⟨.branch (some test) false, line, none⟩]
  | otherwise : Gives line args .otherwise [⟨.branch none false, line, none⟩]
  | loop {spec : LoopSpec} (read : LoopSpec.parse args = .ok spec) :
    Gives line args (.opening .loop) [⟨.loop spec, line, none⟩]
  | block {label : String} (read : Builder.blockName args = .ok label) :
    Gives line args (.opening .block) [⟨.block label, line, none⟩]
  | include {ref : FileRef} (read : FileRef.parse args = .ok ref) :
    Gives line args .include [⟨.include ref.args, line, some ref.raw⟩]
  | layout {ref : FileRef} (read : FileRef.parse args = .ok ref) :
    Gives line args .layout [⟨.layout, line, some ref.raw⟩]
  | assign {name : String} {value : Output}
    (read : Output.parseAssignment args = .ok (name, value)) :
    Gives line args .assign [⟨.assign name value, line, none⟩]
  | closing (c : Construct) : Gives line args (.closing c) []

/-- The entries that pieces give after the text under way, of which the next one is trimmed at its
front if that is wanted. -/
inductive Transcript : TextRun → Bool → List Piece → List Entry → Prop where
  | nil (run : TextRun) (trimNext : Bool) : Transcript run trimNext [] run.entries
  | text {run : TextRun} {trimNext : Bool} {ps : List Piece} {es : List Entry} (line : Nat)
    (s : List Char)
    (more : Transcript (run.join line (if trimNext then trimStart s else s)) false ps es) :
    Transcript run trimNext (.text line s :: ps) es
  | output {run : TextRun} {ps : List Piece} {es : List Entry} {o : Output} (trimNext : Bool)
    (line : Nat) (dashes : Dashes) (body : List Char) (read : Output.parse body = .ok o)
    (more : Transcript none dashes.right ps es) :
    Transcript run trimNext (.output line dashes body :: ps)
      ((run.before dashes).entries ++ ([⟨.output o, line, none⟩] ++ es))
  | tag {run : TextRun} {ps : List Piece} {es given : List Entry} {keyword : Keyword}
    {name args : List Char} (trimNext : Bool) (line : Nat) (dashes : Dashes)
    (known : Keyword.ofName? name = some keyword) (gives : keyword.Gives line args given)
    (more : Transcript none dashes.right ps es) :
    Transcript run trimNext (.tag line dashes name args :: ps)
      ((run.before dashes).entries ++ (given ++ es))
  | raw {run : TextRun} {ps : List Piece} {es : List Entry} (trimNext : Bool) (line : Nat)
    (opening : Dashes) (body : List Char) (closing : Dashes)
    (more : Transcript ((run.before opening).join line
      (if opening.right then trimStart (if closing.left then trimEnd body else body)
        else if closing.left then trimEnd body else body)) closing.right ps es) :
    Transcript run trimNext (.raw line opening body closing :: ps) es
  | comment {run : TextRun} {ps : List Piece} {es : List Entry} (trimNext : Bool) (line : Nat)
    (opening closing : Dashes) (more : Transcript (run.before opening) closing.right ps es) :
    Transcript run trimNext (.comment line opening closing :: ps) es

/-- Entries on lines that do not decrease. -/
def InLineOrder (es : List Entry) : Prop :=
  es.Pairwise fun a b => a.line ≤ b.line

theorem Keyword.Gives.line_eq {line : Nat} {args : List Char} {keyword : Keyword}
    {given : List Entry} (h : keyword.Gives line args given) : ∀ e ∈ given, e.line = line := by
  cases h <;> simp

theorem TextRun.line_of_join {line start : Nat} {s t : List Char} {run : TextRun}
    (h : run.join line s = some (start, t)) : start = line ∨ ∃ t', run = some (start, t') := by
  rw [join.eq_def] at h
  split at h
  · exact Or.inr ⟨t, h⟩
  · split at h
    · cases h
      exact Or.inl rfl
    · cases h
      exact Or.inr ⟨_, rfl⟩

theorem TextRun.line_of_before {dashes : Dashes} {start : Nat} {t : List Char} {run : TextRun}
    (h : run.before dashes = some (start, t)) : ∃ t', run = some (start, t') := by
  rw [before] at h
  split at h
  · rcases Option.bind_eq_some_iff.mp h with ⟨⟨line, s⟩, rfl, hs⟩
    simp only at hs
    split at hs
    · cases hs
    · cases hs
      exact ⟨s, rfl⟩
  · exact ⟨t, h⟩

/-- The text under way starts on one of the lines from `low` to `high`. -/
def TextRun.Within (low high : Nat) (run : TextRun) : Prop :=
  ∀ start t, run = some (start, t) → low ≤ start ∧ start ≤ high

theorem TextRun.within_none (low high : Nat) : Within low high none := by
  intro start t h
  cases h

theorem TextRun.Within.mono {low high later : Nat} {run : TextRun} (h : run.Within low high)
    (hl : high ≤ later) : run.Within low later := by
  intro start t hr
  have := h start t hr
  omega

theorem TextRun.Within.join {low line : Nat} {run : TextRun} (h : run.Within low line)
    (hl : low ≤ line) (s : List Char) : (run.join line s).Within low line := by
  intro start t hr
  rcases line_of_join hr with rfl | ⟨t', hr⟩
  · exact ⟨hl, Nat.le_refl start⟩
  · exact h start t' hr

theorem TextRun.Within.before {low line : Nat} {run : TextRun} (h : run.Within low line)
    (dashes : Dashes) : (run.before dashes).Within low line := by
  intro start t hr
  rcases line_of_before hr with ⟨t', hr⟩
  exact h start t' hr

theorem TextRun.Within.entries {low high : Nat} {run : TextRun} (h : run.Within low high) :
    ∀ e ∈ run.entries, low ≤ e.line ∧ e.line ≤ high := by
  intro e he
  cases run with
  | none => cases he
  | some found =>
    rcases found with ⟨start, t⟩
    rw [TextRun.entries, List.mem_singleton] at he
    subst he
    exact h start t rfl

theorem TextRun.inLineOrder (run : TextRun) : InLineOrder run.entries := by
  cases run with
  | none => exact .nil
  | some found => exact List.pairwise_singleton _ _

/-- A text under way, entries on the line that ends it and entries from there on are in order. -/
theorem inLineOrder_append {low line : Nat} {run : TextRun} {given es : List Entry}
    (hr : run.Within low line) (hl : low ≤ line) (hg : ∀ e ∈ given, e.line = line)
    (he : ∀ e ∈ es, line ≤ e.line) (ho : InLineOrder es) :
    (∀ e ∈ run.entries ++ (given ++ es), low ≤ e.line) ∧
      InLineOrder (run.entries ++ (given ++ es)) := by
  have later : ∀ e ∈ given ++ es, line ≤ e.line := by
    intro e h
    rcases List.mem_append.mp h with h | h
    · exact Nat.le_of_eq (hg e h).symm
    · exact he e h
  refine ⟨?_, ?_⟩
  · intro e h
    rcases List.mem_append.mp h with h | h
    · exact (hr.entries e h).1
    · exact Nat.le_trans hl (later e h)
  · refine List.pairwise_append.mpr ⟨run.inLineOrder, ?_, ?_⟩
    · refine List.pairwise_append.mpr ⟨?_, ho, ?_⟩
      · refine List.pairwise_iff_forall_sublist.mpr ?_
        intro a b hab
        have ha := hg a (hab.subset (by simp))
        have hb := hg b (hab.subset (by simp))
        omega
      · intro a ha b hb
        rw [hg a ha]
        exact he b hb
    · intro a ha b hb
      exact Nat.le_trans (hr.entries a ha).2 (later b hb)

theorem line_le_append (before chunk : List Char) :
    1 + lineEnds before ≤ 1 + lineEnds (before ++ chunk) := by
  rw [lineEnds_append]
  omega

theorem Transcript.inLineOrder {run : TextRun} {trimNext : Bool} {ps : List Piece}
    {es : List Entry} (h : Transcript run trimNext ps es) :
    ∀ {before s : List Char} {low : Nat}, Tiled before s ps → low ≤ 1 + lineEnds before →
      run.Within low (1 + lineEnds before) → (∀ e ∈ es, low ≤ e.line) ∧ InLineOrder es := by
  induction h with
  | nil run trimNext =>
    intro before s low _ _ hr
    exact ⟨fun e he => (hr.entries e he).1, run.inLineOrder⟩
  | text line s more ih =>
    intro before _ low ht hl hr
    cases ht with
    | @cons _ chunk rest _ _ spelled place tiled =>
      cases place
      have hn := line_le_append before chunk
      exact ih tiled (by omega) ((hr.join hl _).mono hn)
  | output trimNext line dashes body read more ih =>
    intro before _ low ht hl hr
    cases ht with
    | @cons _ chunk rest _ _ spelled place tiled =>
      cases place
      rcases ih tiled (line_le_append before chunk) (TextRun.within_none _ _) with ⟨he, ho⟩
      exact inLineOrder_append (hr.before dashes) hl (by simp) he ho
  | tag trimNext line dashes known gives more ih =>
    intro before _ low ht hl hr
    cases ht with
    | @cons _ chunk rest _ _ spelled place tiled =>
      cases place
      rcases ih tiled (line_le_append before chunk) (TextRun.within_none _ _) with ⟨he, ho⟩
      exact inLineOrder_append (hr.before dashes) hl gives.line_eq he ho
  | raw trimNext line opening body closing more ih =>
    intro before _ low ht hl hr
    cases ht with
    | @cons _ chunk rest _ _ spelled place tiled =>
      cases place
      have hn := line_le_append before chunk
      exact ih tiled (by omega) (((hr.before opening).join hl _).mono hn)
  | comment trimNext line opening closing more ih =>
    intro before _ low ht hl hr
    cases ht with
    | @cons _ chunk rest _ _ spelled place tiled =>
      cases place
      have hn := line_le_append before chunk
      exact ih tiled (by omega) ((hr.before opening).mono hn)

end TemplateSite
