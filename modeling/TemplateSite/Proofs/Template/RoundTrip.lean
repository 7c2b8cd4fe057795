import TemplateSite.Proofs.Template.Spelling

/-!
# Compiling undoes spelling

The tree of a source that spells a template is that template, line numbers aside. Compiling over the
spelling of nodes adds them to the siblings of any builder, whatever tags are open.
-/
namespace TemplateSite
open Text

namespace Builder

/-- A builder that trims nothing. -/
abbrev untrimmed (frames : List Frame) (siblings : List Node) : Builder :=
  ⟨frames, siblings, false⟩

theorem compileFrom_tagText (k : Keyword) {tail : List Char} (ht : Token.Apart tail)
    (hp : Passes '%' (tail ++ [' '])) {frames : List Frame} {siblings : List Node} {b : Builder}
    {line : Nat} (rest : List Char)
    (h : (untrimmed frames siblings).tag line k (trim tail) = .ok b) :
    ∃ line', (untrimmed frames siblings).compileFrom line (tagText k tail ++ rest) =
      b.compileFrom line' rest := by
  rcases cut_tagText k ht hp line rest with ⟨line', hc⟩
  refine ⟨line', compileFrom_of_piece hc ?_⟩
  rw [add_tag k.ofName?_name]
  exact h

theorem compileFrom_alone (k : Keyword) {frames : List Frame} {siblings : List Node} {b : Builder}
    {line : Nat} (rest : List Char) (h : (untrimmed frames siblings).tag line k [] = .ok b) :
    ∃ line', (untrimmed frames siblings).compileFrom line (k.alone ++ rest) =
      b.compileFrom line' rest :=
  compileFrom_tagText k (by simp [Token.Apart]) (passes_blank (Or.inr rfl)) rest h

theorem compileFrom_before (k : Keyword) {args : List Char} (hp : Passes '%' (args ++ [' ']))
    {frames : List Frame} {siblings : List Node} {b : Builder} {line : Nat} (rest : List Char)
    (h : (untrimmed frames siblings).tag line k (trim args) = .ok b) :
    ∃ line', (untrimmed frames siblings).compileFrom line (k.before args ++ rest) =
      b.compileFrom line' rest := by
  have hp : Passes '%' ([' '] ++ (args ++ [' '])) := (passes_blank (Or.inr rfl)).append hp
  refine compileFrom_tagText k ?_ hp rest h
  intro c hc
  cases hc
  rfl

/-- Compiling over the text adds one node, which is the given one but for its lines. -/
def ReadsNode (s : List Char) (node : Node) : Prop :=
  ∀ frames siblings line rest, ∃ line' found, Node.unlined found = node ∧
    (untrimmed frames siblings).compileFrom line (s ++ rest) =
      (untrimmed frames (found :: siblings)).compileFrom line' rest

/-- Compiling over the text adds nodes, which are the given ones but for their lines. A text among
them stays apart from the siblings before it. -/
def Reads (s : List Char) (nodes : List Node) : Prop :=
  ∀ frames siblings line rest, Opens rest →
    ((∀ node ∈ siblings.head?, Node.text? node = none) ∨
      ∀ node ∈ nodes.head?, Node.text? node = none) →
    ∃ line' found, Node.unlinedAll found = nodes ∧
      (untrimmed frames siblings).compileFrom line (s ++ rest) =
        (untrimmed frames (found.reverse ++ siblings)).compileFrom line' rest

/-- Inside any tags, compiling over the text adds the first nodes of the innermost one, which are
the given ones but for their lines. -/
def ReadsFirst (s : List Char) (nodes : List Node) : Prop :=
  ∀ frames line rest, Opens rest → ∃ line' found, Node.unlinedAll found = nodes ∧
    (untrimmed frames []).compileFrom line (s ++ rest) =
      (untrimmed frames found.reverse).compileFrom line' rest

theorem reads_nil : Reads [] [] := by
  intro frames siblings line rest _ _
  exact ⟨line, [], rfl, rfl⟩

theorem Reads.first {s : List Char} {nodes : List Node} (hs : Reads s nodes) :
    ReadsFirst s nodes := by
  intro frames line rest hr
  have nothing : ∀ node ∈ ([] : List Node).head?, Node.text? node = none := by simp
  rcases hs frames [] line rest hr (Or.inl nothing) with ⟨line', found, hf, h⟩
  rw [List.append_nil] at h
  exact ⟨line', found, hf, h⟩

theorem ReadsFirst.compileFrom {s : List Char} {nodes : List Node} (h : ReadsFirst s nodes)
    (frames : List Frame) (line : Nat) :
    ∃ found, Node.unlinedAll found = nodes ∧ (untrimmed frames []).compileFrom line s =
      (finishFrames found.reverse frames).mapError .fault := by
  rcases h frames line [] (Or.inl rfl) with ⟨line', found, hf, hc⟩
  refine ⟨found, hf, ?_⟩
  rw [List.append_nil] at hc
  rw [hc, compileFrom_nil, finish]

theorem ReadsFirst.compile {s : List Char} {nodes : List Node} (h : ReadsFirst s nodes) :
    ∃ found, TemplateSite.compile (String.ofList s) = .ok found ∧
      Node.unlinedAll found = nodes := by
  rcases h.compileFrom [] 1 with ⟨found, hf, hc⟩
  refine ⟨found, ?_, hf⟩
  rw [compile_eq_compileFrom, String.toList_ofList, Builder.empty, hc, finishFrames,
    List.reverse_reverse]
  rfl

theorem ReadsFirst.unlinedAll_of_compile {s : List Char} {nodes found : List Node}
    (h : ReadsFirst s nodes) (compiled : TemplateSite.compile (String.ofList s) = .ok found) :
    Node.unlinedAll found = nodes := by
  rcases h.compile with ⟨other, hother, same⟩
  rw [compiled] at hother
  cases hother
  exact same

theorem ReadsNode.cons {first s : List Char} {node : Node} {nodes : List Node}
    (hn : ReadsNode first node) (ht : node.text? = none) (hs : Reads s nodes) :
    Reads (first ++ s) (node :: nodes) := by
  intro frames siblings line rest hr _
  rcases hn frames siblings line (s ++ rest) with ⟨line₁, found, hf, h₁⟩
  have hft : ∀ other ∈ (found :: siblings).head?, Node.text? other = none := by
    intro other ho
    cases ho
    rw [← Node.text?_unlined, hf, ht]
  rcases hs frames (found :: siblings) line₁ rest hr (Or.inl hft) with ⟨line₂, more, hm, h₂⟩
  refine ⟨line₂, found :: more, by rw [Node.unlinedAll_cons, hf, hm], ?_⟩
  rw [List.append_assoc, h₁, h₂]
  simp

theorem ReadsNode.first {s : List Char} {node : Node} (hn : ReadsNode s node)
    (ht : node.text? = none) : ReadsFirst s [node] := by
  have h := (hn.cons ht reads_nil).first
  rwa [List.append_nil] at h

theorem reads_text {t s : List Char} {nodes : List Node} (nonempty : t ≠ []) (plain : Plain t)
    (last : t.getLast? ≠ some '\x7b') (apart : ∀ node ∈ nodes.head?, node.text? = none)
    (hs : Reads s nodes) (hopens : ∀ rest, Opens rest → Opens (s ++ rest)) :
    Reads (t ++ s) (.leaf (.text (String.ofList t)) 0 :: nodes) := by
  intro frames siblings line rest hr hsib
  have hsib := hsib.resolve_right (fun h => by cases h _ rfl)
  have hc := cut_text nonempty plain last (hopens rest hr) line
  rcases hs frames (.leaf (.text (String.ofList t)) line :: siblings) (line + lineEnds t) rest hr
    (Or.inr apart) with ⟨line', more, hm, h⟩
  have hadd : (untrimmed frames siblings).add (.text line t) =
      .ok (untrimmed frames (.leaf (.text (String.ofList t)) line :: siblings)) := by
    rw [add, appendText]
    simp only [Bool.false_eq_true, if_false]
    rw [joinText_of_no_text (by simpa using nonempty) line hsib]
  refine ⟨line', .leaf (.text (String.ofList t)) line :: more, by simp [hm], ?_⟩
  rw [List.append_assoc, compileFrom_of_piece hc hadd, h]
  simp

theorem passes_of_read {s : List Char} {ts : List Token} (h : Token.tokens s = .ok ts) :
    Passes '%' (s ++ [' ']) :=
  (Token.passes_of_tokens (Or.inr rfl) h).append (passes_blank (Or.inr rfl))

theorem readsNode_output {body : List Char} {o : Output} (read : Output.parse body = .ok o) :
    ReadsNode (outputText body) (.leaf (.output o) 0) := by
  intro frames siblings line rest
  rcases bind_eq_ok_iff.mp read with ⟨ts, htokens, -⟩
  rcases cut_outputText (Token.passes_of_tokens (Or.inl rfl) htokens) line rest with ⟨line', hc⟩
  have hread : Output.parse (' ' :: (body ++ [' '])) = .ok o := by
    rw [← Output.parse_trim, ← read, ← Output.parse_trim body]
    exact congrArg Output.parse (trim_append isBlank_space body isBlank_space)
  refine ⟨line', .leaf (.output o) line, by simp, compileFrom_of_piece hc ?_⟩
  rw [add, hread]
  rfl

theorem readsNode_assign {args : List Char} {name : String} {value : Output}
    (read : Output.parseAssignment args = .ok (name, value)) :
    ReadsNode (Keyword.assign.before args) (.leaf (.assign name value) 0) := by
  intro frames siblings line rest
  rcases bind_eq_ok_iff.mp read with ⟨ts, htokens, -⟩
  have hadd : (untrimmed frames siblings).tag line .assign (trim args) =
      .ok (untrimmed frames (.leaf (.assign name value) line :: siblings)) := by
    rw [tag, Output.parseAssignment_trim, read]
    rfl
  rcases compileFrom_before .assign (passes_of_read htokens) rest hadd with ⟨line', h⟩
  exact ⟨line', _, by simp, h⟩

theorem readsNode_include {args : List Char} {ref : FileRef} (read : FileRef.parse args = .ok ref)
    (spellable : Reference.Spellable ref.raw.toList) :
    ReadsNode (Keyword.include.before args) (.mk (.include ref.args) 0 (some ref.raw) none) := by
  intro frames siblings line rest
  have hadd : (untrimmed frames siblings).tag line .include (trim args) =
      .ok (untrimmed frames (.mk (.include ref.args) line (some ref.raw) none :: siblings)) := by
    rw [tag, FileRef.parse_trim, read]
    rfl
  rcases compileFrom_before .include (FileRef.passes read spellable) rest hadd with ⟨line', h⟩
  exact ⟨line', _, by simp [Node.unlined, Node.unlinedOf], h⟩

/-- Nodes inside a tag are compiled up to the tag that closes it. -/
theorem ReadsFirst.closed {inner : List Char} {body : List Node} (hi : ReadsFirst inner body)
    (c : Construct) (tag : OpenTag) (hc : tag.construct? = some c) (start : Nat)
    (frames : List Frame) (outer : List Node) (line : Nat) (rest : List Char) :
    ∃ line' found, Node.unlinedAll found = body ∧
      (untrimmed (⟨tag, start, outer⟩ :: frames) []).compileFrom line
          (inner ++ (Keyword.closing c).alone ++ rest) =
        (untrimmed frames (tag.node start found :: outer)).compileFrom line' rest := by
  rcases hi (⟨tag, start, outer⟩ :: frames) line _ (opens_tagText (.closing c) [] rest) with
    ⟨line₁, found, hf, h₁⟩
  have hadd : (untrimmed (⟨tag, start, outer⟩ :: frames) found.reverse).tag line₁
      (.closing c) [] = .ok (untrimmed frames (tag.node start found :: outer)) := by
    rw [Builder.tag, close]
    simp [hc]
  rcases compileFrom_alone (.closing c) rest hadd with ⟨line₂, h₂⟩
  exact ⟨line₂, found, hf, by rw [List.append_assoc, h₁, h₂]⟩

/-- A tag that only holds nodes, and the tag that closes it. -/
theorem readsNode_container {args inner : List Char} {body : List Node} {kind : NodeKind}
    (c : Construct) (tag : OpenTag) (hc : tag.construct? = some c)
    (hk : ∀ line nodes, tag.node line nodes = .container kind line nodes)
    (hp : Passes '%' (args ++ [' ']))
    (hadd : ∀ frames siblings line, (untrimmed frames siblings).tag line (.opening c) (trim args) =
      .ok (untrimmed (⟨tag, line, siblings⟩ :: frames) []))
    (hi : ReadsFirst inner body) :
    ReadsNode ((Keyword.opening c).before args ++ (inner ++ (Keyword.closing c).alone))
      (.container kind 0 body) := by
  intro frames siblings line rest
  rcases compileFrom_before (.opening c) hp (inner ++ (Keyword.closing c).alone ++ rest)
    (hadd frames siblings line) with ⟨line₁, h₁⟩
  rcases hi.closed c tag hc line frames siblings line₁ rest with ⟨line₂, found, hf, h₂⟩
  refine ⟨line₂, .container kind line found, by simp [hf], ?_⟩
  rw [List.append_assoc, h₁, h₂, hk]

theorem readsNode_loop {args inner : List Char} {spec : LoopSpec} {body : List Node}
    (read : LoopSpec.parse args = .ok spec) (hi : ReadsFirst inner body) :
    ReadsNode ((Keyword.opening .loop).before args ++ (inner ++ (Keyword.closing .loop).alone))
      (.container (.loop spec) 0 body) := by
  rcases bind_eq_ok_iff.mp read with ⟨ts, htokens, -⟩
  refine readsNode_container .loop (.loop spec) rfl (fun _ _ => rfl) (passes_of_read htokens) ?_ hi
  intro frames siblings line
  rw [tag, LoopSpec.parse_trim, read]
  rfl

theorem blockName_trim {name : List Char} (h : BlockLabel name) :
    blockName (trim name) = .ok (String.ofList name) := by
  have hb := h.bland
  have hany : name.any isBlank = false := by
    rw [List.any_eq_false]
    intro c hc
    simp [(hb c hc).1]
  rw [trim_of_not_blank fun c hc => (hb c hc).1, blockName,
    Reference.stripQuotes_of_no_quotes fun c hc => (hb c hc).2.1]
  simp [hany]

theorem readsNode_block {name inner : List Char} {body : List Node} (label : BlockLabel name)
    (hi : ReadsFirst inner body) :
    ReadsNode ((Keyword.opening .block).before name ++ (inner ++ (Keyword.closing .block).alone))
      (.container (.block (String.ofList name)) 0 body) := by
  have hp : Passes '%' (name ++ [' ']) :=
    (Passes.of_bland fun c hc => (label.bland c hc).2).append (passes_blank (Or.inr rfl))
  refine readsNode_container .block (.block (String.ofList name)) rfl (fun _ _ => rfl) hp ?_ hi
  intro frames siblings line
  rw [tag, blockName_trim label]
  rfl

/-- Compiling over the text and the tag that closes the conditional ends the branch under way, adds
branches, which are the given ones but for their lines, and closes the conditional. -/
def ReadsBranches (s : List Char) (branches : List Node) : Prop :=
  ∀ negated complete test negate branchLine start outer frames siblings line rest,
    ∃ line' found, Node.unlinedAll found = branches ∧
      (untrimmed (⟨.conditional negated complete test negate branchLine false, start, outer⟩ ::
        frames) siblings).compileFrom line
          (s ++ (Keyword.closing (.conditional negated)).alone ++ rest) =
        (untrimmed frames (.container .conditional start (complete.reverse ++
          branchNode test negate branchLine siblings.reverse :: found) :: outer)).compileFrom
            line' rest

theorem readsBranches_nil : ReadsBranches [] [] := by
  intro negated complete test negate branchLine start outer frames siblings line rest
  have hadd : (untrimmed (⟨.conditional negated complete test negate branchLine false, start,
      outer⟩ :: frames) siblings).tag line (.closing (.conditional negated)) [] =
      .ok (untrimmed frames (.container .conditional start (complete.reverse ++
        [branchNode test negate branchLine siblings.reverse]) :: outer)) := by
    simp [tag, close, OpenTag.construct?, OpenTag.node]
  rcases compileFrom_alone _ rest hadd with ⟨line', h⟩
  exact ⟨line', [], rfl, h⟩

theorem readsBranches_otherwise {inner : List Char} {body : List Node} (hi : ReadsFirst inner body) :
    ReadsBranches (Keyword.otherwise.alone ++ inner) [branchNode none false 0 body] := by
  intro negated complete test negate branchLine start outer frames siblings line rest
  have hadd : (untrimmed (⟨.conditional negated complete test negate branchLine false, start,
      outer⟩ :: frames) siblings).tag line .otherwise [] =
      .ok (untrimmed (⟨.conditional negated
        (branchNode test negate branchLine siblings.reverse :: complete) none false line true, start,
        outer⟩ :: frames) []) := rfl
  rcases compileFrom_alone .otherwise
    (inner ++ (Keyword.closing (.conditional negated)).alone ++ rest) hadd with ⟨line₁, h₁⟩
  rcases hi.closed (.conditional negated) (.conditional negated
    (branchNode test negate branchLine siblings.reverse :: complete) none false line true) rfl start
    frames outer line₁ rest with ⟨line₂, found, hf, h₂⟩
  refine ⟨line₂, [branchNode none false line found], by simp [branchNode, hf], ?_⟩
  rw [List.append_assoc, List.append_assoc, ← List.append_assoc inner, h₁, h₂]
  simp [OpenTag.node]

/-- The nodes of a branch and the branches after it are compiled up to the tag that closes the
conditional. -/
theorem ReadsBranches.after {inner s : List Char} {body branches : List Node}
    (hi : ReadsFirst inner body) (hs : ReadsBranches s branches)
    (hopens : ∀ c rest, Opens (s ++ (Keyword.closing c).alone ++ rest)) (negated : Bool)
    (complete : List Node) (test : Option Expr) (negate : Bool) (branchLine start : Nat)
    (outer : List Node) (frames : List Frame) (line : Nat) (rest : List Char) :
    ∃ line' found more, Node.unlinedAll found = body ∧ Node.unlinedAll more = branches ∧
      (untrimmed (⟨.conditional negated complete test negate branchLine false, start, outer⟩ ::
        frames) []).compileFrom line
          (inner ++ (s ++ (Keyword.closing (.conditional negated)).alone ++ rest)) =
        (untrimmed frames (.container .conditional start (complete.reverse ++
          branchNode test negate branchLine found :: more) :: outer)).compileFrom line' rest := by
  rcases hi (⟨.conditional negated complete test negate branchLine false, start, outer⟩ ::
    frames) line _ (hopens (.conditional negated) rest) with ⟨line₁, found, hf, h₁⟩
  rcases hs negated complete test negate branchLine start outer frames found.reverse line₁ rest with
    ⟨line₂, more, hm, h₂⟩
  rw [List.reverse_reverse] at h₂
  exact ⟨line₂, found, more, hf, hm, h₁.trans h₂⟩

theorem readsBranches_elseIf {args inner s : List Char} {test : Expr} {body branches : List Node}
    (read : Expr.parseCondition args = .ok test) (hi : ReadsFirst inner body)
    (hs : ReadsBranches s branches)
    (hopens : ∀ c rest, Opens (s ++ (Keyword.closing c).alone ++ rest)) :
    ReadsBranches (Keyword.elseIf.before args ++ (inner ++ s))
      (branchNode (some test) false 0 body :: branches) := by
  intro negated complete oldTest negate branchLine start outer frames siblings line rest
  rcases bind_eq_ok_iff.mp read with ⟨ts, htokens, -⟩
  have hadd : (untrimmed (⟨.conditional negated complete oldTest negate branchLine false, start,
      outer⟩ :: frames) siblings).tag line .elseIf (trim args) =
      .ok (untrimmed (⟨.conditional negated
        (branchNode oldTest negate branchLine siblings.reverse :: complete) (some test) false line
        false, start, outer⟩ :: frames) []) := by
    rw [tag, Expr.parseCondition_trim, read]
    rfl
  rcases compileFrom_before .elseIf (passes_of_read htokens)
    (inner ++ (s ++ (Keyword.closing (.conditional negated)).alone ++ rest)) hadd with ⟨line₁, h₁⟩
  rcases hs.after hi hopens negated (branchNode oldTest negate branchLine siblings.reverse ::
    complete) (some test) false line start outer frames line₁ rest with ⟨line₂, found, more, hf, hm, h₂⟩
  refine ⟨line₂, branchNode (some test) false line found :: more, by simp [branchNode, hf, hm], ?_⟩
  simp only [List.append_assoc] at h₁ h₂ ⊢
  rw [h₁, h₂, List.reverse_cons, List.append_assoc]
  rfl

theorem readsNode_conditional {args inner s : List Char} {test : Expr}
    {body branches : List Node} (negated : Bool) (read : Expr.parseCondition args = .ok test)
    (hi : ReadsFirst inner body) (hs : ReadsBranches s branches)
    (hopens : ∀ c rest, Opens (s ++ (Keyword.closing c).alone ++ rest)) :
    ReadsNode ((Keyword.opening (.conditional negated)).before args ++
        (inner ++ (s ++ (Keyword.closing (.conditional negated)).alone)))
      (.container .conditional 0 (branchNode (some test) negated 0 body :: branches)) := by
  intro frames siblings line rest
  rcases bind_eq_ok_iff.mp read with ⟨ts, htokens, -⟩
  have hadd : (untrimmed frames siblings).tag line (.opening (.conditional negated)) (trim args) =
      .ok (untrimmed (⟨.conditional negated [] (some test) negated line false, line, siblings⟩ ::
        frames) []) := by
    rw [tag, Expr.parseCondition_trim, read]
    rfl
  rcases compileFrom_before (.opening (.conditional negated)) (passes_of_read htokens)
    (inner ++ (s ++ (Keyword.closing (.conditional negated)).alone ++ rest)) hadd with ⟨line₁, h₁⟩
  rcases hs.after hi hopens negated [] (some test) negated line line siblings frames line₁ rest with
    ⟨line₂, found, more, hf, hm, h₂⟩
  refine ⟨line₂, .container .conditional line (branchNode (some test) negated line found :: more),
    by simp [branchNode, hf, hm], ?_⟩
  simp only [List.append_assoc] at h₁ h₂ ⊢
  rw [h₁, h₂]
  rfl

end Builder

open Builder

theorem Spells.opens {nodes : List Node} {s : List Char} (h : Spells nodes s)
    (apart : ∀ node ∈ nodes.head?, node.text? = none) (rest : List Char) (hr : Opens rest) :
    Opens (s ++ rest) := by
  cases h with
  | nil => exact hr
  | text => cases apart _ rfl
  | output =>
    rw [List.append_assoc]
    exact opens_outputText _ _
  | _ =>
    simp only [List.append_assoc]
    exact opens_tagText _ _ _

theorem SpellsBranches.opens {branches : List Node} {s : List Char} (h : SpellsBranches branches s)
    (c : Construct) (rest : List Char) : Opens (s ++ (Keyword.closing c).alone ++ rest) := by
  cases h with
  | nil => exact opens_tagText _ _ _
  | _ =>
    simp only [List.append_assoc]
    exact opens_tagText _ _ _

mutual

theorem Spells.reads {nodes : List Node} {s : List Char} : Spells nodes s → Reads s nodes
  | .nil => reads_nil
  | .text nonempty plain last apart more =>
    reads_text nonempty plain last apart more.reads (more.opens apart)
  | .output read more => (readsNode_output read).cons rfl more.reads
  | .assign read more => (readsNode_assign read).cons rfl more.reads
  | .include read spellable more => (readsNode_include read spellable).cons rfl more.reads
  | .loop read inside more => (readsNode_loop read inside.reads.first).cons rfl more.reads
  | .block label inside more => (readsNode_block label inside.reads.first).cons rfl more.reads
  | .conditional negated read first rest more =>
    (readsNode_conditional negated read first.reads.first rest.reads rest.opens).cons rfl more.reads

theorem SpellsBranches.reads {branches : List Node} {s : List Char} :
    SpellsBranches branches s → ReadsBranches s branches
  | .nil => readsBranches_nil
  | .otherwise inside => readsBranches_otherwise inside.reads.first
  | .elseIf read inside more => readsBranches_elseIf read inside.reads.first more.reads more.opens

end

theorem layoutFile_of_parse {args : List Char} {ref : FileRef} (read : FileRef.parse args = .ok ref)
    (bare : ref.args = []) (siblings : List Node) :
    (untrimmed [] siblings).layoutFile (trim args) = .ok ref.raw := by
  rw [layoutFile, FileRef.parse_trim, read]
  simp only [bind, Except.bind, bare]
  rfl

/-- Nodes that are spelled at the end of a source are the last ones of its tree. -/
theorem Spells.compileFrom {nodes : List Node} {s : List Char} (h : Spells nodes s)
    (frames : List Frame) (line : Nat) :
    ∃ found, Node.unlinedAll found = nodes ∧ (untrimmed frames []).compileFrom line s =
      (finishFrames found.reverse frames).mapError .fault :=
  h.reads.first.compileFrom frames line

/-- The tree of a source that spells a template is that template, line numbers aside. -/
theorem compile_spelled {nodes : List Node} {s : List Char} (h : SpellsTemplate nodes s) :
    ∃ found, compile (String.ofList s) = .ok found ∧ Node.unlinedAll found = nodes := by
  rw [compile_eq_compileFrom, String.toList_ofList]
  cases h with
  | plain all =>
    rcases all.compileFrom [] 1 with ⟨found, hf, hc⟩
    refine ⟨found, ?_, hf⟩
    rw [Builder.empty, hc, finishFrames, List.reverse_reverse]
    rfl
  | @laidOut before body args s inner ref front read bare spellable inside =>
    rcases front.reads.first [] 1 _ (opens_tagText .layout (' ' :: args) inner) with
      ⟨line₁, first, hfirst, h₁⟩
    have hadd : (untrimmed [] first.reverse).tag line₁ .layout (trim args) =
        .ok (untrimmed [⟨.layout ref.raw, line₁, first.reverse⟩] []) := by
      rw [tag, layoutFile_of_parse read bare]
      rfl
    rcases compileFrom_before .layout (FileRef.passes read spellable) inner hadd with ⟨line₂, h₂⟩
    rcases inside.compileFrom [⟨.layout ref.raw, line₁, first.reverse⟩] line₂ with
      ⟨found, hf, hc⟩
    refine ⟨first ++ [.mk .layout line₁ (some ref.raw) (some found)], ?_, ?_⟩
    · rw [Builder.empty, h₁, h₂, hc]
      simp [finishFrames, OpenTag.construct?, OpenTag.node]
      rfl
    · simp [hfirst, hf, Node.unlined, Node.unlinedOf]

/-- Branches after a quoted delimiter, and a block inside a layout. -/
theorem compile_spelled_of_layout :
    let source := "a\x7b\x7b '\x7d\x7d' \x7d\x7d\x7b% unless x %\x7d\x7b% include b, k: 1 %\x7d" ++
      "\x7b% elsif y %\x7d\x7b% else %\x7dc\x7b% endunless %\x7d\x7b% layout 'd' %\x7d" ++
      "\x7b% block e %\x7df\x7b% endblock %\x7d"
    ∃ nodes, SpellsTemplate nodes source.toList ∧
      ∃ found, compile (String.ofList source.toList) = .ok found ∧
        Node.unlinedAll found = nodes := by
  intro source
  have ho : (Output.parse "'\x7d\x7d'".toList).toOption.isSome := by decide +kernel
  have hx : (Expr.parseCondition ['x']).toOption.isSome := by decide +kernel
  have hy : (Expr.parseCondition ['y']).toOption.isSome := by decide +kernel
  have hb : (FileRef.parse "b, k: 1".toList).toOption.any fun ref => ref.raw == "b" := by
    decide +kernel
  have hd : (FileRef.parse "'d'".toList).toOption.any fun ref =>
      ref.raw == "'d'" && ref.args.isEmpty := by
    decide +kernel
  rcases exists_eq_ok_of_isSome ho with ⟨o, ho⟩
  rcases exists_eq_ok_of_isSome hx with ⟨x, hx⟩
  rcases exists_eq_ok_of_isSome hy with ⟨y, hy⟩
  rcases exists_eq_ok_of_any hb with ⟨file, hb, hraw⟩
  rcases exists_eq_ok_of_any hd with ⟨layout, hd, hlayout⟩
  have hbare : Reference.Spellable file.raw.toList := by
    rw [beq_iff_eq.mp hraw]
    refine Or.inr ⟨?_, by decide⟩
    intro c hc
    rw [List.mem_singleton.mp hc]
    rfl
  rw [Bool.and_eq_true, beq_iff_eq, List.isEmpty_iff] at hlayout
  have hquoted : Reference.Spellable layout.raw.toList := by
    rw [hlayout.1]
    exact Or.inl (by decide)
  have text : ∀ c, c ≠ '\x7b' → ∀ {nodes : List Node} {s : List Char},
      (∀ node ∈ nodes.head?, node.text? = none) → Spells nodes s →
      Spells (.leaf (.text (String.ofList [c])) 0 :: nodes) ([c] ++ s) := by
    intro c hc nodes s apart more
    have plain : Plain [c] :=
      ⟨fun h => absurd h.length_le (by simp), fun h => absurd h.length_le (by simp)⟩
    exact .text (by simp) plain (by simpa using hc) apart more
  have noNodes : ∀ node ∈ ([] : List Node).head?, node.text? = none := by simp
  have label : BlockLabel ['e'] := by
    intro c hc
    rw [List.mem_singleton.mp hc]
    exact Or.inl (by decide +kernel)
  have branches := SpellsBranches.elseIf hy .nil
    (.otherwise (text 'c' (by decide) noNodes .nil))
  have front := text 'a' (by decide) (by simp [Node.leaf, Node.text?])
    (.output ho (.conditional true hx (.include hb hbare .nil) branches .nil))
  have all := SpellsTemplate.laidOut front hd hlayout.2 hquoted
    (.block label (text 'f' (by decide) noNodes .nil) .nil)
  have respell : ∀ {nodes : List Node} {s : List Char}, SpellsTemplate nodes s →
      s = source.toList → SpellsTemplate nodes source.toList := by
    intro nodes s h hs
    rwa [← hs]
  have all := respell all (by decide +kernel)
  exact ⟨_, all, compile_spelled all⟩

end TemplateSite
