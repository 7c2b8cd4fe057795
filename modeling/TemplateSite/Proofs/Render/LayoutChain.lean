import TemplateSite.Proofs.Render.Caching

/-!
# Chains of layouts

A page can be laid out in another one, and that one again in another one. The last page of such a
chain is written out, with each of its blocks replaced: a block with a name by the first block of
that name in the first page that has one, and the block without a name by what the first page puts
there, in a block without a name or else outside its blocks. A block that no page replaces keeps its
own content.
-/
namespace TemplateSite
namespace LayoutChain

/-- What the content of a block consists of. -/
inductive Plain where
  | text (line : Nat) (s : String)
  | output (line : Nat) (o : Output)

/-- What a page of a chain consists of. -/
inductive Part where
  | text (line : Nat) (s : String)
  | block (line : Nat) (name : String) (body : List Plain)

/-- A page that is laid out in another one: the line and the reference of its layout, and what
follows. -/
structure Page where
  line : Nat
  reference : String
  parts : List Part

def Plain.node : Plain → Node
  | text line s => .leaf (.text s) line
  | output line o => .leaf (.output o) line

def Part.node : Part → Node
  | text line s => .leaf (.text s) line
  | block line name body => .container (.block name) line (body.map Plain.node)

/-- The tree of the first page of a chain, which ends with the page that the parts at the end make
up. -/
def tree : List Page → List Part → List Node
  | [], base => base.map Part.node
  | page :: _, _ => [.mk .layout page.line (some page.reference) (some (page.parts.map Part.node))]

/-- Every page names the next one by a complete literal, and the file there compiles to its tree. -/
def Linked (options : Options) (library : Library) : List Page → List Part → Prop
  | [], _ => True
  | page :: rest, base =>
    (Reference.Written page.reference.toList ∧ Reference.isQuoted page.reference.toList = true) ∧
    (∃ content, library.find? (options.resolve page.reference) = some content ∧
      compile content = .ok (tree rest base)) ∧
    Linked options library rest base

def Plain.outputs : Plain → List Output
  | text _ _ => []
  | output _ o => [o]

def Part.outputs : Part → List Output
  | text _ _ => []
  | block _ _ body => body.flatMap Plain.outputs

def outputs (pages : List Page) (base : List Part) : List Output :=
  (pages.flatMap Page.parts ++ base).flatMap Part.outputs

variable (value : Output → Value)

def Plain.written : Plain → String
  | text _ s => s
  | output _ o => (value o).display

def content (body : List Plain) : String :=
  String.join (body.map (Plain.written value))

/-- The text of a part whose block, if it is one, is replaced by a text. -/
def Part.written (block : String → List Plain → String) : Part → String
  | text _ s => s
  | Part.block _ name body => block name body

/-- The text of a page outside its blocks. -/
def Page.outside (page : Page) : String :=
  String.join (page.parts.map (Part.written fun _ _ => ""))

/-- The content of a block of this name. -/
def Part.body? (name : String) : Part → Option (List Plain)
  | text _ _ => none
  | block _ other body => if other = name then some body else none

/-- The content of the first block of a name. -/
def firstBody? (name : String) (parts : List Part) : Option (List Plain) :=
  parts.findSome? (Part.body? name)

/-- What a block of the last page is replaced by. -/
def filling (first : Page) (rest : List Page) (name : String) (own : List Plain) : String :=
  if name = "" then
    match firstBody? "" first.parts with
    | some body => content value body
    | none => first.outside
  else content value (((first :: rest).findSome? fun page => firstBody? name page.parts).getD own)

/-- What a chain of pages is rendered to. -/
def text (first : Page) (rest : List Page) (base : List Part) : String :=
  String.join (base.map (Part.written (filling value first rest)))

/-! ## What is stored -/

def Part.store (blocks : Record String) : Part → Record String
  | text _ _ => blocks
  | block _ name body => blocks.insert name ((blocks.get? name).getD (content value body))

def storeParts (parts : List Part) (blocks : Record String) : Record String :=
  parts.foldl (Part.store value) blocks

/-- The stored blocks with content for a block, unless it has some. -/
def fill (name text : String) (blocks : Record String) : Record String :=
  match blocks.get? name with
  | some _ => blocks
  | none => blocks.insert name text

def Page.store (page : Page) (blocks : Record String) : Record String :=
  fill "" page.outside (storeParts value page.parts blocks)

def store (pages : List Page) (blocks : Record String) : Record String :=
  pages.foldl (fun blocks page => page.store value blocks) blocks

/-- What a page stores for a block that has no content yet. -/
def Page.gives? (page : Page) (name : String) : Option String :=
  ((firstBody? name page.parts).map (content value)).or
    (if name = "" then some page.outside else none)

theorem get?_storeParts (parts : List Part) (blocks : Record String) (name : String) :
    (storeParts value parts blocks).get? name =
      (blocks.get? name).or ((firstBody? name parts).map (content value)) := by
  induction parts generalizing blocks with
  | nil => simp [storeParts, firstBody?]
  | cons part parts ih =>
    have step : storeParts value (part :: parts) blocks =
        storeParts value parts (part.store value blocks) := rfl
    rw [step, ih]
    cases part with
    | text line s => rfl
    | block line other body =>
      rw [Part.store, Record.get?_insert]
      by_cases h : other = name
      · subst h
        cases hb : blocks.get? other <;> simp [firstBody?, Part.body?]
      · simp [firstBody?, Part.body?, h]

theorem get?_fill (key text name : String) (blocks : Record String) :
    (fill key text blocks).get? name =
      (blocks.get? name).or (if name = key then some text else none) := by
  by_cases h : name = key
  · subst h
    rw [fill]
    cases hb : blocks.get? name with
    | some found => simp [hb]
    | none => simp [Record.get?_insert_self]
  · rw [fill, if_neg h, Option.or_none]
    split
    · rfl
    · exact Record.get?_insert_of_ne h ..

theorem Page.get?_store (page : Page) (blocks : Record String) (name : String) :
    (page.store value blocks).get? name = (blocks.get? name).or (page.gives? value name) := by
  rw [Page.store, get?_fill, get?_storeParts, Option.or_assoc, Page.gives?]

/-- The first page that stores content for a block decides. -/
theorem get?_store (pages : List Page) (blocks : Record String) (name : String) :
    (store value pages blocks).get? name =
      (blocks.get? name).or (pages.findSome? fun page => page.gives? value name) := by
  induction pages generalizing blocks with
  | nil => simp [store]
  | cons page pages ih =>
    have step : store value (page :: pages) blocks =
        store value pages (page.store value blocks) := rfl
    rw [step, ih, Page.get?_store, Option.or_assoc, List.findSome?_cons]
    cases page.gives? value name <;> rfl

theorem findSome?_gives? (pages : List Page) {name : String} (h : name ≠ "") :
    (pages.findSome? fun page => page.gives? value name) =
      (pages.findSome? fun page => firstBody? name page.parts).map (content value) := by
  rw [List.map_findSome?]
  congr 1
  funext page
  simp [Page.gives?, h]

/-- What the pages of a chain store for a block is what it is replaced by. -/
theorem getD_store (first : Page) (rest : List Page) (name : String) (own : List Plain) :
    ((store value (first :: rest) []).get? name).getD (content value own) =
      filling value first rest name own := by
  rw [get?_store, Record.get?_nil, Option.none_or, filling]
  by_cases h : name = ""
  · subst h
    rw [if_pos rfl, List.findSome?_cons, Page.gives?]
    cases firstBody? "" first.parts <;> rfl
  · rw [if_neg h, findSome?_gives? value _ h, Option.getD_map]

/-! ## Rendering a chain -/

def Part.stored (blocks : Record String) : Part → String :=
  Part.written fun name own => (blocks.get? name).getD (content value own)

variable {value}

theorem text_eq (first : Page) (rest : List Page) (base : List Part) :
    String.join (base.map (Part.stored value (store value (first :: rest) []))) =
      text value first rest base := by
  have same : Part.stored value (store value (first :: rest) []) =
      Part.written (filling value first rest) := by
    rw [Part.stored]
    congr 1
    funext name own
    exact getD_store value first rest name own
  rw [same, text]

section Steps

variable {r : Rendering} {inner : Option (List Node → Rendering.Step)} {data : Value} {run : Run}

/-- Every output has its value wherever names stand for the data alone. -/
def Evaluates (r : Rendering) (data : Value) (value : Output → Value) (outputs : List Output) :
    Prop :=
  ∀ o ∈ outputs, r.evalOutput ⟨.initial data, [], ""⟩ o = .ok (value o)

theorem Evaluates.eval {os : List Output} (h : Evaluates r data value os)
    (names : run.context.names = ⟨data, [], []⟩) {o : Output} (ho : o ∈ os) :
    r.evalOutput run o = .ok (value o) := by
  rw [← h o ho]
  exact r.evalOutput_congr names o

theorem Evaluates.mono {os more : List Output} (h : Evaluates r data value os)
    (hs : ∀ o ∈ more, o ∈ os) : Evaluates r data value more :=
  fun o ho => h o (hs o ho)

theorem write_write (s t : String) : (run.write s).write t = run.write (s ++ t) := by
  rw [Run.write, Run.write, Run.write, String.append_assoc]

theorem renderNode_plain (plain : Plain) (h : Evaluates r data value plain.outputs)
    (names : run.context.names = ⟨data, [], []⟩) :
    r.renderNode inner plain.node run = .ok (run.write (plain.written value)) := by
  cases plain with
  | text line s =>
    rw [Plain.node, Node.leaf, Rendering.renderNode]
    rfl
  | output line o =>
    rw [Plain.node, Node.leaf, Rendering.renderNode]
    simp only [h.eval names (List.mem_singleton_self o), Plain.written]
    rfl

theorem renderNodes_plain (body : List Plain)
    (h : Evaluates r data value (body.flatMap Plain.outputs))
    (names : run.context.names = ⟨data, [], []⟩) :
    r.renderNodes inner (body.map Plain.node) run = .ok (run.write (content value body)) := by
  induction body generalizing run with
  | nil =>
    rw [List.map_nil, Rendering.renderNodes_nil, content, Run.write]
    simp
  | cons plain body ih =>
    rw [List.flatMap_cons] at h
    have first := h.mono fun _ => List.mem_append_left _
    have more := h.mono fun _ => List.mem_append_right _
    have after : (run.write (plain.written value)).context.names = ⟨data, [], []⟩ := names
    rw [List.map_cons, Rendering.renderNodes_cons, renderNode_plain plain first names]
    change r.renderNodes inner (body.map Plain.node) (run.write (plain.written value)) = _
    rw [ih more after, write_write, content, content, List.map_cons, String.join_cons]

/-- A block writes or stores what is stored for it, or else its own content. -/
theorem renderNode_block {line : Nat} {name : String} {body : List Plain}
    (h : Evaluates r data value (body.flatMap Plain.outputs))
    (names : run.context.names = ⟨data, [], []⟩) :
    r.renderNode inner (Part.block line name body).node run =
      let found := (run.context.blocks.get? name).getD (content value body)
      match run.context.mode with
      | .output => .ok (run.write found)
      | .store => .ok (run.storeBlock name found) := by
  have own : Rendering.aside (r.renderNodes inner (body.map Plain.node)) (run.withMode .output) =
      .ok (content value body, run.withMode .output) := by
    have before : ({ run.withMode .output with out := "" } : Run).context.names =
        ⟨data, [], []⟩ := names
    rw [Rendering.aside, renderNodes_plain body h before]
    simp only [Run.write, String.empty_append]
    rfl
  rw [Part.node, Node.container, Rendering.renderNode]
  simp only [Rendering.renderBlock, Rendering.renderChildren, own]
  rcases run with ⟨⟨_, _, _, blocks, mode, _⟩, cache, out⟩
  cases blocks.get? name <;> cases mode <;> rfl

theorem renderNodes_output (parts : List Part)
    (h : Evaluates r data value (parts.flatMap Part.outputs))
    (names : run.context.names = ⟨data, [], []⟩) (mode : run.context.mode = .output) :
    r.renderNodes inner (parts.map Part.node) run =
      .ok (run.write (String.join (parts.map (Part.stored value run.context.blocks)))) := by
  induction parts generalizing run with
  | nil =>
    rw [List.map_nil, Rendering.renderNodes_nil, Run.write]
    simp
  | cons part parts ih =>
    rw [List.flatMap_cons] at h
    have first := h.mono fun _ => List.mem_append_left _
    have more := h.mono fun _ => List.mem_append_right _
    have written : r.renderNode inner part.node run =
        .ok (run.write (part.stored value run.context.blocks)) := by
      cases part with
      | text line s =>
        rw [Part.node, Node.leaf, Rendering.renderNode]
        rfl
      | block line name body =>
        rw [renderNode_block first names, mode]
        rfl
    rw [List.map_cons, Rendering.renderNodes_cons, written]
    change r.renderNodes inner (parts.map Part.node) (run.write _) = _
    have after : (run.write (part.stored value run.context.blocks)).context.names =
      ⟨data, [], []⟩ := names
    rw [ih more after mode, write_write, List.map_cons, String.join_cons]
    rfl

def withBlocks (run : Run) (blocks : Record String) : Run :=
  run.onContext fun ctx => { ctx with blocks }

/-- In a page with a layout the blocks are stored, and the texts outside them are written. -/
theorem renderNodes_store (parts : List Part)
    (h : Evaluates r data value (parts.flatMap Part.outputs))
    (names : run.context.names = ⟨data, [], []⟩) (mode : run.context.mode = .store) :
    r.renderNodes inner (parts.map Part.node) run =
      .ok ((withBlocks run (storeParts value parts run.context.blocks)).write
        (String.join (parts.map (Part.written fun _ _ => "")))) := by
  induction parts generalizing run with
  | nil =>
    rw [List.map_nil, Rendering.renderNodes_nil, Run.write]
    simp [storeParts, withBlocks, Run.onContext]
  | cons part parts ih =>
    rw [List.flatMap_cons] at h
    have first := h.mono fun _ => List.mem_append_left _
    have more := h.mono fun _ => List.mem_append_right _
    let next := (withBlocks run (part.store value run.context.blocks)).write
      (part.written fun _ _ => "")
    have stored : r.renderNode inner part.node run = .ok next := by
      cases part with
      | text line s =>
        rw [Part.node, Node.leaf, Rendering.renderNode]
        rfl
      | block line name body =>
        rw [renderNode_block first names, mode]
        simp [next, Part.written, Part.store, Run.write, withBlocks, Run.storeBlock, Run.onContext]
    rw [List.map_cons, Rendering.renderNodes_cons, stored]
    change r.renderNodes inner (parts.map Part.node) next = _
    have after : next.context.names = ⟨data, [], []⟩ := names
    rw [ih more after mode, List.map_cons, String.join_cons, ← write_write]
    rfl

theorem fillBlock_withBlocks (blocks : Record String) (name text : String) :
    (withBlocks run blocks).fillBlock name text = withBlocks run (fill name text blocks) := by
  rw [Run.fillBlock, fill]
  change (match blocks.get? name with | some _ => _ | none => _) = _
  cases blocks.get? name <;> rfl

/-- What a page with a layout writes aside, and the state after it. -/
theorem aside_parts (page : Page) (h : Evaluates r data value (page.parts.flatMap Part.outputs))
    (names : run.context.names = ⟨data, [], []⟩) :
    Rendering.aside (r.renderNodes inner (page.parts.map Part.node)) (run.withMode .store) =
      .ok (page.outside,
        withBlocks (run.withMode .store) (storeParts value page.parts run.context.blocks)) := by
  have before : ({ run.withMode .store with out := "" } : Run).context.names = ⟨data, [], []⟩ :=
    names
  rw [Rendering.aside, renderNodes_store page.parts h before rfl]
  simp only [Run.write, withBlocks, Run.onContext, String.empty_append]
  rfl

end Steps

section Chain

variable {options : Options} {library : Library} {data : Value} {run : Run}

/-- A page with a layout hands its blocks over to the page that it names. -/
theorem renderNode_layout (page : Page) {nodes : List Node} {levels : Nat} {last : Run}
    (written : Reference.Written page.reference.toList)
    (quoted : Reference.isQuoted page.reference.toList = true)
    (loaded : loadAnew library.read (options.resolve page.reference) = .ok nodes)
    (h : Evaluates ⟨options, .direct library.read⟩ data value (page.parts.flatMap Part.outputs))
    (names : run.context.names = ⟨data, [], []⟩) (mode : run.context.mode = .output) :
    let r : Rendering := ⟨options, .direct library.read⟩
    r.renderNodes (r.inner levels) nodes
        (withBlocks run (page.store value run.context.blocks)).deeper = .ok last →
      r.renderNode (r.inner (levels + 1))
          (.mk .layout page.line (some page.reference) (some (page.parts.map Part.node))) run =
        .ok (last.shallower.withMode .output) := by
  intro r rendered
  have path : r.filePath run page.reference = .ok (options.resolve page.reference) :=
    r.filePath_of_quoted run written quoted
  have load : r.load (options.resolve page.reference) run.cache = .ok (nodes, run.cache) := by
    change Loader.direct library.read _ _ = _
    rw [Loader.direct, loaded]
    rfl
  have body : Rendering.aside (r.renderNodes (r.inner (levels + 1)) (page.parts.map Part.node))
      (run.withMode .store) = _ := aside_parts page h names
  have here : ∀ blocks, (withBlocks (run.withMode .store) blocks).withMode .output =
      withBlocks run blocks := by
    intro blocks
    rw [← mode]
    rfl
  rw [Rendering.renderNode]
  -- The steps of a layout in order: its path, its file, its body aside, and the tree of the file.
  simp only [Rendering.renderLayout, Rendering.renderChildren, path]
  change (r.load (options.resolve page.reference) run.cache >>= _) = _
  rw [load]
  change (Rendering.aside _ (run.withMode .store) >>= _) = _
  rw [body]
  change (r.enter (r.inner (levels + 1)) _ nodes ((Run.fillBlock _ "" page.outside).withMode _)
    >>= _) = _
  rw [fillBlock_withBlocks, here, Rendering.inner, Rendering.enter, Rendering.renderWithin_eq, mode]
  change ((r.renderNodes (r.inner levels) nodes
    (withBlocks run (page.store value run.context.blocks)).deeper >>= _) >>= _) = _
  rw [rendered]
  rfl

/-- A chain writes the last page, with what the pages before it store for its blocks. -/
theorem renderNodes_tree (base : List Part) {pages : List Page} {levels : Nat}
    (linked : Linked options library pages base) (depth : pages.length ≤ levels)
    (h : Evaluates ⟨options, .direct library.read⟩ data value (outputs pages base))
    (names : run.context.names = ⟨data, [], []⟩) (mode : run.context.mode = .output) :
    let r : Rendering := ⟨options, .direct library.read⟩
    ∃ last, r.renderNodes (r.inner levels) (tree pages base) run = .ok last ∧
      last.out = run.out ++
        String.join (base.map (Part.stored value (store value pages run.context.blocks))) := by
  intro r
  induction pages generalizing levels run with
  | nil =>
    refine ⟨_, renderNodes_output base ?_ names mode, rfl⟩
    rw [outputs] at h
    exact h
  | cons page rest ih =>
    rcases linked with ⟨⟨written, quoted⟩, ⟨content, found, compiled⟩, linked⟩
    obtain ⟨levels, rfl⟩ : ∃ n, levels = n + 1 := ⟨levels - 1, by simp at depth; omega⟩
    rw [outputs, List.flatMap_cons, List.append_assoc, List.flatMap_append] at h
    have own := h.mono fun _ => List.mem_append_left _
    have more := h.mono fun _ => List.mem_append_right _
    let next := (withBlocks run (page.store value run.context.blocks)).deeper
    have after : next.context.names = ⟨data, [], []⟩ := names
    have loaded : loadAnew library.read (options.resolve page.reference) = .ok (tree rest base) :=
      Library.loadAnew_eq_ok_iff.mpr ⟨content, found, compiled⟩
    rcases ih linked (Nat.le_of_succ_le_succ depth) more after mode with ⟨last, rendered, out⟩
    refine ⟨last.shallower.withMode .output, ?_, out⟩
    rw [tree, Rendering.renderNodes_singleton]
    exact renderNode_layout page written quoted loaded own names mode rendered

end Chain

end LayoutChain

/-- A chain of layouts is rendered to its last page, each block of which is replaced by the first
content that the pages before give for it. -/
theorem renderTemplate_layoutChain {options : Options} {library : Library} {data : Value}
    {value : Output → Value} {first : LayoutChain.Page} {rest : List LayoutChain.Page}
    {base : List LayoutChain.Part}
    (linked : LayoutChain.Linked options library (first :: rest) base)
    (evaluates : ∀ o ∈ LayoutChain.outputs (first :: rest) base,
      Rendering.evalOutput ⟨options, .cached library.read⟩ ⟨.initial data, [], ""⟩ o =
        .ok (value o))
    (depth : (first :: rest).length ≤ options.maxIncludeDepth) :
    renderTemplate options library.read (LayoutChain.tree (first :: rest) base) data =
      .ok (LayoutChain.text value first rest base) := by
  let start : Run := ⟨.initial data, [], ""⟩
  have names : start.context.names = ⟨data, [], []⟩ := rfl
  have mode : start.context.mode = .output := rfl
  rcases LayoutChain.renderNodes_tree base linked depth evaluates names mode with
    ⟨last, rendered, out⟩
  rw [renderTemplate, library.renderText_cached, Rendering.renderText, Rendering.render,
    Rendering.renderWithin_eq]
  change (Rendering.renderNodes _ (Rendering.inner _ options.maxIncludeDepth) _ start >>= _) = _
  rw [rendered]
  change Except.ok last.out = _
  rw [out, ← LayoutChain.text_eq]
  exact congrArg Except.ok String.empty_append

/-- Two layouts: the content of the first page wins over that of the second, the block without a
name takes the text outside the blocks, and a block that no page has keeps its own content. -/
theorem renderTemplate_layoutChain_of_two :
    let page := "\x7b% layout 'b' %\x7dx\x7b% block m %\x7d\x7b\x7b n \x7d\x7d\x7b% endblock %\x7d"
    let b := "\x7b% layout 'c' %\x7d\x7b% block m %\x7d2\x7b% endblock %\x7d"
    let c := "\x7b% block m %\x7d\x7b% endblock %\x7d\x7b% block %\x7d\x7b% endblock %\x7d" ++
      "\x7b% block k %\x7d3\x7b% endblock %\x7d"
    let library : Library := ⟨[(⟨"b.liquid"⟩, b), (⟨"c.liquid"⟩, c)]⟩
    ∃ nodes, compile page = .ok nodes ∧
      renderTemplate .usual library.read nodes (.object [("n", .int 1)]) = .ok "1x3" := by
  intro page b c library
  let base : List LayoutChain.Part :=
    [.block 1 "m" [], .block 1 "" [], .block 1 "k" [.text 1 "3"]]
  let second : LayoutChain.Page := ⟨1, "'c'", [.block 1 "m" [.text 1 "2"]]⟩
  let first : LayoutChain.Page :=
    ⟨1, "'b'", [.text 1 "x", .block 1 "m" [.output 1 ⟨.path "n" [], []⟩]]⟩
  have compiled : compile page = .ok (LayoutChain.tree [first, second] base) := by
    subst page first second base
    with_unfolding_all rfl
  have compiledSecond : compile b = .ok (LayoutChain.tree [second] base) := by
    subst b second base
    with_unfolding_all rfl
  have compiledLast : compile c = .ok (LayoutChain.tree [] base) := by
    subst c base
    with_unfolding_all rfl
  have written : ∀ name : Char, name ≠ '\x27' →
      Reference.Written ['\x27', name, '\x27'] ∧
        Reference.isQuoted ['\x27', name, '\x27'] = true := by
    intro name h
    have absent : '\x27' ∉ [name] := fun hm => h (List.mem_singleton.mp hm).symm
    exact ⟨.quoted (by decide) absent, rfl⟩
  have atB : first.reference.toList = ['\x27', 'b', '\x27'] := by decide
  have atC : second.reference.toList = ['\x27', 'c', '\x27'] := by decide
  have linked : LayoutChain.Linked .usual library [first, second] base :=
    ⟨atB ▸ written 'b' (by decide), ⟨b, by decide +kernel, compiledSecond⟩,
      atC ▸ written 'c' (by decide), ⟨c, by decide +kernel, compiledLast⟩, trivial⟩
  have evaluates : ∀ o ∈ LayoutChain.outputs [first, second] base,
      Rendering.evalOutput ⟨.usual, .cached library.read⟩
        ⟨.initial (.object [("n", .int 1)]), [], ""⟩ o = .ok (.int 1) := by
    intro o ho
    rcases List.mem_singleton.mp ho with rfl
    with_unfolding_all rfl
  refine ⟨_, compiled, ?_⟩
  rw [renderTemplate_layoutChain linked evaluates (by decide)]
  decide +kernel

end TemplateSite
