import TemplateSite.Proofs.Render.States
import TemplateSite.Proofs.Render.Trees

/-!
# Keeping partials changes nothing

A cache is sound for a library if each entry holds what the file at its path compiles to. A
rendering keeps its cache sound at every point, so a partial from the cache is the one that reading
and compiling the file anew would give, and the two ways of coming by partials lead to the same
outcome.
-/
namespace TemplateSite

/-- Every entry holds what the file at its path compiles to. -/
def PartialCache.Sound (library : Library) (cache : PartialCache) : Prop :=
  ∀ entry ∈ cache, ∃ content, library.find? entry.1 = some content ∧
    compile content = .ok entry.2

namespace Library

variable {library : Library}

theorem find?_of_same {p q : Path} (h : p.same q = true) : library.find? p = library.find? q := by
  rw [Path.same_iff] at h
  simp only [find?, Path.same, h]

theorem loadAnew_eq_ok_iff {p : Path} {nodes : List Node} :
    loadAnew library.read p = .ok nodes ↔
      ∃ content, library.find? p = some content ∧ compile content = .ok nodes := by
  rw [loadAnew_eq_ok, read]
  cases library.find? p <;> simp

end Library

namespace PartialCache.Sound

variable {library : Library} {cache : PartialCache}

/-- What is found in a sound cache is what the file compiles to. -/
theorem loadAnew_of_find? (h : cache.Sound library) {p : Path} {nodes : List Node}
    (hf : cache.find? p = some nodes) : loadAnew library.read p = .ok nodes := by
  rcases Option.map_eq_some_iff.mp hf with ⟨entry, found, rfl⟩
  rcases h entry (List.mem_of_find?_eq_some found) with ⟨content, hc, compiled⟩
  have same : entry.1.same p = true := by simpa using List.find?_some found
  exact Library.loadAnew_eq_ok_iff.mpr ⟨content, Library.find?_of_same same ▸ hc, compiled⟩

theorem cons (h : cache.Sound library) {p : Path} {nodes : List Node}
    (hl : loadAnew library.read p = .ok nodes) :
    PartialCache.Sound library ((p, nodes) :: cache) := by
  intro entry he
  rcases List.mem_cons.mp he with rfl | he
  · exact Library.loadAnew_eq_ok_iff.mp hl
  · exact h entry he

theorem find?_eq_none (h : cache.Sound library) {p : Path} {failure : Failure RenderFault}
    (hl : loadAnew library.read p = .error failure) : cache.find? p = none := by
  cases hf : cache.find? p with
  | none => rfl
  | some nodes =>
    rw [h.loadAnew_of_find? hf] at hl
    cases hl

/-- With a sound cache a partial is loaded as if there were none, and the cache stays sound. -/
theorem cached_matches (h : cache.Sound library) (p : Path) (other : PartialCache) :
    Outcome.Matches (fun _ => False) (fun x y => x.1 = y.1 ∧ PartialCache.Sound library x.2)
      (Loader.cached library.read p cache) (Loader.direct library.read p other) := by
  rw [Loader.cached, Loader.direct]
  cases hf : cache.find? p with
  | some nodes =>
    rw [h.loadAnew_of_find? hf]
    exact .ok ⟨rfl, h⟩
  | none =>
    cases hl : loadAnew library.read p with
    | error failure => exact .same failure
    | ok nodes => exact .ok ⟨rfl, h.cons hl⟩

end PartialCache.Sound

theorem Run.cache_fillBlock (run : Run) (name content : String) :
    (run.fillBlock name content).cache = run.cache := by
  rw [fillBlock]
  split <;> rfl

namespace Library

variable (options : Options) (library : Library)

/-- Renderings with a cache and without one: the cache stays sound. -/
def caching : Likeness where
  excused _ := False
  names := (· = ·)
  caches cache _ := cache.Sound library
  target _ := True
  expression _ := True
  reference _ := True
  path _ := True

theorem caching_permits (kind : NodeKind) (file : Option String) :
    library.caching.Permits kind file :=
  Likeness.plain_permits kind file

theorem caching_admits (nodes : List Node) : library.caching.Admits nodes :=
  Likeness.plain_admits nodes

theorem caching_relates : library.caching.Relates ⟨options, .cached library.read⟩
    ⟨options, .direct library.read⟩ :=
  Likeness.plain_relates rfl rfl (fun names => Expr.eval_matches names fun _ _ => .refl _ _)
    (fun _ _ _ => .refl _ _) fun p _ d hc => PartialCache.Sound.cached_matches hc p d

theorem renderText_cached (nodes : List Node) (data : Value) :
    Rendering.renderText ⟨options, .cached library.read⟩ nodes data =
      Rendering.renderText ⟨options, .direct library.read⟩ nodes data :=
  ((library.caching_relates options).renderText rfl (library.caching_admits nodes) rfl
    (by intro entry he; cases he)).eq

section Stages

variable {options library} {f g : Rendering.Step} {run next : Run} {a b : Stage}

/-- A step that runs alike with a cache and without one keeps the cache sound. -/
theorem sound_of_steps (steps : library.caching.Steps f g) (h : run.cache.Sound library)
    (hf : f run = .ok next) : next.cache.Sound library := by
  have start : library.caching.Alike "" run run :=
    ⟨⟨rfl, rfl, rfl, rfl⟩, h, String.empty_append.symm⟩
  have ends := steps "" run run start
  rw [hf] at ends
  rcases ends.exists_of_ok with ⟨_, -, ends⟩
  exact ends.alike.cache

theorem sound_of_loads {raw : String} {nodes : List Node} {cache : PartialCache}
    (h : run.cache.Sound library)
    (hl : (Rendering.mk options (.cached library.read)).Loads run raw nodes cache) :
    cache.Sound library := by
  rcases hl with ⟨path, -, loaded⟩
  have alike := h.cached_matches path []
  rw [show Loader.cached library.read path run.cache = .ok (nodes, cache) from loaded] at alike
  rcases alike.exists_of_ok with ⟨_, -, -, sound⟩
  exact sound

theorem sound_of_leads (h : a.run.cache.Sound library)
    (step : (Rendering.mk options (.cached library.read)).Leads a b) :
    b.run.cache.Sound library := by
  have sim := library.caching_relates options
  have enters := sim.enters rfl
  cases step with
  | @past levels node rest run next hn =>
    have admitted := Node.everywhere_of_forall library.caching_permits node
    exact sound_of_steps (sim.renderNode (enters _) admitted) h hn
  | loaded hk hl => exact sound_of_loads h hl
  | included hl hs => exact sound_of_loads h hl
  | layoutBody hl => exact sound_of_loads h hl
  | @layoutFile levels line raw content children rest nodes run next cache hl hb =>
    rw [Rendering.aside, bind_eq_ok_iff] at hb
    rcases hb with ⟨inside, hi, hn⟩
    have admitted := Node.everywhereOf_of_forall library.caching_permits children
    have sound := sound_of_steps (sim.renderChildren (enters _) admitted) (sound_of_loads h hl) hi
    have kept : next.cache = inside.cache := by
      cases hn
      rfl
    change PartialCache.Sound library (next.fillBlock "" content).cache
    rw [Run.cache_fillBlock, kept]
    exact sound
  | block hn => exact h
  | taken ht => exact h
  | branch => exact h
  | @iteration levels line spec file body rest run next before after item hi hb =>
    have inside := sim.renderNodes (enters levels) (library.caching_admits body)
    have steps := Likeness.Steps.forEach
      (sim.iteration inside spec (before ++ item :: after).length) before 0
    have sound : next.cache.Sound library := sound_of_steps steps h hb
    exact sound

/-- A rendering whose cache is sound at the start keeps it sound at every point that it reaches. -/
theorem sound_of_reaches (h : a.run.cache.Sound library)
    (steps : (Rendering.mk options (.cached library.read)).Reaches a b) :
    b.run.cache.Sound library := by
  induction steps with
  | refl => exact h
  | tail _ step ih => exact sound_of_leads ih step

end Stages
end Library

/-- The cache of a rendering is invisible: the outcome is the one without a cache, and at every
point each entry holds what the file at its place compiles to. A file that cannot be read or
compiled has no entry. -/
theorem renderTemplate_cached (options : Options) (library : Library) (nodes : List Node)
    (data : Value) :
    renderTemplate options library.read nodes data =
      Rendering.renderText ⟨options, .direct library.read⟩ nodes data ∧
    ∀ stage, (Rendering.mk options (.cached library.read)).Reaches
        ⟨options.maxIncludeDepth, nodes, ⟨.initial data, [], ""⟩⟩ stage →
      (∀ entry ∈ stage.run.cache, ∃ content, library.find? entry.1 = some content ∧
        compile content = .ok entry.2) ∧
      ∀ path failure, loadAnew library.read path = .error failure →
        stage.run.cache.find? path = none := by
  refine ⟨library.renderText_cached options nodes data, ?_⟩
  intro stage reached
  have empty : PartialCache.Sound library [] := by
    intro entry he
    cases he
  have sound := Library.sound_of_reaches empty reached
  exact ⟨sound, fun path failure failed => sound.find?_eq_none failed⟩

end TemplateSite
