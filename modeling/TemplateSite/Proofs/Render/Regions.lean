import TemplateSite.Proofs.Template.Grafting
import TemplateSite.Proofs.Template.Overlap
import TemplateSite.Proofs.Render.Lines

/-!
# Regions are opaque

Between the two tags of a region a text means nothing: in a raw region it is rendered as it stands,
and in a comment region it is dropped. The search for the end of a region tries every opening
delimiter in the text with the first closing delimiter after it, which may be that of the end tag
itself.
-/
namespace TemplateSite
open Text

/-- A text that can stand in a region: it has no end tag of the region in it, and no opening
delimiter of a tag that shares its second character with a closing one. -/
structure Region.Holds (region : Region) (t : List Char) : Prop where
  apart : ¬ ['\x7b', '%', '\x7d'] <:+: t
  free : ∀ dashes close, region.Ends close → ¬ enclosedTag dashes close <:+: t

def nameTag (name : String) : List Char :=
  enclosedTag .absent (' ' :: name.toList ++ [' '])

namespace Region

def around (region : Region) (t : List Char) : List Char :=
  nameTag region.name ++ (t ++ nameTag region.closing)

/-- What a region around a text contributes to the output. -/
def content : Region → List Char → List Char
  | .raw, t => t
  | .comment, _ => []

def piece : Region → List Char → Piece
  | .raw, t => .raw 1 .absent t .absent
  | .comment, _ => .comment 1 .absent .absent

end Region

variable {region : Region} {close t : List Char}

theorem Region.Holds.tail {c : Char} (h : region.Holds (c :: t)) : region.Holds t :=
  ⟨fun found => h.apart (List.infix_cons found),
    fun dashes close ends found => h.free dashes close ends (List.infix_cons found)⟩

theorem Region.holds_of_not_infix (apart : ¬ ['\x7b', '%', '\x7d'] <:+: t)
    (h : ¬ region.closing.toList <:+: t) : region.Holds t := by
  refine ⟨apart, ?_⟩
  intro dashes close ends found
  rcases eq_append_trim close with ⟨before, after, -, -, hclose⟩
  rw [ends] at hclose
  have inside : close <:+: enclosedTag dashes close :=
    ⟨'\x7b' :: '%' :: dash dashes.left, dash dashes.right ++ ['%', '\x7d'], by simp [enclosed]⟩
  exact h (.trans ⟨before, after, hclose.symm⟩ (inside.trans found))

/-- The search passes over a text that can stand in the region, and finds the end tag after it. -/
theorem Region.Holds.findRegionEnd (h : region.Holds t) (ends : region.Ends close) (dashes : Dashes)
    (line : Nat) (rest : List Char) : ∃ line', TemplateSite.findRegionEnd region line
      (t ++ (enclosedTag dashes close ++ rest)) = .found t dashes line' rest := by
  induction t generalizing line with
  | nil => exact ends.findRegionEnd line dashes rest
  | cons c t ih =>
    rcases ih h.tail (lineAfter c line) with ⟨line', hfound⟩
    refine ⟨line', ?_⟩
    rw [List.cons_append, TemplateSite.findRegionEnd, hfound]
    split
    · rename_i hopen
      rcases hopen with ⟨rfl, hd⟩
      cases t with
      | nil => cases hd
      | cons d t =>
        cases hd
        have hclose : (t ++ (enclosedTag dashes close ++ rest)).head? ≠ some '\x7d' := by
          cases t with
          | nil => simp [enclosed]
          | cons e t =>
            rintro he
            cases he
            exact h.apart ⟨[], t, rfl⟩
        -- Every tag that opens in the text is closed at the latest by the end tag.
        have hs : t ++ (enclosedTag dashes close ++ rest) = (t ++ '\x7b' :: '%' ::
            (dash dashes.left ++ close ++ dash dashes.right)) ++ '%' :: '\x7d' :: rest := by
          simp [enclosed]
        rcases splitAtTagEnd_within (t ++ '\x7b' :: '%' ::
          (dash dashes.left ++ close ++ dash dashes.right)) with ⟨body, between, hwithin⟩
        have hsplit := hwithin rest
        rw [List.cons_append, List.tail_cons, if_neg hclose, hs, hsplit]
        simp only
        split
        · rename_i hends
          rw [List.append_assoc, List.cons_append] at hsplit
          exact absurd (Ends.infix_of_splitAtTagEnd hsplit rfl hends) (h.free _ _ hends)
        · rfl
    · rfl

theorem Region.ends_closing (region : Region) :
    region.Ends (' ' :: region.closing.toList ++ [' ']) := by
  unfold Ends
  cases region <;> decide

theorem Region.Holds.cut (h : region.Holds t) :
    ∃ line', TemplateSite.cut 1 (region.around t) = .piece (region.piece t) line' [] := by
  have opening : splitAtClosing '%' none (' ' :: region.name.toList ++ [' ', '%', '\x7d']) =
      some (' ' :: region.name.toList ++ [' '], []) := by
    cases region <;> decide
  have undashed : stripDashes (' ' :: region.name.toList ++ [' ']) =
      (' ' :: region.name.toList ++ [' '], .absent) := by
    cases region <;> decide
  have name : (splitName (stripDashes (' ' :: region.name.toList ++ [' '])).1).1 =
      region.name.toList := by
    cases region <;> decide
  have hs : region.around t = '\x7b' :: '%' :: (' ' :: region.name.toList ++ [' '] ++
      '%' :: '\x7d' :: (t ++ nameTag region.closing)) := by
    simp [around, nameTag, enclosed, dash, Dashes.absent]
  rcases h.findRegionEnd region.ends_closing .absent
    (1 + lineEnds (' ' :: region.name.toList ++ [' '])) [] with ⟨line', hfound⟩
  rw [List.append_nil] at hfound
  refine ⟨line', ?_⟩
  rw [hs, cut_of_closing (splitAtClosing_front opening _) name, undashed, cutRegion, nameTag,
    hfound]
  cases region <;> rfl

/-- A region is built to the text that it contributes. -/
theorem Region.add_piece (region : Region) (t : List Char) :
    Builder.empty.add (region.piece t) =
      .ok { Builder.empty with siblings := Node.ofText 1 (region.content t) } := by
  cases region with
  | comment => rfl
  | raw => cases t <;> rfl

theorem renderTemplate_ofText (options : Options) (source : Source) (line : Nat) (t : List Char)
    (data : Value) :
    renderTemplate options source (Node.ofText line t) data = .ok (String.ofList t) := by
  rw [renderTemplate, Rendering.renderText, Rendering.render, Rendering.renderWithin_eq,
    Rendering.renderNodes_ofText]
  exact congrArg Except.ok String.empty_append

/-- A raw region compiles to its text, or to nothing without one, and renders to it whatever the
data and the options are; a comment region compiles to nothing. -/
theorem compile_around (h : region.Holds t) :
    compile (String.ofList (region.around t)) = .ok (Node.ofText 1 (region.content t)) ∧
      ∀ (options : Options) (source : Source) (data : Value),
        renderTemplate options source (Node.ofText 1 (region.content t)) data =
          .ok (String.ofList (region.content t)) := by
  constructor
  · rcases h.cut with ⟨line', hcut⟩
    rw [Builder.compile_eq_compileFrom, String.toList_ofList,
      Builder.compileFrom_of_piece hcut (region.add_piece t), Builder.compileFrom_nil]
    cases region with
    | comment => rfl
    | raw => cases t <;> rfl
  · intro options source data
    exact renderTemplate_ofText options source 1 _ data

/-- A quotation mark and an output that are not closed, an unknown tag, a block tag, and delimiters
whose closing one is that of the end tag. -/
theorem compile_around_of_unbalanced :
    let t := "it\x27s \x7b\x7b x \x7b% nope %\x7d\x7b% for y %\x7d \x7b% end \x7b%-".toList
    (compile (String.ofList (Region.raw.around t)) = .ok [.leaf (.text (String.ofList t)) 1] ∧
      ∀ (options : Options) (source : Source) (data : Value),
        renderTemplate options source [.leaf (.text (String.ofList t)) 1] data =
          .ok (String.ofList t)) ∧
    compile (String.ofList (Region.comment.around t)) = .ok [] := by
  intro t
  have apart : ¬ ['\x7b', '%', '\x7d'] <:+: t := by decide +kernel
  have raw : ¬ Region.raw.closing.toList <:+: t := by decide +kernel
  have comment : ¬ Region.comment.closing.toList <:+: t := by decide +kernel
  exact ⟨compile_around (Region.holds_of_not_infix apart raw),
    (compile_around (Region.holds_of_not_infix apart comment)).1⟩

end TemplateSite
