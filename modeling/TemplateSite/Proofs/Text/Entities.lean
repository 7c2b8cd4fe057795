import Mathlib.Data.List.Infix
import TemplateSite.Render.Filter

/-!
# Markup entities and the texts they stand for

In an escaped text no reserved character stands for itself, so it is safe wherever markup is read.
Nothing is lost by escaping: replacing the entities again gives the text back.
-/
namespace TemplateSite
open Text

namespace Text

def reserved : List Char := ['&', '<', '>', '\x22', '\x27']

def entities : List (List Char) :=
  ["&amp;", "&lt;", "&gt;", "&quot;", "&#39;"].map String.toList

/-- Replaces every entity by the character that it stands for, from the left and in one pass. -/
def unescape : List Char → List Char
  | '&' :: 'a' :: 'm' :: 'p' :: ';' :: rest => '&' :: unescape rest
  | '&' :: 'l' :: 't' :: ';' :: rest => '<' :: unescape rest
  | '&' :: 'g' :: 't' :: ';' :: rest => '>' :: unescape rest
  | '&' :: 'q' :: 'u' :: 'o' :: 't' :: ';' :: rest => '\x22' :: unescape rest
  | '&' :: '#' :: '3' :: '9' :: ';' :: rest => '\x27' :: unescape rest
  | c :: rest => c :: unescape rest
  | [] => []

/-- No reserved character stands for itself: an ampersand begins an entity, and the others are not
there. -/
structure Safe (s : List Char) : Prop where
  entity_of_ampersand : ∀ rest, '&' :: rest <:+ s → ∃ e ∈ entities, e <+: '&' :: rest
  not_mem : ∀ c ∈ reserved, c ≠ '&' → c ∉ s

/-- How a character is written in an escaped text. -/
inductive Spelling : Char → List Char → Prop where
  | ampersand : Spelling '&' ['&', 'a', 'm', 'p', ';']
  | less : Spelling '<' ['&', 'l', 't', ';']
  | greater : Spelling '>' ['&', 'g', 't', ';']
  | quote : Spelling '\x22' ['&', 'q', 'u', 'o', 't', ';']
  | apostrophe : Spelling '\x27' ['&', '#', '3', '9', ';']
  | plain {c : Char} (h : c ∉ reserved) : Spelling c [c]

theorem spelling_entity (c : Char) : Spelling c (entity c) := by
  unfold entity
  split
  · exact .ampersand
  · exact .less
  · exact .greater
  · exact .quote
  · exact .apostrophe
  · exact .plain (by simp_all [reserved])

theorem escape_cons (c : Char) (s : List Char) : escape (c :: s) = entity c ++ escape s :=
  List.flatMap_cons

/-! ## Escaping is undone -/

section Undoing

variable {c : Char} {e s t : List Char}

theorem unescape_cons (h : c ≠ '&') (s : List Char) : unescape (c :: s) = c :: unescape s := by
  rw [unescape.eq_def]
  split <;> simp_all

theorem Spelling.unescape_append (h : Spelling c e) (s : List Char) :
    unescape (e ++ s) = c :: unescape s := by
  cases h with
  | plain other =>
    refine unescape_cons ?_ s
    rintro rfl
    exact other List.mem_cons_self
  | _ => rfl

theorem unescape_escape (s : List Char) : unescape (escape s) = s := by
  induction s with
  | nil => rfl
  | cons c s ih => rw [escape_cons, (spelling_entity c).unescape_append, ih]

theorem escape_injective : Function.Injective escape :=
  Function.LeftInverse.injective unescape_escape

end Undoing

/-! ## Escaped texts are safe -/

namespace Safe

variable {c : Char} {e s t : List Char}

theorem nil : Safe [] where
  entity_of_ampersand _ h := absurd (List.suffix_nil.mp h) (List.cons_ne_nil _ _)
  not_mem _ _ _ := List.not_mem_nil

/-- An entity is safe, as it has no reserved character after its ampersand. -/
theorem of_entity (known : '&' :: t ∈ entities) (rest : ∀ c ∈ reserved, c ∉ t) :
    Safe ('&' :: t) where
  entity_of_ampersand after h := by
    rcases List.suffix_cons_iff.mp h with same | later
    · exact ⟨_, known, same ▸ List.prefix_refl _⟩
    · exact absurd (later.mem List.mem_cons_self) (rest '&' (by simp [reserved]))
  not_mem c there other h := by
    rcases List.mem_cons.mp h with same | later
    · exact other same
    · exact rest c there later

theorem of_plain (h : c ∉ reserved) : Safe [c] where
  entity_of_ampersand rest after := by
    have there := List.mem_singleton.mp (after.mem List.mem_cons_self)
    exact absurd (there ▸ List.mem_cons_self) h
  not_mem d there _ same := h (List.mem_singleton.mp same ▸ there)

theorem append (hs : Safe s) (ht : Safe t) : Safe (s ++ t) where
  entity_of_ampersand rest h := by
    rcases h with ⟨before, split⟩
    rcases List.append_eq_append_iff.mp split with ⟨tail, hs', within⟩ | ⟨middle, -, ht'⟩
    · cases tail with
      | nil => exact ht.entity_of_ampersand rest ⟨[], within⟩
      | cons c tail =>
        rcases List.cons.inj within with ⟨rfl, rfl⟩
        rcases hs.entity_of_ampersand tail ⟨before, hs'.symm⟩ with ⟨e, known, front⟩
        exact ⟨e, known, front.trans (List.prefix_append _ t)⟩
    · exact ht.entity_of_ampersand rest ⟨middle, ht'.symm⟩
  not_mem c there other h := by
    rcases List.mem_append.mp h with left | right
    · exact hs.not_mem c there other left
    · exact ht.not_mem c there other right

theorem of_spelling (h : Spelling c e) : Safe e := by
  cases h with
  | plain other => exact of_plain other
  | _ => exact of_entity (by decide) (by simp [reserved])

end Safe

theorem safe_escape (s : List Char) : Safe (escape s) := by
  induction s with
  | nil => exact .nil
  | cons c s ih => exact escape_cons c s ▸ (Safe.of_spelling (spelling_entity c)).append ih

end Text

/-! ## The filter -/

theorem applyFilter_escape (strict : Bool) (now : Calendar.Moment) (v : Value)
    (args : List Value) : applyFilter strict now "escape" v args =
      .ok (.text (String.ofList (escape v.display.toList))) := rfl

/-- Escaping is safe and loses nothing. What the filter gives for a value is a text in which no
reserved character stands for itself, and its entities, replaced in a single pass, give the output
form of the value back. So the filter gives the same for two values only if they have the same
output form, and it gives for two output forms in a row what it gives for each of them in a row. -/
theorem escape_reversible (strict : Bool) (now : Calendar.Moment) (args : List Value) :
    (∀ v : Value, ∃ t : String, applyFilter strict now "escape" v args = .ok (.text t) ∧
      Safe t.toList ∧ unescape t.toList = v.display.toList) ∧
    (∀ v w : Value, applyFilter strict now "escape" v args =
      applyFilter strict now "escape" w args ↔ v.display = w.display) ∧
    ∀ v w both : Value, both.display = v.display ++ w.display → ∃ s t : String,
      applyFilter strict now "escape" v args = .ok (.text s) ∧
      applyFilter strict now "escape" w args = .ok (.text t) ∧
      applyFilter strict now "escape" both args = .ok (.text (s ++ t)) := by
  simp only [applyFilter_escape]
  refine ⟨?_, ?_, ?_⟩
  · intro v
    refine ⟨_, rfl, ?_, ?_⟩
    · rw [String.toList_ofList]
      exact safe_escape _
    · rw [String.toList_ofList, unescape_escape]
  · intro v w
    constructor
    · intro same
      have equal := String.ofList_injective (Value.text.inj (Except.ok.inj same))
      exact String.toList_injective (escape_injective equal)
    · intro same
      rw [same]
  · intro v w both concat
    refine ⟨_, _, rfl, rfl, ?_⟩
    rw [concat, String.toList_append, escape_append, String.ofList_append]

/-- A text that holds markup and an entity already, and a list with an apostrophe: the entity is
escaped once more, and the two in a row are escaped as they are apart. -/
theorem escape_reversible_of_entity :
    let markup : Value := .text "<b>&lt;"
    let items : Value := .list [.int 7, .nil, .text "\x27"]
    let both : Value := .list [markup, items]
    both.display = markup.display ++ items.display ∧
      (∃ t : String, applyFilter false .epoch "escape" both [] = .ok (.text t) ∧ Safe t.toList ∧
        t = "&lt;b&gt;&amp;lt;7&#39;" ∧ unescape t.toList = "<b>&lt;7\x27".toList) ∧
      ∃ s t : String, applyFilter false .epoch "escape" markup [] = .ok (.text s) ∧
        applyFilter false .epoch "escape" items [] = .ok (.text t) ∧
        applyFilter false .epoch "escape" both [] = .ok (.text (s ++ t)) := by
  intro markup items both
  have concat : both.display = markup.display ++ items.display := by decide
  rcases escape_reversible false .epoch [] with ⟨each, -, rows⟩
  rcases each both with ⟨t, result, safe, back⟩
  refine ⟨concat, ⟨t, result, safe, ?_, ?_⟩, rows _ _ _ concat⟩
  · rw [applyFilter_escape] at result
    rw [← Value.text.inj (Except.ok.inj result)]
    decide
  · rw [back]
    decide

end TemplateSite
