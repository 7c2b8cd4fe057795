/-!
# Markup entities

The five characters that markup reserves are written as entities; every other character stands for
itself. Escaping works character by character, so it respects concatenation.
-/
namespace TemplateSite.Text

/-- The entity of a reserved character, or the character itself. -/
def entity (c : Char) : List Char :=
  match c with
  | '&' => "&amp;".toList
  | '<' => "&lt;".toList
  | '>' => "&gt;".toList
  | '\x22' => "&quot;".toList
  | '\x27' => "&#39;".toList
  | _ => [c]

/-- Every reserved character as its entity. -/
def escape (s : List Char) : List Char :=
  s.flatMap entity

@[simp] theorem escape_nil : escape [] = [] := rfl

theorem escape_append (s t : List Char) : escape (s ++ t) = escape s ++ escape t :=
  List.flatMap_append

end TemplateSite.Text
