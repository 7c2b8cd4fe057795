import TemplateSite.Proofs.Offset.Searches
import TemplateSite.Proofs.Template.Trimming

/-!
# Quotation marks in two scans

The search for a closing delimiter goes over a text character by character and keeps the quotation
mark that is open. The reading of tokens takes each text literal at once. They open and close the
same literals: a text that has tokens leaves no mark open and is passed over as a whole, and in the
body of an output or a tag, with its dashes or without them, every literal is closed.
-/
namespace TemplateSite
open Text

/-! ## The mark that is open -/

/-- The quotation mark that is open after one more character. -/
def turnQuote : Option Char → Char → Option Char
  | some q, c => if c = q then none else some q
  | none, c => if Reference.isQuote c then some c else none

/-- The quotation mark that is open after a text. The first argument is the one open before it. -/
def openQuote (q : Option Char) (s : List Char) : Option Char :=
  s.foldl turnQuote q

@[simp] theorem openQuote_nil (q : Option Char) : openQuote q [] = q := rfl

@[simp] theorem openQuote_cons (q : Option Char) (c : Char) (s : List Char) :
    openQuote q (c :: s) = openQuote (turnQuote q c) s := rfl

@[simp] theorem openQuote_append (q : Option Char) (s t : List Char) :
    openQuote q (s ++ t) = openQuote (openQuote q s) t :=
  List.foldl_append

theorem turnQuote_isQuote {q : Option Char} (hq : ∀ mark ∈ q, Reference.isQuote mark = true)
    (c : Char) : ∀ mark ∈ turnQuote q c, Reference.isQuote mark = true := by
  intro mark hm
  rw [turnQuote.eq_def] at hm
  split at hm
  · split at hm
    · cases hm
    · exact hq mark hm
  · split at hm
    · rename_i hc
      cases hm
      exact hc
    · cases hm

theorem openQuote_isQuote {q : Option Char} (hq : ∀ mark ∈ q, Reference.isQuote mark = true)
    (s : List Char) : ∀ mark ∈ openQuote q s, Reference.isQuote mark = true := by
  induction s generalizing q with
  | nil => exact hq
  | cons c s ih => exact ih (turnQuote_isQuote hq c)

/-- A mark stays open up to the next such mark. -/
theorem openQuote_of_not_mem {q : Char} {s : List Char} (h : q ∉ s) :
    openQuote (some q) s = some q := by
  induction s with
  | nil => rfl
  | cons c s ih =>
    rw [List.mem_cons, not_or] at h
    rw [openQuote_cons, turnQuote, if_neg (Ne.symm h.1), ih h.2]

/-! ## The search for a closing delimiter -/

/-- A closing delimiter is found where no mark is open. -/
theorem openQuote_of_splitAtClosing {d : Char} {q : Option Char} {s body after : List Char}
    (h : splitAtClosing d q s = some (body, after)) : openQuote q body = none := by
  induction s generalizing q body with
  | nil => cases q <;> cases h
  | cons c rest ih =>
    cases q with
    | some q =>
      rw [splitAtClosing] at h
      rcases Option.map_eq_some_iff.mp h with ⟨⟨found, _⟩, hf, he⟩
      cases he
      rw [openQuote_cons, turnQuote]
      exact ih hf
    | none =>
      rw [splitAtClosing] at h
      split at h
      · rename_i hq
        have mark : turnQuote none c = some c := by
          rw [turnQuote, if_pos]
          simpa [Reference.isQuote] using hq
        rcases Option.map_eq_some_iff.mp h with ⟨⟨found, _⟩, hf, he⟩
        cases he
        rw [openQuote_cons, mark]
        exact ih hf
      · rename_i hq
        have plain : turnQuote none c = none := by
          rw [turnQuote, if_neg]
          simpa [Reference.isQuote] using hq
        split at h
        · cases h
          rfl
        · rcases Option.map_eq_some_iff.mp h with ⟨⟨found, _⟩, hf, he⟩
          cases he
          rw [openQuote_cons, plain]
          exact ih hf

theorem Passes.openQuote {d : Char} {s : List Char} (h : Passes d s) (hd : Closes d) :
    openQuote none s = none :=
  openQuote_of_splitAtClosing (h.splitAtClosing hd [])

/-! ## The reading of tokens -/

namespace Token

/-- Only a literal fails for want of its closing mark. -/
theorem next_eq_unterminated {c : Char} {s : List Char}
    (h : next c s = .error .unterminatedString) : Reference.isQuote c = true ∧ c ∉ s := by
  rw [next.eq_def] at h
  split at h
  · rename_i hq
    refine ⟨hq, ?_⟩
    intro hs
    rcases List.eq_append_cons_of_mem hs with ⟨inside, after, rfl, hi⟩
    rw [textRest_closed hi] at h
    cases h
  · split at h
    · split at h <;> cases h
    · split at h
      · cases h
      · split at h
        · cases h
        · split at h
          · have number := map_eq_error_iff.mp h
            rw [ofNumber] at number
            split at number <;> cases number
          · split at h <;> cases h

theorem openQuote_of_unterminated {s : List Char} (h : tokens s = .error .unterminatedString) :
    openQuote none s ≠ none := by
  induction s using tokens.induct with
  | case1 =>
    rw [tokens_nil] at h
    cases h
  | case2 c s hc ih =>
    have blank : turnQuote none c = none :=
      of_isBlank (P := fun c => turnQuote none c = none) (by decide) hc
    rw [tokens_cons_of_blank hc] at h
    rw [openQuote_cons, blank]
    exact ih h
  | case3 c s hc fault hn =>
    rw [tokens_cons (by simpa using hc), hn] at h
    cases h
    rcases next_eq_unterminated hn with ⟨hq, absent⟩
    rw [openQuote_cons, turnQuote, if_pos hq, openQuote_of_not_mem absent]
    simp
  | case4 c s hc token rest hn fault hr ih =>
    rw [tokens_cons (by simpa using hc), hn] at h
    have more := map_eq_error_iff.mp h
    -- a token that is read leaves no mark open, so the one at the end was opened in the rest
    rcases takes_of_next (d := '%') (Or.inr rfl) hn with ⟨taken, ht, passes⟩
    rw [ht, openQuote_append, passes.openQuote (Or.inr rfl)]
    exact ih more
  | case5 c s hc token rest hn more hr ih =>
    rw [tokens_cons (by simpa using hc), hn] at h
    have failed := map_eq_error_iff.mp h
    rw [hr] at failed
    cases failed

end Token

theorem openQuote_stripDashes {body : List Char} (h : openQuote none body = none) :
    openQuote none (stripDashes body).1 = none := by
  rcases hs : stripDashes body with ⟨inner, left, right⟩
  have front : openQuote none (dash left) = none := by
    cases left <;> rfl
  rw [stripDashes_eq hs, openQuote_append, openQuote_append, front] at h
  cases right with
  | false => exact h
  | true =>
    cases hm : openQuote none inner with
    | none => rfl
    | some mark =>
      have quote := openQuote_isQuote (q := none) (by simp) inner mark hm
      have other : '-' ≠ mark := by
        rintro rfl
        cases quote
      rw [hm] at h
      simp [dash, turnQuote, other] at h

namespace Offset

/-- The offset of the closing delimiter, which starts with `d`, of a text that starts with the two
characters of an opening one. -/
def closeOf (tag : List Char) (d : Char) : Answer (Option Nat) :=
  findClose tag d none (size (tag.take 2)) (tag.drop 2)

theorem closeOf_eq (tag : List Char) (d : Char) : closeOf tag d =
    .ok ((splitAtClosing d none (tag.drop 2)).map fun found =>
      size (tag.take 2) + size found.1) := by
  have h := findClose_eq d none (tag.take 2) (tag.drop 2)
  rwa [List.take_append_drop] at h

/-- A text that ends in a closing delimiter splits there into the two characters of the opening one,
a body in which no mark is left open, and what follows. -/
theorem closeOf_eq_some {tag : List Char} {d : Char} {n : Nat} (h : closeOf tag d = .ok (some n)) :
    ∃ opened body after, tag = opened ++ (body ++ d :: '\x7d' :: after) ∧ opened.length = 2 ∧
      n = size opened + size body ∧
      splitAtClosing d none (body ++ d :: '\x7d' :: after) = some (body, after) := by
  rw [closeOf_eq] at h
  rcases Option.map_eq_some_iff.mp (Except.ok.inj h) with ⟨⟨body, after⟩, hsplit, hn⟩
  have rest := splitAtClosing_eq hsplit
  refine ⟨tag.take 2, body, after, ?_, ?_, hn.symm, rest ▸ hsplit⟩
  · rw [← rest, List.take_append_drop]
  · have longer := congrArg List.length rest
    rw [List.length_drop, List.length_append, List.length_cons] at longer
    rw [List.length_take]
    omega

theorem bodyOf_of_split {opened body after : List Char} {d : Char} (two : opened.length = 2)
    (octets : size opened = 2)
    (split : splitAtClosing d none (body ++ d :: '\x7d' :: after) = some (body, after)) :
    bodyOf (opened ++ (body ++ d :: '\x7d' :: after)) d =
      .ok (some (TemplateSite.stripDashes body, 2 + size body)) := by
  rcases List.length_eq_two.mp two with ⟨first, second, rfl⟩
  have h := bodyOf_eq octets d (body ++ d :: '\x7d' :: after)
  rwa [split] at h

/-- The search for a closing delimiter and the reading of tokens agree on text literals. A text that
has tokens is the body of an output and of a tag, whatever follows: the delimiter that is found is
the one right after it. And in the body that is taken before a delimiter that is found, no literal
lacks its closing mark, with the dashes at its ends or without them. -/
theorem literals_agree :
    (∀ s ts, Token.tokens s = .ok ts → ∀ (delimiter : Delimiter) (r : List Char),
      closeOf ('\x7b' :: delimiter.first :: (s ++ delimiter.last :: '\x7d' :: r)) delimiter.last =
        .ok (some (2 + size s))) ∧
    ∀ (tag : List Char) (delimiter : Delimiter) (n : Nat),
      closeOf tag delimiter.last = .ok (some n) →
      ∃ opened body after, tag = opened ++ (body ++ delimiter.last :: '\x7d' :: after) ∧
        opened.length = 2 ∧ n = size opened + size body ∧
        (size opened = 2 → bodyOf tag delimiter.last =
          .ok (some (TemplateSite.stripDashes body, n))) ∧
        Token.tokens body ≠ .error .unterminatedString ∧
        Token.tokens (TemplateSite.stripDashes body).1 ≠ .error .unterminatedString := by
  refine ⟨?_, ?_⟩
  · intro s ts h delimiter r
    have passes : Passes delimiter.last s := Token.passes_of_tokens delimiter.closes h
    have two : size ['\x7b', delimiter.first] = 2 := by
      cases delimiter <;> rfl
    rw [closeOf_eq]
    change Except.ok (Option.map _ (splitAtClosing _ none (s ++ _ :: '\x7d' :: r))) = _
    rw [passes.splitAtClosing delimiter.closes, Option.map_some]
    change Except.ok (some (size ['\x7b', delimiter.first] + size s)) = _
    rw [two]
  · intro tag delimiter n h
    rcases closeOf_eq_some h with ⟨opened, body, after, rfl, two, rfl, split⟩
    have balanced := openQuote_of_splitAtClosing split
    refine ⟨opened, body, after, rfl, two, rfl, ?_, ?_, ?_⟩
    · intro octets
      rw [bodyOf_of_split two octets split, octets]
    · intro failed
      exact Token.openQuote_of_unterminated failed balanced
    · intro failed
      exact Token.openQuote_of_unterminated failed (openQuote_stripDashes balanced)

/-- Literals that hold the closing delimiters and the other mark, before a text that goes on with
one more mark; and a tag between dashes with its delimiter inside a literal. -/
theorem literals_agree_of_quoted :
    let s := "\"it's \x7d\x7d\" | append: '%\x7d'".toList
    let tag := "\x7b%- é 'a%\x7d' -%\x7d'".toList
    (∃ ts, Token.tokens s = .ok ts) ∧
      closeOf ("\x7b\x7b".toList ++ (s ++ "\x7d\x7d'\x7d\x7d".toList)) '\x7d' =
        .ok (some (2 + size s)) ∧
      closeOf tag '%' = .ok (some 14) ∧
      ∃ body, bodyOf tag '%' = .ok (some (TemplateSite.stripDashes body, 14)) ∧
        Token.tokens body ≠ .error .unterminatedString ∧
        Token.tokens (TemplateSite.stripDashes body).1 ≠ .error .unterminatedString := by
  intro s tag
  have read : (Token.tokens s).toOption.isSome = true := by decide +kernel
  rcases exists_eq_ok_of_isSome read with ⟨ts, read⟩
  have found : closeOf tag '%' = .ok (some 14) := by decide +kernel
  rcases literals_agree.2 tag .tag 14 found with
    ⟨opened, body, after, htag, two, -, taken, whole, bare⟩
  have first : opened = "\x7b%".toList := by
    have h := congrArg (List.take 2) htag
    rw [List.take_left' two] at h
    exact h.symm
  have octets : size opened = 2 := by
    rw [first]
    decide
  exact ⟨⟨ts, read⟩, literals_agree.1 s ts read .output "'\x7d\x7d".toList, found, body,
    taken octets, whole, bare⟩

end Offset
end TemplateSite
