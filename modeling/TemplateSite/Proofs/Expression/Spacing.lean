import Mathlib.Data.List.TakeWhile
import TemplateSite.Expression.Parser
import TemplateSite.Proofs.Success

/-!
# Blanks around the text of a tag

No token takes a blank at its end, so blanks around a text do not change its tokens, and what is
read from a text is read from the trimmed text too.
-/
namespace TemplateSite
namespace Text

def blankCodes : List Nat :=
  [9, 10, 11, 12, 13, 0x20, 0x85, 0xA0, 0x1680, 0x2000, 0x2001, 0x2002, 0x2003, 0x2004, 0x2005,
    0x2006, 0x2007, 0x2008, 0x2009, 0x200A, 0x2028, 0x2029, 0x202F, 0x205F, 0x3000]

theorem toNat_mem_blankCodes {c : Char} (h : isBlank c = true) : c.toNat ∈ blankCodes := by
  simp only [isBlank, Bool.or_eq_true, Bool.and_eq_true, decide_eq_true_eq, beq_iff_eq] at h
  simp only [blankCodes, List.mem_cons, List.not_mem_nil, or_false]
  omega

theorem of_isBlank {P : Char → Prop} (each : ∀ n ∈ blankCodes, P (Char.ofNat n)) {c : Char}
    (h : isBlank c = true) : P c := by
  have := each c.toNat (toNat_mem_blankCodes h)
  rwa [Char.ofNat_toNat] at this

theorem isDigit_of_isBlank {c : Char} (h : isBlank c = true) : isDigit c = false :=
  of_isBlank (P := fun c => isDigit c = false) (by decide) h

theorem isBlank_space : ∀ c ∈ [' '], isBlank c = true := by
  intro c hc
  rw [List.mem_singleton.mp hc]
  rfl

theorem trimStart_of_blank {s : List Char} (h : ∀ c ∈ s, isBlank c = true) (t : List Char) :
    trimStart (s ++ t) = trimStart t := by
  induction s with
  | nil => rfl
  | cons c s ih =>
    rw [List.cons_append, trimStart_cons_of_blank (h c (List.mem_cons_self ..))]
    exact ih fun d hd => h d (List.mem_cons_of_mem _ hd)

theorem trimEnd_of_blank (s : List Char) {t : List Char} (h : ∀ c ∈ t, isBlank c = true) :
    trimEnd (s ++ t) = trimEnd s := by
  have ht : ∀ c ∈ t.reverse, isBlank c = true := fun c hc => h c (List.mem_reverse.mp hc)
  rw [trimEnd, List.reverse_append, ← trimStart, trimStart_of_blank ht]
  rfl

theorem eq_append_trimEnd (s : List Char) :
    ∃ after, (∀ c ∈ after, isBlank c = true) ∧ s = trimEnd s ++ after := by
  refine ⟨(s.reverse.takeWhile isBlank).reverse, ?_, ?_⟩
  · intro c hc
    exact List.mem_takeWhile_imp (List.mem_reverse.mp hc)
  · have hs := List.takeWhile_append_dropWhile (p := isBlank) (l := s.reverse)
    have hs := congrArg List.reverse hs
    rw [List.reverse_append, List.reverse_reverse] at hs
    exact hs.symm

theorem eq_append_trim (s : List Char) :
    ∃ before after, (∀ c ∈ before, isBlank c = true) ∧ (∀ c ∈ after, isBlank c = true) ∧
      s = before ++ trim s ++ after := by
  rcases eq_append_trimEnd (trimStart s) with ⟨after, ha, hs⟩
  refine ⟨s.takeWhile isBlank, after, ?_, ha, ?_⟩
  · intro c hc
    exact List.mem_takeWhile_imp hc
  · rw [List.append_assoc, trim, ← hs, trimStart, List.takeWhile_append_dropWhile]

theorem trimEnd_head? {s : List Char} : ∀ c ∈ (trimEnd s).head?, c ∈ s.head? := by
  intro c hc
  rcases eq_append_trimEnd s with ⟨after, -, hs⟩
  rw [hs, List.head?_append, Option.mem_def.mp hc]
  rfl

theorem trimEnd_of_not_blank {s : List Char} (h : ∀ c ∈ s, isBlank c = false) :
    trimEnd s = s := by
  rcases eq_append_trimEnd s with ⟨after, ha, hs⟩
  cases after with
  | nil => simpa using hs.symm
  | cons c after =>
    have hc : isBlank c = false := by
      apply h
      rw [hs]
      simp
    rw [ha c (List.mem_cons_self ..)] at hc
    cases hc

theorem trim_of_not_blank {s : List Char} (h : ∀ c ∈ s, isBlank c = false) : trim s = s := by
  cases s with
  | nil => rfl
  | cons c s =>
    rw [trim, trimStart_cons_of_not_blank (h c (List.mem_cons_self ..)), trimEnd_of_not_blank h]

theorem trimEnd_append (s t : List Char) :
    trimEnd (s ++ t) = if (trimEnd t).isEmpty then trimEnd s else s ++ trimEnd t := by
  rw [trimEnd, trimEnd, trimEnd, List.reverse_append, List.dropWhile_append, List.isEmpty_reverse]
  split
  · rfl
  · rw [List.reverse_append, List.reverse_reverse]

theorem trim_append {before after : List Char} (hb : ∀ c ∈ before, isBlank c = true)
    (s : List Char) (ha : ∀ c ∈ after, isBlank c = true) :
    trim (before ++ s ++ after) = trim s := by
  rw [trim, List.append_assoc, trimStart_of_blank hb, trimStart, List.dropWhile_append]
  split
  · rename_i hs
    have hs : s.dropWhile isBlank = [] := List.isEmpty_iff.mp hs
    have ha : after.dropWhile isBlank = [] := List.dropWhile_eq_nil_iff.mpr ha
    rw [ha, trim, trimStart, hs]
  · rw [trimEnd_of_blank _ ha]
    rfl

theorem trim_trimEnd (s : List Char) : trim (trimEnd s) = trim s := by
  rcases eq_append_trimEnd s with ⟨after, ha, hs⟩
  have nothing : ∀ c ∈ [], isBlank c = true := by simp
  have := trim_append nothing (trimEnd s) ha
  rw [List.nil_append, ← hs] at this
  exact this.symm

theorem trim_trim (s : List Char) : trim (trim s) = trim s := by
  rcases eq_append_trim s with ⟨before, after, hb, ha, hs⟩
  have := trim_append hb (trim s) ha
  rw [← hs] at this
  exact this.symm

end Text

open Text

theorem takeWhile_before {p : Char → Bool} (s : List Char) {w : List Char}
    (h : ∀ c ∈ w.head?, p c = false) :
    (s ++ w).takeWhile p = s.takeWhile p ∧ (s ++ w).dropWhile p = s.dropWhile p ++ w := by
  induction s with
  | nil =>
    cases w with
    | nil => exact ⟨rfl, rfl⟩
    | cons c w =>
      have hc := h c rfl
      simp [hc]
  | cons c s ih =>
    by_cases hc : p c = true
    · simp [hc, ih.1, ih.2]
    · simp [hc]

namespace Token

/-- A text that starts with a blank, or no text at all. -/
def Apart (w : List Char) : Prop :=
  ∀ c ∈ w.head?, isBlank c = true

theorem Apart.head?_ne {w : List Char} (h : Apart w) {d : Char} (hd : isBlank d = false) :
    w.head? ≠ some d := by
  intro first
  rw [h d first] at hd
  cases hd

theorem continuesWord_of_isBlank {c : Char} (h : isBlank c = true) : continuesWord c = false :=
  of_isBlank (P := fun c => continuesWord c = false) (by decide +kernel) h

theorem wordRest_append (s : List Char) {w : List Char} (hw : Apart w) :
    wordRest (s ++ w) = ((wordRest s).1, (wordRest s).2 ++ w) := by
  rcases takeWhile_before s fun c hc => continuesWord_of_isBlank (hw c hc) with ⟨ht, hd⟩
  rw [wordRest.eq_def, wordRest.eq_def, ht, hd]
  cases h : s.dropWhile continuesWord with
  | nil =>
    cases w with
    | nil => rfl
    | cons c w =>
      have hc : c ≠ '?' := by
        intro hc
        exact hw.head?_ne (d := '?') rfl (by rw [hc]; rfl)
      simp [hc]
  | cons d rest =>
    by_cases hd : d = '?'
    · subst hd
      rfl
    · simp [hd]

theorem startsWithDigit_append (s : List Char) {w : List Char} (hw : Apart w) :
    startsWithDigit (s ++ w) = startsWithDigit s := by
  cases s with
  | nil =>
    cases w with
    | nil => rfl
    | cons c w => exact isDigit_of_isBlank (hw c rfl)
  | cons c s => rfl

theorem numberRest_append (s : List Char) {w : List Char} (hw : Apart w) :
    numberRest (s ++ w) = ((numberRest s).1, (numberRest s).2 ++ w) := by
  have digits : ∀ c ∈ w.head?, isDigit c = false := fun c hc => isDigit_of_isBlank (hw c hc)
  rcases takeWhile_before s digits with ⟨ht, hd⟩
  rw [numberRest.eq_def, numberRest.eq_def, ht, hd]
  cases h : s.dropWhile isDigit with
  | nil =>
    cases w with
    | nil => rfl
    | cons c w =>
      have hc : c ≠ '.' := by
        intro hc
        exact hw.head?_ne (d := '.') rfl (by rw [hc]; rfl)
      simp [hc]
  | cons d rest =>
    by_cases hd : d = '.'
    · subst hd
      rcases takeWhile_before rest digits with ⟨ht, hd⟩
      simp only [List.cons_append, startsWithDigit_append rest hw, ht, hd]
      split <;> rfl
    · simp [hd]

theorem operator?_append (c : Char) (s : List Char) {w : List Char} (hw : Apart w) :
    operator? c (s ++ w) = (operator? c s).map fun found => (found.1, found.2 ++ w) := by
  cases s with
  | nil =>
    cases w with
    | nil => simp
    | cons d w =>
      have he : d ≠ '=' := by
        intro hd
        exact hw.head?_ne (d := '=') rfl (by rw [hd]; rfl)
      have hg : d ≠ '>' := by
        intro hd
        exact hw.head?_ne (d := '>') rfl (by rw [hd]; rfl)
      simp only [List.nil_append, operator?.eq_def]
      split <;> simp_all
  | cons d s =>
    simp only [List.cons_append, operator?.eq_def]
    split <;> simp_all

theorem textRest_closed {q : Char} {inside : List Char} (hi : q ∉ inside) (rest : List Char) :
    textRest q (inside ++ q :: rest) = .ok (.text (String.ofList inside), rest) := by
  have hne : ∀ c ∈ inside, (c != q) = true := by
    intro c hc
    simp only [bne_iff_ne]
    exact fun h => hi (h ▸ hc)
  rw [textRest, List.dropWhile_append_of_pos hne, List.takeWhile_append_of_pos hne]
  simp

theorem textRest_of_mem {q : Char} {s : List Char} (hq : q ∈ s) (w : List Char) :
    textRest q (s ++ w) = (textRest q s).map fun found => (found.1, found.2 ++ w) := by
  rcases List.eq_append_cons_of_mem hq with ⟨inside, after, rfl, hi⟩
  rw [List.append_assoc, List.cons_append, textRest_closed hi, textRest_closed hi]
  rfl

theorem textRest_of_not_mem {q : Char} {s : List Char} (hq : q ∉ s) :
    textRest q s = .error .unterminatedString := by
  have hs : s.dropWhile (· != q) = [] := by
    refine List.dropWhile_eq_nil_iff.mpr ?_
    intro c hc
    simp only [bne_iff_ne]
    exact fun h => hq (h ▸ hc)
  rw [textRest, hs]

/-- What a token is read from stays the same when a blank comes after the text, but for a text
literal that is not closed before that. -/
theorem next_append {c : Char} {s w : List Char} (hw : Apart w)
    (hq : Reference.isQuote c = true → c ∈ s ∨ c ∉ w) :
    next c (s ++ w) = (next c s).map fun found => (found.1, found.2 ++ w) := by
  rw [next.eq_def, next.eq_def]
  by_cases hquote : Reference.isQuote c = true
  · rw [if_pos hquote, if_pos hquote]
    by_cases hs : c ∈ s
    · exact textRest_of_mem hs w
    · have hn : c ∉ s ++ w := by
        simpa [hs] using (hq hquote).resolve_left hs
      rw [textRest_of_not_mem hs, textRest_of_not_mem hn]
      rfl
  · rw [if_neg hquote, if_neg hquote]
    by_cases hdot : c = '.'
    · rw [if_pos hdot, if_pos hdot]
      cases s with
      | nil =>
        cases w with
        | nil => rfl
        | cons d w =>
          have hd : d ≠ '.' := by
            intro hd
            exact hw.head?_ne (d := '.') rfl (by rw [hd]; rfl)
          simp [hd, Except.map]
      | cons d s =>
        by_cases hd : d = '.'
        · subst hd
          rfl
        · simp [hd, Except.map]
    · rw [if_neg hdot, if_neg hdot]
      cases hm : markOf? c with
      | some m => rfl
      | none =>
        simp only
        rw [operator?_append c s hw]
        cases ho : operator? c s with
        | some found => rfl
        | none =>
          simp only [Option.map_none]
          rw [startsWithDigit_append s hw]
          split
          · rw [numberRest_append s hw]
            cases ofNumber (numberRest s).1.1 (c :: (numberRest s).1.2) <;> rfl
          · split
            · rw [wordRest_append s hw]
              rfl
            · rfl

theorem tokens_nil : tokens [] = .ok [] := by
  rw [tokens]

theorem tokens_cons_of_blank {c : Char} (h : isBlank c = true) (s : List Char) :
    tokens (c :: s) = tokens s := by
  rw [tokens, if_pos h]

theorem tokens_cons {c : Char} {s : List Char} (h : isBlank c = false) :
    tokens (c :: s) = next c s >>= fun found =>
      (tokens found.2).map fun more => found.1 :: more := by
  rw [tokens, if_neg (by simp [h])]
  split
  · rename_i heq
    rw [heq]
    rfl
  · rename_i token rest heq
    rw [heq]
    cases hr : tokens rest with
    | error fault => simp [bind, Except.bind, hr, Except.map]
    | ok more => simp [bind, Except.bind, hr, Except.map]

theorem tokens_of_blank {w : List Char} (h : ∀ c ∈ w, isBlank c = true) : tokens w = .ok [] := by
  induction w with
  | nil => exact tokens_nil
  | cons c w ih =>
    rw [tokens_cons_of_blank (h c (List.mem_cons_self ..))]
    exact ih fun d hd => h d (List.mem_cons_of_mem _ hd)

theorem Apart.of_blank {w : List Char} (h : ∀ c ∈ w, isBlank c = true) : Apart w := by
  intro c hc
  exact h c (List.mem_of_mem_head? hc)

theorem tokens_append_of_blank (s : List Char) {w : List Char} (h : ∀ c ∈ w, isBlank c = true) :
    tokens (s ++ w) = tokens s := by
  have read : ∀ {c : Char} {s : List Char}, isBlank c = false →
      next c (s ++ w) = (next c s).map fun found => (found.1, found.2 ++ w) := by
    intro c s hc
    refine next_append (Apart.of_blank h) fun _ => Or.inr ?_
    intro hm
    rw [h c hm] at hc
    cases hc
  induction s using tokens.induct with
  | case1 =>
    rw [List.nil_append, tokens_of_blank h, tokens_nil]
  | case2 c s hc ih =>
    rw [List.cons_append, tokens_cons_of_blank hc, tokens_cons_of_blank hc, ih]
  | case3 c s hc fault hn =>
    have hc : isBlank c = false := by simpa using hc
    rw [List.cons_append, tokens_cons hc, tokens_cons hc, read hc, hn]
    rfl
  | case4 c s hc token rest hn fault hr ih =>
    have hc : isBlank c = false := by simpa using hc
    rw [List.cons_append, tokens_cons hc, tokens_cons hc, read hc, hn]
    simp only [Except.map, bind, Except.bind, ih]
  | case5 c s hc token rest hn more hr ih =>
    have hc : isBlank c = false := by simpa using hc
    rw [List.cons_append, tokens_cons hc, tokens_cons hc, read hc, hn]
    simp only [Except.map, bind, Except.bind, ih]

theorem tokens_of_blank_append {w : List Char} (h : ∀ c ∈ w, isBlank c = true) (s : List Char) :
    tokens (w ++ s) = tokens s := by
  induction w with
  | nil => rfl
  | cons c w ih =>
    rw [List.cons_append, tokens_cons_of_blank (h c (List.mem_cons_self ..))]
    exact ih fun d hd => h d (List.mem_cons_of_mem _ hd)

@[simp] theorem tokens_trim (s : List Char) : tokens (trim s) = tokens s := by
  rcases eq_append_trim s with ⟨before, after, hb, ha, hs⟩
  have := tokens_append_of_blank (before ++ trim s) ha
  rw [← hs, tokens_of_blank_append hb] at this
  exact this.symm

end Token

@[simp] theorem Output.parse_trim (s : List Char) : Output.parse (trim s) = Output.parse s := by
  rw [parse, parse, Token.tokens_trim]

@[simp] theorem Expr.parseCondition_trim (s : List Char) :
    Expr.parseCondition (trim s) = Expr.parseCondition s := by
  rw [parseCondition, parseCondition, Token.tokens_trim]

@[simp] theorem Output.parseAssignment_trim (s : List Char) :
    Output.parseAssignment (trim s) = Output.parseAssignment s := by
  rw [parseAssignment, parseAssignment, Token.tokens_trim]

@[simp] theorem LoopSpec.parse_trim (s : List Char) : LoopSpec.parse (trim s) = LoopSpec.parse s := by
  rw [parse, parse, Token.tokens_trim]

@[simp] theorem FileRef.parse_trim (s : List Char) : FileRef.parse (trim s) = FileRef.parse s := by
  rw [parse, parse, trim_trim]

end TemplateSite
