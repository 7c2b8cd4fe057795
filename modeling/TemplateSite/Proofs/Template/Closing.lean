import TemplateSite.Proofs.Expression.Spacing
import TemplateSite.Template.Pieces

/-!
# Texts that do not end a tag

The search for a closing delimiter passes over every text that has tokens, quoted delimiters
included, and over the reference at the front of an include.
-/
namespace TemplateSite
open Text

/-- The search for the closing delimiter that starts with `d` passes over the text. -/
def Passes (d : Char) (s : List Char) : Prop :=
  ∀ r, splitAtClosing d none (s ++ r) =
    (splitAtClosing d none r).map fun found => (s ++ found.1, found.2)

/-- A character that neither opens a literal nor starts the closing delimiter. -/
def Bland (d c : Char) : Prop :=
  Reference.isQuote c = false ∧ c ≠ d

theorem Bland.not_quote {d c : Char} (h : Bland d c) : ¬ (c = '\x27' ∨ c = '\x22') := by
  have := h.1
  simpa [Reference.isQuote] using this

namespace Passes

variable {d : Char} {s t : List Char}

theorem nil : Passes d [] := by
  intro r
  cases h : splitAtClosing d none r <;> simp [h]

theorem append (hs : Passes d s) (ht : Passes d t) : Passes d (s ++ t) := by
  intro r
  rw [List.append_assoc, hs, ht, Option.map_map]
  congr 1
  funext found
  simp

theorem of_bland (h : ∀ c ∈ s, Bland d c) : Passes d s := by
  induction s with
  | nil => exact nil
  | cons c s ih =>
    have hc := h c (List.mem_cons_self ..)
    have hs := ih fun e he => h e (List.mem_cons_of_mem _ he)
    intro r
    rw [List.cons_append, splitAtClosing, if_neg hc.not_quote, if_neg (fun hd => hc.2 hd.1), hs,
      Option.map_map]
    rfl

theorem inside (q : Char) {inside : List Char} (hi : q ∉ inside) (r : List Char) :
    splitAtClosing d (some q) (inside ++ q :: r) =
      (splitAtClosing d none r).map fun found => (inside ++ q :: found.1, found.2) := by
  induction inside with
  | nil =>
    rw [List.nil_append, splitAtClosing, if_pos rfl]
    rfl
  | cons c inside ih =>
    have hc : c ≠ q := fun hc => hi (by simp [hc])
    have hi : q ∉ inside := fun hq => hi (List.mem_cons_of_mem _ hq)
    rw [List.cons_append, splitAtClosing, if_neg hc, ih hi, Option.map_map]
    rfl

theorem quoted {q : Char} {inside : List Char} (hq : Reference.isQuote q = true)
    (hi : q ∉ inside) : Passes d (q :: inside ++ [q]) := by
  intro r
  have hq : q = '\x27' ∨ q = '\x22' := by simpa [Reference.isQuote] using hq
  rw [List.cons_append, List.cons_append, List.append_assoc, splitAtClosing, if_pos hq,
    List.singleton_append, Passes.inside q hi, Option.map_map]
  congr 1
  funext found
  simp

/-- A text without quotation marks and without the closing delimiter, before a character that does
not complete one. -/
theorem bare {e : Char} (hq : ∀ c ∈ s, Reference.isQuote c = false)
    (hc : ¬ [d, '\x7d'] <:+: s) (he : t.head? = some e) (hb : e ≠ '\x7d') (ht : Passes d t) :
    Passes d (s ++ t) := by
  induction s with
  | nil => exact ht
  | cons c s ih =>
    have hs := ih (fun a ha => hq a (List.mem_cons_of_mem _ ha))
      (fun hi => hc (List.infix_cons_iff.mpr (Or.inr hi)))
    intro r
    have open_mark : ¬ (c = '\x27' ∨ c = '\x22') := by
      simpa [Reference.isQuote] using hq c (List.mem_cons_self ..)
    have closes : ¬ (c = d ∧ (s ++ t ++ r).head? = some '\x7d') := by
      rintro ⟨rfl, hr⟩
      cases s with
      | nil =>
        cases t with
        | nil => cases he
        | cons a t =>
          cases he
          cases hr
          exact hb rfl
      | cons a s =>
        cases hr
        exact hc (List.infix_cons_iff.mpr (Or.inl ⟨s, rfl⟩))
    rw [List.cons_append, List.cons_append, splitAtClosing, if_neg open_mark, if_neg closes, hs,
      Option.map_map]
    rfl

end Passes

/-- The characters that start the closing delimiters. -/
def Closes (d : Char) : Prop :=
  d = '\x7d' ∨ d = '%'

theorem Closes.bland {d : Char} (hd : Closes d) {p : Char → Bool}
    (each : ['\x27', '\x22', '\x7d', '%'].all fun c => !p c) {c : Char} (h : p c = true) :
    Bland d c := by
  simp at each
  refine ⟨?_, ?_⟩
  · rw [Reference.isQuote, Bool.or_eq_false_iff, beq_eq_false_iff_ne, beq_eq_false_iff_ne]
    refine ⟨?_, ?_⟩
    · rintro rfl
      simp [each] at h
    · rintro rfl
      simp [each] at h
  · rintro rfl
    rcases hd with rfl | rfl <;> simp [each] at h

namespace Token

/-- A token is taken off the front, and what is taken does not end a tag. -/
def Takes (d : Char) (s rest : List Char) : Prop :=
  ∃ taken, s = taken ++ rest ∧ Passes d taken

theorem Takes.of_bland {d : Char} (taken rest : List Char) (h : ∀ c ∈ taken, Bland d c) :
    Takes d (taken ++ rest) rest :=
  ⟨taken, rfl, .of_bland h⟩

theorem Takes.cons {d c : Char} {s rest : List Char} (hc : Bland d c) (h : Takes d s rest) :
    Takes d (c :: s) rest := by
  rcases h with ⟨taken, rfl, hp⟩
  exact ⟨c :: taken, rfl, .append (s := [c]) (.of_bland (by simpa using hc)) hp⟩

theorem Takes.nil (d : Char) (s : List Char) : Takes d s s :=
  ⟨[], rfl, .nil⟩

theorem takes_takeWhile {d : Char} {p : Char → Bool} (s : List Char)
    (h : ∀ {c}, p c = true → Bland d c) : Takes d s (s.dropWhile p) := by
  refine ⟨s.takeWhile p, List.takeWhile_append_dropWhile.symm, .of_bland ?_⟩
  intro c hc
  exact h (List.mem_takeWhile_imp hc)

theorem Takes.trans {d : Char} {s t rest : List Char} (hs : Takes d s t) (ht : Takes d t rest) :
    Takes d s rest := by
  rcases hs with ⟨first, rfl, hf⟩
  rcases ht with ⟨second, rfl, hs⟩
  exact ⟨first ++ second, by rw [List.append_assoc], hf.append hs⟩

variable {d : Char}

theorem takes_of_textRest {q : Char} {s rest : List Char} {token : Token}
    (hq : Reference.isQuote q = true) (h : textRest q s = .ok (token, rest)) :
    Takes d (q :: s) rest := by
  by_cases hs : q ∈ s
  · rcases List.eq_append_cons_of_mem hs with ⟨inside, after, rfl, hi⟩
    rw [textRest_closed hi] at h
    cases h
    exact ⟨q :: inside ++ [q], by simp, .quoted hq hi⟩
  · rw [textRest_of_not_mem hs] at h
    cases h

theorem takes_of_numberRest (hd : Closes d) (s : List Char) : Takes d s (numberRest s).2 := by
  have digit : ∀ {c}, isDigit c = true → Bland d c := hd.bland (p := isDigit) (by decide)
  have hs := takes_takeWhile s digit
  rw [numberRest.eq_def]
  simp only
  split
  · rename_i rest hr
    rw [hr] at hs
    split
    · exact (hs.trans (.cons (hd.bland (p := (· == '.')) (by decide) rfl)
        (takes_takeWhile rest digit)))
    · exact hs
  · exact hs

theorem takes_of_wordRest (hd : Closes d) (s : List Char) : Takes d s (wordRest s).2 := by
  have hs := takes_takeWhile s (hd.bland (p := continuesWord) (by decide +kernel))
  rw [wordRest.eq_def]
  split
  · rename_i rest hr
    rw [hr] at hs
    exact hs.trans (.cons (hd.bland (p := (· == '?')) (by decide) rfl) (.nil d rest))
  · exact hs

theorem takes_of_operator? (hd : Closes d) {c : Char} {s rest : List Char} {token : Token}
    (h : operator? c s = some (token, rest)) : Takes d (c :: s) rest := by
  have bland : ∀ {c}, (c == '=' || c == '!' || c == '<' || c == '>') = true → Bland d c :=
    hd.bland (p := fun c => c == '=' || c == '!' || c == '<' || c == '>') (by decide)
  rw [operator?.eq_def] at h
  split at h
  · cases h
    exact .cons (bland rfl) (.cons (bland rfl) (.nil d _))
  · cases h
    exact .cons (bland rfl) (.cons (bland rfl) (.nil d _))
  · cases h
    exact .cons (bland rfl) (.cons (bland rfl) (.nil d _))
  · cases h
    exact .cons (bland rfl) (.cons (bland rfl) (.nil d _))
  · cases h
    exact .cons (bland rfl) (.cons (bland rfl) (.nil d _))
  · cases h
    exact .cons (bland rfl) (.nil d _)
  · cases h
    exact .cons (bland rfl) (.nil d _)
  · cases h
    exact .cons (bland rfl) (.nil d _)
  · cases h

theorem takes_of_next (hd : Closes d) {c : Char} {s rest : List Char} {token : Token}
    (h : next c s = .ok (token, rest)) : Takes d (c :: s) rest := by
  rw [next.eq_def] at h
  split at h
  · rename_i hq
    exact takes_of_textRest hq h
  · split at h
    · rename_i hdot
      subst hdot
      have dot : Bland d '.' := hd.bland (p := (· == '.')) (by decide) rfl
      split at h
      · cases h
        exact .cons dot (.cons dot (.nil d _))
      · cases h
        exact .cons dot (.nil d _)
    · split at h
      · rename_i m hm
        cases h
        exact .cons (hd.bland (p := fun c => (markOf? c).isSome) (by decide) (by simp [hm]))
          (.nil d _)
      · split at h
        · rename_i found ho
          cases h
          exact takes_of_operator? hd ho
        · split at h
          · rename_i hn
            rcases map_eq_ok_iff.mp h with ⟨found, -, ht⟩
            cases ht
            refine .cons ?_ (takes_of_numberRest hd s)
            refine hd.bland (p := fun c => isDigit c || c == '-') (by decide) ?_
            simp only [Bool.or_eq_true, Bool.and_eq_true, decide_eq_true_eq, beq_iff_eq] at hn ⊢
            exact hn.imp_right And.left
          · split at h
            · rename_i hw
              cases h
              exact .cons (hd.bland (p := startsWord) (by decide +kernel) hw)
                (takes_of_wordRest hd s)
            · cases h

/-- A text that has tokens does not end a tag. -/
theorem passes_of_tokens (hd : Closes d) {s : List Char} {ts : List Token}
    (h : tokens s = .ok ts) : Passes d s := by
  induction s using tokens.induct generalizing ts with
  | case1 => exact .nil
  | case2 c s hc ih =>
    rw [tokens_cons_of_blank hc] at h
    have blank := hd.bland (p := isBlank) (by decide) hc
    exact .append (s := [c]) (.of_bland (by simpa using blank)) (ih h)
  | case3 c s hc fault hn =>
    rw [tokens_cons (by simpa using hc), hn] at h
    cases h
  | case4 c s hc token rest hn fault hr ih =>
    rw [tokens_cons (by simpa using hc), hn] at h
    rcases map_eq_ok_iff.mp h with ⟨more, hm, -⟩
    rw [hr] at hm
    cases hm
  | case5 c s hc token rest hn more hr ih =>
    rcases takes_of_next hd hn with ⟨taken, ht, hp⟩
    rw [ht]
    exact hp.append (ih hr)

end Token
end TemplateSite
