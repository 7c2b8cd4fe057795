import TemplateSite.Proofs.Expression.RoundTrip

/-!
# The reader of expressions is exact

Whatever is read has the form of the grammar, and every expression of the grammar without doubles
can be spelled and is what each of its spellings is read as.
-/
namespace TemplateSite
open Text Grammar

namespace Token

def Spellable (ts : List Token) : Prop :=
  ∀ t ∈ ts, ∃ s, t.Spelled s

theorem spellable_nil : Spellable [] := by
  intro t h
  cases h

theorem spellable_cons {t : Token} {ts : List Token} :
    Spellable (t :: ts) ↔ (∃ s, t.Spelled s) ∧ Spellable ts :=
  List.forall_mem_cons

theorem spellable_append {ts us : List Token} :
    Spellable (ts ++ us) ↔ Spellable ts ∧ Spellable us :=
  List.forall_mem_append

theorem spellable_mark (m : Mark) : ∃ s, (mark m).Spelled s :=
  ⟨_, .mark m⟩

theorem spellable_word {name : String} (h : Identifier name.toList) :
    ∃ s, (word name).Spelled s :=
  ⟨_, .word h⟩

theorem identifier_of_letters {c : Char} {s : List Char} (first : startsWord c = true)
    (rest : s.all continuesWord = true) : Identifier (c :: s) :=
  .plain first (List.all_eq_true.mp rest)

theorem spellable_comparison (op : Comparison) : ∃ s, op.token.Spelled s := by
  cases op with
  | eq => exact ⟨_, .comparison .eq⟩
  | ne => exact ⟨_, .comparison .ne⟩
  | lt => exact ⟨_, .comparison .lt⟩
  | gt => exact ⟨_, .comparison .gt⟩
  | le => exact ⟨_, .comparison .le⟩
  | ge => exact ⟨_, .comparison .ge⟩
  | contains =>
    exact spellable_word (identifier_of_letters (by decide +kernel) (by decide +kernel))

theorem spellable_int (n : Int64) : ∃ s, (int n).Spelled s := by
  by_cases hn : 0 ≤ n.toInt
  · rcases exists_digits n.toInt.toNat with ⟨digits, nonempty, each, value⟩
    exact ⟨digits, .int nonempty each (by omega)⟩
  · rcases exists_digits (-n.toInt).toNat with ⟨digits, nonempty, each, value⟩
    exact ⟨'-' :: digits, .negative nonempty each (by omega)⟩

theorem spellable_text {s : String} (h : '\x27' ∉ s.toList ∨ '\x22' ∉ s.toList) :
    ∃ w, (text s).Spelled w := by
  rw [← String.ofList_toList (s := s)]
  rcases h with h | h
  · exact ⟨_, .text rfl h⟩
  · exact ⟨_, .text rfl h⟩

theorem Spaced.blank_cons {ts : List Token} {s : List Char} {c : Char} (h : Spaced ts s)
    (hc : isBlank c = true) : Spaced ts (c :: s) := by
  cases h with
  | nil blank => exact .nil (List.forall_mem_cons.mpr ⟨hc, blank⟩)
  | cons blank spelled apart more =>
    exact .cons (List.forall_mem_cons.mpr ⟨hc, blank⟩) spelled apart more

theorem Spaced.before {t : Token} {ts : List Token} {w s : List Char} (h : Spaced ts s)
    (hw : t.Spelled w) : Spaced (t :: ts) (w ++ ' ' :: s) := by
  have apart : Apart (' ' :: s) := by
    intro c hc
    cases hc
    rfl
  have blank : ∀ c ∈ [], isBlank c = true := by simp
  exact .cons blank hw apart (h.blank_cons rfl)

/-- Tokens that can be spelled can be spelled in order, a blank after each. -/
theorem exists_spaced {ts : List Token} (h : Spellable ts) : ∃ s, Spaced ts s := by
  induction ts with
  | nil => exact ⟨[], .nil (by simp)⟩
  | cons t ts ih =>
    rcases spellable_cons.mp h with ⟨⟨w, hw⟩, hts⟩
    rcases ih hts with ⟨s, hs⟩
    exact ⟨_, hs.before hw⟩

end Token

open Token

namespace Grammar

theorem spellable_connective {name : String} (h : name ∈ ["and", "or"]) :
    ∃ s, (Token.word name).Spelled s := by
  refine spellable_word ?_
  simp only [List.mem_cons, List.not_mem_nil, or_false] at h
  rcases h with rfl | rfl
  · exact identifier_of_letters (by decide +kernel) (by decide +kernel)
  · exact identifier_of_letters (by decide +kernel) (by decide +kernel)

/-- The literals that can be spelled are operands with tokens that can be spelled. -/
theorem exists_literalTokens {v : Value} (h : v.IsSpellable) :
    ∃ ts, OperandTokens (.literal v) ts ∧ Spellable ts := by
  cases v with
  | nil =>
    have word : Identifier "nil".toList :=
      identifier_of_letters (by decide +kernel) (by decide +kernel)
    exact ⟨_, .nil (by decide), spellable_cons.mpr ⟨spellable_word word, spellable_nil⟩⟩
  | bool b =>
    have word : Identifier (Value.truthText b).toList := by
      cases b
      · exact identifier_of_letters (by decide +kernel) (by decide +kernel)
      · exact identifier_of_letters (by decide +kernel) (by decide +kernel)
    exact ⟨_, .bool b, spellable_cons.mpr ⟨spellable_word word, spellable_nil⟩⟩
  | int n => exact ⟨_, .int n, spellable_cons.mpr ⟨spellable_int n, spellable_nil⟩⟩
  | text s => exact ⟨_, .text s, spellable_cons.mpr ⟨spellable_text h, spellable_nil⟩⟩
  | float x => cases h
  | list items => cases h
  | object fields => cases h

/-- The tokens of a step can be put before those of the steps after it. -/
def StepWritten (step : Segment) : Prop :=
  ∀ {segments us}, StepsTokens segments us → Spellable us →
    ∃ ts, StepsTokens (step :: segments) ts ∧ Spellable ts

theorem exists_stepsTokens {segments : List Segment} (h : ∀ step ∈ segments, StepWritten step) :
    ∃ ts, StepsTokens segments ts ∧ Spellable ts := by
  induction segments with
  | nil => exact ⟨[], .nil, spellable_nil⟩
  | cons step segments ih =>
    rcases ih fun other ho => h other (List.mem_cons_of_mem _ ho) with ⟨us, hus, spellable⟩
    exact h step (List.mem_cons_self ..) hus spellable

mutual

theorem Operand.exists_tokens {e : Expr} : Operand Value.IsSpellable e →
    ∃ ts, OperandTokens e ts ∧ Spellable ts
  | .literal valid => exists_literalTokens valid
  | .range left right => by
    rcases left.exists_tokens with ⟨ts, hts, st⟩
    rcases right.exists_tokens with ⟨us, hus, su⟩
    refine ⟨_, .range hts hus, ?_⟩
    simp [spellable_cons, spellable_append, spellable_mark, st, su, spellable_nil]
  | .path valid free steps => by
    rcases exists_stepsTokens fun step hs => (steps step hs).written with ⟨ts, hts, spellable⟩
    exact ⟨_, .path free hts, spellable_cons.mpr ⟨spellable_word valid, spellable⟩⟩

theorem Step.written {step : Segment} : Step Value.IsSpellable step → StepWritten step
  | .key valid => fun more spellable =>
    ⟨_, .key _ more, spellable_cons.mpr ⟨spellable_mark _,
      spellable_cons.mpr ⟨spellable_word valid, spellable⟩⟩⟩
  | .index inside => fun more spellable => by
    rcases inside.exists_tokens with ⟨ts, hts, st⟩
    refine ⟨_, .index hts more, ?_⟩
    simp [spellable_cons, spellable_append, spellable_mark, st, spellable]

theorem Compared.exists_tokens {e : Expr} : Compared Value.IsSpellable e →
    ∃ ts, ComparedTokens e ts ∧ Spellable ts
  | .one operand => by
    rcases operand.exists_tokens with ⟨ts, hts, st⟩
    exact ⟨ts, .one hts, st⟩
  | .two op first second => by
    rcases first.exists_tokens with ⟨ts, hts, st⟩
    rcases second.exists_tokens with ⟨us, hus, su⟩
    exact ⟨_, .two op hts hus,
      spellable_append.mpr ⟨st, spellable_cons.mpr ⟨spellable_comparison op, su⟩⟩⟩

theorem Logical.exists_tokens {e : Expr} : Logical Value.IsSpellable e →
    ∃ ts, LogicalTokens e ts ∧ Spellable ts
  | .one compared => by
    rcases compared.exists_tokens with ⟨ts, hts, st⟩
    exact ⟨ts, .one hts, st⟩
  | .and first rest => by
    rcases first.exists_tokens with ⟨ts, hts, st⟩
    rcases rest.exists_tokens with ⟨us, hus, su⟩
    exact ⟨_, .and hts hus,
      spellable_append.mpr ⟨st, spellable_cons.mpr ⟨spellable_connective (by decide), su⟩⟩⟩
  | .or first rest => by
    rcases first.exists_tokens with ⟨ts, hts, st⟩
    rcases rest.exists_tokens with ⟨us, hus, su⟩
    exact ⟨_, .or hts hus,
      spellable_append.mpr ⟨st, spellable_cons.mpr ⟨spellable_connective (by decide), su⟩⟩⟩

end

theorem exists_argsTokens {args : List Expr} (nonempty : args ≠ [])
    (h : ∀ arg ∈ args, Operand Value.IsSpellable arg) :
    ∃ ts, ArgsTokens args ts ∧ Spellable ts := by
  induction args with
  | nil => exact absurd rfl nonempty
  | cons arg args ih =>
    rcases (h arg (List.mem_cons_self ..)).exists_tokens with ⟨ts, hts, st⟩
    cases args with
    | nil => exact ⟨ts, .last hts, st⟩
    | cons other args =>
      rcases ih (by simp) fun a ha => h a (List.mem_cons_of_mem _ ha) with ⟨us, hus, su⟩
      exact ⟨_, .more hts hus,
        spellable_append.mpr ⟨st, spellable_cons.mpr ⟨spellable_mark _, su⟩⟩⟩

theorem exists_filtersTokens {calls : List FilterCall}
    (names : ∀ call ∈ calls, Identifier call.name.toList)
    (args : ∀ call ∈ calls, ∀ arg ∈ call.args, Operand Value.IsSpellable arg) :
    ∃ ts, FiltersTokens calls ts ∧ Spellable ts := by
  induction calls with
  | nil => exact ⟨[], .nil, spellable_nil⟩
  | cons call calls ih =>
    rcases call with ⟨name, operands⟩
    have word := spellable_word (names _ (List.mem_cons_self ..))
    rcases ih (fun c hc => names c (List.mem_cons_of_mem _ hc))
      (fun c hc => args c (List.mem_cons_of_mem _ hc)) with ⟨us, hus, su⟩
    by_cases ho : operands = []
    · subst ho
      exact ⟨_, .bare name hus, spellable_cons.mpr ⟨spellable_mark _,
        spellable_cons.mpr ⟨word, su⟩⟩⟩
    · rcases exists_argsTokens ho (args _ (List.mem_cons_self ..)) with ⟨ts, hts, st⟩
      exact ⟨_, .applied name hts hus, spellable_cons.mpr ⟨spellable_mark _,
        spellable_cons.mpr ⟨word, spellable_cons.mpr ⟨spellable_mark _,
          spellable_append.mpr ⟨st, su⟩⟩⟩⟩⟩

theorem Logical.exists_spelling {e : Expr} (h : Logical Value.IsSpellable e) :
    ∃ s, Spells e s := by
  rcases h.exists_tokens with ⟨ts, hts, spellable⟩
  rcases exists_spaced spellable with ⟨s, hs⟩
  exact ⟨s, ts, hts, hs⟩

theorem Filtered.exists_spelling {o : Output} (h : Filtered Value.IsSpellable o) :
    ∃ s, SpellsFiltered o s := by
  rcases h.expr.exists_tokens with ⟨ts, hts, st⟩
  rcases exists_filtersTokens h.names h.args with ⟨us, hus, su⟩
  rcases exists_spaced (spellable_append.mpr ⟨st, su⟩) with ⟨s, hs⟩
  exact ⟨s, ts, us, hts, hus, hs⟩

end Grammar

/-- What is read from conditions, outputs, assignments, heads of loops and file references is of the
grammar; and every expression of the grammar that has no double and no text with both quotation
marks, alone or before filters, can be spelled, and each of its spellings is read as it. -/
theorem expressions_exact :
    (∀ s e, Expr.parseCondition s = .ok e → Logical Value.IsLiteral e) ∧
    (∀ s o, Output.parse s = .ok o → Filtered Value.IsLiteral o) ∧
    (∀ s name o, Output.parseAssignment s = .ok (name, o) →
      Identifier name.toList ∧ Filtered Value.IsLiteral o) ∧
    (∀ s spec, LoopSpec.parse s = .ok spec → Head Value.IsLiteral spec) ∧
    (∀ s ref, FileRef.parse s = .ok ref →
      ∀ arg ∈ ref.args, Identifier arg.1.toList ∧ Logical Value.IsLiteral arg.2) ∧
    (∀ e, Logical Value.IsSpellable e →
      (∃ s, Spells e s) ∧ ∀ s, Spells e s → Expr.parseCondition s = .ok e) ∧
    (∀ o, Filtered Value.IsSpellable o →
      (∃ s, SpellsFiltered o s) ∧ ∀ s, SpellsFiltered o s → Output.parse s = .ok o) := by
  refine ⟨?_, ?_, ?_, ?_, ?_, ?_, ?_⟩
  · intro s e h
    exact Expr.parseCondition_logical h
  · intro s o h
    exact Output.parse_filtered h
  · intro s name o h
    exact Output.parseAssignment_filtered h
  · intro s spec h
    exact LoopSpec.parse_head h
  · intro s ref h
    exact FileRef.parse_arguments h
  · intro e h
    exact ⟨h.exists_spelling, fun s hs => hs.parseCondition⟩
  · intro o h
    exact ⟨h.exists_spelling, fun s hs => hs.parse⟩

/-- Connectives and comparisons are words, which variables may have for names too. -/
theorem expressions_exact_of_keywords :
    let e : Expr := .and
      (.compare .contains (.path "contains" [.index (.literal (.int (-5)))])
        (.literal (.text "it's")))
      (.path "or" [])
    let s := "contains [ -05 ] contains \"it's\" and or ".toList
    Logical Value.IsSpellable e ∧ Spells e s ∧ Expr.parseCondition s = .ok e := by
  intro e s
  have contains : Identifier "contains".toList :=
    identifier_of_letters (by decide +kernel) (by decide +kernel)
  have conjunction : Identifier "and".toList :=
    identifier_of_letters (by decide +kernel) (by decide +kernel)
  have name : Identifier "or".toList :=
    identifier_of_letters (by decide +kernel) (by decide +kernel)
  have text : Value.IsSpellable (.text "it's") := Or.inr (by decide)
  have index : ∀ step ∈ [Segment.index (.literal (.int (-5)))],
      Step Value.IsSpellable step := by
    intro step h
    rw [List.mem_singleton.mp h]
    exact .index (.one (.one (.literal trivial)))
  have form : Logical Value.IsSpellable e :=
    .and (.two .contains (.path contains (by decide) index) (.literal text))
      (.one (.one (.path name (by decide) (by simp))))
  have tokens : LogicalTokens e _ :=
    .and (.two .contains (.path (by decide) (.index (.one (.one (.int (-5)))) .nil))
      (.text "it's")) (.one (.one (.path (by decide) .nil)))
  have quoted : (Token.text "it's").Spelled ('\x22' :: ("it's".toList ++ ['\x22'])) :=
    .text rfl (by decide)
  have five : (Token.int (-5)).Spelled ('-' :: ['0', '5']) :=
    .negative (by simp) (List.all_eq_true.mp (by decide)) (by decide)
  have nothing : Spaced [] [] := .nil (by simp)
  have spaced := nothing.before (.word name) |>.before (.word conjunction) |>.before quoted
    |>.before (.word contains) |>.before (.mark .closeBracket) |>.before five
    |>.before (.mark .openBracket) |>.before (.word contains)
  have respell : ∀ {ts : List Token} {w : List Char}, Spaced ts w → w = s → Spaced ts s := by
    intro ts w h hs
    rwa [← hs]
  have spelled : Spells e s := ⟨_, tokens, respell spaced (by decide +kernel)⟩
  exact ⟨form, spelled, (expressions_exact.2.2.2.2.2.1 e form).2 s spelled⟩

end TemplateSite
