import TemplateSite.Proofs.Expression.Spacing

/-!
# The grammar of expressions

An operand is a literal, a range of two operands, or a variable path; a comparison takes one or two
operands; the connectives take a comparison on their left. All that is read from the text of a tag
has this form.
-/
namespace TemplateSite
open Text

/-- An identifier: a letter or an underscore, then letters, numbers, underscores and dashes, and at
most one question mark, at the end. -/
inductive Identifier : List Char → Prop where
  | plain {c : Char} {s : List Char} (first : Token.startsWord c = true)
    (rest : ∀ d ∈ s, Token.continuesWord d = true) : Identifier (c :: s)
  | asking {c : Char} {s : List Char} (first : Token.startsWord c = true)
    (rest : ∀ d ∈ s, Token.continuesWord d = true) : Identifier (c :: (s ++ ['?']))

/-- The words that stand for a value. A variable path starts with none of them. -/
def literalWords : List String :=
  ["true", "false", "nil", "null"]

def Value.IsLiteral : Value → Prop
  | .nil | .bool _ | .int _ | .float _ | .text _ => True
  | .list _ | .object _ => False

namespace Grammar

mutual

/-- An operand whose literals have the given property. -/
inductive Operand (Literal : Value → Prop) : Expr → Prop where
  | literal {v : Value} (valid : Literal v) : Operand Literal (.literal v)
  | range {first last : Expr} (left : Operand Literal first) (right : Operand Literal last) :
    Operand Literal (.range first last)
  | path {root : String} {segments : List Segment} (word : Identifier root.toList)
    (free : root ∉ literalWords) (steps : ∀ step ∈ segments, Step Literal step) :
    Operand Literal (.path root segments)

inductive Step (Literal : Value → Prop) : Segment → Prop where
  | key {name : String} (word : Identifier name.toList) : Step Literal (.key name)
  | index {e : Expr} (inside : Logical Literal e) : Step Literal (.index e)

/-- One operand, or two with a comparison between them. -/
inductive Compared (Literal : Value → Prop) : Expr → Prop where
  | one {e : Expr} (operand : Operand Literal e) : Compared Literal e
  | two {left right : Expr} (op : Comparison) (first : Operand Literal left)
    (second : Operand Literal right) : Compared Literal (.compare op left right)

/-- Comparisons joined by connectives, which group to the right. -/
inductive Logical (Literal : Value → Prop) : Expr → Prop where
  | one {e : Expr} (compared : Compared Literal e) : Logical Literal e
  | and {left right : Expr} (first : Compared Literal left) (rest : Logical Literal right) :
    Logical Literal (.and left right)
  | or {left right : Expr} (first : Compared Literal left) (rest : Logical Literal right) :
    Logical Literal (.or left right)

end

/-- An expression with its filters, whose arguments are operands. -/
structure Filtered (Literal : Value → Prop) (o : Output) : Prop where
  expr : Logical Literal o.expr
  names : ∀ call ∈ o.filters, Identifier call.name.toList
  args : ∀ call ∈ o.filters, ∀ arg ∈ call.args, Operand Literal arg

/-- The head of a loop, whose collection and bounds are operands. -/
structure Head (Literal : Value → Prop) (spec : LoopSpec) : Prop where
  item : Identifier spec.item.toList
  collection : Operand Literal spec.collection
  limit : ∀ e ∈ spec.limit, Operand Literal e
  offset : ∀ e ∈ spec.offset, Operand Literal e

theorem Head.replace {Literal : Value → Prop} {spec : LoopSpec} (h : Head Literal spec)
    {limit offset : Option Expr} (hl : ∀ e ∈ limit, Operand Literal e)
    (ho : ∀ e ∈ offset, Operand Literal e) (reversed : Bool) :
    Head Literal ⟨spec.item, spec.collection, limit, offset, reversed⟩ :=
  ⟨h.item, h.collection, hl, ho⟩

end Grammar

namespace Token

theorem wordRest_identifier {c : Char} {s : List Char} (h : startsWord c = true) :
    Identifier (c :: (wordRest s).1) := by
  have rest : ∀ d ∈ s.takeWhile continuesWord, continuesWord d = true :=
    fun d hd => List.mem_takeWhile_imp hd
  rw [wordRest.eq_def]
  split
  · exact .asking h rest
  · exact .plain h rest

theorem operator?_ne_word {c : Char} {s rest : List Char} {name : String} :
    operator? c s ≠ some (.word name, rest) := by
  rw [operator?.eq_def]
  split <;> simp

theorem ofNumber_ne_word {isFloat : Bool} {s : List Char} {name : String} :
    ofNumber isFloat s ≠ .ok (.word name) := by
  rw [ofNumber]
  cases isFloat with
  | false => cases Decimal.readInteger? s <;> simp
  | true => cases Decimal.readFloat? s <;> simp

theorem identifier_of_next {c : Char} {s rest : List Char} {name : String}
    (h : next c s = .ok (.word name, rest)) : Identifier name.toList := by
  rw [next.eq_def] at h
  split at h
  · rw [textRest] at h
    split at h <;> simp at h
  · split at h
    · split at h <;> simp at h
    · split at h
      · simp at h
      · split at h
        · rename_i found ho
          cases h
          exact (operator?_ne_word ho).elim
        · split at h
          · rcases map_eq_ok_iff.mp h with ⟨token, hn, ht⟩
            cases ht
            exact (ofNumber_ne_word hn).elim
          · split at h
            · rename_i hw
              cases h
              rw [String.toList_ofList]
              exact wordRest_identifier hw
            · simp at h

def Words (ts : List Token) : Prop :=
  ∀ name, .word name ∈ ts → Identifier name.toList

theorem words_nil : Words [] := by
  intro name h
  cases h

theorem Words.tail {t : Token} {ts : List Token} (h : Words (t :: ts)) : Words ts :=
  fun name hn => h name (List.mem_cons_of_mem _ hn)

theorem words_of_tokens {s : List Char} {ts : List Token} (h : tokens s = .ok ts) : Words ts := by
  induction s using tokens.induct generalizing ts with
  | case1 =>
    rw [tokens_nil] at h
    cases h
    exact words_nil
  | case2 c s hc ih =>
    rw [tokens_cons_of_blank hc] at h
    exact ih h
  | case3 c s hc fault hn =>
    rw [tokens_cons (by simpa using hc), hn] at h
    cases h
  | case4 c s hc token rest hn fault hr ih =>
    rw [tokens_cons (by simpa using hc), hn] at h
    rcases map_eq_ok_iff.mp h with ⟨more, hm, -⟩
    rw [hr] at hm
    cases hm
  | case5 c s hc token rest hn more hr ih =>
    rw [tokens_cons (by simpa using hc), hn] at h
    rcases map_eq_ok_iff.mp h with ⟨found, hm, rfl⟩
    intro name ht
    rcases List.mem_cons.mp ht with rfl | ht
    · exact identifier_of_next hn
    · exact ih hm name ht

end Token

open Grammar Token

namespace Reading

/-- A reader answers only with what has the property, if the words it reads are identifiers. -/
def Answers {α : Type} (P : α → Prop)
    (read : List Token → Except SyntaxFault (α × List Token)) : Prop :=
  ∀ {s a rest}, Words s → read s = .ok (a, rest) → P a ∧ Words rest

theorem token_words {wanted : Token} {s rest : List Token} (hs : Words s)
    (h : token wanted s = .ok rest) : Words rest := by
  cases s with
  | nil => cases h
  | cons t s =>
    rw [token] at h
    split at h
    · cases h
      exact hs.tail
    · cases h

theorem answers_word : Answers (fun name => Identifier name.toList) word := by
  intro s name rest hs h
  rw [word.eq_def] at h
  split at h
  · cases h
    exact ⟨hs name (List.mem_cons_self ..), hs.tail⟩
  · cases h

theorem comparison?_words {s rest : List Token} {op : Comparison} (hs : Words s)
    (h : comparison? s = some (op, rest)) : Words rest := by
  rw [comparison?.eq_def] at h
  split at h
  · cases h
    exact hs.tail
  · cases h
    exact hs.tail
  · cases h

theorem skip_words {m : Mark} {s : List Token} (hs : Words s) : Words (skip m s) := by
  rw [skip.eq_def]
  split
  · split
    · exact hs.tail
    · exact hs
  · exact hs

theorem literalWord?_eq_none {name : String} (h : literalWord? name = none) :
    name ∉ literalWords := by
  intro hm
  simp only [literalWords, List.mem_cons, List.not_mem_nil, or_false] at hm
  rcases hm with rfl | rfl | rfl | rfl <;> cases h

theorem literalWord?_isLiteral {name : String} {v : Value} (h : literalWord? name = some v) :
    v.IsLiteral := by
  rw [literalWord?.eq_def] at h
  split at h <;> cases h <;> trivial

theorem answers_comparisonOf {operand : List Token → Except SyntaxFault (Expr × List Token)}
    (ho : Answers (Operand Value.IsLiteral) operand) :
    Answers (Compared Value.IsLiteral) (comparisonOf operand) := by
  intro s e rest hs h
  rcases bind_eq_ok_iff.mp h with ⟨⟨left, after⟩, hl, h⟩
  rcases ho hs hl with ⟨first, ha⟩
  simp only at h
  split at h
  · cases h
    exact ⟨.one first, ha⟩
  · rename_i op more hc
    rcases bind_eq_ok_iff.mp h with ⟨⟨right, last⟩, hr, h⟩
    cases h
    rcases ho (comparison?_words ha hc) hr with ⟨second, hw⟩
    exact ⟨.two op first second, hw⟩

/-- What the readers answer that call each other, within a bound. -/
structure AnswersWithin (n : Nat) : Prop where
  logical : Answers (Logical Value.IsLiteral) (logicalWithin n)
  operand : Answers (Operand Value.IsLiteral) (operandWithin n)
  segments : Answers (∀ step ∈ ·, Step Value.IsLiteral step) (segmentsWithin n)

theorem answers_logicalWithin {n : Nat} (h : AnswersWithin n) :
    Answers (Logical Value.IsLiteral) (logicalWithin (n + 1)) := by
  intro s e rest hs he
  rw [logicalWithin] at he
  rcases bind_eq_ok_iff.mp he with ⟨⟨left, after⟩, hl, he⟩
  rcases answers_comparisonOf h.operand hs hl with ⟨first, ha⟩
  simp only at he
  split at he
  · rcases bind_eq_ok_iff.mp he with ⟨⟨right, last⟩, hr, he⟩
    cases he
    rcases h.logical ha.tail hr with ⟨second, hw⟩
    exact ⟨.and first second, hw⟩
  · rcases bind_eq_ok_iff.mp he with ⟨⟨right, last⟩, hr, he⟩
    cases he
    rcases h.logical ha.tail hr with ⟨second, hw⟩
    exact ⟨.or first second, hw⟩
  · cases he
    exact ⟨.one first, ha⟩

theorem answers_operandWithin {n : Nat} (h : AnswersWithin n) :
    Answers (Operand Value.IsLiteral) (operandWithin (n + 1)) := by
  intro s e rest hs he
  rw [operandWithin.eq_def] at he
  simp only at he
  split at he
  · cases he
    exact ⟨.literal trivial, hs.tail⟩
  · cases he
    exact ⟨.literal trivial, hs.tail⟩
  · cases he
    exact ⟨.literal trivial, hs.tail⟩
  · rcases bind_eq_ok_iff.mp he with ⟨⟨first, s₁⟩, hf, he⟩
    rcases bind_eq_ok_iff.mp he with ⟨s₂, hd, he⟩
    rcases bind_eq_ok_iff.mp he with ⟨⟨last, s₃⟩, hl, he⟩
    rcases bind_eq_ok_iff.mp he with ⟨s₄, hp, he⟩
    cases he
    rcases h.operand hs.tail hf with ⟨left, h₁⟩
    rcases h.operand (token_words h₁ hd) hl with ⟨right, h₃⟩
    exact ⟨.range left right, token_words h₃ hp⟩
  · rename_i name after
    split at he
    · rename_i v hv
      cases he
      exact ⟨.literal (literalWord?_isLiteral hv), hs.tail⟩
    · rename_i hv
      rcases bind_eq_ok_iff.mp he with ⟨⟨segments, s₁⟩, hp, he⟩
      cases he
      rcases h.segments hs.tail hp with ⟨steps, h₁⟩
      exact ⟨.path (hs name (List.mem_cons_self ..)) (literalWord?_eq_none hv) steps, h₁⟩
  · cases he

theorem answers_segmentsWithin {n : Nat} (h : AnswersWithin n) :
    Answers (∀ step ∈ ·, Step Value.IsLiteral step) (segmentsWithin (n + 1)) := by
  intro s segments rest hs he
  rw [segmentsWithin.eq_def] at he
  simp only at he
  split at he
  · rcases bind_eq_ok_iff.mp he with ⟨⟨name, s₁⟩, hn, he⟩
    rcases bind_eq_ok_iff.mp he with ⟨⟨more, s₂⟩, hm, he⟩
    cases he
    rcases answers_word hs.tail hn with ⟨word, h₁⟩
    rcases h.segments h₁ hm with ⟨steps, h₂⟩
    exact ⟨List.forall_mem_cons.mpr ⟨.key word, steps⟩, h₂⟩
  · rcases bind_eq_ok_iff.mp he with ⟨⟨e, s₁⟩, hi, he⟩
    rcases bind_eq_ok_iff.mp he with ⟨s₂, hb, he⟩
    rcases bind_eq_ok_iff.mp he with ⟨⟨more, s₃⟩, hm, he⟩
    cases he
    rcases h.logical hs.tail hi with ⟨inside, h₁⟩
    rcases h.segments (token_words h₁ hb) hm with ⟨steps, h₃⟩
    exact ⟨List.forall_mem_cons.mpr ⟨.index inside, steps⟩, h₃⟩
  · cases he
    exact ⟨by simp, hs⟩

theorem answersWithin (n : Nat) : AnswersWithin n := by
  induction n with
  | zero =>
    refine ⟨?_, ?_, ?_⟩
    · intro s e rest _ h
      cases h
    · intro s e rest _ h
      cases h
    · intro s segments rest hs h
      cases h
      exact ⟨by simp, hs⟩
  | succ n ih =>
    exact ⟨answers_logicalWithin ih, answers_operandWithin ih, answers_segmentsWithin ih⟩

theorem answers_logical : Answers (Logical Value.IsLiteral) logical :=
  fun hs h => (answersWithin _).logical hs h

theorem answers_operand : Answers (Operand Value.IsLiteral) operand :=
  fun hs h => (answersWithin _).operand hs h

theorem answers_filterArgs (n : Nat) :
    Answers (∀ arg ∈ ·, Operand Value.IsLiteral arg) (filterArgs n) := by
  induction n with
  | zero =>
    intro s args rest _ h
    cases h
  | succ n ih =>
    intro s args rest hs h
    rcases bind_eq_ok_iff.mp h with ⟨⟨arg, s₁⟩, ha, h⟩
    rcases answers_operand hs ha with ⟨first, h₁⟩
    simp only at h
    split at h
    · rcases bind_eq_ok_iff.mp h with ⟨⟨more, s₂⟩, hm, h⟩
      cases h
      rcases ih h₁.tail hm with ⟨others, h₂⟩
      exact ⟨List.forall_mem_cons.mpr ⟨first, others⟩, h₂⟩
    · cases h
      exact ⟨by simpa using first, h₁⟩

theorem answers_filters (n : Nat) : Answers (fun calls => ∀ call ∈ calls,
    Identifier call.name.toList ∧ ∀ arg ∈ call.args, Operand Value.IsLiteral arg) (filters n) := by
  induction n with
  | zero =>
    intro s calls rest hs h
    cases h
    exact ⟨by simp, hs⟩
  | succ n ih =>
    intro s calls rest hs h
    rw [filters.eq_def] at h
    simp only at h
    split at h
    · rcases bind_eq_ok_iff.mp h with ⟨⟨name, s₁⟩, hn, h⟩
      rcases answers_word hs.tail hn with ⟨word, h₁⟩
      simp only at h
      split at h
      · rcases bind_eq_ok_iff.mp h with ⟨⟨args, s₂⟩, ha, h⟩
        rcases bind_eq_ok_iff.mp h with ⟨⟨more, s₃⟩, hm, h⟩
        cases h
        rcases answers_filterArgs _ h₁.tail ha with ⟨operands, h₂⟩
        rcases ih h₂ hm with ⟨others, h₃⟩
        exact ⟨List.forall_mem_cons.mpr ⟨⟨word, operands⟩, others⟩, h₃⟩
      · rcases bind_eq_ok_iff.mp h with ⟨⟨more, s₂⟩, hm, h⟩
        cases h
        rcases ih h₁ hm with ⟨others, h₂⟩
        exact ⟨List.forall_mem_cons.mpr ⟨⟨word, by simp⟩, others⟩, h₂⟩
    · cases h
      exact ⟨by simp, hs⟩

theorem answers_output : Answers (Filtered Value.IsLiteral) output := by
  intro s o rest hs h
  rcases bind_eq_ok_iff.mp h with ⟨⟨expr, s₁⟩, he, h⟩
  rcases bind_eq_ok_iff.mp h with ⟨⟨calls, s₂⟩, hc, h⟩
  cases h
  rcases answers_logical hs he with ⟨whole, h₁⟩
  rcases answers_filters _ h₁ hc with ⟨each, h₂⟩
  exact ⟨⟨whole, fun call hm => (each call hm).1, fun call hm => (each call hm).2⟩, h₂⟩

theorem whole_eq_ok {α : Type} {reading : Except SyntaxFault (α × List Token)} {a : α}
    (h : whole reading = .ok a) : reading = .ok (a, []) := by
  rcases bind_eq_ok_iff.mp h with ⟨⟨found, rest⟩, hr, h⟩
  cases rest with
  | nil =>
    cases h
    exact hr
  | cons t rest => cases h

theorem loopParameters_head {n : Nat} {spec found : LoopSpec} {s : List Token}
    (hs : Words s) (hspec : Head Value.IsLiteral spec)
    (h : loopParameters n spec s = .ok found) : Head Value.IsLiteral found := by
  induction n generalizing spec s with
  | zero => cases s <;> cases h <;> exact hspec
  | succ n ih =>
    cases s with
    | nil =>
      cases h
      exact hspec
    | cons t s =>
      rw [loopParameters.eq_def] at h
      rcases bind_eq_ok_iff.mp h with ⟨⟨name, s₁⟩, hn, h⟩
      rcases answers_word (skip_words hs) hn with ⟨-, h₁⟩
      simp only at h
      split at h
      · exact ih h₁ (hspec.replace hspec.limit hspec.offset true) h
      · rcases bind_eq_ok_iff.mp h with ⟨s₂, hc, h⟩
        rcases bind_eq_ok_iff.mp h with ⟨⟨e, s₃⟩, he, h⟩
        rcases answers_operand (token_words h₁ hc) he with ⟨bound, h₃⟩
        have limit : ∀ f ∈ some e, Operand Value.IsLiteral f := by simpa using bound
        exact ih h₃ (hspec.replace limit hspec.offset spec.reversed) h
      · rcases bind_eq_ok_iff.mp h with ⟨s₂, hc, h⟩
        rcases bind_eq_ok_iff.mp h with ⟨⟨e, s₃⟩, he, h⟩
        rcases answers_operand (token_words h₁ hc) he with ⟨bound, h₃⟩
        have offset : ∀ f ∈ some e, Operand Value.IsLiteral f := by simpa using bound
        exact ih h₃ (hspec.replace hspec.limit offset spec.reversed) h
      · cases h

theorem arguments_logical {n : Nat} {args : List Argument} {s : List Token} (hs : Words s)
    (h : arguments n s = .ok args) :
    ∀ arg ∈ args, Identifier arg.1.toList ∧ Logical Value.IsLiteral arg.2 := by
  induction n generalizing args s with
  | zero => cases s <;> cases h <;> simp
  | succ n ih =>
    cases s with
    | nil =>
      cases h
      simp
    | cons t s =>
      rw [arguments.eq_def] at h
      rcases bind_eq_ok_iff.mp h with ⟨⟨key, s₁⟩, hk, h⟩
      rcases bind_eq_ok_iff.mp h with ⟨s₂, hc, h⟩
      rcases bind_eq_ok_iff.mp h with ⟨⟨e, s₃⟩, he, h⟩
      rcases bind_eq_ok_iff.mp h with ⟨more, hm, h⟩
      cases h
      rcases answers_word (skip_words hs) hk with ⟨name, h₁⟩
      rcases answers_logical (token_words h₁ hc) he with ⟨value, h₃⟩
      exact List.forall_mem_cons.mpr ⟨⟨name, value⟩, ih h₃ hm⟩

end Reading

open Reading

theorem Expr.parseCondition_logical {s : List Char} {e : Expr}
    (h : Expr.parseCondition s = .ok e) : Logical Value.IsLiteral e := by
  rcases bind_eq_ok_iff.mp h with ⟨ts, ht, h⟩
  split at h
  · cases h
  · exact (answers_logical (words_of_tokens ht) (whole_eq_ok h)).1

theorem Output.parse_filtered {s : List Char} {o : Output} (h : Output.parse s = .ok o) :
    Filtered Value.IsLiteral o := by
  rcases bind_eq_ok_iff.mp h with ⟨ts, ht, h⟩
  exact (answers_output (words_of_tokens ht) (whole_eq_ok h)).1

theorem Output.parseAssignment_filtered {s : List Char} {name : String} {o : Output}
    (h : Output.parseAssignment s = .ok (name, o)) :
    Identifier name.toList ∧ Filtered Value.IsLiteral o := by
  rcases bind_eq_ok_iff.mp h with ⟨ts, ht, h⟩
  rcases bind_eq_ok_iff.mp h with ⟨⟨target, s₁⟩, hn, h⟩
  rcases bind_eq_ok_iff.mp h with ⟨s₂, ha, h⟩
  rcases bind_eq_ok_iff.mp h with ⟨value, hv, h⟩
  cases h
  rcases answers_word (words_of_tokens ht) hn with ⟨word, h₁⟩
  exact ⟨word, (answers_output (token_words h₁ ha) (whole_eq_ok hv)).1⟩

theorem LoopSpec.parse_head {s : List Char} {spec : LoopSpec} (h : LoopSpec.parse s = .ok spec) :
    Head Value.IsLiteral spec := by
  rcases bind_eq_ok_iff.mp h with ⟨ts, ht, h⟩
  rcases bind_eq_ok_iff.mp h with ⟨⟨item, s₁⟩, hi, h⟩
  rcases answers_word (words_of_tokens ht) hi with ⟨word, h₁⟩
  simp only at h
  split at h
  · rcases bind_eq_ok_iff.mp h with ⟨⟨collection, s₂⟩, hc, h⟩
    rcases answers_operand h₁.tail hc with ⟨operand, h₂⟩
    exact loopParameters_head h₂ ⟨word, operand, by simp, by simp⟩ h
  · cases h

theorem FileRef.parse_arguments {s : List Char} {ref : FileRef} (h : FileRef.parse s = .ok ref) :
    ∀ arg ∈ ref.args, Identifier arg.1.toList ∧ Logical Value.IsLiteral arg.2 := by
  rcases bind_eq_ok_iff.mp h with ⟨⟨raw, rest⟩, -, h⟩
  rcases bind_eq_ok_iff.mp h with ⟨ts, ht, h⟩
  rcases bind_eq_ok_iff.mp h with ⟨args, ha, h⟩
  cases h
  exact arguments_logical (words_of_tokens ht) ha

end TemplateSite
