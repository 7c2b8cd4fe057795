import TemplateSite.Proofs.Expression.Spelling

/-!
# Reading undoes writing

Every expression of the grammar without doubles can be written as tokens, and each way to spell its
tokens is read as that expression, alone or before filters. The bound of the readers that call each
other is twice the number of tokens.
-/
namespace TemplateSite

def Comparison.token : Comparison → Token
  | .contains => .word "contains"
  | op => .comparison op

namespace Grammar

mutual

inductive OperandTokens : Expr → List Token → Prop where
  | text (s : String) : OperandTokens (.literal (.text s)) [.text s]
  | int (n : Int64) : OperandTokens (.literal (.int n)) [.int n]
  | bool (b : Bool) : OperandTokens (.literal (.bool b)) [.word (Value.truthText b)]
  | nil {name : String} (word : name ∈ ["nil", "null"]) :
    OperandTokens (.literal .nil) [.word name]
  | range {first last : Expr} {ts us : List Token} (left : OperandTokens first ts)
    (right : OperandTokens last us) : OperandTokens (.range first last)
      (.mark .openParen :: (ts ++ .mark .dots :: (us ++ [.mark .closeParen])))
  | path {root : String} {segments : List Segment} {ts : List Token}
    (free : root ∉ literalWords) (steps : StepsTokens segments ts) :
    OperandTokens (.path root segments) (.word root :: ts)

inductive StepsTokens : List Segment → List Token → Prop where
  | nil : StepsTokens [] []
  | key {segments : List Segment} {ts : List Token} (name : String)
    (more : StepsTokens segments ts) :
    StepsTokens (.key name :: segments) (.mark .dot :: .word name :: ts)
  | index {e : Expr} {segments : List Segment} {ts us : List Token} (inside : LogicalTokens e ts)
    (more : StepsTokens segments us) : StepsTokens (.index e :: segments)
      (.mark .openBracket :: (ts ++ .mark .closeBracket :: us))

inductive ComparedTokens : Expr → List Token → Prop where
  | one {e : Expr} {ts : List Token} (operand : OperandTokens e ts) : ComparedTokens e ts
  | two {left right : Expr} {ts us : List Token} (op : Comparison)
    (first : OperandTokens left ts) (second : OperandTokens right us) :
    ComparedTokens (.compare op left right) (ts ++ op.token :: us)

inductive LogicalTokens : Expr → List Token → Prop where
  | one {e : Expr} {ts : List Token} (compared : ComparedTokens e ts) : LogicalTokens e ts
  | and {left right : Expr} {ts us : List Token} (first : ComparedTokens left ts)
    (rest : LogicalTokens right us) : LogicalTokens (.and left right) (ts ++ .word "and" :: us)
  | or {left right : Expr} {ts us : List Token} (first : ComparedTokens left ts)
    (rest : LogicalTokens right us) : LogicalTokens (.or left right) (ts ++ .word "or" :: us)

end

inductive ArgsTokens : List Expr → List Token → Prop where
  | last {e : Expr} {ts : List Token} (arg : OperandTokens e ts) : ArgsTokens [e] ts
  | more {e : Expr} {es : List Expr} {ts us : List Token} (arg : OperandTokens e ts)
    (rest : ArgsTokens es us) : ArgsTokens (e :: es) (ts ++ .mark .comma :: us)

inductive FiltersTokens : List FilterCall → List Token → Prop where
  | nil : FiltersTokens [] []
  | bare {calls : List FilterCall} {ts : List Token} (name : String)
    (more : FiltersTokens calls ts) :
    FiltersTokens (⟨name, []⟩ :: calls) (.mark .pipe :: .word name :: ts)
  | applied {args : List Expr} {calls : List FilterCall} {ts us : List Token} (name : String)
    (operands : ArgsTokens args ts) (more : FiltersTokens calls us) :
    FiltersTokens (⟨name, args⟩ :: calls)
      (.mark .pipe :: .word name :: .mark .colon :: (ts ++ us))

/-- A text that spells an expression: its tokens in order, with blanks between them. -/
def Spells (e : Expr) (s : List Char) : Prop :=
  ∃ ts, LogicalTokens e ts ∧ Token.Spaced ts s

def SpellsFiltered (o : Output) (s : List Char) : Prop :=
  ∃ ts us, LogicalTokens o.expr ts ∧ FiltersTokens o.filters us ∧ Token.Spaced (ts ++ us) s

end Grammar

/-- The values of literals that can be spelled: of the two quotation marks a text lacks one, and
doubles are left out. -/
def Value.IsSpellable : Value → Prop
  | .nil | .bool _ | .int _ => True
  | .text s => '\x27' ∉ s.toList ∨ '\x22' ∉ s.toList
  | .float _ | .list _ | .object _ => False

open Grammar

namespace Reading

/-- Tokens that do not continue a variable path. -/
def EndsPath (s : List Token) : Prop :=
  ∀ t ∈ s.head?, t ≠ .mark .dot ∧ t ≠ .mark .openBracket

structure EndsCompared (s : List Token) : Prop where
  path : EndsPath s
  apart : comparison? s = none

structure EndsLogical (s : List Token) : Prop where
  compared : EndsCompared s
  noAnd : s.head? ≠ some (.word "and")
  noOr : s.head? ≠ some (.word "or")

theorem endsPath_cons {t : Token} (dot : t ≠ .mark .dot) (bracket : t ≠ .mark .openBracket)
    (s : List Token) : EndsPath (t :: s) := by
  intro u hu
  cases hu
  exact ⟨dot, bracket⟩

theorem endsLogical_nil : EndsLogical [] :=
  ⟨⟨by simp [EndsPath], rfl⟩, by simp, by simp⟩

/-- A mark other than those in a variable path ends an expression. -/
theorem endsLogical_mark {m : Mark} (dot : m ≠ .dot) (bracket : m ≠ .openBracket)
    (s : List Token) : EndsLogical (.mark m :: s) :=
  ⟨⟨endsPath_cons (by simpa using dot) (by simpa using bracket) s, rfl⟩, by simp, by simp⟩

theorem endsPath_token (op : Comparison) (s : List Token) : EndsPath (op.token :: s) :=
  endsPath_cons (by cases op <;> simp [Comparison.token])
    (by cases op <;> simp [Comparison.token]) s

/-- A word that joins a comparison with an expression, and what it makes of the two. -/
inductive Joins : String → (Expr → Expr → Expr) → Prop where
  | and : Joins "and" .and
  | or : Joins "or" .or

theorem Joins.endsCompared {word : String} {join : Expr → Expr → Expr} (h : Joins word join)
    (s : List Token) : EndsCompared (.word word :: s) := by
  refine ⟨endsPath_cons (by simp) (by simp) s, ?_⟩
  cases h <;> rfl

theorem comparison?_token (op : Comparison) (s : List Token) :
    comparison? (op.token :: s) = some (op, s) := by
  cases op <;> rfl

theorem token_cons (t : Token) (s : List Token) : token t (t :: s) = .ok s := by
  rw [token, if_pos rfl]

theorem segmentsWithin_of_ends {s : List Token} (h : EndsPath s) (n : Nat) :
    segmentsWithin n s = .ok ([], s) := by
  cases n with
  | zero => rfl
  | succ n =>
    rw [segmentsWithin.eq_def]
    simp only
    split
    · exact absurd rfl (h _ rfl).1
    · exact absurd rfl (h _ rfl).2
    · rfl

theorem literalWord?_of_free {name : String} (h : name ∉ literalWords) :
    literalWord? name = none := by
  rw [literalWord?.eq_def]
  split
  all_goals first | rfl | exact absurd (by decide) h

/-- Reading an operand back takes its tokens and leaves those after it. -/
def OperandBack (e : Expr) (ts : List Token) : Prop :=
  ∀ n rest, 2 * ts.length ≤ n + 1 → EndsPath rest → operandWithin n (ts ++ rest) = .ok (e, rest)

def StepsBack (segments : List Segment) (ts : List Token) : Prop :=
  ∀ n rest, 2 * ts.length ≤ n → EndsPath rest →
    segmentsWithin n (ts ++ rest) = .ok (segments, rest)

def ComparedBack (e : Expr) (ts : List Token) : Prop :=
  ∀ n rest, 2 * ts.length ≤ n + 1 → EndsCompared rest →
    comparisonOf (operandWithin n) (ts ++ rest) = .ok (e, rest)

def LogicalBack (e : Expr) (ts : List Token) : Prop :=
  ∀ n rest, 2 * ts.length ≤ n → EndsLogical rest →
    logicalWithin n (ts ++ rest) = .ok (e, rest)

theorem operandBack_single {e : Expr} {t : Token}
    (h : ∀ n rest, operandWithin (n + 1) (t :: rest) = .ok (e, rest)) : OperandBack e [t] := by
  intro n rest hn _
  cases n with
  | zero => simp at hn
  | succ n => exact h n rest

theorem operandBack_range {first last : Expr} {ts us : List Token} (hf : OperandBack first ts)
    (hl : OperandBack last us) : OperandBack (.range first last)
      (.mark .openParen :: (ts ++ .mark .dots :: (us ++ [.mark .closeParen]))) := by
  intro n rest hn _
  simp only [List.length_cons, List.length_append, List.length_nil] at hn
  cases n with
  | zero => omega
  | succ n =>
    have dots : EndsPath (.mark .dots :: (us ++ [.mark .closeParen] ++ rest)) :=
      (endsLogical_mark (by decide) (by decide) _).compared.path
    have close : EndsPath (.mark .closeParen :: rest) :=
      (endsLogical_mark (by decide) (by decide) _).compared.path
    have h₁ := hf n (.mark .dots :: (us ++ [.mark .closeParen] ++ rest)) (by omega) dots
    have h₂ := hl n (.mark .closeParen :: rest) (by omega) close
    simp only [List.cons_append, List.append_assoc, List.nil_append] at h₁ h₂ ⊢
    simp only [operandWithin, h₁, h₂, bind, Except.bind, token_cons]
    rfl

theorem operandBack_path {root : String} {segments : List Segment} {ts : List Token}
    (free : root ∉ literalWords) (hs : StepsBack segments ts) :
    OperandBack (.path root segments) (.word root :: ts) := by
  intro n rest hn hr
  simp only [List.length_cons] at hn
  cases n with
  | zero => omega
  | succ n =>
    have h := hs n rest (by omega) hr
    simp only [List.cons_append, operandWithin, literalWord?_of_free free, h, bind, Except.bind]
    rfl

theorem stepsBack_nil : StepsBack [] [] :=
  fun n _ _ hr => segmentsWithin_of_ends hr n

theorem stepsBack_key {segments : List Segment} {ts : List Token} (name : String)
    (hs : StepsBack segments ts) :
    StepsBack (.key name :: segments) (.mark .dot :: .word name :: ts) := by
  intro n rest hn hr
  simp only [List.length_cons] at hn
  cases n with
  | zero => omega
  | succ n =>
    have h := hs n rest (by omega) hr
    simp only [List.cons_append, segmentsWithin, word, h, bind, Except.bind]
    rfl

theorem stepsBack_index {e : Expr} {segments : List Segment} {ts us : List Token}
    (he : LogicalBack e ts) (hs : StepsBack segments us) : StepsBack (.index e :: segments)
      (.mark .openBracket :: (ts ++ .mark .closeBracket :: us)) := by
  intro n rest hn hr
  simp only [List.length_cons, List.length_append] at hn
  cases n with
  | zero => omega
  | succ n =>
    have h₁ := he n (.mark .closeBracket :: (us ++ rest)) (by omega)
      (endsLogical_mark (by decide) (by decide) _)
    have h₂ := hs n rest (by omega) hr
    simp only [List.cons_append, List.append_assoc, segmentsWithin, h₁, h₂, bind, Except.bind,
      token_cons]
    rfl

theorem comparedBack_one {e : Expr} {ts : List Token} (he : OperandBack e ts) :
    ComparedBack e ts := by
  intro n rest hn hr
  simp only [comparisonOf, he n rest hn hr.path, bind, Except.bind, hr.apart]
  rfl

theorem comparedBack_two {left right : Expr} {ts us : List Token} (op : Comparison)
    (hl : OperandBack left ts) (hr : OperandBack right us) :
    ComparedBack (.compare op left right) (ts ++ op.token :: us) := by
  intro n rest hn ends
  simp only [List.length_cons, List.length_append] at hn
  have h₁ := hl n (op.token :: (us ++ rest)) (by omega) (endsPath_token op _)
  have h₂ := hr n rest (by omega) ends.path
  simp only [comparisonOf, List.append_assoc, List.cons_append, h₁, h₂, bind, Except.bind,
    comparison?_token]
  rfl

theorem logicalBack_one {e : Expr} {ts : List Token} (hts : ts ≠ []) (he : ComparedBack e ts) :
    LogicalBack e ts := by
  intro n rest hn hr
  have length := List.length_pos_iff.mpr hts
  cases n with
  | zero => omega
  | succ n =>
    have h := he n rest (by omega) hr.compared
    simp only [logicalWithin, h, bind, Except.bind]
    split
    · exact absurd rfl hr.noAnd
    · exact absurd rfl hr.noOr
    · rfl

theorem logicalBack_joined {word : String} {join : Expr → Expr → Expr} {left right : Expr}
    {ts us : List Token} (h : Joins word join) (hl : ComparedBack left ts)
    (hr : LogicalBack right us) : LogicalBack (join left right) (ts ++ .word word :: us) := by
  intro n rest hn ends
  simp only [List.length_cons, List.length_append] at hn
  cases n with
  | zero => omega
  | succ n =>
    have h₁ := hl n (.word word :: (us ++ rest)) (by omega) (h.endsCompared _)
    have h₂ := hr n rest (by omega) ends
    simp only [List.append_assoc, List.cons_append, logicalWithin, h₁, bind, Except.bind]
    cases h with
    | and =>
      simp only [h₂]
      rfl
    | or =>
      simp only [h₂]
      rfl

end Reading

open Reading

namespace Grammar

theorem OperandTokens.nonempty {e : Expr} {ts : List Token} (h : OperandTokens e ts) :
    ts ≠ [] := by
  cases h <;> simp

theorem ComparedTokens.nonempty {e : Expr} {ts : List Token} (h : ComparedTokens e ts) :
    ts ≠ [] := by
  cases h with
  | one operand => exact operand.nonempty
  | two => simp

theorem LogicalTokens.nonempty {e : Expr} {ts : List Token} (h : LogicalTokens e ts) :
    ts ≠ [] := by
  cases h with
  | one compared => exact compared.nonempty
  | _ => simp

mutual

theorem OperandTokens.back {e : Expr} {ts : List Token} : OperandTokens e ts → OperandBack e ts
  | .text s => operandBack_single fun _ _ => by rw [operandWithin]
  | .int n => operandBack_single fun _ _ => by rw [operandWithin]
  | .bool b => operandBack_single fun _ _ => by cases b <;> rfl
  | .nil word => operandBack_single fun _ _ => by
      simp only [List.mem_cons, List.not_mem_nil, or_false] at word
      rcases word with rfl | rfl <;> rfl
  | .range left right => operandBack_range left.back right.back
  | .path free steps => operandBack_path free steps.back

theorem StepsTokens.back {segments : List Segment} {ts : List Token} :
    StepsTokens segments ts → StepsBack segments ts
  | .nil => stepsBack_nil
  | .key name more => stepsBack_key name more.back
  | .index inside more => stepsBack_index inside.back more.back

theorem ComparedTokens.back {e : Expr} {ts : List Token} :
    ComparedTokens e ts → ComparedBack e ts
  | .one operand => comparedBack_one operand.back
  | .two op first second => comparedBack_two op first.back second.back

theorem LogicalTokens.back {e : Expr} {ts : List Token} : LogicalTokens e ts → LogicalBack e ts
  | .one compared => logicalBack_one compared.nonempty compared.back
  | .and first rest => logicalBack_joined .and first.back rest.back
  | .or first rest => logicalBack_joined .or first.back rest.back

end

end Grammar

theorem Reading.operand_back {e : Expr} {ts rest : List Token} (h : OperandTokens e ts)
    (hr : EndsPath rest) : operand (ts ++ rest) = .ok (e, rest) := by
  refine h.back _ rest ?_ hr
  rw [depthBound, List.length_append]
  omega

theorem Reading.logical_back {e : Expr} {ts rest : List Token} (h : LogicalTokens e ts)
    (hr : EndsLogical rest) : logical (ts ++ rest) = .ok (e, rest) := by
  refine h.back _ rest ?_ hr
  rw [depthBound, List.length_append]
  omega

namespace Grammar

theorem FiltersTokens.ends {calls : List FilterCall} {ts : List Token}
    (h : FiltersTokens calls ts) : EndsLogical ts ∧ ∀ t ∈ ts.head?, t = .mark .pipe := by
  cases h with
  | nil => exact ⟨endsLogical_nil, by simp⟩
  | _ =>
    refine ⟨endsLogical_mark (by decide) (by decide) _, ?_⟩
    intro t ht
    cases ht
    rfl

theorem ArgsTokens.back {args : List Expr} {ts rest : List Token} (h : ArgsTokens args ts)
    {n : Nat} (hn : ts.length ≤ n) (hr : EndsPath rest)
    (comma : rest.head? ≠ some (.mark .comma)) :
    filterArgs (n + 1) (ts ++ rest) = .ok (args, rest) := by
  induction h generalizing n with
  | @last e ts arg =>
    simp only [filterArgs, Reading.operand_back arg hr, bind, Except.bind]
    split
    · exact absurd rfl comma
    · rfl
  | @more e es ts us arg others ih =>
    simp only [List.length_append, List.length_cons] at hn
    have ends : EndsPath (.mark .comma :: (us ++ rest)) :=
      (endsLogical_mark (by decide) (by decide) _).compared.path
    have h₁ := Reading.operand_back arg ends
    cases n with
    | zero => omega
    | succ n =>
      have h₂ := ih (n := n) (by omega)
      simp only [List.append_assoc, List.cons_append]
      rw [filterArgs, h₁]
      simp only [bind, Except.bind, h₂]
      rfl

theorem FiltersTokens.back {calls : List FilterCall} {ts : List Token} (h : FiltersTokens calls ts)
    {n : Nat} (hn : ts.length ≤ n) : filters n ts = .ok (calls, []) := by
  induction h generalizing n with
  | nil => cases n <;> rfl
  | @bare calls ts name more ih =>
    simp only [List.length_cons] at hn
    cases n with
    | zero => omega
    | succ n =>
      simp only [filters, word, bind, Except.bind]
      split
      · have := more.ends.2 _ rfl
        simp at this
      · rw [ih (n := n) (by omega)]
        rfl
  | @applied args calls ts us name operands more ih =>
    simp only [List.length_cons, List.length_append] at hn
    cases n with
    | zero => omega
    | succ n =>
      have comma : us.head? ≠ some (.mark .comma) := by
        intro hc
        have := more.ends.2 _ hc
        simp at this
      have h₁ := operands.back (n := (ts ++ us).length) (by simp) more.ends.1.compared.path comma
      have h₂ := ih (n := n) (by omega)
      simp only [filters, word, bind, Except.bind, h₁, h₂]
      rfl

theorem Spells.parseCondition {e : Expr} {s : List Char} (h : Spells e s) :
    Expr.parseCondition s = .ok e := by
  rcases h with ⟨ts, hts, hs⟩
  have read := Reading.logical_back hts endsLogical_nil
  rw [List.append_nil] at read
  rw [Expr.parseCondition, Token.tokens_spaced hs]
  rcases List.exists_cons_of_ne_nil hts.nonempty with ⟨t, ts, rfl⟩
  simp only [bind, Except.bind, read, whole]
  rfl

theorem SpellsFiltered.parse {o : Output} {s : List Char} (h : SpellsFiltered o s) :
    Output.parse s = .ok o := by
  rcases h with ⟨ts, us, hts, hus, hs⟩
  have read := Reading.logical_back hts hus.ends.1
  rw [Output.parse, Token.tokens_spaced hs]
  simp only [bind, Except.bind, output, read, hus.back (Nat.le_refl _), whole]
  rfl

end Grammar
end TemplateSite
