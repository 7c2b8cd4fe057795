import TemplateSite.Proofs.Expression.Grammar

/-!
# The tokens that expressions are read from

A reader takes tokens off the front, and what it answers with is written in just these tokens: none
is passed over and none is read twice. Named arguments are read to the last token, so their tokens
are all there are.
-/
namespace TemplateSite

/-- A token that is a literal, and its value. -/
inductive Token.Denotes : Token → Value → Prop where
  | text (s : String) : Denotes (.text s) (.text s)
  | int (n : Int64) : Denotes (.int n) (.int n)
  | float (x : Float) : Denotes (.float x) (.float x)
  | word {name : String} {v : Value} (literal : Reading.literalWord? name = some v) :
    Denotes (.word name) v

inductive Token.Compares : Token → Comparison → Prop where
  | operator (op : Comparison) : Compares (.comparison op) op
  | contains : Compares (.word "contains") .contains

mutual

/-- The tokens that an expression is written in. How comparisons and connectives group is not told
by the tokens; that is left to the grammar. -/
inductive Expr.Written : Expr → List Token → Prop where
  | literal {t : Token} {v : Value} (denotes : t.Denotes v) : Expr.Written (.literal v) [t]
  | path {root : String} {segments : List Segment} {ts : List Token}
    (free : root ∉ literalWords) (steps : Segment.Written segments ts) :
    Expr.Written (.path root segments) (.word root :: ts)
  | range {first last : Expr} {ts us : List Token} (left : Expr.Written first ts)
    (right : Expr.Written last us) : Expr.Written (.range first last)
      (.mark .openParen :: (ts ++ .mark .dots :: (us ++ [.mark .closeParen])))
  | compare {op : Comparison} {t : Token} {left right : Expr} {ts us : List Token}
    (compares : t.Compares op) (first : Expr.Written left ts) (second : Expr.Written right us) :
    Expr.Written (.compare op left right) (ts ++ t :: us)
  | and {left right : Expr} {ts us : List Token} (first : Expr.Written left ts)
    (second : Expr.Written right us) : Expr.Written (.and left right) (ts ++ .word "and" :: us)
  | or {left right : Expr} {ts us : List Token} (first : Expr.Written left ts)
    (second : Expr.Written right us) : Expr.Written (.or left right) (ts ++ .word "or" :: us)

inductive Segment.Written : List Segment → List Token → Prop where
  | nil : Segment.Written [] []
  | key {segments : List Segment} {ts : List Token} (name : String)
    (more : Segment.Written segments ts) :
    Segment.Written (.key name :: segments) (.mark .dot :: .word name :: ts)
  | index {e : Expr} {segments : List Segment} {ts us : List Token} (inside : Expr.Written e ts)
    (more : Segment.Written segments us) : Segment.Written (.index e :: segments)
      (.mark .openBracket :: (ts ++ .mark .closeBracket :: us))

end

/-- The tokens that named arguments are written in: for each of them, in order, at most one comma,
its name, a colon and its expression. -/
inductive ArgumentsWritten : List Argument → List Token → Prop where
  | nil : ArgumentsWritten [] []
  | cons {comma : List Token} {key : String} {e : Expr} {args : List Argument} {ts us : List Token}
    (optional : comma = [] ∨ comma = [.mark .comma]) (value : e.Written ts)
    (more : ArgumentsWritten args us) : ArgumentsWritten ((key, e) :: args)
      (comma ++ .word key :: .mark .colon :: (ts ++ us))

namespace Reading

/-- A reader takes the tokens off the front that its answer is written in. -/
def Consumes {α : Type} (Written : α → List Token → Prop)
    (read : List Token → Except SyntaxFault (α × List Token)) : Prop :=
  ∀ {s a rest}, read s = .ok (a, rest) → ∃ ts, s = ts ++ rest ∧ Written a ts

theorem token_eq_ok {wanted : Token} {s rest : List Token} (h : token wanted s = .ok rest) :
    s = wanted :: rest := by
  cases s with
  | nil => cases h
  | cons t s =>
    rw [token] at h
    split at h
    · rename_i same
      cases h
      rw [same]
    · cases h

theorem word_eq_ok {s rest : List Token} {name : String} (h : word s = .ok (name, rest)) :
    s = .word name :: rest := by
  rw [word.eq_def] at h
  split at h
  · cases h
    rfl
  · cases h

theorem eq_append_skip (m : Mark) (s : List Token) :
    ∃ front, (front = [] ∨ front = [.mark m]) ∧ s = front ++ skip m s := by
  rw [skip.eq_def]
  split
  · split
    · rename_i same
      rw [same]
      exact ⟨_, Or.inr rfl, rfl⟩
    · exact ⟨[], Or.inl rfl, rfl⟩
  · exact ⟨[], Or.inl rfl, rfl⟩

theorem comparison?_eq_some {s rest : List Token} {op : Comparison}
    (h : comparison? s = some (op, rest)) : ∃ t : Token, t.Compares op ∧ s = t :: rest := by
  rw [comparison?.eq_def] at h
  split at h
  · cases h
    exact ⟨_, .operator _, rfl⟩
  · cases h
    exact ⟨_, .contains, rfl⟩
  · cases h

theorem consumes_comparisonOf {operand : List Token → Except SyntaxFault (Expr × List Token)}
    (ho : Consumes Expr.Written operand) : Consumes Expr.Written (comparisonOf operand) := by
  intro s e rest h
  rcases bind_eq_ok_iff.mp h with ⟨⟨left, after⟩, hl, h⟩
  rcases ho hl with ⟨ts, hs, first⟩
  simp only at h
  split at h
  · cases h
    exact ⟨ts, hs, first⟩
  · rename_i op more hc
    rcases bind_eq_ok_iff.mp h with ⟨⟨right, last⟩, hr, h⟩
    cases h
    rcases comparison?_eq_some hc with ⟨t, compares, rfl⟩
    rcases ho hr with ⟨us, rfl, second⟩
    exact ⟨_, by simp [hs], .compare compares first second⟩

/-- What the readers take that call each other, within a bound. -/
structure ConsumesWithin (n : Nat) : Prop where
  logical : Consumes Expr.Written (logicalWithin n)
  operand : Consumes Expr.Written (operandWithin n)
  segments : Consumes Segment.Written (segmentsWithin n)

theorem consumes_logicalWithin {n : Nat} (h : ConsumesWithin n) :
    Consumes Expr.Written (logicalWithin (n + 1)) := by
  intro s e rest he
  rw [logicalWithin] at he
  rcases bind_eq_ok_iff.mp he with ⟨⟨left, after⟩, hl, he⟩
  rcases consumes_comparisonOf h.operand hl with ⟨ts, hs, first⟩
  simp only at he
  split at he
  · rcases bind_eq_ok_iff.mp he with ⟨⟨right, last⟩, hr, he⟩
    cases he
    rcases h.logical hr with ⟨us, rfl, second⟩
    exact ⟨_, by simp [hs], .and first second⟩
  · rcases bind_eq_ok_iff.mp he with ⟨⟨right, last⟩, hr, he⟩
    cases he
    rcases h.logical hr with ⟨us, rfl, second⟩
    exact ⟨_, by simp [hs], .or first second⟩
  · cases he
    exact ⟨ts, hs, first⟩

theorem consumes_operandWithin {n : Nat} (h : ConsumesWithin n) :
    Consumes Expr.Written (operandWithin (n + 1)) := by
  intro s e rest he
  rw [operandWithin.eq_def] at he
  simp only at he
  split at he
  · cases he
    exact ⟨_, rfl, .literal (.text _)⟩
  · cases he
    exact ⟨_, rfl, .literal (.int _)⟩
  · cases he
    exact ⟨_, rfl, .literal (.float _)⟩
  · rcases bind_eq_ok_iff.mp he with ⟨⟨first, s₁⟩, hf, he⟩
    rcases bind_eq_ok_iff.mp he with ⟨s₂, hd, he⟩
    rcases bind_eq_ok_iff.mp he with ⟨⟨last, s₃⟩, hl, he⟩
    rcases bind_eq_ok_iff.mp he with ⟨s₄, hp, he⟩
    cases he
    rcases h.operand hf with ⟨ts, rfl, left⟩
    cases token_eq_ok hd
    rcases h.operand hl with ⟨us, rfl, right⟩
    cases token_eq_ok hp
    exact ⟨_, by simp, .range left right⟩
  · rename_i name after
    split at he
    · rename_i v hv
      cases he
      exact ⟨_, rfl, .literal (.word hv)⟩
    · rename_i hv
      rcases bind_eq_ok_iff.mp he with ⟨⟨segments, s₁⟩, hp, he⟩
      cases he
      rcases h.segments hp with ⟨ts, rfl, steps⟩
      exact ⟨_, rfl, .path (literalWord?_eq_none hv) steps⟩
  · cases he

theorem consumes_segmentsWithin {n : Nat} (h : ConsumesWithin n) :
    Consumes Segment.Written (segmentsWithin (n + 1)) := by
  intro s segments rest he
  rw [segmentsWithin.eq_def] at he
  simp only at he
  split at he
  · rcases bind_eq_ok_iff.mp he with ⟨⟨name, s₁⟩, hn, he⟩
    rcases bind_eq_ok_iff.mp he with ⟨⟨more, s₂⟩, hm, he⟩
    cases he
    cases word_eq_ok hn
    rcases h.segments hm with ⟨ts, rfl, steps⟩
    exact ⟨_, rfl, .key name steps⟩
  · rcases bind_eq_ok_iff.mp he with ⟨⟨e, s₁⟩, hi, he⟩
    rcases bind_eq_ok_iff.mp he with ⟨s₂, hb, he⟩
    rcases bind_eq_ok_iff.mp he with ⟨⟨more, s₃⟩, hm, he⟩
    cases he
    rcases h.logical hi with ⟨ts, rfl, inside⟩
    cases token_eq_ok hb
    rcases h.segments hm with ⟨us, rfl, steps⟩
    exact ⟨_, by simp, .index inside steps⟩
  · cases he
    exact ⟨[], rfl, .nil⟩

theorem consumesWithin (n : Nat) : ConsumesWithin n := by
  induction n with
  | zero =>
    refine ⟨?_, ?_, ?_⟩
    · intro s e rest h
      cases h
    · intro s e rest h
      cases h
    · intro s segments rest h
      cases h
      exact ⟨[], rfl, .nil⟩
  | succ n ih =>
    exact ⟨consumes_logicalWithin ih, consumes_operandWithin ih, consumes_segmentsWithin ih⟩

theorem consumes_logical : Consumes Expr.Written logical :=
  fun h => (consumesWithin _).logical h

/-- As many rounds as there are tokens are enough for all arguments, since each takes a token. -/
theorem arguments_written {n : Nat} {args : List Argument} {s : List Token} (hn : s.length ≤ n)
    (h : arguments n s = .ok args) : ArgumentsWritten args s := by
  induction n generalizing args s with
  | zero =>
    cases List.eq_nil_of_length_eq_zero (Nat.le_zero.mp hn)
    cases h
    exact .nil
  | succ n ih =>
    cases s with
    | nil =>
      cases h
      exact .nil
    | cons t s =>
      rw [arguments.eq_def] at h
      rcases bind_eq_ok_iff.mp h with ⟨⟨key, s₁⟩, hk, h⟩
      rcases bind_eq_ok_iff.mp h with ⟨s₂, hc, h⟩
      rcases bind_eq_ok_iff.mp h with ⟨⟨e, s₃⟩, he, h⟩
      rcases bind_eq_ok_iff.mp h with ⟨more, hm, h⟩
      cases h
      rcases eq_append_skip .comma (t :: s) with ⟨comma, optional, front⟩
      cases token_eq_ok hc
      rcases consumes_logical he with ⟨ts, rfl, value⟩
      rw [word_eq_ok hk] at front
      rw [front]
      refine .cons optional value (ih ?_ hm)
      have shorter := congrArg List.length front
      simp only [List.length_append, List.length_cons] at shorter hn
      omega

end Reading

end TemplateSite
