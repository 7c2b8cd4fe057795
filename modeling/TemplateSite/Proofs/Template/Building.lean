import TemplateSite.Proofs.Template.Adding

/-!
# Compiling from a state

Compiling can be taken up at any place of a source with the builder reached there: cutting one piece
and adding it leads to the same result from the rest of the source. What every addition keeps holds
of the builder at the end.
-/
namespace TemplateSite
namespace Builder

/-- Compiles the rest of a source that is on the given line. -/
def compileFrom (b : Builder) (line : Nat) (s : List Char) :
    Except (Failure CompileFault) (List Node) := do
  let b ← (b.addAll (pieces line s).1).mapError .fault
  b.stop (pieces line s).2

theorem compile_eq_compileFrom (source : String) :
    compile source = empty.compileFrom 1 source.toList := rfl

theorem addAll_cons (b : Builder) (p : Piece) (ps : List Piece) :
    b.addAll (p :: ps) = b.add p >>= fun b => b.addAll ps := rfl

theorem compileFrom_of_stop {line : Nat} {s : List Char} {stop : Stop}
    (h : cut line s = .stop stop) (b : Builder) : b.compileFrom line s = b.stop stop := by
  rw [compileFrom, pieces_of_stop h]
  rfl

theorem compileFrom_nil (b : Builder) (line : Nat) :
    b.compileFrom line [] = b.finish.mapError .fault := by
  have hc : cut line [] = .stop .finished := rfl
  exact compileFrom_of_stop hc b

theorem compileFrom_of_piece {b b' : Builder} {line line' : Nat} {s rest : List Char} {p : Piece}
    (h : cut line s = .piece p line' rest) (ha : b.add p = .ok b') :
    b.compileFrom line s = b'.compileFrom line' rest := by
  rw [compileFrom, pieces_of_piece h, addAll_cons, ha]
  rfl

/-- What holds of a builder and is kept by every addition holds after adding pieces. -/
theorem addAll_keeps {Holds : Builder → Prop}
    (keeps : ∀ {b p b'}, Holds b → Adds b p b' → Holds b') :
    ∀ {ps : List Piece} {b b' : Builder}, Holds b → b.addAll ps = .ok b' → Holds b' := by
  intro ps
  induction ps with
  | nil =>
    intro b b' hb h
    cases h
    exact hb
  | cons p ps ih =>
    intro b b' hb h
    rw [addAll_cons] at h
    rcases bind_eq_ok_iff.mp h with ⟨next, hp, h⟩
    exact ih (keeps hb (adds_of_add hp)) h

/-- A source compiles when it is cut to its end, its pieces are all accepted and no tag is left
open. -/
theorem compile_eq_ok {source : String} {nodes : List Node} (h : compile source = .ok nodes) :
    (pieces 1 source.toList).2 = .finished ∧
      ∃ b, empty.addAll (pieces 1 source.toList).1 = .ok b ∧ b.finish = .ok nodes := by
  rw [compile_eq_compileFrom] at h
  rcases bind_eq_ok_iff.mp h with ⟨b, hb, h⟩
  cases hs : (pieces 1 source.toList).2 with
  | finished =>
    rw [hs] at h
    exact ⟨rfl, b, mapError_eq_ok_iff.mp hb, mapError_eq_ok_iff.mp h⟩
  | failed failure =>
    rw [hs] at h
    cases h

theorem text_or_no_text (siblings : List Node) :
    (∃ t line file children rest,
      siblings = .mk (.text t) line file children :: rest) ∨
      ∀ node ∈ siblings.head?, node.text? = none := by
  cases siblings with
  | nil => exact Or.inr (by simp)
  | cons first rest =>
    rcases first with ⟨kind, line, file, children⟩
    cases kind with
    | text t => exact Or.inl ⟨t, line, file, children, rest, rfl⟩
    | _ =>
      refine Or.inr ?_
      intro node hn
      cases hn
      rfl

theorem joinText_of_isEmpty {s : List Char} (hs : s.isEmpty = true) (line : Nat)
    (siblings : List Node) : joinText line s siblings = siblings := by
  rw [joinText.eq_def, if_pos hs]

theorem joinText_of_text {s : List Char} (hs : s.isEmpty = false) (line l : Nat) (t : String)
    (file : Option String) (children : Option (List Node)) (rest : List Node) :
    joinText line s (.mk (.text t) l file children :: rest) =
      .mk (.text (t ++ String.ofList s)) l file children :: rest := by
  rw [joinText.eq_def, hs]
  rfl

theorem joinText_of_no_text {s : List Char} {siblings : List Node} (hs : s.isEmpty = false)
    (line : Nat) (h : ∀ node ∈ siblings.head?, node.text? = none) :
    joinText line s siblings = .leaf (.text (String.ofList s)) line :: siblings := by
  rw [joinText.eq_def, hs]
  cases siblings with
  | nil => rfl
  | cons first rest =>
    rcases first with ⟨kind, l, file, children⟩
    cases kind with
    | text t => exact absurd (h _ rfl) (by simp [Node.text?])
    | _ => rfl

theorem trimLast_of_text (l : Nat) (t : String) (file : Option String)
    (children : Option (List Node)) (rest : List Node) :
    trimLast (.mk (.text t) l file children :: rest) =
      if (Text.trimEnd t.toList).isEmpty then rest
      else .mk (.text (String.ofList (Text.trimEnd t.toList))) l file children :: rest := rfl

theorem trimLast_of_no_text {siblings : List Node}
    (h : ∀ node ∈ siblings.head?, node.text? = none) : trimLast siblings = siblings := by
  cases siblings with
  | nil => rfl
  | cons first rest =>
    rcases first with ⟨kind, l, file, children⟩
    cases kind with
    | text t => exact absurd (h _ rfl) (by simp [Node.text?])
    | _ => rfl

end Builder
end TemplateSite
