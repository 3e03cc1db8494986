import TwinSyntax.Proofs.Phrases

/-!
# Words of the language

Which tokens an operation is written with (`arithmetic?_eq_some` and the like), which tokens a
phrase can start with (`Derives.starts`), and which tokens occur in it at all (`Derives.ordinary`).
-/

namespace TwinSyntax.Phrases

open Grammar (Setting arithmetic? relation? payload?)

variable {g : Setting}

/-! ## Tokens with a meaning -/

theorem arithmetic?_eq_some {kind : TokenKind} {op : Arithmetic} :
    arithmetic? kind = some op ↔ kind = op.token := by
  cases kind <;> cases op <;> simp [arithmetic?, Arithmetic.token]

/-- A token that is no operator. -/
theorem ne_token {kind : TokenKind} (h : arithmetic? kind = none) (op : Arithmetic) :
    kind ≠ op.token := by
  intro hop
  rw [arithmetic?_eq_some.mpr hop] at h
  cases h

theorem token_injective {op op' : Arithmetic} (h : op.token = op'.token) : op = op' := by
  cases op <;> cases op' <;> first | rfl | cases h

theorem relation?_eq_some {kind : TokenKind} {rel : Relation} :
    relation? kind = some rel ↔ kind = rel.token := by
  cases kind <;> cases rel <;> simp [relation?, Relation.token]

theorem payload?_eq_some {kind : TokenKind} {value : Payload} :
    payload? kind = some value ↔ kind = value.token := by
  cases kind <;> cases value <;> simp [payload?, Payload.token, eq_comm]

/-! ## First tokens -/

/-- An expression can start with a token of this kind. -/
def StartsExpression (kind : TokenKind) : Prop :=
  (∃ value : Payload, kind = value.token) ∨ kind = .minus ∨ kind = .openParen

/-- A statement can start with a token of this kind. -/
def StartsStatement (kind : TokenKind) : Prop :=
  StartsExpression kind ∨ kind = .whileWord ∨ kind = .ifWord ∨ kind = .openBrace

theorem Expression.starts {least levels : Nat} {word : List Token} {tree : Node}
    (h : Expression g least levels word tree) :
    ∃ token rest, word = token :: rest ∧ StartsExpression token.kind := by
  induction h with
  | leaf hkind => exact ⟨_, _, rfl, .inl ⟨_, hkind⟩⟩
  | negate hminus _ _ => exact ⟨_, _, rfl, .inr (.inl hminus)⟩
  | parens hopen _ _ _ => exact ⟨_, _, rfl, .inr (.inr hopen)⟩
  | binary _ _ _ _ ihu _ =>
    obtain ⟨token, rest, rfl, hstarts⟩ := ihu
    exact ⟨token, _, rfl, hstarts⟩

/-- Every phrase but the empty list starts with a token of its own. A member of a list may be a
terminator on its own. -/
theorem Derives.starts {phrase : Phrase} {levels : Nat} {word : List Token} {next : TokenKind}
    {tree : Node} (h : Derives g phrase levels word next tree) (hphrase : phrase ≠ .statements) :
    ∃ token rest, word = token :: rest ∧ (StartsStatement token.kind ∨
      token.kind = g.surface.terminator ∧ (phrase = .listed ∨ phrase = .several)) := by
  induction h with
  | assignment hname _ _ _ => exact ⟨_, _, rfl, .inl (.inl (.inl ⟨.identifier _, hname⟩))⟩
  | expression hvalue _ =>
    obtain ⟨token, rest, rfl, hstarts⟩ := hvalue.starts
    exact ⟨token, _, rfl, .inl (.inl hstarts)⟩
  | loop hkey _ _ _ => exact ⟨_, _, rfl, .inl (.inr (.inl hkey))⟩
  | alone hkey _ _ _ _ => exact ⟨_, _, rfl, .inl (.inr (.inr (.inl hkey)))⟩
  | both hkey _ _ _ _ _ _ => exact ⟨_, _, rfl, .inl (.inr (.inr (.inl hkey)))⟩
  | block hopen _ _ _ => exact ⟨_, _, rfl, .inl (.inr (.inr (.inr hopen)))⟩
  | empty hkind => exact ⟨_, _, rfl, .inr ⟨hkind, .inl rfl⟩⟩
  | first _ ih =>
    obtain ⟨token, rest, hword, hstarts⟩ := ih (by simp)
    exact ⟨token, rest, hword, hstarts.imp id fun h => ⟨h.1, .inr rfl⟩⟩
  | more _ _ ihlist _ =>
    obtain ⟨token, rest, rfl, hstarts⟩ := ihlist (by simp)
    exact ⟨token, _, rfl, hstarts⟩
  | none => exact absurd rfl hphrase
  | some _ _ => exact absurd rfl hphrase
  | ofConditional _ ih | ofBlock _ ih | bodyStatement _ _ ih | bodyBlock _ _ ih | ofBody _ ih
  | chained _ _ ih | ofStatement _ ih =>
    obtain ⟨token, rest, hword, hstarts⟩ := ih (by simp)
    exact ⟨token, rest, hword, .inl (hstarts.resolve_right (by simp))⟩

theorem Derives.ne_nil {phrase : Phrase} {levels : Nat} {word : List Token} {next : TokenKind}
    {tree : Node} (h : Derives g phrase levels word next tree) (hphrase : phrase ≠ .statements) :
    word ≠ [] := by
  obtain ⟨token, rest, rfl, -⟩ := h.starts hphrase
  exact List.cons_ne_nil token rest

/-- What follows a word does not change how it starts. -/
theorem front_append_of_ne_nil {word : List Token} (h : word ≠ []) (rest : List Token)
    (next next' : TokenKind) : front (word ++ rest) next = front word next' := by
  cases word with
  | nil => exact absurd rfl h
  | cons token word => rfl

/-- An expression does not start like any other statement. -/
theorem StartsExpression.ne {kind : TokenKind} (h : StartsExpression kind) :
    kind ≠ .whileWord ∧ kind ≠ .ifWord ∧ kind ≠ .openBrace := by
  rcases h with ⟨value, rfl⟩ | rfl | rfl
  · cases value <;> simp [Payload.token]
  all_goals simp

theorem StartsStatement.ne {kind : TokenKind} (h : StartsStatement kind) (surface : Surface) :
    kind ≠ surface.terminator ∧ kind ≠ .closeBrace ∧ kind ≠ .elseWord ∧ kind ≠ .endOfFile := by
  rcases h with (⟨value, rfl⟩ | rfl | rfl) | rfl | rfl | rfl
  · cases value <;> cases surface <;> simp [Payload.token, Surface.terminator]
  all_goals cases surface <;> simp [Surface.terminator]

/-- A phrase starts with the same token whatever follows. -/
theorem Derives.front_eq {phrase : Phrase} {levels : Nat} {word : List Token} {next : TokenKind}
    {tree : Node} (h : Derives g phrase levels word next tree) (hphrase : phrase ≠ .statements)
    (next' : TokenKind) : front word next' = front word next := by
  obtain ⟨token, rest, rfl, -⟩ := h.starts hphrase
  rfl

/-- No phrase starts with `else`. -/
theorem Derives.ne_else {phrase : Phrase} {levels : Nat} {word : List Token} {next : TokenKind}
    {tree : Node} (h : Derives g phrase levels word next tree) (hphrase : phrase ≠ .statements) :
    front word next ≠ .elseWord := by
  rcases h.starts hphrase with ⟨token, rest, rfl, hstarts | ⟨hkind, -⟩⟩
  · exact (hstarts.ne g.surface).2.2.1
  · rw [front_cons, hkind]
    cases g.surface <;> decide

/-! ## Tokens that occur -/

/-- A token that the grammar sees, before the end of the file. -/
def Ordinary (surface : Surface) (token : Token) : Prop :=
  token.kind ≠ .endOfFile ∧ ¬ surface.Ignores token.kind

theorem ordinary_of_ne {surface : Surface} {token : Token} (hend : token.kind ≠ .endOfFile)
    (hline : token.kind ≠ .endOfLine) : Ordinary surface token :=
  ⟨hend, fun h => hline h.2⟩

theorem ordinary_of_eq {surface : Surface} {token : Token} {kind : TokenKind}
    (h : token.kind = kind) (hkind : kind ≠ .endOfFile ∧ kind ≠ .endOfLine) :
    Ordinary surface token :=
  ordinary_of_ne (h ▸ hkind.1) (h ▸ hkind.2)

theorem ordinary_terminator {surface : Surface} {token : Token}
    (h : token.kind = surface.terminator) : Ordinary surface token := by
  rw [Ordinary, h]
  cases surface <;> decide

theorem ordinary_relation {surface : Surface} {token : Token} {rel : Relation}
    (h : token.kind = rel.token) : Ordinary surface token := by
  cases rel <;> exact ordinary_of_eq h (by simp [Relation.token])

/-- A token of this kind can occur in an expression. -/
def InExpression (kind : TokenKind) : Prop :=
  StartsExpression kind ∨ (∃ op : Arithmetic, kind = op.token) ∨ kind = .closeParen

theorem InExpression.ne {kind : TokenKind} (h : InExpression kind) :
    kind ≠ .endOfFile ∧ kind ≠ .endOfLine ∧ kind ≠ .assign := by
  rcases h with (⟨value, rfl⟩ | rfl | rfl) | ⟨op, rfl⟩ | rfl
  · cases value <;> simp [Payload.token]
  · simp
  · simp
  · cases op <;> simp [Arithmetic.token]
  · simp

theorem Expression.kinds {least levels : Nat} {word : List Token} {tree : Node}
    (h : Expression g least levels word tree) : ∀ token ∈ word, InExpression token.kind := by
  induction h with
  | leaf hkind =>
    rw [List.forall_mem_singleton]
    exact .inl (.inl ⟨_, hkind⟩)
  | negate hminus _ ih =>
    rw [List.forall_mem_cons]
    exact ⟨.inl (.inr (.inl hminus)), ih⟩
  | parens hopen _ hclose ih =>
    rw [List.forall_mem_cons, List.forall_mem_append, List.forall_mem_singleton]
    exact ⟨.inl (.inr (.inr hopen)), ih, .inr (.inr hclose)⟩
  | binary _ hop _ _ ihu ihv =>
    rw [List.forall_mem_append, List.forall_mem_cons]
    exact ⟨ihu, .inr (.inl ⟨_, hop⟩), ihv⟩

theorem Expression.ordinary {surface : Surface} {least levels : Nat} {word : List Token}
    {tree : Node} (h : Expression g least levels word tree) :
    ∀ token ∈ word, Ordinary surface token :=
  fun token htoken => ordinary_of_ne (h.kinds token htoken).ne.1 (h.kinds token htoken).ne.2.1

theorem Condition.ordinary {surface : Surface} {levels : Nat} {word : List Token} {next : TokenKind}
    {tree : Node} (h : Condition g levels word next tree) :
    ∀ token ∈ word, Ordinary surface token := by
  induction h with
  | compare hu hrel hv _ =>
    rw [List.forall_mem_append, List.forall_mem_cons]
    exact ⟨hu.ordinary, ordinary_relation hrel, hv.ordinary⟩
  | parens hopen _ hclose ih =>
    rw [List.forall_mem_cons, List.forall_mem_append, List.forall_mem_singleton]
    exact ⟨ordinary_of_eq hopen (by simp), ih, ordinary_of_eq hclose (by simp)⟩

theorem Terminator.ordinary {surface : Surface} {word : List Token} {next : TokenKind}
    (h : Terminator surface word next) : ∀ token ∈ word, Ordinary surface token := by
  cases h with
  | taken hkind =>
    rw [List.forall_mem_singleton]
    exact ordinary_terminator hkind
  | ahead _ _ => simp

/-- The tokens of a phrase are seen by the grammar, and the end of the file is not among them. -/
theorem Derives.ordinary {phrase : Phrase} {levels : Nat} {word : List Token} {next : TokenKind}
    {tree : Node} (h : Derives g phrase levels word next tree) :
    ∀ token ∈ word, Ordinary g.surface token := by
  induction h with
  | assignment hname hassign hvalue hend =>
    rw [List.forall_mem_cons, List.forall_mem_cons, List.forall_mem_append]
    exact ⟨ordinary_of_eq hname (by simp), ordinary_of_eq hassign (by simp), hvalue.ordinary,
      hend.ordinary⟩
  | expression hvalue hend =>
    rw [List.forall_mem_append]
    exact ⟨hvalue.ordinary, hend.ordinary⟩
  | loop hkey hcond _ ih =>
    rw [List.forall_mem_cons, List.forall_mem_append]
    exact ⟨ordinary_of_eq hkey (by simp), hcond.ordinary, ih⟩
  | alone hkey hcond _ _ ih =>
    rw [List.forall_mem_cons, List.forall_mem_append]
    exact ⟨ordinary_of_eq hkey (by simp), hcond.ordinary, ih⟩
  | both hkey hcond _ hmiddle _ ihthen ihelse =>
    rw [List.forall_mem_cons, List.forall_mem_append, List.forall_mem_append, List.forall_mem_cons]
    exact ⟨ordinary_of_eq hkey (by simp), hcond.ordinary, ihthen,
      ordinary_of_eq hmiddle (by simp), ihelse⟩
  | block hopen _ hclose ih =>
    rw [List.forall_mem_cons, List.forall_mem_append, List.forall_mem_singleton]
    exact ⟨ordinary_of_eq hopen (by simp), ih, ordinary_of_eq hclose (by simp)⟩
  | empty hkind =>
    rw [List.forall_mem_singleton]
    exact ordinary_terminator hkind
  | more _ _ ihlist ihtree =>
    rw [List.forall_mem_append]
    exact ⟨ihlist, ihtree⟩
  | none => simp
  | ofConditional _ ih | ofBlock _ ih | bodyStatement _ _ ih | bodyBlock _ _ ih | ofBody _ ih
  | chained _ _ ih | ofStatement _ ih | first _ ih | some _ ih => exact ih

end TwinSyntax.Phrases
