import TwinSyntax.Grammar.Statement

/-!
# The language

What a program is, without saying how one is read: derivations over words of tokens. The grammar is

```text
program     ::= statements END
statements  ::= ε | statements statement | statements TERMINATOR
statement   ::= IDENTIFIER '=' expr terminator | expr terminator
              | 'while' condition body | conditional | block
conditional ::= 'if' condition body [ 'else' alternative ]
block       ::= '{' statements '}'
condition   ::= expr relation expr | '(' condition ')'
expr        ::= LITERAL | IDENTIFIER | '-' expr | expr operator expr | '(' expr ')'
terminator  ::= TERMINATOR | (in front of END, 'else' or '}')     in myrmidon
              | TERMINATOR                                        in sml
body        ::= statement                                         in myrmidon
              | block                                             in sml
alternative ::= body | conditional                                the second in sml only
```

It is read with four rules that leave one derivation.

**Ranks.** Sums and differences have the rank 1, products and quotients the rank 2. An expression
carries the least rank that its outermost operator may have. The left operand of an operator may be
built from operators of its own rank, the right operand from higher ones only, and the operand of a
minus sign from none, so operators associate to the left.

**What follows.** A phrase is derived in front of the kind of the token behind it, `next`. The
terminators of myrmidon look at it, and so do the last two rules.

**Long conditions.** The right side of a comparison goes on as far as it can: no binary operator
follows it.

**Near branches.** An `else` belongs to the nearest `if` that can take it: no `else` follows a
conditional without one.

**Levels.** A derivation also carries a bound on the levels of nesting that are open at once. Each
pair of parentheses, minus sign, block, body and chained conditional opens one.
-/

namespace TwinSyntax

/-! ## How nodes are written -/

/-- The token that an operation is written with. -/
def Arithmetic.token : Arithmetic → TokenKind
  | add => .plus
  | sub => .minus
  | mul => .star
  | div => .slash

/-- The token that a comparison is written with. -/
def Relation.token : Relation → TokenKind
  | less => .less
  | greater => .greater
  | lessEqual => .lessEqual
  | greaterEqual => .greaterEqual
  | notEqual => .notEqual
  | equal => .equal

/-- The token that a leaf is written with. -/
def Payload.token : Payload → TokenKind
  | integer value => .integer value
  | number value => .number value
  | identifier name => .identifier name

/-- The rank of an operator: products are made of sums only in parentheses. -/
def Arithmetic.rank : Arithmetic → Nat
  | add | sub => 1
  | mul | div => 2

/-- How tight the parser lets an operator bind is how the grammar ranks it. -/
theorem Arithmetic.precedence_eq_rank (op : Arithmetic) : op.precedence = op.rank := by
  cases op <;> rfl

/-! ## What stands for nothing -/

/-- Whether tokens of the kind stand for nothing. In `sml`, line breaks do. -/
def Surface.Ignores (surface : Surface) (kind : TokenKind) : Prop :=
  surface = .sml ∧ kind = .endOfLine

instance (surface : Surface) (kind : TokenKind) : Decidable (surface.Ignores kind) :=
  inferInstanceAs (Decidable (_ ∧ _))

/-- The parser skips the tokens that stand for nothing. -/
theorem Surface.skips_iff {surface : Surface} {kind : TokenKind} :
    surface.skips kind = true ↔ surface.Ignores kind := by
  cases surface <;> simp [skips, Ignores, terminator]

namespace Phrases

open Grammar (Setting)

/-- The kind of the first token of `word`, or of the token behind it if there is none. -/
def front (word : List Token) (next : TokenKind) : TokenKind :=
  match word with
  | [] => next
  | token :: _ => token.kind

@[simp] theorem front_nil (next : TokenKind) : front [] next = next := rfl

@[simp] theorem front_cons (token : Token) (word : List Token) (next : TokenKind) :
    front (token :: word) next = token.kind := rfl

theorem front_append (u v : List Token) (next : TokenKind) :
    front (u ++ v) next = front u (front v next) := by
  cases u <;> rfl

theorem front_front (word : List Token) (next : TokenKind) :
    front word (front word next) = front word next := by
  cases word <;> rfl

/-- More than the rank of any binary operator. -/
def tightest : Nat := 3

theorem rank_lt_tightest (op : Arithmetic) : op.rank < tightest := by
  cases op <;> decide

/-! ## Derivations -/

/-- `word` is an expression with the tree `tree`. Its outermost operator has at least the rank
`least`, and `levels` bounds the levels that are open at once. -/
inductive Expression (g : Setting) :
    (least levels : Nat) → (word : List Token) → (tree : Node) → Prop
  | leaf {least levels : Nat} {token : Token} {value : Payload} :
      token.kind = value.token →
      Expression g least levels [token] (.leaf value (g.locate token.span))
  | negate {least levels : Nat} {minus : Token} {word : List Token} {tree : Node} :
      minus.kind = .minus →
      Expression g tightest levels word tree →
      Expression g least (levels + 1) (minus :: word) (.negate (g.locate minus.span) tree)
  | parens {least levels : Nat} {opening closing : Token} {word : List Token} {tree : Node} :
      opening.kind = .openParen →
      Expression g 0 levels word tree →
      closing.kind = .closeParen →
      Expression g least (levels + 1) (opening :: (word ++ [closing])) tree
  | binary {least levels : Nat} {op : Arithmetic} {operator : Token} {u v : List Token}
      {left right : Node} :
      Expression g op.rank levels u left →
      operator.kind = op.token →
      least ≤ op.rank →
      Expression g (op.rank + 1) levels v right →
      Expression g least levels (u ++ operator :: v)
        (.arithmetic op (g.locate operator.span) left right)

/-- `word`, in front of `next`, is a condition with the tree `tree`. -/
inductive Condition (g : Setting) : (levels : Nat) → (word : List Token) → (next : TokenKind) →
    (tree : Node) → Prop
  | compare {levels : Nat} {rel : Relation} {operator : Token} {u v : List Token}
      {left right : Node} {next : TokenKind} :
      Expression g 0 levels u left →
      operator.kind = rel.token →
      Expression g 0 levels v right →
      (∀ op : Arithmetic, next ≠ op.token) →
      Condition g levels (u ++ operator :: v) next
        (.relation rel (g.locate operator.span) left right)
  | parens {levels : Nat} {opening closing : Token} {word : List Token} {next : TokenKind}
      {tree : Node} :
      opening.kind = .openParen →
      Condition g levels word .closeParen tree →
      closing.kind = .closeParen →
      Condition g (levels + 1) (opening :: (word ++ [closing])) next tree

/-- `word`, in front of `next`, ends a simple statement. -/
inductive Terminator (surface : Surface) : (word : List Token) → (next : TokenKind) → Prop
  | taken {token : Token} {next : TokenKind} :
      token.kind = surface.terminator → Terminator surface [token] next
  | ahead {next : TokenKind} :
      surface = .myrmidon → next = .endOfFile ∨ next = .elseWord ∨ next = .closeBrace →
      Terminator surface [] next

/-- The phrases that programs are made of, down to simple statements. A `listed` phrase is a member
of a list, which may be empty; `several` are at least one of them. -/
inductive Phrase where
  | statement
  | conditional
  | block
  | body
  | alternative
  | listed
  | several
  | statements

/-- `word`, in front of `next`, is the phrase `phrase` with the tree `tree`, and `levels` bounds the
levels that are open at once. -/
inductive Derives (g : Setting) : (phrase : Phrase) → (levels : Nat) → (word : List Token) →
    (next : TokenKind) → (tree : Node) → Prop
  | assignment {levels : Nat} {target assign : Token} {name : String} {word ending : List Token}
      {next : TokenKind} {value : Node} :
      target.kind = .identifier name →
      assign.kind = .assign →
      Expression g 0 levels word value →
      Terminator g.surface ending next →
      Derives g .statement levels (target :: assign :: (word ++ ending)) next
        (.assign (g.locate assign.span) (.leaf (.identifier name) (g.locate target.span)) value)
  | expression {levels : Nat} {word ending : List Token} {next : TokenKind} {tree : Node} :
      Expression g 0 levels word tree →
      Terminator g.surface ending next →
      Derives g .statement levels (word ++ ending) next tree
  | loop {levels : Nat} {keyword : Token} {u v : List Token} {next : TokenKind}
      {condition body : Node} :
      keyword.kind = .whileWord →
      Condition g levels u (front v next) condition →
      Derives g .body levels v next body →
      Derives g .statement levels (keyword :: (u ++ v)) next
        (.loop (g.locate keyword.span) condition body)
  | ofConditional {levels : Nat} {word : List Token} {next : TokenKind} {tree : Node} :
      Derives g .conditional levels word next tree →
      Derives g .statement levels word next tree
  | ofBlock {levels : Nat} {word : List Token} {next : TokenKind} {tree : Node} :
      Derives g .block levels word next tree →
      Derives g .statement levels word next tree
  | alone {levels : Nat} {keyword : Token} {u v : List Token} {next : TokenKind}
      {condition thenBranch : Node} :
      keyword.kind = .ifWord →
      Condition g levels u (front v next) condition →
      Derives g .body levels v next thenBranch →
      next ≠ .elseWord →
      Derives g .conditional levels (keyword :: (u ++ v)) next
        (.conditional (g.locate keyword.span) condition thenBranch .eos)
  | both {levels : Nat} {keyword middle : Token} {u v w : List Token} {next : TokenKind}
      {condition thenBranch elseBranch : Node} :
      keyword.kind = .ifWord →
      Condition g levels u (front v .elseWord) condition →
      Derives g .body levels v .elseWord thenBranch →
      middle.kind = .elseWord →
      Derives g .alternative levels w next elseBranch →
      Derives g .conditional levels (keyword :: (u ++ (v ++ middle :: w))) next
        (.conditional (g.locate keyword.span) condition thenBranch elseBranch)
  | block {levels : Nat} {opening closing : Token} {word : List Token} {next : TokenKind}
      {tree : Node} :
      opening.kind = .openBrace →
      Derives g .statements levels word .closeBrace tree →
      closing.kind = .closeBrace →
      Derives g .block (levels + 1) (opening :: (word ++ [closing])) next tree
  | bodyStatement {levels : Nat} {word : List Token} {next : TokenKind} {tree : Node} :
      g.surface = .myrmidon →
      Derives g .statement levels word next tree →
      Derives g .body (levels + 1) word next tree
  | bodyBlock {levels : Nat} {word : List Token} {next : TokenKind} {tree : Node} :
      g.surface = .sml →
      Derives g .block levels word next tree →
      Derives g .body (levels + 1) word next tree
  | ofBody {levels : Nat} {word : List Token} {next : TokenKind} {tree : Node} :
      Derives g .body levels word next tree →
      Derives g .alternative levels word next tree
  | chained {levels : Nat} {word : List Token} {next : TokenKind} {tree : Node} :
      g.surface = .sml →
      Derives g .conditional levels word next tree →
      Derives g .alternative (levels + 1) word next tree
  | empty {levels : Nat} {token : Token} {next : TokenKind} :
      token.kind = g.surface.terminator →
      Derives g .listed levels [token] next .eos
  | ofStatement {levels : Nat} {word : List Token} {next : TokenKind} {tree : Node} :
      Derives g .statement levels word next tree →
      Derives g .listed levels word next tree
  | first {levels : Nat} {word : List Token} {next : TokenKind} {tree : Node} :
      Derives g .listed levels word next tree →
      Derives g .several levels word next tree
  | more {levels : Nat} {u v : List Token} {next : TokenKind} {list tree : Node} :
      Derives g .several levels u (front v next) list →
      Derives g .listed levels v next tree →
      Derives g .several levels (u ++ v) next (.sequence list tree)
  | none {levels : Nat} {next : TokenKind} :
      Derives g .statements levels [] next .eos
  | some {levels : Nat} {word : List Token} {next : TokenKind} {tree : Node} :
      Derives g .several levels word next tree →
      Derives g .statements levels word next tree

/-- `word` is a program with the body `tree` that opens at most `levels` levels at once. -/
def Program (g : Setting) (levels : Nat) (word : List Token) (tree : Node) : Prop :=
  Derives g .statements levels word .endOfFile tree

variable {g : Setting}

/-! ## More room -/

theorem Expression.mono {least levels levels' : Nat} {word : List Token} {tree : Node}
    (h : Expression g least levels word tree) (hle : levels ≤ levels') :
    Expression g least levels' word tree := by
  induction h generalizing levels' with
  | leaf hkind => exact .leaf hkind
  | negate hminus _ ih =>
    obtain ⟨levels', rfl⟩ := Nat.exists_eq_add_one_of_ne_zero (Nat.ne_zero_of_lt hle)
    exact .negate hminus (ih (Nat.le_of_succ_le_succ hle))
  | parens hopen _ hclose ih =>
    obtain ⟨levels', rfl⟩ := Nat.exists_eq_add_one_of_ne_zero (Nat.ne_zero_of_lt hle)
    exact .parens hopen (ih (Nat.le_of_succ_le_succ hle)) hclose
  | binary _ hop hleast _ ihu ihv => exact .binary (ihu hle) hop hleast (ihv hle)

theorem Expression.weaken {least least' levels : Nat} {word : List Token} {tree : Node}
    (h : Expression g least levels word tree) (hle : least' ≤ least) :
    Expression g least' levels word tree := by
  cases h with
  | leaf hkind => exact .leaf hkind
  | negate hminus h => exact .negate hminus h
  | parens hopen h hclose => exact .parens hopen h hclose
  | binary hu hop hleast hv => exact .binary hu hop (Nat.le_trans hle hleast) hv

/-- What binds tightest may stand anywhere. -/
theorem Expression.of_tightest {least levels : Nat} {word : List Token} {tree : Node}
    (h : Expression g tightest levels word tree) : Expression g least levels word tree := by
  cases h with
  | leaf hkind => exact .leaf hkind
  | negate hminus h => exact .negate hminus h
  | parens hopen h hclose => exact .parens hopen h hclose
  | @binary _ _ op _ _ _ _ _ hu hop hleast hv =>
    exact absurd (rank_lt_tightest op) (Nat.not_lt_of_le hleast)

theorem Condition.mono {levels levels' : Nat} {word : List Token} {next : TokenKind} {tree : Node}
    (h : Condition g levels word next tree) (hle : levels ≤ levels') :
    Condition g levels' word next tree := by
  induction h generalizing levels' with
  | compare hu hrel hv hnext => exact .compare (hu.mono hle) hrel (hv.mono hle) hnext
  | parens hopen _ hclose ih =>
    obtain ⟨levels', rfl⟩ := Nat.exists_eq_add_one_of_ne_zero (Nat.ne_zero_of_lt hle)
    exact .parens hopen (ih (Nat.le_of_succ_le_succ hle)) hclose

/-- Of what follows, a condition only minds that it does not go on with the right side. -/
theorem Condition.change {levels : Nat} {word : List Token} {next next' : TokenKind} {tree : Node}
    (h : Condition g levels word next tree) (hnext : ∀ op : Arithmetic, next' ≠ op.token) :
    Condition g levels word next' tree := by
  cases h with
  | compare hu hrel hv _ => exact .compare hu hrel hv hnext
  | parens hopen h hclose => exact .parens hopen h hclose

theorem Derives.mono {phrase : Phrase} {levels levels' : Nat} {word : List Token} {next : TokenKind}
    {tree : Node} (h : Derives g phrase levels word next tree) (hle : levels ≤ levels') :
    Derives g phrase levels' word next tree := by
  induction h generalizing levels' with
  | assignment hname hassign hvalue hend => exact .assignment hname hassign (hvalue.mono hle) hend
  | expression hvalue hend => exact .expression (hvalue.mono hle) hend
  | loop hkey hcond _ ih => exact .loop hkey (hcond.mono hle) (ih hle)
  | ofConditional _ ih => exact .ofConditional (ih hle)
  | ofBlock _ ih => exact .ofBlock (ih hle)
  | alone hkey hcond _ hnext ih => exact .alone hkey (hcond.mono hle) (ih hle) hnext
  | both hkey hcond _ hmiddle _ ihthen ihelse =>
    exact .both hkey (hcond.mono hle) (ihthen hle) hmiddle (ihelse hle)
  | block hopen _ hclose ih =>
    obtain ⟨levels', rfl⟩ := Nat.exists_eq_add_one_of_ne_zero (Nat.ne_zero_of_lt hle)
    exact .block hopen (ih (Nat.le_of_succ_le_succ hle)) hclose
  | bodyStatement hsurface _ ih =>
    obtain ⟨levels', rfl⟩ := Nat.exists_eq_add_one_of_ne_zero (Nat.ne_zero_of_lt hle)
    exact .bodyStatement hsurface (ih (Nat.le_of_succ_le_succ hle))
  | bodyBlock hsurface _ ih =>
    obtain ⟨levels', rfl⟩ := Nat.exists_eq_add_one_of_ne_zero (Nat.ne_zero_of_lt hle)
    exact .bodyBlock hsurface (ih (Nat.le_of_succ_le_succ hle))
  | ofBody _ ih => exact .ofBody (ih hle)
  | chained hsurface _ ih =>
    obtain ⟨levels', rfl⟩ := Nat.exists_eq_add_one_of_ne_zero (Nat.ne_zero_of_lt hle)
    exact .chained hsurface (ih (Nat.le_of_succ_le_succ hle))
  | empty hkind => exact .empty hkind
  | ofStatement _ ih => exact .ofStatement (ih hle)
  | first _ ih => exact .first (ih hle)
  | more _ _ ihlist ihtree => exact .more (ihlist hle) (ihtree hle)
  | none => exact .none
  | some _ ih => exact .some (ih hle)

end Phrases

end TwinSyntax
