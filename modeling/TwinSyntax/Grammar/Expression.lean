import TwinSyntax.Grammar.Reading

/-!
# Expressions and conditions

**One level at a time.** Every rule that refers back to itself does so through a level of nesting.
The rules of one level are therefore written over the rules of the next (`Deeper`), and none of them
is recursive but the loop over binary operators.

**Expressions.** Literals, identifiers, parentheses, unary minus, and the binary operators, which
associate to the left. Unary minus binds tightest, then `*` and `/`, then `+` and `-`.

**Conditions.** One comparison of two expressions. A parenthesis in front may enclose the whole
condition or an expression that the comparison goes on from, and which of the two it was is known
only once its content has been read (`Clause`).
-/

namespace TwinSyntax.Grammar

/-- What stands between parentheses where a condition may stand. -/
inductive Clause where
  | condition (node : Node)
  | expression (node : Node)

/-- The rules of the grammar one level of nesting deeper. -/
structure Deeper where
  unary : Read Node
  expression : Read Node
  clause : Read Clause
  statement : Read Node
  conditional : Read Node
  block : Read Node
  statements : TokenKind → Read Node

/-- The binary operation that a token stands for. -/
def arithmetic? : TokenKind → Option Arithmetic
  | .plus => some .add
  | .minus => some .sub
  | .star => some .mul
  | .slash => some .div
  | _ => none

/-- The comparison that a token stands for. -/
def relation? : TokenKind → Option Relation
  | .less => some .less
  | .greater => some .greater
  | .lessEqual => some .lessEqual
  | .greaterEqual => some .greaterEqual
  | .notEqual => some .notEqual
  | .equal => some .equal
  | _ => none

/-- The value that a token stands for. -/
def payload? : TokenKind → Option Payload
  | .integer value => some (.integer value)
  | .number value => some (.number value)
  | .identifier name => some (.identifier name)
  | _ => none

variable (g : Setting) (deeper : Deeper)

/-- Takes the current token as a leaf with the value `value`. -/
def leaf (value : Payload) : Read Node := do
  let token ← advance g
  return .leaf value (g.locate token.span)

/-- The node of the kind `kind` that comes from `token`. Children that do not fit the kind are a
defect of the grammar, and an error that it does not recover from. -/
def build (kind : Operand) (token : Token) (children : List Node) : Read Node :=
  match Node.interior kind (some (g.locate token.span)) children with
  | .ok node => pure node
  | .error defect => throw (.malformed defect)

/-- A literal, an identifier or an expression in parentheses. -/
def primary : Read Node := do
  let kind ← peek
  match payload? kind with
  | some value => leaf g value
  | none =>
    if kind = .openParen then
      let _ ← advance g
      let inner ← nested deeper.expression
      let _ ← expect g .closeParen .closeParen
      return inner
    else unexpected .expression

/-- A primary expression with any number of minus signs in front. -/
def unary : Read Node := do
  if (← peek) = .minus then
    let minus ← advance g
    let argument ← nested deeper.unary
    build g .negate minus [argument]
  else primary g deeper

/-- Goes on from the operand `left` while operators of at least the precedence `least` follow. The
right operand takes only operators that bind tighter, so that equal ones associate to the left. -/
def continueExpression (left : Node) (least : Nat) : Nat → Read Node
  | 0 => pure left
  | rounds + 1 => do
    match arithmetic? (← peek) with
    | none => return left
    | some op =>
      if op.precedence < least then return left
      else
        let operator ← advance g
        let operand ← unary g deeper
        let right ← continueExpression operand (op.precedence + 1) rounds
        let node ← build g (.arithmetic op) operator [left, right]
        continueExpression node least rounds

/-- An expression. -/
def expression : Read Node := do
  let left ← unary g deeper
  looping (continueExpression g deeper left 0)

/-- The comparison that `left` is the left side of, or `left` itself if none follows. -/
def finishClause (left : Node) : Read Clause := do
  match relation? (← peek) with
  | none => return .expression left
  | some rel =>
    let operator ← advance g
    let right ← expression g deeper
    return .condition (← build g (.relation rel) operator [left, right])

/-- A condition or an expression, whichever it turns out to be. -/
def clause : Read Clause := do
  if (← peek) = .openParen then
    let _ ← advance g
    let inner ← nested deeper.clause
    let _ ← expect g .closeParen .closeParen
    match inner with
    | .condition node => return .condition node
    | .expression node =>
      let left ← looping (continueExpression g deeper node 0)
      finishClause g deeper left
  else
    let left ← expression g deeper
    finishClause g deeper left

/-- The condition of a loop or a conditional. -/
def condition : Read Node := do
  match ← clause g deeper with
  | .condition node => return node
  | .expression _ => unexpected .relation

end TwinSyntax.Grammar
