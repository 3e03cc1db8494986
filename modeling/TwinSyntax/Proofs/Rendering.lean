import TwinSyntax.Proofs.Shapes

/-!
# Writing a tree down

**Theorem (`tree_of_rendering`).** Every tree of the right shape can be written down so that reading
it gives the tree again, up to locations: the ranks of operators need no more parentheses than those
in `needsParens`, and lists, blocks and bodies are told apart by braces.

**Renderings** (`listKinds`). Operands have parentheses only where ranks ask for them, bodies
are always braced, and an empty branch behind `else` is left out. A chain is written as a list along
its left spine; anywhere else it is a block. Beside the kinds stands how many levels of nesting the
rendering opens (`listLevels`).
-/

namespace TwinSyntax

open Grammar Phrases

namespace Node

/-! ## Places -/

/-- The tree without the places that its nodes come from. -/
def unlocated : Node → Node
  | leaf value _ => leaf value default
  | eos => eos
  | sequence first second => sequence first.unlocated second.unlocated
  | program _ body => program default body.unlocated
  | assign _ target value => assign default target.unlocated value.unlocated
  | loop _ condition body => loop default condition.unlocated body.unlocated
  | conditional _ condition thenBranch elseBranch =>
    conditional default condition.unlocated thenBranch.unlocated elseBranch.unlocated
  | relation rel _ left right => relation rel default left.unlocated right.unlocated
  | arithmetic op _ left right => arithmetic op default left.unlocated right.unlocated
  | negate _ argument => negate default argument.unlocated

/-! ## Expressions -/

/-- How tight the outermost operation of an expression binds. -/
def tightness : Node → Nat
  | arithmetic op _ _ _ => op.rank
  | _ => tightest

/-- Whether an expression is too loose to stand where at least `least` is asked for. -/
def needsParens (n : Node) (least : Nat) : Bool := n.tightness < least

/-- The kinds `kinds`, in parentheses if they are needed. -/
def parenthesized (needed : Bool) (kinds : List TokenKind) : List TokenKind :=
  if needed then .openParen :: (kinds ++ [.closeParen]) else kinds

/-- The tokens of an expression. -/
def expressionKinds : Node → List TokenKind
  | leaf value _ => [value.token]
  | arithmetic op _ left right =>
    parenthesized (left.needsParens op.rank) left.expressionKinds ++
      op.token :: parenthesized (right.needsParens (op.rank + 1)) right.expressionKinds
  | negate _ argument =>
    .minus :: parenthesized (argument.needsParens tightest) argument.expressionKinds
  | _ => []

/-- The levels that the tokens of an expression open at once. -/
def expressionLevels : Node → Nat
  | arithmetic op _ left right =>
    max (left.expressionLevels + (left.needsParens op.rank).toNat)
      (right.expressionLevels + (right.needsParens (op.rank + 1)).toNat)
  | negate _ argument => argument.expressionLevels + (argument.needsParens tightest).toNat + 1
  | _ => 0

/-- The tokens of a condition. -/
def conditionKinds : Node → List TokenKind
  | relation rel _ left right => left.expressionKinds ++ rel.token :: right.expressionKinds
  | _ => []

/-- The levels that the tokens of a condition open at once. -/
def conditionLevels : Node → Nat
  | relation _ _ left right => max left.expressionLevels right.expressionLevels
  | _ => 0

/-! ## Statements -/

/-- Whether the tree is a chain of statements. -/
def isChain : Node → Bool
  | sequence _ _ => true
  | _ => false

/-- Whether the tree is an empty statement. -/
def isEmpty : Node → Bool
  | eos => true
  | _ => false

/-- The kinds `kinds` between braces. -/
def braced (kinds : List TokenKind) : List TokenKind := .openBrace :: (kinds ++ [.closeBrace])

/-- The tokens of a statement, or of the list that a chain of statements is. -/
def listKinds (surface : Surface) : Node → List TokenKind
  | eos => [surface.terminator]
  | sequence first second =>
    first.listKinds surface ++
      if second.isChain then braced (second.listKinds surface) else second.listKinds surface
  | assign _ target value =>
    target.expressionKinds ++ .assign :: (value.expressionKinds ++ [surface.terminator])
  | loop _ condition body =>
    .whileWord :: (condition.conditionKinds ++ braced (body.listKinds surface))
  | conditional _ condition thenBranch elseBranch =>
    .ifWord :: (condition.conditionKinds ++ (braced (thenBranch.listKinds surface) ++
      if elseBranch.isEmpty then [] else .elseWord :: braced (elseBranch.listKinds surface)))
  | n => n.expressionKinds ++ [surface.terminator]

/-- The levels that these tokens open at once. A body in braces opens one as a body and one as a
block. -/
def listLevels : Node → Nat
  | eos => 0
  | sequence first second => max first.listLevels (second.listLevels + second.isChain.toNat)
  | assign _ _ value => value.expressionLevels
  | loop _ condition body => max condition.conditionLevels (body.listLevels + 2)
  | conditional _ condition thenBranch elseBranch =>
    max condition.conditionLevels (max (thenBranch.listLevels + 2)
      (if elseBranch.isEmpty then 0 else elseBranch.listLevels + 2))
  | n => n.expressionLevels

end Node

/-! ## Derivations of renderings -/

namespace Phrases

open Node

variable {g : Setting} {word : List Token} {n : Node}

/-- The kinds of the tokens of a word. -/
abbrev kinds (word : List Token) : List TokenKind := word.map (·.kind)

/-- A word that is written between two tokens. -/
theorem kinds_enclosed {first last : TokenKind} {inner : List TokenKind}
    (h : kinds word = first :: (inner ++ [last])) :
    ∃ opening u closing, word = opening :: (u ++ [closing]) ∧ opening.kind = first ∧
      kinds u = inner ∧ closing.kind = last := by
  obtain ⟨opening, rest, rfl, hopen, hrest⟩ := List.map_eq_cons_iff.mp h
  obtain ⟨u, v, rfl, hu, hv⟩ := List.map_eq_append_iff.mp hrest
  obtain ⟨closing, rfl, hclose⟩ := List.map_eq_singleton_iff.mp hv
  exact ⟨opening, u, closing, rfl, hopen, hu, hclose⟩

/-- An expression can be derived from its tokens, with the tightness that it has. -/
def DerivesExpression (g : Setting) (n : Node) : Prop :=
  ∀ word, kinds word = n.expressionKinds →
    ∃ tree, tree.unlocated = n.unlocated ∧
      Expression g n.tightness n.expressionLevels word tree

/-- **Parentheses are only needed around what is too loose.** -/
theorem DerivesExpression.operand (h : DerivesExpression g n) {least : Nat}
    (hword : kinds word = parenthesized (n.needsParens least) n.expressionKinds) :
    ∃ tree, tree.unlocated = n.unlocated ∧
      Expression g least (n.expressionLevels + (n.needsParens least).toNat) word tree := by
  cases hneeded : n.needsParens least with
  | true =>
    rw [hneeded, parenthesized, if_pos rfl] at hword
    obtain ⟨opening, u, closing, rfl, hopen, hu, hclose⟩ := kinds_enclosed hword
    obtain ⟨tree, htree, hexpr⟩ := h u hu
    exact ⟨tree, htree, .parens hopen (hexpr.weaken (Nat.zero_le _)) hclose⟩
  | false =>
    rw [hneeded, parenthesized, if_neg Bool.false_ne_true] at hword
    obtain ⟨tree, htree, hexpr⟩ := h word hword
    have hle : least ≤ n.tightness := Nat.le_of_not_lt (of_decide_eq_false hneeded)
    exact ⟨tree, htree, hexpr.weaken hle⟩

theorem derives_expression (h : IsExpression n) : DerivesExpression g n := by
  induction h with
  | @leaf value origin =>
    intro word hword
    obtain ⟨token, rfl, hkind⟩ := List.map_eq_singleton_iff.mp hword
    exact ⟨.leaf value (g.locate token.span), rfl, .leaf hkind⟩
  | @arithmetic op origin left right _ _ ihleft ihright =>
    intro word hword
    obtain ⟨u, rest, rfl, hu, hrest⟩ := List.map_eq_append_iff.mp hword
    obtain ⟨operator, v, rfl, hop, hv⟩ := List.map_eq_cons_iff.mp hrest
    obtain ⟨left', hleft, hexpr⟩ := ihleft.operand hu
    obtain ⟨right', hright, hexpr'⟩ := ihright.operand hv
    refine ⟨.arithmetic op (g.locate operator.span) left' right', ?_, ?_⟩
    · rw [unlocated, unlocated, hleft, hright]
    · exact .binary (hexpr.mono (Nat.le_max_left _ _)) hop (Nat.le_refl _)
        (hexpr'.mono (Nat.le_max_right _ _))
  | @negate origin argument _ ih =>
    intro word hword
    obtain ⟨minus, rest, rfl, hminus, hrest⟩ := List.map_eq_cons_iff.mp hword
    obtain ⟨argument', hargument, hexpr⟩ := ih.operand hrest
    refine ⟨.negate (g.locate minus.span) argument', ?_, .negate hminus hexpr⟩
    rw [unlocated, unlocated, hargument]

/-- An expression on its own may have any operation outermost. -/
theorem derives_whole (h : IsExpression n) (hword : kinds word = n.expressionKinds) :
    ∃ tree, tree.unlocated = n.unlocated ∧ Expression g 0 n.expressionLevels word tree := by
  obtain ⟨tree, htree, hexpr⟩ := derives_expression h word hword
  exact ⟨tree, htree, hexpr.weaken (Nat.zero_le _)⟩

/-- A condition in front of a brace. -/
theorem derives_condition (h : IsCondition n) (hword : kinds word = n.conditionKinds) :
    ∃ tree, tree.unlocated = n.unlocated ∧
      Condition g n.conditionLevels word .openBrace tree := by
  cases h with
  | @relation rel origin left right hleft hright =>
    obtain ⟨u, rest, rfl, hu, hrest⟩ := List.map_eq_append_iff.mp hword
    obtain ⟨operator, v, rfl, hrel, hv⟩ := List.map_eq_cons_iff.mp hrest
    obtain ⟨left', hleft', hexpr⟩ := derives_whole hleft hu
    obtain ⟨right', hright', hexpr'⟩ := derives_whole hright hv
    refine ⟨.relation rel (g.locate operator.span) left' right', ?_, ?_⟩
    · rw [unlocated, unlocated, hleft', hright']
    · exact .compare (hexpr.mono (Nat.le_max_left _ _)) hrel (hexpr'.mono (Nat.le_max_right _ _))
        (ne_token rfl)

/-- How a rendering is derived as part of a list: a chain is several members, and anything else is
one of them. -/
def listPhrase (n : Node) : Phrase := if n.isChain then .several else .listed

/-- The rendering of a statement can be derived as `phrase`, in front of anything but `else`. -/
def DerivesList (g : Setting) (phrase : Phrase) (n : Node) : Prop :=
  ∀ word, kinds word = n.listKinds g.surface →
    ∃ tree, tree.unlocated = n.unlocated ∧
      ∀ next, next ≠ .elseWord → Derives g phrase n.listLevels word next tree

theorem DerivesList.several (h : DerivesList g (listPhrase n) n) : DerivesList g .several n := by
  rw [listPhrase] at h
  split at h
  · exact h
  · intro word hword
    obtain ⟨tree, htree, hlist⟩ := h word hword
    exact ⟨tree, htree, fun next hnext => .first (hlist next hnext)⟩

/-- Between braces, a list is a block. -/
theorem DerivesList.block (h : DerivesList g (listPhrase n) n)
    (hword : kinds word = braced (n.listKinds g.surface)) :
    ∃ tree, tree.unlocated = n.unlocated ∧
      ∀ next, Derives g .block (n.listLevels + 1) word next tree := by
  obtain ⟨opening, u, closing, rfl, hopen, hu, hclose⟩ := kinds_enclosed hword
  obtain ⟨tree, htree, hlist⟩ := h.several u hu
  exact ⟨tree, htree, fun next => .block hopen (.some (hlist .closeBrace (by simp))) hclose⟩

theorem DerivesList.body (h : DerivesList g (listPhrase n) n)
    (hword : kinds word = braced (n.listKinds g.surface)) :
    ∃ tree, tree.unlocated = n.unlocated ∧
      ∀ next, Derives g .body (n.listLevels + 2) word next tree := by
  obtain ⟨tree, htree, hblock⟩ := h.block hword
  refine ⟨tree, htree, fun next => ?_⟩
  cases hsurface : g.surface with
  | myrmidon => exact .bodyStatement hsurface (.ofBlock (hblock next))
  | sml => exact .bodyBlock hsurface (hblock next)

/-- Behind another member, a chain is a block. -/
theorem DerivesList.member (h : DerivesList g (listPhrase n) n)
    (hword : kinds word =
      if n.isChain then braced (n.listKinds g.surface) else n.listKinds g.surface) :
    ∃ tree, tree.unlocated = n.unlocated ∧
      ∀ next, next ≠ .elseWord →
        Derives g .listed (n.listLevels + n.isChain.toNat) word next tree := by
  cases hchain : n.isChain with
  | true =>
    rw [hchain, if_pos rfl] at hword
    obtain ⟨tree, htree, hblock⟩ := h.block hword
    exact ⟨tree, htree, fun next _ => .ofStatement (.ofBlock (hblock next))⟩
  | false =>
    rw [hchain, if_neg Bool.false_ne_true] at hword
    rw [listPhrase, hchain, if_neg Bool.false_ne_true] at h
    exact h word hword

theorem listKinds_of_expression (h : IsExpression n) (surface : Surface) :
    n.listKinds surface = n.expressionKinds ++ [surface.terminator] := by
  cases h <;> rfl

theorem listLevels_of_expression (h : IsExpression n) : n.listLevels = n.expressionLevels := by
  cases h <;> rfl

theorem listPhrase_of_expression (h : IsExpression n) : listPhrase n = .listed := by
  cases h <;> rfl

theorem derives_sequence {first second : Node} (ihfirst : DerivesList g (listPhrase first) first)
    (ihsecond : DerivesList g (listPhrase second) second) :
    DerivesList g .several (.sequence first second) := by
  intro word hword
  obtain ⟨u, v, rfl, hu, hv⟩ := List.map_eq_append_iff.mp hword
  obtain ⟨first', hfirst, hlist⟩ := ihfirst.several u hu
  obtain ⟨second', hsecond, hmember⟩ := ihsecond.member hv
  refine ⟨.sequence first' second', by rw [unlocated, unlocated, hfirst, hsecond],
    fun next hnext => ?_⟩
  exact .more ((hlist _ ((hmember next hnext).ne_else (by simp))).mono (Nat.le_max_left _ _))
    ((hmember next hnext).mono (Nat.le_max_right _ _))

theorem derives_assign {origin origin' : Location} {name : String} {value : Node}
    (hvalue : IsExpression value) :
    DerivesList g .listed (.assign origin (.leaf (.identifier name) origin') value) := by
  intro word hword
  obtain ⟨target, rest, rfl, hname, hrest⟩ := List.map_eq_cons_iff.mp hword
  obtain ⟨assign, rest, rfl, hassign, hrest⟩ := List.map_eq_cons_iff.mp hrest
  obtain ⟨u, v, rfl, hu, hv⟩ := List.map_eq_append_iff.mp hrest
  obtain ⟨terminator, rfl, hend⟩ := List.map_eq_singleton_iff.mp hv
  obtain ⟨value', hvalue', hexpr⟩ := derives_whole hvalue hu
  refine ⟨.assign (g.locate assign.span) (.leaf (.identifier name) (g.locate target.span)) value',
    ?_, fun next _ => .ofStatement (.assignment hname hassign hexpr (.taken hend))⟩
  rw [unlocated, unlocated, hvalue']
  rfl

theorem derives_loop {origin : Location} {condition body : Node}
    (hcondition : IsCondition condition) (ih : DerivesList g (listPhrase body) body) :
    DerivesList g .listed (.loop origin condition body) := by
  intro word hword
  obtain ⟨keyword, rest, rfl, hkey, hrest⟩ := List.map_eq_cons_iff.mp hword
  obtain ⟨u, v, rfl, hu, hv⟩ := List.map_eq_append_iff.mp hrest
  obtain ⟨condition', hcondition', hcond⟩ := derives_condition hcondition hu
  obtain ⟨body', hbody', hbody⟩ := ih.body hv
  obtain ⟨opening, rest, rfl, hopen, -⟩ := List.map_eq_cons_iff.mp hv
  refine ⟨.loop (g.locate keyword.span) condition' body', ?_, fun next _ => .ofStatement ?_⟩
  · rw [unlocated, unlocated, hcondition', hbody']
  · refine .loop hkey ?_ ((hbody next).mono (Nat.le_max_right _ _))
    rw [front_cons, hopen]
    exact hcond.mono (Nat.le_max_left _ _)

theorem derives_conditional {origin : Location} {condition thenBranch elseBranch : Node}
    (hcondition : IsCondition condition) (ihthen : DerivesList g (listPhrase thenBranch) thenBranch)
    (ihelse : DerivesList g (listPhrase elseBranch) elseBranch) :
    DerivesList g .listed (.conditional origin condition thenBranch elseBranch) := by
  intro word hword
  obtain ⟨keyword, rest, rfl, hkey, hrest⟩ := List.map_eq_cons_iff.mp hword
  obtain ⟨u, rest, rfl, hu, hrest⟩ := List.map_eq_append_iff.mp hrest
  obtain ⟨v, w, rfl, hv, hw⟩ := List.map_eq_append_iff.mp hrest
  obtain ⟨condition', hcondition', hcond⟩ := derives_condition hcondition hu
  obtain ⟨then', hthen', hthen⟩ := ihthen.body hv
  obtain ⟨opening, v, rfl, hopen, -⟩ := List.map_eq_cons_iff.mp hv
  cases hempty : elseBranch.isEmpty with
  | true =>
    obtain rfl : elseBranch = .eos := by
      cases elseBranch <;> first | rfl | cases hempty
    obtain rfl := List.map_eq_nil_iff.mp hw
    refine ⟨.conditional (g.locate keyword.span) condition' then' .eos, ?_,
      fun next hnext => .ofStatement (.ofConditional ?_)⟩
    · rw [unlocated, unlocated, hcondition', hthen']
      rfl
    · rw [List.append_nil]
      refine .alone hkey ?_ ((hthen next).mono ?_) hnext
      · rw [front_cons, hopen]
        exact hcond.mono (Nat.le_max_left _ _)
      · exact Nat.le_trans (Nat.le_max_left _ _) (Nat.le_max_right _ _)
  | false =>
    rw [hempty, if_neg Bool.false_ne_true] at hw
    obtain ⟨middle, w, rfl, hmiddle, hw⟩ := List.map_eq_cons_iff.mp hw
    obtain ⟨else', helse', helse⟩ := ihelse.body hw
    refine ⟨.conditional (g.locate keyword.span) condition' then' else', ?_,
      fun next _ => .ofStatement (.ofConditional ?_)⟩
    · rw [unlocated, unlocated, hcondition', hthen', helse']
    · rw [listLevels, hempty, if_neg Bool.false_ne_true]
      refine .both hkey ?_ ((hthen _).mono ?_) hmiddle (.ofBody ((helse next).mono ?_))
      · rw [front_cons, hopen]
        exact hcond.mono (Nat.le_max_left _ _)
      · exact Nat.le_trans (Nat.le_max_left _ _) (Nat.le_max_right _ _)
      · exact Nat.le_trans (Nat.le_max_right _ _) (Nat.le_max_right _ _)

theorem derives_simple (h : IsExpression n) : DerivesList g .listed n := by
  intro word hword
  rw [listKinds_of_expression h] at hword
  rw [listLevels_of_expression h]
  obtain ⟨u, v, rfl, hu, hv⟩ := List.map_eq_append_iff.mp hword
  obtain ⟨terminator, rfl, hend⟩ := List.map_eq_singleton_iff.mp hv
  obtain ⟨tree, htree, hexpr⟩ := derives_whole h hu
  exact ⟨tree, htree, fun next _ => .ofStatement (.expression hexpr (.taken hend))⟩

/-- **Renderings are derived**, by induction on the shape of the tree. -/
theorem derives_rendering (h : IsStatement n) : DerivesList g (listPhrase n) n := by
  induction h with
  | eos =>
    intro word hword
    obtain ⟨terminator, rfl, hkind⟩ := List.map_eq_singleton_iff.mp hword
    exact ⟨.eos, rfl, fun next _ => .empty hkind⟩
  | sequence _ _ ihfirst ihsecond => exact derives_sequence ihfirst ihsecond
  | assign hvalue => exact derives_assign hvalue
  | loop hcondition _ ih => exact derives_loop hcondition ih
  | conditional hcondition _ _ ihthen ihelse => exact derives_conditional hcondition ihthen ihelse
  | expression h =>
    rw [listPhrase_of_expression h]
    exact derives_simple h

end Phrases

/-! ## Reading a rendering -/

/-- **Every tree of the right shape is reachable.** Reading its rendering, whatever the places of
the tokens, gives the tree again up to locations, if the rendering does not open too many levels. -/
theorem tree_of_rendering (surface : Surface) (tree : Node) (htree : tree.IsStatement)
    (hlevels : tree.listLevels ≤ maxNesting) (source : TokenSource) (tokens : List Token)
    (hitems : source.items = tokens.map .ok)
    (hkinds : tokens.map (·.kind) = tree.listKinds surface) :
    ∃ reader body, Reader.start surface source = .ok reader ∧
      reader.program.1 = ⟨some (.program (source.locate ⟨1, 1, 1⟩) body), []⟩ ∧
      body.unlocated = tree.unlocated := by
  obtain ⟨body, hbody, hlist⟩ :=
    (@derives_rendering (source.setting surface) _ htree).several tokens hkinds
  have hprogram : Program (source.setting surface) maxNesting tokens body :=
    .some ((hlist .endOfFile (by simp)).mono hlevels)
  have hseen : seen surface source.items = tokens := by
    rw [hitems]
    exact seen_ordinary (Derives.ordinary hprogram)
  have hclean : ∀ e, .error e ∉ source.items := hitems ▸ error_not_mem_map _
  rw [← hseen] at hprogram
  obtain ⟨reader, hstart, hrun⟩ := tree_of_program hclean hprogram
  exact ⟨reader, body, hstart, hrun, hbody⟩

/-- Reading `a = 1 - 2 * ( 3 - b ) ;`, where a product is tight enough for its parent and a
difference is not. -/
theorem tree_of_rendering_differences :
    let difference : Node :=
      .arithmetic .sub default (.leaf (.integer 3) default) (.leaf (.identifier "b") default)
    let tree : Node := .assign default (.leaf (.identifier "a") default)
      (.arithmetic .sub default (.leaf (.integer 1) default)
        (.arithmetic .mul default (.leaf (.integer 2) default) difference))
    let kinds : List TokenKind := [.identifier "a", .assign, .integer 1, .minus, .integer 2, .star,
      .openParen, .integer 3, .minus, .identifier "b", .closeParen, .semicolon]
    let tokens : List Token := kinds.map fun kind => ⟨kind, ⟨1, 1, 1⟩⟩
    let source : TokenSource := ⟨tokens.map .ok, ⟨1, 1, 1⟩, fun span => ⟨span, ""⟩⟩
    ∃ reader body, Reader.start .sml source = .ok reader ∧
      reader.program.1 = ⟨some (.program ⟨⟨1, 1, 1⟩, ""⟩ body), []⟩ ∧
      body.unlocated = tree.unlocated := by
  intro difference tree kinds tokens source
  have hdifference : difference.IsExpression := .arithmetic .leaf .leaf
  exact tree_of_rendering .sml tree (.assign (.arithmetic .leaf (.arithmetic .leaf hdifference)))
    (by decide) source tokens rfl rfl

end TwinSyntax
