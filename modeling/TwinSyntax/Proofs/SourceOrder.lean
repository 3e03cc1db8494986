import TwinSyntax.Proofs.Acceptance

/-!
# Tokens and nodes

**Theorem (`tokens_match_nodes`).** A successful run loses no token, and neither doubles nor
reorders any. Without the tokens that leave no node of their own, the tokens up to the end of the
file are the nodes of the tree in source order, one by one: each node is of the kind that its token
is written as, with its value, and comes from where the token stands.

**Source order** (`Node.inOrder`). A binary operation, a comparison or an assignment stands between
its children; a minus sign, a loop or a conditional in front of them. Sentinels have no token.

The proof is an induction over derivations: what a word yields (`Yields`) is put together as the
word is.
-/

namespace TwinSyntax

open Grammar Phrases

/-! ## Source order -/

namespace Node

/-- The token that a node is written as, at its own place. -/
def token? : Node → Option TokenKind
  | leaf value _ => some value.token
  | assign _ _ _ => some .assign
  | loop _ _ _ => some .whileWord
  | conditional _ _ _ _ => some .ifWord
  | relation rel _ _ _ => some rel.token
  | arithmetic op _ _ _ => some op.token
  | negate _ _ => some .minus
  | eos | sequence _ _ | program _ _ => none

/-- The nodes below programs and sentinels, in the order in which their tokens stand in a text. -/
def inOrder : Node → List Node
  | leaf value origin => [leaf value origin]
  | eos => []
  | sequence first second => first.inOrder ++ second.inOrder
  | program _ body => body.inOrder
  | assign origin target value =>
    target.inOrder ++ assign origin target value :: value.inOrder
  | loop origin condition body =>
    loop origin condition body :: (condition.inOrder ++ body.inOrder)
  | conditional origin condition thenBranch elseBranch =>
    conditional origin condition thenBranch elseBranch ::
      (condition.inOrder ++ (thenBranch.inOrder ++ elseBranch.inOrder))
  | relation rel origin left right =>
    left.inOrder ++ relation rel origin left right :: right.inOrder
  | arithmetic op origin left right =>
    left.inOrder ++ arithmetic op origin left right :: right.inOrder
  | negate origin argument => negate origin argument :: argument.inOrder

/-- What a node shows of the token that it comes from. -/
def trace (n : Node) : Option TokenKind × Option Location := (n.token?, n.origin?)

end Node

/-- Tokens of this kind leave no node of their own. -/
def TokenKind.silent : TokenKind → Bool
  | openParen | closeParen | openBrace | closeBrace | elseWord | endOfLine | semicolon => true
  | _ => false

/-- What the node of a token has to show. -/
def Token.trace (locate : Span → Location) (token : Token) : Option TokenKind × Option Location :=
  (some token.kind, some (locate token.span))

/-- The tokens of `word` that leave nodes leave `nodes`, in this order. -/
def Yields (locate : Span → Location) (word : List Token) (nodes : List Node) : Prop :=
  (word.filter fun token => !token.kind.silent).map (Token.trace locate) = nodes.map Node.trace

namespace Yields

variable {locate : Span → Location} {token : Token} {node : Node} {u v : List Token}
  {nodes nodes' : List Node}

theorem nil : Yields locate [] [] := rfl

theorem append (hu : Yields locate u nodes) (hv : Yields locate v nodes') :
    Yields locate (u ++ v) (nodes ++ nodes') := by
  rw [Yields, List.filter_append, List.map_append, List.map_append, hu, hv]

/-- A token that leaves a node. -/
theorem cons {kind : TokenKind} (hkind : token.kind = kind) (hloud : kind.silent = false)
    (hnode : node.trace = (some kind, some (locate token.span))) (hv : Yields locate v nodes) :
    Yields locate (token :: v) (node :: nodes) := by
  subst hkind
  rw [Yields, List.filter_cons, hloud, Bool.not_false, if_pos rfl, List.map_cons, hv, List.map_cons,
    hnode]
  rfl

/-- A token that leaves none. -/
theorem skip {kind : TokenKind} (hkind : token.kind = kind) (hsilent : kind.silent = true)
    (hv : Yields locate v nodes) : Yields locate (token :: v) nodes := by
  subst hkind
  rw [Yields, List.filter_cons, hsilent, Bool.not_true, if_neg Bool.false_ne_true]
  exact hv

/-- A pair of tokens around a word leaves nothing. -/
theorem enclosed {opening closing : Token} {first last : TokenKind} (hopen : opening.kind = first)
    (hfirst : first.silent = true) (hclose : closing.kind = last) (hlast : last.silent = true)
    (hv : Yields locate v nodes) : Yields locate (opening :: (v ++ [closing])) nodes := by
  have h := hv.append (skip hclose hlast nil)
  rw [List.append_nil] at h
  exact skip hopen hfirst h

end Yields

/-! ## Derivations -/

namespace Phrases

variable {g : Setting} {levels : Nat} {word : List Token} {next : TokenKind} {tree : Node}

theorem loud_payload (value : Payload) : value.token.silent = false := by cases value <;> rfl

theorem loud_arithmetic (op : Arithmetic) : op.token.silent = false := by cases op <;> rfl

theorem loud_relation (rel : Relation) : rel.token.silent = false := by cases rel <;> rfl

theorem silent_terminator (surface : Surface) : surface.terminator.silent = true := by
  cases surface <;> rfl

theorem Expression.yields {least : Nat} (h : Expression g least levels word tree) :
    Yields g.locate word tree.inOrder := by
  induction h with
  | leaf hkind => exact .cons hkind (loud_payload _) rfl .nil
  | negate hminus _ ih =>
    exact .cons hminus rfl rfl ih
  | parens hopen _ hclose ih => exact .enclosed hopen rfl hclose rfl ih
  | binary _ hop _ _ ihu ihv =>
    exact ihu.append (.cons hop (loud_arithmetic _) rfl ihv)

theorem Condition.yields (h : Condition g levels word next tree) :
    Yields g.locate word tree.inOrder := by
  induction h with
  | compare hu hrel hv _ =>
    exact hu.yields.append (.cons hrel (loud_relation _) rfl hv.yields)
  | parens hopen _ hclose ih => exact .enclosed hopen rfl hclose rfl ih

theorem Terminator.yields {locate : Span → Location} {surface : Surface} {nodes : List Node}
    {u : List Token} (h : Terminator surface word next) (hu : Yields locate u nodes) :
    Yields locate (u ++ word) nodes := by
  have hword : Yields locate word [] := by
    cases h with
    | taken hkind => exact .skip hkind (silent_terminator surface) .nil
    | ahead _ _ => exact .nil
  have hall := hu.append hword
  rw [List.append_nil] at hall
  exact hall

/-- **A word yields its tree.** -/
theorem Derives.yields {phrase : Phrase} (h : Derives g phrase levels word next tree) :
    Yields g.locate word tree.inOrder := by
  induction h with
  | assignment hname hassign hvalue hend =>
    refine .cons hname rfl rfl ?_
    exact .cons hassign rfl rfl (hend.yields hvalue.yields)
  | expression hvalue hend => exact hend.yields hvalue.yields
  | loop hkey hcond _ ih =>
    exact .cons hkey rfl rfl (hcond.yields.append ih)
  | alone hkey hcond _ _ ih =>
    refine .cons hkey rfl rfl (hcond.yields.append ?_)
    rw [Node.inOrder, List.append_nil]
    exact ih
  | both hkey hcond _ hmiddle _ ihthen ihelse =>
    refine .cons hkey rfl rfl (hcond.yields.append ?_)
    exact ihthen.append (.skip hmiddle rfl ihelse)
  | block hopen _ hclose ih => exact .enclosed hopen rfl hclose rfl ih
  | empty hkind => exact .skip hkind (silent_terminator g.surface) .nil
  | more _ _ ihlist ihtree => exact ihlist.append ihtree
  | none => exact .nil
  | ofConditional _ ih | ofBlock _ ih | bodyStatement _ _ ih | bodyBlock _ _ ih | ofBody _ ih
  | chained _ _ ih | ofStatement _ ih | first _ ih | some _ ih => exact ih

end Phrases

/-! ## Sources -/

variable {surface : Surface} {source : TokenSource} {tree : Node}

/-- The tokens of a source in front of its first end of the file. -/
def TokenSource.tokens (source : TokenSource) : List Token :=
  (source.items.filterMap Except.toOption).takeWhile fun token => token.kind ≠ .endOfFile

/-- Tokens that the grammar does not see leave no nodes. -/
theorem loud_seen {items : List TokenItem} (h : fault? items = none) :
    (seen surface items).filter (fun token => !token.kind.silent) =
      ((items.filterMap Except.toOption).takeWhile fun token => token.kind ≠ .endOfFile).filter
        fun token => !token.kind.silent := by
  induction items with
  | nil => rfl
  | cons item items ih =>
    cases item with
    | error e => cases h
    | ok token =>
      rw [fault?] at h
      rw [List.filterMap_cons, seen]
      dsimp only [Except.toOption]
      by_cases hend : token.kind = .endOfFile
      · rw [if_pos hend, List.takeWhile_cons, hend]
        rfl
      · rw [if_neg hend] at h
        have hne : decide (token.kind ≠ .endOfFile) = true := decide_eq_true hend
        rw [if_neg hend, List.takeWhile_cons, hne, if_pos rfl, List.filter_cons, ← ih h]
        by_cases hskip : surface.Ignores token.kind
        · have hsilent : token.kind.silent = true := by
            rw [hskip.2]
            rfl
          rw [if_pos hskip, hsilent, Bool.not_true, if_neg Bool.false_ne_true]
        · rw [if_neg hskip, List.filter_cons]

/-- Only tokens that leave nodes have a node to leave, and declarations have none. -/
theorem Node.token?_ne (n : Node) : n.token? ≠ some .varWord ∧ n.token? ≠ some .constWord := by
  cases n with
  | leaf value origin => cases value <;> simp [token?, Payload.token]
  | relation rel origin left right => cases rel <;> simp [token?, Relation.token]
  | arithmetic op origin left right => cases op <;> simp [token?, Arithmetic.token]
  | _ => simp [token?]

/-- **No token is lost, doubled or reordered** by a run that gives a tree. The nodes below the
program are the tokens that are not silent, and have their spans if the source locates spans as they
are. -/
theorem tokens_match_nodes {reader : Reader} (hstart : Reader.start surface source = .ok reader)
    (htree : reader.program.1.tree? = some tree) :
    (source.tokens.filter fun token => !token.kind.silent).map
        (fun token => (some token.kind, some (source.locate token.span))) =
      tree.inOrder.map (fun node => (node.token?, node.origin?)) ∧
    ((∀ span, (source.locate span).span = span) →
      (source.tokens.filter fun token => !token.kind.silent).map (fun token => some token.span) =
        tree.inOrder.map fun node => node.origin?.map Location.span) ∧
    ∀ token ∈ source.tokens, token.kind ≠ .varWord ∧ token.kind ≠ .constWord := by
  obtain ⟨hfault, body, hprogram, rfl⟩ := program_of_tree? hstart htree
  have hyields := Derives.yields hprogram
  rw [Yields, loud_seen hfault] at hyields
  refine ⟨hyields, fun hlocate => ?_, fun token htoken => ?_⟩
  · have hspans := congrArg (List.map fun trace => trace.2.map Location.span) hyields
    rw [List.map_map, List.map_map] at hspans
    refine Eq.trans (List.map_congr_left fun token _ => ?_) hspans
    exact congrArg some (hlocate token.span).symm
  by_cases hsilent : token.kind.silent = true
  · constructor <;> intro hkind <;> rw [hkind] at hsilent <;> cases hsilent
  · -- A token that is not silent has a node, and no node is written as a declaration.
    have hmem : token ∈ source.tokens.filter fun token => !token.kind.silent :=
      List.mem_filter.mpr ⟨htoken, by simpa using hsilent⟩
    have htrace := List.mem_map_of_mem (f := Token.trace source.locate) hmem
    have hsame : Token.trace source.locate token ∈ body.inOrder.map Node.trace := hyields ▸ htrace
    obtain ⟨node, -, hnode⟩ := List.mem_map.mp hsame
    have hkind : node.token? = some token.kind := congrArg Prod.fst hnode
    constructor <;> intro h <;> rw [h] at hkind
    · exact node.token?_ne.1 hkind
    · exact node.token?_ne.2 hkind

/-- Reading `a = 1` and what it leaves. -/
theorem tokens_match_nodes_of_assignment :
    let name : Token := ⟨.identifier "a", ⟨1, 1, 2⟩⟩
    let assign : Token := ⟨.assign, ⟨1, 3, 4⟩⟩
    let one : Token := ⟨.integer 1, ⟨1, 5, 6⟩⟩
    let source : TokenSource :=
      ⟨[name, assign, one].map .ok, ⟨1, 6, 6⟩, fun span => ⟨span, "a = 1"⟩⟩
    ∃ reader tree, Reader.start .myrmidon source = .ok reader ∧
      reader.program.1.tree? = some tree ∧
      tree.inOrder.map (fun node => (node.token?, node.origin?.map Location.span)) =
        [(some (.identifier "a"), some ⟨1, 1, 2⟩), (some .assign, some ⟨1, 3, 4⟩),
          (some (.integer 1), some ⟨1, 5, 6⟩)] := by
  intro name assign one source
  have hvalue : Expression (source.setting .myrmidon) 0 maxNesting [one] _ :=
    .leaf (show one.kind = (Payload.integer 1).token from rfl)
  obtain ⟨reader, hstart, hprogram⟩ := @tree_of_program .myrmidon source _ (by simp [source])
    (.some (.first (.ofStatement (.assignment rfl rfl hvalue (.ahead rfl (.inl rfl))))))
  have htree := congrArg Outcome.tree? hprogram
  refine ⟨reader, _, hstart, htree, ?_⟩
  have hmatch := (tokens_match_nodes hstart htree).1
  have hspans := congrArg (List.map fun trace => (trace.1, trace.2.map Location.span)) hmatch
  rw [List.map_map, List.map_map] at hspans
  exact hspans.symm

end TwinSyntax
