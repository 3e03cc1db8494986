import TwinSyntax.Proofs.Lossless
import TwinSyntax.Proofs.Shapes
import TwinSyntax.Proofs.SourceOrder
import TwinSyntax.Session

/-!
# What the nodes of a tree point at

**Theorem (`compile_points_at_text`).** Whatever compiles, every node of the tree carries the line
of the text that it comes from, and the columns of its span hold its operator, its keyword or its
value.

Lines and columns are counted twice. Scanning counts columns along the raw text, while lines are cut
out of it and lose a carriage return at their end. The two agree because a token is never blank: the
carriage return that is lost stands behind every token of its line (`sourceLine_of_covers`).
-/

namespace TwinSyntax

open Grammar Phrases

/-! ## Lines -/

/-- A carriage return at the end of a line is behind whatever does not end with one. -/
theorem dropCarriageReturn_append {front : List Char} (hfront : front.getLast? ≠ some '\r')
    (rest : List Char) :
    dropCarriageReturn (front ++ rest) = front ++ dropCarriageReturn rest := by
  by_cases hrest : rest = []
  · subst hrest
    rw [List.append_nil, dropCarriageReturn, if_neg hfront]
    exact (List.append_nil front).symm
  · have hlast : (front ++ rest).getLast? = rest.getLast? := by
      rw [List.getLast?_append, List.getLast?_eq_some_getLast hrest, Option.some_or]
    rw [dropCarriageReturn, dropCarriageReturn, hlast]
    split
    · exact List.dropLast_append_of_ne_nil hrest
    · rfl

theorem lineNumbered?_sourceLines (source : String) (index : Nat) :
    lineNumbered? (sourceLines source) (index + 1) =
      (breakLines source.toList)[index]?.map fun line =>
        String.ofList (dropCarriageReturn line) := by
  simp [lineNumbered?, sourceLines]

variable {source : String} {before taken : List Char} {item : TokenItem} {items : List TokenItem}

/-- The line of an item has the item in it, where its columns say. -/
theorem sourceLine_of_covers {after : List Char}
    (hsource : source.toList = before ++ (taken ++ after)) (h : Covers item before taken)
    (hbreak : '\n' ∉ taken) : ∃ rest, lineNumbered? (sourceLines source) item.span.line =
      some (String.ofList (lastLine before ++ (taken ++ rest))) := by
  have hline : (taken ++ after).takeWhile (· ≠ '\n') = taken ++ after.takeWhile (· ≠ '\n') := by
    refine List.takeWhile_append_of_pos ?_
    intro c hc
    have hne : c ≠ '\n' := ne_of_mem_of_not_mem hc hbreak
    simpa using hne
  have hreturn : (lastLine before ++ taken).getLast? ≠ some '\r' := by
    rw [List.getLast?_append, List.getLast?_eq_some_getLast h.filled, Option.some_or]
    intro hlast
    have hsolid := h.solid _ (List.getLast_mem h.filled)
    rw [Option.some.inj hlast] at hsolid
    exact hsolid (by decide)
  refine ⟨dropCarriageReturn (after.takeWhile (· ≠ '\n')), ?_⟩
  have hindex : item.span.line = before.count '\n' + 1 := by
    rw [h.span]
    rfl
  rw [hindex, lineNumbered?_sourceLines, hsource, getElem?_breakLines, hline, ← List.append_assoc,
    Option.map_some, dropCarriageReturn_append hreturn, List.append_assoc]

/-! ## Tokens -/

/-- The characters of its line that a location is about. -/
def Location.text (location : Location) : List Char :=
  (location.lineText.toList.drop (location.span.colStart - 1)).take
    (location.span.colEnd - location.span.colStart)

/-- `location` is on one of the lines `lines`, which it has the text of. -/
def Location.OnLine (lines : Array String) (location : Location) : Prop :=
  1 ≤ location.span.line ∧ location.span.line ≤ lines.size ∧
    lines[location.span.line - 1]? = some location.lineText

/-- The columns of a location are columns of its line, and hold a token of the kind `kind`. -/
def Location.Reads (location : Location) (kind : TokenKind) : Prop :=
  1 ≤ location.span.colStart ∧ location.span.colStart < location.span.colEnd ∧
    location.span.colEnd - 1 ≤ location.lineText.length ∧ Spells location.text kind

/-- A span on a line that exists is located there. -/
theorem locate_onLine {lines : Array String} {span : Span} {line : String}
    (h : lineNumbered? lines span.line = some line) :
    locate lines span = ⟨span, line⟩ ∧ (locate lines span).OnLine lines := by
  have hlocate : locate lines span = ⟨span, line⟩ := by
    rw [locate, h]
    rfl
  refine ⟨hlocate, ?_⟩
  rw [lineNumbered?] at h
  split at h
  · cases h
  · next hzero =>
    obtain ⟨hsize, -⟩ := Array.getElem?_eq_some_iff.mp h
    have hle : span.line ≤ lines.size := by omega
    rw [hlocate]
    exact ⟨Nat.pos_of_ne_zero hzero, hle, h⟩

/-- Only the end of a line is spelled with a line break. -/
theorem endOfLine_of_spells_break {kind : TokenKind} (h : Spells ['\n'] kind) :
    kind = .endOfLine := by
  cases kind with
  | endOfLine => rfl
  | integer value =>
    obtain ⟨-, hdigits, -⟩ := h
    exact absurd (hdigits '\n' List.mem_cons_self) (by decide)
  | number value => exact absurd (Lexeme.mark_of_spells h) (by decide)
  | identifier name =>
    obtain ⟨-, ⟨c, rest, hname, hc, -⟩, -⟩ := h
    cases hname
    exact absurd hc (by decide)
  | _ => exact absurd h (by simp [Spells, TokenKind.spelling?, String.ext_iff])

/-- **A token of a text can be read where it is located.** -/
theorem reads_of_mem_lex {token : Token} (htoken : .ok token ∈ (lex source).items)
    (hkind : token.kind ≠ .endOfLine) :
    (locate (sourceLines source) token.span).OnLine (sourceLines source) ∧
      (locate (sourceLines source) token.span).Reads token.kind := by
  obtain ⟨gap, taken, after, hsource, hcovers⟩ := (lex_lexed source).1.covers htoken
  rw [List.nil_append] at hcovers
  have hspells := hcovers.spells token rfl
  have hspan : token.span = spanAfter gap taken := hcovers.span
  have hbreak : '\n' ∉ taken := by
    rcases hcovers.oneLine with rfl | h
    · exact absurd (endOfLine_of_spells_break hspells) hkind
    · exact h
  obtain ⟨rest, hline⟩ := sourceLine_of_covers hsource hcovers hbreak
  have hline : lineNumbered? (sourceLines source) token.span.line = _ := hline
  obtain ⟨hlocate, honLine⟩ := locate_onLine hline
  refine ⟨honLine, ?_⟩
  have hpos := List.length_pos_iff.mpr hcovers.filled
  have htext :
      Location.text ⟨token.span, String.ofList (lastLine gap ++ (taken ++ rest))⟩ = taken := by
    simp [Location.text, hspan, spanAfter, columnAfter]
  rw [hlocate, Location.Reads, htext, hspan]
  refine ⟨?_, ?_, ?_, hspells⟩
  · exact Nat.succ_pos _
  · exact Nat.lt_add_of_pos_right hpos
  · simp [spanAfter, columnAfter]

/-! ## Nodes -/

namespace Node

/-- Only programs and sentinels have no token. -/
theorem token?_ne_none {n : Node} (hsentinel : n.kind ≠ .eos) (hprogram : n.kind ≠ .program) :
    ∃ kind, n.token? = some kind := by
  cases n with
  | eos | sequence => exact absurd rfl hsentinel
  | program => exact absurd rfl hprogram
  | _ => exact ⟨_, rfl⟩

theorem mem_inOrder_of_children {n child tree : Node} (hchild : child ∈ tree.children)
    (hn : n ∈ child.inOrder) : n ∈ tree.inOrder := by
  cases tree <;> simp [children] at hchild <;> simp [inOrder] <;> grind

/-- Every tree with a token is among those in source order. -/
theorem Within.mem_inOrder {n tree : Node} (h : n.Within tree) {kind : TokenKind}
    (htoken : n.token? = some kind) : n ∈ tree.inOrder := by
  induction h with
  | root =>
    cases n with
    | eos | sequence | program => cases htoken
    | _ => simp [inOrder]
  | deeper hchild _ ih => exact mem_inOrder_of_children hchild ih

end Node

/-- A node that a word yields comes from a token of the word. -/
theorem Yields.mem {locate : Span → Location} {word : List Token} {nodes : List Node} {n : Node}
    (h : Yields locate word nodes) (hn : n ∈ nodes) :
    ∃ token ∈ word, token.kind.silent = false ∧
      n.token? = some token.kind ∧ n.origin? = some (locate token.span) := by
  have htrace : n.trace ∈ nodes.map Node.trace := List.mem_map_of_mem hn
  rw [← h] at htrace
  obtain ⟨token, htoken, heq⟩ := List.mem_map.mp htrace
  obtain ⟨hword, hloud⟩ := List.mem_filter.mp htoken
  refine ⟨token, hword, ?_, ?_, ?_⟩
  · simpa using hloud
  · exact (congrArg Prod.fst heq).symm
  · exact (congrArg Prod.snd heq).symm

/-- What is seen of a source is in it. -/
theorem mem_of_mem_seen {surface : Surface} {token : Token} (h : token ∈ seen surface items) :
    .ok token ∈ items := by
  induction items with
  | nil => cases h
  | cons item items ih =>
    cases item with
    | error e => cases h
    | ok first =>
      rw [seen] at h
      split at h
      · cases h
      split at h
      · exact List.mem_cons_of_mem _ (ih h)
      · rcases List.mem_cons.mp h with rfl | h
        · exact List.mem_cons_self
        · exact List.mem_cons_of_mem _ (ih h)

/-- What the location of `n` says about a text with the lines `lines`. -/
structure Node.PointsAt (lines : Array String) (n : Node) : Prop where
  /-- A sentinel comes from nowhere. -/
  sentinel : n.kind = .eos → n.origin? = none
  /-- Everything else comes from one of the lines, and carries it. -/
  line : n.kind ≠ .eos → ∃ origin, n.origin? = some origin ∧ origin.OnLine lines
  /-- A program comes from the beginning of the text. -/
  program {origin : Location} :
    n.kind = .program → n.origin? = some origin → origin.span = ⟨1, 1, 1⟩
  /-- Any other node can be read where it comes from. -/
  reads {origin : Location} :
    n.kind ≠ .program → n.origin? = some origin → ∃ kind, n.token? = some kind ∧ origin.Reads kind

/-- What is below a program comes from a token of its text, sentinels apart. -/
theorem exists_token_of_within {surface : Surface} {body n : Node}
    (hbody : Program ((lex source).setting surface) maxNesting
      (seen surface (lex source).items) body) (hn : n.Within body) (hsentinel : n.kind ≠ .eos) :
    ∃ token, .ok token ∈ (lex source).items ∧ token.kind ≠ .endOfLine ∧
      n.token? = some token.kind ∧ n.origin? = some (locate (sourceLines source) token.span) := by
  have hpart : n.IsPart := Node.IsPart.within (.inl hbody.isStatement) hn
  obtain ⟨kind, hkind⟩ := Node.token?_ne_none hsentinel hpart.kind_ne
  obtain ⟨token, hmem, hloud, htoken, horigin⟩ := (Derives.yields hbody).mem (hn.mem_inOrder hkind)
  refine ⟨token, mem_of_mem_seen hmem, ?_, htoken, horigin⟩
  intro h
  rw [h] at hloud
  cases hloud

/-- What is below a program that was read from a text points at the text. -/
theorem pointsAt_of_within {surface : Surface} {body n : Node}
    (hbody : Program ((lex source).setting surface) maxNesting
      (seen surface (lex source).items) body) (hn : n.Within body) :
    n.PointsAt (sourceLines source) := by
  have hpart : n.IsPart := Node.IsPart.within (.inl hbody.isStatement) hn
  have hprogram := hpart.kind_ne
  by_cases hsentinel : n.kind = .eos
  · have horigin := n.origin?_eq_none.mpr hsentinel
    refine ⟨fun _ => horigin, fun h => absurd hsentinel h, fun h => absurd h hprogram, ?_⟩
    intro origin _ hsome
    rw [horigin] at hsome
    cases hsome
  · obtain ⟨token, hmem, hbreak, htoken, horigin⟩ := exists_token_of_within hbody hn hsentinel
    obtain ⟨honLine, hreads⟩ := reads_of_mem_lex hmem hbreak
    refine ⟨fun h => absurd h hsentinel, fun _ => ⟨_, horigin, honLine⟩,
      fun h => absurd h hprogram, ?_⟩
    intro origin _ hsome
    rw [horigin] at hsome
    cases hsome
    exact ⟨token.kind, htoken, hreads⟩

/-- The root of a program points at the beginning of the text. -/
theorem pointsAt_root (source : String) (body : Node) :
    (Node.program (locate (sourceLines source) ⟨1, 1, 1⟩) body).PointsAt (sourceLines source) := by
  obtain ⟨line, hline⟩ : ∃ line, lineNumbered? (sourceLines source) 1 = some line := by
    rw [lineNumbered?_sourceLines, getElem?_breakLines_zero]
    exact ⟨_, rfl⟩
  refine ⟨nofun, fun _ => ⟨_, rfl, (locate_onLine hline).2⟩, ?_, fun h => absurd rfl h⟩
  intro origin _ horigin
  cases horigin
  rfl

theorem Outcome.tree?_of_result {o : Outcome} {tree : Node} (h : o.result = .ok tree) :
    o.tree? = some tree := by
  unfold result at h
  split at h <;> cases h
  assumption

/-- What compiles was read from its tokens, and its lines are those of the text. -/
theorem compile_eq_ok {surface : Surface} {tree : Node} {lines : Array String}
    (h : compile surface source = .ok (tree, lines)) :
    lines = sourceLines source ∧ ∃ reader, Reader.start surface (lex source) = .ok reader ∧
      reader.program.1.tree? = some tree := by
  rw [compile, parse] at h
  cases hstart : Reader.start surface (lex source) with
  | error e =>
    rw [hstart] at h
    cases h
  | ok reader =>
    rw [hstart] at h
    dsimp only at h
    cases hresult : reader.program.1.result with
    | error e =>
      rw [hresult] at h
      cases h
    | ok tree' =>
      rw [hresult] at h
      cases h
      exact ⟨rfl, reader, rfl, Outcome.tree?_of_result hresult⟩

theorem parse_of_compile_error {surface : Surface} {e : CompileError}
    (h : compile surface source = .error e) : parse surface source = .error e := by
  rw [compile] at h
  cases hparse : parse surface source with
  | error e' =>
    rw [hparse] at h
    cases h
    rfl
  | ok tree =>
    rw [hparse] at h
    cases h

/-- **Locations point at the text they name.** In the tree of a text that compiles, every node but a
sentinel carries a line of the text. The program is at its beginning, and the columns of any other
node are columns of its line that spell what the node is. -/
theorem compile_points_at_text {surface : Surface} {source : String} {tree : Node}
    {lines : Array String} (h : compile surface source = .ok (tree, lines)) {n : Node}
    (hn : n.Within tree) : n.PointsAt lines := by
  obtain ⟨rfl, reader, hstart, htree⟩ := compile_eq_ok h
  obtain ⟨-, body, hbody, rfl⟩ := program_of_tree? hstart htree
  cases hn with
  | root => exact pointsAt_root source body
  | deeper hchild hn =>
    obtain rfl := List.mem_singleton.mp hchild
    exact pointsAt_of_within hbody hn

/-- Compiling a text with a tab in front, and carriage returns inside and at the end of a line. -/
theorem compile_points_at_text_of_blanks :
    ∃ tree lines, compile .myrmidon "\ta =\r-1.50\r\n\rb" = .ok (tree, lines) ∧
      ∀ n : Node, n.Within tree → n.PointsAt lines := by
  have hrun : (compile .myrmidon "\ta =\r-1.50\r\n\rb").toOption.isSome := by decide +kernel
  cases hcompile : compile .myrmidon "\ta =\r-1.50\r\n\rb" with
  | error e =>
    rw [hcompile] at hrun
    cases hrun
  | ok result =>
    exact ⟨result.1, result.2, rfl, fun n hn => compile_points_at_text hcompile hn⟩

end TwinSyntax
