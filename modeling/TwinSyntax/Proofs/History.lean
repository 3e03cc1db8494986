import TwinSyntax.Proofs.Origins

/-!
# What a session shows of its history

A session is called many times: to compile a text, and to show what came of the texts before.

**Service** (`Session.serveAll`). A run over any sequence of calls, with the answer to each of them.
Only the texts among the calls leave something behind in the session.

**History** (`Session.Remembers`). What a session holds is a function of the texts that it was
given: the result of the last one that compiled, and the error of the last one if it did not. One
call keeps this (`Remembers.serve`), and so does any number of them.

**Theorem (`session_shows_history`).** Whatever a session was called for, the tree and the lines
that it shows are those of the last text that compiled, its error is that of the last text, and the
nodes of the tree lie on the lines.
-/

namespace TwinSyntax

open Grammar

/-! ## Calls -/

/-- What a session is called for. -/
inductive Session.Call where
  | compile (source : String)
  | tree
  | lines
  | line (number : Nat)
  | lastError

/-- The text that a call hands over. -/
def Session.Call.source? : Session.Call → Option String
  | compile source => some source
  | tree | lines | line _ | lastError => none

/-- What a call is answered with. -/
inductive Session.Answer where
  | compiled (outcome : Except CompileError Unit)
  | tree (tree : Except SessionError Node)
  | lines (lines : Except SessionError (Array String))
  | line (line : Except SessionError String)
  | lastError (error? : Option CompileError)

/-- How a compilation went, if the answer is to one. -/
def Session.Answer.outcome? : Session.Answer → Option (Except CompileError Unit)
  | compiled outcome => some outcome
  | tree _ | lines _ | line _ | lastError _ => none

/-- The error of a compilation that failed. -/
def Session.failure? : Except CompileError Unit → Option CompileError
  | .ok () => none
  | .error e => some e

namespace Session

/-- Answers one call. -/
def serve (session : Session) : Call → Answer × Session
  | .compile source => ((.compiled (session.compile source).1), (session.compile source).2)
  | .tree => (.tree session.tree, session)
  | .lines => (.lines session.lines, session)
  | .line number => (.line (session.line number), session)
  | .lastError => (.lastError session.lastError?, session)

/-- Answers calls one after another. -/
def serveAll (session : Session) : List Call → List Answer × Session
  | [] => ([], session)
  | call :: calls =>
    let (answer, session) := session.serve call
    let (answers, session) := session.serveAll calls
    (answer :: answers, session)

/-- The text that compiled last among `sources`. -/
def lastCompiled? (surface : Surface) (sources : List String) : Option String :=
  (sources.filter fun source => (parse surface source).isOk).getLast?

/-- How the compilation of a text goes. -/
def outcome (surface : Surface) (source : String) : Except CompileError Unit :=
  (parse surface source).map fun _ => ()

/-! ## One call -/

/-- `session` holds what is left of the texts `sources`. -/
structure Remembers (surface : Surface) (sources : List String) (session : Session) : Prop where
  sameSurface : session.surface = surface
  result? : session.result? =
    (lastCompiled? surface sources).bind fun source => (TwinSyntax.compile surface source).toOption
  lastError? : session.lastError? =
    sources.getLast?.bind fun source => failure? (outcome surface source)

variable {surface : Surface} {sources : List String} {session : Session}

theorem remembers_new (surface : Surface) : Remembers surface [] (new surface) := ⟨rfl, rfl, rfl⟩

/-- The two ends of a compilation. -/
theorem compile_cases (session : Session) (source : String) :
    (∃ tree, parse session.surface source = .ok tree ∧ session.compile source =
      (.ok (), { session with result? := some (tree, sourceLines source), lastError? := none })) ∨
    ∃ e, parse session.surface source = .error e ∧
      session.compile source = (.error e, { session with lastError? := some e }) := by
  cases hparse : parse session.surface source with
  | ok tree => exact .inl ⟨tree, rfl, by rw [compile, TwinSyntax.compile, hparse]; rfl⟩
  | error e => exact .inr ⟨e, rfl, by rw [compile, TwinSyntax.compile, hparse]; rfl⟩

/-- A compilation is remembered. -/
theorem Remembers.compile (h : Remembers surface sources session) (source : String) :
    (session.compile source).1 = outcome surface source ∧
      Remembers surface (sources ++ [source]) (session.compile source).2 := by
  obtain ⟨rfl, hresult, -⟩ := h
  rcases session.compile_cases source with ⟨tree, hparse, hrun⟩ | ⟨e, hparse, hrun⟩
  · have hlast : lastCompiled? session.surface (sources ++ [source]) = some source := by
      simp [lastCompiled?, hparse, Except.isOk, Except.toBool]
    rw [hrun]
    refine ⟨by rw [outcome, hparse]; rfl, rfl, ?_, ?_⟩
    · rw [hlast, Option.bind_some, TwinSyntax.compile, hparse]
      rfl
    · rw [List.getLast?_concat, Option.bind_some, outcome, hparse]
      rfl
  · have hlast : lastCompiled? session.surface (sources ++ [source]) =
        lastCompiled? session.surface sources := by
      simp [lastCompiled?, hparse, Except.isOk, Except.toBool]
    rw [hrun]
    refine ⟨by rw [outcome, hparse]; rfl, rfl, hlast ▸ hresult, ?_⟩
    rw [List.getLast?_concat, Option.bind_some, outcome, hparse]
    rfl

/-- **One call** adds its text to what is remembered, and nothing else. -/
theorem Remembers.serve (h : Remembers surface sources session) (call : Call) :
    (session.serve call).1.outcome? = call.source?.map (outcome surface) ∧
      Remembers surface (sources ++ call.source?.toList) (session.serve call).2 := by
  cases call with
  | compile source =>
    obtain ⟨houtcome, hremembers⟩ := h.compile source
    exact ⟨congrArg some houtcome, hremembers⟩
  | tree | lines | line _ | lastError =>
    refine ⟨rfl, ?_⟩
    rw [Call.source?, Option.toList_none, List.append_nil]
    exact h

/-- **Any number of calls** adds their texts. -/
theorem Remembers.serveAll (h : Remembers surface sources session) (calls : List Call) :
    (session.serveAll calls).1.filterMap Answer.outcome? =
        (calls.filterMap Call.source?).map (outcome surface) ∧
      Remembers surface (sources ++ calls.filterMap Call.source?) (session.serveAll calls).2 := by
  induction calls generalizing sources session with
  | nil => exact ⟨rfl, by rw [List.filterMap_nil, List.append_nil]; exact h⟩
  | cons call calls ih =>
    obtain ⟨houtcome, hremembers⟩ := h.serve call
    obtain ⟨houtcomes, hremembers⟩ := ih hremembers
    rw [Session.serveAll, List.filterMap_cons, List.filterMap_cons, houtcome]
    cases hsource : call.source? with
    | none =>
      rw [hsource, Option.toList_none, List.append_nil] at hremembers
      exact ⟨houtcomes, hremembers⟩
    | some source =>
      rw [hsource, Option.toList_some, List.append_assoc] at hremembers
      exact ⟨congrArg _ houtcomes, hremembers⟩

/-! ## What is shown -/

/-- What a session shows that has answered `calls` with `answers`. -/
structure Shows (surface : Surface) (calls : List Call) (answers : List Answer)
    (session : Session) : Prop where
  sameSurface : session.surface = surface
  /-- Nothing is shown before a text has compiled. -/
  nothing : lastCompiled? surface (calls.filterMap Call.source?) = none →
    session.tree = .error .noResult ∧ session.lines = .error .noResult ∧
      ∀ number, session.line number = .error .noResult
  /-- The tree is that of the last text that compiled. -/
  tree {source : String} : lastCompiled? surface (calls.filterMap Call.source?) = some source →
    ∃ tree, parse surface source = .ok tree ∧ session.tree = .ok tree
  /-- The lines are those of the same text. -/
  lines {source : String} : lastCompiled? surface (calls.filterMap Call.source?) = some source →
    session.lines = .ok (sourceLines source)
  /-- A line is one of these. -/
  line {source : String} : lastCompiled? surface (calls.filterMap Call.source?) = some source →
    ∀ number, 1 ≤ number ∧ number ≤ (sourceLines source).size →
      ∃ line, (sourceLines source)[number - 1]? = some line ∧ session.line number = .ok line
  /-- There is no other line. -/
  outOfRange {source : String} :
    lastCompiled? surface (calls.filterMap Call.source?) = some source →
    ∀ number, ¬ (1 ≤ number ∧ number ≤ (sourceLines source).size) →
      session.line number = .error (.lineOutOfRange number (sourceLines source).size)
  /-- The last error is the one that the last compilation was answered with, if it failed. -/
  lastError : session.lastError? = (answers.filterMap Answer.outcome?).getLast?.bind failure?
  /-- A compilation fails if its text has an error, which it is answered with. -/
  outcomes : answers.filterMap Answer.outcome? =
    (calls.filterMap Call.source?).map (outcome surface)
  /-- A compilation that fails changes nothing but the last error. -/
  failed {source : String} {e : CompileError} : parse surface source = .error e →
    session.compile source = (.error e, { session with lastError? := some e })
  /-- A node of the tree lies on the line that it carries. -/
  origins {tree node : Node} : session.tree = .ok tree → node.Within tree → node.kind ≠ .eos →
    ∃ origin, node.origin? = some origin ∧ session.line origin.span.line = .ok origin.lineText

section Shown

variable {tree : Node} {source : String}

/-- A session shows what it holds. -/
theorem shows_of_result?_none (h : session.result? = none) :
    session.tree = .error .noResult ∧ session.lines = .error .noResult ∧
      ∀ number, session.line number = .error .noResult := by
  have hlines : session.lines = .error .noResult := by rw [Session.lines, h]
  refine ⟨by rw [Session.tree, h], hlines, fun number => ?_⟩
  rw [line, hlines]
  rfl

theorem lines_of_result? {lines : Array String} (h : session.result? = some (tree, lines)) :
    session.lines = .ok lines := by
  rw [Session.lines, h]

theorem line_of_result? {lines : Array String} (h : session.result? = some (tree, lines))
    (number : Nat) : session.line number = match lineNumbered? lines number with
      | some line => .ok line
      | none => .error (.lineOutOfRange number lines.size) := by
  rw [line, lines_of_result? h]
  rfl

theorem lineNumbered?_of_pos {lines : Array String} {number : Nat} (h : 1 ≤ number) :
    lineNumbered? lines number = lines[number - 1]? := if_neg (Nat.ne_of_gt h)

theorem lineNumbered?_eq_none {lines : Array String} {number : Nat}
    (h : ¬ (1 ≤ number ∧ number ≤ lines.size)) : lineNumbered? lines number = none := by
  rw [lineNumbered?]
  split
  · rfl
  · rw [Array.getElem?_eq_none_iff]
    omega

/-- What has compiled last was read, and its nodes lie on its lines. -/
theorem origin_of_compile {lines : Array String} {node : Node}
    (h : TwinSyntax.compile surface source = .ok (tree, lines)) (hnode : node.Within tree)
    (hkind : node.kind ≠ .eos) : ∃ origin, node.origin? = some origin ∧ origin.OnLine lines := by
  obtain ⟨rfl, reader, hstart, htree⟩ := compile_eq_ok h
  obtain ⟨-, body, hbody, rfl⟩ := program_of_tree? hstart htree
  cases hnode with
  | root => exact (pointsAt_root source body).line hkind
  | deeper hchild hnode =>
    obtain rfl := List.mem_singleton.mp hchild
    exact (pointsAt_of_within hbody hnode).line hkind

/-- What a session remembers of a text that compiled. -/
theorem Remembers.result_of_compiled (h : Remembers surface sources session)
    (hlast : lastCompiled? surface sources = some source) :
    ∃ tree, parse surface source = .ok tree ∧
      session.result? = some (tree, sourceLines source) := by
  have hmem := List.mem_of_getLast? hlast
  obtain ⟨-, hok⟩ := List.mem_filter.mp hmem
  cases hparse : parse surface source with
  | error e =>
    rw [hparse] at hok
    cases hok
  | ok tree =>
    refine ⟨tree, rfl, ?_⟩
    rw [h.result?, hlast, Option.bind_some, TwinSyntax.compile, hparse]
    rfl

/-- The tree of a session lies on its lines. -/
theorem Remembers.origins (h : Remembers surface sources session) {node : Node}
    (htree : session.tree = .ok tree) (hnode : node.Within tree) (hkind : node.kind ≠ .eos) :
    ∃ origin, node.origin? = some origin ∧ session.line origin.span.line = .ok origin.lineText := by
  cases hlast : lastCompiled? surface sources with
  | none =>
    have hnone : session.result? = none := by rw [h.result?, hlast]; rfl
    rw [(shows_of_result?_none hnone).1] at htree
    cases htree
  | some source =>
    obtain ⟨tree', hparse, hresult⟩ := h.result_of_compiled hlast
    have hcompile : TwinSyntax.compile surface source = .ok (tree', sourceLines source) := by
      rw [TwinSyntax.compile, hparse]
      rfl
    have hsame : session.tree = .ok tree' := by rw [Session.tree, hresult]
    obtain rfl : tree' = tree := by
      rw [hsame] at htree
      exact Except.ok.inj htree
    obtain ⟨origin, horigin, hpos, -, hline⟩ := origin_of_compile hcompile hnode hkind
    refine ⟨origin, horigin, ?_⟩
    rw [line_of_result? hresult, lineNumbered?_of_pos hpos, hline]

/-- A text that does not compile leaves an error. -/
theorem Remembers.failed (h : Remembers surface sources session) {e : CompileError}
    (hparse : parse surface source = .error e) :
    session.compile source = (.error e, { session with lastError? := some e }) := by
  obtain ⟨rfl, -, -⟩ := h
  rcases session.compile_cases source with ⟨tree, hparse', -⟩ | ⟨e', hparse', hrun⟩
  · rw [hparse] at hparse'
    cases hparse'
  · rw [hparse] at hparse'
    cases hparse'
    exact hrun

end Shown

end Session

/-- **A session shows its history.** Take any calls, in any order, to a new session of some surface.
The tree and the lines that it shows behind them come from the same text, the last one that
compiled; the error is the one that the last compilation was answered with, or none; and every node
of the tree that comes from a place in a text carries the line that the session shows for it. -/
theorem session_shows_history (surface : Surface) (calls : List Session.Call) :
    ((Session.new surface).serveAll calls).2.Shows surface calls
      ((Session.new surface).serveAll calls).1 := by
  obtain ⟨houtcomes, h⟩ := (Session.remembers_new surface).serveAll calls
  rw [List.nil_append] at h
  exact {
    sameSurface := h.sameSurface
    nothing := fun hlast => Session.shows_of_result?_none (by rw [h.result?, hlast]; rfl)
    tree := fun hlast => by
      obtain ⟨tree, hparse, hresult⟩ := h.result_of_compiled hlast
      exact ⟨tree, hparse, by rw [Session.tree, hresult]⟩
    lines := fun hlast => by
      obtain ⟨tree, -, hresult⟩ := h.result_of_compiled hlast
      exact Session.lines_of_result? hresult
    line := fun {source} hlast number hrange => by
      obtain ⟨tree, -, hresult⟩ := h.result_of_compiled hlast
      have hlt : number - 1 < (sourceLines source).size := by omega
      have hline := Array.getElem?_eq_getElem hlt
      refine ⟨_, hline, ?_⟩
      rw [Session.line_of_result? hresult, Session.lineNumbered?_of_pos hrange.1, hline]
    outOfRange := fun hlast number hrange => by
      obtain ⟨tree, -, hresult⟩ := h.result_of_compiled hlast
      rw [Session.line_of_result? hresult, Session.lineNumbered?_eq_none hrange]
    lastError := by
      rw [houtcomes, h.lastError?, List.getLast?_map]
      cases (calls.filterMap Session.Call.source?).getLast? <;> rfl
    outcomes := houtcomes
    failed := h.failed
    origins := h.origins }

end TwinSyntax
