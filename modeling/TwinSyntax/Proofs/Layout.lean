import TwinSyntax.Proofs.Lockstep
import TwinSyntax.Proofs.Wordwise

/-!
# Layout

How wide the gaps between lexemes are, and what they are made of, plays no part. In `sml` line
breaks belong to the gaps, and in `myrmidon` they do not.

**Texts** (`Relaid`). Gaps are exchanged for other gaps; none appears and none is closed.

**Tokens** (`visible_lexFrom`). The grammar sees the same tokens and lexical errors in both texts,
at other places. How a lexeme is read does not depend on what stands behind it (`Wordwise.scan`),
and a line break that is layout is a token that the grammar never sees.

**Theorem (`outcome_relaid`).** Both texts have the same tree but for its locations, or as many
diagnostics, which differ in their places only. Since the places of tokens never decide anything, it
follows from `Likeness.Items.outcome`.
-/

namespace TwinSyntax

open Grammar

/-! ## Texts -/

/-- Whether `c` only keeps lexemes apart. -/
def Surface.IsLayout (surface : Surface) (c : Char) : Prop :=
  Lexeme.Blank c ∨ c = '\n' ∧ surface = .sml

instance (surface : Surface) (c : Char) : Decidable (surface.IsLayout c) :=
  inferInstanceAs (Decidable (_ ∨ _ ∧ _))

/-- Stretches of layout are exchanged for other ones. -/
inductive Relaid (surface : Surface) : List Char → List Char → Prop
  | nil : Relaid surface [] []
  | keep {c : Char} {text text' : List Char} :
      Relaid surface text text' → Relaid surface (c :: text) (c :: text')
  | gap {gap gap' text text' : List Char} :
      gap ≠ [] → gap' ≠ [] → (∀ c ∈ gap, surface.IsLayout c) → (∀ c ∈ gap', surface.IsLayout c) →
      Relaid surface text text' → Relaid surface (gap ++ text) (gap' ++ text')

variable {surface : Surface} {text text' : List Char} {c : Char}

theorem Surface.IsLayout.not_solid (h : surface.IsLayout c) : ¬ Lexeme.Solid c := by
  rcases h with hblank | ⟨rfl, -⟩
  · exact Lexeme.not_solid_of_blank hblank
  · exact Lexeme.not_solid_break

theorem stops_of_layout {gap : List Char} (hne : gap ≠ []) (hgap : ∀ c ∈ gap, surface.IsLayout c)
    (text : List Char) : Lexeme.Stops (gap ++ text) :=
  Lexeme.stops_append (fun c hc => (hgap c hc).not_solid) (.inl hne)

theorem wordwise_relaid (surface : Surface) : Lexeme.Wordwise (Relaid surface) := by
  intro text text' h
  cases h with
  | nil => exact .stop .nil .nil
  | @keep c text text' h =>
    by_cases hc : Lexeme.Solid c
    · exact .solid hc h
    · exact .stop (.cons hc) (.cons hc)
  | gap hne hne' hgap hgap' _ =>
    exact .stop (stops_of_layout hne hgap _) (stops_of_layout hne' hgap' _)

/-! ## Tokens -/

/-- What an item reads as, wherever it stands. -/
def TokenItem.reading : TokenItem → Except LexFault TokenKind
  | .ok token => .ok token.kind
  | .error e => .error e.fault

@[simp] theorem Lexeme.reading_item (lexeme : Lexeme) (line column : Nat) :
    (lexeme.item line column).reading = lexeme.reading := by
  rw [item]
  cases lexeme.reading <;> rfl

/-- What the grammar sees of items, wherever they stand. -/
def visible (surface : Surface) (items : Array TokenItem) : List (Except LexFault TokenKind) :=
  (items.toList.filter (sees surface)).map TokenItem.reading

theorem sees_eq_of_reading {item item' : TokenItem} (h : item.reading = item'.reading) :
    sees surface item = sees surface item' := by
  cases item with
  | ok token =>
    cases item' with
    | ok token' =>
      have hkind : token.kind = token'.kind := Except.ok.inj h
      rw [sees, sees, hkind]
    | error e => cases h
  | error e =>
    cases item' with
    | ok token => cases h
    | error e' => rfl

section Push

variable {items items' : Array TokenItem} {item item' : TokenItem}

theorem visible_push_of_skipped (h : sees surface item = false) :
    visible surface (items.push item) = visible surface items := by
  simp [visible, h]

theorem visible_push (hitem : item.reading = item'.reading)
    (h : visible surface items = visible surface items') :
    visible surface (items.push item) = visible surface (items'.push item') := by
  have hsees : sees surface item = sees surface item' := sees_eq_of_reading hitem
  cases hitem' : sees surface item' with
  | false => rw [visible_push_of_skipped hitem', visible_push_of_skipped (hsees.trans hitem'), h]
  | true =>
    unfold visible at *
    simp [hsees.trans hitem', hitem', h, hitem]

end Push

/-- One character of layout is scanned, and nothing becomes visible. -/
theorem visible_layout (hc : surface.IsLayout c) (line column : Nat) (text : List Char)
    (items : Array TokenItem) :
    ∃ line' column' items', visible surface items' = visible surface items ∧
      lexFrom line column (c :: text) items = lexFrom line' column' text items' := by
  rw [lexFrom]
  split
  · exact ⟨_, _, _, rfl, rfl⟩
  · next hblank =>
    obtain ⟨rfl, hsml⟩ := hc.resolve_left (mt Lexeme.isBlank_iff.mpr hblank)
    have hscan : Lexeme.scan '\n' text = ⟨.ok .endOfLine, 1, text⟩ := rfl
    rw [hscan]
    exact ⟨_, _, _, visible_push_of_skipped (by simp [Lexeme.item, sees, Surface.Ignores, hsml]),
      if_pos rfl⟩

theorem visible_gap {gap : List Char} (hgap : ∀ c ∈ gap, surface.IsLayout c) (line column : Nat)
    (text : List Char) (items : Array TokenItem) :
    ∃ line' column' items', visible surface items' = visible surface items ∧
      lexFrom line column (gap ++ text) items = lexFrom line' column' text items' := by
  induction gap generalizing line column items with
  | nil => exact ⟨_, _, _, rfl, rfl⟩
  | cons c gap ih =>
    obtain ⟨hc, hgap⟩ := List.forall_mem_cons.mp hgap
    obtain ⟨line₁, column₁, items₁, hvisible₁, hrun₁⟩ :=
      visible_layout hc line column (gap ++ text) items
    obtain ⟨line₂, column₂, items₂, hvisible₂, hrun₂⟩ := ih hgap line₁ column₁ items₁
    exact ⟨line₂, column₂, items₂, hvisible₂.trans hvisible₁, hrun₁.trans hrun₂⟩

/-- **In texts of different layout**, the grammar sees the same. -/
theorem visible_lexFrom (h : Relaid surface text text') {line column line' column' : Nat}
    {items items' : Array TokenItem} (hitems : visible surface items = visible surface items') :
    visible surface (lexFrom line column text items).1 =
      visible surface (lexFrom line' column' text' items').1 := by
  -- not by induction on `Relaid`: a lexeme takes several characters that are kept
  induction hn : text.length using Nat.strongRecOn generalizing text text' line column line' column'
    items items' with
  | ind n ih =>
    cases h with
    | nil =>
      rw [lexFrom, lexFrom]
      exact hitems
    | @gap gap gap' text text' hne _ hgap hgap' h =>
      obtain ⟨line₁, column₁, items₁, hvisible, hrun⟩ := visible_gap hgap line column text items
      obtain ⟨line₂, column₂, items₂, hvisible', hrun'⟩ :=
        visible_gap hgap' line' column' text' items'
      have hpos := List.length_pos_iff.mpr hne
      rw [List.length_append] at hn
      rw [hrun, hrun']
      exact ih text.length (by omega) h (hvisible.trans (hitems.trans hvisible'.symm)) rfl
    | @keep c text text' h =>
      obtain ⟨hreading, hwidth, hrest⟩ := (wordwise_relaid surface).scan c h
      have hshorter := Lexeme.length_rest_scan_le c text
      rw [List.length_cons] at hn
      rw [lexFrom, lexFrom]
      dsimp only
      split
      · exact ih text.length (by omega) h hitems rfl
      · have hpushed : visible surface (items.push ((Lexeme.scan c text).item line column)) =
            visible surface (items'.push ((Lexeme.scan c text').item line' column')) :=
          visible_push (by rw [Lexeme.reading_item, Lexeme.reading_item, hreading]) hitems
        split <;> exact ih _ (by omega) hrest hpushed rfl

/-! ## Outcomes -/

/-- `e'` is `e` at another place, and is shown with the same text behind its place. -/
def CompileError.Moved (e e' : CompileError) : Prop :=
  ∃ (span span' : Span) (text : String), e' = e.moveTo span' ∧
    e.message = span.render ++ ": " ++ text ∧ e'.message = span'.render ++ ": " ++ text

/-- Nothing of a location is compared. -/
def nowhere (_ : Location) : Location := ⟨⟨0, 0, 0⟩, ""⟩

/-- Tokens correspond if they are of the same kind. -/
def Grammar.Likeness.ofKind (g g' : Setting) : Likeness g g' where
  token t t' := t'.kind = t.kind
  place := nowhere
  kind h := h
  placed _ _ := rfl

theorem moved_of_error {g g' : Setting} {e e' : CompileError}
    (h : (Likeness.ofKind g g').Error (fun e e' => e'.fault = e.fault) e e') : e.Moved e' := by
  cases h with
  | @lexical e e' hfault =>
    refine ⟨e.span, e'.span, e.fault.text, ?_, rfl, ?_⟩
    · rw [CompileError.moveTo, ← hfault]
    · exact congrArg (fun fault : LexFault => e'.span.render ++ ": " ++ fault.text) hfault
  | @grammatical t t' fault _ => exact ⟨t.span, t'.span, fault.text, rfl, rfl, rfl⟩

/-- Items that read the same correspond. -/
theorem item_of_reading {g g' : Setting} {item item' : TokenItem}
    (h : item.reading = item'.reading) :
    (Likeness.ofKind g g').Item (fun e e' => e'.fault = e.fault) item item' := by
  cases item with
  | ok token =>
    cases item' with
    | ok token' => exact .token (Except.ok.inj h).symm
    | error e' => cases h
  | error e =>
    cases item' with
    | ok token' => cases h
    | error e' => exact .error (Except.error.inj h).symm

/-- **Layout does not change meaning.** -/
theorem outcome_relaid {source source' : String} (h : Relaid surface source.toList source'.toList) :
    Correspond nowhere CompileError.Moved ((lex source).outcome surface)
      ((lex source').outcome surface) := by
  have hvisible : visible surface (lexFrom 1 1 source.toList #[]).1 =
      visible surface (lexFrom 1 1 source'.toList #[]).1 := visible_lexFrom h rfl
  have hequal := (congrFun (congrFun List.forall₂_eq_eq_eq _) _).mpr hvisible
  rw [visible, visible, List.forall₂_map_left_iff, List.forall₂_map_right_iff] at hequal
  have hitems :
      (Likeness.ofKind ((lex source).setting surface) ((lex source').setting surface)).Items
      (fun e e' => e'.fault = e.fault) (lex source).items (lex source').items :=
    hequal.imp fun _ _ => item_of_reading
  have hend : (Likeness.ofKind ((lex source).setting surface) ((lex source').setting surface)).token
      (lex source).endToken (lex source').endToken := rfl
  exact (hitems.outcome hend rfl).mono fun _ _ => moved_of_error

/-- A semicolon on a line of its own, and a gap in front of it that was a tab. -/
theorem outcome_relaid_of_break :
    let source := "x =\t1 ;"
    let source' := "x\r\n= 1\n\n;"
    Relaid .sml source.toList source'.toList ∧ ((lex source).outcome .sml).tree?.isSome ∧
      Correspond nowhere CompileError.Moved ((lex source).outcome .sml)
        ((lex source').outcome .sml) := by
  intro source source'
  have hrelaid : Relaid .sml source.toList source'.toList := by
    have hsource :
        source.toList = 'x' :: ([' '] ++ '=' :: (['\t'] ++ '1' :: ([' '] ++ [';']))) := by
      decide +kernel
    have hsource' : source'.toList =
      'x' :: (['\r', '\n'] ++ '=' :: ([' '] ++ '1' :: (['\n', '\n'] ++ [';']))) := by decide +kernel
    rw [hsource, hsource']
    have hlayout : ∀ c, c = ' ' ∨ c = '\t' ∨ c = '\r' ∨ c = '\n' → Surface.sml.IsLayout c := by
      simp [Surface.IsLayout, Lexeme.Blank]
    have hspace : ∀ c ∈ [' '], Surface.sml.IsLayout c := by simp [hlayout]
    have htab : ∀ c ∈ ['\t'], Surface.sml.IsLayout c := by simp [hlayout]
    have hreturn : ∀ c ∈ ['\r', '\n'], Surface.sml.IsLayout c := by simp [hlayout]
    have hbreaks : ∀ c ∈ ['\n', '\n'], Surface.sml.IsLayout c := by simp [hlayout]
    have hne : ∀ (c : Char) (gap : List Char), c :: gap ≠ [] := List.cons_ne_nil
    exact .keep (.gap (hne _ _) (hne _ _) hspace hreturn (.keep (.gap (hne _ _) (hne _ _) htab
      hspace (.keep (.gap (hne _ _) (hne _ _) hspace hbreaks (.keep .nil))))))
  exact ⟨hrelaid, by decide +kernel, outcome_relaid hrelaid⟩

end TwinSyntax
