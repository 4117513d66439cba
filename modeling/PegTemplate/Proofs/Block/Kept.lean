import PegTemplate.Proofs.Block.LineByLine

/-!
# What a function keeps of the literals of its block

* `texts?`, `statements?` : what the literals of some code denote, and the statements of code wherever its lines start;
* `Retold.texts_eq_iff`, `Retold.lexemes_eq` : when the tokens of relaid lines have the same texts, they are the same;
* `Block.Written` : a block is the code of a function as it stands, apart from the indentation of its lines;
* `Block.texts_kept_iff` : **the function of a block has the texts of the block if relaying its literals changes none of
  them, and only then; and then it is the function that is written.**
-/

namespace PegTemplate
open Unicode

variable {n column narrow : Nat}

/-! ## Texts and statements -/

/-- What a token denotes that is a text. -/
def Lexeme.text? : Lexeme → Option String
  | text s => some s
  | _ => none

/-- What the literals of some code denote, in order. -/
def texts? (code : List Char) : Option (List String) := (lexemes? code).map (·.filterMap Lexeme.text?)

/-- The token, or the start of a line of code at another place. -/
def Lexeme.movedTo (column narrow : Nat) : Lexeme → Lexeme
  | line .. => .line column narrow
  | l => l

namespace Retold

variable {raws : List (List Char)} {ls ls' : List Lexeme}

/-- The texts are what the literals denote, before and after. -/
theorem texts (h : Retold n column narrow raws ls ls') :
    (ls.filterMap Lexeme.text?).map some = raws.map literalValue? ∧
      (ls'.filterMap Lexeme.text?).map some = raws.map fun raw => literalValue? (relaid n raw) := by
  induction h with
  | nil => exact ⟨rfl, rfl⟩
  | text hv hv' h ih =>
    rw [List.map_cons, List.map_cons, hv, hv', ← ih.1, ← ih.2]
    exact ⟨rfl, rfl⟩
  | line c k h ih => exact ih
  | name x h ih => exact ih
  | number x h ih => exact ih
  | mark c h ih => exact ih

/-- Nothing but the margins changes if all literals go on denoting the same. -/
theorem lexemes_eq (h : Retold n column narrow raws ls ls')
    (hsame : ∀ raw ∈ raws, literalValue? (relaid n raw) = literalValue? raw) :
    ls' = ls.map (Lexeme.movedTo column narrow) := by
  induction h with
  | nil => rfl
  | @text raws ls ls' raw v v' hv hv' h ih =>
    have hvalue := hsame raw List.mem_cons_self
    rw [hv, hv'] at hvalue
    cases hvalue
    rw [ih fun raw hraw => hsame raw (List.mem_cons_of_mem _ hraw)]
    rfl
  | line c k h ih => rw [ih hsame]; rfl
  | name x h ih => rw [ih hsame]; rfl
  | number x h ih => rw [ih hsame]; rfl
  | mark c h ih => rw [ih hsame]; rfl

/-- The texts are the same before and after if each literal goes on denoting the same, and only then. -/
theorem texts_eq_iff (h : Retold n column narrow raws ls ls') :
    ls'.filterMap Lexeme.text? = ls.filterMap Lexeme.text? ↔
      ∀ raw ∈ raws, literalValue? (relaid n raw) = literalValue? raw := by
  obtain ⟨hbefore, hafter⟩ := h.texts
  constructor
  · intro heq
    rw [heq, hbefore] at hafter
    exact fun raw hraw => (List.map_inj_left.mp hafter raw hraw).symm
  · intro hsame
    have hmap := List.map_congr_left hsame
    rw [← hbefore, ← hafter] at hmap
    exact (List.map_inj_right fun _ _ => Option.some.inj).mp hmap

end Retold

/-- The statements of some code, wherever its lines start. -/
def statements? (code : List Char) : Option (List Statement) := do
  let lines := codeLines (← lexemes? code)
  if lines.isEmpty || code.contains '\x00' then none
  else return (← lines.mapM fun l => lineStatements? l.lexemes).flatten

theorem startsLine_movedTo (l : Lexeme) : (l.movedTo column narrow).startsLine = l.startsLine := by
  cases l with
  | _ => rfl

/-- Lines of code that are moved have the same tokens. -/
theorem codeLines_movedTo (ls : List Lexeme) :
    codeLines (ls.map (Lexeme.movedTo column narrow)) = (codeLines ls).map fun l => ⟨column, narrow, l.lexemes⟩ := by
  have htake : ∀ ls : List Lexeme, (ls.map (Lexeme.movedTo column narrow)).takeWhile (!·.startsLine) =
      ls.takeWhile (!·.startsLine) := by
    intro ls
    induction ls with
    | nil => rfl
    | cons l ls ih =>
      rw [List.map_cons, List.takeWhile_cons, List.takeWhile_cons, startsLine_movedTo, ih]
      cases l with
      | _ => rfl
  induction ls with
  | nil => rfl
  | cons l ls ih =>
    cases l with
    | line c k =>
      rw [List.map_cons, Lexeme.movedTo, codeLines, codeLines, htake, ih]
      rfl
    | _ => exact ih

/-- Code with all its lines moved to one place has the statements that it had. -/
theorem body?_movedTo {code code' : List Char} {ls : List Lexeme} (hls : lexemes? code = some ls)
    (hls' : lexemes? code' = some (ls.map (Lexeme.movedTo column narrow))) (hcolumn : 0 < column)
    (hnul : code'.contains '\x00' = true → code.contains '\x00' = true) {statements : List Statement}
    (h : statements? code = some statements) : body? code' = some statements := by
  have hmargin : sameMargin ((codeLines ls).map fun l => ⟨column, narrow, l.lexemes⟩) = true := by
    cases codeLines ls with
    | nil => rfl
    | cons l ls => simp [sameMargin, hcolumn]
  simp only [statements?, hls, Option.bind_eq_bind, Option.bind_some] at h
  split_ifs at h with hcode
  obtain ⟨hempty, hnone⟩ : (codeLines ls).isEmpty = false ∧ code.contains '\x00' = false := by simpa using hcode
  have hnone' : code'.contains '\x00' = false := by
    cases hcontains : code'.contains '\x00' with
    | false => rfl
    | true =>
      rw [hnul hcontains] at hnone
      cases hnone
  simp only [body?, hls', Option.bind_eq_bind, Option.bind_some, codeLines_movedTo, List.isEmpty_map, hempty, hmargin,
    hnone', Bool.not_true, Bool.or_false, Bool.false_eq_true, if_false, List.mapM_map, Function.comp_def]
  exact h

/-! ## Blocks -/

/-- A block is the code of a function as it stands, apart from the indentation of its lines, and `statements` are what it
says. -/
structure Block.Written (b : Block) (statements : List Statement) : Prop where
  names : distinctNames (b.parameters.map normalName) = true
  noConstant : (b.parameters.map normalName).contains constantName = false
  /-- The lines of code are indented alike. -/
  aligned : ∃ margin, ∀ m ∈ Scan.start.margins b.written, m = margin
  reads : statements? b.written = some statements

theorem mem_or_feed_of_mem_unifyLineEnds {cs : List Char} {c : Char} (h : c ∈ unifyLineEnds cs) : c ∈ cs ∨ c = '\n' := by
  fun_induction unifyLineEnds cs with
  | case1 => cases h
  | case2 cs ih =>
    rcases List.mem_cons.mp h with rfl | h
    · exact Or.inr rfl
    · exact (ih h).imp_left fun h => List.mem_cons_of_mem _ (List.mem_cons_of_mem _ h)
  | case3 cs hne ih =>
    rcases List.mem_cons.mp h with rfl | h
    · exact Or.inr rfl
    · exact (ih h).imp_left (List.mem_cons_of_mem _)
  | case4 d cs hne1 hne2 ih =>
    rcases List.mem_cons.mp h with rfl | h
    · exact Or.inl List.mem_cons_self
    · exact (ih h).imp_left (List.mem_cons_of_mem _)

/-- Blanks alone are no code. -/
theorem exists_of_statements? {b : Block} {statements : List Statement} (h : statements? b.written = some statements) :
    ∃ c ∈ b.code.toList, isBlank c = false := by
  refine Decidable.byContradiction fun hnot => ?_
  have hblank : ∀ c ∈ unifyLineEnds b.code.toList, isBlank c = true := by
    intro c hc
    rcases mem_or_feed_of_mem_unifyLineEnds hc with hc | rfl
    · simpa using fun h => hnot ⟨c, hc, h⟩
    · decide
  have hempty : stripEnd (unifyLineEnds b.code.toList) = [] := by
    rw [← List.nil_append (unifyLineEnds _), stripEnd_append_blanks [] hblank]
    rfl
  rw [Block.written, hempty] at h
  cases h

theorem le_columnsAfter (c k : Nat) (is : List Char) : c ≤ (columnsAfter c k is).1 := by
  induction is generalizing c k with
  | nil => exact Nat.le_refl c
  | cons i is ih =>
    rw [columnsAfter]
    split_ifs
    · exact Nat.le_trans (by omega) (ih _ _)
    · exact Nat.le_trans (Nat.le_succ c) (ih _ _)

/-- The body of the function has no NUL if the block has none. -/
theorem Block.nul_of_body (b : Block) {statements : List Statement} (hw : b.Written statements)
    (hends : PlainEnds b.code.toList) (h : (b.body ++ ['\n']).contains '\x00' = true) :
    b.written.contains '\x00' = true := by
  obtain ⟨blanks, lines, hwritten, hbody, -⟩ := Block.lines_eq hends (exists_of_statements? hw.reads)
  rw [hbody, List.contains_iff_mem] at h
  rw [hwritten, List.contains_iff_mem]
  obtain ⟨k, hk, hc⟩ := List.mem_flatMap.mp h
  obtain ⟨l, hl, rfl⟩ := List.mem_map.mp hk
  have hmem := (List.mem_append.mp hc).resolve_right (by decide)
  refine List.mem_flatMap.mpr ⟨l, List.mem_append_right _ hl, List.mem_append_left _ ?_⟩
  refine mem_of_mem_dedented (n := b.shift) ?_
  rw [relay] at hmem
  split_ifs at hmem
  · exact hmem
  · exact (List.mem_append.mp hmem).resolve_left (by decide)

/-- The body of the function may end where the block may. -/
theorem Scan.finish_alike {raws : List (List Char)} {t t' : Scan} (h : LinesAlike n column narrow raws t t')
    {ls : List Lexeme} (hfinish : t.finish? = some ls) : ls = t.lexemes.reverse ∧ t'.finish? = some t'.lexemes.reverse := by
  obtain ⟨hmode, hdepth, hlexemes⟩ := h
  obtain ⟨mode, depth, lexemes⟩ := t
  obtain ⟨mode', depth', lexemes'⟩ := t'
  dsimp only at hmode hdepth hlexemes
  cases hmode with
  | margin =>
    dsimp only [Scan.finish?] at hfinish ⊢
    split_ifs at hfinish with hzero
    cases hfinish
    exact ⟨rfl, if_pos (hdepth ▸ hzero)⟩
  | _ => cases hfinish

/-- The tokens of a block and those of its function: they differ in the margins and in what relaid literals denote. -/
theorem Block.lexemes_told {b : Block} {statements : List Statement} (hw : b.Written statements)
    (hends : PlainEnds b.code.toList) : ∃ column narrow ls, 0 < column ∧ lexemes? b.written = some ls ∧
      ((∃ ls', lexemes? (b.body ++ ['\n']) = some ls' ∧
          Retold b.shift column narrow (Scan.start.literals b.written).reverse ls.reverse ls'.reverse) ∨
        lexemes? (b.body ++ ['\n']) = none ∧
          ∃ raw ∈ Scan.start.literals b.written, literalValue? (relaid b.shift raw) = none) := by
  obtain ⟨blanks, lines, hwritten, hbody, hblank, hunbroken, hindent⟩ :=
    Block.lines_eq hends (exists_of_statements? hw.reads)
  obtain ⟨margin, haligned⟩ := hw.aligned
  obtain ⟨ls, hls, -⟩ := Option.bind_eq_some_iff.mp hw.reads
  obtain ⟨t, ht, hfinish⟩ := Option.bind_eq_some_iff.mp hls
  have hfeed : ∀ l ∈ blanks ++ lines, '\n' ∉ l := fun l hl hmem => absurd (hunbroken l hl _ hmem) (by decide)
  obtain ⟨column, narrow, hcolumns⟩ : ∃ column narrow,
      columnsAfter 0 0 (bodyMargin ++ margin.drop b.shift) = (column, narrow) := ⟨_, _, rfl⟩
  have hcolumn : 4 ≤ column := by
    have hle := le_columnsAfter 4 4 (margin.drop b.shift)
    rwa [show columnsAfter 4 4 (margin.drop b.shift) = (column, narrow) from hcolumns] at hle
  refine ⟨column, narrow, ls, Nat.lt_of_lt_of_le (by decide) hcolumn, hls, ?_⟩
  rw [hwritten, List.flatMap_append] at ht haligned ⊢
  obtain ⟨hstart, hnone⟩ := Scan.steps_blankLines hblank (fun l hl => hfeed l (List.mem_append_left _ hl)) ht
  rw [Scan.steps_append, hstart, Option.bind_some] at ht
  rw [Scan.literals_append hstart, hnone, List.nil_append, hbody]
  have halike : LinesAlike b.shift column narrow [] Scan.start Scan.start := ⟨.margin, rfl, .nil⟩
  have htold := Scan.lines_alike halike (fun l hl => hfeed l (List.mem_append_right _ hl)) hindent
    (fun m hm => by rw [haligned m (Scan.margins_append hstart _ m hm), hcolumns]) ht
  rcases htold with ⟨t', ht', halike⟩ | ⟨hnone, hraw⟩
  · obtain ⟨rfl, hfinish'⟩ := Scan.finish_alike halike hfinish
    refine Or.inl ⟨t'.lexemes.reverse, ?_, ?_⟩
    · rw [lexemes?, ht', Option.bind_some, hfinish']
    · rw [List.reverse_reverse, List.reverse_reverse]
      simpa using halike.lexemes
  · refine Or.inr ⟨?_, hraw⟩
    rw [lexemes?, hnone]
    rfl

/-- **The function of a block has the texts of the block if relaying its literals changes none of them, and only then; and
then it is the function that is written.** Literals of one line stay as they are (`relaid_unbroken`). -/
theorem Block.texts_kept_iff {b : Block} {statements : List Statement} (hw : b.Written statements)
    (hends : PlainEnds b.code.toList) :
    (texts? (b.body ++ ['\n']) = texts? b.written ↔
      ∀ raw ∈ Scan.start.literals b.written, literalValue? (relaid b.shift raw) = literalValue? raw) ∧
    (texts? (b.body ++ ['\n']) = texts? b.written → b.code? = some ⟨b.parameters.map normalName, statements⟩) := by
  obtain ⟨column, narrow, ls, hcolumn, hls, htold⟩ := Block.lexemes_told hw hends
  have hvalues : ∀ raw ∈ Scan.start.literals b.written, ∃ v, literalValue? raw = some v := by
    obtain ⟨t, ht, -⟩ := Option.bind_eq_some_iff.mp hls
    exact fun raw hraw => Scan.value_of_mem_literals ht hraw
  have htexts : texts? b.written = some (ls.filterMap Lexeme.text?) := by rw [texts?, hls]; rfl
  rcases htold with ⟨ls', hls', hretold⟩ | ⟨hnone, raw, hraw, hvalue⟩
  · have htexts' : texts? (b.body ++ ['\n']) = some (ls'.filterMap Lexeme.text?) := by rw [texts?, hls']; rfl
    have hiff : texts? (b.body ++ ['\n']) = texts? b.written ↔
        ∀ raw ∈ Scan.start.literals b.written, literalValue? (relaid b.shift raw) = literalValue? raw := by
      have hreverse := hretold.texts_eq_iff
      rw [List.filterMap_reverse, List.filterMap_reverse, List.reverse_inj] at hreverse
      rw [htexts, htexts', Option.some_inj, hreverse]
      simp only [List.mem_reverse]
    refine ⟨hiff, fun hsame => ?_⟩
    have hmoved := hretold.lexemes_eq fun raw hraw => hiff.mp hsame raw (List.mem_reverse.mp hraw)
    rw [List.map_reverse, List.reverse_inj] at hmoved
    rw [hmoved] at hls'
    have hbody := body?_movedTo hls hls' hcolumn (b.nul_of_body hw hends) hw.reads
    simp only [Block.code?, hw.names, hw.noConstant, hbody, Bool.not_true, Bool.or_false, Bool.false_eq_true, if_false]
    rfl
  · constructor
    · constructor
      · intro hsame
        rw [texts?, hnone, htexts] at hsame
        cases hsame
      · intro hsame
        obtain ⟨v, hv⟩ := hvalues raw hraw
        rw [← hsame raw hraw, hvalue] at hv
        cases hv
    · intro hsame
      rw [texts?, hnone, htexts] at hsame
      cases hsame

/-- A block with a literal of two lines, the second one indented like the code. -/
def linedBlock : Block := ⟨"\n    return '''a\n    b'''\n", [], 0⟩

/-- Four characters of indentation are replaced by four. -/
theorem linedBlock_kept : linedBlock.Written [.result (some (.text "a\n    b"))] ∧
    texts? (linedBlock.body ++ ['\n']) = texts? linedBlock.written ∧
    linedBlock.code? = some ⟨linedBlock.parameters.map normalName, [.result (some (.text "a\n    b"))]⟩ := by
  have hreads : statements? linedBlock.written = some [.result (some (.text "a\n    b"))] := by rfl
  have hmargins : ∀ m ∈ Scan.start.margins linedBlock.written, m = [' ', ' ', ' ', ' '] := by decide +kernel
  have hwritten : linedBlock.Written [.result (some (.text "a\n    b"))] :=
    ⟨by decide, by decide, ⟨_, hmargins⟩, hreads⟩
  have hends : ∀ c ∈ linedBlock.code.toList, isLineEnd c = true → c = '\n' ∨ c = '\r' :=
    List.all_iff_forall_prop.mp (by decide +kernel)
  have hsame : ∀ raw ∈ Scan.start.literals linedBlock.written,
      literalValue? (relaid linedBlock.shift raw) = literalValue? raw := by decide +kernel
  obtain ⟨hiff, hcode⟩ := Block.texts_kept_iff hwritten hends
  exact ⟨hwritten, hiff.mpr hsame, hcode (hiff.mpr hsame)⟩

/-- A block with a literal of one line, in which a character stands that is taken for the end of a line. -/
def partedBlock : Block := ⟨" return '''a\u2028b''' ", [], 0⟩

/-- The function returns another text than the block says. -/
theorem partedBlock_changed : partedBlock.Written [.result (some (.text "a\u2028b"))] ∧
    partedBlock.code? = some ⟨["text", "location", "options"], [.result (some (.text "a\n    b"))]⟩ := by
  have hreads : statements? partedBlock.written = some [.result (some (.text "a\u2028b"))] := by rfl
  have hmargins : ∀ m ∈ Scan.start.margins partedBlock.written, m = [' '] := by decide +kernel
  have hcode : partedBlock.code? = some ⟨["text", "location", "options"], [.result (some (.text "a\n    b"))]⟩ := by rfl
  exact ⟨⟨by decide, by decide, ⟨_, hmargins⟩, hreads⟩, hcode⟩

end PegTemplate
