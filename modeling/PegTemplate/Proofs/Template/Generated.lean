import Mathlib.Tactic.SplitIfs
import PegTemplate.Proofs.Block.Words
import PegTemplate.Proofs.Grammar.Spelling
import PegTemplate.Template.Assembly

/-!
# The code that calls an action

* `contextLine`, `callLine` : the two lines of the block that calls an action with parameters;
* `ActionEntry.block_eq` : that block is made of them;
* `pieces?_contextLine`, `pieces?_callLine` : their tokens, with what is between the brackets read;
* `syntheticName_injective`, `normalName_syntheticName` : the names of actions are different, and in normal form;
* `ActionEntry.Spelled`, `ActionEntry.lines` : an action whose names are words, and the lines of its block;
* `ActionEntry.Named`, `ActionEntry.function` : an action whose names are names, and the function of its block;
* `code?_eq_some_iff` : **the block makes that function if its parameters are distinct and the parameter that takes the
  context can be assigned to, and else it makes none**;
* `ActionEntry.Named.readExactly` : **a grammar reads the block back as it is.**
-/

namespace PegTemplate
open Unicode

/-! ## The two lines -/

/-- The line that makes the context. -/
def contextLine (c : String) : List Word :=
  [.name c, .space, .mark '=', .space, .name contextClass, .mark '(',
    .name "text", .mark '=', .name "text", .mark ',', .space,
    .name "location", .mark '=', .name "location", .mark ',', .space,
    .name "options", .mark '=', .name "options", .mark ')']

/-- Names with commas between them. -/
def argumentWords : List String → List Word
  | [] => []
  | [p] => [.name p]
  | p :: q :: ps => .name p :: .mark ',' :: .space :: argumentWords (q :: ps)

/-- The line that calls the action. -/
def callLine (f : String) (ps : List String) : List Word :=
  .name "return" :: .space :: .name f :: .mark '(' :: (argumentWords ps ++ [.mark ')'])

theorem lineChars_append (vs ws : List Word) : lineChars (vs ++ ws) = lineChars vs ++ lineChars ws :=
  List.flatMap_append

theorem lineChars_argumentWords (ps : List String) :
    lineChars (argumentWords ps) = (", ".intercalate ps).toList := by
  induction ps with
  | nil => rfl
  | cons p ps ih =>
    cases ps with
    | nil => simp [argumentWords, Word.chars]
    | cons q ps => simp [argumentWords, Word.chars, ih]

/-- The block that calls an action with parameters consists of the two lines. -/
theorem ActionEntry.block_eq {e : ActionEntry} (h : e.context.isEmpty = false) :
    e.block.toList = '{' :: '\n' :: laidOut [contextLine e.context, callLine e.name e.parameters] ++ ['}'] := by
  simp [ActionEntry.block, h, laidOut, contextLine, callLine, lineChars_append, lineChars_argumentWords, Word.chars,
    bodyMargin]

/-- The code of the block that calls an action with parameters. -/
theorem ActionEntry.code_eq {e : ActionEntry} {b : Block} (h : e.context.isEmpty = false)
    (hb : e.block = "\x7b" ++ b.code ++ "\x7d") :
    b.code.toList = '\n' :: laidOut [contextLine e.context, callLine e.name e.parameters] := by
  have heq := congrArg String.toList hb
  rw [ActionEntry.block_eq h] at heq
  have hinner : b.code.toList ++ ['}'] =
      ('\n' :: laidOut [contextLine e.context, callLine e.name e.parameters]) ++ ['}'] := by
    simpa using heq.symm
  exact List.append_cancel_right hinner

/-! ## They are plain -/

theorem plain_argumentWords {ps : List String} (h : ∀ p ∈ ps, isName p.toList = true) :
    ∀ w ∈ argumentWords ps, w.isPlain = true := by
  induction ps with
  | nil => exact nofun
  | cons p ps ih =>
    have hp : (Word.name p).isPlain = true := h p List.mem_cons_self
    have hps := ih fun q hq => h q (List.mem_cons_of_mem p hq)
    cases ps with
    | nil => simpa [argumentWords] using hp
    | cons q ps =>
      simp only [argumentWords, List.mem_cons, forall_eq_or_imp]
      exact ⟨hp, rfl, rfl, hps⟩

theorem namesApart_argumentWords (ps : List String) : namesApart (argumentWords ps ++ [.mark ')']) = true := by
  induction ps with
  | nil => rfl
  | cons p ps ih =>
    cases ps with
    | nil => rfl
    | cons q ps =>
      have htail : argumentWords (q :: ps) ≠ [] := by cases ps <;> simp [argumentWords]
      obtain ⟨w, ws, hw⟩ := List.exists_cons_of_ne_nil htail
      rw [hw] at ih
      simpa [argumentWords, hw, namesApart, Word.isWord] using ih

theorem depthAfter_argumentWords (ps : List String) (depth : Nat) :
    (argumentWords ps).foldl Word.depthAfter depth = depth := by
  induction ps with
  | nil => rfl
  | cons p ps ih =>
    cases ps with
    | nil => rfl
    | cons q ps => exact ih

theorem plainLine_contextLine {c : String} (h : isName c.toList = true) : PlainLine (contextLine c) where
  plain := by
    have hrest : ((contextLine "").tail.all Word.isPlain) = true := by decide +kernel
    intro w hw
    rcases List.mem_cons.mp hw with rfl | hw
    · exact h
    · exact List.all_eq_true.mp hrest w hw
  starts := ⟨c, rfl⟩
  ends := ⟨')', rfl⟩
  apart := rfl
  closed := rfl

theorem plainLine_callLine {f : String} {ps : List String} (hf : isName f.toList = true)
    (hps : ∀ p ∈ ps, isName p.toList = true) : PlainLine (callLine f ps) where
  plain := by
    have hreturn : (Word.name "return").isPlain = true := by decide +kernel
    simp only [callLine, List.mem_cons, forall_eq_or_imp, List.mem_append]
    refine ⟨hreturn, rfl, hf, rfl, ?_⟩
    rintro w (hw | rfl | hw)
    · exact plain_argumentWords hps w hw
    · rfl
    · cases hw
  starts := ⟨"return", rfl⟩
  ends := ⟨')', by simp only [callLine, ← List.cons_append, List.getLast?_concat]⟩
  apart := by
    have h := namesApart_argumentWords ps
    obtain ⟨w, ws, hw⟩ := List.exists_cons_of_ne_nil (show argumentWords ps ++ [.mark ')'] ≠ [] by simp)
    rw [hw] at h
    simpa [callLine, hw, namesApart, Word.isWord] using h
  closed := by
    simp [callLine, Word.depthAfter, isOpening, isClosing, depthAfter_argumentWords]

/-! ## Their tokens -/

/-- The keyword arguments that make a context. -/
def contextKeywords : List (String × Expr) :=
  [("text", .name "text"), ("location", .name "location"), ("options", .name "options")]

theorem pieces?_contextLine (c : String) :
    pieces? (lineLexemes (contextLine c)) =
      some [.name c, .mark '=', .name contextClass, .round none (some ⟨[], contextKeywords⟩)] := by
  rw [contextLine, lineLexemes_name, pieces?, List.foldlM_cons, Pieces.put?, String.ofList_toList]
  rfl

/-- The tokens of names with commas between them. -/
def argumentPieces : List String → List Piece
  | [] => []
  | [p] => [.name p]
  | p :: q :: ps => .name p :: .mark ',' :: argumentPieces (q :: ps)

theorem foldlM_argumentWords (ps : List String) (ws : List Word) (current : List Piece)
    (outer : List (Char × List Piece)) :
    (lineLexemes (argumentWords ps ++ ws)).foldlM Pieces.put? ⟨current, outer⟩ =
      (lineLexemes ws).foldlM Pieces.put? ⟨(argumentPieces ps).reverse ++ current, outer⟩ := by
  induction ps generalizing current with
  | nil => rfl
  | cons p ps ih =>
    cases ps with
    | nil =>
      simp [argumentWords, argumentPieces, Pieces.put?]
    | cons q ps =>
      have h := ih (.mark ',' :: .name p :: current)
      simp only [argumentWords, argumentPieces, List.cons_append, lineLexemes_name, lineLexemes_mark, lineLexemes_space,
        List.foldlM_cons, Pieces.put?, String.ofList_toList] at h ⊢
      simpa [isOpening, isClosing] using h

theorem pieces?_callLine (f : String) (ps : List String) :
    pieces? (lineLexemes (callLine f ps)) =
      some [.name "return", .name f, closePiece '(' (argumentPieces ps)] := by
  have hopen : (lineLexemes (callLine f ps)).foldlM Pieces.put? ⟨[], []⟩ =
      (lineLexemes (argumentWords ps ++ [.mark ')'])).foldlM Pieces.put? ⟨[], [('(', [.name f, .name "return"])]⟩ := by
    simp only [callLine, lineLexemes_name, lineLexemes_mark, lineLexemes_space, List.foldlM_cons, Pieces.put?,
      String.ofList_toList]
    rfl
  have hclose : (lineLexemes (argumentWords ps ++ [.mark ')'])).foldlM Pieces.put?
      ⟨[], [('(', [.name f, .name "return"])]⟩ =
      some ⟨closePiece '(' (argumentPieces ps) :: [.name f, .name "return"], []⟩ := by
    rw [foldlM_argumentWords, List.append_nil]
    simp [Pieces.put?, isOpening, isClosing, closingOf]
  rw [pieces?, hopen, hclose]
  rfl

/-! ## What they say -/

/-- A word that is no keyword is a name. -/
theorem wordExpr?_of_notMem {n : String} (h : n ∉ keywords) : wordExpr? n = some (.name (normalName n)) := by
  have hne : ∀ k ∈ keywords, n ≠ k := fun k hk e => h (e ▸ hk)
  rw [wordExpr?, if_neg (hne "None" (by decide)), if_neg (hne "True" (by decide)), if_neg (hne "False" (by decide)),
    if_neg (by rwa [List.contains_iff_mem])]

theorem expression?_name (n : String) : expression? [.name n] = wordExpr? n := by
  cases h : wordExpr? n <;> simp [expression?, splitAtMark, Piece.isMark, operand?, suffixes?, h]

theorem splitAtMark_argumentPieces {ps : List String} (h : ps ≠ []) :
    splitAtMark ',' (argumentPieces ps) = ps.map fun p => [.name p] := by
  induction ps with
  | nil => exact absurd rfl h
  | cons p ps ih =>
    cases ps with
    | nil => rfl
    | cons q ps =>
      simp [argumentPieces, splitAtMark, Piece.isMark, ih]

/-- Words with commas between them are arguments, if each of them is a name or a constant. -/
theorem arguments?_argumentPieces (ps : List String) :
    arguments? (argumentPieces ps) = (ps.mapM wordExpr?).map (⟨·, []⟩) := by
  have hparts : partsBetween? ',' (argumentPieces ps) = some (ps.map fun p => [.name p]) := by
    by_cases hne : ps = []
    · subst hne
      rfl
    · have hlast : (ps.map fun p => [Piece.name p]).getLast?.any (·.isEmpty) = false := by
        rw [List.getLast?_map]
        cases ps.getLast? <;> rfl
      simp only [partsBetween?, splitAtMark_argumentPieces hne, hlast]
      simp
  have hput : ∀ (qs : List String) (before : List Expr),
      (qs.map fun p => [Piece.name p]).foldlM Arguments.put? ⟨before, []⟩ =
        (qs.mapM wordExpr?).map fun es => ⟨before ++ es, []⟩ := by
    intro qs
    induction qs with
    | nil => intro before; simp
    | cons q qs ih =>
      intro before
      have hq : Arguments.put? ⟨before, []⟩ [.name q] = (wordExpr? q).map fun e => ⟨before ++ [e], []⟩ := by
        rw [Arguments.put?, expression?_name]
        · cases wordExpr? q <;> rfl
        · exact nofun
        · exact nofun
      rw [List.map_cons, List.foldlM_cons, List.mapM_cons, hq]
      cases wordExpr? q with
      | none => rfl
      | some e =>
        rw [Option.map_some, Option.bind_eq_bind, Option.bind_some, ih]
        cases qs.mapM wordExpr? <;> simp
  rw [arguments?, hparts]
  exact hput ps []

theorem mapM_wordExpr? {ps : List String} (h : ∀ p ∈ ps, p ∉ keywords) :
    ps.mapM wordExpr? = some (ps.map fun p => .name (normalName p)) := by
  induction ps with
  | nil => rfl
  | cons p ps ih =>
    rw [List.mapM_cons, wordExpr?_of_notMem (h p List.mem_cons_self), ih fun q hq => h q (List.mem_cons_of_mem p hq)]
    rfl

/-- A line without semicolons is one statement. -/
theorem lineStatements?_eq {ls : List Lexeme} {ps : List Piece} (hp : pieces? ls = some ps) (hne : ps ≠ [])
    (hs : ∀ p ∈ ps, p.isMark ';' = false) : lineStatements? ls = (statement? ps).map ([·]) := by
  have hsplit : ∀ qs : List Piece, (∀ p ∈ qs, p.isMark ';' = false) → splitAtMark ';' qs = [qs] := by
    intro qs hqs
    induction qs with
    | nil => rfl
    | cons q qs ih =>
      rw [splitAtMark, hqs q List.mem_cons_self, ih fun p hp => hqs p (List.mem_cons_of_mem q hp)]
      rfl
  have hempty : ps.isEmpty = false := by simpa using hne
  have hparts : partsBetween? ';' ps = some [ps] := by
    simp [partsBetween?, hsplit ps hs, hempty]
  simp only [lineStatements?, hp, Option.bind_eq_bind, Option.bind_some, hempty, Bool.false_eq_true, if_false, hparts,
    List.mapM_cons, List.mapM_nil]
  cases statement? ps <;> rfl

/-- The statement that makes the context. -/
def contextStatement (c : String) : Statement :=
  .assign [.name (normalName c)] (.call (.name contextClass) [] contextKeywords)

/-- The statement that calls the action. -/
def callStatement (f : String) (ps : List String) : Statement :=
  .result (some (.call (.name f) (ps.map fun p => .name (normalName p)) []))

/-- A name that can be assigned to. -/
def Assignable (c : String) : Prop := c ∉ keywords ∧ normalName c ≠ constantName

/-- The line that calls an action is one statement, if its arguments are names and constants. -/
theorem lineStatements?_callLine_eq {f : String} (hf : f ∉ keywords) (hfn : normalName f = f) (ps : List String) :
    lineStatements? (lineLexemes (callLine f ps)) =
      (ps.mapM wordExpr?).map fun args => [.result (some (.call (.name f) args []))] := by
  have hcall : expressions? [.name f, closePiece '(' (argumentPieces ps)] =
      (ps.mapM wordExpr?).map fun args => .call (.name f) args [] := by
    have harguments := arguments?_argumentPieces ps
    cases hargs : ps.mapM wordExpr? with
    | none =>
      rw [hargs] at harguments
      simp [expressions?, expression?, splitAtMark, closePiece, Piece.isMark, operand?, wordExpr?_of_notMem hf, hfn,
        suffixes?, harguments]
    | some args =>
      rw [hargs] at harguments
      simp [expressions?, expression?, splitAtMark, closePiece, Piece.isMark, operand?, wordExpr?_of_notMem hf, hfn,
        suffixes?, harguments]
  rw [lineStatements?_eq (pieces?_callLine f ps) (List.cons_ne_nil _ _) (by simp [Piece.isMark, closePiece]), statement?]
  simp only [List.isEmpty_cons, Bool.false_eq_true, if_false, hcall]
  cases ps.mapM wordExpr? <;> rfl

theorem lineStatements?_callLine {f : String} {ps : List String} (hf : f ∉ keywords) (hfn : normalName f = f)
    (hps : ∀ p ∈ ps, p ∉ keywords) : lineStatements? (lineLexemes (callLine f ps)) = some [callStatement f ps] := by
  rw [lineStatements?_callLine_eq hf hfn, mapM_wordExpr? hps]
  rfl

/-- What is assigned to a word, if the word can be assigned to. -/
theorem lineStatements?_contextLine_eq {c : String} (h : c ≠ "return") :
    lineStatements? (lineLexemes (contextLine c)) =
      ((wordExpr? c).bind target?).map fun t => [.assign [t] (.call (.name contextClass) [] contextKeywords)] := by
  have hname : expressions? [.name c] = wordExpr? c := by
    simp [expressions?, Piece.isMark, expression?_name]
  have hcall : expressions? [.name contextClass, .round none (some ⟨[], contextKeywords⟩)] =
      some (.call (.name contextClass) [] contextKeywords) := by rfl
  have hsplit : splitAtMark '=' [.name c, .mark '=', .name contextClass, .round none (some ⟨[], contextKeywords⟩)] =
      [[.name c], [.name contextClass, .round none (some ⟨[], contextKeywords⟩)]] := rfl
  rw [lineStatements?_eq (pieces?_contextLine c) (List.cons_ne_nil _ _) (by simp [Piece.isMark]), statement?]
  · simp only [hsplit, List.mapM_cons, List.mapM_nil, hname, hcall]
    cases hc : wordExpr? c with
    | none => rfl
    | some e => cases ht : target? e <;> simp [targets?, ht]
  · exact nofun
  · intro ps hps
    cases hps
    exact h rfl

theorem lineStatements?_contextLine {c : String} (h : Assignable c) :
    lineStatements? (lineLexemes (contextLine c)) = some [contextStatement c] := by
  have hreturn : c ≠ "return" := fun e => h.1 (e ▸ by decide)
  rw [lineStatements?_contextLine_eq hreturn, wordExpr?_of_notMem h.1, Option.bind_some, target?, if_neg h.2]
  rfl

/-- A word that can't be assigned to takes no context. -/
theorem lineStatements?_contextLine_eq_none {c : String} (h : ¬ Assignable c) :
    lineStatements? (lineLexemes (contextLine c)) = none := by
  by_cases hreturn : c = "return"
  · subst hreturn
    rfl
  · have hnone : (wordExpr? c).bind target? = none := by
      by_cases hk : c ∈ keywords
      · rw [wordExpr?]
        split_ifs
        · rfl
        · rfl
        · rfl
        · rfl
        · rename_i hk'
          exact absurd (List.contains_iff_mem.mpr hk) hk'
      · have hconstant : normalName c = constantName := by
          by_cases hn : normalName c = constantName
          · exact hn
          · exact absurd ⟨hk, hn⟩ h
        rw [wordExpr?_of_notMem hk, Option.bind_some, target?, if_pos hconstant]
    rw [lineStatements?_contextLine_eq hreturn, hnone]
    rfl

/-! ## The names of actions -/

theorem toList_syntheticName (k : Nat) : (syntheticName k).toList = "action".toList ++ Nat.toDigits 10 k := by
  rw [syntheticName, String.toList_append, Nat.toString_eq_ofList_toDigits]
  exact congrArg _ (String.toList_ofList)

theorem syntheticName_injective {j k : Nat} (h : syntheticName j = syntheticName k) : j = k := by
  have hlist := congrArg String.toList h
  rw [toList_syntheticName, toList_syntheticName] at hlist
  have hdigits : Nat.toDigits 10 j = Nat.toDigits 10 k := List.append_cancel_left hlist
  calc j = Nat.ofDigitChars 10 (Nat.toDigits 10 j) 0 := Nat.ofDigitChars_ten_toDigits.symm
    _ = Nat.ofDigitChars 10 (Nat.toDigits 10 k) 0 := by rw [hdigits]
    _ = k := Nat.ofDigitChars_ten_toDigits

/-- A name that does not start like those of actions is none of them. -/
theorem syntheticName_ne {n : String} (h : "action".toList.isPrefixOf n.toList = false) (k : Nat) :
    syntheticName k ≠ n := by
  intro e
  have hprefix : "action".toList.isPrefixOf n.toList = true := by
    rw [← e, toList_syntheticName, List.isPrefixOf_iff_prefix]
    exact List.prefix_append _ _
  rw [h] at hprefix
  cases hprefix

theorem syntheticName_notMem_keywords (k : Nat) : syntheticName k ∉ keywords := by
  have hall : ∀ w ∈ keywords, "action".toList.isPrefixOf w.toList = false := by decide
  exact fun hmem => syntheticName_ne (hall _ hmem) k rfl

/-- What holds of the letters of "action" and of all digits holds of the characters of a synthetic name. -/
theorem forall_mem_syntheticName {P : Char → Prop} (hletters : ∀ c ∈ "action".toList, P c)
    (hdigits : ∀ c : Char, c.isDigit = true → P c) (k : Nat) : ∀ c ∈ (syntheticName k).toList, P c := by
  intro c hc
  rw [toList_syntheticName, List.mem_append] at hc
  exact hc.elim (hletters c) fun hd => hdigits c (Nat.isDigit_of_mem_toDigits (by decide) (by decide) hd)

theorem normalName_syntheticName (k : Nat) : normalName (syntheticName k) = syntheticName k := by
  have hascii : ∀ c ∈ (syntheticName k).toList, c.toNat < 128 :=
    forall_mem_syntheticName (List.all_iff_forall_prop.mp (by decide))
      (fun c hc => Nat.lt_of_le_of_lt (isDigit_iff.mp hc).2 (by decide)) k
  have hall : (syntheticName k).toList.all (fun c => decide (c.toNat < 128)) = true := by simpa using hascii
  rw [normalName, hall, if_pos rfl]

theorem isName_syntheticName (k : Nat) : isName (syntheticName k).toList = true := by
  have hdigit : ∀ c : Char, c.isDigit = true → isNamePart c = true := by
    intro c hc
    have hrange : (0x30, 0x39) ∈ identifierExtra := List.mem_append_left _ List.mem_cons_self
    exact Bool.or_eq_true_iff.mpr (.inr (Ranges.has_iff.mpr ⟨_, hrange, isDigit_iff.mp hc⟩))
  have hparts : ∀ c ∈ (syntheticName k).toList, isNamePart c = true :=
    forall_mem_syntheticName (List.all_iff_forall_prop.mp (by decide +kernel)) hdigit k
  rw [toList_syntheticName] at hparts ⊢
  exact isName_iff_cons.mpr ⟨'a', _, rfl, by decide +kernel, fun c hc => hparts c (List.mem_cons_of_mem _ hc)⟩

/-! ## The function -/

theorem distinctNames_iff {ns : List String} : distinctNames ns = true ↔ ns.Nodup := by
  induction ns with
  | nil => simp [distinctNames]
  | cons n ns ih => simp [distinctNames, ih]

/-- The function that the block of an action stands for. -/
def ActionEntry.function (e : ActionEntry) (b : Block) : Code :=
  ⟨b.parameters.map normalName, [contextStatement e.context, callStatement e.name e.parameters]⟩

/-- An action whose parameters are names, the first of which takes the context. -/
structure ActionEntry.Spelled (e : ActionEntry) : Prop where
  name : ∃ k, e.name = syntheticName k
  parameters : ∀ p ∈ e.parameters, isName p.toList = true
  context : e.context = e.parameters.headD ""

/-- The lines of the block that calls an action. -/
def ActionEntry.lines (e : ActionEntry) : List (List Word) :=
  (e.parameters.take 1).map contextLine ++ [callLine e.name e.parameters]

theorem ActionEntry.Spelled.plainLines {e : ActionEntry} (he : e.Spelled) : ∀ ws ∈ e.lines, PlainLine ws := by
  obtain ⟨k, hk⟩ := he.name
  intro ws hws
  rcases List.mem_append.mp hws with hws | hws
  · obtain ⟨c, hc, rfl⟩ := List.mem_map.mp hws
    exact plainLine_contextLine (he.parameters c (List.mem_of_mem_take hc))
  · rw [List.mem_singleton.mp hws]
    exact plainLine_callLine (hk ▸ isName_syntheticName k) he.parameters

/-- An action whose names are names. Its parameters after the first are no keywords, as they are labels. -/
structure ActionEntry.Named (e : ActionEntry) : Prop where
  name : ∃ k, e.name = syntheticName k
  parameters : ∀ p ∈ e.parameters, isName p.toList = true
  context : e.parameters.head? = some e.context
  rest : ∀ p ∈ e.parameters.tail, p ∉ keywords

namespace ActionEntry.Named

variable {e : ActionEntry}

theorem parameters_eq (he : e.Named) : e.parameters = e.context :: e.parameters.tail := by
  obtain ⟨ps, hps⟩ := List.head?_eq_some_iff.mp he.context
  rw [hps, List.tail_cons]

/-- The parameters are the one that takes the context and the others. -/
theorem forall_parameters (he : e.Named) {P : String → Prop} :
    (∀ p ∈ e.parameters, P p) ↔ P e.context ∧ ∀ p ∈ e.parameters.tail, P p := by
  have h := List.forall_mem_cons (p := P) (a := e.context) (l := e.parameters.tail)
  rwa [← he.parameters_eq] at h

theorem map_parameters {α : Type} (he : e.Named) (f : String → α) :
    e.parameters.map f = f e.context :: e.parameters.tail.map f := by
  have h := List.map_cons (f := f) (a := e.context) (l := e.parameters.tail)
  rwa [← he.parameters_eq] at h

theorem isName_context (he : e.Named) : isName e.context.toList = true :=
  (he.forall_parameters.mp he.parameters).1

theorem context_isEmpty (he : e.Named) : e.context.isEmpty = false := by
  have hname := he.isName_context
  rw [← Bool.not_eq_true, String.isEmpty_iff]
  intro hempty
  rw [hempty] at hname
  cases hname

theorem spelled (he : e.Named) : e.Spelled where
  name := he.name
  parameters := he.parameters
  context := by rw [List.headD_eq_head?_getD, he.context, Option.getD_some]

theorem lines_eq (he : e.Named) : e.lines = [contextLine e.context, callLine e.name e.parameters] := by
  have htake : e.parameters.take 1 = [e.context] := by rw [he.parameters_eq, List.take_succ_cons, List.take_zero]
  rw [ActionEntry.lines, htake]
  rfl

theorem plainLines (he : e.Named) : ∀ ws ∈ [contextLine e.context, callLine e.name e.parameters], PlainLine ws :=
  he.lines_eq ▸ he.spelled.plainLines

end ActionEntry.Named

/-- **The block of an action makes its function if the parameters are distinct and the context can be assigned, and else
it makes none.** -/
theorem code?_eq_some_iff {e : ActionEntry} {b : Block} {code : Code} (he : e.Named)
    (hb : e.block = "\x7b" ++ b.code ++ "\x7d") :
    b.code? = some code ↔
      ((b.parameters.map normalName).Nodup ∧ constantName ∉ b.parameters.map normalName ∧ Assignable e.context) ∧
        e.function b = code := by
  obtain ⟨k, hk⟩ := he.name
  have hbody := Block.body_laidOut (ActionEntry.code_eq he.context_isEmpty hb) he.plainLines (List.cons_ne_nil _ _)
  have hread := body?_laidOut he.plainLines (List.cons_ne_nil _ _)
  rw [List.mapM_cons, List.mapM_cons, List.mapM_nil] at hread
  have hparameters : (!distinctNames (b.parameters.map normalName) || (b.parameters.map normalName).contains constantName)
      = true ↔ ¬ ((b.parameters.map normalName).Nodup ∧ constantName ∉ b.parameters.map normalName) := by
    rw [Bool.or_eq_true, Bool.not_eq_true', List.contains_iff_mem, ← Bool.not_eq_true, distinctNames_iff,
      Classical.not_and_iff_not_or_not, Classical.not_not]
  rw [Block.code?, hbody, hread]
  by_cases hp : (b.parameters.map normalName).Nodup ∧ constantName ∉ b.parameters.map normalName
  · rw [if_neg fun h => hparameters.mp h hp]
    by_cases hc : Assignable e.context
    · have hkeywords : ∀ p ∈ e.parameters, p ∉ keywords := he.forall_parameters.mpr ⟨hc.1, he.rest⟩
      have hcall := lineStatements?_callLine (hk ▸ syntheticName_notMem_keywords k) (hk ▸ normalName_syntheticName k)
        hkeywords
      rw [lineStatements?_contextLine hc, hcall]
      simp [hp, hc, ActionEntry.function]
    · rw [lineStatements?_contextLine_eq_none hc]
      simp [hc]
  · rw [if_pos (hparameters.mpr hp)]
    exact ⟨nofun, fun h => absurd ⟨h.1.1, h.1.2.1⟩ hp⟩

/-! ## Reading the block back -/

theorem isOrdinary_of_isNamePart {c : Char} (h : isNamePart c = true) : isOrdinary c = true := by
  have hne := ne_of_isNameChar (isNameChar_of_isNamePart h)
  simp [isOrdinary, isQuote, hne '\'' (by decide), hne '"' (by decide), hne '#' (by decide), hne '{' (by decide),
    hne '}' (by decide)]

/-- No plain word holds a quote or starts a comment, and only a brace holds a brace. -/
theorem isOrdinary_of_mem_chars {w : Word} (hw : w.isPlain = true) (h1 : w ≠ .mark '{') (h2 : w ≠ .mark '}') {c : Char}
    (hc : c ∈ w.chars) : isOrdinary c = true := by
  cases w with
  | name n => exact isOrdinary_of_isNamePart (isNamePart_of_mem hw hc)
  | space =>
    rw [List.mem_singleton.mp hc]
    decide
  | mark d =>
    rw [List.mem_singleton.mp hc]
    have hmarks : ∀ d ∈ Word.marks, isOrdinary d = true ∨ d = '{' ∨ d = '}' := List.all_iff_forall_prop.mp (by decide)
    rcases hmarks d (Word.mem_marks hw) with hd | rfl | rfl
    · exact hd
    · exact absurd rfl h1
    · exact absurd rfl h2

theorem mem_argumentWords {w : Word} {ps : List String} (h : w ∈ argumentWords ps) :
    w = .mark ',' ∨ w = .space ∨ ∃ p, w = .name p := by
  induction ps with
  | nil => cases h
  | cons p ps ih =>
    cases ps with
    | nil => exact .inr (.inr ⟨p, List.mem_singleton.mp h⟩)
    | cons q ps =>
      rcases List.mem_cons.mp h with rfl | h
      · exact .inr (.inr ⟨p, rfl⟩)
      · rcases List.mem_cons.mp h with rfl | h
        · exact .inl rfl
        · exact (List.mem_cons.mp h).elim (fun e => .inr (.inl e)) ih

/-- The lines of an action hold no quotes, no braces and no comment. -/
theorem ActionEntry.Spelled.isOrdinary_lines {e : ActionEntry} (he : e.Spelled) {ws : List Word} (hws : ws ∈ e.lines) :
    ∀ c ∈ lineChars ws, isOrdinary c = true := by
  have hbraces : ∀ w ∈ ws, w ≠ .mark '{' ∧ w ≠ .mark '}' := by
    rcases List.mem_append.mp hws with hc | hc
    · obtain ⟨c, -, rfl⟩ := List.mem_map.mp hc
      simp [contextLine]
    · rw [List.mem_singleton.mp hc]
      intro w hw
      simp only [callLine, List.mem_cons, List.mem_append, List.not_mem_nil, or_false] at hw
      rcases hw with rfl | rfl | rfl | rfl | hw | rfl
      · simp
      · simp
      · simp
      · simp
      · rcases mem_argumentWords hw with rfl | rfl | ⟨p, rfl⟩ <;> simp
      · simp
  intro c hc
  obtain ⟨w, hw, hc⟩ := List.mem_flatMap.mp hc
  exact isOrdinary_of_mem_chars ((he.plainLines ws hws).plain w hw) (hbraces w hw).1 (hbraces w hw).2 hc

/-- So do lines that are laid out. -/
theorem ActionEntry.Spelled.isOrdinary_laidOut {e : ActionEntry} (he : e.Spelled) :
    ∀ c ∈ laidOut e.lines, isOrdinary c = true := by
  intro c hc
  obtain ⟨ws, hws, hc⟩ := List.mem_flatMap.mp hc
  simp only [List.mem_append, List.mem_singleton] at hc
  rcases hc with (hc | hc) | rfl
  · have hmargin : ∀ c ∈ bodyMargin, isOrdinary c = true := List.all_iff_forall_prop.mp (by decide)
    exact hmargin c hc
  · exact he.isOrdinary_lines hws c hc
  · decide

/-- The code of an action holds no quotes, no braces and no comment. -/
theorem ActionEntry.Named.isOrdinary_code {e : ActionEntry} {b : Block} (he : e.Named)
    (hb : e.block = "\x7b" ++ b.code ++ "\x7d") : ∀ c ∈ b.code.toList, isOrdinary c = true := by
  have hlines := he.spelled.isOrdinary_laidOut
  rw [he.lines_eq] at hlines
  rw [ActionEntry.code_eq he.context_isEmpty hb, List.forall_mem_cons]
  exact ⟨by decide, hlines⟩

/-- **Wherever the block of an action starts, it is read back as a block with its code.** -/
theorem ActionEntry.Named.readExactly {e : ActionEntry} {b : Block} (he : e.Named)
    (hb : e.block = "\x7b" ++ b.code ++ "\x7d") : ReadExactly b.code.toList :=
  (readExactly_iff_scanned b.code.toList).2 (scannedCode_of_ordinary (he.isOrdinary_code hb))

end PegTemplate
