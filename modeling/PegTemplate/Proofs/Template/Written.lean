import PegTemplate.Proofs.Template.Registered

/-!
# The blocks of all actions

The parameters of an action may be any names, keywords among them, and there may be none.

* `Insertion.spelled` : insertions become actions with such parameters;
* `ActionEntry.code`, `ActionEntry.block_eq_code` : what is between the braces of the block of an action;
* `ActionEntry.Spelled.readExactly` : **a grammar reads the block of any action back as it is**;
* `ActionEntry.Spelled.statements_eq` : **if the code makes a function, that makes the context, if there is a parameter to
  take it, and calls the action by its name.**
-/

namespace PegTemplate
open Unicode

/-- The text between the braces of the block that calls an action. -/
def ActionEntry.code (e : ActionEntry) : String := String.ofList (e.block.toList.drop 1).dropLast

theorem ActionEntry.block_eq_code (e : ActionEntry) : e.block = "\x7b" ++ e.code ++ "\x7d" := by
  have hbraces : ∃ code : String, e.block = "\x7b" ++ code ++ "\x7d" := by
    unfold block
    split
    · exact ⟨" return " ++ e.name ++ "() ", by rw [← String.toList_inj]; simp⟩
    · exact ⟨"\n    " ++ e.context ++ " = " ++ contextClass ++ "(text=text, location=location, options=options)\n"
        ++ "    return " ++ e.name ++ "(" ++ ", ".intercalate e.parameters ++ ")\n", by rw [← String.toList_inj]; simp⟩
  obtain ⟨code, hcode⟩ := hbraces
  have hlist : e.code = code := by
    rw [ActionEntry.code, hcode, ← String.toList_inj]
    simp
  rw [hlist, hcode]

/-- The text between the braces is told by the block. -/
theorem ActionEntry.code_eq_iff {e : ActionEntry} {code : String} :
    code = e.code ↔ e.block = "\x7b" ++ code ++ "\x7d" := by
  rw [e.block_eq_code, ← String.toList_inj, ← String.toList_inj]
  simp [eq_comm]

/-- Each word among names and constants is one of these. -/
theorem exists_wordExpr? {ps : List String} {args : List Expr} (h : ps.mapM wordExpr? = some args) {p : String}
    (hp : p ∈ ps) : ∃ x ∈ args, wordExpr? p = some x := by
  induction ps generalizing args with
  | nil => cases hp
  | cons q ps ih =>
    rw [List.mapM_cons] at h
    cases hq : wordExpr? q with
    | none =>
      rw [hq] at h
      cases h
    | some x =>
      cases hps : ps.mapM wordExpr? with
      | none =>
        rw [hq, hps] at h
        cases h
      | some xs =>
        rw [hq, hps] at h
        cases h
        rcases List.mem_cons.mp hp with rfl | hp
        · exact ⟨x, List.mem_cons_self, hq⟩
        · obtain ⟨y, hy, hword⟩ := ih hps hp
          exact ⟨y, List.mem_cons_of_mem x hy, hword⟩

/-- A word that is no constant is a name, if it is anything. -/
theorem eq_name_of_wordExpr? {p : String} {x : Expr} (h : wordExpr? p = some x) (hp : p ∉ ["None", "True", "False"]) :
    x = .name (normalName p) := by
  simp only [List.mem_cons, List.not_mem_nil, or_false, not_or] at hp
  rw [wordExpr?, if_neg hp.1, if_neg hp.2.1, if_neg hp.2.2] at h
  split_ifs at h
  exact (Option.some.inj h).symm

/-- An insertion whose declared parameters are names becomes an action with names for parameters. -/
theorem Insertion.spelled {i : Insertion} (hi : i.signature.Named) {k : Nat} {e : ActionEntry} (h : i.entry k = .ok e) :
    e.Spelled := by
  obtain ⟨hpositional, heq⟩ := Insertion.entry_eq h
  exact ⟨⟨k, by rw [heq]⟩, i.isName_positional hi hpositional, by rw [heq]⟩

namespace ActionEntry.Spelled

variable {e : ActionEntry} {b : Block} {c : Code}

theorem context_isEmpty_iff (he : e.Spelled) : e.context.isEmpty = true ↔ e.parameters = [] := by
  rw [he.context, String.isEmpty_iff]
  cases hps : e.parameters with
  | nil => exact ⟨fun _ => rfl, fun _ => rfl⟩
  | cons p ps =>
    have hp : isName p.toList = true := he.parameters p (hps ▸ List.mem_cons_self)
    refine ⟨fun hempty => ?_, nofun⟩
    rw [List.headD_cons] at hempty
    rw [hempty] at hp
    cases hp

/-- The code is one line between spaces, or lines that are laid out. -/
theorem code_cases (he : e.Spelled) :
    (∃ ws, e.lines = [ws] ∧ e.code.toList = ' ' :: lineChars ws ++ [' ']) ∨ e.code.toList = '\n' :: laidOut e.lines := by
  have hcode : ∀ b : Block, b.code = e.code → e.block = "\x7b" ++ b.code ++ "\x7d" := fun b hb => code_eq_iff.mp hb
  by_cases hempty : e.parameters = []
  · have hcontext := he.context_isEmpty_iff.mpr hempty
    refine .inl ⟨callLine e.name [], by rw [lines, hempty]; rfl, ?_⟩
    have hline : " return " ++ e.name ++ "() " = e.code := by
      rw [code_eq_iff, ActionEntry.block, if_pos hcontext, ← String.toList_inj]
      simp
    rw [← hline]
    simp [callLine, argumentWords, Word.chars]
  · have hcontext : e.context.isEmpty = false := by rwa [← Bool.not_eq_true, he.context_isEmpty_iff]
    obtain ⟨p, ps, hps⟩ := List.exists_cons_of_ne_nil hempty
    have hlines : e.lines = [contextLine e.context, callLine e.name e.parameters] := by
      rw [lines, he.context, hps]
      rfl
    rw [hlines]
    exact .inr (code_eq (b := ⟨e.code, [], 0⟩) hcontext e.block_eq_code)

/-- The code returns a call of the action by its name, with its parameters. -/
theorem call_infix_code (he : e.Spelled) :
    ("return " ++ e.name ++ "(" ++ ", ".intercalate e.parameters ++ ")").toList <:+: e.code.toList := by
  have hline : lineChars (callLine e.name e.parameters) =
      ("return " ++ e.name ++ "(" ++ ", ".intercalate e.parameters ++ ")").toList := by
    simp [callLine, lineChars_append, lineChars_argumentWords, Word.chars]
  rw [← hline]
  rcases he.code_cases with ⟨ws, hws, hcode⟩ | hcode
  · have hcall : ws = callLine e.name e.parameters := by
      have hmem : callLine e.name e.parameters ∈ e.lines := List.mem_append_right _ (List.mem_singleton_self _)
      rw [hws] at hmem
      exact (List.mem_singleton.mp hmem).symm
    rw [hcode, hcall]
    exact ⟨[' '], [' '], rfl⟩
  · rw [hcode, lines, laidOut, List.flatMap_append, List.flatMap_singleton]
    exact ⟨'\n' :: (laidOut ((e.parameters.take 1).map contextLine) ++ bodyMargin), ['\n'], by simp [laidOut]⟩

theorem lines_ne_nil (e : ActionEntry) : e.lines ≠ [] := by
  unfold lines
  simp

theorem normalCode_code (he : e.Spelled) : normalCode e.code.toList = joinLines (e.lines.map lineChars) := by
  rcases he.code_cases with ⟨ws, hws, hcode⟩ | hcode
  · rw [hcode, hws, normalCode_spaced (he.plainLines ws (hws ▸ List.mem_singleton_self ws))]
  · rw [hcode, normalCode_laidOut he.plainLines (lines_ne_nil e)]

/-- **Wherever the block of an action starts, it is read back as a block with its code.** -/
theorem readExactly_code (he : e.Spelled) : ReadExactly e.code.toList := by
  refine (readExactly_iff_scanned _).mpr (scannedCode_of_ordinary ?_)
  rcases he.code_cases with ⟨ws, hws, hcode⟩ | hcode
  · rw [hcode]
    intro c hc
    rw [List.mem_append, List.mem_cons, List.mem_singleton] at hc
    rcases hc with (rfl | hc) | rfl
    · decide
    · exact he.isOrdinary_lines (hws ▸ List.mem_singleton_self ws) c hc
    · decide
  · rw [hcode, List.forall_mem_cons]
    exact ⟨by decide, he.isOrdinary_laidOut⟩

/-- Lines that make contexts make just these, if they are statements at all. -/
theorem eq_contextStatements {ps : List String} {ls : List (List Statement)}
    (h : (ps.map contextLine).mapM (fun ws => lineStatements? (lineLexemes ws)) = some ls) :
    ls.flatten = ps.map contextStatement := by
  induction ps generalizing ls with
  | nil =>
    cases h
    rfl
  | cons p ps ih =>
    rw [List.map_cons, List.mapM_cons] at h
    by_cases hp : Assignable p
    · rw [lineStatements?_contextLine hp] at h
      cases hps : (ps.map contextLine).mapM fun ws => lineStatements? (lineLexemes ws) with
      | none =>
        rw [hps] at h
        cases h
      | some ks =>
        rw [hps] at h
        cases h
        rw [List.flatten_cons, ih hps]
        rfl
    · rw [lineStatements?_contextLine_eq_none hp] at h
      cases h

/-- **If the code makes a function, its parameters are names and constants, and it calls the action with them.** Before
that it makes the context, if there is a parameter to take it. -/
theorem statements_eq (he : e.Spelled) (hb : b.code = e.code) (hc : b.code? = some c) :
    ∃ args, e.parameters.mapM wordExpr? = some args ∧
      c.statements = (e.parameters.take 1).map contextStatement ++ [.result (some (.call (.name e.name) args []))] := by
  obtain ⟨k, hk⟩ := he.name
  have hbody : b.body ++ ['\n'] = laidOut e.lines :=
    Block.body_of_normalCode (hb ▸ he.normalCode_code) he.plainLines (lines_ne_nil e)
  have hcall := lineStatements?_callLine_eq (hk ▸ syntheticName_notMem_keywords k : e.name ∉ keywords)
    (hk ▸ normalName_syntheticName k) e.parameters
  rw [Block.code?] at hc
  split_ifs at hc
  rw [hbody, body?_laidOut he.plainLines (lines_ne_nil e), lines, List.mapM_append, List.mapM_cons, List.mapM_nil,
    hcall] at hc
  cases hcontext : ((e.parameters.take 1).map contextLine).mapM fun ws => lineStatements? (lineLexemes ws) with
  | none =>
    rw [hcontext] at hc
    cases hc
  | some ls =>
    rw [hcontext] at hc
    cases hargs : e.parameters.mapM wordExpr? with
    | none =>
      rw [hargs] at hc
      cases hc
    | some args =>
      rw [hargs] at hc
      cases hc
      refine ⟨args, rfl, ?_⟩
      rw [List.flatten_append, eq_contextStatements hcontext]
      rfl

end ActionEntry.Spelled

end PegTemplate
