import PegTemplate.Proofs.Template.Called
import PegTemplate.Proofs.Template.Written

/-!
# Whether the block of an action is valid

Registration lets every name pass as a parameter. The code of the block is more particular: it assigns to the first
parameter and reads all of them.

* `ActionEntry.Usable` : the block can use the parameters of the action like that;
* `Block.Declarable` : the function of the block can have its parameters;
* `ActionEntry.Spelled.isSome_code?_iff` : the block makes a function exactly if both is so;
* `Parser.compile_invalid_iff` : which block compilation calls invalid;
* `register_valid_iff` : **compilation calls the block of a registered action invalid exactly if its labels or its
  parameters are such names**, and keywords are among those that registration lets pass (`keywordParameter_invalid`).
-/

namespace PegTemplate
open Unicode

/-- The keywords that are values. -/
def constantWords : List String := ["None", "True", "False"]

/-- The first parameter can be assigned to, and none is a keyword without a value. -/
structure ActionEntry.Usable (e : ActionEntry) : Prop where
  assigned : ∀ c ∈ e.parameters.head?, Assignable c
  passed : ∀ p ∈ e.parameters, p ∈ keywords → p ∈ constantWords

/-- The context parameters and the labels are different names, each of which can be a parameter. -/
structure Block.Declarable (b : Block) : Prop where
  distinct : (b.parameters.map normalName).Nodup
  plain : constantName ∉ b.parameters.map normalName

/-! ## The code of a block -/

theorem isSome_mapM {α β : Type} {f : α → Option β} {as : List α} :
    (as.mapM f).isSome = true ↔ ∀ a ∈ as, (f a).isSome = true := by
  induction as with
  | nil => simp
  | cons a as ih =>
    rw [List.mapM_cons, List.forall_mem_cons, ← ih]
    cases f a with
    | none => simp
    | some b => cases as.mapM f <;> simp

/-- A word can be passed on unless it is a keyword without a value. -/
theorem isSome_wordExpr?_iff {p : String} : (wordExpr? p).isSome = true ↔ (p ∈ keywords → p ∈ constantWords) := by
  by_cases hk : p ∈ keywords
  · rw [wordExpr?, if_pos (List.contains_iff_mem.mpr hk)]
    simp only [hk, true_imp_iff, constantWords, List.mem_cons, List.not_mem_nil, or_false]
    split_ifs <;> simp_all
  · simp [wordExpr?_of_notMem hk, hk]

theorem isSome_lineStatements?_contextLine_iff {c : String} :
    (lineStatements? (lineLexemes (contextLine c))).isSome = true ↔ Assignable c := by
  by_cases hc : Assignable c
  · simp [lineStatements?_contextLine hc, hc]
  · simp [lineStatements?_contextLine_eq_none hc, hc]

theorem Block.declarable_iff {b : Block} :
    b.Declarable ↔
      (!distinctNames (b.parameters.map normalName) || (b.parameters.map normalName).contains constantName) = false := by
  rw [Bool.or_eq_false_iff, Bool.not_eq_false', distinctNames_iff, ← Bool.not_eq_true, List.contains_iff_mem]
  exact ⟨fun h => ⟨h.distinct, h.plain⟩, fun h => ⟨h.1, h.2⟩⟩

/-- **The block of an action makes a function exactly if the function can have its parameters and the code can use those
of the action.** -/
theorem ActionEntry.Spelled.isSome_code?_iff {e : ActionEntry} (he : e.Spelled) {b : Block} (hb : b.code = e.code) :
    b.code?.isSome = true ↔ b.Declarable ∧ e.Usable := by
  obtain ⟨k, hk⟩ := he.name
  have hbody : b.body ++ ['\n'] = laidOut e.lines :=
    Block.body_of_normalCode (hb ▸ he.normalCode_code) he.plainLines (lines_ne_nil e)
  have hcall := lineStatements?_callLine_eq (hk ▸ syntheticName_notMem_keywords k : e.name ∉ keywords)
    (hk ▸ normalName_syntheticName k) e.parameters
  have hlines : (e.lines.mapM fun ws => lineStatements? (lineLexemes ws)).isSome = true ↔ e.Usable := by
    have hfirst : ∀ c, c ∈ e.parameters.take 1 ↔ c ∈ e.parameters.head? := by
      intro c
      cases e.parameters <;> simp [eq_comm]
    rw [isSome_mapM, lines, List.forall_mem_append, List.forall_mem_map, List.forall_mem_singleton, hcall,
      Option.isSome_map, isSome_mapM]
    simp only [isSome_lineStatements?_contextLine_iff, isSome_wordExpr?_iff, hfirst]
    exact ⟨fun h => ⟨h.1, h.2⟩, fun h => ⟨h.assigned, h.passed⟩⟩
  rw [Block.code?, hbody, body?_laidOut he.plainLines (lines_ne_nil e), Block.declarable_iff, ← hlines]
  cases hheader : !distinctNames (b.parameters.map normalName) ||
      (b.parameters.map normalName).contains constantName with
  | true => simp
  | false => cases e.lines.mapM fun ws => lineStatements? (lineLexemes ws) <;> simp

/-! ## Compilation -/

theorem BlockAction.isOk_compile (context : List (String × Value)) (b : Block) :
    (BlockAction.compile context b).isOk = b.code?.isSome := by
  rw [BlockAction.compile]
  cases b.code? <;> rfl

theorem BlockAction.compile_eq_error_iff {context : List (String × Value)} {b : Block} {e : GrammarError} :
    BlockAction.compile context b = .error e ↔ b.code? = none ∧ e = .invalidBlock b.index b.fault b.source := by
  rw [BlockAction.compile]
  cases b.code? with
  | none => simp [eq_comm]
  | some code => simp

theorem Grammar.Formed.hasRule_start {g : Grammar} (hg : g.Formed) : g.hasRule g.start = true := by
  obtain ⟨r, hr, hname⟩ := Option.map_eq_some_iff.mp hg.start
  exact List.any_eq_true.mpr ⟨r, List.mem_of_mem_head? hr, beq_iff_eq.mpr hname⟩

/-- Parsing may start from the rules that are asked for if there are such rules. -/
theorem Grammar.Formed.missingRule?_eq_none_iff {g : Grammar} (hg : g.Formed) (allowed : List String) :
    g.missingRule? (if allowed.isEmpty then [g.start] else allowed) = none ↔ ∀ n ∈ allowed, g.hasRule n = true := by
  have hfind : ∀ names : List String, g.missingRule? names = none ↔ ∀ n ∈ names, g.hasRule n = true := by
    intro names
    rw [Grammar.missingRule?, List.find?_eq_none]
    simp
  cases allowed with
  | nil =>
    rw [List.isEmpty_nil, if_pos rfl, hfind, List.forall_mem_singleton]
    exact iff_of_true hg.hasRule_start (List.forall_mem_nil _)
  | cons n names => exact hfind _

/-- The index of a block is its place. -/
theorem Grammar.Formed.index_eq {g : Grammar} (hg : g.Formed) {before after : List Block} {b : Block}
    (h : g.blocks = before ++ b :: after) : b.index = before.length := by
  have hplace : (g.blocks.map (·.index))[before.length]? = some b.index := by
    rw [List.getElem?_map, h, List.getElem?_append_right (Nat.le_refl _), Nat.sub_self]
    rfl
  have hlt : before.length < g.blocks.length := by
    rw [h, List.length_append, List.length_cons]
    omega
  rw [hg.numbered, List.getElem?_range' hlt] at hplace
  simpa using (Option.some.inj hplace).symm

/-- Compilation calls the first block invalid that makes no function. -/
theorem Parser.compile_invalid_iff {source : String} {g : Grammar} (hread : Grammar.read source = .ok g)
    {before after : List Block} {b : Block} (hb : g.blocks = before ++ b :: after) {context : List (String × Value)}
    {allowed : List String} {cached : Bool} :
    (∃ fault text, Parser.compile source context allowed cached = .error (.invalidBlock b.index fault text)) ↔
      (∀ n ∈ allowed, g.hasRule n = true) ∧ (∀ a ∈ before, a.code?.isSome = true) ∧ b.code?.isSome = false := by
  have hg := Grammar.read_formed hread
  have hstarts := hg.missingRule?_eq_none_iff allowed
  rw [Parser.compile, hread]
  dsimp only [bind, Except.bind]
  cases hmissing : g.missingRule? (if allowed.isEmpty then [g.start] else allowed) with
  | some n =>
    rw [hmissing] at hstarts
    refine iff_of_false ?_ fun h => Option.some_ne_none n (hstarts.mpr h.1)
    rintro ⟨fault, text, h⟩
    cases h
  | none =>
    rw [iff_true_intro (hstarts.mp hmissing), true_and]
    constructor
    · rintro ⟨fault, text, h⟩
      cases hactions : g.blocks.mapM (BlockAction.compile context) with
      | ok actions =>
        rw [hactions] at h
        cases h
      | error e =>
        rw [hactions] at h
        cases h
        obtain ⟨before', a, after', hblocks, hbefore, ha⟩ := mapM_eq_error_iff.mp hactions
        obtain ⟨hnone, he⟩ := BlockAction.compile_eq_error_iff.mp ha
        -- the place of a block is its index, so it is this block that fails
        have hindex : b.index = a.index := (GrammarError.invalidBlock.inj he).1
        have hlength : before.length = before'.length := by rw [← hg.index_eq hb, ← hg.index_eq hblocks, hindex]
        obtain ⟨rfl, hrest⟩ := List.append_inj (hb.symm.trans hblocks) hlength
        obtain rfl := (List.cons.inj hrest).1
        simp only [BlockAction.isOk_compile] at hbefore
        exact ⟨hbefore, by rw [hnone]; rfl⟩
    · rintro ⟨hbefore, hnone⟩
      have hactions : g.blocks.mapM (BlockAction.compile context) = .error (.invalidBlock b.index b.fault b.source) := by
        refine mapM_eq_error_iff.mpr ⟨before, b, after, hb, ?_, ?_⟩
        · simpa only [BlockAction.isOk_compile] using hbefore
        · exact BlockAction.compile_eq_error_iff.mpr ⟨Option.isNone_iff_eq_none.mp (by simpa using hnone), rfl⟩
      exact ⟨b.fault, b.source, by rw [hactions]⟩

/-! ## Registered actions -/

/-- Registered actions have names for parameters. -/
theorem spelled_of_register {is : List Insertion} {es : List ActionEntry} {table : List (String × Value)}
    (h : register is = .ok (es, table)) (hnamed : ∀ i ∈ is, i.signature.Named) {e : ActionEntry} (he : e ∈ es) :
    e.Spelled := by
  obtain ⟨i, hi, k, hk⟩ := exists_of_mem_entriesFrom (register_eq_ok_iff.mp h).1 he
  exact Insertion.spelled (hnamed i hi) hk

/-- **Compilation calls the block of a registered action invalid exactly if its labels can't be parameters or its own
parameters are not usable.** The block is read back as it is, wherever it stands. Its code makes a function exactly if
the function can have the labels as parameters, and the parameters of the action are usable. So compilation reports it
as invalid exactly if this is not so, no block before it is invalid, and the rules to start from exist. -/
theorem register_valid_iff {is : List Insertion} {es : List ActionEntry} {table : List (String × Value)}
    (hregistered : register is = .ok (es, table)) (hnamed : ∀ i ∈ is, i.signature.Named) {e : ActionEntry} (he : e ∈ es) :
    ReadExactly e.code.toList ∧ (∀ b : Block, b.code = e.code → (b.code?.isSome = true ↔ b.Declarable ∧ e.Usable)) ∧
      ∀ source g, Grammar.read source = .ok g → ∀ before b after, g.blocks = before ++ b :: after → b.code = e.code →
        ∀ context allowed cached,
          (∃ fault text, Parser.compile source context allowed cached = .error (.invalidBlock b.index fault text)) ↔
            (∀ n ∈ allowed, g.hasRule n = true) ∧ (∀ a ∈ before, a.code?.isSome = true) ∧
              ¬(b.Declarable ∧ e.Usable) := by
  have hspelled := spelled_of_register hregistered hnamed he
  refine ⟨hspelled.readExactly_code, fun b hb => hspelled.isSome_code?_iff hb, ?_⟩
  intro source g hread before b after hb hcode context allowed cached
  rw [Parser.compile_invalid_iff hread hb, ← hspelled.isSome_code?_iff hcode, Bool.not_eq_true]

/-- An action that is given its parameters. -/
def givenAction (names : List String) : Insertion := ⟨.callable 0 "<act all>", .declared [], true, some names⟩

/-- What registration makes of an action whose context is taken as `text`, and which passes a constant on. -/
def constantEntry : ActionEntry := ⟨"action0", .callable 0 "<act all>", ["text", "n", "None"], "text"⟩

/-- The block of that action is valid. -/
theorem constantParameter_valid :
    register [givenAction ["text", " n ", "None"]] = .ok ([constantEntry], actionTable [constantEntry]) ∧
      ReadExactly constantEntry.code.toList ∧ (⟨constantEntry.code, ["n"], 0⟩ : Block).code?.isSome = true := by
  have hregistered : register [givenAction ["text", " n ", "None"]] =
      .ok ([constantEntry], actionTable [constantEntry]) := by rfl
  have hnamed : ∀ i ∈ [givenAction ["text", " n ", "None"]], i.signature.Named := by
    rw [List.forall_mem_singleton]
    exact (nofun : ∀ p ∈ ([] : List Parameter), _)
  obtain ⟨hread, hcode, -⟩ := register_valid_iff hregistered hnamed (List.mem_singleton_self _)
  have hdeclarable : (⟨constantEntry.code, ["n"], 0⟩ : Block).Declarable := ⟨by decide, by decide⟩
  have husable : constantEntry.Usable := by
    refine ⟨?_, by decide⟩
    rintro c ⟨⟩
    exact ⟨by decide, by decide⟩
  exact ⟨hregistered, hread, (hcode ⟨_, ["n"], 0⟩ rfl).mpr ⟨hdeclarable, husable⟩⟩

/-- A template with an action whose first parameter is a keyword. -/
def keywordTemplate : List Part := [.text "start = 'x' ", .insertion (givenAction ["class"])]

/-- Registration lets a keyword pass as a parameter, and compilation calls the block of the action invalid. -/
theorem keywordParameter_invalid : ∃ source table fault text, assembleTemplate keywordTemplate = .ok (source, table) ∧
    Parser.compile source table [] true = .error (.invalidBlock 0 fault text) := by
  have hblocks : ((assembleTemplate keywordTemplate).toOption.any fun a => (Grammar.read a.1).toOption.any fun g =>
      g.blocks.map (fun b => b.code?.isSome) = [false]) = true := by decide +kernel
  cases hassembled : assembleTemplate keywordTemplate with
  | error fault =>
    rw [hassembled] at hblocks
    cases hblocks
  | ok assembled =>
    obtain ⟨source, table⟩ := assembled
    rw [hassembled] at hblocks
    cases hread : Grammar.read source with
    | error fault => simp [Except.toOption, hread] at hblocks
    | ok g =>
      simp only [Except.toOption, hread, Option.any_some, decide_eq_true_eq, List.map_eq_singleton_iff] at hblocks
      obtain ⟨b, hb, hcode⟩ := hblocks
      have hcut : g.blocks = [] ++ b :: [] := hb
      obtain ⟨fault, text, hcompile⟩ := (Parser.compile_invalid_iff hread hcut).mpr
        ⟨List.forall_mem_nil _, List.forall_mem_nil _, hcode⟩
      rw [(Grammar.read_formed hread).index_eq hcut] at hcompile
      exact ⟨source, table, fault, text, rfl, hcompile⟩

end PegTemplate
