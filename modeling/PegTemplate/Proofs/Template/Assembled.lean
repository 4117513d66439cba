import Mathlib.Logic.Relation
import PegTemplate.Proofs.Template.Numbered

/-!
# The grammar of a template follows its parts

* `Insertion.block`, `Part.written` : the text of a part, which depends on how many actions stand before it;
* `templateText`, `templateTable` : the grammar and the table of a template, told part by part;
* `assembleTemplate_eq_ok` : these are what is assembled, if all actions can be registered;
* `Recut` : templates that differ in how their texts are cut;
* `inTurn` : texts and insertions in turn;
* `split_eq_iff_recut` : the texts and insertions of two templates are the same exactly if the templates are recut;
* `assembly_follows` : **the grammar, the table, recutting and splitting follow the parts.**
-/

namespace PegTemplate

/-! ## Part by part -/

/-- The block that calls an insertion as action number `k`. An insertion that cannot be registered has none. -/
def Insertion.block (k : Nat) (i : Insertion) : String :=
  match i.positional with
  | .ok names => ActionEntry.block ⟨syntheticName k, i.value, names, names.headD ""⟩
  | .error _ => ""

/-- The text of a part that `k` actions stand before. -/
def Part.written (k : Nat) : Part → String
  | .text s => s
  | .insertion i => i.block k

/-- The texts of all parts, one after the other. -/
def templateText (parts : List Part) : String :=
  String.join (parts.mapIdx fun j p => p.written (insertions (parts.take j)).length)

/-- The class of contexts, and each action under its number. -/
def templateTable (parts : List Part) : List (String × Value) :=
  (contextClass, .builtin .context) :: (insertions parts).mapIdx fun k i => (syntheticName k, i.value)

theorem Insertion.block_of_entry {i : Insertion} {k : Nat} {e : ActionEntry} (h : i.entry k = .ok e) :
    e.block = i.block k := by
  obtain ⟨hpositional, heq⟩ := Insertion.entry_eq h
  rw [Insertion.block, hpositional]
  exact congrArg ActionEntry.block heq

/-- The block of an action calls it by its number. -/
theorem Insertion.call_infix_block {i : Insertion} {names : List String} (h : i.positional = .ok names) (k : Nat) :
    ("return " ++ syntheticName k ++ "(").toList <:+: (i.block k).toList := by
  rw [Insertion.block, h]
  dsimp only
  rw [ActionEntry.block]
  split_ifs
  · exact ⟨"\x7b ".toList, ") \x7d".toList, by simp⟩
  · exact ⟨("\x7b\n    " ++ names.headD "" ++ " = " ++ contextClass ++
      "(text=text, location=location, options=options)\n    ").toList,
      (", ".intercalate names ++ ")\n\x7d").toList, by simp⟩

theorem actionTable_eq {index : Nat} {is : List Insertion} {es : List ActionEntry} (h : entriesFrom index is = .ok es) :
    es.map (fun e => (e.name, e.value)) = is.mapIdx fun k i => (syntheticName (index + k), i.value) := by
  induction is generalizing index es with
  | nil =>
    cases h
    rfl
  | cons i is ih =>
    obtain ⟨e, es', he, hes, rfl⟩ := entriesFrom_cons_iff.mp h
    have hfirst : (e.name, e.value) = (syntheticName index, i.value) := by rw [(Insertion.entry_eq he).2]
    rw [List.map_cons, ih hes, List.mapIdx_cons, hfirst]
    simp only [Nat.add_assoc, Nat.add_comm 1, Nat.add_zero]

/-- Texts and blocks in turn are the texts of the parts. -/
theorem interleave_split {parts : List Part} {index : Nat} {es : List ActionEntry}
    (h : entriesFrom index (insertions parts) = .ok es) :
    ∃ s ss, (split parts).1 = s :: ss ∧ ss.length = es.length ∧ s ++ interleave es ss =
      String.join (parts.mapIdx fun j p => p.written (index + (insertions (parts.take j)).length)) := by
  induction parts generalizing index es with
  | nil =>
    cases h
    exact ⟨"", [], rfl, rfl, rfl⟩
  | cons p parts ih =>
    cases p with
    | text t =>
      obtain ⟨s, ss, hsplit, hlength, htext⟩ := ih h
      refine ⟨t ++ s, ss, by rw [split, hsplit, prependText], hlength, ?_⟩
      rw [String.append_assoc, htext, List.mapIdx_cons, String.join_cons]
      rfl
    | insertion i =>
      obtain ⟨e, es', he, hes, rfl⟩ := entriesFrom_cons_iff.mp h
      obtain ⟨s, ss, hsplit, hlength, htext⟩ := ih hes
      -- whatever stands behind the insertion has one insertion more before it
      have hcount : ∀ j, index + 1 + (insertions (parts.take j)).length =
          index + (insertions ((Part.insertion i :: parts).take (j + 1))).length := by
        intro j
        rw [List.take_succ_cons]
        show _ = index + (i :: insertions (parts.take j)).length
        rw [List.length_cons]
        omega
      refine ⟨"", s :: ss, by rw [split, hsplit], by rw [List.length_cons, List.length_cons, hlength], ?_⟩
      rw [String.empty_append, interleave, String.append_assoc, htext, List.mapIdx_cons, String.join_cons,
        Insertion.block_of_entry he]
      simp only [hcount]
      rfl

/-- A template is assembled part by part. -/
theorem assembleTemplate_eq_ok {parts : List Part} {es : List ActionEntry} (h : entriesFrom 0 (insertions parts) = .ok es) :
    actionTable es = templateTable parts ∧ assembleTemplate parts = .ok (templateText parts, templateTable parts) := by
  have htable : actionTable es = templateTable parts := by
    rw [actionTable, actionTable_eq h, templateTable]
    simp only [Nat.zero_add]
  obtain ⟨s, ss, hsplit, hlength, htext⟩ := interleave_split h
  simp only [Nat.zero_add] at htext
  have hregister : register (split parts).2 = .ok (es, templateTable parts) := by
    rw [split_eq_insertions, ← htable]
    exact register_eq_ok_iff.mpr ⟨h, rfl⟩
  have hassemble : assemble (split parts).1 es = .ok (templateText parts) := by
    rw [hsplit, assemble, if_pos hlength, htext, templateText]
  refine ⟨htable, ?_⟩
  unfold assembleTemplate
  dsimp only [bind, Except.bind]
  rw [hregister]
  dsimp only
  rw [hassemble]
  rfl

/-! ## Recutting -/

/-- One text is cut in two, or an empty one is put in. -/
inductive CutOnce : List Part → List Part → Prop
  | cut (before after : List Part) (s t : String) :
    CutOnce (before ++ .text (s ++ t) :: after) (before ++ .text s :: .text t :: after)
  | empty (before after : List Part) : CutOnce (before ++ after) (before ++ .text "" :: after)

/-- Templates that differ in how their texts are cut. -/
def Recut : List Part → List Part → Prop := Relation.EqvGen CutOnce

/-- Texts and insertions in turn. -/
def inTurn : List String → List Insertion → List Part
  | s :: ss, i :: is => .text s :: .insertion i :: inTurn ss is
  | s :: _, [] => [.text s]
  | [], _ => []

theorem split_ne_nil (parts : List Part) : (split parts).1 ≠ [] := by
  cases parts with
  | nil => exact List.cons_ne_nil _ _
  | cons p parts =>
    cases p with
    | text s =>
      rw [split]
      cases (split parts).1 <;> exact List.cons_ne_nil _ _
    | insertion i => exact List.cons_ne_nil _ _

/-- There is one text more than there are insertions. -/
theorem length_split (parts : List Part) : (split parts).1.length = (split parts).2.length + 1 := by
  induction parts with
  | nil => rfl
  | cons p parts ih =>
    cases p with
    | text s => rw [split, length_prependText (split_ne_nil parts), ih]
    | insertion i => rw [split, List.length_cons, ih, List.length_cons]

/-- What stands before a template does not change how it is split. -/
theorem split_append_congr {ps qs : List Part} (h : split ps = split qs) (before : List Part) :
    split (before ++ ps) = split (before ++ qs) := by
  induction before with
  | nil => exact h
  | cons p before ih =>
    cases p with
    | text s => rw [List.cons_append, List.cons_append, split, split, ih]
    | insertion i => rw [List.cons_append, List.cons_append, split, split, ih]

theorem prependText_append {gs : List String} (h : gs ≠ []) (s t : String) :
    prependText (s ++ t) gs = prependText s (prependText t gs) := by
  cases gs with
  | nil => exact absurd rfl h
  | cons g gs => rw [prependText, prependText, prependText, String.append_assoc]

theorem CutOnce.split_eq {ps qs : List Part} (h : CutOnce ps qs) : split ps = split qs := by
  cases h with
  | cut before after s t =>
    refine split_append_congr ?_ before
    rw [split, split, split, prependText_append (split_ne_nil after)]
  | empty before after =>
    refine split_append_congr ?_ before
    obtain ⟨g, gs, hsplit⟩ := List.exists_cons_of_ne_nil (split_ne_nil after)
    rw [split, hsplit, prependText, String.empty_append, ← hsplit]

theorem CutOnce.cons {ps qs : List Part} (p : Part) (h : CutOnce ps qs) : CutOnce (p :: ps) (p :: qs) := by
  cases h with
  | cut before after s t => exact .cut (p :: before) after s t
  | empty before after => exact .empty (p :: before) after

namespace Recut

theorem split_eq {ps qs : List Part} (h : Recut ps qs) : split ps = split qs := by
  induction h with
  | rel ps qs h => exact h.split_eq
  | refl ps => rfl
  | symm ps qs _ ih => exact ih.symm
  | trans ps qs rs _ _ ih ih' => exact ih.trans ih'

theorem cons {ps qs : List Part} (p : Part) (h : Recut ps qs) : Recut (p :: ps) (p :: qs) := by
  induction h with
  | rel ps qs h => exact .rel _ _ (h.cons p)
  | refl ps => exact .refl _
  | symm ps qs _ ih => exact .symm _ _ ih
  | trans ps qs rs _ _ ih ih' => exact .trans _ _ _ ih ih'

/-- Every template is recut from its texts and insertions in turn. -/
theorem inTurn_split (parts : List Part) : Recut parts (inTurn (split parts).1 (split parts).2) := by
  induction parts with
  | nil => exact .rel _ _ (.empty [] [])
  | cons p parts ih =>
    obtain ⟨g, gs, hsplit⟩ := List.exists_cons_of_ne_nil (split_ne_nil parts)
    have htail := ih.cons p
    rw [hsplit] at htail
    cases p with
    | text s =>
      -- the text is cut from the first text of the rest
      rw [split, hsplit, prependText]
      refine .trans _ _ _ htail (.symm _ _ ?_)
      cases (split parts).2 with
      | nil => exact .rel _ _ (.cut [] [] s g)
      | cons i is => exact .rel _ _ (.cut [] (.insertion i :: inTurn gs is) s g)
    | insertion i =>
      -- an empty text is put before the insertion
      rw [split, hsplit, inTurn]
      exact .trans _ _ _ htail (.rel _ _ (.empty [] _))

end Recut

/-- **Two templates have the same texts and insertions exactly if they are recut.** -/
theorem split_eq_iff_recut {ps qs : List Part} : split ps = split qs ↔ Recut ps qs := by
  constructor
  · intro h
    have hqs := Recut.inTurn_split qs
    rw [← h] at hqs
    exact .trans _ _ _ (Recut.inTurn_split ps) (.symm _ _ hqs)
  · exact Recut.split_eq

/-- Texts and insertions in turn are split into just these. -/
theorem split_inTurn {segments : List String} {is : List Insertion} (h : segments.length = is.length + 1) :
    split (inTurn segments is) = (segments, is) := by
  induction is generalizing segments with
  | nil =>
    obtain ⟨s, rfl⟩ := List.length_eq_one_iff.mp h
    rw [inTurn, split, split, prependText, String.append_empty]
  | cons i is ih =>
    cases segments with
    | nil => cases h
    | cons s segments =>
      rw [inTurn, split, split, ih (Nat.succ.inj h), prependText, String.append_empty]

/-! ## Templates -/

/-- A template with the same texts and insertions gives the same grammar and table. -/
theorem assembleTemplate_congr {ps qs : List Part} (h : split ps = split qs) : assembleTemplate ps = assembleTemplate qs := by
  rw [assembleTemplate, assembleTemplate, h]

/-- **Assembly follows the parts.** Whatever the parts are, splitting them gives one text more than insertions, and the
insertions in their order. If these can be registered, the table has the class of contexts and, under the name of each
number, the value of the insertion with that number, and no name twice; the text that any compiler gets, with this table,
is made of the parts one by one, where the block of an insertion calls the action that is numbered by the insertions
before it. Two templates have the same texts and insertions exactly if they differ in how their texts are cut, and then
they make the same grammar and table. Texts and insertions in turn, one text more than insertions, are split into
themselves. -/
theorem assembly_follows (parts : List Part) :
    (split parts).1.length = (split parts).2.length + 1 ∧ (split parts).2 = insertions parts ∧
      (∀ es table, register (split parts).2 = .ok (es, table) →
        table = templateTable parts ∧ (table.map Prod.fst).Nodup ∧
          (∀ (k : Nat) (i : Insertion), (insertions parts)[k]? = some i →
            table.lookup (syntheticName k) = some i.value ∧ ∃ names, i.positional = .ok names ∧
              i.block k = ActionEntry.block ⟨syntheticName k, i.value, names, names.headD ""⟩ ∧
              ("return " ++ syntheticName k ++ "(").toList <:+: (i.block k).toList) ∧
          ∀ (m : Type → Type) [Monad m] (α : Type) (compiler : String → List (String × Value) → m α),
            compileTemplate parts compiler = do return .ok (← compiler (templateText parts) table)) ∧
      (∀ qs, split parts = split qs ↔ Recut parts qs) ∧
      (∀ qs, Recut parts qs → assembleTemplate parts = assembleTemplate qs) ∧
      ∀ segments is, segments.length = is.length + 1 → split (inTurn segments is) = (segments, is) := by
  refine ⟨length_split parts, split_eq_insertions parts, ?_, fun qs => split_eq_iff_recut,
    fun qs h => assembleTemplate_congr h.split_eq, fun segments is => split_inTurn⟩
  intro es table hregister
  rw [split_eq_insertions] at hregister
  obtain ⟨hes, rfl⟩ := register_eq_ok_iff.mp hregister
  obtain ⟨htable, hassembled⟩ := assembleTemplate_eq_ok hes
  refine ⟨htable, nodup_actionTable hes, fun k i hi => ?_, fun m _ α compiler => ?_⟩
  · obtain ⟨e, he, hk⟩ := (entriesFrom_eq hes).2 k i hi
    rw [Nat.zero_add] at he
    obtain ⟨hpositional, heq⟩ := Insertion.entry_eq he
    refine ⟨?_, e.parameters, hpositional, ?_, i.call_infix_block hpositional k⟩
    · have hlookup := (lookup_actionTable hes).2 e (List.mem_of_getElem? hk)
      rwa [heq] at hlookup
    · rw [← Insertion.block_of_entry he, ← heq]
  · rw [compileTemplate, hassembled, htable]

/-- An action at the start, and two side by side after a text. The second one is wrapped. -/
def besideTemplate (texts : List Part) : List Part :=
  .insertion ⟨.callable 0 "<first>", .declared [], false, none⟩ :: texts ++
    [.insertion ⟨.callable 1 "<second>", .missing "", true, some [" c "]⟩,
      .insertion ⟨.callable 2 "<third>", .declared [], false, none⟩]

/-- One text in two pieces gives what the whole text gives, and the actions side by side are not mixed up. -/
theorem besideTemplate_assembled : ∃ es table,
    register (split (besideTemplate [.text "a", .text "b"])).2 = .ok (es, table) ∧
      table.lookup "action1" = some (.callable 1 "<second>") ∧
      table.lookup "action2" = some (.callable 2 "<third>") ∧
      compileTemplate (m := Id) (besideTemplate [.text "a", .text "b"]) (fun grammar _ => grammar) =
        Except.ok ("\x7b return action0() \x7dab\x7b\n    c = ActionContext(text=text, location=location, options=options)\n" ++
          "    return action1(c)\n\x7d\x7b return action2() \x7d") ∧
      assembleTemplate (besideTemplate [.text "a", .text "b"]) = assembleTemplate (besideTemplate [.text "ab"]) ∧
      split (inTurn ["a", "b"] [⟨.none, .declared [], false, none⟩]) = (["a", "b"], [⟨.none, .declared [], false, none⟩]) := by
  have hrecut : Recut (besideTemplate [.text "a", .text "b"]) (besideTemplate [.text "ab"]) :=
    .symm _ _ (.rel _ _ (.cut [_] _ "a" "b"))
  obtain ⟨-, -, hregistered, -, hrecuts, hinTurn⟩ := assembly_follows (besideTemplate [.text "a", .text "b"])
  cases hregister : register (split (besideTemplate [.text "a", .text "b"])).2 with
  | error fault => cases hregister
  | ok registered =>
    obtain ⟨-, -, hactions, hcompiled⟩ := hregistered _ _ hregister
    refine ⟨_, _, rfl, (hactions 1 _ rfl).1, (hactions 2 _ rfl).1, ?_, hrecuts _ hrecut, hinTurn _ _ rfl⟩
    rw [hcompiled]
    exact congrArg Except.ok (by decide +kernel)

end PegTemplate
