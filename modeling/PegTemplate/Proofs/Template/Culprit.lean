import PegTemplate.Proofs.Template.Assembled

/-!
# The first insertion that is no action

* `Insertion.Acceptable` : an insertion can be an action;
* `Insertion.Misfit`, `Insertion.Offends` : why not, and what is reported of it;
* `Insertion.entry_eq_error_iff` : exactly this is reported;
* `entriesFrom_eq_error_iff` : registration reports the first insertion that is not acceptable;
* `compileTemplate_atomic` : **the compiler is called once if all insertions are acceptable, and else not at all.**
-/

namespace PegTemplate
open Unicode

/-- An insertion can be an action: it can be called, and its parameters are known. -/
structure Insertion.Acceptable (i : Insertion) : Prop where
  callable : i.value.isCallable = true
  given : ∀ names, i.parameters = some names → ∀ n ∈ names, isName (stripped n).toList = true
  declared : i.parameters = none → ∃ ps, i.signature = .declared ps ∧ ∀ p ∈ ps, p.isPositional = true

/-- Why the parameters of an insertion cannot be used. Of several parameters, it is for the first that cannot. -/
inductive Insertion.Misfit (i : Insertion) : SignatureFault → Prop
  | notIdentifier {before after : List String} {n : String} (hgiven : i.parameters = some (before ++ n :: after))
    (hbefore : ∀ p ∈ before, isName (stripped p).toList = true) (hn : isName (stripped n).toList = false) :
    Misfit i (.notIdentifier (stripped n))
  | unavailable {reason : String} (hgiven : i.parameters = none) (hmissing : i.signature = .missing reason) :
    Misfit i (.unavailable reason)
  | notPositional {before after : List Parameter} {p : Parameter} (hgiven : i.parameters = none)
    (hdeclared : i.signature = .declared (before ++ p :: after)) (hbefore : ∀ q ∈ before, q.isPositional = true)
    (hp : p.isPositional = false) : Misfit i (.notPositional p)

/-- What is reported of an insertion that cannot be action number `k`. -/
inductive Insertion.Offends (i : Insertion) (k : Nat) : TemplateError → Prop
  | notCallable (hvalue : i.value.isCallable = false) : Offends i k (.notCallable i.value k)
  | badSignature {fault : SignatureFault} (hvalue : i.value.isCallable = true) (hfault : i.Misfit fault) :
    Offends i k (.badSignature i.value fault)

/-! ## Parameters -/

section Checked
variable {ε α β : Type} {check : α → Bool} {value : α → β} {fault : α → ε}

/-- If each of a list is checked, the first is reported that does not pass. -/
theorem mapM_checked_eq_error_iff {as : List α} {e : ε} :
    (as.mapM fun a => if check a then Except.ok (value a) else .error (fault a)) = .error e ↔
      ∃ before a after, as = before ++ a :: after ∧ (∀ b ∈ before, check b = true) ∧ check a = false ∧ e = fault a := by
  have hok : ∀ a, (if check a then Except.ok (value a) else .error (fault a)).isOk = check a := by
    intro a
    cases check a <;> rfl
  have herror : ∀ a, (if check a then Except.ok (value a) else .error (fault a)) = .error e ↔
      check a = false ∧ e = fault a := by
    intro a
    cases check a <;> simp [eq_comm]
  rw [mapM_eq_error_iff]
  simp only [hok, herror]

/-- If each of a list is checked, there is nothing to report exactly if all pass. -/
theorem isOk_mapM_checked_iff {as : List α} :
    (as.mapM fun a => if check a then Except.ok (value a) else .error (fault a)).isOk = true ↔
      ∀ a ∈ as, check a = true := by
  induction as with
  | nil => exact iff_of_true rfl nofun
  | cons a as ih =>
    rw [List.mapM_cons, List.forall_mem_cons, ← ih]
    cases check a with
    | false => exact iff_of_false nofun nofun
    | true =>
      cases as.mapM fun a => if check a then Except.ok (value a) else .error (fault a) with
      | error e => exact iff_of_false nofun nofun
      | ok bs => exact iff_of_true rfl ⟨rfl, rfl⟩

end Checked

theorem positionalNames_eq_mapM (ps : List Parameter) :
    positionalNames ps = ps.mapM fun p => if p.isPositional then .ok p.name else .error (.notPositional p) := by
  induction ps with
  | nil => rfl
  | cons p ps ih =>
    rw [positionalNames, List.mapM_cons, ← ih]
    cases p.isPositional with
    | false => rfl
    | true => cases positionalNames ps <;> rfl

theorem givenNames_eq_mapM (names : List String) :
    givenNames (names.map stripped) = names.mapM fun n =>
      if isName (stripped n).toList then .ok (stripped n) else .error (.notIdentifier (stripped n)) := by
  induction names with
  | nil => rfl
  | cons n names ih =>
    rw [List.mapM_cons, ← ih, givenNames, givenNames, List.map_cons, List.find?_cons]
    cases isName (stripped n).toList with
    | false => rfl
    | true => cases (names.map stripped).find? fun n => !isName n.toList <;> rfl

namespace Insertion
variable {i : Insertion} {k : Nat}

/-- The parameters of an insertion are refused for just this reason. -/
theorem positional_eq_error_iff {fault : SignatureFault} : i.positional = .error fault ↔ i.Misfit fault := by
  constructor
  · intro h
    rw [positional] at h
    cases hgiven : i.parameters with
    | some names =>
      rw [hgiven] at h
      dsimp only at h
      rw [givenNames_eq_mapM, mapM_checked_eq_error_iff] at h
      obtain ⟨before, n, after, rfl, hbefore, hn, rfl⟩ := h
      exact .notIdentifier hgiven hbefore hn
    | none =>
      rw [hgiven] at h
      cases hsignature : i.signature with
      | missing reason =>
        rw [hsignature] at h
        cases h
        exact .unavailable hgiven hsignature
      | declared ps =>
        rw [hsignature] at h
        dsimp only [Signature.positional] at h
        rw [positionalNames_eq_mapM, mapM_checked_eq_error_iff] at h
        obtain ⟨before, p, after, rfl, hbefore, hp, rfl⟩ := h
        exact .notPositional hgiven hsignature hbefore hp
  · intro h
    cases h with
    | notIdentifier hgiven hbefore hn =>
      rw [positional, hgiven]
      dsimp only
      rw [givenNames_eq_mapM, mapM_checked_eq_error_iff]
      exact ⟨_, _, _, rfl, hbefore, hn, rfl⟩
    | unavailable hgiven hmissing =>
      rw [positional, hgiven, hmissing]
      rfl
    | notPositional hgiven hdeclared hbefore hp =>
      rw [positional, hgiven, hdeclared]
      dsimp only [Signature.positional]
      rw [positionalNames_eq_mapM, mapM_checked_eq_error_iff]
      exact ⟨_, _, _, rfl, hbefore, hp, rfl⟩

/-- **This is reported of an insertion exactly if it is at fault in this way.** -/
theorem entry_eq_error_iff {e : TemplateError} : i.entry k = .error e ↔ i.Offends k e := by
  rw [entry]
  constructor
  · intro h
    split at h
    · rename_i hvalue
      cases hpositional : i.positional with
      | error fault =>
        rw [hpositional] at h
        cases h
        exact .badSignature hvalue (positional_eq_error_iff.mp hpositional)
      | ok names =>
        rw [hpositional] at h
        cases h
    · rename_i hvalue
      cases h
      exact .notCallable (Bool.not_eq_true _ ▸ hvalue)
  · intro h
    cases h with
    | notCallable hvalue => rw [hvalue, if_neg Bool.false_ne_true]
    | badSignature hvalue hfault => rw [hvalue, if_pos rfl, positional_eq_error_iff.mpr hfault]

/-- The parameters of an insertion are known exactly if they are given as names or declared as positional. -/
theorem isOk_positional_iff : i.positional.isOk = true ↔
    (∀ names, i.parameters = some names → ∀ n ∈ names, isName (stripped n).toList = true) ∧
      (i.parameters = none → ∃ ps, i.signature = .declared ps ∧ ∀ p ∈ ps, p.isPositional = true) := by
  rw [positional]
  cases i.parameters with
  | some names =>
    dsimp only
    rw [givenNames_eq_mapM, isOk_mapM_checked_iff]
    simp
  | none =>
    cases i.signature with
    | missing reason => simp [Signature.positional, Except.isOk, Except.toBool]
    | declared ps =>
      dsimp only [Signature.positional]
      rw [positionalNames_eq_mapM, isOk_mapM_checked_iff]
      simp

/-- Just the acceptable insertions become actions. -/
theorem isOk_entry_iff : (i.entry k).isOk = true ↔ i.Acceptable := by
  have hacceptable : i.Acceptable ↔ i.value.isCallable = true ∧ i.positional.isOk = true := by
    rw [isOk_positional_iff]
    exact ⟨fun h => ⟨h.callable, h.given, h.declared⟩, fun h => ⟨h.1, h.2.1, h.2.2⟩⟩
  rw [hacceptable, entry]
  cases i.value.isCallable with
  | false => simp [Except.isOk, Except.toBool]
  | true => cases i.positional <;> simp [Except.isOk, Except.toBool]

theorem Offends.not_acceptable {e : TemplateError} (h : i.Offends k e) : ¬ i.Acceptable := by
  intro hi
  have hok := (isOk_entry_iff (k := k)).mpr hi
  rw [entry_eq_error_iff.mpr h] at hok
  cases hok

end Insertion

/-! ## Registration -/

/-- **Registration reports the first insertion that is not acceptable**, with its number. -/
theorem entriesFrom_eq_error_iff {is : List Insertion} {index : Nat} {e : TemplateError} :
    entriesFrom index is = .error e ↔ ∃ before i after, is = before ++ i :: after ∧ (∀ j ∈ before, j.Acceptable) ∧
      i.Offends (index + before.length) e := by
  constructor
  · intro h
    induction is generalizing index with
    | nil => cases h
    | cons i is ih =>
      rw [entriesFrom] at h
      cases hi : i.entry index with
      | error e' =>
        rw [hi] at h
        cases h
        exact ⟨[], i, is, rfl, List.forall_mem_nil _, Insertion.entry_eq_error_iff.mp hi⟩
      | ok entry =>
        cases his : entriesFrom (index + 1) is with
        | error e' =>
          rw [hi, his] at h
          cases h
          obtain ⟨before, j, after, rfl, hbefore, hj⟩ := ih his
          refine ⟨i :: before, j, after, rfl, List.forall_mem_cons.mpr ⟨?_, hbefore⟩, ?_⟩
          · exact Insertion.isOk_entry_iff.mp (by rw [hi]; rfl)
          · -- its number counts the insertions before it, now with `i`
            rwa [Nat.add_assoc, Nat.add_comm 1] at hj
        | ok entries =>
          rw [hi, his] at h
          cases h
  · rintro ⟨before, i, after, rfl, hbefore, hi⟩
    induction before generalizing index with
    | nil =>
      have hentry : i.entry index = .error e := Insertion.entry_eq_error_iff.mpr hi
      rw [List.nil_append, entriesFrom, hentry]
      rfl
    | cons j before ih =>
      rw [List.forall_mem_cons] at hbefore
      have hj : (j.entry index).isOk = true := Insertion.isOk_entry_iff.mpr hbefore.1
      rw [List.length_cons, ← Nat.add_assoc, Nat.add_right_comm] at hi
      cases hentry : j.entry index with
      | error e' =>
        rw [hentry] at hj
        cases hj
      | ok entry =>
        rw [List.cons_append, entriesFrom, hentry, ih hbefore.2 hi]
        rfl

/-- Where registration succeeds, all insertions are acceptable. -/
theorem acceptable_of_entriesFrom {is : List Insertion} {index : Nat} {es : List ActionEntry}
    (h : entriesFrom index is = .ok es) : ∀ i ∈ is, i.Acceptable := by
  intro i hi
  obtain ⟨n, hn⟩ := List.getElem?_of_mem hi
  obtain ⟨e, he, -⟩ := (entriesFrom_eq h).2 n i hn
  exact Insertion.isOk_entry_iff.mp (by rw [he]; rfl)

/-- What registration reports is reported of the template. -/
theorem assembleTemplate_eq_error {parts : List Part} {e : TemplateError} (h : entriesFrom 0 (insertions parts) = .error e) :
    assembleTemplate parts = .error e := by
  unfold assembleTemplate
  dsimp only [bind, Except.bind]
  rw [split_eq_insertions, register, h]
  rfl

/-! ## Compilation -/

/-- **A template is compiled as a whole or not at all.** If options are given with the default compiler only, they stop no
template. Then either some insertion is not acceptable, and the first one of them is reported, with its number or its value
and with its first parameter that is not acceptable, while the compiler is not called, whatever a call of it would do; or all
are acceptable, and all that happens is one call of the compiler with the assembled text and the complete table, whose
outcome is passed on. -/
theorem compileTemplate_atomic (parts : List Part) (custom : Bool) (options : List String)
    (hoptions : custom = true → options = []) :
    checkOptions custom options = .ok () ∧
      ((∃ before i after e, insertions parts = before ++ i :: after ∧ (∀ j ∈ before, j.Acceptable) ∧
          ¬ i.Acceptable ∧ i.Offends before.length e ∧
          ∀ (m : Type → Type) [Monad m] (α : Type) (compiler : String → List (String × Value) → m α),
            compileTemplate parts compiler = return .error e) ∨
        (∀ i ∈ insertions parts, i.Acceptable) ∧
          ∀ (m : Type → Type) [Monad m] (α : Type) (compiler : String → List (String × Value) → m α),
            compileTemplate parts compiler = do return .ok (← compiler (templateText parts) (templateTable parts))) := by
  constructor
  · cases custom with
    | false => rfl
    | true =>
      rw [hoptions rfl]
      rfl
  · cases hes : entriesFrom 0 (insertions parts) with
    | error e =>
      left
      obtain ⟨before, i, after, hparts, hbefore, hi⟩ := entriesFrom_eq_error_iff.mp hes
      rw [Nat.zero_add] at hi
      refine ⟨before, i, after, e, hparts, hbefore, hi.not_acceptable, hi, fun m _ α compiler => ?_⟩
      rw [compileTemplate, assembleTemplate_eq_error hes]
    | ok es =>
      right
      refine ⟨acceptable_of_entriesFrom hes, fun m _ α compiler => ?_⟩
      rw [compileTemplate, (assembleTemplate_eq_ok hes).2]

/-- An action, one with two parameters that are no names, and a value that cannot be called. -/
def mixedTemplate : List Part :=
  [.text "s = 'a' ", .insertion ⟨.callable 0 "<first>", .declared [], false, none⟩,
    .text " 'b' ", .insertion ⟨.callable 1 "<second>", .declared [], true, some [" c ", " ", "2y"]⟩,
    .insertion ⟨.int 3, .missing "", false, none⟩]

/-- A compiler that counts how often it is called. -/
def countingCompiler (_ : String) (table : List (String × Value)) : StateM Nat Nat := do
  modify (· + 1)
  return table.length

/-- The second action is reported with the first of its parameters that are no names, and no compiler is called. -/
theorem mixedTemplate_culprit : ∃ before i after,
    insertions mixedTemplate = before ++ i :: after ∧ (∀ j ∈ before, j.Acceptable) ∧ ¬ i.Acceptable ∧
      i.Offends before.length (.badSignature (.callable 1 "<second>") (.notIdentifier "")) ∧
      (compileTemplate mixedTemplate countingCompiler).run 0 =
        (.error (.badSignature (.callable 1 "<second>") (.notIdentifier "")), 0) := by
  have hrun : (compileTemplate mixedTemplate countingCompiler).run 0 =
      (.error (.badSignature (.callable 1 "<second>") (.notIdentifier "")), 0) := by rfl
  obtain ⟨-, ⟨before, i, after, e, hparts, hbefore, hi, he, hcompile⟩ | ⟨hall, -⟩⟩ :=
    compileTemplate_atomic mixedTemplate true [] fun _ => rfl
  · rw [hcompile] at hrun
    obtain rfl : e = .badSignature (.callable 1 "<second>") (.notIdentifier "") :=
      Except.error.inj (congrArg Prod.fst hrun)
    exact ⟨before, i, after, hparts, hbefore, hi, he, by rw [hcompile]; rfl⟩
  · cases (hall ⟨.int 3, .missing "", false, none⟩ (by simp [mixedTemplate, insertions, Part.insertion?])).callable

end PegTemplate
