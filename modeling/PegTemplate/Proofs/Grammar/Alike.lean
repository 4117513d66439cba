import PegTemplate.Grammar.Reader
import PegTemplate.Proofs.Grammar.Layout

/-!
# Offsets make no difference

* `Tokens.Alike` : the same tokens, at whatever offsets;
* `Outcome.Alike` : what a reader makes of one text and of another is the same, or the complaint is. There is one lemma
  for each reader, each of which takes choices of fewer tokens for granted;
* `SameVerdict` : two sources are read as one grammar, or both are refused for one reason;
* `Grammar.read_laidOut` : **the layout of a source makes no difference.**
-/

namespace PegTemplate

/-! ## Tokens -/

/-- The same tokens at whatever offsets, up to the end of the source. -/
inductive Tokens.Alike : Tokens → Tokens → Prop
  | done (p p' : Nat) : Alike (.done p) (.done p')
  | cons (p p' : Nat) (t : Token) {ts ts' : Tokens} (h : Alike ts ts') : Alike (.cons p t ts) (.cons p' t ts')

namespace Tokens.Alike

variable {ts ts' : Tokens}

theorem of_lists {l : List Token} (h : ts.Lists l) (h' : ts'.Lists l) : ts.Alike ts' := by
  induction h generalizing ts' with
  | done p =>
    cases h' with
    | done p' => exact .done p p'
  | cons p t _ ih =>
    cases h' with
    | cons p' _ h' => exact .cons p p' t (ih h')

theorem length_eq (h : ts.Alike ts') : ts'.length = ts.length := by
  induction h with
  | done => rfl
  | cons _ _ _ _ ih => rw [length, length, ih]

theorem halt?_eq (h : ts.Alike ts') : ts.halt? = none ∧ ts'.halt? = none := by
  cases h with
  | done => exact ⟨rfl, rfl⟩
  | cons => exact ⟨rfl, rfl⟩

theorem symm (h : ts.Alike ts') : ts'.Alike ts := by
  induction h with
  | done p p' => exact .done p' p
  | cons p p' t _ ih => exact .cons p' p t ih

/-- A mark that is next in one is next in the other. -/
theorem afterMark? (h : ts.Alike ts') {c : Char} {r : Tokens} (hr : ts.afterMark? c = some r) :
    ∃ r', ts'.afterMark? c = some r' ∧ r.Alike r' := by
  unfold Tokens.afterMark? at hr
  split at hr
  · split_ifs at hr with hd
    cases hr
    cases h with
    | cons _ _ _ h => exact ⟨_, if_pos hd, h⟩
  · cases hr

theorem afterMark?_some (h : ts.Alike ts') {c : Char} {r r' : Tokens} (hr : ts.afterMark? c = some r)
    (hr' : ts'.afterMark? c = some r') : r.Alike r' := by
  obtain ⟨s, hs, halike⟩ := h.afterMark? hr
  rw [hs] at hr'
  cases hr'
  exact halike

theorem afterMark?_none (h : ts.Alike ts') {c : Char} (hr : ts.afterMark? c = none) {r' : Tokens} :
    ts'.afterMark? c ≠ some r' := by
  intro hr'
  obtain ⟨s, hs, -⟩ := h.symm.afterMark? hr'
  rw [hr] at hs
  cases hs

/-- Both go on alike behind a mark, if it is next. -/
theorem skipMark (h : ts.Alike ts') (c : Char) : ((ts.afterMark? c).getD ts).Alike ((ts'.afterMark? c).getD ts') := by
  cases hr : ts.afterMark? c with
  | none =>
    cases hr' : ts'.afterMark? c with
    | none => exact h
    | some r' => exact absurd hr' (h.afterMark?_none hr)
  | some r =>
    obtain ⟨r', hr', halike⟩ := h.afterMark? hr
    rw [hr']
    exact halike

theorem atDefinition_eq (h : ts.Alike ts') : ts.atDefinition = ts'.atDefinition := by
  cases h with
  | done => rfl
  | cons _ _ t => cases t <;> rfl

theorem atRuleHead_eq (h : ts.Alike ts') : ts.atRuleHead = ts'.atRuleHead := by
  cases h with
  | done => rfl
  | cons _ _ t h =>
    cases t with
    | name x =>
      have hsign := h.atDefinition_eq
      cases h with
      | done => rfl
      | cons _ _ t h =>
        cases t with
        | literal text flag =>
          have hsign := h.atDefinition_eq
          cases h with
          | done => rfl
          | cons => exact congrArg Except.ok hsign
        | _ => exact congrArg Except.ok hsign
    | _ => rfl

theorem continuesSequence_eq (h : ts.Alike ts') : continuesSequence ts = continuesSequence ts' := by
  have hhead := h.atRuleHead_eq
  cases h with
  | done => rfl
  | cons _ _ t =>
    cases t with
    | block code => rfl
    | mark c => rfl
    | _ => exact congrArg (Except.map (!·)) hhead

end Tokens.Alike

/-! ## Readers -/

/-- Two readers read the same expression, have the same blocks and go on alike, or they have the same complaint. -/
inductive Outcome.Alike {α : Type} {used used' : Nat} {ts ts' : Tokens} :
    Except ReadError (Read α ts used) → Except ReadError (Read α ts' used') → Prop
  | ok {r : Read α ts used} {r' : Read α ts' used'} (hv : r.value = r'.value) (hb : r.blocks = r'.blocks)
    (hr : r.rest.Alike r'.rest) : Alike (.ok r) (.ok r')
  | error {e e' : ReadError} (h : e.cause = e'.cause) : Alike (.error e) (.error e')

/-- What holds of two complaints with one cause, and of what was read alike, holds of any two such outcomes. -/
@[elab_as_elim]
theorem Outcome.Alike.elim {α : Type} {used used' : Nat} {ts ts' : Tokens}
    {motive : Except ReadError (Read α ts used) → Except ReadError (Read α ts' used') → Prop}
    {x : Except ReadError (Read α ts used)} {x' : Except ReadError (Read α ts' used')} (h : Outcome.Alike x x')
    (herror : ∀ e e', e.cause = e'.cause → motive (.error e) (.error e'))
    (hok : ∀ r r', r.value = r'.value → r.blocks = r'.blocks → r.rest.Alike r'.rest → motive (.ok r) (.ok r')) :
    motive x x' := by
  cases h with
  | error he => exact herror _ _ he
  | ok hv hb hr => exact hok _ _ hv hb hr

/-- Both have the mark next and go on behind it, or neither has it. -/
theorem Outcome.Alike.mark {β : Type} {used₁ used₂ : Nat} {ts ts' ts₁ ts₂ : Tokens} (h : ts.Alike ts') (c : Char)
    {x : Except ReadError (Read β ts₁ used₁)} {x' : Except ReadError (Read β ts₂ used₂)}
    {f : ∀ r, ts.afterMark? c = some r → Except ReadError (Read β ts₁ used₁)}
    {f' : ∀ r, ts'.afterMark? c = some r → Except ReadError (Read β ts₂ used₂)} (hx : Outcome.Alike x x')
    (hf : ∀ r r' hm hm', r.Alike r' → Outcome.Alike (f r hm) (f' r' hm')) :
    Outcome.Alike (match hm : ts.afterMark? c with | none => x | some r => f r hm)
      (match hm : ts'.afterMark? c with | none => x' | some r => f' r hm) := by
  split
  · rename_i hm
    split
    · exact hx
    · rename_i hm'
      exact absurd hm' (h.afterMark?_none hm)
  · rename_i r hm
    split
    · rename_i hm'
      exact absurd hm (h.symm.afterMark?_none hm')
    · rename_i r' hm'
      exact hf r r' hm hm' (h.afterMark?_some hm hm')

/-- Choices of fewer than `k` tokens are read alike. -/
def ChoicesAlike (k : Nat) : Prop := ∀ (before : List Block) (ts ts' : Tokens), ts.length < k → ts.Alike ts' →
  Outcome.Alike (readChoice before ts) (readChoice before ts')

section
variable {k : Nat} {before : List Block} {ts ts' : Tokens}

theorem readPrimary_alike (ih : ChoicesAlike k) (hk : ts.length ≤ k) (h : ts.Alike ts') :
    Outcome.Alike (readPrimary before ts) (readPrimary before ts') := by
  cases h with
  | done =>
    rw [readPrimary, readPrimary]
    exact .error rfl
  | @cons p p' t r r' h =>
    cases t with
    | mark c =>
      rw [readPrimary, readPrimary]
      split_ifs
      · exact .ok rfl rfl h
      · refine (ih before r r' (by rw [Tokens.length] at hk; omega) h).elim (fun _ _ he => .error he)
          fun body body' hv hb hr => ?_
        dsimp only
        rw [hr.halt?_eq.1, hr.halt?_eq.2]
        exact .mark hr ')' (.error rfl) fun _ _ _ _ hrest => .ok hv hb hrest
      · exact .error rfl
    | name x =>
      rw [readPrimary, readPrimary]
      exact .ok rfl rfl h
    | literal text flag =>
      rw [readPrimary, readPrimary]
      exact .ok rfl rfl h
    | charClass m =>
      rw [readPrimary, readPrimary]
      exact .ok rfl rfl h
    | block code =>
      rw [readPrimary, readPrimary]
      exact .error rfl
    | arrow =>
      rw [readPrimary, readPrimary]
      exact .error rfl
    | equals doubled =>
      rw [readPrimary, readPrimary]
      exact .error rfl

theorem readRepetition_alike {r : Read Node ts 1} {r' : Read Node ts' 1} (hv : r.value = r'.value)
    (hb : r.blocks = r'.blocks) (hr : r.rest.Alike r'.rest) :
    Outcome.Alike (readRepetition r) (readRepetition r') := by
  obtain ⟨v, bs, rest, hf⟩ := r
  obtain ⟨v', bs', rest', hf'⟩ := r'
  subst hv hb
  dsimp only at hr
  cases hr with
  | done => exact .ok rfl rfl (.done ..)
  | cons p p' t h =>
    cases t with
    | mark c =>
      unfold readRepetition
      dsimp only
      cases repetition? c with
      | none => exact .ok rfl rfl (.cons _ _ _ h)
      | some kind => exact .ok rfl rfl h
    | _ => exact .ok rfl rfl (.cons _ _ _ h)

theorem readSuffixed_alike (ih : ChoicesAlike k) (hk : ts.length ≤ k) (h : ts.Alike ts') :
    Outcome.Alike (readSuffixed before ts) (readSuffixed before ts') := by
  rw [readSuffixed, readSuffixed]
  exact (readPrimary_alike ih hk h).elim (fun _ _ he => .error he) fun _ _ => readRepetition_alike

theorem readPrefixed_alike (ih : ChoicesAlike k) (hk : ts.length ≤ k) (h : ts.Alike ts') :
    Outcome.Alike (readPrefixed before ts) (readPrefixed before ts') := by
  have hsuffixed : Outcome.Alike (readSuffixed before ts) (readSuffixed before ts') := readSuffixed_alike ih hk h
  cases h with
  | done =>
    rw [readPrefixed, readPrefixed]
    · exact hsuffixed
    all_goals simp
  | @cons p p' t r r' h =>
    cases t with
    | mark c =>
      rw [readPrefixed, readPrefixed]
      cases operator? c with
      | none => exact hsuffixed
      | some f =>
        exact (readSuffixed_alike ih (by rw [Tokens.length] at hk; omega) h).elim (fun _ _ he => .error he)
          fun _ _ hv hb hr => .ok (congrArg f hv) hb hr
    | _ =>
      rw [readPrefixed, readPrefixed]
      · exact hsuffixed
      all_goals simp

theorem readItem_alike (ih : ChoicesAlike k) (hk : ts.length ≤ k) (h : ts.Alike ts') :
    Outcome.Alike (readItem before ts) (readItem before ts') := by
  have hprefixed : Outcome.Alike (readPrefixed before ts) (readPrefixed before ts') := readPrefixed_alike ih hk h
  cases h with
  | done =>
    rw [readItem, readItem]
    · exact hprefixed
    all_goals simp
  | @cons p p' t r r' h =>
    cases t with
    | name label =>
      rw [readItem, readItem, h.halt?_eq.1, h.halt?_eq.2]
      refine .mark h ':' hprefixed fun body body' hm _ hbody => ?_
      have hlt := Tokens.afterMark?_length hm
      split_ifs
      · exact .error rfl
      · exact (readPrefixed_alike ih (by rw [Tokens.length] at hk; omega) hbody).elim (fun _ _ he => .error he)
          fun _ _ hv hb hr => .ok (congrArg (Node.labeled label) hv) hb hr
    | _ =>
      rw [readItem, readItem]
      · exact hprefixed
      all_goals simp

theorem readSequence_alike (ih : ChoicesAlike k) (hk : ts.length ≤ k) (h : ts.Alike ts') :
    Outcome.Alike (readSequence before ts) (readSequence before ts') := by
  induction hn : ts.length using Nat.strongRecOn generalizing before ts ts' with
  | ind n ihn =>
    subst hn
    rw [readSequence, readSequence, ← h.continuesSequence_eq]
    cases continuesSequence ts with
    | error e => exact .error rfl
    | ok more =>
      cases more with
      | false => exact .ok rfl rfl h
      | true =>
        dsimp only
        refine (readItem_alike ih hk h).elim (fun _ _ he => .error he) fun item item' hv hb hr => ?_
        have hlt := item.fewer
        dsimp only
        rw [← hb]
        exact (ihn _ (by omega) (by omega) hr rfl).elim (fun _ _ he => .error he)
          fun _ _ hv' hb' hr' => .ok (by simp only [Read.mono, Read.map, hv, hv']) hb' hr'

theorem readAction_alike {r : Read Node ts 0} {r' : Read Node ts' 0} (hv : r.value = r'.value)
    (hb : r.blocks = r'.blocks) (hr : r.rest.Alike r'.rest) :
    Outcome.Alike (readAction r) (readAction r') := by
  obtain ⟨v, bs, rest, hf⟩ := r
  obtain ⟨v', bs', rest', hf'⟩ := r'
  subst hv hb
  dsimp only at hr
  cases hr with
  | done => exact .ok rfl rfl (.done ..)
  | cons p p' t h =>
    cases t with
    | block code =>
      unfold readAction
      dsimp only
      cases firstRepeat? [] v.itemLabels with
      | none => exact .ok rfl rfl h
      | some l => exact .error rfl
    | _ => exact .ok rfl rfl (.cons _ _ _ h)

theorem readAlternative_alike (ih : ChoicesAlike k) (hk : ts.length ≤ k) (h : ts.Alike ts') :
    Outcome.Alike (readAlternative before ts) (readAlternative before ts') := by
  rw [readAlternative, readAlternative]
  refine (readSequence_alike ih hk h).elim (fun _ _ he => .error he) fun items items' hv hb hr => ?_
  have hnode : (items.map Node.ofItems).value = (items'.map Node.ofItems).value := congrArg Node.ofItems hv
  exact readAction_alike hnode hb hr

theorem readAlternatives_alike (ih : ChoicesAlike k) (hk : ts.length ≤ k) (h : ts.Alike ts') :
    Outcome.Alike (readAlternatives before ts) (readAlternatives before ts') := by
  induction hn : ts.length using Nat.strongRecOn generalizing before ts ts' with
  | ind n ihn =>
    subst hn
    rw [readAlternatives, readAlternatives, h.halt?_eq.1, h.halt?_eq.2]
    refine .mark h '/' (.ok rfl rfl h) fun rest rest' hm _ hrest => ?_
    have hlt := Tokens.afterMark?_length hm
    refine (readAlternative_alike ih (by omega) hrest).elim (fun _ _ he => .error he) fun next next' hv hb hr => ?_
    have hfewer := next.fewer
    dsimp only
    rw [← hb]
    exact (ihn _ (by omega) (by omega) hr rfl).elim (fun _ _ he => .error he)
      fun _ _ hv' hb' hr' => .ok (by simp only [Read.mono, Read.map, hv, hv']) hb' hr'

end

/-- Choices of the same tokens are read alike. -/
theorem readChoice_alike {before : List Block} {ts ts' : Tokens} (h : ts.Alike ts') :
    Outcome.Alike (readChoice before ts) (readChoice before ts') := by
  induction hn : ts.length using Nat.strongRecOn generalizing before ts ts' with
  | ind n ihn =>
    subst hn
    have ih : ChoicesAlike ts.length := fun before ts₁ ts₂ hlt halike => ihn _ hlt halike rfl
    rw [readChoice, readChoice]
    refine (readAlternative_alike ih (Nat.le_refl _) h).elim (fun _ _ he => .error he)
      fun first first' hv hb hr => ?_
    have hfewer := first.fewer
    dsimp only
    rw [← hb]
    exact (readAlternatives_alike ih (by omega) hr).elim (fun _ _ he => .error he)
      fun _ _ hv' hb' hr' => .ok (by simp only [Read.mono, Read.map, hv, hv']) hb' hr'

/-! ## Definitions -/

theorem readDisplay_alike {ts ts' : Tokens} (h : ts.Alike ts') : ∃ d r r', readDisplay ts = .ok (d, r) ∧
    readDisplay ts' = .ok (d, r') ∧ r.1.Alike r'.1 := by
  cases h with
  | done p p' => exact ⟨_, _, _, rfl, rfl, .done p p'⟩
  | cons p p' t h =>
    cases t with
    | literal text flag => exact ⟨_, _, _, rfl, rfl, h⟩
    | _ => exact ⟨_, _, _, rfl, rfl, .cons p p' _ h⟩

theorem readDefinitionSign_alike {ts ts' : Tokens} (h : ts.Alike ts') :
    (∃ r r', readDefinitionSign ts = .ok r ∧ readDefinitionSign ts' = .ok r' ∧ r.1.Alike r'.1) ∨
      ∃ e e', readDefinitionSign ts = .error e ∧ readDefinitionSign ts' = .error e' ∧ e.cause = e'.cause := by
  cases h with
  | done => exact Or.inr ⟨_, _, rfl, rfl, rfl⟩
  | cons p p' t h =>
    cases t with
    | arrow => exact Or.inl ⟨_, _, rfl, rfl, h⟩
    | equals doubled => exact Or.inl ⟨_, _, rfl, rfl, h⟩
    | _ => exact Or.inr ⟨_, _, rfl, rfl, rfl⟩

theorem readRule_alike {before : List Block} {ts ts' : Tokens} (h : ts.Alike ts') :
    Outcome.Alike (readRule before ts) (readRule before ts') := by
  cases h with
  | done => exact .error rfl
  | cons p p' t h =>
    cases t with
    | name x =>
      obtain ⟨d, r, r', hd, hd', hr⟩ := readDisplay_alike h
      unfold readRule
      dsimp only
      rw [hd, hd']
      dsimp only
      rcases readDefinitionSign_alike hr with ⟨s, s', hs, hs', halike⟩ | ⟨e, e', he, he', hcause⟩
      · rw [hs, hs']
        dsimp only
        refine (readChoice_alike halike).elim (fun _ _ he => .error he) fun body body' hv hb hrest => ?_
        dsimp only
        rw [hrest.halt?_eq.1, hrest.halt?_eq.2]
        exact .ok (congrArg (Rule.mk x d) hv) hb (hrest.skipMark ';')
      · rw [he, he']
        exact .error hcause
    | _ => exact .error rfl

/-- The same was read, or there is the same complaint. -/
inductive SameResult {α : Type} : Except ReadError α → Except ReadError α → Prop
  | ok (x : α) : SameResult (.ok x) (.ok x)
  | error {e e' : ReadError} (h : e.cause = e'.cause) : SameResult (.error e) (.error e')

/-- Rules of the same tokens are read alike. -/
theorem readRules_alike {names : List String} {before : List Block} {ts ts' : Tokens} (h : ts.Alike ts') :
    SameResult (readRules names before ts) (readRules names before ts') := by
  induction hn : ts.length using Nat.strongRecOn generalizing names before ts ts' with
  | ind n ihn =>
    subst hn
    have hrule : Outcome.Alike (readRule before ts) (readRule before ts') := readRule_alike h
    cases h with
    | done p p' =>
      rw [readRules, readRules]
      split_ifs
      · exact .error rfl
      · exact .ok _
    | @cons p p' t rest rest' h =>
      rw [readRules, readRules]
      · refine hrule.elim (fun _ _ he => .error he) fun r r' hv hb hr => ?_
        have hlt := r.fewer
        have hmore : SameResult (readRules (r.value.name :: names) r.blocks r.rest)
            (readRules (r.value.name :: names) r.blocks r'.rest) := ihn _ (by omega) hr rfl
        dsimp only
        rw [← hv, ← hb]
        split_ifs
        · exact .error rfl
        · generalize readRules (r.value.name :: names) r.blocks r.rest = x at hmore ⊢
          generalize readRules (r.value.name :: names) r.blocks r'.rest = x' at hmore ⊢
          cases hmore with
          | ok x => exact .ok _
          | error he => exact .error he
      all_goals simp

/-! ## Sources -/

/-- Two sources are read as one grammar, or both are refused for one reason. -/
inductive SameVerdict : Except GrammarError Grammar → Except GrammarError Grammar → Prop
  | read (g : Grammar) : SameVerdict (.ok g) (.ok g)
  | unreadable (p p' : Position) (cause : ReadError.Cause) :
    SameVerdict (.error (.unreadable p cause)) (.error (.unreadable p' cause))
  | refused (e : GrammarError) : SameVerdict (.error e) (.error e)

theorem Grammar.read_alike {a b : String} (h : (tokenize a.toList).Alike (tokenize b.toList)) :
    SameVerdict (Grammar.read a) (Grammar.read b) := by
  have hrules : SameResult (readRules [] [] (tokenize a.toList)) (readRules [] [] (tokenize b.toList)) :=
    readRules_alike h
  unfold Grammar.read
  generalize readRules [] [] (tokenize a.toList) = x at hrules ⊢
  generalize readRules [] [] (tokenize b.toList) = y at hrules ⊢
  cases hrules with
  | @error e e' he =>
    dsimp only [ReadError.inText]
    rw [he]
    exact .unreadable ..
  | ok x =>
    obtain ⟨rules, blocks⟩ := x
    dsimp only
    cases undefinedReference? rules with
    | some x => exact .refused _
    | none => exact .read _

/-- **The layout of a source makes no difference**: two sources of the same words are read as one grammar, or both are
refused for one reason. -/
theorem Grammar.read_laidOut {ws : List (List Char)} (hws : ∀ w ∈ ws, (tokenOf? w).isSome = true) {a b : String}
    (ha : LaidOut ws a.toList) (hb : LaidOut ws b.toList) : SameVerdict (Grammar.read a) (Grammar.read b) :=
  Grammar.read_alike (.of_lists (tokensFrom_laidOut ha hws 0) (tokensFrom_laidOut hb hws 0))

/-- A rule with a literal, a label, a class and a block. -/
def greetingWords : List (List Char) :=
  ["greeting", "=", "\"hello\"i", "name", ":", "[a-z]", "+", "{ return name }"].map String.toList

/-- Blanks between the words. -/
def greetingBlanks : List (List Char) := [] :: List.replicate 7 [' ']

/-- Lines, and comments of each kind, between the words. -/
def greetingLines : List (List Char) :=
  ['#' :: (" a rule".toList ++ ['\n']), [' '], ' ' :: '/' :: '/' :: (" of two parts".toList ++ ['\n']), ['\r', '\n'],
    ' ' :: '/' :: '*' :: (" a word ".toList ++ ['*', '/', ' ']), [' '], ['\t'], ['\n', '\t']]

theorem filler_greetingLines : ∀ f ∈ greetingLines, Filler f := by
  have hblanks : ∀ cs : List Char, cs.all isLayout = true → Filler cs := fun _ h => .of_blanks (List.all_eq_true.mp h)
  rw [greetingLines]
  simp only [List.forall_mem_cons]
  refine ⟨.hash (by decide) .nil, hblanks _ (by decide), .blank rfl (.slashes (by decide) .nil), hblanks _ (by decide),
    .blank rfl (.enclosed (by decide +kernel) (hblanks _ (by decide))), hblanks _ (by decide), hblanks _ (by decide),
    hblanks _ (by decide), List.forall_mem_nil _⟩

example : String.ofList (layOut ['\n'] (greetingLines.zip greetingWords)) = "# a rule\ngreeting = // of two parts\n" ++
    "\"hello\"i\r\nname /* a word */ : [a-z]\t+\n\t{ return name }\n" := by decide

theorem greeting_read :
    let words := greetingWords
    let line := layOut [] (greetingBlanks.zip words)
    let lines := layOut ['\n'] (greetingLines.zip words)
    (∀ w ∈ words, (tokenOf? w).isSome = true) ∧ LaidOut words line ∧ LaidOut words lines ∧
      ∃ g, Grammar.read (String.ofList line) = .ok g ∧ Grammar.read (String.ofList lines) = .ok g := by
  intro words line lines
  have hwords : ∀ w ∈ words, (tokenOf? w).isSome = true := List.all_iff_forall_prop.mp (by decide +kernel)
  have hblanks : ∀ p ∈ greetingBlanks.zip words, Filler p.1 := by
    have hall : ∀ f ∈ greetingBlanks, f.all isLayout = true := by decide
    exact fun p hp => .of_blanks (List.all_eq_true.mp (hall p.1 (List.of_mem_zip hp).1))
  have hfillers : ∀ p ∈ greetingLines.zip words, Filler p.1 :=
    fun p hp => filler_greetingLines p.1 (List.of_mem_zip hp).1
  have hline : LaidOut words line := laidOut_layOut .nil .nil hblanks (by decide)
  have hlast : Filler ['\n'] := .of_blanks (List.all_eq_true.mp (by decide))
  have hlines : LaidOut words lines := laidOut_layOut hlast (.cons rfl _) hfillers (by decide)
  refine ⟨hwords, hline, hlines, ?_⟩
  have hok : (Grammar.read (String.ofList line)).isOk = true := by decide +kernel
  have hsame := Grammar.read_laidOut hwords (a := String.ofList line) (b := String.ofList lines)
    (by rwa [String.toList_ofList]) (by rwa [String.toList_ofList])
  generalize Grammar.read (String.ofList line) = x at hok hsame ⊢
  generalize Grammar.read (String.ofList lines) = y at hsame ⊢
  cases hsame with
  | read g => exact ⟨g, rfl, rfl⟩
  | unreadable => cases hok
  | refused => cases hok

end PegTemplate
