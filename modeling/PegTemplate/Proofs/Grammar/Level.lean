import PegTemplate.Proofs.Grammar.Written

/-!
# Reading at a level

* `Follow` : the tokens that may follow an expression of a level;
* `Reads`, `ReadsAt` : what a reader reads from a list of tokens, and what the reader of a level reads. There is one
  lemma for each way in which a reader goes on;
* `ReadsAt.mono` : what is read at one level is read at the next ones, if what follows may follow there.
-/

namespace PegTemplate

/-! ## What may follow -/

/-- What comes next starts no definition. -/
def Undefined (ts : List Token) : Prop := ∀ t r, ts = t :: r → t.startsDefinition = false

/-- The tokens that may follow an expression of the level. -/
inductive Follow : (level : Nat) → List Token → Prop
  | any (ts : List Token) : Follow 0 ts
  | item {level : Nat} (hl : level ≤ 3) {t : Token} (ht : t.startsItem = true) {ts : List Token} (hts : Undefined ts) :
    Follow level (t :: ts)
  | block {level : Nat} (hl : level ≤ 4) (code : String) (ts : List Token) : Follow level (.block code :: ts)
  | slash {level : Nat} (hl : level ≤ 5) (ts : List Token) : Follow level (.mark '/' :: ts)
  | mark (level : Nat) {c : Char} (hc : c = ')' ∨ c = ';') (ts : List Token) : Follow level (.mark c :: ts)
  | rule (level : Nat) (x : String) {t : Token} (ht : t.startsDefinition = true) (ts : List Token) :
    Follow level (.name x :: t :: ts)
  | shownRule (level : Nat) (x : String) (text : List CodePoint) (flag : Bool) {t : Token}
    (ht : t.startsDefinition = true) (ts : List Token) : Follow level (.name x :: .literal text flag :: t :: ts)
  | nothing (level : Nat) : Follow level []

theorem Follow.mono {k l : Nat} {ts : List Token} (h : Follow l ts) (hk : k ≤ l) : Follow k ts := by
  cases h with
  | any => exact Nat.le_zero.1 hk ▸ .any ts
  | item hl ht hts => exact .item (Nat.le_trans hk hl) ht hts
  | block hl code ts => exact .block (Nat.le_trans hk hl) code ts
  | slash hl ts => exact .slash (Nat.le_trans hk hl) ts
  | mark _ hc ts => exact .mark k hc ts
  | rule _ x ht ts => exact .rule k x ht ts
  | shownRule _ x text flag ht ts => exact .shownRule k x text flag ht ts
  | nothing => exact .nothing k

/-- No sign of a definition follows an expression. -/
theorem Follow.undefined {k : Nat} {ts : List Token} (h : Follow (k + 1) ts) : Undefined ts := by
  rintro t r rfl
  cases h with
  | item hl ht hts => cases t <;> first | rfl | cases ht
  | _ => rfl

/-- The marks that may follow an expression go on with a sequence, or end it. -/
theorem Follow.mark_mem {k : Nat} {c : Char} {ts : List Token} (h : Follow (k + 1) (.mark c :: ts)) :
    c ∈ ['.', '(', '&', '!', '$', '/', ')', ';'] := by
  cases h with
  | item hl ht hts =>
    simp only [Token.startsItem, Bool.or_eq_true, beq_iff_eq] at ht
    rcases ht with (((rfl | rfl) | rfl) | rfl) | rfl <;> decide
  | slash hl => decide
  | mark _ hc => rcases hc with rfl | rfl <;> decide

/-! ## Reading at a level -/

/-- The reader read `v`, with `blocks` as the blocks so far and the tokens `l` left. -/
def Reads {α : Type} {ts : Tokens} {used : Nat} (x : Except ReadError (Read α ts used)) (v : α) (blocks : List Block)
    (l : List Token) : Prop := ∃ r, x = .ok r ∧ r.value = v ∧ r.blocks = blocks ∧ r.rest.Lists l

/-- The reader of the level reads `n` after the blocks `before`. -/
def ReadsAt (level : Nat) (before : List Block) (ts : Tokens) (n : Node) (blocks : List Block) (l : List Token) : Prop :=
  match level with
  | 0 => Reads (readPrimary before ts) n blocks l
  | 1 => Reads (readSuffixed before ts) n blocks l
  | 2 => Reads (readPrefixed before ts) n blocks l
  | 3 => Reads (readItem before ts) n blocks l
  | 4 => ∃ ns, Reads (readSequence before ts) ns blocks l ∧ Node.ofItems ns = n
  | 5 => Reads (readAlternative before ts) n blocks l
  | _ => Reads (readChoice before ts) n blocks l

section
variable {before blocks : List Block} {ts : Tokens} {n : Node} {l : List Token}

theorem readRepetition_of_follow {r : Read Node ts 1} (hr : r.rest.Lists l) (hl : Follow 1 l) :
    readRepetition r = .ok r := by
  have hnone : ∀ c ∈ ['.', '(', '&', '!', '$', '/', ')', ';'], repetition? c = none :=
    List.all_iff_forall_prop.mp (by decide)
  unfold readRepetition
  split
  · rename_i he
    rw [he] at hr
    cases hr
  · rename_i p c rest he
    rw [he] at hr
    cases hr with
    | cons _ _ _ =>
      split
      · rename_i hk
        rw [hnone c hl.mark_mem] at hk
        cases hk
      · rfl
  · rfl

theorem repetition?_mark (k : Repetition) : repetition? k.mark = some k := by
  cases k <;> rfl

theorem reads_suffixed (h : Reads (readPrimary before ts) n blocks l) (hl : Follow 1 l) :
    Reads (readSuffixed before ts) n blocks l := by
  obtain ⟨r, hr, hv, hb, hrest⟩ := h
  exact ⟨r, by rw [readSuffixed, hr]; exact readRepetition_of_follow hrest hl, hv, hb, hrest⟩

theorem reads_repeated {k : Repetition} (h : Reads (readPrimary before ts) n blocks (.mark k.mark :: l)) :
    Reads (readSuffixed before ts) (.repeated k n) blocks l := by
  obtain ⟨r, hr, rfl, rfl, hrest⟩ := h
  rw [readSuffixed, hr]
  dsimp only
  unfold readRepetition
  split
  · rename_i he
    rw [he] at hrest
    cases hrest
  · rename_i p c rest he
    rw [he] at hrest
    cases hrest with
    | cons _ _ hrest =>
      split
      · rename_i kind hk
        rw [repetition?_mark] at hk
        cases hk
        exact ⟨_, rfl, rfl, rfl, hrest⟩
      · rename_i hk
        rw [repetition?_mark] at hk
        cases hk
  · rename_i hne
    generalize r.rest = rest at hrest hne
    cases hrest with
    | cons p _ hrest => exact absurd rfl (hne p _ _)

/-- A mark in front of an expression is no expression. -/
theorem readPrimary_operator {c : Char} {f : Node → Node} (hc : operator? c = some f) (p : Nat) (rest : Tokens) :
    readPrimary before (.cons p (.mark c) rest) = .error ⟨.unexpected (some c), p⟩ := by
  have hne : c ≠ '.' ∧ c ≠ '(' := by
    constructor <;> rintro rfl <;> cases hc
  rw [readPrimary]
  simp only [hne.1, hne.2, if_false]

theorem reads_prefixed (h : Reads (readSuffixed before ts) n blocks l) : Reads (readPrefixed before ts) n blocks l := by
  unfold readPrefixed
  split
  · split
    · rename_i p c rest f hf
      obtain ⟨r, hr, -⟩ := h
      rw [readSuffixed, readPrimary_operator hf] at hr
      cases hr
    · exact h
  · exact h

theorem reads_operator {c : Char} {f : Node → Node} (hf : operator? c = some f) {p : Nat} {rest : Tokens}
    (h : Reads (readSuffixed before rest) n blocks l) :
    Reads (readPrefixed before (.cons p (.mark c) rest)) (f n) blocks l := by
  obtain ⟨r, hr, rfl, rfl, hrest⟩ := h
  rw [readPrefixed, hf]
  dsimp only
  rw [hr]
  exact ⟨_, rfl, rfl, rfl, hrest⟩

/-- A name is read as a reference, with the mark of a repetition after it at most. -/
theorem readPrefixed_name (p : Nat) (x : String) (rest : Tokens) :
    readPrefixed before (.cons p (.name x) rest) = readRepetition ⟨.ref x, before, rest, Nat.le_refl _⟩ := by
  rw [readPrefixed, readSuffixed, readPrimary]
  all_goals simp

theorem halt?_of_lists (h : ts.Lists l) : ts.halt? = none := by
  cases h <;> rfl

theorem afterMark?_of_lists {c : Char} (h : ts.Lists (.mark c :: l)) : ∃ r, ts.afterMark? c = some r ∧ r.Lists l := by
  cases h with
  | cons p _ h => exact ⟨_, if_pos rfl, h⟩

theorem afterMark?_eq_none {c : Char} (h : ts.Lists l) (hl : ∀ r, l ≠ .mark c :: r) : ts.afterMark? c = none := by
  cases h with
  | done p => rfl
  | cons p t h =>
    cases t with
    | mark d => exact if_neg fun he => hl _ (by rw [he])
    | _ => rfl

theorem atDefinition_of_undefined (h : ts.Lists l) (hl : Undefined l) : ts.atDefinition = false := by
  cases h with
  | done p => rfl
  | cons p t h =>
    have ht := hl _ _ rfl
    cases t with
    | arrow => cases ht
    | equals doubled => exact ht
    | _ => rfl

/-- Where an expression is read up to what may follow it, a name is followed by a repetition mark or by that. -/
theorem lists_of_readPrefixed_name {p : Nat} {x : String} {rest : Tokens}
    (h : Reads (readPrefixed before (.cons p (.name x) rest)) n blocks l) :
    rest.Lists l ∨ ∃ p' c rest' k, rest = .cons p' (.mark c) rest' ∧ repetition? c = some k := by
  obtain ⟨r, hr, -, -, hrest⟩ := h
  rw [readPrefixed_name] at hr
  unfold readRepetition at hr
  split at hr
  · cases hr
  · rename_i p' c rest' he
    split at hr
    · rename_i k hk
      exact Or.inr ⟨p', c, rest', k, he, hk⟩
    · cases hr
      exact Or.inl hrest
  · cases hr
    exact Or.inl hrest

theorem reads_item (h : Reads (readPrefixed before ts) n blocks l) (hl : Follow 3 l) :
    Reads (readItem before ts) n blocks l := by
  unfold readItem
  split
  · rename_i p x rest
    have hcolon : rest.halt? = none ∧ rest.afterMark? ':' = none := by
      rcases lists_of_readPrefixed_name h with hrest | ⟨p', c, rest', k, rfl, hk⟩
      · exact ⟨halt?_of_lists hrest, afterMark?_eq_none hrest (by rintro r rfl; exact absurd hl.mark_mem (by decide))⟩
      · refine ⟨rfl, if_neg ?_⟩
        rintro rfl
        cases hk
    rw [hcolon.1]
    dsimp only
    split
    · exact h
    · rename_i hm
      rw [hcolon.2] at hm
      cases hm
  · exact h

theorem reads_labeled {x : String} (hx : isReserved x = false) {w : List Token}
    (hts : ts.Lists (.name x :: .mark ':' :: w))
    (h : ∀ ts' : Tokens, ts'.Lists w → Reads (readPrefixed before ts') n blocks l) :
    Reads (readItem before ts) (.labeled x n) blocks l := by
  cases hts with
  | cons p _ hrest =>
    obtain ⟨body, hbody, hw⟩ := afterMark?_of_lists hrest
    obtain ⟨r, hr, rfl, rfl, hl⟩ := h body hw
    rw [readItem, halt?_of_lists hrest]
    dsimp only
    split
    · rename_i hm
      rw [hbody] at hm
      cases hm
    · rename_i hm
      rw [hbody] at hm
      cases hm
      rw [if_neg (by simp [hx]), hr]
      exact ⟨_, rfl, rfl, rfl, hl⟩

/-! ### Sequences -/

/-- After a name comes no definition, if what comes may follow an expression. -/
theorem atRuleHead_of_follow {k : Nat} (h : ts.Lists l) (hl : Follow (k + 1) l) (p : Nat) (x : String) :
    (Tokens.cons p (.name x) ts).atRuleHead = .ok false := by
  have hdefinition := atDefinition_of_undefined h hl.undefined
  cases h with
  | done p' => rfl
  | @cons p' t ts' l' h =>
    cases t with
    | literal text flag =>
      cases hl with
      | item hk ht hts =>
        have hrest := atDefinition_of_undefined h hts
        cases h with
        | done p => rfl
        | cons p t h => exact congrArg Except.ok hrest
    | arrow => cases hdefinition
    | equals doubled => exact congrArg Except.ok hdefinition
    | _ => rfl

/-- An item that starts with a name has a label, or is read without one. -/
theorem reads_prefixed_of_item {p : Nat} {x : String} {rest : Tokens} (hrest : rest.afterMark? ':' = none)
    (h : Reads (readItem before (.cons p (.name x) rest)) n blocks l) :
    Reads (readPrefixed before (.cons p (.name x) rest)) n blocks l := by
  obtain ⟨r, hr, hread⟩ := h
  refine ⟨r, ?_, hread⟩
  rw [readItem] at hr
  split at hr
  · cases hr
  · split at hr
    · exact hr
    · rename_i hm
      rw [hrest] at hm
      cases hm

theorem continuesSequence_name (p : Nat) (x : String) (rest : Tokens) :
    continuesSequence (.cons p (.name x) rest) = (Tokens.cons p (.name x) rest).atRuleHead.map (!·) := rfl

theorem continuesSequence_of_reads (h : Reads (readItem before ts) n blocks l) (hl : Follow 1 l) :
    continuesSequence ts = .ok true := by
  cases ts with
  | halted e =>
    obtain ⟨r, hr, -⟩ := h
    simp [readItem, readPrefixed, readSuffixed, readPrimary] at hr
  | done p =>
    obtain ⟨r, hr, -⟩ := h
    simp [readItem, readPrefixed, readSuffixed, readPrimary] at hr
  | broken p c e =>
    obtain ⟨r, hr, -⟩ := h
    by_cases hc : c = '{' <;> simp [readItem, readPrefixed, readSuffixed, readPrimary, hc] at hr
  | cons p t rest =>
    cases t with
    | name x =>
      by_cases hmark : ∃ p' c rest', rest = .cons p' (.mark c) rest'
      · obtain ⟨p', c, rest', rfl⟩ := hmark
        rfl
      · have hcolon : rest.afterMark? ':' = none := by
          unfold Tokens.afterMark?
          split
          · exact absurd ⟨_, _, _, rfl⟩ hmark
          · rfl
        rcases lists_of_readPrefixed_name (reads_prefixed_of_item hcolon h) with hrest | ⟨p', c, rest', k, he, -⟩
        · rw [continuesSequence_name, atRuleHead_of_follow hrest hl]
          rfl
        · exact absurd ⟨p', c, rest', he⟩ hmark
    | literal text flag => rfl
    | charClass m => rfl
    | block code =>
      obtain ⟨r, hr, -⟩ := h
      simp [readItem, readPrefixed, readSuffixed, readPrimary] at hr
    | arrow => rfl
    | equals doubled => rfl
    | mark c =>
      cases hc : endsSequence c with
      | false => exact congrArg (fun b => Except.ok (!b)) hc
      | true =>
        obtain ⟨r, hr, -⟩ := h
        simp only [endsSequence, Bool.or_eq_true, beq_iff_eq] at hc
        rcases hc with ((rfl | rfl) | rfl) | rfl <;>
          simp [readItem, readPrefixed, operator?, readSuffixed, readPrimary] at hr

theorem atDefinition_sign {t : Token} (ht : t.startsDefinition = true) (p : Nat) (rest : Tokens) :
    (Tokens.cons p t rest).atDefinition = true := by
  cases t with
  | arrow => rfl
  | equals doubled => exact ht
  | _ => cases ht

theorem atRuleHead_sign {t : Token} (ht : t.startsDefinition = true) (p : Nat) (x : String) (p' : Nat) (rest : Tokens) :
    (Tokens.cons p (.name x) (.cons p' t rest)).atRuleHead = .ok true := by
  rw [← atDefinition_sign ht p' rest]
  cases t <;> first | rfl | cases ht

theorem atRuleHead_shown (p : Nat) (x : String) (p' : Nat) (text : List CodePoint) (flag : Bool) (p'' : Nat) (t : Token)
    (rest : Tokens) : (Tokens.cons p (.name x) (.cons p' (.literal text flag) (.cons p'' t rest))).atRuleHead =
      .ok (Tokens.cons p'' t rest).atDefinition := rfl

theorem continuesSequence_of_follow (h : ts.Lists l) (hl : Follow 4 l) : continuesSequence ts = .ok false := by
  cases hl with
  | item hk => omega
  | block hk code r => cases h; rfl
  | slash hk r => cases h; rfl
  | mark _ hc r =>
    cases h
    rcases hc with rfl | rfl <;> rfl
  | rule _ x ht r =>
    cases h with
    | cons p _ h =>
      cases h with
      | cons p' t h => rw [continuesSequence_name, atRuleHead_sign ht]; rfl
  | shownRule _ x text flag ht r =>
    cases h with
    | cons p _ h =>
      cases h with
      | cons p' _ h =>
        cases h with
        | cons p'' t h => rw [continuesSequence_name, atRuleHead_shown, atDefinition_sign ht]; rfl
  | nothing => cases h; rfl

theorem reads_nil (h : ts.Lists l) (hl : Follow 4 l) : Reads (readSequence before ts) [] before l := by
  rw [readSequence, continuesSequence_of_follow h hl]
  exact ⟨_, rfl, rfl, rfl, h⟩

theorem reads_cons (h : Reads (readItem before ts) n blocks l) (hl : Follow 1 l) {ns : List Node}
    {blocks' : List Block} {l' : List Token}
    (hs : ∀ ts' : Tokens, ts'.Lists l → Reads (readSequence blocks ts') ns blocks' l') :
    Reads (readSequence before ts) (n :: ns) blocks' l' := by
  rw [readSequence, continuesSequence_of_reads h hl]
  obtain ⟨r, hr, rfl, rfl, hrest⟩ := h
  obtain ⟨more, hmore, rfl, rfl, hlast⟩ := hs r.rest hrest
  dsimp only
  rw [hr]
  dsimp only
  rw [hmore]
  exact ⟨_, rfl, rfl, rfl, hlast⟩

theorem readAction_of_follow {r : Read Node ts 0} (hr : r.rest.Lists l) (hl : Follow 5 l) : readAction r = .ok r := by
  unfold readAction
  split
  · rename_i he
    rw [he] at hr
    cases hr
  · rename_i he
    rw [he] at hr
    cases hr
  · rename_i he
    rw [he] at hr
    cases hr with
    | cons _ _ _ =>
      cases hl with
      | item hk ht hts => cases ht
      | block hk => omega
  · rfl

theorem reads_alternative {ns : List Node} (h : Reads (readSequence before ts) ns blocks l) (hl : Follow 5 l) :
    Reads (readAlternative before ts) (Node.ofItems ns) blocks l := by
  obtain ⟨r, hr, rfl, rfl, hrest⟩ := h
  refine ⟨r.map Node.ofItems, ?_, rfl, rfl, hrest⟩
  rw [readAlternative, hr]
  exact readAction_of_follow hrest hl

theorem reads_readAction {r : Read Node ts 0} {code : String} (hr : r.rest.Lists (.block code :: l))
    (hn : r.value.itemLabels.Nodup) :
    Reads (readAction r) (.action r.value ⟨code, r.value.itemLabels, r.blocks.length⟩)
      (r.blocks ++ [⟨code, r.value.itemLabels, r.blocks.length⟩]) l := by
  unfold readAction
  split
  · rename_i he
    rw [he] at hr
    cases hr
  · rename_i he
    rw [he] at hr
    cases hr
  · rename_i p code' rest he
    rw [he] at hr
    cases hr with
    | cons _ _ hl =>
      split
      · rename_i hrepeat
        rw [firstRepeat?_eq_none_iff.2 ⟨hn, fun _ _ => List.not_mem_nil⟩] at hrepeat
        cases hrepeat
      · exact ⟨_, rfl, rfl, rfl, hl⟩
  · rename_i hne
    generalize r.rest = rest at hr hne
    cases hr with
    | cons p _ hl => exact absurd rfl (hne p _ _)

theorem reads_action {ns : List Node} {code : String} (h : Reads (readSequence before ts) ns blocks (.block code :: l))
    (hn : (Node.ofItems ns).itemLabels.Nodup) :
    Reads (readAlternative before ts)
      (.action (Node.ofItems ns) ⟨code, (Node.ofItems ns).itemLabels, blocks.length⟩)
      (blocks ++ [⟨code, (Node.ofItems ns).itemLabels, blocks.length⟩]) l := by
  obtain ⟨r, hr, rfl, rfl, hrest⟩ := h
  rw [readAlternative, hr]
  exact reads_readAction (r := r.map Node.ofItems) hrest hn

/-! ### Choices -/

theorem reads_last (h : ts.Lists l) (hl : Follow 6 l) : Reads (readAlternatives before ts) [] before l := by
  have hslash : ts.afterMark? '/' = none := afterMark?_eq_none h (by
    rintro r rfl
    cases hl with
    | slash hk => omega
    | item hk => omega
    | mark _ hc => rcases hc with hc | hc <;> cases hc)
  rw [readAlternatives, halt?_of_lists h]
  dsimp only
  split
  · exact ⟨_, rfl, rfl, rfl, h⟩
  · rename_i hm
    rw [hslash] at hm
    cases hm

theorem reads_next {w : List Token} (hts : ts.Lists (.mark '/' :: w))
    (h : ∀ ts' : Tokens, ts'.Lists w → Reads (readAlternative before ts') n blocks l) {ns : List Node}
    {blocks' : List Block} {l' : List Token}
    (hs : ∀ ts' : Tokens, ts'.Lists l → Reads (readAlternatives blocks ts') ns blocks' l') :
    Reads (readAlternatives before ts) (n :: ns) blocks' l' := by
  obtain ⟨rest, hrest, hw⟩ := afterMark?_of_lists hts
  obtain ⟨r, hr, rfl, rfl, hl⟩ := h rest hw
  obtain ⟨more, hmore, rfl, rfl, hlast⟩ := hs r.rest hl
  rw [readAlternatives, halt?_of_lists hts]
  dsimp only
  split
  · rename_i hm
    rw [hrest] at hm
    cases hm
  · rename_i hm
    rw [hrest] at hm
    cases hm
    rw [hr]
    dsimp only
    rw [hmore]
    exact ⟨_, rfl, rfl, rfl, hlast⟩

theorem reads_choice (h : Reads (readAlternative before ts) n blocks l) {ns : List Node} {blocks' : List Block}
    {l' : List Token} (hs : ∀ ts' : Tokens, ts'.Lists l → Reads (readAlternatives blocks ts') ns blocks' l') :
    Reads (readChoice before ts) (Node.ofAlternatives (n :: ns)) blocks' l' := by
  obtain ⟨r, hr, rfl, rfl, hrest⟩ := h
  obtain ⟨more, hmore, rfl, rfl, hlast⟩ := hs r.rest hrest
  rw [readChoice, hr]
  dsimp only
  rw [hmore]
  exact ⟨_, rfl, rfl, rfl, hlast⟩

theorem reads_parentheses {w : List Token} (hts : ts.Lists (.mark '(' :: w))
    (h : ∀ ts' : Tokens, ts'.Lists w → Reads (readChoice before ts') n blocks (.mark ')' :: l)) :
    Reads (readPrimary before ts) n blocks l := by
  cases hts with
  | cons p _ hw =>
    obtain ⟨r, hr, rfl, rfl, hl⟩ := h _ hw
    obtain ⟨rest, hrest, hlast⟩ := afterMark?_of_lists hl
    rw [readPrimary, if_neg (by decide), if_pos rfl, hr]
    dsimp only
    rw [halt?_of_lists hl]
    dsimp only
    split
    · rename_i hm
      rw [hrest] at hm
      cases hm
    · rename_i hm
      rw [hrest] at hm
      cases hm
      exact ⟨_, rfl, rfl, rfl, hlast⟩

/-! ### From one level to the next -/

theorem ReadsAt.succ {k : Nat} (hk : k ≤ 5) (h : ReadsAt k before ts n blocks l) (hl : Follow (k + 1) l) :
    ReadsAt (k + 1) before ts n blocks l := by
  match k, hk, h, hl with
  | 0, _, h, hl => exact reads_suffixed h hl
  | 1, _, h, _ => exact reads_prefixed h
  | 2, _, h, hl => exact reads_item h hl
  | 3, _, h, hl => exact ⟨[n], reads_cons h (hl.mono (by omega)) fun ts' hts' => reads_nil hts' hl, rfl⟩
  | 4, _, h, hl =>
    obtain ⟨ns, hns, hn⟩ := h
    exact hn ▸ reads_alternative hns hl
  | 5, _, h, hl => exact reads_choice h fun ts' hts' => reads_last hts' hl

theorem ReadsAt.mono {j k : Nat} (hjk : j ≤ k) (hk : k ≤ 6) (h : ReadsAt j before ts n blocks l) (hl : Follow k l) :
    ReadsAt k before ts n blocks l := by
  induction hjk with
  | refl => exact h
  | step hjk ih =>
    simp only [Nat.succ_eq_add_one] at hk hl ⊢
    exact (ih (by omega) (hl.mono (Nat.le_succ _))).succ (by omega) hl

end

end PegTemplate
