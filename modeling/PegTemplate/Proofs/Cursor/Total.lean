import PegTemplate.Proofs.Cursor.Expression

/-!
# The cursor over a grammar

* `Cursor.atRuleHead_eq` : the look ahead for a definition, which goes back wherever it got to;
* `Cursor.sequence_agrees`, `Cursor.alternatives_agrees`, `Cursor.choice_agrees`, `Cursor.rules_eq` : the loops over
  expressions and definitions, with a turn for each token;
* `Grammar.walk_total` : **the reader with a cursor ends on every text, with the grammar or the refusal of `Grammar.read`
  and with nothing else.**
-/

namespace PegTemplate
open Unicode

variable {src : List Char} {limit : Nat}

/-- A text has no more tokens than characters. -/
theorem tokensFrom_length (pos : Nat) (cs : List Char) : (tokensFrom pos cs).length ≤ cs.length := by
  fun_induction tokensFrom pos cs with
  | case1 => exact Nat.zero_le _
  | case2 => exact Nat.zero_le _
  | case3 => exact Nat.zero_le _
  | case4 pos cs p c rest hs t p' r ht ih =>
    have hskip := skipFrom_length hs
    have htoken := readToken_length ht
    rw [List.length_cons] at hskip
    rw [Tokens.length]
    omega

namespace Tokens

/-- Whether the sign that starts a definition is next, unless a comment before it is not closed. -/
def reachesDefinition (ts : Tokens) : Except ReadError Bool :=
  match ts.halt? with
  | some e => .error e
  | none => .ok ts.atDefinition

variable {p q : Nat} {x : String}

theorem atRuleHead_literal (text : List CodePoint) (flag : Bool) (rest : Tokens) :
    (cons p (.name x) (cons q (.literal text flag) rest)).atRuleHead = rest.reachesDefinition := by
  cases rest with
  | _ => rfl

theorem atRuleHead_other {ts : Tokens} (h : ∀ q text flag rest, ts ≠ cons q (.literal text flag) rest) :
    (cons p (.name x) ts).atRuleHead = ts.reachesDefinition := by
  cases ts with
  | cons q t rest => cases t with
    | literal text flag => exact absurd rfl (h q text flag rest)
    | _ => rfl
  | _ => rfl

end Tokens

namespace Cursor

theorem toks_length (i : Nat) : (toks src i).length ≤ src.length := by
  refine Nat.le_trans (tokensFrom_length i (src.drop i)) ?_
  rw [List.length_drop]
  exact Nat.sub_le ..

/-! ## The start of a definition -/

/-- Two characters are the next ones. -/
theorem starts_pair {j : Nat} {c d : Char} {cs : List Char} (hj : src.drop j = d :: cs) (e : Char) :
    starts src j [c, e] = (decide (d = c) && decide (cs.head? = some e)) := by
  rw [starts, hj]
  cases cs with
  | nil => simp [List.isPrefixOf]
  | cons x xs => simp [List.isPrefixOf, Bool.beq_eq_decide_eq, eq_comm]

/-- A sign that starts a definition is the next token where it stands, and no other token is one. -/
theorem sign_ahead {j : Nat} {c : Char} {cs : List Char} (hj : src.drop j = c :: cs) :
    (starts src j ['<', '-'] = true ∧ tokenAt src j c (readToken j c cs) = .cons j .arrow (toks src (j + 2))) ∨
    (starts src j ['<', '-'] = false ∧ starts src j ['='] = true ∧ tokenAt src j c (readToken j c cs) =
      .cons j (.equals (starts src j ['=', '='])) (toks src (j + 1))) ∨
    (starts src j ['<', '-'] = false ∧ starts src j ['='] = false ∧
      (∀ p rest, tokenAt src j c (readToken j c cs) ≠ .cons p .arrow rest) ∧
      ∀ p b rest, tokenAt src j c (readToken j c cs) ≠ .cons p (.equals b) rest) := by
  rw [starts_pair hj, starts_pair hj, starts_single, (drop_cons hj).2.1]
  by_cases harrow : c = '<' ∧ cs.head? = some '-'
  · obtain ⟨rfl, hhead⟩ := harrow
    refine Or.inl ⟨by simp [hhead], ?_⟩
    rw [readToken, if_neg (by decide), if_neg (by decide), if_neg (by decide), if_pos (by simpa using hhead)]
    rfl
  · refine Or.inr ?_
    have hnot : (decide (c = '<') && decide (cs.head? = some '-')) = false := by simpa using harrow
    by_cases hequals : c = '='
    · subst hequals
      refine Or.inl ⟨hnot, by simp, ?_⟩
      rw [readToken, if_neg (by decide), if_neg (by decide), if_neg (by decide), if_neg (by simp), if_pos rfl]
      simp [tokenAt]
    · refine Or.inr ⟨hnot, by simpa using hequals, ?_⟩
      cases ht : readToken j c cs with
      | error e => simp [tokenAt]
      | ok x =>
        obtain ⟨t, p, r⟩ := x
        unfold readToken at ht
        rw [if_neg hequals] at ht
        split_ifs at ht with h1 h2 h3 h4
        · split at ht <;> cases ht
          simp [tokenAt]
        · split at ht <;> cases ht
          simp [tokenAt]
        · split at ht <;> cases ht
          simp [tokenAt]
        · exact absurd (by simpa using h4) harrow
        · cases ht
          simp [tokenAt]
        · cases ht
          simp [tokenAt]

/-- A token that starts with no quote is no literal. -/
theorem tokenAt_ne_literal {j p : Nat} {c : Char} {cs : List Char} (hc : isQuote c = false) {text : List CodePoint}
    {flag : Bool} {rest : Tokens} : tokenAt src j c (readToken j c cs) ≠ .cons p (.literal text flag) rest := by
  rw [readToken, if_neg (by simp [hc])]
  split_ifs
  · cases readClass j cs with
    | error e => simp [tokenAt]
    | ok x => simp [tokenAt]
  · cases readCode j .plain 0 (j + 1) cs with
    | error e => simp [tokenAt]
    | ok x => simp [tokenAt]
  all_goals simp [tokenAt]

section
variable (hlimit : src.length < limit)
include hlimit

theorem sign_eq {j : Nat} (hs : skip src limit j = .ok j) : sign src j = (toks src j).atDefinition := by
  rw [toks_stable hlimit hs, sign]
  cases hj : src.drop j with
  | nil =>
    rw [starts, starts, hj]
    rfl
  | cons c cs =>
    dsimp only
    rcases sign_ahead hj with ⟨harrow, htoken⟩ | ⟨harrow, hequals, htoken⟩ | ⟨harrow, hequals, hnarrow, hnequals⟩
    · rw [harrow, htoken]
      rfl
    · rw [harrow, hequals, htoken]
      rfl
    · rw [harrow, hequals]
      unfold Tokens.atDefinition
      split
      · rename_i h
        exact absurd h (hnarrow _ _)
      · rename_i h
        exact absurd h (hnequals _ _ _)
      · rfl

/-- Behind layout, a sign stands where the tokens have it. -/
theorem sign_behind (i : Nat) : (do let j ← skip src limit i; Except.ok (sign src j)) =
    (toks src i).reachesDefinition.mapError .refused := by
  have h := ahead hlimit i
  have hsign : ∀ {j}, skip src limit i = .ok j → sign src j = (toks src i).atDefinition := by
    intro j hj
    rw [sign_eq hlimit (skip_stable hlimit hj).1, (skip_stable hlimit hj).2]
  generalize toks src i = ts at h hsign ⊢
  cases h with
  | halted hs =>
    rw [hs]
    rfl
  | done hs =>
    rw [hs, Tokens.reachesDefinition]
    exact congrArg Except.ok (hsign hs)
  | token hs =>
    rw [hs, Tokens.reachesDefinition, (halt?_tokenAt ..).1]
    exact congrArg Except.ok (hsign hs)

/-- The look ahead sees what the tokens say, and a comment that is not closed stops it. -/
theorem atRuleHead_eq {i : Nat} (hs : skip src limit i = .ok i) :
    atRuleHead src limit i = (toks src i).atRuleHead.mapError .refused := by
  rw [toks_stable hlimit hs, atRuleHead]
  cases hi : src.drop i with
  | nil =>
    rw [name?, hi]
    rfl
  | cons c cs =>
    rw [name?_cons hi]
    dsimp only
    by_cases hname : isNameStart c = true
    · rw [if_pos hname, tokenAt_name hname]
      generalize c :: cs.takeWhile isNamePart = n
      dsimp only
      have hbehind := sign_behind hlimit (i + n.length)
      have h := ahead hlimit (i + n.length)
      generalize toks src (i + n.length) = ts at h hbehind ⊢
      cases h with
      | halted hs =>
        rw [hs]
        rfl
      | done hs hj =>
        rw [hs] at hbehind ⊢
        change (if quote? src _ = true then _ else _) = _
        rw [quote?, (drop_nil hj).2]
        exact hbehind
      | @token j d ds hs hj =>
        rw [hs] at hbehind ⊢
        change (if quote? src j = true then _ else _) = _
        rw [quote?, (drop_cons hj).2.1, Option.any_some]
        by_cases hquote : isQuote d = true
        · rw [if_pos hquote, literal_eq hlimit hquote hj, readToken, if_pos hquote]
          cases readLiteral d (j + 1) ds with
          | error e => rfl
          | ok x =>
            obtain ⟨⟨text, flag⟩, p, r⟩ := x
            rw [tokenAt, Tokens.atRuleHead_literal]
            exact sign_behind hlimit p
        · rw [if_neg hquote, Tokens.atRuleHead_other fun p t f rest => tokenAt_ne_literal (by simpa using hquote)]
          exact hbehind
    · rw [if_neg hname, Tokens.atRuleHead]
      · rfl
      · intro p x rest h
        exact hname (isNameStart_of_tokenAt h)

/-! ## Sequences -/

omit hlimit in
/-- Where a sequence does not end at once, it goes on unless a definition starts. -/
theorem continuesSequence_tokenAt {j : Nat} {c : Char} (cs : List Char)
    (hc : ¬[')', '/', '{', '}', ';'].contains c = true) :
    continuesSequence (tokenAt src j c (readToken j c cs)) =
      (tokenAt src j c (readToken j c cs)).atRuleHead.map (!·) := by
  have hne : c ≠ '{' ∧ endsSequence c = false := by
    simp at hc
    simp [endsSequence, hc]
  cases ht : readToken j c cs with
  | error e => simp [tokenAt, continuesSequence, Tokens.atRuleHead, Except.map, hne.1]
  | ok x =>
    obtain ⟨t, p, r⟩ := x
    cases t with
    | block code => exact absurd (eq_of_readToken_block ht) hne.1
    | mark d =>
      obtain rfl := eq_of_readToken_mark ht
      simp [tokenAt, continuesSequence, Tokens.atRuleHead, Except.map, hne.2]
    | _ => rfl

omit hlimit in
theorem continuesSequence_end {j : Nat} {c : Char} (cs : List Char) (hc : [')', '/', '{', '}', ';'].contains c = true) :
    continuesSequence (tokenAt src j c (readToken j c cs)) = .ok false := by
  have hcases : c = '{' ∨ c = '}' ∨ c ∈ marks ∧ endsSequence c = true := by
    simp at hc
    rcases hc with rfl | rfl | rfl | rfl | rfl
    · exact Or.inr (Or.inr (by decide))
    · exact Or.inr (Or.inr (by decide))
    · exact Or.inl rfl
    · exact Or.inr (Or.inl rfl)
    · exact Or.inr (Or.inr (by decide))
  rcases hcases with rfl | rfl | ⟨hmark, hends⟩
  · rw [readToken, if_neg (by decide), if_neg (by decide), if_pos rfl]
    cases readCode j .plain 0 (j + 1) cs with
    | error e => rfl
    | ok x => rfl
  · rw [readToken, if_neg (by decide), if_neg (by decide), if_neg (by decide), if_neg (by simp), if_neg (by decide),
      if_neg (by decide +kernel)]
    rfl
  · rw [tokenAt_mark hmark, continuesSequence, hends]
    rfl

variable {expr : Cursor → Walk (Node × Cursor)} {k : Nat}

theorem sequence_agrees (ih : ChoicesAgree src expr k) {turns : Nat} {s : Cursor} (hk : (toks src s.offset).length ≤ k)
    (hturns : (toks src s.offset).length < turns) :
    Agrees src (sequence src limit expr turns s) (readSequence s.blocks (toks src s.offset)) := by
  induction turns generalizing s with
  | zero => omega
  | succ turns ihturns =>
    have h := ahead hlimit s.offset
    have hstable : ∀ {j}, skip src limit s.offset = .ok j → skip src limit j = .ok j ∧ toks src j = toks src s.offset :=
      skip_stable hlimit
    rw [sequence, readSequence]
    generalize toks src s.offset = ts at h hk hturns hstable ⊢
    cases h with
    | halted hs =>
      rw [hs]
      exact .refused _
    | @done j hs hj =>
      rw [hs]
      dsimp only [bind, Except.bind]
      rw [(drop_nil hj).2]
      exact .ok ⟨[], s.blocks, _, _⟩ rfl (hstable hs).2.symm
    | @token j c cs hs hj =>
      obtain ⟨hstay, htoks⟩ := hstable hs
      rw [hs]
      dsimp only [bind, Except.bind]
      rw [(drop_cons hj).2.1]
      dsimp only
      by_cases hends : [')', '/', '{', '}', ';'].contains c = true
      · rw [if_pos hends, continuesSequence_end cs hends]
        exact .ok ⟨[], s.blocks, _, _⟩ rfl htoks.symm
      · rw [if_neg hends, continuesSequence_tokenAt cs hends, atRuleHead_eq hlimit hstay, htoks]
        cases (tokenAt src j c (readToken j c cs)).atRuleHead with
        | error e => exact .refused e
        | ok head => cases head with
          | true => exact .ok ⟨[], s.blocks, _, _⟩ rfl htoks.symm
          | false =>
            rw [← htoks] at hk hturns ⊢
            have hitem : Agrees src (item src limit expr ⟨j, s.blocks⟩) (readItem s.blocks (toks src j)) :=
              item_agrees (s := ⟨j, s.blocks⟩) hlimit ih hstay hk
            refine hitem.elim (fun e => .refused e) fun s' r hb hr => ?_
            obtain ⟨v, bs, rest, hfewer⟩ := r
            dsimp only at hb hr
            subst hb hr
            have hmore := ihturns (s := s') (by omega) (by omega)
            change Agrees src (sequence src limit expr turns s' >>= _) _
            dsimp only [Except.map]
            refine hmore.elim (fun e => .refused e) fun s'' r hb hr => ?_
            exact .ok (Read.mono (r.map (v :: ·)) _) hb hr

/-! ## Alternatives -/

omit hlimit in
/-- A token that does not start like a block is left alone. -/
theorem readAction_other {ts : Tokens} {r : Read Node ts 0} {j : Nat} {c : Char} {cs : List Char}
    (hr : r.rest = tokenAt src j c (readToken j c cs)) (hc : c ≠ '{') : readAction r = .ok r := by
  obtain ⟨v, bs, rest, hf⟩ := r
  dsimp only at hr
  cases ht : readToken j c cs with
  | error e =>
    rw [ht] at hr
    subst hr
    unfold readAction
    dsimp only [tokenAt]
    split
    · rename_i h
      cases h
    · rename_i h
      cases h
      exact absurd rfl hc
    · rename_i h
      cases h
    · rfl
  | ok x =>
    obtain ⟨t, p, x⟩ := x
    rw [ht] at hr
    subst hr
    cases t with
    | block code => exact absurd (eq_of_readToken_block ht) hc
    | _ => rfl

theorem action_agrees {ts : Tokens} {s : Cursor} {r : Read Node ts 0} (hb : r.blocks = s.blocks)
    (hr : r.rest = toks src s.offset) : Agrees src (action src limit r.value s) (readAction r) := by
  have h := ahead hlimit s.offset
  have hstable : ∀ {j}, skip src limit s.offset = .ok j → r.rest = toks src j :=
    fun h => hr.trans (skip_stable hlimit h).2.symm
  rw [action]
  rw [← hr] at h
  generalize hrest : r.rest = rest at h
  cases h with
  | @halted e hs =>
    obtain ⟨v, bs, rest, hf⟩ := r
    dsimp only at hrest
    subst hrest
    rw [hs]
    exact .refused e
  | @done j hs hj =>
    have htoks := hstable hs
    obtain ⟨v, bs, rest, hf⟩ := r
    dsimp only at hrest
    subst hrest
    rw [hs]
    change Agrees src (if peek src j = some '{' then _ else _) _
    rw [(drop_nil hj).2]
    exact .ok ⟨v, bs, _, hf⟩ hb htoks
  | @token j c cs hs hj =>
    have htoks := hstable hs
    rw [hs]
    change Agrees src (if peek src j = some '{' then _ else _) _
    rw [(drop_cons hj).2.1]
    by_cases hblock : c = '{'
    · subst hblock
      rw [if_pos rfl, code_eq hlimit hj]
      rw [readToken, if_neg (by decide), if_neg (by decide), if_pos rfl] at hrest
      obtain ⟨v, bs, rest, hf⟩ := r
      dsimp only at hb hrest
      cases hcode : readCode j .plain 0 (j + 1) cs with
      | error e =>
        rw [hcode] at hrest
        subst hrest
        exact .refused e
      | ok x =>
        obtain ⟨text, p, r⟩ := x
        rw [hcode] at hrest
        subst hb hrest
        unfold readAction
        dsimp only [tokenAt]
        dsimp only [bind, Except.bind]
        cases firstRepeat? [] v.itemLabels with
        | none => exact .ok ⟨_, _, _, _⟩ rfl rfl
        | some l => exact .refused _
    · rw [if_neg (by simpa using hblock), readAction_other hrest hblock]
      exact .ok r hb htoks

theorem alternative_agrees (ih : ChoicesAgree src expr k) {s : Cursor} (hk : (toks src s.offset).length ≤ k) :
    Agrees src (alternative src limit expr s) (readAlternative s.blocks (toks src s.offset)) := by
  have hturns : (toks src s.offset).length < limit := Nat.lt_of_le_of_lt (toks_length _) hlimit
  rw [alternative, readAlternative]
  refine (sequence_agrees hlimit ih hk hturns).elim (fun e => .refused e) fun s' r hb hr => ?_
  exact action_agrees (r := r.map Node.ofItems) hlimit hb hr

theorem alternatives_agrees (ih : ChoicesAgree src expr k) {turns : Nat} {s : Cursor} (hk : (toks src s.offset).length ≤ k)
    (hturns : (toks src s.offset).length < turns) :
    Agrees src (alternatives src limit expr turns s) (readAlternatives s.blocks (toks src s.offset)) := by
  induction turns generalizing s with
  | zero => omega
  | succ turns ihturns =>
    rw [alternatives, readAlternatives]
    rcases tryEat_mark hlimit (c := '/') (by decide) s.offset with
      ⟨e, hhalt, heat⟩ | ⟨hhalt, ⟨j, hnone, heat, -, htoks⟩ | ⟨j, hsome, heat⟩⟩
    · rw [heat, hhalt]
      exact .refused e
    · rw [heat, hhalt]
      exact .without_mark hnone (.ok ⟨[], s.blocks, _, _⟩ rfl htoks.symm)
    · rw [heat, hhalt]
      refine .with_mark hsome ?_
      have hlt := Tokens.afterMark?_length hsome
      have hnext : Agrees src (alternative src limit expr ⟨j, s.blocks⟩) (readAlternative s.blocks (toks src j)) :=
        alternative_agrees (s := ⟨j, s.blocks⟩) hlimit ih (by dsimp only; omega)
      change Agrees src (alternative src limit expr ⟨j, s.blocks⟩ >>= _) _
      refine hnext.elim (fun e => .refused e) fun s' r hb hr => ?_
      obtain ⟨v, bs, rest, hfewer⟩ := r
      dsimp only at hb hr
      subst hb hr
      have hmore := ihturns (s := s') (by omega) (by omega)
      change Agrees src (alternatives src limit expr turns s' >>= _) _
      dsimp only
      refine hmore.elim (fun e => .refused e) fun s'' r hb hr => ?_
      exact .ok (Read.mono (r.map (v :: ·)) _) hb hr

/-- Each token admits one nested call. -/
theorem choice_agrees (depth : Nat) : ChoicesAgree src (choice src limit depth) depth := by
  induction depth with
  | zero => exact fun s hs => absurd hs (Nat.not_lt_zero _)
  | succ depth ih =>
    intro s hs
    rw [choice, readChoice]
    refine (alternative_agrees hlimit ih (Nat.le_of_lt_succ hs)).elim (fun e => .refused e) fun s' r hb hr => ?_
    obtain ⟨v, bs, rest, hfewer⟩ := r
    dsimp only at hb hr
    subst hb hr
    have hmore : Agrees src (alternatives src limit (choice src limit depth) limit s') _ :=
      alternatives_agrees hlimit ih (by omega) (Nat.lt_of_le_of_lt (toks_length _) hlimit)
    change Agrees src (alternatives src limit (choice src limit depth) limit s' >>= _) _
    dsimp only
    refine hmore.elim (fun e => .refused e) fun s'' r hb hr => ?_
    exact .ok (Read.mono (r.map fun ns => Node.ofAlternatives (v :: ns)) _) hb hr

/-! ## Definitions -/

omit hlimit in
theorem readDisplay_other {j : Nat} {c : Char} (cs : List Char) (hc : isQuote c = false) :
    readDisplay (tokenAt src j c (readToken j c cs)) = .ok (none, ⟨tokenAt src j c (readToken j c cs), Nat.le_refl _⟩) := by
  have hne : ∀ p text flag rest, tokenAt src j c (readToken j c cs) ≠ .cons p (.literal text flag) rest :=
    fun _ _ _ _ => tokenAt_ne_literal hc
  cases ht : readToken j c cs with
  | error e =>
    rw [tokenAt, readDisplay, if_neg (by simp [hc])]
  | ok x =>
    obtain ⟨t, p, r⟩ := x
    rw [ht] at hne
    cases t with
    | literal text flag => exact absurd rfl (hne _ _ _ _)
    | _ => rfl

/-- The display name is a literal, and a cursor that meets none stays before the token. -/
theorem display_ahead (i : Nat) :
    (∃ e, display src limit i = .error (.refused e) ∧ readDisplay (toks src i) = .error e) ∨
    ∃ d j h, display src limit i = .ok (d, j) ∧ readDisplay (toks src i) = .ok (d, ⟨toks src j, h⟩) := by
  have h := ahead hlimit i
  have hstable : ∀ {j}, skip src limit i = .ok j → toks src j = toks src i := fun h => (skip_stable hlimit h).2
  rw [display]
  generalize toks src i = ts at h hstable ⊢
  cases h with
  | @halted e hs =>
    rw [hs]
    exact Or.inl ⟨e, rfl, rfl⟩
  | @done j hs hj =>
    have htoks := hstable hs
    rw [hs]
    refine Or.inr ⟨none, j, Nat.le_of_eq (congrArg Tokens.length htoks), ?_, ?_⟩
    · change (if quote? src j = true then _ else _) = _
      rw [quote?, (drop_nil hj).2]
      rfl
    · simp only [htoks]
      rfl
  | @token j c cs hs hj =>
    have htoks := hstable hs
    rw [hs]
    change (∃ e, (if quote? src j = true then _ else _) = _ ∧ _) ∨ ∃ d p h, (if quote? src j = true then _ else _) = _ ∧ _
    rw [quote?, (drop_cons hj).2.1, Option.any_some]
    by_cases hquote : isQuote c = true
    · rw [if_pos hquote, literal_eq hlimit hquote hj, readToken, if_pos hquote]
      cases readLiteral c (j + 1) cs with
      | error e =>
        refine Or.inl ⟨e, rfl, ?_⟩
        rw [tokenAt, readDisplay, if_pos hquote]
      | ok x =>
        obtain ⟨⟨text, flag⟩, p, r⟩ := x
        exact Or.inr ⟨some (textOf text), p, _, rfl, rfl⟩
    · rw [if_neg hquote, readDisplay_other cs (by simpa using hquote)]
      refine Or.inr ⟨none, j, Nat.le_of_eq (congrArg Tokens.length htoks), rfl, ?_⟩
      simp only [htoks]

/-- The sign that starts a definition has to come next. -/
theorem definitionSign_ahead (i : Nat) :
    (∃ e, definitionSign src limit i = .error (.refused e) ∧ readDefinitionSign (toks src i) = .error e) ∨
    ∃ j h, definitionSign src limit i = .ok j ∧ readDefinitionSign (toks src i) = .ok ⟨toks src j, h⟩ := by
  have h := ahead hlimit i
  have hskip : ∀ {j}, skip src limit i = .ok j → definitionSign src limit i =
      if starts src j ['<', '-'] then .ok (j + 2) else if starts src j ['='] then .ok (j + 1)
      else refuse (.expected "=") j := by
    intro j hs
    rw [definitionSign, tryEat, hs]
    change (if starts src j ['<', '-'] = true then _ else _ : Walk (Bool × Nat)) >>= _ = _
    split_ifs with harrow hequals
    · rfl
    · change eat src limit ['='] j = _
      rw [eat, (skip_stable hlimit hs).1]
      exact if_pos hequals
    · change eat src limit ['='] j = _
      rw [eat, (skip_stable hlimit hs).1]
      exact if_neg hequals
  generalize toks src i = ts at h ⊢
  cases h with
  | @halted e hs =>
    refine Or.inl ⟨e, ?_, rfl⟩
    rw [definitionSign, tryEat, hs]
    rfl
  | @done j hs hj =>
    refine Or.inl ⟨_, ?_, rfl⟩
    rw [hskip hs, starts, starts, hj]
    rfl
  | @token j c cs hs hj =>
    rw [hskip hs]
    rcases sign_ahead hj with ⟨harrow, htoken⟩ | ⟨harrow, hequals, htoken⟩ | ⟨harrow, hequals, hnarrow, hnequals⟩
    · rw [htoken, if_pos harrow]
      exact Or.inr ⟨j + 2, _, rfl, rfl⟩
    · rw [htoken, harrow, if_neg Bool.false_ne_true, if_pos hequals]
      exact Or.inr ⟨j + 1, _, rfl, rfl⟩
    · rw [harrow, hequals]
      refine Or.inl ⟨⟨.expected "=", j⟩, rfl, ?_⟩
      rw [readDefinitionSign, (halt?_tokenAt ..).2]
      · intro e h
        have hhalt : (tokenAt src j c (readToken j c cs)).halt? = none := (halt?_tokenAt ..).1
        rw [h] at hhalt
        cases hhalt
      · exact hnarrow
      · exact hnequals

omit hlimit in
/-- Tokens that do not start with a name start no definition. -/
theorem readRule_other {blocks : List Block} {j : Nat} {c : Char} {cs : List Char} (hc : isNameStart c = false) :
    readRule blocks (tokenAt src j c (readToken j c cs)) = .error ⟨.expectedName, j⟩ := by
  have hoffset : (tokenAt src j c (readToken j c cs)).halt? = none ∧ (tokenAt src j c (readToken j c cs)).offset = j :=
    halt?_tokenAt ..
  have hname : ∀ p x rest, tokenAt src j c (readToken j c cs) ≠ .cons p (.name x) rest := by
    intro p x rest h
    rw [isNameStart_of_tokenAt h] at hc
    cases hc
  rw [readRule, hoffset.2]
  · intro e h
    rw [h] at hoffset
    cases hoffset.1
  · exact hname

/-- A definition that the cursor stands before. -/
theorem rule_agrees {s : Cursor} {c : Char} {cs : List Char} (hs : skip src limit s.offset = .ok s.offset)
    (hj : src.drop s.offset = c :: cs) :
    Agrees src (rule src limit s) (readRule s.blocks (toks src s.offset)) := by
  have hchoice : ∀ i, Agrees src (choice src limit limit ⟨i, s.blocks⟩) (readChoice s.blocks (toks src i)) :=
    fun i => choice_agrees hlimit limit ⟨i, s.blocks⟩ (Nat.lt_of_le_of_lt (toks_length _) hlimit)
  have htoks := toks_stable hlimit hs
  rw [hj] at htoks
  dsimp only at htoks
  rw [htoks, rule]
  by_cases hname : isNameStart c = true
  · rw [tokenAt_name hname, name_self hs hj hname, readRule]
    generalize c :: cs.takeWhile isNamePart = n
    change Agrees src (display src limit (s.offset + n.length) >>= _) _
    rcases display_ahead hlimit (s.offset + n.length) with ⟨e, hd, hr⟩ | ⟨d, i, h, hd, hr⟩
    · rw [hd, hr]
      exact .refused e
    · rw [hd, hr]
      change Agrees src (definitionSign src limit i >>= _) _
      dsimp only
      rcases definitionSign_ahead hlimit i with ⟨e, hd, hr⟩ | ⟨i, h, hd, hr⟩
      · rw [hd, hr]
        exact .refused e
      · rw [hd, hr]
        change Agrees src (choice src limit limit ⟨i, s.blocks⟩ >>= _) _
        dsimp only
        refine (hchoice i).elim (fun e => .refused e) fun s' r hb hr => ?_
        obtain ⟨v, bs, rest, hfewer⟩ := r
        dsimp only at hb hr
        subst hb hr
        change Agrees src (tryEat src limit [';'] s'.offset >>= _) _
        dsimp only
        rcases tryEat_mark hlimit (c := ';') (by decide) s'.offset with
          ⟨e, hhalt, heat⟩ | ⟨hhalt, ⟨j, hnone, heat, -, htoks⟩ | ⟨j, hsome, heat⟩⟩
        · rw [heat, hhalt]
          exact .refused e
        · rw [heat, hhalt]
          exact .ok ⟨_, _, _, _⟩ rfl (by dsimp only; rw [hnone, Option.getD_none, htoks])
        · rw [heat, hhalt]
          exact .ok ⟨_, _, _, _⟩ rfl (by dsimp only; rw [hsome, Option.getD_some])
  · rw [readRule_other (by simpa using hname), name, hs]
    dsimp only [bind, Except.bind]
    rw [name?_cons hj, if_neg hname]
    exact .refused _

/-- Each definition takes a token. -/
theorem rules_eq {turns : Nat} {names : List String} {s : Cursor} (hturns : (toks src s.offset).length < turns) :
    rules src limit turns names s = (readRules names s.blocks (toks src s.offset)).mapError .refused := by
  induction turns generalizing names s with
  | zero => omega
  | succ turns ih =>
    have h := ahead hlimit s.offset
    have hstable : ∀ {j}, skip src limit s.offset = .ok j → skip src limit j = .ok j ∧ toks src j = toks src s.offset :=
      skip_stable hlimit
    rw [rules]
    generalize toks src s.offset = ts at h hstable hturns ⊢
    cases h with
    | halted hs =>
      rw [hs, readRules]
      · rfl
      · simp
    | @done j hs hj =>
      rw [hs, readRules]
      change (if src.length ≤ j then if names.isEmpty = true then _ else _ else _) = _
      rw [if_pos (drop_nil hj).1]
      split_ifs
      · rfl
      · rfl
    | @token j c cs hs hj =>
      obtain ⟨hstay, htoks⟩ := hstable hs
      have hdone : ∀ p, tokenAt src j c (readToken j c cs) ≠ .done p := by
        intro p h
        cases hread : readToken j c cs with
        | error e =>
          rw [hread] at h
          cases h
        | ok x =>
          rw [hread] at h
          cases h
      have hrule : Agrees src (rule src limit ⟨j, s.blocks⟩) (readRule s.blocks (toks src j)) :=
        rule_agrees (s := ⟨j, s.blocks⟩) hlimit hstay hj
      rw [hs]
      change (if src.length ≤ j then _ else rule src limit ⟨j, s.blocks⟩ >>= _) = _
      rw [if_neg (drop_cons hj).1, readRules]
      · rw [← htoks] at hturns ⊢
        refine hrule.elim (fun e => rfl) fun s' r hb hr => ?_
        obtain ⟨v, bs, rest, hfewer⟩ := r
        dsimp only at hb hr
        subst hb hr
        change (if names.contains v.name = true then _ else rules src limit turns (v.name :: names) s' >>= _) = _
        rw [ih (by omega)]
        dsimp only
        split_ifs
        · rw [htoks, (halt?_tokenAt ..).2]
          rfl
        · cases readRules (v.name :: names) s'.blocks (toks src s'.offset) with
          | error e => rfl
          | ok x => rfl
      · exact hdone

end

end Cursor

/-! ## Grammars -/

/-- With a turn for each character and one more, no loop is cut off and no call is nested too deep. -/
theorem Grammar.walk_eq (source : String) (extra : Nat) :
    Grammar.walk (source.length + 1 + extra) source = (Grammar.read source).mapError .refused := by
  have hlimit : source.toList.length < source.length + 1 + extra := by
    rw [String.length_toList]
    omega
  have htoks : Cursor.toks source.toList 0 = tokenize source.toList := rfl
  rw [Grammar.walk, Cursor.rules_eq hlimit (Nat.lt_of_le_of_lt (Cursor.toks_length _) hlimit), Grammar.read, htoks]
  cases readRules [] [] (tokenize source.toList) with
  | error e => rfl
  | ok x =>
    obtain ⟨rules, blocks⟩ := x
    dsimp only [Except.mapError]
    cases undefinedReference? rules with
    | none => rfl
    | some names => rfl

/-- **Reading a grammar ends on every text, with a grammar or with a refusal, and with nothing else.** The loops need no
more turns, and the calls nest no deeper, than there are characters and one more; no character is used that is not there, and
every number that an escape names is a code point. -/
theorem Grammar.walk_total (source : String) (extra : Nat) :
    (∃ g, Grammar.walk (source.length + 1 + extra) source = .ok g ∧ Grammar.read source = .ok g) ∨
    ∃ e, Grammar.walk (source.length + 1 + extra) source = .error (.refused e) ∧ Grammar.read source = .error e := by
  rw [Grammar.walk_eq]
  cases Grammar.read source with
  | ok g => exact Or.inl ⟨g, rfl, rfl⟩
  | error e => exact Or.inr ⟨e, rfl, rfl⟩

end PegTemplate
