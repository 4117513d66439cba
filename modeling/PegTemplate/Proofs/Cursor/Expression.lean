import PegTemplate.Proofs.Cursor.Code

/-!
# The cursor over an expression

* `Cursor.toks`, `Cursor.Ahead` : the tokens from an offset on, and what the cursor meets there;
* `Cursor.Agrees` : a reader with a cursor gives what a reader of tokens gives, and stands before the tokens that are left;
* `Cursor.primary_agrees`, `Cursor.repetition_agrees`, `Cursor.prefixed_agrees`, `Cursor.item_agrees` : one lemma for each
  reader of an expression, which takes choices of fewer tokens for granted.
-/

namespace PegTemplate
open Unicode

variable {src : List Char} {limit : Nat}

namespace Cursor

/-! ## Tokens from an offset on -/

/-- The tokens from an offset on. -/
def toks (src : List Char) (i : Nat) : Tokens := tokensFrom i (src.drop i)

/-- The tokens where the character `c` at `j` starts one. -/
def tokenAt (src : List Char) (j : Nat) (c : Char) : Lexed Token → Tokens
  | .error e => .broken j c e
  | .ok (t, p, _) => .cons j t (toks src p)

/-- What the cursor meets at `i`: a comment that is not closed, the end, or the start of a token. -/
inductive Ahead (src : List Char) (limit i : Nat) : Tokens → Prop
  | halted {e : ReadError} (hs : skip src limit i = .error (.refused e)) : Ahead src limit i (.halted e)
  | done {j : Nat} (hs : skip src limit i = .ok j) (hj : src.drop j = []) : Ahead src limit i (.done j)
  | token {j : Nat} {c : Char} {cs : List Char} (hs : skip src limit i = .ok j) (hj : src.drop j = c :: cs) :
    Ahead src limit i (tokenAt src j c (readToken j c cs))

theorem ahead (hlimit : src.length < limit) (i : Nat) : Ahead src limit i (toks src i) := by
  have hskip := skip_eq hlimit i
  rw [toks, tokensFrom_eq]
  cases hs : skipLayout i (src.drop i) with
  | error e =>
    rw [hs] at hskip
    exact .halted hskip
  | ok x =>
    obtain ⟨j, r⟩ := x
    rw [hs] at hskip
    obtain rfl := rest_eq (skipFrom_advance hs)
    cases hj : src.drop j with
    | nil => exact .done hskip hj
    | cons c cs =>
      have htoken := Ahead.token hskip hj
      dsimp only
      cases ht : readToken j c cs with
      | error e => rwa [ht] at htoken
      | ok x =>
        obtain ⟨t, p, r⟩ := x
        obtain rfl := rest_eq (hj ▸ readToken_advance ht)
        rwa [ht] at htoken

theorem skipFrom_stable {m : Layout} {pos p : Nat} {cs r : List Char} (h : skipFrom m pos cs = .ok (p, r)) :
    skipLayout p r = .ok (p, r) := by
  fun_induction skipFrom m pos cs with
  | case1 => cases h; rfl
  | case2 _ _ ih => exact ih h
  | case3 _ _ ih => exact ih h
  | case4 _ _ ih => exact ih h
  | case5 _ _ _ _ _ _ _ ih => exact ih h
  | case6 pos c cs h1 h2 h3 hl =>
    cases h
    rw [skipLayout, skipFrom, if_neg hl]
    · exact h1
    · exact h2
    · exact h3
  | case7 => cases h; rfl
  | case8 _ _ _ ih => exact ih h
  | case9 => cases h
  | case10 _ _ _ ih => exact ih h
  | case11 _ _ _ _ _ ih => exact ih h

/-- Where layout has been passed over, there is none, and the same tokens come next. -/
theorem skip_stable (hlimit : src.length < limit) {i j : Nat} (h : skip src limit i = .ok j) :
    skip src limit j = .ok j ∧ toks src j = toks src i := by
  rw [skip_eq hlimit] at h
  cases hs : skipLayout i (src.drop i) with
  | error e =>
    rw [hs] at h
    cases h
  | ok x =>
    obtain ⟨p, r⟩ := x
    rw [hs] at h
    cases h
    obtain rfl := rest_eq (skipFrom_advance hs)
    have hstable := skipFrom_stable hs
    refine ⟨?_, tokensFrom_congr (hstable.trans hs.symm)⟩
    rw [skip_eq hlimit, hstable]
    rfl

/-- Where layout has been passed over, a token starts or the text ends. -/
theorem toks_stable (hlimit : src.length < limit) {j : Nat} (hs : skip src limit j = .ok j) : toks src j =
    match src.drop j with
    | [] => .done j
    | c :: cs => tokenAt src j c (readToken j c cs) := by
  have h := ahead hlimit j
  generalize toks src j = ts at h ⊢
  cases h with
  | halted hs' =>
    rw [hs] at hs'
    cases hs'
  | done hs' hj =>
    rw [hs] at hs'
    cases hs'
    rw [hj]
  | token hs' hj =>
    rw [hs] at hs'
    cases hs'
    rw [hj]

/-! ## Marks -/

/-- A token that is a mark is the character that it starts with. -/
theorem eq_of_readToken_mark {j p : Nat} {c d : Char} {cs r : List Char} (h : readToken j c cs = .ok (.mark d, p, r)) :
    d = c := by
  unfold readToken at h
  split_ifs at h
  · split at h <;> cases h
  · split at h <;> cases h
  · split at h <;> cases h
  · cases h
  · cases h
  · cases h
  · cases h
    rfl

theorem eq_of_readToken_block {j p : Nat} {c : Char} {code : String} {cs r : List Char}
    (h : readToken j c cs = .ok (.block code, p, r)) : c = '{' := by
  unfold readToken at h
  split_ifs at h with h1 h2 h3
  · split at h <;> cases h
  · split at h <;> cases h
  · exact h3
  · cases h
  · cases h
  · cases h
  · cases h

theorem tokenAt_mark {c : Char} (hc : c ∈ marks) (j : Nat) (cs : List Char) :
    tokenAt src j c (readToken j c cs) = .cons j (.mark c) (toks src (j + 1)) := by
  rw [readToken_mark hc]
  rfl

theorem halt?_tokenAt (j : Nat) (c : Char) (x : Lexed Token) :
    (tokenAt src j c x).halt? = none ∧ (tokenAt src j c x).offset = j := by
  cases x with
  | error e => exact ⟨rfl, rfl⟩
  | ok x => exact ⟨rfl, rfl⟩

theorem afterMark?_tokenAt {j : Nat} {c d : Char} {cs : List Char} (h : d ≠ c) :
    (tokenAt src j c (readToken j c cs)).afterMark? d = none := by
  cases ht : readToken j c cs with
  | error e => rfl
  | ok x =>
    obtain ⟨t, p, r⟩ := x
    cases t with
    | mark e => exact if_neg (by rw [eq_of_readToken_mark ht]; exact h.symm)
    | _ => rfl

/-- A mark stands where layout ends if it is the next token. -/
theorem mark_ahead (hlimit : src.length < limit) {c : Char} (hc : c ∈ marks) (i : Nat) :
    (∃ e, (toks src i).halt? = some e ∧ skip src limit i = .error (.refused e)) ∨
    (toks src i).halt? = none ∧ ∃ j, skip src limit i = .ok j ∧ j = (toks src i).offset ∧
      ((peek src j = some c ∧ (toks src i).afterMark? c = some (toks src (j + 1))) ∨
        (peek src j ≠ some c ∧ (toks src i).afterMark? c = none)) := by
  have h := ahead hlimit i
  generalize toks src i = ts at h ⊢
  cases h with
  | halted hs => exact Or.inl ⟨_, rfl, hs⟩
  | @done j hs hj =>
    refine Or.inr ⟨rfl, j, hs, rfl, Or.inr ⟨?_, rfl⟩⟩
    rw [(drop_nil hj).2]
    exact nofun
  | @token j d cs hs hj =>
    refine Or.inr ⟨(halt?_tokenAt ..).1, j, hs, (halt?_tokenAt ..).2.symm, ?_⟩
    rw [(drop_cons hj).2.1]
    by_cases hd : c = d
    · subst hd
      refine Or.inl ⟨rfl, ?_⟩
      rw [tokenAt_mark hc]
      exact if_pos rfl
    · exact Or.inr ⟨by simpa using Ne.symm hd, afterMark?_tokenAt hd⟩

theorem starts_single (j : Nat) (c : Char) : starts src j [c] = decide (peek src j = some c) := by
  cases hj : src.drop j with
  | nil =>
    rw [starts, hj, (drop_nil hj).2]
    rfl
  | cons d cs =>
    rw [starts, hj, (drop_cons hj).2.1]
    simp [List.isPrefixOf, eq_comm, Bool.beq_eq_decide_eq]

/-- A mark is taken by the cursor where it is the next token. -/
theorem tryEat_mark (hlimit : src.length < limit) {c : Char} (hc : c ∈ marks) (i : Nat) :
    (∃ e, (toks src i).halt? = some e ∧ tryEat src limit [c] i = .error (.refused e)) ∨
    (toks src i).halt? = none ∧
      ((∃ j, (toks src i).afterMark? c = none ∧ tryEat src limit [c] i = .ok (false, j) ∧ j = (toks src i).offset ∧
          toks src j = toks src i) ∨
        ∃ j, (toks src i).afterMark? c = some (toks src j) ∧ tryEat src limit [c] i = .ok (true, j)) := by
  rw [tryEat]
  rcases mark_ahead hlimit hc i with ⟨e, hhalt, hs⟩ | ⟨hhalt, j, hs, hoffset, ⟨hpeek, hmark⟩ | ⟨hpeek, hmark⟩⟩
  · rw [hs]
    exact Or.inl ⟨e, hhalt, rfl⟩
  · rw [hs]
    refine Or.inr ⟨hhalt, Or.inr ⟨j + 1, hmark, ?_⟩⟩
    change (if starts src j [c] = true then _ else _) = _
    rw [starts_single, if_pos (by simpa using hpeek)]
    rfl
  · rw [hs]
    refine Or.inr ⟨hhalt, Or.inl ⟨j, hmark, ?_, hoffset, (skip_stable hlimit hs).2⟩⟩
    change (if starts src j [c] = true then _ else _) = _
    rw [starts_single, if_neg (by simpa using hpeek)]

theorem tryEat_at {j : Nat} (hs : skip src limit j = .ok j) (c : Char) :
    tryEat src limit [c] j = .ok (if peek src j = some c then (true, j + 1) else (false, j)) := by
  rw [tryEat, hs]
  dsimp only [bind, Except.bind]
  rw [starts_single]
  by_cases hpeek : peek src j = some c
  · rw [if_pos (by simpa using hpeek), if_pos hpeek]
    rfl
  · rw [if_neg (by simpa using hpeek), if_neg hpeek]

/-- The marks of a repetition are looked for at one place. -/
theorem repetition_eq {n : Node} {s : Cursor} {j : Nat} (hs : skip src limit s.offset = .ok j)
    (hstay : skip src limit j = .ok j) : repetition src limit n s = match (peek src j).bind repetition? with
      | some kind => .ok (.repeated kind n, ⟨j + 1, s.blocks⟩)
      | none => .ok (n, ⟨j, s.blocks⟩) := by
  have heat := tryEat_at hstay
  rw [repetition, hs]
  dsimp only [bind, Except.bind]
  rw [heat]
  cases hpeek : peek src j with
  | none => simp [heat, hpeek]
  | some c =>
    rw [Option.bind_some, repetition?]
    by_cases hoptional : c = '?'
    · simp [hoptional]
    · by_cases hstar : c = '*'
      · simp [hstar, heat, hpeek]
      · by_cases hplus : c = '+'
        · simp [hplus, heat, hpeek]
        · simp [hoptional, hstar, hplus, heat, hpeek]

/-- The marks in front of an expression are looked for at one place. -/
theorem prefixed_eq {expr : Cursor → Walk (Node × Cursor)} {s : Cursor} {j : Nat} (hs : skip src limit s.offset = .ok j)
    (hstay : skip src limit j = .ok j) : prefixed src limit expr s = match (peek src j).bind operator? with
      | some f => wrapped f (suffixed src limit expr ⟨j + 1, s.blocks⟩)
      | none => suffixed src limit expr ⟨j, s.blocks⟩ := by
  have heat := tryEat_at hstay
  rw [prefixed, hs]
  dsimp only [bind, Except.bind]
  rw [heat]
  cases hpeek : peek src j with
  | none => simp [heat, hpeek]
  | some c =>
    rw [Option.bind_some, operator?]
    by_cases hahead : c = '&'
    · simp [hahead]
    · by_cases hnot : c = '!'
      · simp [hnot, heat, hpeek]
      · by_cases htext : c = '$'
        · simp [htext, heat, hpeek]
        · simp [hahead, hnot, htext, heat, hpeek]

theorem eat_eq (mark : List Char) (i : Nat) : eat src limit mark i = (do
    let (eaten, j) ← tryEat src limit mark i
    if eaten then Except.ok j else refuse (.expected (String.ofList mark)) j) := by
  rw [eat, tryEat]
  cases skip src limit i with
  | error e => rfl
  | ok j =>
    change (if starts src j mark = true then _ else _) = (if starts src j mark = true then _ else _ : Walk (Bool × Nat)) >>= _
    split_ifs
    · rfl
    · rfl

/-! ## Names -/

theorem name?_cons {j : Nat} {c : Char} {cs : List Char} (hj : src.drop j = c :: cs) :
    name? src j = if isNameStart c then some (c :: cs.takeWhile isNamePart) else none := by
  rw [name?, hj]

theorem isNameStart_of_readToken {j p : Nat} {c : Char} {x : String} {cs r : List Char}
    (h : readToken j c cs = .ok (.name x, p, r)) : isNameStart c = true := by
  unfold readToken at h
  split_ifs at h with h1 h2 h3 h4 h5 h6
  · split at h <;> cases h
  · split at h <;> cases h
  · split at h <;> cases h
  · cases h
  · cases h
  · exact h6
  · cases h

theorem isNameStart_of_tokenAt {j p : Nat} {c : Char} {x : String} {cs : List Char} {rest : Tokens}
    (h : tokenAt src j c (readToken j c cs) = .cons p (.name x) rest) : isNameStart c = true := by
  cases ht : readToken j c cs with
  | error e =>
    rw [ht] at h
    cases h
  | ok y =>
    obtain ⟨t, p, r⟩ := y
    rw [ht] at h
    cases h
    exact isNameStart_of_readToken ht

theorem tokenAt_name {c : Char} (hc : isNameStart c = true) (j : Nat) (cs : List Char) :
    tokenAt src j c (readToken j c cs) = .cons j (.name (String.ofList (c :: cs.takeWhile isNamePart)))
      (toks src (j + (c :: cs.takeWhile isNamePart).length)) := by
  obtain ⟨hq, h1, h2, h3, h4, -⟩ := ne_of_isNameStart hc
  have hlength : j + (c :: cs.takeWhile isNamePart).length = j + 1 + (cs.takeWhile isNamePart).length := by
    rw [List.length_cons]
    omega
  rw [readToken, if_neg (by simp [hq]), if_neg h1, if_neg h2, if_neg (by simp [h3]), if_neg h4, if_pos hc, hlength]
  rfl

/-- A token that does not start like a name is none. -/
theorem readItem_other {before : List Block} {j : Nat} {c : Char} {cs : List Char} (hc : isNameStart c = false) :
    readItem before (tokenAt src j c (readToken j c cs)) = readPrefixed before (tokenAt src j c (readToken j c cs)) := by
  cases ht : readToken j c cs with
  | error e =>
    rw [tokenAt, readItem]
    simp
  | ok x =>
    obtain ⟨t, p, r⟩ := x
    rw [tokenAt]
    cases t with
    | name x =>
      rw [isNameStart_of_readToken ht] at hc
      cases hc
    | _ =>
      rw [readItem]
      simp

theorem name_self {j : Nat} {c : Char} {cs : List Char} (hs : skip src limit j = .ok j) (hj : src.drop j = c :: cs)
    (hc : isNameStart c = true) : name src limit j =
      .ok (c :: cs.takeWhile isNamePart, j + (c :: cs.takeWhile isNamePart).length) := by
  rw [name, hs]
  dsimp only [bind, Except.bind]
  rw [name?_cons hj, if_pos hc]

/-- No expression starts with the character. -/
theorem readPrimary_unexpected {c : Char} (hquote : isQuote c = false) (hclass : c ≠ '[') (hname : isNameStart c = false)
    (hopen : c ≠ '(') (hany : c ≠ '.') (before : List Block) (j : Nat) (cs : List Char) :
    readPrimary before (tokenAt src j c (readToken j c cs)) = .error ⟨.unexpected (some c), j⟩ := by
  rw [readToken, if_neg (by simp [hquote]), if_neg hclass]
  by_cases hblock : c = '{'
  · subst hblock
    rw [if_pos rfl]
    cases readCode j .plain 0 (j + 1) cs with
    | error e => rw [tokenAt, readPrimary, if_pos rfl]
    | ok x => rw [tokenAt, readPrimary]
  · rw [if_neg hblock]
    by_cases harrow : c = '<' ∧ cs.head? = some '-'
    · obtain ⟨rfl, hhead⟩ := harrow
      rw [if_pos (by simpa using hhead), tokenAt, readPrimary]
    · rw [if_neg (by simpa using harrow)]
      by_cases hequals : c = '='
      · subst hequals
        rw [if_pos rfl, tokenAt, readPrimary]
      · rw [if_neg hequals, if_neg (by simp [hname]), tokenAt, readPrimary, if_neg hany, if_neg hopen]

theorem mem_marks_of_repetition? {c : Char} {kind : Repetition} (h : repetition? c = some kind) : c ∈ marks := by
  unfold repetition? at h
  split_ifs at h with hoptional hstar hplus
  · exact hoptional ▸ by decide
  · exact hstar ▸ by decide
  · exact hplus ▸ by decide

theorem mem_marks_of_operator? {c : Char} {f : Node → Node} (h : operator? c = some f) : c ∈ marks := by
  unfold operator? at h
  split_ifs at h with hahead hnot htext
  · exact hahead ▸ by decide
  · exact hnot ▸ by decide
  · exact htext ▸ by decide

/-- A token that is no mark of a repetition is left alone. -/
theorem readRepetition_other {ts : Tokens} {r : Read Node ts 1} {j : Nat} {c : Char} {cs : List Char}
    (hr : r.rest = tokenAt src j c (readToken j c cs)) (hc : repetition? c = none) : readRepetition r = .ok r := by
  obtain ⟨v, bs, rest, hf⟩ := r
  dsimp only at hr
  cases ht : readToken j c cs with
  | error e =>
    rw [ht] at hr
    subst hr
    rfl
  | ok x =>
    obtain ⟨t, p, x⟩ := x
    rw [ht] at hr
    subst hr
    cases t with
    | mark d =>
      obtain rfl := eq_of_readToken_mark ht
      unfold readRepetition
      dsimp only [tokenAt]
      rw [hc]
    | _ => rfl

theorem readRepetition_mark {ts : Tokens} {r : Read Node ts 1} {j : Nat} {c : Char} {rest : Tokens}
    (hr : r.rest = .cons j (.mark c) rest) {kind : Repetition} (hc : repetition? c = some kind) :
    ∃ r' : Read Node ts 1, readRepetition r = .ok r' ∧ r'.value = .repeated kind r.value ∧ r'.blocks = r.blocks ∧
      r'.rest = rest := by
  obtain ⟨v, bs, rest', hf⟩ := r
  dsimp only at hr
  subst hr
  unfold readRepetition
  dsimp only
  rw [hc]
  exact ⟨_, rfl, rfl, rfl, rfl⟩

/-- A token that is no mark in front of an expression is left to the reader of what follows such a mark. -/
theorem readPrefixed_other {before : List Block} {j : Nat} {c : Char} {cs : List Char} (hc : operator? c = none) :
    readPrefixed before (tokenAt src j c (readToken j c cs)) =
      readSuffixed before (tokenAt src j c (readToken j c cs)) := by
  cases ht : readToken j c cs with
  | error e =>
    rw [tokenAt, readPrefixed]
    simp
  | ok x =>
    obtain ⟨t, p, r⟩ := x
    rw [tokenAt]
    cases t with
    | mark d =>
      obtain rfl := eq_of_readToken_mark ht
      rw [readPrefixed, hc]
    | _ =>
      rw [readPrefixed]
      simp

/-! ## Agreement -/

/-- Both read the same, and the cursor stands before the tokens that are left; or both refuse for one reason. -/
inductive Agrees (src : List Char) {α : Type} {ts : Tokens} {used : Nat} :
    Walk (α × Cursor) → Except ReadError (Read α ts used) → Prop
  | ok {s : Cursor} (r : Read α ts used) (hb : r.blocks = s.blocks) (hr : r.rest = toks src s.offset) :
    Agrees src (.ok (r.value, s)) (.ok r)
  | refused (e : ReadError) : Agrees src (.error (.refused e)) (.error e)

/-- What holds of two refusals, and of what was read in agreement, holds of any two outcomes that agree. -/
@[elab_as_elim]
theorem Agrees.elim {α : Type} {ts : Tokens} {used : Nat}
    {motive : Walk (α × Cursor) → Except ReadError (Read α ts used) → Prop} {x : Walk (α × Cursor)}
    {y : Except ReadError (Read α ts used)} (h : Agrees src x y)
    (hrefused : ∀ e, motive (.error (.refused e)) (.error e))
    (hok : ∀ (s : Cursor) (r : Read α ts used), r.blocks = s.blocks → r.rest = toks src s.offset →
      motive (.ok (r.value, s)) (.ok r)) : motive x y := by
  cases h with
  | ok r hb hr => exact hok _ r hb hr
  | refused e => exact hrefused e

section
variable {α : Type} {used : Nat} {ts ts' : Tokens} {c : Char} {x : Walk (α × Cursor)}
  {y : Except ReadError (Read α ts used)} {f : ∀ r, ts'.afterMark? c = some r → Except ReadError (Read α ts used)}

/-- The mark is not next, so a reader that looks for it goes on without it. -/
theorem Agrees.without_mark (hm : ts'.afterMark? c = none) (h : Agrees src x y) :
    Agrees src x (match hm : ts'.afterMark? c with | none => y | some r => f r hm) := by
  split
  · exact h
  · rename_i hm'
    rw [hm] at hm'
    cases hm'

/-- The mark is next, so a reader that looks for it goes on behind it. -/
theorem Agrees.with_mark {r : Tokens} (hm : ts'.afterMark? c = some r) (h : Agrees src x (f r hm)) :
    Agrees src x (match hm : ts'.afterMark? c with | none => y | some r => f r hm) := by
  split
  · rename_i hm'
    rw [hm] at hm'
    cases hm'
  · rename_i hm'
    obtain rfl := Option.some.inj (hm.symm.trans hm')
    exact h

end

/-- Choices of fewer than `k` tokens are read in agreement. -/
def ChoicesAgree (src : List Char) (expr : Cursor → Walk (Node × Cursor)) (k : Nat) : Prop :=
  ∀ s : Cursor, (toks src s.offset).length < k → Agrees src (expr s) (readChoice s.blocks (toks src s.offset))

section
variable {expr : Cursor → Walk (Node × Cursor)} {k : Nat} (hlimit : src.length < limit)
include hlimit

/-- An expression in parentheses. -/
theorem enclosed_agrees (ih : ChoicesAgree src expr k) {before : List Block} {j : Nat} {cs : List Char}
    (hk : (tokenAt src j '(' (readToken j '(' cs)).length ≤ k) :
    Agrees src (do
      let (n, s) ← expr ⟨j + 1, before⟩
      let i ← eat src limit [')'] s.offset
      Except.ok (n, ⟨i, s.blocks⟩))
      (readPrimary before (tokenAt src j '(' (readToken j '(' cs))) := by
  rw [tokenAt_mark (by decide)] at hk ⊢
  rw [readPrimary, if_neg (by decide), if_pos rfl]
  have hlt : (toks src (j + 1)).length < k := by rw [Tokens.length] at hk; omega
  refine (ih ⟨j + 1, before⟩ hlt).elim (fun e => .refused e) fun s r hb hr => ?_
  have hmark := tryEat_mark hlimit (c := ')') (by decide) s.offset
  dsimp only [bind, Except.bind]
  rw [eat_eq]
  rw [← hr] at hmark
  rcases hmark with ⟨e, hhalt, heat⟩ | ⟨hhalt, ⟨i, hnone, heat, rfl, -⟩ | ⟨i, hsome, heat⟩⟩
  · rw [heat, hhalt]
    exact .refused e
  · rw [heat, hhalt]
    exact .without_mark hnone (.refused _)
  · rw [heat, hhalt]
    exact .with_mark hsome (.ok ⟨r.value, r.blocks, _, _⟩ hb rfl)

theorem literal_agrees {before : List Block} {j : Nat} {c : Char} {cs : List Char} (hj : src.drop j = c :: cs)
    (hquote : isQuote c = true) :
    Agrees src (do
      let ((text, ignoreCase), i) ← literal src limit j
      Except.ok (.literal text ignoreCase, ⟨i, before⟩))
      (readPrimary before (tokenAt src j c (readToken j c cs))) := by
  rw [literal_eq hlimit hquote hj, readToken, if_pos hquote]
  cases readLiteral c (j + 1) cs with
  | error e =>
    rw [tokenAt, readPrimary, if_neg (ne_of_isQuote hquote rfl)]
    exact .refused e
  | ok x =>
    obtain ⟨⟨text, flag⟩, p, r⟩ := x
    rw [tokenAt, readPrimary]
    exact .ok ⟨_, _, _, _⟩ rfl rfl

theorem charClass_agrees {before : List Block} {j : Nat} {cs : List Char} (hj : src.drop j = '[' :: cs) :
    Agrees src (do
      let (members, i) ← charClass src limit j
      Except.ok (.charClass members, ⟨i, before⟩))
      (readPrimary before (tokenAt src j '[' (readToken j '[' cs))) := by
  rw [charClass_eq hlimit hj, readToken, if_neg (by decide), if_pos rfl]
  cases readClass j cs with
  | error e =>
    rw [tokenAt, readPrimary, if_neg (by decide)]
    exact .refused e
  | ok x =>
    obtain ⟨members, p, r⟩ := x
    rw [tokenAt, readPrimary]
    exact .ok ⟨_, _, _, _⟩ rfl rfl

/-- The first character of a token says how an expression goes on. -/
theorem primary_agrees (ih : ChoicesAgree src expr k) {s : Cursor} (hk : (toks src s.offset).length ≤ k) :
    Agrees src (primary src limit expr s) (readPrimary s.blocks (toks src s.offset)) := by
  have h := ahead hlimit s.offset
  rw [primary]
  generalize toks src s.offset = ts at h hk ⊢
  cases h with
  | @halted e hs =>
    rw [hs, readPrimary]
    exact .refused e
  | @done j hs hj =>
    have hname : name? src j = none := by rw [name?, hj]
    rw [hs, readPrimary]
    dsimp only [bind, Except.bind]
    rw [quote?, (drop_nil hj).2, hname]
    exact .refused _
  | @token j c cs hs hj =>
    rw [hs]
    dsimp only [bind, Except.bind]
    rw [quote?, (drop_cons hj).2.1, Option.any_some]
    by_cases hopen : c = '('
    · subst hopen
      rw [if_pos rfl]
      exact enclosed_agrees hlimit ih hk
    · rw [if_neg (by simpa using hopen)]
      by_cases hany : c = '.'
      · subst hany
        rw [if_pos rfl, tokenAt_mark (by decide), readPrimary, if_pos rfl]
        exact .ok ⟨_, _, _, _⟩ rfl rfl
      · rw [if_neg (by simpa using hany)]
        by_cases hquote : isQuote c = true
        · rw [if_pos hquote]
          exact literal_agrees hlimit hj hquote
        · rw [if_neg hquote]
          by_cases hclass : c = '['
          · subst hclass
            rw [if_pos rfl]
            exact charClass_agrees hlimit hj
          · rw [if_neg (by simpa using hclass), name?_cons hj]
            by_cases hname : isNameStart c = true
            · rw [if_pos hname, tokenAt_name hname, readPrimary, name_self (skip_stable hlimit hs).1 hj hname]
              exact .ok ⟨_, _, _, _⟩ rfl rfl
            · rw [if_neg hname, readPrimary_unexpected (by simpa using hquote) hclass (by simpa using hname) hopen hany]
              exact .refused _

theorem repetition_agrees {ts : Tokens} {s : Cursor} {r : Read Node ts 1} (hb : r.blocks = s.blocks)
    (hr : r.rest = toks src s.offset) : Agrees src (repetition src limit r.value s) (readRepetition r) := by
  have h := ahead hlimit s.offset
  have hstable : ∀ {j}, skip src limit s.offset = .ok j → skip src limit j = .ok j ∧ r.rest = toks src j :=
    fun h => ⟨(skip_stable hlimit h).1, hr.trans (skip_stable hlimit h).2.symm⟩
  rw [← hr] at h
  generalize hrest : r.rest = rest at h
  cases h with
  | @halted e hs =>
    obtain ⟨v, bs, rest, hf⟩ := r
    dsimp only at hrest
    subst hrest
    rw [repetition, hs]
    exact .refused e
  | @done j hs hj =>
    obtain ⟨hstay, htoks⟩ := hstable hs
    rw [repetition_eq hs hstay, (drop_nil hj).2]
    obtain ⟨v, bs, rest, hf⟩ := r
    dsimp only at hrest
    subst hrest
    exact .ok ⟨v, bs, _, hf⟩ hb htoks
  | @token j c cs hs hj =>
    obtain ⟨hstay, htoks⟩ := hstable hs
    rw [repetition_eq hs hstay, (drop_cons hj).2.1, Option.bind_some]
    cases hkind : repetition? c with
    | none =>
      rw [readRepetition_other hrest hkind]
      exact .ok r hb htoks
    | some kind =>
      rw [tokenAt_mark (mem_marks_of_repetition? hkind)] at hrest
      obtain ⟨r', hr', hv, hb', hrest⟩ := readRepetition_mark hrest hkind
      rw [hr']
      dsimp only
      rw [← hv]
      exact .ok r' (hb'.trans hb) hrest

theorem suffixed_agrees (ih : ChoicesAgree src expr k) {s : Cursor} (hk : (toks src s.offset).length ≤ k) :
    Agrees src (suffixed src limit expr s) (readSuffixed s.blocks (toks src s.offset)) := by
  rw [suffixed, readSuffixed]
  exact (primary_agrees hlimit ih hk).elim (fun e => .refused e) fun s' r hb hr => repetition_agrees hlimit hb hr

theorem prefixed_agrees (ih : ChoicesAgree src expr k) {s : Cursor} (hk : (toks src s.offset).length ≤ k) :
    Agrees src (prefixed src limit expr s) (readPrefixed s.blocks (toks src s.offset)) := by
  have h := ahead hlimit s.offset
  have hstable : ∀ {j}, skip src limit s.offset = .ok j → skip src limit j = .ok j ∧ toks src j = toks src s.offset :=
    skip_stable hlimit
  have hsuffixed : ∀ i, (toks src i).length ≤ k →
      Agrees src (suffixed src limit expr ⟨i, s.blocks⟩) (readSuffixed s.blocks (toks src i)) :=
    fun i hi => suffixed_agrees (s := ⟨i, s.blocks⟩) hlimit ih hi
  generalize toks src s.offset = ts at h hk hstable ⊢
  cases h with
  | @halted e hs =>
    rw [prefixed, hs, readPrefixed, readSuffixed, readPrimary]
    · exact .refused e
    · simp
  | @done j hs hj =>
    obtain ⟨hstay, htoks⟩ := hstable hs
    rw [prefixed_eq hs hstay, (drop_nil hj).2, readPrefixed]
    · rw [← htoks]
      exact hsuffixed j (htoks ▸ hk)
    · simp
  | @token j c cs hs hj =>
    obtain ⟨hstay, htoks⟩ := hstable hs
    rw [prefixed_eq hs hstay, (drop_cons hj).2.1, Option.bind_some]
    cases hf : operator? c with
    | none =>
      rw [readPrefixed_other hf, ← htoks]
      exact hsuffixed j (htoks ▸ hk)
    | some f =>
      rw [tokenAt_mark (mem_marks_of_operator? hf)] at hk ⊢
      rw [readPrefixed, hf]
      dsimp only [wrapped]
      refine (hsuffixed (j + 1) (by rw [Tokens.length] at hk; omega)).elim (fun e => .refused e) fun s' r hb hr => ?_
      exact .ok (Read.mono (r.map f) _) hb hr

/-- The cursor stands before an item when it looks for a label. -/
theorem item_agrees (ih : ChoicesAgree src expr k) {s : Cursor} (hs : skip src limit s.offset = .ok s.offset)
    (hk : (toks src s.offset).length ≤ k) :
    Agrees src (item src limit expr s) (readItem s.blocks (toks src s.offset)) := by
  have hprefixed := prefixed_agrees hlimit ih hk
  have hstable := toks_stable hlimit hs
  rw [item]
  cases hj : src.drop s.offset with
  | nil =>
    rw [hj] at hstable
    rw [name?, hj]
    rw [hstable] at hprefixed ⊢
    rw [readItem]
    · exact hprefixed
    · simp
  | cons c cs =>
    rw [hj] at hstable
    rw [name?_cons hj]
    dsimp only at hstable
    by_cases hname : isNameStart c = true
    · rw [if_pos hname]
      rw [hstable, tokenAt_name hname] at hprefixed hk ⊢
      generalize c :: cs.takeWhile isNamePart = n at hprefixed hk ⊢
      rw [readItem]
      dsimp only
      rcases mark_ahead hlimit (c := ':') (by decide) (s.offset + n.length) with
        ⟨e, hhalt, hskip⟩ | ⟨hhalt, i, hskip, -, ⟨hpeek, hmark⟩ | ⟨hpeek, hmark⟩⟩
      · rw [hskip, hhalt]
        exact .refused e
      · rw [hskip, hhalt]
        dsimp only
        change Agrees src (if peek src i = some ':' then _ else _) _
        rw [if_pos hpeek]
        refine .with_mark hmark ?_
        have hlt := Tokens.afterMark?_length hmark
        split_ifs
        · exact .refused _
        · have hbody : Agrees src (prefixed src limit expr ⟨i + 1, s.blocks⟩) (readPrefixed s.blocks (toks src (i + 1))) :=
            prefixed_agrees (s := ⟨i + 1, s.blocks⟩) hlimit ih (by rw [Tokens.length] at hk; dsimp only; omega)
          rw [wrapped]
          refine hbody.elim (fun e => .refused e) fun s' r hb hr => ?_
          let labeled : Read Node (.cons s.offset (.name (String.ofList n)) (toks src (s.offset + n.length))) 1 :=
            (r.map (.labeled (String.ofList n))).mono (by simp only [Tokens.length]; omega)
          exact .ok labeled hb hr
      · rw [hskip, hhalt]
        dsimp only
        change Agrees src (if peek src i = some ':' then _ else _) _
        rw [if_neg hpeek]
        exact .without_mark hmark hprefixed
    · rw [if_neg hname]
      rw [hstable] at hprefixed ⊢
      rwa [readItem_other (by simpa using hname)]

end

end Cursor
end PegTemplate
