import PegTemplate.Proofs.Cursor.Walk
import PegTemplate.Proofs.Grammar.Offsets
import PegTemplate.Proofs.Grammar.Spelling

/-!
# The cursor over single tokens

* `rest_eq` : what a reader leaves of the text is what its offset says;
* `Cursor.skip_eq`, `Cursor.escape_eq`, `Cursor.literal_eq`, `Cursor.charClass_eq` : the readers with a cursor give what
  the readers of `Grammar.read` give, with an offset in place of the text that is left. Each loop has turns enough if
  `limit` is more than the length of the text.
-/

namespace PegTemplate
open Unicode

variable {src : List Char}

/-! ## Offsets and the text behind them -/

theorem rest_eq {pos p : Nat} {r : List Char} (h : Advance pos (src.drop pos) p r) : src.drop p = r := by
  obtain ⟨passed, hr, rfl⟩ := h
  rw [← List.drop_drop, hr, List.drop_left]

theorem drop_nil {i : Nat} (h : src.drop i = []) : src.length ≤ i ∧ Cursor.peek src i = none := by
  have hle := List.drop_eq_nil_iff.1 h
  exact ⟨hle, List.getElem?_eq_none hle⟩

theorem drop_cons {i : Nat} {c : Char} {cs : List Char} (h : src.drop i = c :: cs) :
    ¬src.length ≤ i ∧ Cursor.peek src i = some c ∧ src.drop (i + 1) = cs := by
  refine ⟨fun hle => ?_, ?_, ?_⟩
  · rw [List.drop_eq_nil_of_le hle] at h
    cases h
  · rw [Cursor.peek, ← List.head?_drop, h]
    rfl
  · rw [← List.tail_drop, h]
    rfl

theorem drop_append {i : Nat} {mark r : List Char} (h : src.drop i = mark ++ r) : src.drop (i + mark.length) = r := by
  rw [← List.drop_drop, h, List.drop_left]

/-- The outcome of a reader as that of a reader with a cursor, without the text that is left. -/
def lexed {α : Type} : Lexed α → Walk (α × Nat)
  | .ok (x, p, _) => .ok (x, p)
  | .error e => .error (.refused e)

/-- The same for a reader that only passes over the text. -/
def passed : Except ReadError (Nat × List Char) → Walk Nat
  | .ok (p, _) => .ok p
  | .error e => .error (.refused e)

namespace Cursor

/-! ## Searching -/

/-- What is found is the first place of the mark. -/
theorem find?_cons {mark : List Char} {i : Nat} {c : Char} {cs : List Char} (h : src.drop i = c :: cs) :
    find? src mark i = if mark.isPrefixOf (c :: cs) then some i else find? src mark (i + 1) := by
  rw [find?, h, find?.go, find?, (drop_cons h).2.2]

theorem find?_nil {mark : List Char} {i : Nat} (h : src.drop i = []) : find? src mark i = none := by
  rw [find?, h, find?.go]

/-! ## Blanks and comments -/

theorem le_of_find? {mark : List Char} {i j : Nat} (h : find? src mark i = some j) : i ≤ j := by
  induction hn : src.length - i using Nat.strongRecOn generalizing i with
  | ind n ih =>
    subst hn
    cases hd : src.drop i with
    | nil =>
      rw [find?_nil hd] at h
      cases h
    | cons c cs =>
      rw [find?_cons hd] at h
      split_ifs at h
      · cases h
        exact Nat.le_refl _
      · have := (drop_cons hd).1
        exact Nat.le_of_succ_le (ih _ (by omega) h rfl)

/-! ## Blanks and comments -/

theorem skipFrom_comment (start i : Nat) : skipFrom (.comment start) i (src.drop i) =
    match find? src ['*', '/'] i with
    | none => .error ⟨.unclosedComment, start⟩
    | some j => skipLayout (j + 2) (src.drop (j + 2)) := by
  induction hn : src.length - i using Nat.strongRecOn generalizing i with
  | ind n ih =>
    subst hn
    cases hd : src.drop i with
    | nil => rw [find?_nil hd, skipFrom]
    | cons c cs =>
      obtain ⟨hlt, -, hnext⟩ := drop_cons hd
      rw [find?_cons hd]
      split_ifs with hmark
      · obtain ⟨r, hr⟩ := List.isPrefixOf_iff_prefix.1 hmark
        have hrest : src.drop (i + 2) = r := drop_append (hd.trans hr.symm)
        rw [← hr]
        dsimp only
        rw [hrest]
        rfl
      · have hopen : ∀ r, c = '*' → cs ≠ '/' :: r := by
          rintro r rfl rfl
          exact hmark rfl
        rw [skipFrom, ← hnext]
        · exact ih _ (by omega) (i + 1) rfl
        · exact hopen

/-- A comment up to the end of its line is passed over by the end of the line. -/
theorem lineEnd_eq {turns i : Nat} (h : src.length - i < turns) : ∃ j, lineEnd src turns i = .ok j ∧ i ≤ j ∧
    (src.length ≤ j ∨ peek src j = some '\n') ∧ skipFrom .line i (src.drop i) = skipLayout j (src.drop j) := by
  induction turns generalizing i with
  | zero => omega
  | succ turns ih =>
    rw [lineEnd]
    cases hd : src.drop i with
    | nil => exact ⟨i, if_pos (Or.inl (drop_nil hd).1), Nat.le_refl _, Or.inl (drop_nil hd).1, by rw [hd]; rfl⟩
    | cons c cs =>
      obtain ⟨hlt, hpeek, hnext⟩ := drop_cons hd
      by_cases hc : c = '\n'
      · subst hc
        exact ⟨i, if_pos (Or.inr hpeek), Nat.le_refl _, Or.inr hpeek, by rw [hd]; rfl⟩
      · obtain ⟨j, hj, hle, hend, hskip⟩ := ih (i := i + 1) (by omega)
        refine ⟨j, ?_, by omega, hend, ?_⟩
        · rw [hpeek, if_neg (by simp [hlt, hc]), hj]
        · rw [skipFrom, if_neg hc, ← hnext, hskip]

/-- What comes next neither is a blank nor opens a comment. -/
theorem skipLayout_self {c : Char} {cs : List Char} {i : Nat} (hl : isLayout c = false) (hc : c ≠ '#')
    (hs : ∀ r, c = '/' → cs ≠ '*' :: r ∧ cs ≠ '/' :: r) : skipLayout i (c :: cs) = .ok (i, c :: cs) := by
  rw [skipLayout, skipFrom, if_neg (by simp [hl])]
  · exact fun r h => (hs r h).1
  · exact fun r h => (hs r h).2
  · exact hc

/-- From where a comment of one line begins, up to the end of the line. -/
theorem skipLayout_lineComment {limit i : Nat} (hlimit : src.length < limit) {c : Char} {cs : List Char}
    (hd : src.drop i = c :: cs) (hopen : (['/', '/'].isPrefixOf (c :: cs) || c == '#') = true) :
    ∃ j, lineEnd src limit i = .ok j ∧ i < j ∧ skipLayout i (c :: cs) = skipLayout j (src.drop j) := by
  obtain ⟨hlt, hpeek, -⟩ := drop_cons hd
  obtain ⟨j, hj, hle, hend, hskip⟩ := lineEnd_eq (show src.length - i < limit by omega)
  have hcomment : c ≠ '\n' ∧ skipLayout i (c :: cs) = skipFrom .line i (c :: cs) := by
    rw [Bool.or_eq_true, beq_iff_eq] at hopen
    rcases hopen with hopen | rfl
    · obtain ⟨r, hr⟩ := List.isPrefixOf_iff_prefix.1 hopen
      rw [← hr]
      injection hr with hc
      subst hc
      exact ⟨by decide, rfl⟩
    · exact ⟨by decide, rfl⟩
  refine ⟨j, hj, Nat.lt_of_le_of_ne hle ?_, by rw [hcomment.2, ← hd, hskip]⟩
  rintro rfl
  rcases hend with hend | hend
  · exact hlt hend
  · rw [hpeek, Option.some.injEq] at hend
    exact hcomment.1 hend

/-- From where a comment between two marks begins, up to its second mark. -/
theorem skipLayout_comment {i : Nat} {c : Char} {cs : List Char} (hd : src.drop i = c :: cs)
    (hopen : ['/', '*'].isPrefixOf (c :: cs) = true) :
    skipLayout i (c :: cs) = skipFrom (.comment (i + 2)) (i + 2) (src.drop (i + 2)) := by
  obtain ⟨r, hr⟩ := List.isPrefixOf_iff_prefix.1 hopen
  have hrest : src.drop (i + 2) = r := drop_append (hd.trans hr.symm)
  rw [← hr, hrest]
  rfl

theorem skipLoop_eq {limit turns i : Nat} (hlimit : src.length < limit) (h : src.length - i < turns) :
    skipLoop src limit turns i = passed (skipLayout i (src.drop i)) := by
  induction turns generalizing i with
  | zero => omega
  | succ turns ih =>
    rw [skipLoop]
    cases hd : src.drop i with
    | nil => exact if_pos (drop_nil hd).1
    | cons c cs =>
      obtain ⟨hlt, hpeek, hnext⟩ := drop_cons hd
      rw [if_neg hlt, starts, starts, hd, hpeek]
      by_cases hopen : ['/', '*'].isPrefixOf (c :: cs) = true
      · rw [if_pos hopen, skipLayout_comment hd hopen, skipFrom_comment]
        cases hfind : find? src ['*', '/'] (i + 2) with
        | none => rfl
        | some j =>
          have hle := le_of_find? hfind
          exact ih (by omega)
      · rw [if_neg hopen]
        change (if isLayout c = true then _ else _) = _
        by_cases hl : isLayout c = true
        · rw [if_pos hl, skipLayout_blank hl, ← hnext]
          exact ih (by omega)
        · rw [if_neg hl]
          by_cases hline : (['/', '/'].isPrefixOf (c :: cs) || c == '#') = true
          · obtain ⟨j, hj, hlt, hskip⟩ := skipLayout_lineComment hlimit hd hline
            rw [if_pos hline, hj, hskip]
            exact ih (by omega)
          · rw [if_neg hline]
            rw [Bool.or_eq_true, beq_iff_eq, not_or] at hline
            rw [skipLayout_self (by simpa using hl) hline.2]
            · rfl
            · rintro r rfl
              refine ⟨?_, ?_⟩
              · rintro rfl
                exact hopen rfl
              · rintro rfl
                exact hline.1 rfl

theorem skip_eq {limit : Nat} (hlimit : src.length < limit) (i : Nat) :
    skip src limit i = passed (skipLayout i (src.drop i)) := skipLoop_eq hlimit (by omega)

/-! ## Escapes -/

theorem hexValue?_lt {c : Char} {d : Nat} (h : hexValue? c = some d) : d < 16 := by
  have hle : ∀ {a b : Char}, a ≤ b → a.toNat ≤ b.toNat := fun h => h
  simp only [hexValue?, Bool.and_eq_true, decide_eq_true_eq] at h
  split_ifs at h with h1 h2 h3
  · have := hle h1.2
    cases h
    simp only [Char.reduceToNat] at this
    omega
  · have := hle h2.2
    cases h
    simp only [Char.reduceToNat] at this
    omega
  · have := hle h3.2
    cases h
    simp only [Char.reduceToNat] at this
    omega

theorem hexDigit_eq (i j : Nat) : hexDigit (peek src i) j =
    match hexDigitOf (src.drop i) with
    | .ok d => .ok d
    | .error cause => refuse cause j := by
  cases hd : src.drop i with
  | nil =>
    rw [(drop_nil hd).2]
    rfl
  | cons c cs =>
    rw [(drop_cons hd).2.1, hexDigit, hexDigitOf]
    cases hexValue? c with
    | none => rfl
    | some d => rfl

theorem lt_of_hexDigitOf {cs : List Char} {d : Nat} (h : hexDigitOf cs = .ok d) : d < 16 := by
  cases cs with
  | nil => cases h
  | cons c cs =>
    rw [hexDigitOf] at h
    cases hv : hexValue? c with
    | none =>
      rw [hv] at h
      cases h
    | some v =>
      rw [hv] at h
      cases h
      exact hexValue?_lt hv

theorem hexDigits_eq {n value : Nat} (h : (value + 1) * Nat.pow 16 n ≤ 0x110000) (i : Nat) :
    hexDigits src n value i = lexed (readDigits n value i (src.drop i)) := by
  induction n generalizing value i with
  | zero =>
    have hvalue : (value + 1) * 1 ≤ 0x110000 := h
    rw [hexDigits, chr, if_pos (by omega)]
    rfl
  | succ n ih =>
    rw [hexDigits, hexDigit_eq, readDigits]
    cases hdigit : hexDigitOf (src.drop i) with
    | error cause => rfl
    | ok d =>
      have hlt := lt_of_hexDigitOf hdigit
      have hvalue : (value * 16 + d + 1) * Nat.pow 16 n ≤ 0x110000 := by
        rw [show Nat.pow 16 (n + 1) = 16 * Nat.pow 16 n from Nat.pow_succ', ← Nat.mul_assoc] at h
        exact Nat.le_trans (Nat.mul_le_mul_right _ (by omega)) h
      rw [List.drop_drop]
      exact ih hvalue (i + 1)

theorem twoDigits_eq (i : Nat) : (do
      let high ← hexDigit (peek src (i + 1)) (i + 3)
      let low ← hexDigit (peek src (i + 2)) (i + 3)
      let c ← chr (high * 16 + low)
      Except.ok (c, i + 3)) = lexed (readTwoDigits (i + 1) (src.drop (i + 1))) := by
  rw [hexDigit_eq, hexDigit_eq, readTwoDigits, List.drop_drop]
  cases hhigh : hexDigitOf (src.drop (i + 1)) with
  | error cause => rfl
  | ok high =>
    cases hlow : hexDigitOf (src.drop (i + 1 + 1)) with
    | error cause => rfl
    | ok low =>
      have h1 := lt_of_hexDigitOf hhigh
      have h2 := lt_of_hexDigitOf hlow
      have hchr : chr (high * 16 + low) = .ok (high * 16 + low) := if_pos (by omega)
      change (chr (high * 16 + low) >>= fun c => Except.ok (c, i + 3)) = _
      rw [hchr]
      rfl

theorem escape_eq (i : Nat) : escape src i = lexed (readEscape i (src.drop i)) := by
  cases hd : src.drop i with
  | nil => rw [escape, (drop_nil hd).2, readEscape]; rfl
  | cons c cs =>
    obtain ⟨-, hpeek, hnext⟩ := drop_cons hd
    rw [escape, hpeek]
    split
    · rename_i h; cases h
    · rename_i h; cases h; rfl
    · rename_i h; cases h; rfl
    · rename_i h; cases h; rfl
    · rename_i h; cases h; rfl
    · rename_i h
      cases h
      rw [readEscape, ← hnext]
      exact twoDigits_eq i
    · rename_i h
      cases h
      rw [hexDigits_eq (by decide), hnext]
      rfl
    · rename_i h1 h2 h3 h4 h5 h6 h
      cases h
      rw [readEscape_self ⟨by simpa using h1, by simpa using h2, by simpa using h3, by simpa using h4, by simpa using h5,
        by simpa using h6⟩]
      rfl

theorem flag_eq (i : Nat) : flag src i = ((readFlag i (src.drop i)).1, (readFlag i (src.drop i)).2.1) := by
  cases hd : src.drop i with
  | nil =>
    rw [flag, (drop_nil hd).2]
    rfl
  | cons c cs =>
    obtain ⟨-, hpeek, hnext⟩ := drop_cons hd
    rw [flag, hpeek]
    by_cases hc : c = 'i'
    · subst hc
      rw [if_pos rfl]
      cases cs with
      | nil =>
        rw [(drop_nil hnext).2]
        rfl
      | cons d cs =>
        rw [(drop_cons hnext).2.1]
        have hflag : readFlag i ('i' :: d :: cs) =
            if isNameStart d then (false, i, 'i' :: d :: cs) else (true, i + 1, d :: cs) := rfl
        rw [hflag]
        dsimp only
        split_ifs
        · rfl
        · rfl
    · have hne : readFlag i (c :: cs) = (false, i, c :: cs) := by
        rw [readFlag]
        rintro r ⟨⟩
        exact hc rfl
      rw [if_neg (by simpa using hc), hne]

/-! ## Literals and classes -/

theorem quoted_eq {q : Char} {turns i : Nat} (h : src.length - i < turns) :
    quoted src q turns i = lexed (readQuoted q i (src.drop i)) := by
  induction turns generalizing i with
  | zero => omega
  | succ turns ih =>
    rw [quoted]
    cases hd : src.drop i with
    | nil =>
      rw [if_pos (drop_nil hd).1, readQuoted]
      rfl
    | cons c cs =>
      obtain ⟨hlt, hpeek, hnext⟩ := drop_cons hd
      rw [if_neg hlt, hpeek, readQuoted]
      change (if c = q then _ else _) = _
      split_ifs with hclose hback
      · rfl
      · rw [escape_eq, hnext]
        split
        · rename_i he
          rw [he]
          rfl
        · rename_i d p r he
          have hadvance := readEscape_advance he
          obtain rfl := rest_eq (hnext ▸ hadvance)
          rw [he]
          change (quoted src q turns p >>= _) = _
          rw [ih (by have := hadvance.le; omega)]
          cases readQuoted q p (src.drop p) with
          | error e => rfl
          | ok x => rfl
      · rw [ih (by omega), hnext]
        cases readQuoted q (i + 1) cs with
        | error e => rfl
        | ok x => rfl

theorem skip_self {limit i : Nat} (hlimit : src.length < limit) {c : Char} {cs : List Char} (hd : src.drop i = c :: cs)
    (hl : isLayout c = false) (hc : c ≠ '#') (hs : c ≠ '/') : skip src limit i = .ok i := by
  rw [skip_eq hlimit, hd, skipLayout_self hl hc fun _ h => absurd h hs]
  rfl

theorem literal_eq {limit i : Nat} (hlimit : src.length < limit) {q : Char} {cs : List Char} (hq : isQuote q = true)
    (hd : src.drop i = q :: cs) : literal src limit i = lexed (readLiteral q (i + 1) cs) := by
  obtain ⟨-, hpeek, hnext⟩ := drop_cons hd
  have hskip : skip src limit i = .ok i := by
    refine skip_self hlimit hd ?_ (ne_of_isQuote hq rfl) (ne_of_isQuote hq rfl)
    rcases (by simpa [isQuote] using hq : q = '\'' ∨ q = '"') with rfl | rfl
    · rfl
    · rfl
  rw [literal, hskip]
  change (the (peek src i) >>= fun q => _) = _
  rw [hpeek]
  change (if isQuote q = true then _ else _) = _
  rw [if_pos hq, quoted_eq (by omega), hnext, readLiteral]
  cases hquoted : readQuoted q (i + 1) cs with
  | error e => rfl
  | ok x =>
    obtain ⟨text, p, r⟩ := x
    obtain rfl := rest_eq (hnext ▸ readQuoted_advance hquoted)
    change Except.ok ((text, (flag src p).1), (flag src p).2) = _
    rw [flag_eq]
    rfl

theorem member_eq (i : Nat) : member src i = lexed (readMember i (src.drop i)) := by
  rw [member]
  cases hd : src.drop i with
  | nil =>
    rw [if_pos (drop_nil hd).1]
    rfl
  | cons c cs =>
    obtain ⟨hlt, hpeek, hnext⟩ := drop_cons hd
    rw [if_neg hlt, hpeek]
    change (if c = '\\' then _ else _) = _
    split_ifs with hc
    · subst hc
      rw [escape_eq, hnext]
      rfl
    · rw [readMember]
      · rfl
      · exact hc

theorem hyphen_eq (i : Nat) : hyphen src i = (rangeEnd? (src.drop i)).isSome := by
  rw [hyphen]
  cases hd : src.drop i with
  | nil =>
    rw [(drop_nil hd).2]
    rfl
  | cons c cs =>
    obtain ⟨-, hpeek, hnext⟩ := drop_cons hd
    rw [hpeek]
    by_cases hc : c = '-'
    · subst hc
      cases cs with
      | nil =>
        rw [(drop_nil hnext).2]
        rfl
      | cons d cs =>
        rw [(drop_cons hnext).2.1, rangeEnd?]
        by_cases hd : d = ']'
        · rw [if_pos hd, hd]
          rfl
        · rw [if_neg hd]
          simp [hd]
    · rw [rangeEnd?_of_ne hc]
      simp [hc]

theorem members_eq {start turns i : Nat} (h : src.length - i < turns) :
    members src start turns i = lexed (readMembers start i (src.drop i)) := by
  induction turns generalizing i with
  | zero => omega
  | succ turns ih =>
    rw [members]
    cases hd : src.drop i with
    | nil =>
      rw [if_pos (drop_nil hd).1, readMembers]
      rfl
    | cons c cs =>
      obtain ⟨hlt, hpeek, hnext⟩ := drop_cons hd
      rw [if_neg hlt, hpeek]
      by_cases hc : c = ']'
      · subst hc
        rw [if_pos rfl, readMembers]
        rfl
      · rw [if_neg (by simpa using hc), member_eq, hd, readMembers]
        · split
          · rename_i ha
            rw [ha]
            rfl
          · rename_i a p r ha
            obtain rfl := rest_eq (hd ▸ readMember_advance ha)
            have hlt : src.length - p < src.length - i := by
              rw [← List.length_drop, ← List.length_drop, hd]
              exact readMember_length ha
            split
            · rename_i hr
              have hsingle : hyphen src p = false := by
                rw [hyphen_eq, hr]
                rfl
              rw [ha]
              change (if hyphen src p = true then _ else _) = _
              rw [hsingle, if_neg (by decide), ih (by omega)]
              cases readMembers start p (src.drop p) with
              | error e => rfl
              | ok x => rfl
            · rename_i last hr
              have hrange : hyphen src p = true := by
                rw [hyphen_eq, hr]
                rfl
              obtain rfl := rest_eq (rangeEnd?_advance hr)
              rw [ha]
              change (if hyphen src p = true then _ else _) = _
              rw [hrange, if_pos rfl, member_eq]
              split
              · rename_i hb
                rw [hb]
                rfl
              · rename_i b p' r' hb
                obtain rfl := rest_eq (readMember_advance hb)
                have hle := (readMember_advance hb).le
                rw [hb]
                change (if a > b then _ else _) = _
                split_ifs
                · rfl
                · rw [ih (by omega)]
                  cases readMembers start p' (src.drop p') with
                  | error e => rfl
                  | ok x => rfl
        · exact fun h => hc h

/-- A mark that is no blank and opens no comment is eaten where it stands. -/
theorem eat_self {limit i : Nat} (hlimit : src.length < limit) {c : Char} {cs : List Char} (hd : src.drop i = c :: cs)
    (hl : isLayout c = false) (hc : c ≠ '#') (hs : c ≠ '/') : eat src limit [c] i = .ok (i + 1) := by
  rw [eat, skip_self hlimit hd hl hc hs]
  change (if starts src i [c] = true then _ else _) = _
  rw [starts, hd, if_pos (by simp [List.isPrefixOf])]
  rfl

/-- The text between two offsets is what was passed. -/
theorem slice_cons {i p : Nat} {c : Char} {cs : List Char} (hd : src.drop i = c :: cs)
    (h : Advance (i + 1) cs p (src.drop p)) :
    slice src i p = c :: cs.take (cs.length - (src.drop p).length) := by
  obtain ⟨passed, hcs, hp⟩ := h
  have hlength := congrArg List.length hcs
  rw [List.length_append] at hlength
  have hi : p - i = passed.length + 1 := by omega
  have hpassed : cs.length - (src.drop p).length = passed.length := by omega
  rw [slice, hd, hi, hpassed, List.take_succ_cons]

theorem charClass_eq {limit i : Nat} (hlimit : src.length < limit) {cs : List Char} (hd : src.drop i = '[' :: cs) :
    charClass src limit i = lexed (readClass i cs) := by
  obtain ⟨-, -, hnext⟩ := drop_cons hd
  have hcaret : peek src (i + 1) = cs.head? := by rw [← hnext, List.head?_drop, peek]
  have hstart : (if cs.head? = some '^' then i + 1 + 1 else i + 1) = i + 1 + skipCaret cs := by
    unfold skipCaret
    split_ifs
    · rfl
    · rfl
  rw [charClass, skip_self hlimit hd rfl (by decide) (by decide)]
  change (eat src limit ['['] i >>= fun _ => _) = _
  rw [eat_self hlimit hd rfl (by decide) (by decide)]
  change (members src i limit (if peek src (i + 1) = some '^' then i + 1 + 1 else i + 1) >>= fun _ => _) = _
  rw [hcaret, hstart, members_eq (by omega), ← List.drop_drop, hnext]
  cases hm : readMembers i (i + 1 + skipCaret cs) (cs.drop (skipCaret cs)) with
  | error e =>
    rw [readClass_eq, hm]
    rfl
  | ok x =>
    obtain ⟨⟨ranges, singles⟩, p, r⟩ := x
    have hrest : src.drop p = r := rest_eq (by rw [← List.drop_drop, hnext]; exact readMembers_advance hm)
    have hclass : readClass i cs = .ok (⟨decide (cs.head? = some '^'), ranges, singles, (readFlag p r).1,
        String.ofList ('[' :: cs.take (cs.length - (readFlag p r).2.2.length))⟩, (readFlag p r).2) := by
      rw [readClass_eq, hm]
    have hadvance := readClass_advance hclass
    have hflag : src.drop (readFlag p r).2.1 = (readFlag p r).2.2 := rest_eq (by rw [hrest]; exact readFlag_advance p r)
    rw [← hflag] at hadvance
    have hslice := slice_cons hd hadvance
    rw [hflag] at hslice
    change Except.ok ((⟨decide (cs.head? = some '^'), ranges, singles, (flag src p).1,
      String.ofList (slice src i (flag src p).2)⟩ : CharClass), (flag src p).2) = _
    rw [hclass, flag_eq, hrest, hslice]
    rfl

end Cursor
end PegTemplate
