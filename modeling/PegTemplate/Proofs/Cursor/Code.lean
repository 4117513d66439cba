import PegTemplate.Proofs.Cursor.Lexing

/-!
# The cursor over an action block

* `Cursor.codeEnd` : where the code of a block ends, from a mode of `readCode` on;
* `Cursor.codeEnd_string`, `Cursor.codeEnd_triple`, `Cursor.codeEnd_lineEnd` : the loops over strings and comments leave
  their mode where `readCode` does;
* `Cursor.code_eq` : the reader of blocks with a cursor gives what `readCode` gives.
-/

namespace PegTemplate

variable {src : List Char}

namespace Cursor

/-- Where the code ends that starts at `i` in some mode. -/
def codeEnd (src : List Char) (start : Nat) (mode : CodeMode) (depth i : Nat) : Walk Nat :=
  match readCode start mode depth i (src.drop i) with
  | .ok (_, p, _) => .ok p
  | .error e => .error (.refused e)

variable {start depth i : Nat} {m : CodeMode} {c : Char} {cs : List Char}

theorem codeEnd_nil (hd : src.drop i = []) : codeEnd src start m depth i = .error (.refused (m.unfinished start)) := by
  rw [codeEnd, hd, readCode]

theorem codeEnd_cons (hd : src.drop i = c :: cs) (h : ¬(m = .plain ∧ c = '}' ∧ depth = 0)) :
    codeEnd src start m depth i = codeEnd src start (m.next i c cs) (m.depthAfter depth c) (i + 1) := by
  rw [codeEnd, codeEnd, hd, readCode, if_neg h, (drop_cons hd).2.2]
  cases readCode start (m.next i c cs) (m.depthAfter depth c) (i + 1) cs with
  | error e => rfl
  | ok x => rfl

/-- Braces count only outside of strings and comments. -/
theorem codeEnd_inner (hm : m ≠ .plain) (hd : src.drop i = c :: cs) :
    codeEnd src start m depth i = codeEnd src start (m.next i c cs) depth (i + 1) := by
  have hdepth : m.depthAfter depth c = depth := by
    cases m with
    | plain => exact absurd rfl hm
    | _ => rfl
  rw [codeEnd_cons hd fun h => hm h.1, hdepth]

theorem codeEnd_close (hd : src.drop i = '}' :: cs) : codeEnd src start .plain 0 i = .ok (i + 1) := by
  rw [codeEnd, hd, readCode, if_pos ⟨rfl, rfl, rfl⟩]

/-! ## Comments -/

theorem codeEnd_lineEnd {turns j : Nat} (h : lineEnd src turns i = .ok j) :
    codeEnd src start .comment depth i = codeEnd src start .plain depth j := by
  induction turns generalizing i with
  | zero => cases h
  | succ turns ih =>
    rw [lineEnd] at h
    split_ifs at h with hend
    · obtain rfl : i = j := Except.ok.inj h
      cases hd : src.drop i with
      | nil => rw [codeEnd_nil hd, codeEnd_nil hd]; rfl
      | cons c cs =>
        obtain ⟨hlt, hpeek, -⟩ := drop_cons hd
        obtain rfl : c = '\n' := by simpa [hpeek] using hend.resolve_left hlt
        rw [codeEnd_inner (m := .comment) CodeMode.noConfusion hd, codeEnd_cons hd fun h => absurd h.2.1 (by decide)]
        rfl
    · rw [not_or] at hend
      cases hd : src.drop i with
      | nil => exact absurd (drop_nil hd).1 hend.1
      | cons c cs =>
        have hc : c ≠ '\n' := by
          rintro rfl
          exact hend.2 (drop_cons hd).2.1
        rw [codeEnd_inner (m := .comment) CodeMode.noConfusion hd, ← ih h, CodeMode.next, if_neg hc]

/-! ## Strings of one line -/

theorem codeEnd_pass_string (q : Char) :
    codeEnd src start (.pass 1 (.string q)) depth i = codeEnd src start (.string q) depth (i + 1) := by
  cases hd : src.drop i with
  | nil =>
    have hnext : src.drop (i + 1) = [] := by rw [← List.drop_drop, hd]; rfl
    rw [codeEnd_nil hd, codeEnd_nil hnext]
    rfl
  | cons c cs =>
    rw [codeEnd_inner (m := .pass 1 (.string q)) nofun hd]
    rfl

theorem codeEnd_string (start depth : Nat) {q : Char} (hq : isQuote q = true) {turns : Nat} (h : src.length - i < turns) :
    ∃ j, stringEnd src q turns i = .ok j ∧ i ≤ j ∧
      codeEnd src start (.string q) depth i = codeEnd src start .plain depth (j + 1) := by
  induction turns generalizing i with
  | zero => omega
  | succ turns ih =>
    rw [stringEnd]
    cases hd : src.drop i with
    | nil =>
      have hnext : src.drop (i + 1) = [] := by rw [← List.drop_drop, hd]; rfl
      refine ⟨i, if_pos (Or.inl (drop_nil hd).1), Nat.le_refl _, ?_⟩
      rw [codeEnd_nil hd, codeEnd_nil hnext]
      rfl
    | cons c cs =>
      obtain ⟨hlt, hpeek, -⟩ := drop_cons hd
      rw [codeEnd_inner (m := .string q) nofun hd, hpeek]
      by_cases hend : c = q ∨ c = '\n'
      · have hback : c ≠ '\\' := by
          rcases hend with rfl | rfl
          · exact ne_of_isQuote hq rfl
          · decide
        refine ⟨i, if_pos (Or.inr (by simpa using hend)), Nat.le_refl _, ?_⟩
        rw [CodeMode.next, if_neg hback, if_pos (by simpa using hend)]
      · rw [if_neg (by simpa [hlt] using hend)]
        by_cases hback : c = '\\'
        · subst hback
          obtain ⟨j, hj, hle, hcode⟩ := ih (i := i + 2) (by omega)
          refine ⟨j, hj, by omega, ?_⟩
          rw [← hcode]
          exact codeEnd_pass_string q
        · obtain ⟨j, hj, hle, hcode⟩ := ih (i := i + 1) (by omega)
          refine ⟨j, by rw [if_neg (by simpa using hback), hj], by omega, ?_⟩
          rw [← hcode, CodeMode.next, if_neg hback, if_neg (by simpa using hend)]

/-! ## Strings between threefold quotes -/

theorem isPrefixOf_triple (q c : Char) (cs : List Char) :
    [q, q, q].isPrefixOf (c :: cs) = (c == q && startsPair q cs) := by
  have hcomm : ∀ a : Char, (q == a) = (a == q) := fun a => Bool.beq_comm
  match cs with
  | [] => simp [List.isPrefixOf, startsPair]
  | [a] => simp [List.isPrefixOf, startsPair]
  | a :: b :: cs => simp [List.isPrefixOf, startsPair, hcomm]

theorem codeEnd_pass_two {d e : Char} {r : List Char} (hd : src.drop i = d :: e :: r) (m : CodeMode) :
    codeEnd src start (.pass 2 m) depth i = codeEnd src start m depth (i + 2) := by
  have hsecond : (CodeMode.pass 2 m).next i d (e :: r) = .pass 1 m := rfl
  rw [codeEnd_inner (m := .pass 2 m) nofun hd, hsecond, codeEnd_inner (m := .pass 1 m) nofun (drop_cons hd).2.2]
  rfl

/-- Up to the first threefold quotes, only the newest character changes. -/
theorem codeEnd_find? (start depth s : Nat) {q previous : Char} (hi : 0 < i)
    (hprevious : peek src (i - 1) = some previous) :
    (find? src [q, q, q] i = none ∧
      codeEnd src start (.triple q s previous) depth i = refuse .unterminatedTripleQuote s) ∨
    ∃ k d r, find? src [q, q, q] i = some k ∧ i ≤ k ∧ src.drop k = q :: q :: q :: r ∧ peek src (k - 1) = some d ∧
      codeEnd src start (.triple q s previous) depth i = codeEnd src start (.triple q s d) depth k := by
  induction hn : src.length - i using Nat.strongRecOn generalizing i previous with
  | ind n ih =>
    subst hn
    cases hd : src.drop i with
    | nil => exact Or.inl ⟨find?_nil hd, codeEnd_nil hd⟩
    | cons c cs =>
      obtain ⟨hlt, hpeek, -⟩ := drop_cons hd
      rw [find?_cons hd]
      split_ifs with hmark
      · obtain ⟨r, hr⟩ := List.isPrefixOf_iff_prefix.1 hmark
        exact Or.inr ⟨i, previous, r, rfl, Nat.le_refl _, hd.trans hr.symm, hprevious, rfl⟩
      · have hnext : codeEnd src start (.triple q s previous) depth i = codeEnd src start (.triple q s c) depth (i + 1) := by
          rw [isPrefixOf_triple] at hmark
          rw [codeEnd_inner (m := .triple q s previous) nofun hd, CodeMode.next, if_neg]
          intro h
          rw [Bool.and_eq_true, Bool.and_eq_true, decide_eq_true_eq] at h
          rw [Bool.and_eq_true, beq_iff_eq] at hmark
          exact hmark h.1
        rw [hnext]
        rcases ih _ (by omega) (i := i + 1) (by omega) hpeek rfl with hnone | ⟨k, d, r, hk, hle, hrest⟩
        · exact Or.inl hnone
        · exact Or.inr ⟨k, d, r, hk, by omega, hrest⟩

theorem codeEnd_triple (start depth s : Nat) {q previous : Char} {turns : Nat} (h : src.length - i < turns) (hi : 0 < i)
    (hprevious : peek src (i - 1) = some previous) :
    (tripleEnd src [q, q, q] s turns i = refuse .unterminatedTripleQuote s ∧
      codeEnd src start (.triple q s previous) depth i = refuse .unterminatedTripleQuote s) ∨
    ∃ j, tripleEnd src [q, q, q] s turns i = .ok j ∧ i ≤ j ∧
      codeEnd src start (.triple q s previous) depth i = codeEnd src start .plain depth (j + 3) := by
  induction turns generalizing i previous with
  | zero => omega
  | succ turns ih =>
    rw [tripleEnd]
    rcases codeEnd_find? start depth s (q := q) hi hprevious with
      ⟨hnone, hcode⟩ | ⟨k, d, r, hk, hle, hquotes, hd, hcode⟩
    · rw [hnone]
      exact Or.inl ⟨rfl, hcode⟩
    · rw [hk, hcode, codeEnd_inner (m := .triple q s d) nofun hquotes]
      dsimp only
      rw [hd, CodeMode.next]
      change ((if (d != '\\') = true then _ else _) = _ ∧ _) ∨ ∃ j, (if (d != '\\') = true then _ else _) = _ ∧ _
      by_cases hback : d = '\\'
      · subst hback
        have hlt := (drop_cons hquotes).1
        have hstay : ¬((decide (q = q) && startsPair q (q :: q :: r) && ('\\' != '\\')) = true) := by simp
        rw [if_neg hstay]
        rcases ih (i := k + 1) (by omega) (by omega) (drop_cons hquotes).2.1 with ⟨hnone, hcode⟩ | ⟨j, hj, hle', hcode⟩
        · exact Or.inl ⟨hnone, hcode⟩
        · exact Or.inr ⟨j, hj, by omega, hcode⟩
      · refine Or.inr ⟨k, if_pos (by simpa using hback), hle, ?_⟩
        rw [if_pos (by simp [hback, startsPair])]
        exact codeEnd_pass_two (drop_cons hquotes).2.2 .plain

/-! ## Blocks -/

/-- Threefold quotes are found just where `readCode` finds them. -/
theorem starts_triple (hd : src.drop i = c :: cs) :
    (starts src i ['\'', '\'', '\''] || starts src i ['"', '"', '"']) = (isQuote c && startsPair c cs) := by
  rw [starts, starts, hd, isPrefixOf_triple, isPrefixOf_triple]
  by_cases h1 : c = '\''
  · subst h1
    simp [isQuote]
  · by_cases h2 : c = '"'
    · subst h2
      simp [isQuote]
    · rw [isQuote, beq_false_of_ne h1, beq_false_of_ne h2]
      rfl

theorem codeEnd_quote (hquote : isQuote c = true) (hd : src.drop i = c :: cs) :
    codeEnd src start .plain depth i = codeEnd src start
      (if startsPair c cs then .pass 2 (.triple c i c) else .string c) depth (i + 1) := by
  have hc : ¬(CodeMode.plain = .plain ∧ c = '}' ∧ depth = 0) := fun h => ne_of_isQuote hquote rfl h.2.1
  have hdepth : CodeMode.plain.depthAfter depth c = depth := by
    rw [CodeMode.depthAfter, if_neg (ne_of_isQuote hquote rfl), if_neg (ne_of_isQuote hquote rfl)]
  rw [codeEnd_cons hd hc, hdepth, CodeMode.next, if_pos hquote]

/-- From a quote on, up to behind the string. -/
theorem codeEnd_opensString {limit : Nat} (hlimit : src.length < limit) (start depth : Nat) (hquote : isQuote c = true)
    (hpair : ¬startsPair c cs = true) (hd : src.drop i = c :: cs) :
    ∃ j, stringEnd src c limit (i + 1) = .ok j ∧ i < j ∧
      codeEnd src start .plain depth i = codeEnd src start .plain depth (j + 1) := by
  have hturns : src.length - (i + 1) < limit := by omega
  obtain ⟨j, hj, hle, hcode⟩ := codeEnd_string start depth hquote hturns
  refine ⟨j, hj, hle, ?_⟩
  rw [codeEnd_quote hquote hd, if_neg hpair, hcode]

/-- From threefold quotes on, up to behind the string. -/
theorem codeEnd_opensTriple {limit : Nat} (hlimit : src.length < limit) (start depth : Nat) (hquote : isQuote c = true)
    (hpair : startsPair c cs = true) (hd : src.drop i = c :: cs) :
    (tripleEnd src (slice src i (i + 3)) i limit (i + 3) = refuse .unterminatedTripleQuote i ∧
      codeEnd src start .plain depth i = refuse .unterminatedTripleQuote i) ∨
    ∃ j, tripleEnd src (slice src i (i + 3)) i limit (i + 3) = .ok j ∧ i ≤ j ∧
      codeEnd src start .plain depth i = codeEnd src start .plain depth (j + 3) := by
  obtain ⟨r, rfl⟩ := eq_of_startsPair hpair
  obtain ⟨-, -, hnext⟩ := drop_cons hd
  have hslice : slice src i (i + 3) = [c, c, c] := by
    rw [slice, hd, Nat.add_sub_cancel_left]
    rfl
  have hturns : src.length - (i + 3) < limit := by omega
  have hthird : peek src (i + 3 - 1) = some c := (drop_cons (drop_cons hnext).2.2).2.1
  rw [codeEnd_quote hquote hd, if_pos hpair, codeEnd_pass_two hnext, hslice]
  rcases codeEnd_triple start depth i (q := c) hturns (by omega) hthird with hnone | ⟨j, hj, hle, hcode⟩
  · exact Or.inl hnone
  · exact Or.inr ⟨j, hj, by omega, hcode⟩

/-- From a number sign on, up to the end of the line. -/
theorem codeEnd_opensComment {limit : Nat} (hlimit : src.length < limit) (start depth : Nat)
    (hd : src.drop i = '#' :: cs) :
    ∃ j, lineEnd src limit i = .ok j ∧ i < j ∧
      codeEnd src start .plain depth i = codeEnd src start .plain depth j := by
  obtain ⟨hlt, hpeek, -⟩ := drop_cons hd
  obtain ⟨j, hj, hle, hend, -⟩ := lineEnd_eq (show src.length - i < limit by omega)
  refine ⟨j, hj, Nat.lt_of_le_of_ne hle ?_, ?_⟩
  · rintro rfl
    rcases hend with hend | hend
    · exact hlt hend
    · rw [hpeek] at hend
      cases hend
  · rw [← codeEnd_lineEnd hj, codeEnd_cons hd fun h => absurd h.2.1 (by decide),
      codeEnd_inner (m := .comment) CodeMode.noConfusion hd]
    rfl

theorem codeLoop_eq {limit body turns : Nat} (hlimit : src.length < limit) (h : src.length - i < turns) :
    codeLoop src limit start body turns (depth + 1) i =
      (codeEnd src start .plain depth i).map fun p => (slice src body (p - 1), p) := by
  induction turns generalizing i depth with
  | zero => omega
  | succ turns ih =>
    rw [codeLoop]
    cases hd : src.drop i with
    | nil =>
      rw [if_pos (drop_nil hd).1, codeEnd_nil hd]
      rfl
    | cons c cs =>
      obtain ⟨hlt, hpeek, -⟩ := drop_cons hd
      rw [if_neg hlt, starts_triple hd, hpeek]
      by_cases hquote : isQuote c = true
      · rw [hquote, Bool.true_and]
        by_cases hpair : startsPair c cs = true
        · rw [if_pos hpair]
          rcases codeEnd_opensTriple hlimit start depth hquote hpair hd with ⟨hnone, hcode⟩ | ⟨j, hj, hle, hcode⟩
          · rw [hnone, hcode]
            rfl
          · rw [hj, hcode]
            exact ih (by omega)
        · obtain ⟨j, hj, hle, hcode⟩ := codeEnd_opensString hlimit start depth hquote hpair hd
          rw [if_neg hpair, hcode]
          change (if isQuote c = true then _ else _) = _
          rw [if_pos hquote, hj]
          exact ih (by omega)
      · rw [Bool.not_eq_true] at hquote
        rw [hquote, Bool.false_and, if_neg (by decide)]
        change (if isQuote c = true then _ else _) = _
        rw [if_neg (by simp [hquote])]
        by_cases hhash : c = '#'
        · subst hhash
          obtain ⟨j, hj, hlt, hcode⟩ := codeEnd_opensComment hlimit start depth hd
          rw [if_pos rfl, hj, hcode]
          exact ih (by omega)
        · rw [if_neg hhash]
          have hplain : CodeMode.plain.next i c cs = .plain := by
            rw [CodeMode.next, if_neg (by simp [hquote]), if_neg hhash]
          by_cases hopen : c = '{'
          · subst hopen
            rw [if_pos rfl, codeEnd_cons hd fun h => absurd h.2.1 (by decide), hplain]
            exact ih (by omega)
          · rw [if_neg hopen]
            by_cases hclose : c = '}'
            · subst hclose
              rw [if_pos rfl]
              cases depth with
              | zero =>
                rw [if_pos rfl, codeEnd_close hd]
                rfl
              | succ depth =>
                rw [if_neg (by omega), codeEnd_cons hd fun h => absurd h.2.2 (by omega), hplain]
                exact ih (by omega)
            · rw [if_neg hclose, codeEnd_cons hd fun h => hclose h.2.1, hplain, CodeMode.depthAfter, if_neg hopen,
                if_neg hclose]
              exact ih (by omega)

/-- The reader of blocks with a cursor reads what `readCode` reads. -/
theorem code_eq {limit : Nat} (hlimit : src.length < limit) (hd : src.drop i = '{' :: cs) :
    code src limit i = lexed (readCode i .plain 0 (i + 1) cs) := by
  obtain ⟨-, -, hnext⟩ := drop_cons hd
  rw [code, eat_self hlimit hd rfl (by decide) (by decide)]
  change codeLoop src limit i (i + 1) limit (0 + 1) (i + 1) = _
  rw [codeLoop_eq hlimit (by omega), codeEnd, hnext]
  cases hcode : readCode i .plain 0 (i + 1) cs with
  | error e => rfl
  | ok x =>
    obtain ⟨text, p, r⟩ := x
    have hp : p - 1 - (i + 1) = text.length := by
      have := readCode_offset hcode
      omega
    have hslice : slice src (i + 1) (p - 1) = text := by
      rw [slice, hnext, hp, readCode_append hcode, List.take_left]
    change Except.ok (slice src (i + 1) (p - 1), p) = _
    rw [hslice]
    rfl

end Cursor
end PegTemplate
