import PegTemplate.Value.Basic

/-!
# Remembered applications

* `Result` : what an expression came to at a position;
* `Entry` : what is known of an application of a rule: that it has begun, or its result;
* `Memo` : a table of entries by rule and position. `Memo.find?` looks an entry up, `Memo.enter` adds an
  application that has begun, `Memo.insert` puts its result there, `Memo.erase` takes it away.
-/

namespace PegTemplate

/-- What an expression came to. -/
inductive Result where
  | failed
  /-- The match ends before `stop`. -/
  | matched (stop : Nat) (value : Value)
  deriving BEq, Inhabited

/-- The expression did not match. -/
def Result.isFailed : Result → Bool
  | failed => true
  | matched .. => false

/-- What is known of an application of a rule. -/
inductive Entry where
  | begun
  | done (result : Result)
  deriving BEq, Inhabited

/-- A rule applied at a position, and what is known of it. -/
structure Memo.Row where
  rule : String
  position : Nat
  entry : Entry
  deriving BEq, Inhabited

/-- The row is about that application. -/
def Memo.Row.isFor (r : Memo.Row) (rule : String) (position : Nat) : Bool :=
  r.position == position && r.rule == rule

/-- What is known of applications, the newest first. -/
abbrev Memo := List Memo.Row

namespace Memo

/-- What is known of an application. -/
def find? (m : Memo) (rule : String) (position : Nat) : Option Entry :=
  (List.find? (·.isFor rule position) m).map (·.entry)

/-- Adds an application that has begun. -/
def enter (m : Memo) (rule : String) (position : Nat) : Memo := ⟨rule, position, .begun⟩ :: m

/-- Puts an entry in the place of the one for the application, or at the end if there is none. -/
def insert : Memo → (rule : String) → (position : Nat) → Entry → Memo
  | [], rule, position, entry => [⟨rule, position, entry⟩]
  | r :: m, rule, position, entry =>
    if r.isFor rule position then ⟨rule, position, entry⟩ :: m else r :: insert m rule position entry

/-- Forgets an application. -/
def erase (m : Memo) (rule : String) (position : Nat) : Memo :=
  m.filter fun r => !r.isFor rule position

/-! ## Look-up -/

theorem Row.isFor_iff {r : Row} {rule : String} {position : Nat} :
    r.isFor rule position = true ↔ r.rule = rule ∧ r.position = position := by
  simp [isFor, and_comm]

theorem find?_cons (r : Row) (m : Memo) (rule : String) (position : Nat) :
    find? (r :: m) rule position = if r.isFor rule position then some r.entry else find? m rule position := by
  unfold find?
  by_cases h : r.isFor rule position <;> simp [h]

theorem find?_enter_self (m : Memo) (rule : String) (position : Nat) :
    (m.enter rule position).find? rule position = some .begun := by
  simp [enter, find?_cons, Row.isFor]

theorem find?_enter_of_ne {m : Memo} {rule rule' : String} {position position' : Nat}
    (h : ¬(rule = rule' ∧ position = position')) :
    (m.enter rule position).find? rule' position' = m.find? rule' position' := by
  rw [enter, find?_cons, if_neg]
  rw [Row.isFor_iff]
  exact h

theorem find?_insert_self (m : Memo) (rule : String) (position : Nat) (entry : Entry) :
    (m.insert rule position entry).find? rule position = some entry := by
  induction m with
  | nil => simp [insert, find?, Row.isFor]
  | cons r m ih =>
    unfold insert
    split
    · simp [find?_cons, Row.isFor]
    · rename_i h
      rw [find?_cons, if_neg h, ih]

theorem find?_insert_of_ne {m : Memo} {rule rule' : String} {position position' : Nat} {entry : Entry}
    (h : ¬(rule = rule' ∧ position = position')) :
    (m.insert rule position entry).find? rule' position' = m.find? rule' position' := by
  have hn : ¬Row.isFor ⟨rule, position, entry⟩ rule' position' := by
    rw [Row.isFor_iff]
    exact h
  induction m with
  | nil => simp [insert, find?, hn]
  | cons r m ih =>
    unfold insert
    split
    · rename_i hr
      rw [Row.isFor_iff] at hr
      rw [find?_cons, find?_cons, if_neg hn, if_neg]
      rw [Row.isFor_iff, hr.1, hr.2]
      exact h
    · rw [find?_cons, find?_cons, ih]

theorem find?_erase_self (m : Memo) (rule : String) (position : Nat) :
    (m.erase rule position).find? rule position = none := by
  simp [erase, find?]

theorem find?_erase_of_ne {m : Memo} {rule rule' : String} {position position' : Nat}
    (h : ¬(rule = rule' ∧ position = position')) :
    (m.erase rule position).find? rule' position' = m.find? rule' position' := by
  induction m with
  | nil => rfl
  | cons r m ih =>
    by_cases hr : r.isFor rule position
    · have hr' := hr
      rw [Row.isFor_iff] at hr'
      rw [find?_cons, if_neg, ← ih]
      · simp [erase, hr]
      · rw [Row.isFor_iff, hr'.1, hr'.2]
        exact h
    · rw [find?_cons, ← ih, ← find?_cons]
      simp [erase, hr]

end Memo

end PegTemplate
