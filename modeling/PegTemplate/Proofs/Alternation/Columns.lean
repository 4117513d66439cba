import Mathlib.Data.List.Perm.Basic
import PegTemplate.Alternation

/-!
# Columns

* `columns_eq_heads` : the first column of some lists, and then the columns of what is behind it;
* `upcoming` : what is left of the columns in the middle of one of them;
* `numberedFrom` : the members of lists with the numbers of their lists;
* `filter_columns_numberedFrom` : the columns keep the order of each list;
* `columns_perm` : the columns hold all members of the lists.
-/

namespace PegTemplate
open scoped List

variable {α β : Type}

/-! ## One column after the other -/

/-- What stands at one place of the lists. -/
def column (xss : List (List α)) (k : Nat) : List α := xss.filterMap (·[k]?)

theorem column_cons (xs : List α) (xss : List (List α)) (k : Nat) :
    column (xs :: xss) k = column [xs] k ++ column xss k :=
  List.filterMap_append (l := [xs])

theorem mem_column_iff {xss : List (List α)} {k : Nat} {x : α} : x ∈ column xss k ↔ ∃ xs ∈ xss, xs[k]? = some x :=
  List.mem_filterMap

/-- Behind the longest list there are no columns. -/
theorem column_eq_nil {xss : List (List α)} {n k : Nat} (h : ∀ xs ∈ xss, xs.length ≤ n) (hk : n ≤ k) :
    column xss k = [] := by
  rw [column, List.filterMap_eq_nil_iff]
  intro xs hxs
  exact List.getElem?_eq_none (Nat.le_trans (h xs hxs) hk)

/-- What gives nothing from some number on need not be asked for more. -/
theorem flatMap_range_eq {f : Nat → List α} {m n : Nat} (hmn : m ≤ n) (h : ∀ k, m ≤ k → f k = []) :
    (List.range n).flatMap f = (List.range m).flatMap f := by
  obtain ⟨d, rfl⟩ := Nat.exists_eq_add_of_le hmn
  have hrest : ((List.range d).map (m + ·)).flatMap f = [] := by
    rw [List.flatMap_eq_nil_iff]
    intro k hk
    obtain ⟨i, -, rfl⟩ := List.mem_map.mp hk
    exact h _ (Nat.le_add_right m i)
  rw [List.range_add, List.flatMap_append, hrest, List.append_nil]

theorem length_le_sum_lengths (xss : List (List α)) :
    ∀ xs ∈ xss, xs.length ≤ (xss.map List.length).foldr (· + ·) 0 := by
  induction xss with
  | nil => exact nofun
  | cons ys xss ih =>
    rw [List.map_cons, List.foldr_cons, List.forall_mem_cons]
    exact ⟨Nat.le_add_right _ _, fun xs hxs => Nat.le_trans (ih xs hxs) (Nat.le_add_left _ _)⟩

theorem exists_length_le (xss : List (List α)) : ∃ n, ∀ xs ∈ xss, xs.length ≤ n :=
  ⟨_, length_le_sum_lengths xss⟩

/-- There are as many columns as one likes, if only no list is longer. -/
theorem columns_eq_of_le {xss : List (List α)} {n : Nat} (h : ∀ xs ∈ xss, xs.length ≤ n) :
    columns xss = (List.range n).flatMap (column xss) := by
  change (List.range ((xss.map List.length).foldr (· + ·) 0)).flatMap (column xss) = _
  have hsum := length_le_sum_lengths xss
  obtain hle | hle := Nat.le_total n ((xss.map List.length).foldr (· + ·) 0)
  · exact flatMap_range_eq hle fun k hk => column_eq_nil h hk
  · exact (flatMap_range_eq hle fun k hk => column_eq_nil hsum hk).symm

theorem column_zero (xss : List (List α)) : column xss 0 = xss.filterMap List.head? := by
  rw [column]
  congr 1
  funext xs
  exact List.head?_eq_getElem?.symm

theorem column_succ (xss : List (List α)) (k : Nat) : column xss (k + 1) = column (xss.map List.tail) k := by
  rw [column, column, List.filterMap_map]
  congr 1
  funext xs
  exact List.getElem?_tail.symm

/-- **The first column stands in front of the columns of the rest.** -/
theorem columns_eq_heads (xss : List (List α)) :
    columns xss = xss.filterMap List.head? ++ columns (xss.map List.tail) := by
  obtain ⟨n, hn⟩ := exists_length_le xss
  have htails : ∀ xs ∈ xss.map List.tail, xs.length ≤ n := by
    intro xs hxs
    obtain ⟨ys, hys, rfl⟩ := List.mem_map.mp hxs
    rw [List.length_tail]
    exact Nat.le_trans (Nat.sub_le _ _) (hn ys hys)
  rw [columns_eq_of_le fun xs hxs => Nat.le_trans (hn xs hxs) (Nat.le_succ n), columns_eq_of_le htails,
    List.range_succ_eq_map, List.flatMap_cons, List.flatMap_map, column_zero]
  congr 2
  funext k
  exact column_succ xss k

theorem columns_of_forall_nil {xss : List (List α)} (h : ∀ xs ∈ xss, xs = []) : columns xss = [] :=
  columns_eq_of_le (n := 0) fun xs hxs => Nat.le_of_eq (congrArg List.length (h xs hxs))

/-! ## In the middle of a column -/

/-- What is left of the columns if the lists in `behind` have had their turn in this one. -/
def upcoming (behind ahead : List (List α)) : List α :=
  ahead.filterMap List.head? ++ columns (behind ++ ahead.map List.tail)

theorem upcoming_start (xss : List (List α)) : upcoming [] xss = columns xss :=
  (columns_eq_heads xss).symm

theorem upcoming_end (xss : List (List α)) : upcoming xss [] = columns xss := by
  rw [upcoming, List.filterMap_nil, List.nil_append, List.map_nil, List.append_nil]

theorem upcoming_skip {behind skipped ahead : List (List α)} (h : ∀ xs ∈ skipped, xs = []) :
    upcoming behind (skipped ++ ahead) = upcoming (behind ++ skipped) ahead := by
  have hheads : skipped.filterMap List.head? = [] := by
    rw [List.filterMap_eq_nil_iff]
    intro xs hxs
    rw [h xs hxs, List.head?_nil]
  have htails : skipped.map List.tail = skipped := by
    refine (List.map_congr_left fun xs hxs => ?_).trans (List.map_id skipped)
    rw [h xs hxs]
    rfl
  rw [upcoming, upcoming, List.filterMap_append, hheads, List.nil_append, List.map_append, htails,
    List.append_assoc]

theorem upcoming_read (behind ahead : List (List α)) (x : α) (xs : List α) :
    upcoming behind ((x :: xs) :: ahead) = x :: upcoming (behind ++ [xs]) ahead := by
  rw [upcoming, upcoming, List.filterMap_cons, List.head?_cons, List.map_cons, List.tail_cons, List.append_assoc]
  rfl

/-! ## Lists by their numbers -/

/-- The members of lists, each with the number of its list; the numbers count from `n`. -/
def numberedFrom (n : Nat) : List (List α) → List (List (Nat × α))
  | [] => []
  | xs :: xss => xs.map (n, ·) :: numberedFrom (n + 1) xss

theorem numberedFrom_append (n : Nat) (xss yss : List (List α)) :
    numberedFrom n (xss ++ yss) = numberedFrom n xss ++ numberedFrom (n + xss.length) yss := by
  induction xss generalizing n with
  | nil => rfl
  | cons xs xss ih =>
    rw [List.cons_append, numberedFrom, numberedFrom, ih, List.cons_append, List.length_cons, Nat.add_assoc,
      Nat.add_comm 1]

theorem map_snd_numberedFrom (n : Nat) (xss : List (List α)) :
    (numberedFrom n xss).map (·.map Prod.snd) = xss := by
  induction xss generalizing n with
  | nil => rfl
  | cons xs xss ih =>
    rw [numberedFrom, List.map_cons, ih, List.map_map]
    congr 1
    exact List.map_id' xs

theorem columns_map (f : α → β) (xss : List (List α)) : columns (xss.map (·.map f)) = (columns xss).map f := by
  have hlengths : (xss.map (·.map f)).map List.length = xss.map List.length := by
    rw [List.map_map]
    exact List.map_congr_left fun xs _ => List.length_map f
  rw [columns, columns, hlengths, List.map_flatMap]
  congr 1
  funext k
  rw [List.filterMap_map, List.map_filterMap]
  congr 1
  funext xs
  exact List.getElem?_map

/-- Without the numbers, the columns are those of the lists. -/
theorem map_snd_columns_numberedFrom (n : Nat) (xss : List (List α)) :
    (columns (numberedFrom n xss)).map Prod.snd = columns xss := by
  rw [← columns_map, map_snd_numberedFrom]

theorem numberedFrom_of_forall_nil {n : Nat} {xss : List (List α)} (h : ∀ xs ∈ xss, xs = []) :
    ∀ vs ∈ numberedFrom n xss, vs = [] := by
  induction xss generalizing n with
  | nil => exact nofun
  | cons xs xss ih =>
    obtain ⟨rfl, hxss⟩ := List.forall_mem_cons.mp h
    exact List.forall_mem_cons.mpr ⟨rfl, ih hxss⟩

/-- What is left of the columns in the middle of one of them, with the numbers of the lists. -/
def numberedUpcoming (behind ahead : List (List α)) : List (Nat × α) :=
  upcoming (numberedFrom 0 behind) (numberedFrom behind.length ahead)

theorem numberedFrom_zero_append (xss yss : List (List α)) :
    numberedFrom 0 (xss ++ yss) = numberedFrom 0 xss ++ numberedFrom xss.length yss := by
  rw [numberedFrom_append, Nat.zero_add]

theorem numberedUpcoming_start (xss : List (List α)) : numberedUpcoming [] xss = columns (numberedFrom 0 xss) :=
  upcoming_start _

theorem numberedUpcoming_end (xss : List (List α)) : numberedUpcoming xss [] = columns (numberedFrom 0 xss) :=
  upcoming_end _

theorem numberedUpcoming_skip {behind skipped ahead : List (List α)} (h : ∀ xs ∈ skipped, xs = []) :
    numberedUpcoming behind (skipped ++ ahead) = numberedUpcoming (behind ++ skipped) ahead := by
  rw [numberedUpcoming, numberedUpcoming, numberedFrom_append, upcoming_skip (numberedFrom_of_forall_nil h),
    numberedFrom_zero_append, List.length_append]

theorem numberedUpcoming_read (behind ahead : List (List α)) (x : α) (xs : List α) :
    numberedUpcoming behind ((x :: xs) :: ahead) = (behind.length, x) :: numberedUpcoming (behind ++ [xs]) ahead := by
  rw [numberedUpcoming, numberedUpcoming, numberedFrom, List.map_cons, upcoming_read, numberedFrom_zero_append,
    List.length_append]
  rfl

/-! ## All members in their order -/

theorem columns_singleton (xs : List α) : columns [xs] = xs := by
  induction xs with
  | nil => exact columns_of_forall_nil fun xs hxs => List.mem_singleton.mp hxs
  | cons x xs ih =>
    rw [columns_eq_heads]
    exact congrArg (x :: ·) ih

theorem le_of_mem_numberedFrom {n : Nat} {xss : List (List α)} {vs : List (Nat × α)} (h : vs ∈ numberedFrom n xss) :
    ∀ v ∈ vs, n ≤ v.1 := by
  induction xss generalizing n with
  | nil => cases h
  | cons xs xss ih =>
    intro v hv
    rcases List.mem_cons.mp h with rfl | h
    · obtain ⟨x, -, rfl⟩ := List.mem_map.mp hv
      exact Nat.le_refl n
    · exact Nat.le_trans (Nat.le_succ n) (ih h v hv)

/-- In one column, only what a list has there bears the number of that list. -/
theorem filter_column_numberedFrom {m i : Nat} {xss : List (List α)} {xs : List α} (h : xss[i]? = some xs) (k : Nat) :
    (column (numberedFrom m xss) k).filter (·.1 = m + i) = column [xs.map (m + i, ·)] k := by
  induction xss generalizing m i with
  | nil => cases h
  | cons ys xss ih =>
    rw [numberedFrom, column_cons, List.filter_append]
    have hnumber : ∀ v ∈ column [ys.map (m, ·)] k, v.1 = m := by
      intro v hv
      obtain ⟨vs, hvs, hv⟩ := mem_column_iff.mp hv
      rw [List.mem_singleton.mp hvs] at hv
      obtain ⟨y, -, rfl⟩ := List.mem_map.mp (List.mem_of_getElem? hv)
      rfl
    cases i with
    | zero =>
      obtain rfl : ys = xs := Option.some.inj h
      have hown : (column [ys.map (m, ·)] k).filter (·.1 = m) = column [ys.map (m, ·)] k :=
        List.filter_eq_self.mpr fun v hv => decide_eq_true (hnumber v hv)
      have hothers : (column (numberedFrom (m + 1) xss) k).filter (·.1 = m) = [] := by
        rw [List.filter_eq_nil_iff]
        intro v hv
        obtain ⟨vs, hvs, hv⟩ := mem_column_iff.mp hv
        have hle := le_of_mem_numberedFrom hvs v (List.mem_of_getElem? hv)
        rw [decide_eq_true_eq]
        omega
      rw [Nat.add_zero, hown, hothers, List.append_nil]
    | succ i =>
      have hother : (column [ys.map (m, ·)] k).filter (·.1 = m + (i + 1)) = [] := by
        rw [List.filter_eq_nil_iff]
        intro v hv
        rw [decide_eq_true_eq, hnumber v hv]
        omega
      have hrest := ih (m := m + 1) (i := i) h
      rw [Nat.add_right_comm, Nat.add_assoc] at hrest
      rw [hother, hrest, List.nil_append]

/-- **The columns keep the order of each list.** -/
theorem filter_columns_numberedFrom {i : Nat} {xss : List (List α)} {xs : List α} (h : xss[i]? = some xs) :
    ((columns (numberedFrom 0 xss)).filter (·.1 = i)).map Prod.snd = xs := by
  obtain ⟨n, hn⟩ := exists_length_le (numberedFrom 0 xss ++ [xs.map (i, ·)])
  have hcolumn : ∀ k, (column (numberedFrom 0 xss) k).filter (·.1 = i) = column [xs.map (i, ·)] k := by
    intro k
    have hk := filter_column_numberedFrom (m := 0) h k
    rwa [Nat.zero_add] at hk
  rw [columns_eq_of_le fun vs hvs => hn vs (List.mem_append_left _ hvs), List.filter_flatMap]
  simp only [hcolumn]
  rw [← columns_eq_of_le fun vs hvs => hn vs (List.mem_append_right _ hvs), columns_singleton, List.map_map]
  exact List.map_id' xs

/-- **The columns hold all members of the lists.** -/
theorem columns_perm (xss : List (List α)) : (columns xss).Perm xss.flatten := by
  induction xss with
  | nil => rfl
  | cons xs xss ih =>
    obtain ⟨n, hn⟩ := exists_length_le (xs :: xss)
    have hxs := columns_eq_of_le (List.forall_mem_singleton.mpr (hn xs List.mem_cons_self))
    have hxss := columns_eq_of_le fun ys hys => hn ys (List.mem_cons_of_mem xs hys)
    rw [columns_singleton] at hxs
    calc columns (xs :: xss)
      _ = (List.range n).flatMap fun k => column [xs] k ++ column xss k := by
        rw [columns_eq_of_le hn]
        congr 1
        funext k
        exact column_cons xs xss k
      _ ~ (List.range n).flatMap (column [xs]) ++ (List.range n).flatMap (column xss) :=
        (List.flatMap_append_perm (List.range n) (column [xs]) (column xss)).symm
      _ = xs ++ columns xss := by rw [← hxs, ← hxss]
      _ ~ xs ++ xss.flatten := ih.append_left xs

end PegTemplate
