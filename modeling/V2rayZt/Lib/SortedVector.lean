import Mathlib.Data.List.Sort
import Mathlib.Data.List.Destutter
import Mathlib.Data.List.Dedup
import Mathlib.Data.List.GetD

/-! `std::sort`, `std::unique`, `std::lower_bound` and `std::binary_search` as libstdc++ writes
them, on lists; `fill` stands for the unspecified tail that `std::unique` leaves. -/
namespace V2rayZt.SortedVector
variable {α : Type*}

/-- `std::sort(first, last)`: the comparison it is given is `lt`, and
`mergeSort` asks `!lt b a` for `a ≤ b`. -/
def sort (lt : α → α → Bool) (l : List α) : List α := l.mergeSort fun a b => !lt b a

/-- `std::unique(first, last)` without the `erase` of the tail: the range
keeps its length. -/
def unique [DecidableEq α] (fill : List α → Nat → α) (l : List α) : List α :=
  let kept := l.destutter (· ≠ ·)
  kept ++ (List.range (l.length - kept.length)).map (fill l)

/-- `std::lower_bound` on `[first, first + len)`: halve the range, keep the
upper half when the middle element is below `val`. -/
def lowerBound [Inhabited α] (lt : α → α → Bool) (l : List α) (val : α) (first len : Nat) : Nat :=
  if len = 0 then first
  else if lt (l.getD (first + len / 2) default) val then lowerBound lt l val (first + len / 2 + 1) (len - len / 2 - 1)
  else lowerBound lt l val first (len / 2)
termination_by len
decreasing_by all_goals omega

/-- `std::binary_search(first, last, val)`: the lower bound is not the end
and `val` is not below the element there. -/
def binarySearch [Inhabited α] (lt : α → α → Bool) (l : List α) (val : α) : Bool :=
  let i := lowerBound lt l val 0 l.length
  i != l.length && !lt val (l.getD i default)

/-- What libstdc++'s `std::unique` leaves past the new end: it writes only
before it, so the tail keeps the values the range had there. -/
def libstdcxxFill [DecidableEq α] [Inhabited α] (l : List α) (i : Nat) : α :=
  l.getD ((l.destutter (· ≠ ·)).length + i) default

theorem length_unique [DecidableEq α] (fill : List α → Nat → α) (l : List α) :
    (unique fill l).length = l.length := by
  have hle := (List.destutter_sublist (R := (· ≠ ·)) l).length_le
  simp only [unique,List.length_append,List.length_map,List.length_range]
  omega

theorem sort_perm (lt : α → α → Bool) (l : List α) : (sort lt l).Perm l := List.mergeSort_perm l _

section Order
variable [LinearOrder α] {lt : α → α → Bool} (hlt : ∀ a b, lt a b = true ↔ a < b)
include hlt

theorem not_lt_swap (a b : α) : (!lt b a) = decide (a ≤ b) := by
  by_cases h : b < a
  · simp [(hlt b a).2 h,not_le.2 h]
  · have hf : lt b a = false := by rw [← Bool.not_eq_true,hlt]; exact h
    simp [hf,not_lt.1 h]

theorem sort_eq (l : List α) : sort lt l = l.mergeSort fun a b => decide (a ≤ b) := by
  simp only [sort,not_lt_swap hlt]

theorem sortedLE_sort (l : List α) : (sort lt l).SortedLE := by
  rw [sort_eq hlt,List.sortedLE_iff_pairwise]
  exact List.pairwise_mergeSort' (· ≤ ·) l

theorem sortedLT_sort {l : List α} (hn : l.Nodup) : (sort lt l).SortedLT :=
  (sortedLE_sort hlt l).sortedLT_of_nodup ((sort_perm lt l).nodup_iff.2 hn)

omit hlt in
/-- On a sorted list the kept elements are its elements once each, in
order. -/
theorem unique_of_sortedLE (fill : List α → Nat → α) {l : List α} (hs : l.SortedLE) :
    unique fill l = l.dedup ++ (List.range (l.length - l.dedup.length)).map (fill l) := by
  simp only [unique,(List.sortedLE_iff_pairwise.1 hs).destutter_eq_dedup]

example : unique libstdcxxFill [1,1,2] = [1,2,2] := by decide

omit hlt in
/-- A sorted list without repeats is left as it is: there is no tail. -/
theorem unique_of_nodup (fill : List α → Nat → α) {l : List α} (hs : l.SortedLE) (hn : l.Nodup) :
    unique fill l = l := by
  rw [unique_of_sortedLE fill hs,hn.dedup,Nat.sub_self,List.range_zero,List.map_nil,List.append_nil]

section Search
variable [Inhabited α] {l : List α} {val : α}

/-- What `std::lower_bound` keeps: every element before `first` is below
`val`, and none from `first + len` on is. -/
structure LowerBoundInv (l : List α) (val : α) (first len : Nat) : Prop where
  le_length : first + len ≤ l.length
  lt_of_lt : ∀ i (h : i < l.length), i < first → l[i] < val
  le_of_le : ∀ i (h : i < l.length), first + len ≤ i → val ≤ l[i]

omit hlt [Inhabited α] in
theorem LowerBoundInv.init (l : List α) (val : α) : LowerBoundInv l val 0 l.length :=
  ⟨by simp,fun _ _ h => absurd h (Nat.not_lt_zero _),fun _ hi hle => absurd hi (by omega)⟩

/-- One halving keeps the invariant on a sorted list: the middle element
decides for itself and, by the order, for the half it closes. -/
theorem LowerBoundInv.step (hs : l.SortedLE) {first len : Nat} (h : LowerBoundInv l val first len)
    (hlen : len ≠ 0) :
    if lt (l.getD (first + len / 2) default) val then LowerBoundInv l val (first + len / 2 + 1) (len - len / 2 - 1)
    else LowerBoundInv l val first (len / 2) := by
  have hm : first + len / 2 < l.length := by have := h.le_length; omega
  rw [List.getD_eq_getElem _ _ hm]
  split_ifs with hmid
  · -- the middle element and everything before it are below `val`
    refine ⟨by have := h.le_length; omega,fun i hi hlt' => ?_,fun i hi hle => h.le_of_le i hi (by omega)⟩
    exact lt_of_le_of_lt (hs.getElem_le_getElem_of_le (by omega)) ((hlt _ _).1 hmid)
  · -- `val` is at most the middle element, so at most everything after it
    refine ⟨by have := h.le_length; omega,h.lt_of_lt,fun i hi hle => ?_⟩
    have hval : val ≤ l[first + len / 2] := not_lt.1 fun hc => hmid ((hlt _ _).2 hc)
    exact hval.trans (hs.getElem_le_getElem_of_le (by omega))

/-- The index `std::lower_bound` returns: below it every element is below
`val`, from it on none is. -/
theorem lowerBound_inv (hs : l.SortedLE) {first len : Nat} (h : LowerBoundInv l val first len) :
    LowerBoundInv l val (lowerBound lt l val first len) 0 := by
  fun_induction lowerBound lt l val first len with
  | case1 first => exact h
  | case2 first len hlen hmid ih =>
    have hstep := h.step hlt hs hlen
    rw [if_pos hmid] at hstep
    exact ih hstep
  | case3 first len hlen hmid ih =>
    have hstep := h.step hlt hs hlen
    rw [if_neg hmid] at hstep
    exact ih hstep

/-- On a sorted list `std::binary_search` is membership. -/
theorem binarySearch_eq (hs : l.SortedLE) (val : α) : binarySearch lt l val = decide (val ∈ l) := by
  have h := lowerBound_inv hlt hs (LowerBoundInv.init l val)
  set i := lowerBound lt l val 0 l.length
  have hi : i ≤ l.length := by have := h.le_length; omega
  have hb : binarySearch lt l val = (i != l.length && !lt val (l.getD i default)) := rfl
  rw [hb]
  by_cases hend : i = l.length
  · -- every element is below `val`
    have hnot : val ∉ l := by
      intro hv
      obtain ⟨j,hj,rfl⟩ := List.getElem_of_mem hv
      exact lt_irrefl _ (h.lt_of_lt j hj (by omega))
    rw [hend]
    simp [hnot]
  · -- `val` is in the list exactly when it is the element at `i`
    have hil : i < l.length := by omega
    have hle : val ≤ l[i] := h.le_of_le i hil (by omega)
    have hmem : val ∈ l ↔ l[i] ≤ val := by
      constructor
      · intro hv
        obtain ⟨j,hj,hjv⟩ := List.getElem_of_mem hv
        have hij : i ≤ j := by
          by_contra hji
          exact lt_irrefl val (hjv ▸ h.lt_of_lt j hj (by omega))
        exact hjv ▸ hs.getElem_le_getElem_of_le hij
      · intro hv
        exact le_antisymm hv hle ▸ List.getElem_mem hil
    rw [List.getD_eq_getElem _ _ hil,not_lt_swap hlt,bne_iff_ne.2 hend,Bool.true_and,decide_eq_decide]
    exact hmem.symm

/-- The elements of `m` that `std::binary_search` does not find in a sorted
`l` are those not in it. -/
theorem filter_not_binarySearch (hs : l.SortedLE) (m : List α) :
    m.filter (fun x => !binarySearch lt l x) = m.filter fun x => decide (x ∉ l) := by
  apply List.filter_congr
  intro x _
  rw [binarySearch_eq hlt hs,decide_not]

end Search
end Order
end V2rayZt.SortedVector
