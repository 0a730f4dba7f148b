import Mathlib.Data.List.Sort
import Mathlib.Data.Finset.Dedup
import Mathlib.Data.Finset.Basic
import Mathlib.Data.Finset.Card

/-! A finite set as a strictly increasing list, as a sorted `std::vector` keeps one: insertion
and removal keep it sorted and act on the set as `insert` and `erase`. -/
namespace V2rayZt.SortedSet
variable {α : Type*} [LinearOrder α] [DecidableEq α]

def insertSorted (a : α) (l : List α) : List α :=
  if a ∈ l then l else (l ++ [a]).mergeSort (fun x y => decide (x ≤ y))

omit [DecidableEq α] in
theorem sortedLT_mergeSort {l : List α} (hl : l.Nodup) :
    (l.mergeSort (fun x y => decide (x ≤ y))).SortedLT := by
  have hle : (l.mergeSort (fun x y => decide (x ≤ y))).Pairwise (· ≤ ·) :=
    List.pairwise_mergeSort' (· ≤ ·) l
  exact hle.sortedLE.sortedLT_of_nodup ((List.mergeSort_perm l _).nodup_iff.2 hl)

theorem sortedLT_insertSorted {l : List α} (hl : l.SortedLT) (a : α) :
    (insertSorted a l).SortedLT := by
  unfold insertSorted
  split_ifs with ha
  · exact hl
  · exact sortedLT_mergeSort (hl.nodup.append (List.nodup_singleton a) (by simpa using ha))

@[simp] theorem toFinset_insertSorted (a : α) (l : List α) :
    (insertSorted a l).toFinset = insert a l.toFinset := by
  unfold insertSorted
  split_ifs with ha
  · simp [ha]
  · rw [List.toFinset_eq_of_perm _ _ (List.mergeSort_perm _ _)]
    ext x
    simp only [List.mem_toFinset,List.mem_append,List.mem_singleton,Finset.mem_insert]
    exact or_comm

theorem sortedLT_erase {l : List α} (hl : l.SortedLT) (a : α) : (l.erase a).SortedLT :=
  (hl.pairwise.sublist (List.erase_sublist)).sortedLT

omit [LinearOrder α] in
theorem toFinset_erase {l : List α} (hl : l.Nodup) (a : α) :
    (l.erase a).toFinset = l.toFinset.erase a := by
  ext x
  simp [hl.mem_erase_iff]

omit [DecidableEq α] in
/-- In a strictly increasing list the first element with a property is the
least one that has it. -/
theorem find?_eq_some_iff_least {l : List α} (hl : l.SortedLT) (p : α → Bool) {x : α} :
    l.find? p = some x ↔ x ∈ l ∧ p x = true ∧ ∀ y ∈ l, p y = true → x ≤ y := by
  have hleast : ∀ {x}, l.find? p = some x → x ∈ l ∧ p x = true ∧ ∀ y ∈ l, p y = true → x ≤ y := by
    intro x hx
    obtain ⟨hpx,as,bs,rfl,has⟩ := List.find?_eq_some_iff_append.1 hx
    refine ⟨by simp,hpx,fun y hy hpy => ?_⟩
    -- `y` is not before `x`, where `p` fails, so it is `x` or after it
    have hpair := List.pairwise_append.1 hl.pairwise
    rcases List.mem_append.1 hy with hy | hy
    · exact absurd hpy (by simpa using has y hy)
    · rcases List.mem_cons.1 hy with rfl | hy
      · exact le_rfl
      · exact (List.pairwise_cons.1 hpair.2.1).1 y hy |>.le
  refine ⟨hleast,fun ⟨hx,hpx,hmin⟩ => ?_⟩
  obtain ⟨x',hx'⟩ := Option.isSome_iff_exists.1 (List.find?_isSome.2 ⟨x,hx,hpx⟩)
  obtain ⟨hx'l,hpx',hmin'⟩ := hleast hx'
  rw [hx',le_antisymm (hmin' x hx hpx) (hmin x' hx'l hpx')]

/-- In a strictly increasing list the `i`-th element has exactly `i` elements
of the set below it. -/
theorem card_filter_lt_getElem {l : List α} (hl : l.SortedLT) {i : Nat} (hi : i < l.length) :
    (l.toFinset.filter (· < l[i])).card = i := by
  have hlt := List.pairwise_iff_getElem.1 hl.pairwise
  -- the elements below `l[i]` are the first `i`
  have hfilter : l.filter (fun x => decide (x < l[i])) = l.take i := by
    obtain ⟨a,ha⟩ : ∃ a, l[i] = a := ⟨_,rfl⟩
    rw [ha]
    conv_lhs => rw [← List.take_append_drop i l]
    rw [List.filter_append,List.filter_eq_self.2,List.filter_eq_nil_iff.2,List.append_nil]
    · intro x hx
      obtain ⟨j,hj,rfl⟩ := List.mem_drop_iff_getElem.1 hx
      rcases Nat.eq_zero_or_pos j with rfl | hj0
      · simp [← ha]
      · simpa [← ha] using le_of_lt (hlt i (i + j) hi (by omega) (by omega))
    · intro x hx
      obtain ⟨j,hj,rfl⟩ := List.mem_take_iff_getElem.1 hx
      simpa [← ha] using hlt j i (by omega) hi (by omega)
  have hset : l.toFinset.filter (· < l[i]) = (l.filter fun x => decide (x < l[i])).toFinset := by
    ext x
    simp
  rw [hset,List.toFinset_card_of_nodup (hl.nodup.filter _),hfilter,List.length_take]
  omega

end V2rayZt.SortedSet
