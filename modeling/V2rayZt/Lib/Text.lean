import Mathlib.Data.List.Infix

/-! `String.replace` with a nonempty pattern, left to right without overlaps, and splitting at a
delimiter, with the facts that make both invertible. -/
namespace V2rayZt.Text
variable {α : Type*} [BEq α]

/-- Replace every occurrence of `old` in a list by `new`, scanning from the left;
the empty pattern replaces nothing. -/
def replaceAll (old new : List α) : List α → List α
  | [] => []
  | c :: cs =>
    if _h : old ≠ [] ∧ old.isPrefixOf (c :: cs) then
      new ++ replaceAll old new ((c :: cs).drop old.length)
    else c :: replaceAll old new cs
termination_by l => l.length
decreasing_by
  · have : 0 < old.length := List.length_pos_iff.2 _h.1
    simp only [List.length_drop,List.length_cons]
    omega
  · simp

@[simp] theorem replaceAll_nil (old new : List α) : replaceAll old new [] = [] := by
  simp [replaceAll]

variable [LawfulBEq α]

/-- A text without some character of the pattern is left as it is. -/
theorem replaceAll_of_not_mem {old : List α} (new : List α) {a : α} (ha : a ∈ old) :
    ∀ l : List α, a ∉ l → replaceAll old new l = l
  | [] , _ => by simp
  | c :: cs, hl => by
    have hpre : ¬ old.isPrefixOf (c :: cs) := by
      intro hp
      exact hl ((List.isPrefixOf_iff_prefix.1 hp).subset ha)
    have hcs : a ∉ cs := fun h => hl (List.mem_cons_of_mem c h)
    rw [replaceAll,dif_neg (by simp [hpre]),replaceAll_of_not_mem new ha cs hcs]

theorem replaceAll_append_self {old : List α} (new : List α) (hold : old ≠ []) (l : List α) :
    replaceAll old new (old ++ l) = new ++ replaceAll old new l := by
  obtain ⟨c,cs,rfl⟩ := List.exists_cons_of_ne_nil hold
  have hpre : (c :: cs).isPrefixOf (c :: cs ++ l) = true :=
    List.isPrefixOf_iff_prefix.2 (List.prefix_append _ _)
  rw [List.cons_append,replaceAll,dif_pos ⟨hold,hpre⟩,← List.cons_append,
    List.drop_left]

/-- Cutting a block off a list at the first element that fails `p`: every
element is in the block, is that separator, or comes after it. -/
theorem mem_takeWhile_or {β : Type*} (p : β → Bool) {l : List β} {c : β} (hc : c ∈ l) :
    c ∈ l.takeWhile p ∨ p c = false ∨ c ∈ l.drop ((l.takeWhile p).length + 1) := by
  induction l with
  | nil => simp at hc
  | cons a l ih =>
    rcases List.mem_cons.1 hc with rfl | hc
    · cases hp : p c <;> simp [hp]
    · cases hp : p a
      · simp [hp,hc]
      · rcases ih hc with h | h | h <;> simp [hp,h]

/-! ### Splitting at a delimiter -/

/-- Kotlin's `split(d)` with one one-character delimiter: the pieces between
the delimiters, the empty ones included. -/
def split (s : String) (d : Char) : List String := (s.toList.splitOn d).map String.ofList

theorem split_ne_nil (s : String) (d : Char) : split s d ≠ [] := by
  simp [split,List.splitOn_ne_nil]

/-- A text without the delimiter is one piece. -/
theorem split_of_not_mem {s : String} {d : Char} (h : d ∉ s.toList) : split s d = [s] := by
  rw [split,List.splitOn_eq_singleton h,List.map_singleton,String.ofList_toList]

/-- No piece of `List.splitOn` holds the delimiter. -/
theorem not_mem_of_mem_splitOn {d : α} : ∀ {l p : List α}, p ∈ l.splitOn d → d ∉ p
  | [], p, hp => by
    rw [List.splitOn_nil,List.mem_singleton] at hp
    simp [hp]
  | c :: l, p, hp => by
    rw [List.splitOn_eq_splitOnP,List.splitOnP_cons_eq_if_modifyHead] at hp
    split_ifs at hp with hc
    · rcases List.mem_cons.1 hp with rfl | hp
      · simp
      · exact not_mem_of_mem_splitOn hp
    · -- `c` is no delimiter, so it joins the first piece of the rest
      obtain ⟨q,qs,hq⟩ := List.exists_cons_of_ne_nil (List.splitOnP_ne_nil (· == d) l)
      have hmem : ∀ r ∈ q :: qs, d ∉ r := fun r hr =>
        not_mem_of_mem_splitOn (by rw [List.splitOn_eq_splitOnP,hq]; exact hr)
      rw [hq,List.modifyHead_cons] at hp
      rcases List.mem_cons.1 hp with rfl | hp
      · have hcd : c ≠ d := fun h => hc (by simp [h])
        simp [hcd.symm,hmem q (List.mem_cons_self ..)]
      · exact hmem p (List.mem_cons_of_mem q hp)

theorem not_mem_of_mem_split {s t : String} {d : Char} (h : t ∈ split s d) : d ∉ t.toList := by
  obtain ⟨cs,hcs,rfl⟩ := List.mem_map.1 h
  rw [String.toList_ofList]
  exact not_mem_of_mem_splitOn hcs

omit [LawfulBEq α] in
/-- A piece of `List.splitOn` is a run of the list. -/
theorem sublist_of_mem_splitOn {d : α} : ∀ {l p : List α}, p ∈ l.splitOn d → List.Sublist p l
  | [], p, hp => by
    rw [List.splitOn_nil,List.mem_singleton] at hp
    simp [hp]
  | c :: l, p, hp => by
    rw [List.splitOn_eq_splitOnP,List.splitOnP_cons_eq_if_modifyHead] at hp
    split_ifs at hp with hc
    · rcases List.mem_cons.1 hp with rfl | hp
      · exact List.nil_sublist _
      · exact (sublist_of_mem_splitOn hp).cons c
    · obtain ⟨q,qs,hq⟩ := List.exists_cons_of_ne_nil (List.splitOnP_ne_nil (· == d) l)
      have hsub : ∀ r ∈ q :: qs, List.Sublist r l := fun r hr =>
        sublist_of_mem_splitOn (by rw [List.splitOn_eq_splitOnP,hq]; exact hr)
      rw [hq,List.modifyHead_cons] at hp
      rcases List.mem_cons.1 hp with rfl | hp
      · exact (hsub q (List.mem_cons_self ..)).cons_cons c
      · exact (hsub p (List.mem_cons_of_mem q hp)).cons c

theorem sublist_of_mem_split {s t : String} {d : Char} (h : t ∈ split s d) : List.Sublist t.toList s.toList := by
  obtain ⟨cs,hcs,rfl⟩ := List.mem_map.1 h
  rw [String.toList_ofList]
  exact sublist_of_mem_splitOn hcs

/-- Splitting pieces joined by the delimiter gives them back. -/
theorem split_intercalate {ts : List String} {d : Char} (hts : ts ≠ []) (h : ∀ t ∈ ts, d ∉ t.toList) :
    split ((String.singleton d).intercalate ts) d = ts := by
  rw [split,String.toList_intercalate,String.toList_singleton,
    List.splitOn_intercalate d (by simpa using h) (by simpa using hts),List.map_map]
  conv_rhs => rw [← List.map_id ts]
  exact List.map_congr_left fun t _ => String.ofList_toList

end V2rayZt.Text
