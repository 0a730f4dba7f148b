import Mathlib.Data.List.Basic
import Mathlib.Tactic.Linarith

/-! Arrays as functions from index to cell, `memcpy` on them, and the window of `n` cells from
`start` of a cyclic array, read back as a list. -/
namespace V2rayZt.CyclicWindow
variable {α : Type*}

/-- `memcpy(dst+doff, src+soff, n)` on arrays seen as functions from index
to cell: cells `doff .. doff+n-1` take the source cells, the rest are kept. -/
def memcpy (dst : Nat → α) (doff : Nat) (src : Nat → α) (soff n : Nat) : Nat → α :=
  fun i => if doff ≤ i ∧ i < doff+n then src (soff+(i-doff)) else dst i

theorem memcpy_inside {dst src : Nat → α} {doff soff n i : Nat} (h1 : doff ≤ i)
    (h2 : i < doff+n) : memcpy dst doff src soff n i = src (soff+(i-doff)) := by
  simp [memcpy,h1,h2]

theorem memcpy_outside {dst src : Nat → α} {doff soff n i : Nat} (h : i < doff ∨ doff+n ≤ i) :
    memcpy dst doff src soff n i = dst i := by
  unfold memcpy
  rw [if_neg]
  omega

@[simp] theorem memcpy_zero (dst src : Nat → α) (doff soff : Nat) :
    memcpy dst doff src soff 0 = dst := by
  funext i
  exact memcpy_outside (by omega)

/-- Two copies side by side are one copy of the two sources joined. -/
theorem memcpy_memcpy (dst : Nat → α) (doff : Nat) (f g : Nat → α) (a b : Nat) :
    memcpy (memcpy dst doff f 0 a) (doff+a) g 0 b =
      memcpy dst doff (fun j => if j < a then f j else g (j-a)) 0 (a+b) := by
  funext i
  by_cases h1 : doff ≤ i ∧ i < doff+a
  · rw [memcpy_outside (by omega),memcpy_inside h1.1 h1.2,memcpy_inside h1.1 (by omega),if_pos (by omega)]
  · by_cases h2 : doff+a ≤ i ∧ i < doff+a+b
    · rw [memcpy_inside h2.1 h2.2,memcpy_inside (by omega) (by omega),if_neg (by omega)]
      congr 1
      omega
    · rw [memcpy_outside (by omega),memcpy_outside (by omega),memcpy_outside (by omega)]

/-- The cells of the cyclic array `buf` of `size` cells met from `start` on, in order. -/
def window (buf : Nat → α) (size start n : Nat) : List α :=
  (List.range n).map fun i => buf ((start+i)%size)

@[simp] theorem length_window (buf : Nat → α) (size start n : Nat) :
    (window buf size start n).length = n := by
  simp [window]

@[simp] theorem getElem_window (buf : Nat → α) (size start n i : Nat)
    (h : i < (window buf size start n).length) :
    (window buf size start n)[i] = buf ((start+i)%size) := by
  simp [window]

@[simp] theorem window_zero (buf : Nat → α) (size start : Nat) : window buf size start 0 = [] := rfl

theorem window_congr {buf buf' : Nat → α} {size start n : Nat}
    (h : ∀ i < n, buf ((start+i)%size) = buf' ((start+i)%size)) :
    window buf size start n = window buf' size start n := by
  apply List.ext_getElem (by simp)
  intro i h1 _
  simp only [getElem_window]
  exact h i (by simpa using h1)

theorem window_add (buf : Nat → α) (size start m n : Nat) :
    window buf size start (m+n) = window buf size start m ++ window buf size (start+m) n := by
  apply List.ext_getElem (by simp)
  intro i h1 _
  by_cases hi : i < m
  · rw [List.getElem_append_left (by simpa using hi)]
    simp
  · rw [List.getElem_append_right (by simpa using hi)]
    simp only [getElem_window, length_window]
    congr 2
    omega

theorem window_mod_start (buf : Nat → α) (size start n : Nat) :
    window buf size (start%size) n = window buf size start n := by
  apply List.ext_getElem (by simp)
  intro i _ _
  simp [Nat.mod_add_mod]

theorem drop_window (buf : Nat → α) (size start n k : Nat) :
    (window buf size start n).drop k = window buf size (start+k) (n-k) := by
  by_cases hk : k ≤ n
  · have hn : n = k+(n-k) := by omega
    conv_lhs => rw [hn,window_add]
    simp
  · rw [List.drop_of_length_le (by simp; omega),Nat.sub_eq_zero_of_le (by omega)]
    rfl

theorem take_window (buf : Nat → α) (size start n k : Nat) (hk : k ≤ n) :
    (window buf size start n).take k = window buf size start k := by
  have hn : n = k+(n-k) := by omega
  rw [hn,window_add]
  simp

theorem add_mod_ne (start : Nat) {size i j : Nat} (hij : i < j) (hj : j < size) :
    (start+i)%size ≠ (start+j)%size := by
  intro h
  have hm := Nat.sub_mod_eq_zero_of_mod_eq h.symm
  rw [show start+j-(start+i) = j-i by omega,Nat.mod_eq_of_lt (by omega)] at hm
  omega

/-- The offset of cell `p` from cell `e` when walking forwards. -/
def offset (size e p : Nat) : Nat := (p+size-e)%size

theorem offset_add_mod {size e j : Nat} (he : e < size) (hj : j < size) :
    offset size e ((e+j)%size) = j := by
  unfold offset
  by_cases h : e+j < size
  · rw [Nat.mod_eq_of_lt h,show e+j+size-e = j+size by omega,Nat.add_mod_right,
      Nat.mod_eq_of_lt hj]
  · have hx : (e+j)%size = e+j-size := by
      rw [Nat.mod_eq_sub_mod (by omega),Nat.mod_eq_of_lt (by omega)]
    rw [hx,show e+j-size+size-e = j by omega,Nat.mod_eq_of_lt hj]

theorem offset_mod {size a d : Nat} (hs : 0 < size) (hd : d < size) :
    offset size (a%size) ((a+d)%size) = d := by
  rw [Nat.add_mod a d,Nat.mod_eq_of_lt hd]
  exact offset_add_mod (Nat.mod_lt _ hs) hd

theorem offset_lt {size e : Nat} (hs : 0 < size) (p : Nat) : offset size e p < size :=
  Nat.mod_lt _ hs

theorem add_offset {size e p : Nat} (he : e < size) (hp : p < size) :
    (e+offset size e p)%size = p := by
  unfold offset
  by_cases h : e ≤ p
  · have ho : (p+size-e)%size = p-e := by
      rw [show p+size-e = (p-e)+size by omega,Nat.add_mod_right,Nat.mod_eq_of_lt (by omega)]
    rw [ho,show e+(p-e) = p by omega,Nat.mod_eq_of_lt hp]
  · have ho : (p+size-e)%size = p+size-e := Nat.mod_eq_of_lt (by omega)
    rw [ho,show e+(p+size-e) = p+size by omega,Nat.add_mod_right,Nat.mod_eq_of_lt hp]

/-- An index advanced by `n` cells in the two steps a split copy takes (to
the end of the array, then on from its front) lands where one step would. -/
theorem split_advance {size i n : Nat} (hi : i < size) :
    (if min n (size-i) < n then ((i+min n (size-i))%size+(n-min n (size-i)))%size
      else (i+min n (size-i))%size) = (i+n)%size := by
  split
  · rw [show i+min n (size-i) = size by omega,Nat.mod_self,Nat.zero_add,
      show i+n = (n-min n (size-i))+size by omega,Nat.add_mod_right]
  · rw [show min n (size-i) = n by omega]

/-- The two-chunk copy into a cyclic array: `n ≤ size` source cells go to
`e, e+1, …`, the part that does not fit before the end of the array going to
its front. Cell `p` then holds source cell `offset size e p` if that offset
is below `n`, and keeps its old content otherwise. -/
theorem split_copy_in {dst src : Nat → α} {size e n : Nat} (he : e < size) (hn : n ≤ size)
    {p : Nat} (hp : p < size) :
    (if min n (size-e) < n then
        memcpy (memcpy dst e src 0 (min n (size-e))) ((e+min n (size-e))%size) src
          (min n (size-e)) (n-min n (size-e))
      else memcpy dst e src 0 (min n (size-e))) p =
      if offset size e p < n then src (offset size e p) else dst p := by
  unfold offset
  split
  · -- the copy wraps: the second chunk starts at cell 0
    have hw : (e+min n (size-e))%size = 0 := by
      rw [show e+min n (size-e) = size by omega,Nat.mod_self]
    rw [hw]
    by_cases h1 : p < n-min n (size-e)
    · rw [memcpy_inside (by omega) (by omega),Nat.mod_eq_of_lt (by omega),if_pos (by omega)]
      congr 1
      omega
    · rw [memcpy_outside (by omega)]
      by_cases h2 : e ≤ p
      · rw [memcpy_inside h2 (by omega),show p+size-e = (p-e)+size by omega,Nat.add_mod_right,
          Nat.mod_eq_of_lt (by omega),if_pos (by omega)]
        simp
      · rw [memcpy_outside (by omega),Nat.mod_eq_of_lt (by omega),if_neg (by omega)]
  · by_cases h2 : e ≤ p ∧ p < e+n
    · rw [memcpy_inside h2.1 (by omega),show p+size-e = (p-e)+size by omega,Nat.add_mod_right,
        Nat.mod_eq_of_lt (by omega),if_pos (by omega)]
      simp
    · rw [memcpy_outside (by omega)]
      by_cases h3 : e ≤ p
      · rw [show p+size-e = (p-e)+size by omega,Nat.add_mod_right,Nat.mod_eq_of_lt (by omega),
          if_neg (by omega)]
      · rw [Nat.mod_eq_of_lt (by omega),if_neg (by omega)]

/-- The two-chunk copy out of a cyclic array: destination cell `j < n`
receives the cell `j` steps after `b`. -/
theorem split_copy_out {dst buf : Nat → α} {size b n : Nat} (hb : b < size) (hn : n ≤ size)
    {j : Nat} (hj : j < n) :
    (if min n (size-b) < n then
        memcpy (memcpy dst 0 buf b (min n (size-b))) (min n (size-b)) buf
          ((b+min n (size-b))%size) (n-min n (size-b))
      else memcpy dst 0 buf b (min n (size-b))) j = buf ((b+j)%size) := by
  split
  · have hw : (b+min n (size-b))%size = 0 := by
      rw [show b+min n (size-b) = size by omega,Nat.mod_self]
    rw [hw]
    by_cases h1 : j < min n (size-b)
    · rw [memcpy_outside (by omega),memcpy_inside (by omega) (by omega),Nat.mod_eq_of_lt (by omega)]
      simp
    · rw [memcpy_inside (by omega) (by omega),Nat.mod_eq_sub_mod (by omega),
        Nat.mod_eq_of_lt (by omega)]
      congr 1
      omega
  · rw [memcpy_inside (by omega) (by omega),Nat.mod_eq_of_lt (by omega)]
    simp

theorem split_copy_out_outside {dst buf : Nat → α} {size b n j : Nat} (hj : n ≤ j) :
    (if min n (size-b) < n then
        memcpy (memcpy dst 0 buf b (min n (size-b))) (min n (size-b)) buf
          ((b+min n (size-b))%size) (n-min n (size-b))
      else memcpy dst 0 buf b (min n (size-b))) j = dst j := by
  split
  · rw [memcpy_outside (by omega),memcpy_outside (by omega)]
  · rw [memcpy_outside (by omega)]

/-- A store of `k` cells right after a window of `c` cells extends the window
by those cells, provided both fit in one revolution. -/
theorem window_store {buf buf' src : Nat → α} {size b c k : Nat} (hb : b < size)
    (hck : c+k ≤ size)
    (hstore : ∀ p < size, buf' p =
      if offset size ((b+c)%size) p < k then src (offset size ((b+c)%size) p) else buf p) :
    window buf' size b (c+k) = window buf size b c ++ (List.range k).map src := by
  have hs : 0 < size := by omega
  rw [window_add]
  congr 1
  · apply window_congr
    intro i hi
    rw [hstore _ (Nat.mod_lt _ hs),if_neg]
    -- cell `b+i` lies `size-c+i ≥ k` steps after `b+c`
    have hi' : (b+i)%size = ((b+c)+(size-c+i))%size := by
      rw [show b+c+(size-c+i) = b+i+size by omega,Nat.add_mod_right]
    rw [hi',offset_mod hs (by omega)]
    omega
  · apply List.ext_getElem (by simp)
    intro j h1 _
    simp only [getElem_window,List.getElem_map,List.getElem_range]
    have hj : j < k := by simpa using h1
    rw [hstore _ (Nat.mod_lt _ hs),offset_mod hs (by omega),if_pos hj]

end V2rayZt.CyclicWindow
