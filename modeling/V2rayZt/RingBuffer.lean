import V2rayZt.Lib.Machine
import V2rayZt.Lib.CyclicWindow

/-! libzt's `RingBuffer` (`RingBuffer.h`, `RingBuffer.cpp`): a byte queue in a cyclic array with
the flag `wrap`. Each operation acts on the window of `count()` cells from `begin` as the
bounded FIFO operation of its name. -/
namespace V2rayZt.Libzt
open V2rayZt.CyclicWindow V2rayZt.Machine
variable {α : Type*}

/-- The fields of a `RingBuffer`; `buf` is the array of `size` cells that the
constructor allocates with `new bufElementType[size]`. -/
structure RingBuffer (α : Type*) where
  buf : Nat → α
  size : Nat
  begin : Nat
  «end» : Nat
  wrap : Bool

namespace RingBuffer

/-- `RingBuffer(size)`: both indices at `0`, not wrapped; the cells hold
whatever `new` left in them. -/
def init (size : Nat) (cells : Nat → α) : RingBuffer α := ⟨cells,size,0,0,false⟩

def count (s : RingBuffer α) : Nat :=
  if s.end = s.begin then (if s.wrap then s.size else 0)
  else if s.end > s.begin then s.end-s.begin
  else s.size+s.end-s.begin

def getFree (s : RingBuffer α) : Nat := s.size-s.count

/-- `produce(n)`: claim up to `getFree()` cells after `end` without copying. -/
def produce (s : RingBuffer α) (n : Nat) : Nat × RingBuffer α :=
  let n := min n s.getFree
  if n = 0 then (n,s) else
  let first_chunk := min n (s.size-s.end)
  let e := (s.end+first_chunk)%s.size
  let e := if first_chunk < n then (e+(n-first_chunk))%s.size else e
  (n,{ s with «end» := e, wrap := if s.begin = e then true else s.wrap })

/-- `consume(n)`: drop up to `count()` cells after `begin` without copying. -/
def consume (s : RingBuffer α) (n : Nat) : Nat × RingBuffer α :=
  let n := min n s.count
  if n = 0 then (n,s) else
  let first_chunk := min n (s.size-s.begin)
  let b := (s.begin+first_chunk)%s.size
  let b := if first_chunk < n then (b+(n-first_chunk))%s.size else b
  -- `if (wrap) wrap = false;`
  (n,{ s with begin := b, wrap := false })

def reset (s : RingBuffer α) : RingBuffer α := (s.consume s.count).2

/-- `write(data, n)`: copy up to `getFree()` cells of `data` in after `end`. -/
def write (s : RingBuffer α) (data : Nat → α) (n : Nat) : Nat × RingBuffer α :=
  let n := min n s.getFree
  if n = 0 then (n,s) else
  let first_chunk := min n (s.size-s.end)
  let buf := memcpy s.buf s.end data 0 first_chunk
  let e := (s.end+first_chunk)%s.size
  let buf := if first_chunk < n then memcpy buf e data first_chunk (n-first_chunk) else buf
  let e := if first_chunk < n then (e+(n-first_chunk))%s.size else e
  (n,{ s with buf := buf, «end» := e, wrap := if s.begin = e then true else s.wrap })

/-- `read(dest, n)`: copy up to `count()` cells after `begin` out to `dest`
and drop them; returns the count, the caller's array and the new buffer. -/
def read (s : RingBuffer α) (dest : Nat → α) (n : Nat) : Nat × (Nat → α) × RingBuffer α :=
  let n := min n s.count
  if n = 0 then (n,dest,s) else
  let first_chunk := min n (s.size-s.begin)
  let dest := memcpy dest 0 s.buf s.begin first_chunk
  let b := (s.begin+first_chunk)%s.size
  let dest := if first_chunk < n then memcpy dest first_chunk s.buf b (n-first_chunk) else dest
  let b := if first_chunk < n then (b+(n-first_chunk))%s.size else b
  (n,dest,{ s with begin := b, wrap := false })

inductive Op (α : Type*) where
  | write (data : Nat → α) (n : Nat)
  | read (dest : Nat → α) (n : Nat)
  | consume (n : Nat)
  | produce (n : Nat)
  | reset

def step (s : RingBuffer α) : Op α → RingBuffer α
  | .write data n => (s.write data n).2
  | .read dest n => (s.read dest n).2.2
  | .consume n => (s.consume n).2
  | .produce n => (s.produce n).2
  | .reset => s.reset

/-- The FIFO queue a buffer stands for: `count()` cells from `begin` on. -/
def queue (s : RingBuffer α) : List α := window s.buf s.size s.begin s.count

structure Inv (s : RingBuffer α) : Prop where
  size_pos : 0 < s.size
  begin_lt : s.begin < s.size
  end_lt : s.end < s.size
  wrap_eq : s.wrap = true → s.begin = s.end


@[simp] theorem length_queue (s : RingBuffer α) : s.queue.length = s.count := by
  simp [queue]

/-- Away from the full state the count is the forward distance from `begin`
to `end`; `wrap` marks the one state where that distance reads `0` wrongly. -/
theorem count_eq {s : RingBuffer α} (h : s.Inv) :
    s.count = if s.wrap then s.size else offset s.size s.begin s.end := by
  have hb := h.begin_lt
  have he := h.end_lt
  unfold count offset
  split
  · rename_i heq
    rw [heq,show s.begin+s.size-s.begin = s.size by omega,Nat.mod_self]
  · have hw : s.wrap = false := by
      by_contra hw
      exact ‹¬s.end = s.begin› (h.wrap_eq (by simpa using hw)).symm
    simp only [hw,Bool.false_eq_true,if_false]
    split
    · rw [show s.end+s.size-s.begin = (s.end-s.begin)+s.size by omega,Nat.add_mod_right,
        Nat.mod_eq_of_lt (by omega)]
    · rw [Nat.mod_eq_of_lt (by omega)]
      omega

theorem count_le {s : RingBuffer α} (h : s.Inv) : s.count ≤ s.size := by
  rw [count_eq h]
  split
  · exact le_rfl
  · exact (offset_lt h.size_pos _).le

theorem wrap_of_count {s : RingBuffer α} (h : s.Inv) (hc : s.count < s.size) : s.wrap = false := by
  rw [count_eq h] at hc
  cases hw : s.wrap
  · rfl
  · simp [hw] at hc

theorem end_eq {s : RingBuffer α} (h : s.Inv) : s.end = (s.begin+s.count)%s.size := by
  rw [count_eq h]
  split
  · rename_i hw
    rw [Nat.add_mod_right,Nat.mod_eq_of_lt h.begin_lt,h.wrap_eq hw]
  · rw [add_offset h.begin_lt h.end_lt]

/-- The count of a buffer whose `end` lies `0 < c ≤ size` cells after
`begin`, with `wrap` set exactly when the indices meet, is `c`. -/
theorem count_of_end {s : RingBuffer α} {c : Nat} (h : s.Inv) (hc0 : 0 < c) (hc : c ≤ s.size)
    (he : s.end = (s.begin+c)%s.size) (hw : s.wrap = decide (s.begin = s.end)) :
    s.count = c := by
  rw [count_eq h]
  by_cases hcs : c = s.size
  · have hbe : s.begin = s.end := by
      rw [he,hcs,Nat.add_mod_right,Nat.mod_eq_of_lt h.begin_lt]
    simp [hw,hbe,hcs]
  · have hne : s.begin ≠ s.end := by
      intro hbe
      have h0 := add_mod_ne s.begin hc0 (lt_of_le_of_ne hc hcs)
      rw [Nat.add_zero,Nat.mod_eq_of_lt h.begin_lt] at h0
      exact h0 (hbe.trans he)
    have hw' : s.wrap = false := by simpa [hne] using hw
    rw [hw',if_neg Bool.false_ne_true,he]
    exact offset_add_mod h.begin_lt (by omega)

/-! ### What each call does to the indices -/

theorem consume_of_eq_zero {s : RingBuffer α} {n : Nat} (hk : min n s.count = 0) :
    s.consume n = (0,s) := by
  simp only [consume,hk,if_true]

theorem consume_eq {s : RingBuffer α} (h : s.Inv) {n : Nat} (hk : 0 < min n s.count) :
    s.consume n =
      (min n s.count,{ s with begin := (s.begin+min n s.count)%s.size, wrap := false }) := by
  simp only [consume,Nat.pos_iff_ne_zero.mp hk,if_false]
  rw [split_advance h.begin_lt]

theorem produce_of_eq_zero {s : RingBuffer α} {n : Nat} (hk : min n s.getFree = 0) :
    s.produce n = (0,s) := by
  simp only [produce,hk,if_true]

theorem produce_eq {s : RingBuffer α} (h : s.Inv) {n : Nat} (hk : 0 < min n s.getFree) :
    s.produce n = (min n s.getFree,
      { s with
        «end» := (s.end+min n s.getFree)%s.size
        wrap := if s.begin = (s.end+min n s.getFree)%s.size then true else s.wrap }) := by
  simp only [produce,Nat.pos_iff_ne_zero.mp hk,if_false]
  rw [split_advance h.end_lt]

theorem write_of_eq_zero {s : RingBuffer α} {data : Nat → α} {n : Nat}
    (hk : min n s.getFree = 0) : s.write data n = (0,s) := by
  simp only [write,hk,if_true]

/-- A `write(data, n)` that stores `k > 0` cells moves `end` on by `k`; the
array gets `data` in the `k` cells from the old `end` on and is kept elsewhere. -/
theorem write_eq {s : RingBuffer α} (h : s.Inv) (data : Nat → α) {n : Nat}
    (hk : 0 < min n s.getFree) :
    ∃ buf, s.write data n = (min n s.getFree,
      { s with
        buf := buf
        «end» := (s.end+min n s.getFree)%s.size
        wrap := if s.begin = (s.end+min n s.getFree)%s.size then true else s.wrap }) ∧
      ∀ p < s.size, buf p =
        if offset s.size s.end p < min n s.getFree then data (offset s.size s.end p) else s.buf p := by
  have hfree : min n s.getFree ≤ s.size := by unfold getFree; omega
  simp only [write,Nat.pos_iff_ne_zero.mp hk,if_false]
  rw [split_advance h.end_lt]
  exact ⟨_,rfl,fun p hp => split_copy_in h.end_lt hfree hp⟩

theorem read_of_eq_zero {s : RingBuffer α} {dest : Nat → α} {n : Nat}
    (hk : min n s.count = 0) : s.read dest n = (0,dest,s) := by
  simp only [read,hk,if_true]

/-- A `read(dest, n)` that takes `k > 0` cells copies the `k` cells from
`begin` on to `dest[0..k)`, keeps the rest of `dest`, and moves `begin` on by
`k` clearing `wrap`. -/
theorem read_eq {s : RingBuffer α} (h : s.Inv) (dest : Nat → α) {n : Nat}
    (hk : 0 < min n s.count) :
    ∃ dest', s.read dest n = (min n s.count,dest',
      { s with begin := (s.begin+min n s.count)%s.size, wrap := false }) ∧
      (∀ j < min n s.count, dest' j = s.buf ((s.begin+j)%s.size)) ∧
      ∀ j, min n s.count ≤ j → dest' j = dest j := by
  have hcount : min n s.count ≤ s.size := (min_le_right _ _).trans (count_le h)
  simp only [read,Nat.pos_iff_ne_zero.mp hk,if_false]
  rw [split_advance h.begin_lt]
  exact ⟨_,rfl,fun j hj => split_copy_out h.begin_lt hcount hj,
    fun j hj => split_copy_out_outside hj⟩

/-! ### The queue after moving an index -/

/-- Moving `begin` on by `0 < k ≤ count()` and clearing `wrap`, as `consume`
and `read` do, drops the first `k` cells of the queue. -/
theorem move_begin {s : RingBuffer α} (h : s.Inv) {k : Nat} (hk0 : 0 < k) (hk : k ≤ s.count) :
    (RingBuffer.Inv { s with begin := (s.begin+k)%s.size, wrap := false }) ∧
      (queue { s with begin := (s.begin+k)%s.size, wrap := false }) = s.queue.drop k := by
  have ht : RingBuffer.Inv { s with begin := (s.begin+k)%s.size, wrap := false } :=
    ⟨h.size_pos,Nat.mod_lt _ h.size_pos,h.end_lt,by simp⟩
  have hc : count { s with begin := (s.begin+k)%s.size, wrap := false } = s.count-k := by
    rw [count_eq ht]
    simp only [Bool.false_eq_true,if_false]
    -- `end` is `count()-k` cells after the new `begin`
    rw [end_eq h,show s.begin+s.count = (s.begin+k)+(s.count-k) by omega]
    exact offset_mod h.size_pos (by have := count_le h; omega)
  refine ⟨ht,?_⟩
  unfold queue
  simp only [hc,window_mod_start,drop_window]

/-- Moving `end` on by `0 < k ≤ getFree()` and setting `wrap` when it meets
`begin`, as `produce` and `write` do, adds `k` cells to the count; the buffer
was not full before. -/
theorem move_end {s : RingBuffer α} (h : s.Inv) (buf : Nat → α) {k : Nat} (hk0 : 0 < k)
    (hk : k ≤ s.getFree) :
    s.wrap = false ∧
      (RingBuffer.Inv { s with
        buf := buf
        «end» := (s.end+k)%s.size
        wrap := if s.begin = (s.end+k)%s.size then true else s.wrap }) ∧
      count { s with
        buf := buf
        «end» := (s.end+k)%s.size
        wrap := if s.begin = (s.end+k)%s.size then true else s.wrap } = s.count+k := by
  have hle := count_le h
  have hw : s.wrap = false := wrap_of_count h (by unfold getFree at hk; omega)
  have ht : RingBuffer.Inv { s with
      buf := buf
      «end» := (s.end+k)%s.size
      wrap := if s.begin = (s.end+k)%s.size then true else s.wrap } := by
    refine ⟨h.size_pos,h.begin_lt,Nat.mod_lt _ h.size_pos,?_⟩
    simp only
    split
    · intro _
      assumption
    · simp [hw]
  refine ⟨hw,ht,count_of_end ht (by omega) (by dsimp only; unfold getFree at hk; omega) ?_ ?_⟩
  · simp only
    rw [end_eq h,Nat.mod_add_mod,Nat.add_assoc]
  · simp only
    split
    · simp [*]
    · simp [*]

/-! ### Each call as an operation on the queue -/

theorem getFree_eq (s : RingBuffer α) : s.getFree = s.size-s.queue.length := by
  rw [length_queue]
  rfl

theorem consume_spec {s : RingBuffer α} (h : s.Inv) (n : Nat) :
    (s.consume n).1 = min n s.queue.length ∧ (s.consume n).2.Inv ∧
      (s.consume n).2.queue = s.queue.drop (min n s.queue.length) := by
  rw [length_queue]
  by_cases hk : min n s.count = 0
  · rw [consume_of_eq_zero hk,hk]
    exact ⟨rfl,h,rfl⟩
  · rw [consume_eq h (Nat.pos_of_ne_zero hk)]
    exact ⟨rfl,move_begin h (Nat.pos_of_ne_zero hk) (min_le_right _ _)⟩

theorem reset_spec {s : RingBuffer α} (h : s.Inv) : s.reset.Inv ∧ s.reset.queue = [] := by
  obtain ⟨-,hi,hq⟩ := consume_spec h s.count
  refine ⟨hi,?_⟩
  rw [reset,hq,length_queue,min_self,← length_queue,List.drop_length]

/-- `read(dest, n)` takes `k = min(n, |q|)` cells: it returns `k`, stores the
first `k` cells of the queue in `dest[0..k)`, leaves the rest of `dest`, and
drops those cells from the queue. -/
theorem read_spec {s : RingBuffer α} (h : s.Inv) (dest : Nat → α) (n : Nat) :
    (s.read dest n).1 = min n s.queue.length ∧
      (List.range (s.read dest n).1).map (s.read dest n).2.1 =
        s.queue.take (min n s.queue.length) ∧
      (∀ j, min n s.queue.length ≤ j → (s.read dest n).2.1 j = dest j) ∧
      (s.read dest n).2.2.Inv ∧
      (s.read dest n).2.2.queue = s.queue.drop (min n s.queue.length) := by
  rw [length_queue]
  by_cases hk : min n s.count = 0
  · rw [read_of_eq_zero hk,hk]
    exact ⟨rfl,rfl,fun _ _ => rfl,h,rfl⟩
  · have hk' := Nat.pos_of_ne_zero hk
    obtain ⟨dest',heq,hin,hout⟩ := read_eq h dest hk'
    rw [heq]
    refine ⟨rfl,?_,hout,move_begin h hk' (min_le_right _ _)⟩
    unfold queue
    rw [take_window _ _ _ _ _ (min_le_right _ _)]
    apply List.ext_getElem (by simp)
    intro j h1 _
    simp only [List.getElem_map,List.getElem_range,getElem_window]
    exact hin j (by simpa using h1)

/-- `write(data, n)` stores `k = min(n, size - |q|)` cells: it returns `k`
and appends `data[0..k)` to the queue. -/
theorem write_spec {s : RingBuffer α} (h : s.Inv) (data : Nat → α) (n : Nat) :
    (s.write data n).1 = min n (s.size-s.queue.length) ∧ (s.write data n).2.Inv ∧
      (s.write data n).2.queue =
        s.queue ++ (List.range (min n (s.size-s.queue.length))).map data := by
  rw [← getFree_eq]
  by_cases hk : min n s.getFree = 0
  · rw [write_of_eq_zero hk,hk]
    exact ⟨rfl,h,by simp⟩
  · have hk' := Nat.pos_of_ne_zero hk
    obtain ⟨buf,heq,hbuf⟩ := write_eq h data hk'
    obtain ⟨-,ht,hc⟩ := move_end h buf hk' (min_le_right _ _)
    rw [heq]
    refine ⟨rfl,ht,?_⟩
    unfold queue
    rw [hc]
    have hfit : s.count+min n s.getFree ≤ s.size := by
      have h1 := min_le_right n s.getFree
      unfold getFree at h1 ⊢
      have := count_le h
      omega
    apply window_store h.begin_lt hfit
    intro p hp
    dsimp only
    rw [hbuf p hp,← end_eq h]

/-- `produce(n)` claims `k = min(n, size - |q|)` cells: the queue grows by
the `k` cells after the old `end`, whatever they hold. -/
theorem produce_spec {s : RingBuffer α} (h : s.Inv) (n : Nat) :
    (s.produce n).1 = min n (s.size-s.queue.length) ∧ (s.produce n).2.Inv ∧
      (s.produce n).2.queue =
        s.queue ++ window s.buf s.size s.end (min n (s.size-s.queue.length)) := by
  rw [← getFree_eq]
  by_cases hk : min n s.getFree = 0
  · rw [produce_of_eq_zero hk,hk]
    exact ⟨rfl,h,by simp⟩
  · have hk' := Nat.pos_of_ne_zero hk
    obtain ⟨-,ht,hc⟩ := move_end h s.buf hk' (min_le_right _ _)
    rw [produce_eq h hk']
    refine ⟨rfl,ht,?_⟩
    unfold queue
    rw [hc,window_add,end_eq h,window_mod_start]

theorem step_inv {s : RingBuffer α} (h : s.Inv) : ∀ op : Op α, (s.step op).Inv
  | .write data n => (write_spec h data n).2.1
  | .read dest n => (read_spec h dest n).2.2.2.1
  | .consume n => (consume_spec h n).2.1
  | .produce n => (produce_spec h n).2.1
  | .reset => (reset_spec h).1

theorem init_inv {size : Nat} (hsize : 0 < size) (cells : Nat → α) : (init size cells).Inv :=
  ⟨hsize,hsize,hsize,by simp [init]⟩

theorem reachable_inv {size : Nat} (hsize : 0 < size) {cells : Nat → α} {s : RingBuffer α}
    (hs : Reachable step (init size cells) s) : s.Inv :=
  hs.invariant (init_inv hsize cells) (fun _ op h => step_inv h op)

/-- `RingBuffer` refines a bounded FIFO queue. Along every run of calls from
the constructed buffer the indices stay below `size` and `wrap` only stands
on a full buffer; the queue never holds more than `size` cells, `count()` and
`getFree()` report its length and free room, and each call acts on it as the
FIFO operation of its name. -/
theorem ringBuffer_refines_fifo {size : Nat} (hsize : 0 < size) (cells : Nat → α)
    {s : RingBuffer α} (hs : Reachable step (init size cells) s) :
    s.begin < s.size ∧ s.end < s.size ∧ (s.wrap = true → s.begin = s.end) ∧
      s.queue.length ≤ s.size ∧ s.count = s.queue.length ∧
      s.getFree = s.size-s.queue.length ∧
      (∀ data n, (s.write data n).1 = min n (s.size-s.queue.length) ∧
        (s.write data n).2.queue =
          s.queue ++ (List.range (min n (s.size-s.queue.length))).map data) ∧
      (∀ dest n, (s.read dest n).1 = min n s.queue.length ∧
        (List.range (s.read dest n).1).map (s.read dest n).2.1 =
          s.queue.take (min n s.queue.length) ∧
        (s.read dest n).2.2.queue = s.queue.drop (min n s.queue.length)) ∧
      (∀ n, (s.consume n).1 = min n s.queue.length ∧
        (s.consume n).2.queue = s.queue.drop (min n s.queue.length)) ∧
      s.reset.queue = [] := by
  have h := reachable_inv hsize hs
  refine ⟨h.begin_lt,h.end_lt,h.wrap_eq,by simpa using count_le h,(length_queue s).symm,
    getFree_eq s,?_,?_,?_,(reset_spec h).2⟩
  · intro data n
    obtain ⟨h1,-,h3⟩ := write_spec h data n
    exact ⟨h1,h3⟩
  · intro dest n
    obtain ⟨h1,h2,-,-,h5⟩ := read_spec h dest n
    exact ⟨h1,h2,h5⟩
  · intro n
    obtain ⟨h1,-,h3⟩ := consume_spec h n
    exact ⟨h1,h3⟩

theorem ringBuffer_refines_fifo_after_write :
    (0 < 4 ∧ Reachable step (init 4 fun _ => 0) (step (init 4 fun _ => 0) (.write (· + 1) 3))) ∧
      (step (init 4 fun _ => 0) (.write (· + 1) 3)).queue.length ≤ 4 :=
  ⟨⟨by decide,⟨[.write (· + 1) 3],rfl⟩⟩,
    (ringBuffer_refines_fifo (by decide) _ ⟨[.write (· + 1) 3],rfl⟩).2.2.2.1⟩

/-! ### The zero-copy interface

`get_buf()` returns `buf + begin`, the head of the queue, whatever the fill
level. A consumer that reads `count()` cells from there sees the queue while
it does not wrap. A producer that stores there, as ztproxy's RX path does
with `zts_read`, writes over the head of the queue, and `produce` then takes
in the cells after the old `end`, not the ones stored. -/

/-- `get_buf()`: the address `buf + begin`, as an index into `buf`. -/
def getBuf (s : RingBuffer α) : Nat := s.begin

/-- A producer of the zero-copy interface: `d[0..k)` stored at
`get_buf()[0..k)`, then `produce(k)`. -/
def storeAndProduce (s : RingBuffer α) (d : Nat → α) (k : Nat) : RingBuffer α :=
  ({ s with buf := memcpy s.buf s.getBuf d 0 k }.produce k).2

/-- What a consumer of the zero-copy interface reads: `get_buf()[0..k)`. -/
def bufView (s : RingBuffer α) (k : Nat) : List α := (List.range k).map fun j => s.buf (s.getBuf+j)

theorem Inv.setBuf {s : RingBuffer α} (h : s.Inv) (buf : Nat → α) : RingBuffer.Inv { s with buf := buf } :=
  ⟨h.size_pos,h.begin_lt,h.end_lt,h.wrap_eq⟩

/-- The cells from `begin`, while they do not wrap, are the array's cells
from `begin`. -/
theorem window_of_fit {s : RingBuffer α} (buf : Nat → α) {k : Nat} (hfit : s.begin+k ≤ s.size) :
    window buf s.size s.begin k = (List.range k).map fun j => buf (s.begin+j) := by
  apply List.ext_getElem (by simp)
  intro j hj _
  simp only [getElem_window,List.getElem_map,List.getElem_range]
  rw [Nat.mod_eq_of_lt (by simp at hj; omega)]

/-- The consumer side holds while the first `k` cells of the queue do not
wrap: `get_buf()[0..k)` is then the head of the queue. -/
theorem bufView_eq_take {s : RingBuffer α} {k : Nat} (hk : k ≤ s.count) (hfit : s.begin+k ≤ s.size) :
    s.bufView k = s.queue.take k := by
  rw [queue,take_window _ _ _ _ _ hk,window_of_fit _ hfit]
  rfl

/-- Once they wrap, `get_buf()[0..k)` runs past the end of the array: its
last cell is `buf[begin + k - 1]`, at or after `buf[size]`. -/
theorem bufView_past_end {s : RingBuffer α} (h : s.Inv) {k : Nat} (hwrap : s.size < s.begin+k) :
    (s.bufView k).getLast? = some (s.buf (s.getBuf+(k-1))) ∧ s.size ≤ s.getBuf+(k-1) := by
  have hb := h.begin_lt
  obtain ⟨k,rfl⟩ : ∃ k', k = k'+1 := ⟨k-1,by omega⟩
  refine ⟨by simp [bufView,List.range_succ],?_⟩
  unfold getBuf
  omega

/-- The producer side: storing `d[0..k)` at `get_buf()` and calling
`produce(k)` puts the stored cells at the head of the queue, followed by the
`count()` cells after them, where `write(d, k)` appends `d[0..k)` to the queue. -/
theorem storeAndProduce_queue {s : RingBuffer α} (h : s.Inv) (d : Nat → α) {k : Nat} (hk : k ≤ s.getFree)
    (hfit : s.begin+k ≤ s.size) :
    (s.storeAndProduce d k).queue = (List.range k).map d ++ window s.buf s.size (s.begin+k) s.count := by
  set buf := memcpy s.buf s.getBuf d 0 k
  have hle := count_le h
  obtain ⟨-,-,hq⟩ := produce_spec (h.setBuf buf) k
  have hmin : min k (s.size-(queue { s with buf := buf }).length) = k := by
    rw [length_queue]
    exact min_eq_left (by unfold getFree at hk; exact hk)
  have hcount : count { s with buf := buf } = s.count := rfl
  rw [storeAndProduce,hq,hmin]
  -- the queue and the claimed cells are `count() + k` cells from `begin`
  unfold queue
  dsimp only
  rw [hcount,end_eq h,window_mod_start,← window_add,Nat.add_comm,window_add]
  congr 1
  · -- the stored cells
    rw [window_of_fit _ hfit]
    apply List.map_congr_left
    intro j hj
    rw [List.mem_range] at hj
    simp only [buf,getBuf]
    rw [memcpy_inside (by omega) (by omega)]
    congr 1
    omega
  · -- the cells after them are not written
    apply window_congr
    intro j hj
    apply memcpy_outside
    by_cases hj' : s.begin+k+j < s.size
    · rw [Nat.mod_eq_of_lt hj']
      simp only [getBuf]
      omega
    · rw [Nat.mod_eq_sub_mod (by omega),Nat.mod_eq_of_lt (by unfold getFree at hk; omega)]
      simp only [getBuf]
      unfold getFree at hk
      omega

/-- The zero-copy producer does not act as `write`. With cells queued and a
first stored cell other than the head of the queue, storing at `get_buf()`
and calling `produce(k)` leaves the stored cells in front of the cells after
them, and a queue other than the one `write(d, k)` leaves. -/
theorem zeroCopy_producer_diverges {s : RingBuffer α} (h : s.Inv) (d : Nat → α) {k : Nat} (hk0 : 0 < k)
    (hk : k ≤ s.getFree) (hfit : s.begin+k ≤ s.size) (hq : s.queue ≠ []) (hhead : s.queue.head? ≠ some (d 0)) :
    (s.storeAndProduce d k).queue = (List.range k).map d ++ window s.buf s.size (s.begin+k) s.count ∧
      (s.storeAndProduce d k).queue ≠ (s.write d k).2.queue := by
  have hstore := storeAndProduce_queue h d hk hfit
  refine ⟨hstore,fun heq => hhead ?_⟩
  -- the two queues would have the same head
  obtain ⟨k,rfl⟩ : ∃ k', k = k'+1 := ⟨k-1,by omega⟩
  obtain ⟨x,xs,hx⟩ := List.exists_cons_of_ne_nil hq
  have hhd := congrArg List.head? heq
  rw [hstore,(write_spec h d (k+1)).2.2,hx] at hhd
  rw [hx]
  simpa [List.range_succ_eq_map] using hhd.symm

theorem zeroCopy_producer_diverges_after_write :
    let s := step (init 4 fun _ => 0) (.write (· + 1) 2)
    (s.storeAndProduce (· + 7) 2).queue = (List.range 2).map (· + 7) ++ window s.buf s.size (s.begin+2) s.count ∧
      (s.storeAndProduce (· + 7) 2).queue ≠ (s.write (· + 7) 2).2.queue :=
  zeroCopy_producer_diverges (step_inv (init_inv (by decide) _) _) _ (by decide) (by decide) (by decide)
    (by decide) (by decide)

example : ((step (init 4 fun _ => 0) (.write (· + 1) 2)).storeAndProduce (· + 7) 2).queue = [7,8,0,0] ∧
    ((step (init 4 fun _ => 0) (.write (· + 1) 2)).write (· + 7) 2).2.queue = [1,2,7,8] := by
  decide

end RingBuffer
end V2rayZt.Libzt
