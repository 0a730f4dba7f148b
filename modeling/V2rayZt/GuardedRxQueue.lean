import V2rayZt.Lib.Machine
import Mathlib.Tactic.Ring

/-! The guarded receive buffer of the lwIP driver (`lwIP.cpp`, `libztDefs.h`):
`lwip_eth_rx` and `my_tcpip_callback`, each a whole call under
`_rx_input_lock_m`, over an abstract frame type. Undefined behaviour is `none`. -/
namespace V2rayZt.Libzt
open V2rayZt.Machine
variable {P : Type*}

/-- `LWIP_MAX_GUARDED_RX_BUF_SZ`: the frame pointers `lwip_frame_rxbuf` holds. -/
def lwipMaxGuardedRxBufSz : Nat := 1024

def lwipFramesHandledPerCoreCall : Nat := 16

def sizeofEthHdr : Nat := 14

/-- `lwip_frame_rxbuf` and `lwip_frame_rxbuf_tot`, which never passes the
length of the array: a store past it is undefined, not a state. A cell holds
`some p` for the pointer of a frame `p`, and `none` for a pointer that is no
frame: the null the array starts with, or a cell that the compacting
`memmove` overwrote only in part. -/
structure RxQueue (P : Type*) where
  lwipFrameRxbuf : Nat → Option P
  lwipFrameRxbufTot : Nat
  tot_le : lwipFrameRxbufTot ≤ lwipMaxGuardedRxBufSz

namespace RxQueue

def init : RxQueue P := ⟨fun _ => none,0,Nat.zero_le _⟩

inductive RxExit where
  | noPbuf | shortPbuf | noNetif | queued
  deriving DecidableEq

/-- `lwip_eth_rx` from `pbuf_alloc` on: `p` is what `pbuf_alloc` returned
(`none` for `NULL`) and `firstLen` the length of its first pbuf. Returns how
the call ends and the buffer after it. -/
def lwipEthRx (q : RxQueue P) (p : Option P) (firstLen : Nat) (lwipInterfacesCount : Int) :
    RxExit × Option (RxQueue P) :=
  match p with
  | none => (.noPbuf,some q)
  | some p =>
    if firstLen < sizeofEthHdr then (.shortPbuf,some q)
    else if lwipInterfacesCount ≤ 0 then (.noNetif,some q)
    -- under `_rx_input_lock_m`; a full buffer is only reported, and the store
    -- at `lwip_frame_rxbuf[LWIP_MAX_GUARDED_RX_BUF_SZ]` is past the array
    else if h : q.lwipFrameRxbufTot < lwipMaxGuardedRxBufSz then
      (.queued,some ⟨Function.update q.lwipFrameRxbuf q.lwipFrameRxbufTot (some p),
        q.lwipFrameRxbufTot+1,h⟩)
    else (.queued,none)

/-- The `while` loop of `my_tcpip_callback`, counting `lwip_frame_rxbuf_tot`
and `loop_score` down and `pkt_num` up; returns the cells it hands to the
`switch`, in order, and the final `lwip_frame_rxbuf_tot`. -/
def callbackLoop (buf : Nat → Option P) : (tot loopScore pktNum : Nat) → List (Option P) × Nat
  | 0, _, _ => ([],0)
  | tot+1, 0, _ => ([],tot+1)
  | tot+1, loopScore+1, pktNum =>
    let r := callbackLoop buf tot loopScore (pktNum+1)
    (buf pktNum :: r.1,r.2)

/-- The loop hands the first `min(tot, loop_score)` cells from `pkt_num` on
to the `switch` and counts `lwip_frame_rxbuf_tot` down by as many. -/
theorem callbackLoop_eq (buf : Nat → Option P) (tot loopScore pktNum : Nat) :
    callbackLoop buf tot loopScore pktNum =
      ((List.range (min tot loopScore)).map (fun i => buf (pktNum+i)),tot-min tot loopScore) := by
  induction loopScore generalizing tot pktNum with
  | zero => cases tot <;> simp [callbackLoop]
  | succ loopScore ih =>
    cases tot with
    | zero => simp [callbackLoop]
    | succ tot =>
      rw [callbackLoop,ih,Nat.succ_min_succ,List.range_succ_eq_map]
      simp only [List.map_cons,List.map_map,Nat.add_zero,Nat.succ_sub_succ]
      congr 3
      funext i
      simp only [Function.comp_apply]
      congr 1
      omega

theorem callbackLoop_snd_le (buf : Nat → Option P) (tot loopScore pktNum : Nat) :
    (callbackLoop buf tot loopScore pktNum).2 ≤ tot := by
  rw [callbackLoop_eq]
  exact Nat.sub_le _ _

/-- `count_final`, the frames one callback hands on: `min(tot, 16)`. -/
theorem countFinal_eq (buf : Nat → Option P) (tot : Nat) :
    tot-(callbackLoop buf tot lwipFramesHandledPerCoreCall 0).2 = min tot lwipFramesHandledPerCoreCall := by
  rw [callbackLoop_eq]
  have := Nat.min_le_left tot lwipFramesHandledPerCoreCall
  omega

/-- `memmove(lwip_frame_rxbuf, lwip_frame_rxbuf + count_final,
sizeof(lwip_frame_rxbuf) - count_final)` on cells of `ptrSize` bytes: the
move is `sizeof(lwip_frame_rxbuf) - count_final` bytes long, so a cell wholly
inside it takes the cell `count_final` further on, the cell it ends inside is
torn, and the cells after it are kept. -/
def rxbufMemmove (ptrSize : Nat) (buf : Nat → Option P) (countFinal : Nat) : Nat → Option P :=
  let len := lwipMaxGuardedRxBufSz*ptrSize-countFinal
  fun i => if (i+1)*ptrSize ≤ len then buf (i+countFinal)
    else if i*ptrSize < len then none else buf i

/-- The bytes `[lo, hi)` of `lwip_frame_rxbuf` that the compacting `memmove`
reads, the array being `lwipMaxGuardedRxBufSz * ptrSize` bytes long. -/
def memmoveSource (ptrSize countFinal : Nat) : Nat × Nat :=
  (countFinal*ptrSize,countFinal*ptrSize+(lwipMaxGuardedRxBufSz*ptrSize-countFinal))

/-- `my_tcpip_callback` with pointers of `ptrSize` bytes: the cells handed to
the `switch`, in order, and the buffer after the compaction. -/
def myTcpipCallback (ptrSize : Nat) (q : RxQueue P) : Option (List (Option P) × RxQueue P) :=
  let countInitial := q.lwipFrameRxbufTot
  let r := callbackLoop q.lwipFrameRxbuf q.lwipFrameRxbufTot lwipFramesHandledPerCoreCall 0
  let countFinal := countInitial-r.2
  -- a `memmove` that reads past the end of `lwip_frame_rxbuf` is undefined
  if (memmoveSource ptrSize countFinal).2 ≤ lwipMaxGuardedRxBufSz*ptrSize then
    some (r.1,⟨rxbufMemmove ptrSize q.lwipFrameRxbuf countFinal,r.2,
      (callbackLoop_snd_le _ _ _ _).trans q.tot_le⟩)
  else none

/-- `my_tcpip_callback` hands the first `k = min(tot, 16)` cells to the
`switch`, in order, and compacts by `k`. -/
theorem myTcpipCallback_eq_some {ptrSize : Nat} {q : RxQueue P} {r : List (Option P) × RxQueue P}
    (h : myTcpipCallback ptrSize q = some r) :
    r.1 = (List.range (min q.lwipFrameRxbufTot lwipFramesHandledPerCoreCall)).map q.lwipFrameRxbuf ∧
      r.2.lwipFrameRxbuf =
        rxbufMemmove ptrSize q.lwipFrameRxbuf (min q.lwipFrameRxbufTot lwipFramesHandledPerCoreCall) ∧
      r.2.lwipFrameRxbufTot = q.lwipFrameRxbufTot-min q.lwipFrameRxbufTot lwipFramesHandledPerCoreCall := by
  dsimp only [myTcpipCallback] at h
  rw [countFinal_eq] at h
  split_ifs at h
  cases h
  simp only [callbackLoop_eq,Nat.zero_add,and_self]

/-- The cells left in the buffer after a compaction by `k` are the cells `k`
further on, as long as they lie in the array. -/
theorem rxbufMemmove_live {ptrSize : Nat} (hps : 0 < ptrSize) (buf : Nat → Option P)
    {k i : Nat} (hi : i+k < lwipMaxGuardedRxBufSz) :
    rxbufMemmove ptrSize buf k i = buf (i+k) := by
  unfold rxbufMemmove
  rw [if_pos]
  -- `(i+1)·ptrSize ≤ (SZ-k)·ptrSize ≤ SZ·ptrSize - k`
  have h1 : (i+1)*ptrSize ≤ (lwipMaxGuardedRxBufSz-k)*ptrSize :=
    Nat.mul_le_mul_right _ (by omega)
  have h2 : (lwipMaxGuardedRxBufSz-k)*ptrSize+k ≤ lwipMaxGuardedRxBufSz*ptrSize := by
    rw [Nat.sub_mul]
    have : k ≤ k*ptrSize := Nat.le_mul_of_pos_right k hps
    have : k*ptrSize ≤ lwipMaxGuardedRxBufSz*ptrSize := Nat.mul_le_mul_right _ (by omega)
    omega
  omega

/-- A `memmove` that moves at least one frame reads past the end of the
array whenever a pointer is wider than a byte: its length mixes the byte
count `sizeof(lwip_frame_rxbuf)` with the cell count `count_final`. -/
theorem memmoveSource_past_end {ptrSize countFinal : Nat} (hps : 2 ≤ ptrSize)
    (hcf : 0 < countFinal) (hle : countFinal ≤ lwipMaxGuardedRxBufSz) :
    lwipMaxGuardedRxBufSz*ptrSize < (memmoveSource ptrSize countFinal).2 := by
  unfold memmoveSource
  have : countFinal*2 ≤ countFinal*ptrSize := Nat.mul_le_mul_left _ hps
  have : countFinal ≤ lwipMaxGuardedRxBufSz*ptrSize :=
    hle.trans (Nat.le_mul_of_pos_right _ (by omega))
  dsimp only
  omega

/-- Hence, with pointers wider than a byte, a callback that finds a frame
waiting is undefined. -/
theorem myTcpipCallback_eq_none {ptrSize : Nat} (hps : 2 ≤ ptrSize) {q : RxQueue P}
    (hq : 0 < q.lwipFrameRxbufTot) : myTcpipCallback ptrSize q = none := by
  have hpos : 0 < min q.lwipFrameRxbufTot lwipFramesHandledPerCoreCall :=
    Nat.lt_min.2 ⟨hq,by decide⟩
  have hle : min q.lwipFrameRxbufTot lwipFramesHandledPerCoreCall ≤ lwipMaxGuardedRxBufSz :=
    (Nat.min_le_left _ _).trans q.tot_le
  dsimp only [myTcpipCallback]
  rw [countFinal_eq]
  exact if_neg (Nat.not_le.2 (memmoveSource_past_end hps hpos hle))

/-- A frame that arrives at a full buffer gets past every check, and its
store, one cell past the end of `lwip_frame_rxbuf`, is undefined. -/
theorem lwipEthRx_full {q : RxQueue P} (hq : q.lwipFrameRxbufTot = lwipMaxGuardedRxBufSz) (p : P)
    {firstLen : Nat} (hlen : sizeofEthHdr ≤ firstLen) {n : Int} (hn : 0 < n) :
    q.lwipEthRx (some p) firstLen n = (.queued,none) := by
  dsimp only [lwipEthRx]
  rw [if_neg (by omega),if_neg (by omega),dif_neg (by omega)]

/-- A defined call either leaves the buffer as it was and does not reach the
store, or stores the frame in the next cell. -/
theorem lwipEthRx_eq_some {q q' : RxQueue P} {p : Option P} {firstLen : Nat} {n : Int}
    (h : (q.lwipEthRx p firstLen n).2 = some q') :
    ((q.lwipEthRx p firstLen n).1 ≠ .queued ∧ q' = q) ∨
      ∃ p', p = some p' ∧ (q.lwipEthRx p firstLen n).1 = .queued ∧
        q'.lwipFrameRxbuf = Function.update q.lwipFrameRxbuf q.lwipFrameRxbufTot (some p') ∧
        q'.lwipFrameRxbufTot = q.lwipFrameRxbufTot+1 := by
  cases p with
  | none =>
    cases h
    exact .inl ⟨by simp [lwipEthRx],rfl⟩
  | some p =>
    unfold lwipEthRx at h ⊢
    split_ifs at h ⊢
    · cases h
      exact .inl ⟨by simp,rfl⟩
    · cases h
      exact .inl ⟨by simp,rfl⟩
    · cases h
      exact .inr ⟨p,rfl,rfl,rfl,rfl⟩

end RxQueue

/-- The receive buffer with its history: the frames `lwip_eth_rx` stored, in
arrival order, and the cells `my_tcpip_callback` handed to the stack, in
order. The two lists are bookkeeping only; no call reads them. -/
structure RxSys (P : Type*) where
  queue : RxQueue P
  accepted : List P
  delivered : List (Option P)

/-- One whole call under `_rx_input_lock_m`. -/
inductive RxEvent (P : Type*) where
  | rx (p : Option P) (firstLen : Nat) (lwipInterfacesCount : Int)
  | callback

namespace RxSys
open RxQueue

def init : RxSys P := ⟨RxQueue.init,[],[]⟩

def step (ptrSize : Nat) (s : RxSys P) : RxEvent P → Option (RxSys P)
  | .rx p firstLen n =>
    (s.queue.lwipEthRx p firstLen n).2.map fun q =>
      { s with
        queue := q
        accepted := if (s.queue.lwipEthRx p firstLen n).1 = .queued then s.accepted ++ p.toList
          else s.accepted }
  | .callback =>
    (myTcpipCallback ptrSize s.queue).map fun r =>
      { s with queue := r.2, delivered := s.delivered ++ r.1 }

/-- The buffer is a FIFO: the frames handed to the stack followed by those
waiting are exactly the frames stored, in arrival order. -/
def Fifo (s : RxSys P) : Prop :=
  s.accepted.map some =
    s.delivered ++ (List.range s.queue.lwipFrameRxbufTot).map s.queue.lwipFrameRxbuf

theorem step_rx_eq_some {ptrSize : Nat} {s s' : RxSys P} {p : Option P} {firstLen : Nat} {n : Int}
    (he : s.step ptrSize (.rx p firstLen n) = some s') :
    ∃ q', (s.queue.lwipEthRx p firstLen n).2 = some q' ∧
      s' = { s with
        queue := q'
        accepted := if (s.queue.lwipEthRx p firstLen n).1 = .queued then s.accepted ++ p.toList
          else s.accepted } := by
  simp only [step,Option.map_eq_some_iff] at he
  obtain ⟨q',hq',rfl⟩ := he
  exact ⟨q',hq',rfl⟩

theorem step_callback_eq_some {ptrSize : Nat} {s s' : RxSys P} (he : s.step ptrSize .callback = some s') :
    ∃ r, myTcpipCallback ptrSize s.queue = some r ∧
      s' = { s with queue := r.2, delivered := s.delivered ++ r.1 } := by
  simp only [step,Option.map_eq_some_iff] at he
  obtain ⟨r,hr,rfl⟩ := he
  exact ⟨r,hr,rfl⟩

theorem init_fifo : (init : RxSys P).Fifo := by
  simp [Fifo,init,RxQueue.init]

theorem rx_fifo {ptrSize : Nat} {s s' : RxSys P} (h : s.Fifo) {p : Option P} {firstLen : Nat} {n : Int}
    (he : s.step ptrSize (.rx p firstLen n) = some s') : s'.Fifo := by
  obtain ⟨q',hq',rfl⟩ := step_rx_eq_some he
  rcases lwipEthRx_eq_some hq' with ⟨hne,rfl⟩ | ⟨p',rfl,hqd,hbuf,htot⟩
  · simp only [if_neg hne]
    exact h
  · have hlt : s.queue.lwipFrameRxbufTot < lwipMaxGuardedRxBufSz := by
      have := q'.tot_le
      omega
    simp only [Fifo,hqd,if_true,Option.toList_some]
    rw [hbuf,htot,List.range_succ,List.map_append,List.map_append,h,List.append_assoc]
    congr 2
    · apply List.map_congr_left
      intro i hi
      rw [Function.update_of_ne (by simp at hi; omega)]
    · simp

theorem callback_fifo {ptrSize : Nat} (hps : 0 < ptrSize) {s s' : RxSys P} (h : s.Fifo)
    (he : s.step ptrSize .callback = some s') : s'.Fifo := by
  obtain ⟨r,hr,rfl⟩ := step_callback_eq_some he
  obtain ⟨h1,h2,h3⟩ := myTcpipCallback_eq_some hr
  -- the first `k` cells go to the stack; the compaction moves the others to the front
  have hk := Nat.min_le_left s.queue.lwipFrameRxbufTot lwipFramesHandledPerCoreCall
  have hle := s.queue.tot_le
  simp only [Fifo]
  rw [h1,h2,h3,h,List.append_assoc]
  congr 1
  conv_lhs => rw [show s.queue.lwipFrameRxbufTot =
    min s.queue.lwipFrameRxbufTot lwipFramesHandledPerCoreCall+
      (s.queue.lwipFrameRxbufTot-min s.queue.lwipFrameRxbufTot lwipFramesHandledPerCoreCall) by omega]
  rw [List.range_add,List.map_append,List.map_map]
  congr 1
  apply List.map_congr_left
  intro i hi
  simp only [List.mem_range] at hi
  simp only [Function.comp_apply]
  rw [rxbufMemmove_live hps _ (by omega),Nat.add_comm]

theorem step_fifo {ptrSize : Nat} (hps : 0 < ptrSize) {s s' : RxSys P} {e : RxEvent P}
    (h : s.Fifo) (he : s.step ptrSize e = some s') : s'.Fifo := by
  cases e with
  | rx p firstLen n => exact rx_fifo h he
  | callback => exact callback_fifo hps h he

/-- Along every defined interleaving of whole calls the buffer is a FIFO. -/
theorem runOpt_fifo {ptrSize : Nat} (hps : 0 < ptrSize) {es : List (RxEvent P)} {s : RxSys P}
    (h : runOpt (step ptrSize) init es = some s) : s.Fifo :=
  runOpt_invariant (fun _ _ _ => step_fifo hps) es init_fifo h

/-- Hence, on such runs, the stack receives a prefix of the stored frames,
in arrival order, each once. -/
theorem runOpt_delivered_prefix {ptrSize : Nat} (hps : 0 < ptrSize) {es : List (RxEvent P)}
    {s : RxSys P} (h : runOpt (step ptrSize) init es = some s) :
    s.delivered <+: s.accepted.map some := by
  rw [runOpt_fifo hps h]
  exact List.prefix_append _ _

/-- But with pointers wider than a byte no defined run hands a frame to the
stack: the first callback that finds one waiting is undefined. -/
theorem runOpt_delivered_nil {ptrSize : Nat} (hps : 2 ≤ ptrSize) {es : List (RxEvent P)}
    {s : RxSys P} (h : runOpt (step ptrSize) init es = some s) : s.delivered = [] := by
  refine runOpt_invariant (P := fun s : RxSys P => s.delivered = []) (fun s e s' hs he => ?_) es rfl h
  cases e with
  | rx p firstLen n =>
    obtain ⟨q',-,rfl⟩ := step_rx_eq_some he
    exact hs
  | callback =>
    obtain ⟨r,hr,rfl⟩ := step_callback_eq_some he
    have h0 : s.queue.lwipFrameRxbufTot = 0 := by
      by_contra hne
      rw [myTcpipCallback_eq_none hps (Nat.pos_of_ne_zero hne)] at hr
      cases hr
    dsimp only
    rw [hs,(myTcpipCallback_eq_some hr).1,h0]
    rfl

theorem runOpt_rx (ptrSize : Nat) (p : P) {count : Nat} (hc : count ≤ lwipMaxGuardedRxBufSz) :
    ∃ s, runOpt (step ptrSize) init (List.replicate count (.rx (some p) sizeofEthHdr 1)) = some s ∧
      s.queue.lwipFrameRxbufTot = count ∧ s.accepted = List.replicate count p := by
  induction count with
  | zero => exact ⟨_,rfl,rfl,rfl⟩
  | succ count ih =>
    obtain ⟨s,hs,ht,ha⟩ := ih (by omega)
    have hlt : s.queue.lwipFrameRxbufTot < lwipMaxGuardedRxBufSz := by omega
    have hrx : s.queue.lwipEthRx (some p) sizeofEthHdr 1 =
        (.queued,some ⟨Function.update s.queue.lwipFrameRxbuf s.queue.lwipFrameRxbufTot (some p),
          s.queue.lwipFrameRxbufTot+1,hlt⟩) := by
      dsimp only [lwipEthRx]
      rw [if_neg (by decide),if_neg (by decide),dif_pos hlt]
    refine ⟨{ s with
        queue := ⟨Function.update s.queue.lwipFrameRxbuf s.queue.lwipFrameRxbufTot (some p),_,hlt⟩
        accepted := s.accepted ++ [p] },?_,by simp [ht],
      by simp [ha,List.replicate_succ']⟩
    rw [List.replicate_succ',runOpt_append,hs]
    simp [runOpt_cons,step,hrx]

/-- The receive buffer is no bounded FIFO. With no callback in between, the
frame after `LWIP_MAX_GUARDED_RX_BUF_SZ = 1024` others is not rejected: it
is stored at `lwip_frame_rxbuf[1024]`, one cell past the array, which is
undefined. And with 8-byte pointers the first callback after one frame
arrived compacts by reading bytes `[8, 8199)` of the 8192-byte array, which
is undefined too. -/
theorem guarded_rx_overflows (p : P) :
    ∃ s, runOpt (step 8) init (List.replicate 1024 (.rx (some p) sizeofEthHdr 1)) = some s ∧
      s.queue.lwipFrameRxbufTot = lwipMaxGuardedRxBufSz ∧
      s.queue.lwipEthRx (some p) sizeofEthHdr 1 = (.queued,none) ∧
      runOpt (step 8) init (List.replicate 1025 (.rx (some p) sizeofEthHdr 1)) = none ∧
      memmoveSource 8 1 = (8,8199) ∧ lwipMaxGuardedRxBufSz*8 = 8192 ∧
      runOpt (step 8) init [.rx (some p) sizeofEthHdr 1,.callback] = none := by
  obtain ⟨s,hs,ht,-⟩ := runOpt_rx 8 p (show 1024 ≤ lwipMaxGuardedRxBufSz from Nat.le_refl _)
  have hfull := lwipEthRx_full ht p (Nat.le_refl _) one_pos
  refine ⟨s,hs,ht,hfull,?_,rfl,rfl,?_⟩
  · rw [List.replicate_succ',runOpt_append,hs]
    simp [runOpt_cons,step,hfull]
  · obtain ⟨s1,hs1,ht1,-⟩ := runOpt_rx 8 p (show 1 ≤ lwipMaxGuardedRxBufSz by decide)
    rw [show [.rx (some p) sizeofEthHdr 1,.callback] =
      List.replicate 1 (.rx (some p) sizeofEthHdr 1) ++ [RxEvent.callback] from rfl,runOpt_append,hs1]
    simp [runOpt_cons,step,myTcpipCallback_eq_none (show 2 ≤ 8 by decide) (show 0 < s1.queue.lwipFrameRxbufTot by omega)]

end RxSys
end V2rayZt.Libzt
