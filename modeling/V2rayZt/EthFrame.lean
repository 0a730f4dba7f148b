import V2rayZt.GuardedRxQueue
import V2rayZt.Lib.CyclicWindow
import Mathlib.Data.List.SplitLengths
import Mathlib.Data.List.GetD

/-! The Ethernet framing of the lwIP driver (`lwIP.cpp`): `lwip_eth_rx` writes a frame across
the pbuf chain `pbuf_alloc` returned and `lwip_eth_tx` gathers a chain back. A chain is its
list of payloads, so the codec is shown for every list of lengths. -/
namespace V2rayZt.Libzt
open V2rayZt.CyclicWindow

/-- `ZT_MAX_MTU`. -/
def ztMaxMtu : Nat := 10000

/-- A disjoint `|`: the low part below `2^s`, the high part a multiple of it. -/
theorem or_add_of_dvd {x y s : Nat} (hy : y < 2^s) (hx : 2^s ∣ x) : x ||| y = x + y := by
  obtain ⟨a,rfl⟩ := hx
  exact (Nat.two_pow_add_eq_or_of_lt hy a).symm

theorem ushr_and_ff (x s : Nat) : x >>> s &&& 0xff = x / 2^s % 256 := by
  rw [Nat.shiftRight_eq_div_pow,show (0xff : Nat) = 2^8 - 1 from rfl,Nat.and_two_pow_sub_one_eq_mod]

/-- `ZeroTier::MAC`: the 48-bit value `_m`, which every constructor masks to
48 bits. -/
structure MAC where
  m : Nat
  lt : m < 2^48

namespace MAC

/-- `copyTo(buf, 6)`: most significant byte first. -/
def copyTo (mac : MAC) : List UInt8 :=
  [40,32,24,16,8,0].map fun s => UInt8.ofNat (mac.m >>> s &&& 0xff)

/-- The value `setTo(bits, 6)` assembles from the six bytes at `bits`. -/
def bitsValue (b : Nat → UInt8) : Nat :=
  ((b 0).toNat &&& 0xff) <<< 40 ||| ((b 1).toNat &&& 0xff) <<< 32 ||| ((b 2).toNat &&& 0xff) <<< 24 |||
    ((b 3).toNat &&& 0xff) <<< 16 ||| ((b 4).toNat &&& 0xff) <<< 8 ||| ((b 5).toNat &&& 0xff)

theorem and_ff (x : UInt8) : x.toNat &&& 0xff = x.toNat :=
  Nat.and_two_pow_sub_one_of_lt_two_pow (n := 8) x.toNat_lt

/-- The six bytes occupy disjoint bits, so the `|` of the shifted bytes is
their sum. -/
theorem bitsValue_eq (b : Nat → UInt8) :
    bitsValue b = (b 0).toNat * 2^40 + (b 1).toNat * 2^32 + (b 2).toNat * 2^24 + (b 3).toNat * 2^16 +
      (b 4).toNat * 2^8 + (b 5).toNat := by
  have h1 := (b 1).toNat_lt
  have h2 := (b 2).toNat_lt
  have h3 := (b 3).toNat_lt
  have h4 := (b 4).toNat_lt
  have h5 := (b 5).toNat_lt
  simp only [bitsValue,and_ff,Nat.shiftLeft_eq]
  rw [or_add_of_dvd (y := (b 1).toNat * 2^32) (s := 40) (by omega) (by omega),
    or_add_of_dvd (y := (b 2).toNat * 2^24) (s := 32) (by omega) (by omega),
    or_add_of_dvd (y := (b 3).toNat * 2^16) (s := 24) (by omega) (by omega),
    or_add_of_dvd (y := (b 4).toNat * 2^8) (s := 16) (by omega) (by omega),
    or_add_of_dvd (y := (b 5).toNat) (s := 8) (by omega) (by omega)]

theorem bitsValue_lt (b : Nat → UInt8) : bitsValue b < 2^48 := by
  have h0 := (b 0).toNat_lt
  have h1 := (b 1).toNat_lt
  have h2 := (b 2).toNat_lt
  have h3 := (b 3).toNat_lt
  have h4 := (b 4).toNat_lt
  have h5 := (b 5).toNat_lt
  rw [bitsValue_eq]
  omega

@[simp] theorem length_copyTo (mac : MAC) : mac.copyTo.length = 6 := rfl

/-- `setTo(bits, 6)`. -/
def setTo (b : Nat → UInt8) : MAC := ⟨bitsValue b,bitsValue_lt b⟩

/-- Reading back what `copyTo` wrote gives the MAC. -/
theorem setTo_copyTo (mac : MAC) : setTo (fun i => mac.copyTo.getD i 0) = mac := by
  have hm := mac.lt
  obtain ⟨m,hm'⟩ := mac
  simp only [setTo,MAC.mk.injEq,bitsValue_eq]
  simp only [copyTo,List.map_cons,List.map_nil,List.getD_cons_zero,List.getD_cons_succ,UInt8.toNat_ofNat',
    ushr_and_ff,Nat.reducePow,Nat.mod_mod]
  omega

/-- `setTo` reads six bytes and no others. -/
theorem setTo_congr {b b' : Nat → UInt8} (h : ∀ i < 6, b i = b' i) : setTo b = setTo b' := by
  simp only [setTo,bitsValue,h 0 (by decide),h 1 (by decide),h 2 (by decide),h 3 (by decide),
    h 4 (by decide),h 5 (by decide)]

end MAC

/-- `hton((uint16_t)x)` as it lies in memory: the low 16 bits, most
significant byte first, whatever the host's byte order. -/
def htonBytes (x : Nat) : List UInt8 := [UInt8.ofNat (x % 2^16 / 256),UInt8.ofNat (x % 2^16 % 256)]

/-- `ntoh` of the 16-bit field whose memory bytes are `a` and `b`. -/
def ntoh16 (a b : UInt8) : Nat := a.toNat * 256 + b.toNat

/-- The `struct eth_hdr` that `lwip_eth_rx` fills: `dest`, `src`, `type`. -/
def ethHdr («from» «to» : MAC) (etherType : Nat) : List UInt8 := «to».copyTo ++ «from».copyTo ++ htonBytes etherType

/-- `lwip_eth_rx` from a successful `pbuf_alloc` on, over the lengths of the
chain's pbufs, the first `l` and then `ls`: the header and the first
`l - 14` bytes of data go into the first pbuf, and each later pbuf takes the
next `q->len` bytes from `dataptr`. `none` is the drop of a first pbuf
shorter than the header. -/
def fillChain (hdr data : List UInt8) (l : Nat) (ls : List Nat) : Option (List (List UInt8)) :=
  if l < sizeofEthHdr then none
  else some ((hdr ++ data.take (l - sizeofEthHdr)) :: ls.splitLengths (data.drop (l - sizeofEthHdr)))

/-- The loop of `lwip_eth_tx` that copies each pbuf to `bufptr` in
`char buf[ZT_MAX_MTU+32]`; returns the buffer and `totalLength`. `none` is a
copy past the end of `buf`. -/
def gather (buf : Nat → UInt8) (bufptr : Nat) : List (List UInt8) → Option ((Nat → UInt8) × Nat)
  | [] => some (buf,bufptr)
  | q :: qs =>
    if bufptr + q.length ≤ ztMaxMtu + 32 then
      gather (memcpy buf bufptr (fun j => q.getD j 0) 0 q.length) (bufptr + q.length) qs
    else none

/-- The arguments `lwip_eth_tx` passes to `tap->_handler`: the two MACs, the
protocol, and the `len` bytes at `data`. -/
structure TapFrame where
  srcMac : MAC
  destMac : MAC
  proto : Nat
  data : List UInt8
  len : Int

/-- `lwip_eth_tx(netif, p)` for the chain with payloads `chain`; `stack` is
what `buf` held before the copies. -/
def lwipEthTx (stack : Nat → UInt8) (chain : List (List UInt8)) : Option TapFrame := do
  let (buf,totalLength) ← gather stack 0 chain
  let srcMac := MAC.setTo fun i => buf (6 + i)
  let destMac := MAC.setTo buf
  let len : Int := totalLength - sizeofEthHdr
  let proto := ntoh16 (buf 12) (buf 13)
  pure ⟨srcMac,destMac,proto,(List.range (totalLength - sizeofEthHdr)).map fun j => buf (sizeofEthHdr + j),len⟩

/-- A chain that fits in `buf` from `bufptr` is copied as the one list of
its payloads. Induction on the chain, with the copies so far in `buf`. -/
theorem gather_eq (buf : Nat → UInt8) (bufptr : Nat) (chain : List (List UInt8))
    (hfit : bufptr + chain.flatten.length ≤ ztMaxMtu + 32) :
    gather buf bufptr chain =
      some (memcpy buf bufptr (fun j => chain.flatten.getD j 0) 0 chain.flatten.length,bufptr + chain.flatten.length) := by
  induction chain generalizing buf bufptr with
  | nil => simp [gather]
  | cons q qs ih =>
    simp only [List.flatten_cons,List.length_append] at hfit ⊢
    have hjoin : (fun j => (q ++ qs.flatten).getD j 0) =
        fun j => if j < q.length then q.getD j 0 else qs.flatten.getD (j - q.length) 0 := by
      funext j
      split_ifs with hj
      · exact List.getD_append _ _ _ _ hj
      · exact List.getD_append_right _ _ _ _ (by omega)
    rw [gather,if_pos (by omega),ih _ _ (by omega),memcpy_memcpy,hjoin,Nat.add_assoc]

theorem htonBytes_ntoh16 {x : Nat} (hx : x < 2^16) :
    htonBytes x = [UInt8.ofNat (x / 256),UInt8.ofNat (x % 256)] ∧
      ntoh16 (UInt8.ofNat (x / 256)) (UInt8.ofNat (x % 256)) = x := by
  refine ⟨by rw [htonBytes,Nat.mod_eq_of_lt hx],?_⟩
  simp only [ntoh16,UInt8.toNat_ofNat']
  omega

/-- What `lwip_eth_rx` leaves in a chain whose first pbuf holds the header:
each pbuf filled to its length, and together the header and then the data. -/
theorem fillChain_spec {hdr : List UInt8} (hhdr : hdr.length = sizeofEthHdr) (data : List UInt8) {l : Nat}
    {ls : List Nat} (hl : sizeofEthHdr ≤ l) (hsum : l + ls.sum = data.length + sizeofEthHdr) :
    ∃ chain, fillChain hdr data l ls = some chain ∧ chain.map List.length = l :: ls ∧ chain.flatten = hdr ++ data := by
  have hsplit : ls.sum = (data.drop (l - sizeofEthHdr)).length := by
    rw [List.length_drop]
    unfold sizeofEthHdr at *
    omega
  refine ⟨(hdr ++ data.take (l - sizeofEthHdr)) :: ls.splitLengths (data.drop (l - sizeofEthHdr)),
    by rw [fillChain,if_neg (by omega)],?_,?_⟩
  · simp only [List.map_cons,List.length_append,hhdr,List.length_take,List.map_splitLengths_length _ _ hsplit.le]
    congr 1
    unfold sizeofEthHdr at *
    omega
  · simp only [List.flatten_cons,List.flatten_splitLengths _ _ hsplit.ge,List.append_assoc,List.take_append_drop]

/-- What `lwip_eth_tx` hands the tap for a chain that holds `to`, `from`, two
type bytes and the data, and fits in its buffer. -/
theorem lwipEthTx_frame (stack : Nat → UInt8) {chain : List (List UInt8)} («from» «to» : MAC) (hi lo : UInt8)
    (data : List UInt8) (hframe : chain.flatten = «to».copyTo ++ («from».copyTo ++ ([hi,lo] ++ data)))
    (hmtu : data.length + sizeofEthHdr ≤ ztMaxMtu + 32) :
    lwipEthTx stack chain = some ⟨«from»,«to»,ntoh16 hi lo,data,data.length⟩ := by
  have hlen : chain.flatten.length = 14 + data.length := by
    rw [hframe]
    simp only [List.length_append,MAC.length_copyTo,List.length_cons,List.length_nil]
    omega
  -- the gathered buffer holds the frame's bytes
  have hbuf : ∀ i < chain.flatten.length,
      memcpy stack 0 (fun j => chain.flatten.getD j 0) 0 chain.flatten.length i = chain.flatten.getD i 0 := by
    intro i hi
    rw [memcpy_inside (Nat.zero_le i) (by omega),Nat.zero_add,Nat.sub_zero]
  rw [lwipEthTx,gather_eq stack 0 chain (by rw [hlen]; unfold sizeofEthHdr at *; omega)]
  simp only [Option.pure_def,Option.bind_eq_bind,Option.bind_some,Nat.zero_add]
  set buf := memcpy stack 0 (fun j => chain.flatten.getD j 0) 0 chain.flatten.length
  -- each field of the header at its offset
  have hto : ∀ i < 6, buf i = «to».copyTo.getD i 0 := by
    intro i hi
    rw [hbuf i (by omega),hframe,List.getD_append _ _ _ _ (by simpa using hi)]
  have hfrom : ∀ i < 6, buf (6 + i) = «from».copyTo.getD i 0 := by
    intro i hi
    rw [hbuf _ (by omega),hframe,List.getD_append_right _ _ _ _ (by rw [MAC.length_copyTo]; omega),MAC.length_copyTo,
      Nat.add_sub_cancel_left,List.getD_append _ _ _ _ (by simpa using hi)]
  have htype : ∀ i, i < 2 → buf (12 + i) = [hi,lo].getD i 0 := by
    intro i hi
    rw [hbuf _ (by omega),hframe,List.getD_append_right _ _ _ _ (by rw [MAC.length_copyTo]; omega),
      List.getD_append_right _ _ _ _ (by rw [MAC.length_copyTo,MAC.length_copyTo]; omega),
      List.getD_append _ _ _ _ (by simp; omega),MAC.length_copyTo,MAC.length_copyTo]
    congr 1
    omega
  have hdata : (List.range (chain.flatten.length - sizeofEthHdr)).map (fun j => buf (sizeofEthHdr + j)) = data := by
    have hheader : chain.flatten = («to».copyTo ++ «from».copyTo ++ [hi,lo]) ++ data := by
      rw [hframe]
      simp only [List.append_assoc]
    have hhl : («to».copyTo ++ «from».copyTo ++ [hi,lo]).length = sizeofEthHdr := by
      simp [sizeofEthHdr]
    apply List.ext_getElem (by rw [List.length_map,List.length_range,hlen]; unfold sizeofEthHdr; omega)
    intro j h1 h2
    rw [List.length_map,List.length_range] at h1
    rw [List.getElem_map,List.getElem_range,hbuf _ (by unfold sizeofEthHdr at h1 ⊢; omega),hheader,
      List.getD_append_right _ _ _ _ (by omega),hhl,Nat.add_sub_cancel_left,List.getD_eq_getElem]
  rw [MAC.setTo_congr (b := fun i => buf (6 + i)) hfrom,MAC.setTo_copyTo,MAC.setTo_congr hto,MAC.setTo_copyTo,
    htype 0 (by decide),htype 1 (by decide),hdata,hlen]
  simp [sizeofEthHdr]

/-- The driver's framing is a codec over every segmentation. For any MACs,
type and data that fit in `lwip_eth_tx`'s buffer, and any chain
`pbuf_alloc` returns with a first pbuf of at least 14 bytes, `lwip_eth_rx`
fills the chain with `to`, `from`, the type big-endian and the data, each
pbuf to its length; and `lwip_eth_tx` on that chain hands the tap `from`,
`to`, the type and the data with its length. -/
theorem eth_framing_codec («from» «to» : MAC) {etherType : Nat} (hty : etherType < 2^16) (data : List UInt8)
    (hmtu : data.length + sizeofEthHdr ≤ ztMaxMtu + 32) {l : Nat} {ls : List Nat} (hl : sizeofEthHdr ≤ l)
    (hsum : l + ls.sum = data.length + sizeofEthHdr) (stack : Nat → UInt8) :
    ∃ chain, fillChain (ethHdr «from» «to» etherType) data l ls = some chain ∧
      chain.map List.length = l :: ls ∧
      chain.flatten = «to».copyTo ++ «from».copyTo ++ [UInt8.ofNat (etherType / 256),UInt8.ofNat (etherType % 256)] ++ data ∧
      lwipEthTx stack chain = some ⟨«from»,«to»,etherType,data,data.length⟩ := by
  obtain ⟨hton,hntoh⟩ := htonBytes_ntoh16 hty
  have hhdr : (ethHdr «from» «to» etherType).length = sizeofEthHdr := by
    simp [ethHdr,htonBytes,sizeofEthHdr]
  obtain ⟨chain,hfill,hlens,hflat⟩ := fillChain_spec hhdr data hl hsum
  -- the header `lwip_eth_rx` wrote, field by field
  have hframe : chain.flatten =
      «to».copyTo ++ («from».copyTo ++ ([UInt8.ofNat (etherType / 256),UInt8.ofNat (etherType % 256)] ++ data)) := by
    rw [hflat,ethHdr,hton]
    simp only [List.append_assoc]
  refine ⟨chain,hfill,hlens,by rw [hframe]; simp only [List.append_assoc],?_⟩
  rw [lwipEthTx_frame stack «from» «to» _ _ data hframe hmtu,hntoh]

theorem eth_framing_codec_split_data :
    let «from» : MAC := ⟨0x0a0b0c0d0e0f,by decide⟩
    let «to» : MAC := ⟨0x010203040506,by decide⟩
    ∃ chain, fillChain (ethHdr «from» «to» 0x0800) [1,2,3] 15 [2] = some chain ∧ chain.map List.length = [15,2] ∧
      chain.flatten = «to».copyTo ++ «from».copyTo ++ [UInt8.ofNat (0x0800 / 256),UInt8.ofNat (0x0800 % 256)] ++ [1,2,3] ∧
      lwipEthTx (fun _ => 0) chain = some ⟨«from»,«to»,0x0800,[1,2,3],[1,2,3].length⟩ :=
  eth_framing_codec _ _ (by decide) _ (by decide) (by decide) (by decide) _

end V2rayZt.Libzt
