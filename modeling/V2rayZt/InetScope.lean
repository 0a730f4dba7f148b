import V2rayZt.InetSubnet

/-! `InetAddress::ipScope()`, the class of an address that path selection reads. Its cases, with
their comments in the order of the tests, are a first-match table of blocks; the code computes
that table, except that the `fe80::1/128` loopback case holds sixty-four addresses. -/
namespace V2rayZt.ZeroTier
open V2rayZt.Libzt V2rayZt.BitPrefix

/-- `InetAddress::IpScope`. -/
inductive IpScope where
  | ipScopeNone
  | ipScopeMulticast
  | ipScopeLoopback
  | ipScopePseudoprivate
  | ipScopeGlobal
  | ipScopeLinkLocal
  | ipScopeShared
  | ipScopePrivate
  deriving DecidableEq, Repr

namespace InetAddress

/-- The first `switch (ip >> 24)` of the IPv4 case: the scope a case
returns, `none` where a case breaks or no case matches. -/
def scopeByTopByte (ip : UInt32) : Option IpScope :=
  match (ip >>> 24).toNat with
  | 0x00 => some .ipScopeNone
  | 0x06 => some .ipScopePseudoprivate
  | 0x0a => some .ipScopePrivate
  | 0x0b => some .ipScopePseudoprivate
  | 0x15 => some .ipScopePseudoprivate
  | 0x16 => some .ipScopePseudoprivate
  | 0x19 => some .ipScopePseudoprivate
  | 0x1a => some .ipScopePseudoprivate
  | 0x1c => some .ipScopePseudoprivate
  | 0x1d => some .ipScopePseudoprivate
  | 0x1e => some .ipScopePseudoprivate
  | 0x2c => some .ipScopePseudoprivate
  | 0x33 => some .ipScopePseudoprivate
  | 0x37 => some .ipScopePseudoprivate
  | 0x38 => some .ipScopePseudoprivate
  | 0x64 => if ip &&& 0xffc00000 == 0x64400000 then some .ipScopePrivate else none
  | 0x7f => some .ipScopeLoopback
  | 0xa9 => if ip &&& 0xffff0000 == 0xa9fe0000 then some .ipScopeLinkLocal else none
  | 0xac => if ip &&& 0xfff00000 == 0xac100000 then some .ipScopePrivate else none
  | 0xc0 => if ip &&& 0xffff0000 == 0xc0a80000 then some .ipScopePrivate else none
  | 0xff => some .ipScopeNone
  | _ => none

/-- The IPv4 case of `ipScope()`, on the address in host order. -/
def ipScopeV4 (ip : UInt32) : IpScope :=
  match scopeByTopByte ip with
  | some s => s
  | none =>
    match (ip >>> 28).toNat with
    | 0xe => .ipScopeMulticast
    | 0xf => .ipScopePseudoprivate
    | _ => .ipScopeGlobal

/-- `while ((!ip[k])&&(k < 15)) ++k;` -/
def skipZeroBytes (a : BitVec 128) (k : Nat) : Nat :=
  if s6Byte a k = 0 ∧ k < 15 then skipZeroBytes a (k + 1) else k
termination_by 15 - k

/-- The IPv6 case of `ipScope()`: the tests under `(ip[0] & 0xf0) == 0xf0`,
then the walk over the leading zero bytes. -/
def ipScopeV6 (a : BitVec 128) : IpScope :=
  let ip := s6Byte a
  let high : Option IpScope :=
    if ip 0 &&& 0xf0 == 0xf0 then
      if ip 0 == 0xff then some .ipScopeMulticast
      else if ip 0 == 0xfe && ip 1 &&& 0xc0 == 0x80 then
        if skipZeroBytes a 2 == 15 && ip 15 == 0x01 then some .ipScopeLoopback
        else some .ipScopeLinkLocal
      else if ip 0 &&& 0xfe == 0xfc then some .ipScopePrivate
      else none
    else none
  match high with
  | some s => s
  | none =>
    if skipZeroBytes a 0 == 15 then
      if ip 15 == 0x01 then .ipScopeLoopback
      else if ip 15 == 0x00 then .ipScopeNone
      else .ipScopeGlobal
    else .ipScopeGlobal

/-- `InetAddress::ipScope()`. -/
def ipScope : InetAddress → IpScope
  | .v4 _ sAddr => ipScopeV4 (ntoh32 sAddr)
  | .v6 _ _ a _ => ipScopeV6 a
  | .null => .ipScopeNone

/-! ### The blocks of the comments -/

/-- The IPv4 blocks the comments of `ipScope()` name, in the order of its
tests. -/
def ipv4Blocks : List (BitVec 32 × Nat × IpScope) :=
  [(0x00000000,8,.ipScopeNone),(0x06000000,8,.ipScopePseudoprivate),(0x0a000000,8,.ipScopePrivate),
   (0x0b000000,8,.ipScopePseudoprivate),(0x15000000,8,.ipScopePseudoprivate),
   (0x16000000,8,.ipScopePseudoprivate),(0x19000000,8,.ipScopePseudoprivate),
   (0x1a000000,8,.ipScopePseudoprivate),(0x1c000000,8,.ipScopePseudoprivate),
   (0x1d000000,8,.ipScopePseudoprivate),(0x1e000000,8,.ipScopePseudoprivate),
   (0x2c000000,8,.ipScopePseudoprivate),(0x33000000,8,.ipScopePseudoprivate),
   (0x37000000,8,.ipScopePseudoprivate),(0x38000000,8,.ipScopePseudoprivate),
   (0x64400000,10,.ipScopePrivate),(0x7f000000,8,.ipScopeLoopback),(0xa9fe0000,16,.ipScopeLinkLocal),
   (0xac100000,12,.ipScopePrivate),(0xc0a80000,16,.ipScopePrivate),(0xff000000,8,.ipScopeNone),
   (0xe0000000,4,.ipScopeMulticast),(0xf0000000,4,.ipScopePseudoprivate)]

/-- The IPv6 blocks the comments name: `ff00::/8`, `fe80::1/128`,
`fe80::/10`, `fc00::/7`, `::1/128` and `::/128`. -/
def ipv6Blocks : List (BitVec 128 × Nat × IpScope) :=
  [(0xff000000000000000000000000000000,8,.ipScopeMulticast),
   (0xfe800000000000000000000000000001,128,.ipScopeLoopback),
   (0xfe800000000000000000000000000000,10,.ipScopeLinkLocal),
   (0xfc000000000000000000000000000000,7,.ipScopePrivate),
   (1,128,.ipScopeLoopback),(0,128,.ipScopeNone)]

/-! ### IPv4 -/

theorem toNat_shiftRight_24 (ip : UInt32) : (ip >>> 24).toNat = ip.toNat / 2^24 := by
  simp [UInt32.toNat_shiftRight,Nat.shiftRight_eq_div_pow]

theorem toNat_shiftRight_28 (ip : UInt32) : (ip >>> 28).toNat = (ip >>> 24).toNat / 16 := by
  simp only [UInt32.toNat_shiftRight,Nat.shiftRight_eq_div_pow,Nat.div_div_eq_div_mul]
  rfl

/-- A mask of the top `n` bits, tested against a network with no host bits,
compares the value past the other `32 - n`. -/
theorem and_beq_iff_div {ip m net : UInt32} {n : Nat} (hn : n ≤ 32)
    (hm : m.toBitVec = BitVec.allOnes 32 <<< (32 - n)) (hz : net.toNat % 2^(32 - n) = 0) :
    (ip &&& m == net) = true ↔ ip.toNat / 2^(32 - n) = net.toNat / 2^(32 - n) := by
  rw [beq_iff_eq,← UInt32.toBitVec_inj,UInt32.toBitVec_and,hm]
  exact and_mask_eq_iff_div hn hz

theorem samePrefix_iff_div32 (ip : UInt32) {n : Nat} (hn : n ≤ 32) (net : BitVec 32) :
    SamePrefix n ip.toBitVec net ↔ ip.toNat / 2^(32 - n) = net.toNat / 2^(32 - n) :=
  samePrefix_iff_div hn

/-- A block of the table read as a test of the top byte. -/
theorem samePrefix_eight_iff (ip : UInt32) (net : BitVec 32) :
    SamePrefix 8 ip.toBitVec net ↔ (ip >>> 24).toNat = net.toNat / 2^24 := by
  rw [samePrefix_iff_div32 ip (by decide),toNat_shiftRight_24]

theorem samePrefix_four_iff (ip : UInt32) (net : BitVec 32) :
    SamePrefix 4 ip.toBitVec net ↔ (ip >>> 24).toNat / 16 = net.toNat / 2^28 := by
  rw [samePrefix_iff_div32 ip (by decide),toNat_shiftRight_24,Nat.div_div_eq_div_mul]
  simp only [Nat.reduceSub,Nat.reducePow,Nat.reduceMul]

/-- A longer mask test of the top-byte `switch` is the block of the table. -/
theorem samePrefix_iff_and_beq {ip m net : UInt32} {net' : BitVec 32} {n : Nat} (hn : n ≤ 32)
    (hm : m.toBitVec = BitVec.allOnes 32 <<< (32 - n)) (hz : net.toNat % 2^(32 - n) = 0) (hnet : net.toBitVec = net') :
    SamePrefix n ip.toBitVec net' ↔ (ip &&& m == net) = true := by
  rw [samePrefix_iff_div32 ip hn,and_beq_iff_div hn hm hz,← hnet]
  rfl

/-- A mask test of at least eight bits fixes the top byte. -/
theorem toNat_shiftRight_24_of_and_beq {ip m net : UInt32} {n : Nat} (h8 : 8 ≤ n) (hn : n ≤ 32)
    (hm : m.toBitVec = BitVec.allOnes 32 <<< (32 - n)) (hz : net.toNat % 2^(32 - n) = 0) :
    (ip &&& m == net) = true → (ip >>> 24).toNat = net.toNat / 2^24 := by
  intro h
  rw [and_beq_iff_div hn hm hz] at h
  have hsplit : 2^24 = 2^(32 - n) * 2^(n - 8) := by
    rw [← Nat.pow_add]
    congr 1
    omega
  rw [toNat_shiftRight_24,hsplit,← Nat.div_div_eq_div_mul,← Nat.div_div_eq_div_mul,h]

set_option maxRecDepth 2000 in
set_option synthInstance.maxSize 512 in
/-- The class of an IPv4 address is that of the first block of the comments'
table that holds it, `IP_SCOPE_GLOBAL` when none does. -/
theorem ipScopeV4_eq_lookup (ip : UInt32) : ipScopeV4 ip = lookup .ipScopeGlobal ip.toBitVec ipv4Blocks := by
  -- the four cases that test a longer mask: the table's block, inside the top byte
  have h10 := @samePrefix_iff_and_beq ip 0xffc00000 0x64400000 0x64400000 10 (by decide) (by decide) (by decide) rfl
  have h16a := @samePrefix_iff_and_beq ip 0xffff0000 0xa9fe0000 0xa9fe0000 16 (by decide) (by decide) (by decide) rfl
  have h12 := @samePrefix_iff_and_beq ip 0xfff00000 0xac100000 0xac100000 12 (by decide) (by decide) (by decide) rfl
  have h16c := @samePrefix_iff_and_beq ip 0xffff0000 0xc0a80000 0xc0a80000 16 (by decide) (by decide) (by decide) rfl
  have hc1 := @toNat_shiftRight_24_of_and_beq ip 0xffc00000 0x64400000 10 (by decide) (by decide) (by decide) (by decide)
  have hc2 := @toNat_shiftRight_24_of_and_beq ip 0xffff0000 0xa9fe0000 16 (by decide) (by decide) (by decide) (by decide)
  have hc3 := @toNat_shiftRight_24_of_and_beq ip 0xfff00000 0xac100000 12 (by decide) (by decide) (by decide) (by decide)
  have hc4 := @toNat_shiftRight_24_of_and_beq ip 0xffff0000 0xc0a80000 16 (by decide) (by decide) (by decide) (by decide)
  have ht : (ip >>> 24).toNat < 256 := by
    rw [toNat_shiftRight_24]
    exact Nat.div_lt_of_lt_mul (by simpa using ip.toNat_lt)
  simp only [ipScopeV4,scopeByTopByte,ipv4Blocks,lookup_cons,lookup_nil,samePrefix_eight_iff,
    samePrefix_four_iff,h10,h16a,h12,h16c,toNat_shiftRight_28,BitVec.reduceToNat,Nat.reducePow]
  -- what is left depends on the top byte and the four mask tests only
  generalize (ip >>> 24).toNat = t at *
  generalize (ip &&& 0xffc00000 == 0x64400000) = c1 at *
  generalize (ip &&& 0xffff0000 == 0xa9fe0000) = c2 at *
  generalize (ip &&& 0xfff00000 == 0xac100000) = c3 at *
  generalize (ip &&& 0xffff0000 == 0xc0a80000) = c4 at *
  clear h10 h16a h12 h16c
  revert t c1 c2 c3 c4
  decide

/-! ### IPv6 -/

/-- The byte tests of `ipScope()`: a mask of the top `n` bits of a byte. -/
theorem byte_and_beq_iff_div {x m v : UInt8} {n : Nat} (hn : n ≤ 8)
    (hm : m.toBitVec = BitVec.allOnes 8 <<< (8 - n)) (hz : v.toNat % 2^(8 - n) = 0) :
    (x &&& m == v) = true ↔ x.toNat / 2^(8 - n) = v.toNat / 2^(8 - n) := by
  rw [beq_iff_eq,← UInt8.toBitVec_inj,UInt8.toBitVec_and,hm]
  exact and_mask_eq_iff_div hn hz

/-- The walk over zero bytes from byte `k` reaches the last byte exactly when
what lies below byte `k` fits in the last byte. -/
theorem skipZeroBytes_eq_fifteen_iff (a : BitVec 128) (k : Nat) :
    k ≤ 15 → (skipZeroBytes a k = 15 ↔ a.toNat % 2^(8 * (16 - k)) < 2^8) := by
  fun_induction skipZeroBytes a k with
  | case1 k h ih =>
    -- byte `k` is zero, so nothing below it lies above byte `k + 1`
    intro _
    have hz : a.toNat / 2^(8 * (15 - k)) % 256 = 0 := by rw [← toNat_s6Byte,h.1]; rfl
    rw [ih (by omega),show 16 - k = (15 - k) + 1 by omega,mod_pow_byte,hz,
      show 16 - (k + 1) = 15 - k by omega,Nat.mul_zero,Nat.add_zero]
  | case2 k h =>
    intro hk
    by_cases hk15 : k = 15
    · subst hk15
      simp [Nat.mod_lt]
    · -- byte `k` is not zero, so what lies below it is at least that byte's weight
      have hb : a.toNat / 2^(8 * (15 - k)) % 256 ≠ 0 := by
        intro hz
        apply h
        refine ⟨?_,by omega⟩
        apply UInt8.toNat_inj.1
        rw [toNat_s6Byte,hz]
        rfl
      have hw : 2^8 ≤ 2^(8 * (15 - k)) := Nat.pow_le_pow_right (by decide) (by omega)
      have hge : 2^(8 * (15 - k)) ≤ a.toNat % 2^(8 * (16 - k)) := by
        rw [show 16 - k = (15 - k) + 1 by omega,mod_pow_byte]
        exact le_add_left (Nat.le_mul_of_pos_right _ (Nat.pos_of_ne_zero hb))
      omega

/-- The class of an IPv6 address is that of the first block of the comments'
table that holds it, `IP_SCOPE_GLOBAL` when none does, but on `fe80::/10`:
there the code tests the last fourteen bytes for `00…01` and leaves the rest
of byte 1 free, so the loopback class holds sixty-four addresses of that
block where the comment names `fe80::1` alone. -/
theorem ipScopeV6_eq_lookup (a : BitVec 128) :
    ipScopeV6 a =
      if SamePrefix 10 a 0xfe800000000000000000000000000000 ∧ a.toNat % 2^112 = 1 then .ipScopeLoopback
      else lookup .ipScopeGlobal a ipv6Blocks := by
  have hlt := a.isLt
  -- the three masked byte tests, read on the value
  have hf0 := @byte_and_beq_iff_div (s6Byte a 0) 0xf0 0xf0 4 (by decide) (by decide) (by decide)
  have hc0 := @byte_and_beq_iff_div (s6Byte a 1) 0xc0 0x80 2 (by decide) (by decide) (by decide)
  have hfe := @byte_and_beq_iff_div (s6Byte a 0) 0xfe 0xfc 7 (by decide) (by decide) (by decide)
  -- and the blocks of the table
  have p8 := @samePrefix_iff_div 128 8 (by decide) a
  have p10 := @samePrefix_iff_div 128 10 (by decide) a
  have p7 := @samePrefix_iff_div 128 7 (by decide) a
  have p128 := @samePrefix_iff_div 128 128 (by decide) a
  simp only [ipScopeV6,ipv6Blocks,lookup_cons,lookup_nil,hf0,hc0,hfe,Bool.and_eq_true,beq_iff_eq,
    skipZeroBytes_eq_fifteen_iff a 0 (by decide),skipZeroBytes_eq_fifteen_iff a 2 (by decide),
    ← UInt8.toNat_inj,toNat_s6Byte,p8,p10,p7,p128,UInt8.reduceToNat,BitVec.reduceToNat,
    Nat.reduceSub,Nat.reduceMul,Nat.reducePow,Nat.reduceDiv,Nat.div_one]
  generalize a.toNat = n at hlt ⊢
  -- the code's branches: the top four bits all set, then `ff`, `fe80::/10`
  -- and the last fourteen bytes, `fc00::/7`; else the walk over zero bytes
  by_cases hH : n / 2^124 = 15
  · by_cases hM : n / 2^120 = 0xff
    · simp (disch := omega) only [if_pos,if_neg]
    · by_cases hLL : n / 2^118 = 0x3fa
      · by_cases hlo : n % 2^112 = 1
        · simp (disch := omega) only [if_pos,if_neg]
        · simp (disch := omega) only [if_pos,if_neg]
      · by_cases hP : n / 2^121 = 0x7e
        · simp (disch := omega) only [if_pos,if_neg]
        · simp (disch := omega) only [if_pos,if_neg]
  · by_cases hs : n < 256
    · by_cases h1 : n = 1
      · simp (disch := omega) only [if_pos,if_neg]
      · by_cases h0 : n = 0
        · simp (disch := omega) only [if_pos,if_neg]
        · simp (disch := omega) only [if_pos,if_neg]
    · simp (disch := omega) only [if_pos,if_neg]

/-- `fe81::1` lies in `fe80::/10` but is not `fe80::1`: the comments make it
link-local, the code loopback. -/
example : ipScopeV6 0xfe810000000000000000000000000001 = .ipScopeLoopback ∧
    lookup .ipScopeGlobal (0xfe810000000000000000000000000001 : BitVec 128) ipv6Blocks = .ipScopeLinkLocal := by
  decide +kernel

/-- `ipScope()` on an IPv4 address: the comments' table, read in order. -/
theorem ipScope_v4_eq_lookup (port : UInt16) (sAddr : UInt32) :
    (InetAddress.v4 port sAddr).ipScope = lookup .ipScopeGlobal (ntoh32 sAddr).toBitVec ipv4Blocks :=
  ipScopeV4_eq_lookup _

/-- `ipScope()` on an IPv6 address: the comments' table, read in order, but
for the sixty-four loopback addresses of `fe80::/10`. -/
theorem ipScope_v6_eq_lookup (port : UInt16) (flowinfo : UInt32) (a : BitVec 128) (scopeId : UInt32) :
    (InetAddress.v6 port flowinfo a scopeId).ipScope =
      if SamePrefix 10 a 0xfe800000000000000000000000000000 ∧ a.toNat % 2^112 = 1 then .ipScopeLoopback
      else lookup .ipScopeGlobal a ipv6Blocks :=
  ipScopeV6_eq_lookup a

end InetAddress

/-! ### Path validity -/

namespace Path

/-- The classes the `switch` of `Path::isAddressValidForPath` lets through. -/
def scopeValidForPath : IpScope → Bool
  | .ipScopePrivate | .ipScopePseudoprivate | .ipScopeShared | .ipScopeGlobal => true
  | _ => false

/-- `Path::isAddressValidForPath(a)`: an address of a class the `switch`
lets through, but an IPv6 one in `2001:470::/32`, the he.net tunnels. -/
def isAddressValidForPath (a : InetAddress) : Bool :=
  match a with
  | .v4 .. => scopeValidForPath a.ipScope
  | .v6 _ _ ip _ =>
    scopeValidForPath a.ipScope &&
      !(s6Byte ip 0 == 0x20 && s6Byte ip 1 == 0x01 && s6Byte ip 2 == 0x04 && s6Byte ip 3 == 0x70)
  | .null => false

/-- The four byte tests are the `/32` block. -/
theorem heNet_iff (ip : BitVec 128) :
    (s6Byte ip 0 == 0x20 && s6Byte ip 1 == 0x01 && s6Byte ip 2 == 0x04 && s6Byte ip 3 == 0x70) =
      decide (SamePrefix 32 ip 0x20010470000000000000000000000000) := by
  have hlt := ip.isLt
  rw [Bool.eq_iff_iff,decide_eq_true_iff,samePrefix_iff_div (by decide)]
  simp only [Bool.and_eq_true,beq_iff_eq,← UInt8.toNat_inj,InetAddress.toNat_s6Byte,UInt8.reduceToNat,
    BitVec.reduceToNat,Nat.reduceSub,Nat.reduceMul,Nat.reducePow,Nat.reduceDiv]
  omega

/-- The addresses the code makes loopback in `fe80::/10` are link-local or
loopback in the comments' table too: no path goes over either. -/
theorem scopeValidForPath_lookup_of_linkLocal {a : BitVec 128}
    (h : SamePrefix 10 a 0xfe800000000000000000000000000000) :
    scopeValidForPath (lookup .ipScopeGlobal a InetAddress.ipv6Blocks) = false := by
  have hlt := a.isLt
  rw [samePrefix_iff_div (by decide)] at h
  have p8 := @samePrefix_iff_div 128 8 (by decide) a
  have p128 := @samePrefix_iff_div 128 128 (by decide) a
  have p10 := @samePrefix_iff_div 128 10 (by decide) a
  simp only [InetAddress.ipv6Blocks,lookup_cons,p8,p128,p10,BitVec.reduceToNat,Nat.reduceSub,Nat.reducePow,
    Nat.reduceDiv,Nat.div_one] at h ⊢
  -- not in `ff00::/8`, and in `fe80::/10`
  rw [if_neg (by omega)]
  split_ifs <;> rfl

/-- Which IPv6 addresses may carry a path is what the comments' table says:
the quirk of `ipScope()` on `fe80::/10` does not reach path selection. -/
theorem isAddressValidForPath_v6 (port : UInt16) (flowinfo : UInt32) (ip : BitVec 128) (scopeId : UInt32) :
    isAddressValidForPath (.v6 port flowinfo ip scopeId) =
      (scopeValidForPath (lookup .ipScopeGlobal ip InetAddress.ipv6Blocks) &&
        !decide (SamePrefix 32 ip 0x20010470000000000000000000000000)) := by
  rw [isAddressValidForPath,heNet_iff,InetAddress.ipScope,InetAddress.ipScopeV6_eq_lookup]
  split_ifs with hq
  · rw [scopeValidForPath_lookup_of_linkLocal hq.1]
    rfl
  · rfl

end Path

end V2rayZt.ZeroTier
