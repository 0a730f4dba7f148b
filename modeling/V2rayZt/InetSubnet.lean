import V2rayZt.Ipv6Subnet
import V2rayZt.MulticastGroups
import Mathlib.Tactic.IntervalCases
import Mathlib.Data.Nat.Digits.Lemmas

/-! The netmask arithmetic of `InetAddress` (`InetAddress.cpp`), netmask bits in the port, and the
managed IPv6 addresses of a network (`makeIpv6rfc4193`, `makeIpv66plane`). A shift whose count
reaches the width is undefined, `none`. -/
namespace V2rayZt.ZeroTier
open V2rayZt.Libzt V2rayZt.BitPrefix

/-- `x >> s` on a `uint32_t`: undefined for a count of 32 or more. -/
def shr32? (x s : UInt32) : Option UInt32 := if s.toNat < 32 then some (x >>> s) else none

namespace InetAddress

/-- `InetAddress::netmask()`. -/
def netmask : InetAddress → Option InetAddress
  | ip@(.v4 p _) => do
    let m ← shl32? 0xffffffff (32 - netmaskBits ip)
    pure (.v4 p (TapDriver.hton32 m))
  | ip@(.v6 p f _ s) =>
    let bits := netmaskBits ip
    if bits ≠ 0 then do
      let m0 ← netmaskHi? bits
      let m1 ← netmaskLo? bits
      pure (.v6 p f (m0.toBitVec ++ m1.toBitVec) s)
    else pure (.v6 p f 0 s)
  | .null => pure .null

/-- `InetAddress::broadcast()`: IPv4 only, and the null address otherwise. -/
def broadcast : InetAddress → Option InetAddress
  | ip@(.v4 p sAddr) => do
    let m ← shr32? 0xffffffff (netmaskBits ip)
    pure (.v4 p (sAddr ||| TapDriver.hton32 m))
  | _ => pure .null

/-- `InetAddress::network()`. Unlike `netmask()` it has no case for 0 bits. -/
def network : InetAddress → Option InetAddress
  | ip@(.v4 p sAddr) => do
    let m ← shl32? 0xffffffff (32 - netmaskBits ip)
    pure (.v4 p (sAddr &&& TapDriver.hton32 m))
  | ip@(.v6 p f a s) => do
    let m0 ← netmaskHi? (netmaskBits ip)
    let m1 ← netmaskLo? (netmaskBits ip)
    pure (.v6 p f (mask6 a m0 m1) s)
  | .null => pure .null

/-- `InetAddress::isEqualPrefix(addr)`: IPv6 only. Each address is masked
with the other's netmask: `a[i] & m[i]` against `b[i] & n[i]`. -/
def isEqualPrefix (this addr : InetAddress) : Option Bool :=
  match this, addr with
  | .v6 p f a s, .v6 p' f' a' s' => do
    let mask ← netmask (.v6 p f a s)
    let addrMask ← netmask (.v6 p' f' a' s')
    pure (a' &&& sin6Addr mask == a &&& sin6Addr addrMask)
  | _, _ => pure false

/-- `InetAddress::containsAddress(addr)`: IPv4 compares the top `bits` bits
in host order; IPv6 compares the masked `addr` with this address as it is. -/
def containsAddress (this addr : InetAddress) : Option Bool :=
  match this, addr with
  | .v4 p a, .v4 _ b =>
    let bits := netmaskBits (.v4 p a)
    if bits = 0 then pure true
    else do
      let x ← shr32? (ntoh32 b) (32 - bits)
      let y ← shr32? (ntoh32 a) (32 - bits)
      pure (x == y)
  | .v6 p f a s, .v6 _ _ b _ => do
    let mask ← netmask (.v6 p f a s)
    pure (b &&& sin6Addr mask == a)
  | _, _ => pure false

/-- `while (p < 16) { if (ip[p++]) return false; }`. -/
def bytesZeroFrom (a : BitVec 128) (p : Nat) : Bool :=
  if p < 16 then s6Byte a p == 0 && bytesZeroFrom a (p + 1) else true
termination_by 16 - p

/-- `InetAddress::isNetwork()`. -/
def isNetwork : InetAddress → Bool
  | ip@(.v4 _ sAddr) =>
    let bits := netmaskBits ip
    if bits ≤ 0 then false
    else if bits ≥ 32 then false
    else (ntoh32 sAddr &&& (0xffffffff >>> bits)) == 0
  | ip@(.v6 _ _ a _) =>
    let bits := netmaskBits ip
    if bits ≤ 0 then false
    else if bits ≥ 128 then false
    else
      let p := bits.toNat / 8
      if (s6Byte a p).toNat &&& (0xff >>> (bits.toNat % 8)) != 0 then false
      else bytesZeroFrom a (p + 1)
  | .null => false

/-- `InetAddress::ipsEqual(a)`: the IP part only; two null addresses are the
same zero bytes. -/
def ipsEqual : InetAddress → InetAddress → Bool
  | .v4 _ a, .v4 _ b => a == b
  | .v6 _ _ a _, .v6 _ _ b _ => a == b
  | .null, .null => true
  | _, _ => false

@[simp] theorem ipsEqual_v4 (p p' : UInt16) (a b : UInt32) : ipsEqual (.v4 p a) (.v4 p' b) = (a == b) := rfl

/-- Sixteen bytes in memory order, read as `sin6_addr`. -/
def ofBytes16 (bs : List UInt8) : BitVec 128 := BitVec.ofNat 128 (Nat.ofDigits 256 (bs.map UInt8.toNat).reverse)

/-- `InetAddress::makeIpv6rfc4193(nwid, zeroTierAddress)`: `fd`, the network
id, `99 93` and the 40-bit address, as a `/88`. -/
def makeIpv6rfc4193 (nwid zeroTierAddress : UInt64) : InetAddress :=
  .v6 (TapDriver.ntoh16 88) 0
    (ofBytes16 [0xfd,(nwid >>> 56).toUInt8,(nwid >>> 48).toUInt8,(nwid >>> 40).toUInt8,(nwid >>> 32).toUInt8,
      (nwid >>> 24).toUInt8,(nwid >>> 16).toUInt8,(nwid >>> 8).toUInt8,nwid.toUInt8,0x99,0x93,
      (zeroTierAddress >>> 32).toUInt8,(zeroTierAddress >>> 24).toUInt8,(zeroTierAddress >>> 16).toUInt8,
      (zeroTierAddress >>> 8).toUInt8,zeroTierAddress.toUInt8]) 0

/-- `InetAddress::makeIpv66plane(nwid, zeroTierAddress)`: `fc`, the network
id folded to 32 bits, the 40-bit address, zeros and a final 1, as a `/40`. -/
def makeIpv66plane (nwid zeroTierAddress : UInt64) : InetAddress :=
  let nwid := nwid ^^^ (nwid >>> 32)
  .v6 (TapDriver.ntoh16 40) 0
    (ofBytes16 [0xfc,(nwid >>> 24).toUInt8,(nwid >>> 16).toUInt8,(nwid >>> 8).toUInt8,nwid.toUInt8,
      (zeroTierAddress >>> 32).toUInt8,(zeroTierAddress >>> 24).toUInt8,(zeroTierAddress >>> 16).toUInt8,
      (zeroTierAddress >>> 8).toUInt8,zeroTierAddress.toUInt8,0,0,0,0,0,0x01]) 0

end InetAddress

/-! ### Byte order -/

/-- Bit `i` of `hton32 x` is bit `i % 8` of byte `3 - i / 8` of `x`. -/
theorem getLsbD_hton32 (x : UInt32) {i : Nat} (hi : i < 32) :
    (TapDriver.hton32 x).toBitVec.getLsbD i = x.toBitVec.getLsbD (8 * (3 - i / 8) + i % 8) := by
  simp [TapDriver.hton32,BitVec.getLsbD_or,BitVec.getLsbD_and,BitVec.getLsbD_shiftLeft,BitVec.getLsbD_ushiftRight]
  interval_cases i <;> simp

theorem hton32_hton32 (x : UInt32) : TapDriver.hton32 (TapDriver.hton32 x) = x := by
  apply UInt32.toBitVec_inj.1
  apply BitVec.eq_of_getLsbD_eq
  intro i hi
  rw [getLsbD_hton32 _ hi,getLsbD_hton32 _ (by omega)]
  congr 1
  omega

theorem hton32_and (x y : UInt32) : TapDriver.hton32 (x &&& y) = TapDriver.hton32 x &&& TapDriver.hton32 y := by
  apply UInt32.toBitVec_inj.1
  apply BitVec.eq_of_getLsbD_eq
  intro i hi
  rw [UInt32.toBitVec_and,BitVec.getLsbD_and,getLsbD_hton32 _ hi,getLsbD_hton32 _ hi,getLsbD_hton32 _ hi,
    UInt32.toBitVec_and,BitVec.getLsbD_and]

theorem hton32_or (x y : UInt32) : TapDriver.hton32 (x ||| y) = TapDriver.hton32 x ||| TapDriver.hton32 y := by
  apply UInt32.toBitVec_inj.1
  apply BitVec.eq_of_getLsbD_eq
  intro i hi
  rw [UInt32.toBitVec_or,BitVec.getLsbD_or,getLsbD_hton32 _ hi,getLsbD_hton32 _ hi,getLsbD_hton32 _ hi,
    UInt32.toBitVec_or,BitVec.getLsbD_or]

theorem one_le_toNat_of_ne_zero {bits : UInt32} (h0 : bits ≠ 0) : 1 ≤ bits.toNat := by
  rw [Nat.one_le_iff_ne_zero]
  exact fun h => h0 (UInt32.toNat_inj.1 h)

/-- Inside the range, `isNetwork()`'s tests `bits <= 0` and `bits >= w` fail. -/
theorem not_le_zero_not_ge {bits w : UInt32} (h1 : 1 ≤ bits.toNat) (hw : bits.toNat < w.toNat) :
    ¬ bits ≤ 0 ∧ ¬ bits ≥ w := by
  rw [ge_iff_le,UInt32.le_iff_toNat_le,UInt32.le_iff_toNat_le,UInt32.toNat_zero]
  omega

namespace InetAddress

/-! ### IPv6 -/

section V6
variable {p : UInt16} {f s : UInt32} {a : BitVec 128}

/-- The netmask of at most 128 bits: the top `bits` bits, none for 0. -/
theorem netmask_v6 (hbits : (netmaskBits (.v6 p f a s)).toNat ≤ 128) :
    netmask (.v6 p f a s) = some (.v6 p f (BitVec.allOnes 128 <<< (128 - (netmaskBits (.v6 p f a s)).toNat)) s) := by
  by_cases h0 : netmaskBits (.v6 p f a s) = 0
  · -- `netmask()` has a case for 0 bits, so no shift by 64 happens
    have hz : BitVec.allOnes 128 <<< (128 - (netmaskBits (.v6 p f a s)).toNat) = 0 := by
      rw [h0]
      decide
    rw [hz]
    simp [netmask,h0]
  · obtain ⟨m0,m1,hm0,hm1,hmask⟩ := netmask_eq (one_le_toNat_of_ne_zero h0) hbits
    simp [netmask,h0,hm0,hm1,hmask]

/-- Past 128 bits the second half's shift is by `128 - bits`, which wraps
around as an `unsigned int`. -/
theorem netmask_v6_eq_none (h128 : 128 < (netmaskBits (.v6 p f a s)).toNat) : netmask (.v6 p f a s) = none := by
  have hlt := (netmaskBits (.v6 p f a s)).toNat_lt
  have h0 : netmaskBits (.v6 p f a s) ≠ 0 := by
    intro h
    rw [h] at h128
    exact absurd h128 (by decide)
  have hwrap : ¬ (128 - netmaskBits (.v6 p f a s)).toNat < 64 := by
    rw [UInt32.toNat_sub]
    simp only [UInt32.reduceToNat]
    omega
  have hlo : netmaskLo? (netmaskBits (.v6 p f a s)) = none := by
    rw [netmaskLo?,if_neg (mt le_64_iff.1 (by omega)),shl64?,if_neg hwrap]
  simp [netmask,h0,hlo]

/-- `network()` from 1 to 128 bits keeps the top `bits` bits. -/
theorem network_v6 (h1 : 1 ≤ (netmaskBits (.v6 p f a s)).toNat) (h128 : (netmaskBits (.v6 p f a s)).toNat ≤ 128) :
    network (.v6 p f a s) = some (.v6 p f (a &&& BitVec.allOnes 128 <<< (128 - (netmaskBits (.v6 p f a s)).toNat)) s) := by
  obtain ⟨m0,m1,hm0,hm1,hmask⟩ := netmask_eq h1 h128
  simp [network,hm0,hm1,mask6,hmask]

/-- With 0 bits `network()` shifts by 64. -/
theorem network_v6_zero (h0 : netmaskBits (.v6 p f a s) = 0) : network (.v6 p f a s) = none := by
  simp [network,h0,netmaskHi?_zero]

/-- An IPv6 route contains an address exactly when the address has the
route's prefix and the route has no host bits. -/
theorem containsAddress_v6 (hbits : (netmaskBits (.v6 p f a s)).toNat ≤ 128) (p' : UInt16) (f' s' : UInt32)
    (b : BitVec 128) :
    containsAddress (.v6 p f a s) (.v6 p' f' b s') =
      some (decide (SamePrefix (netmaskBits (.v6 p f a s)).toNat b a ∧ HostZero (netmaskBits (.v6 p f a s)).toNat a)) := by
  simp only [containsAddress,netmask_v6 hbits,Option.pure_def,Option.bind_eq_bind,Option.bind_some,sin6Addr]
  congr 1
  simp only [← and_mask_eq_iff hbits,beq_eq_decide]

theorem toNat_s6Byte (a : BitVec 128) (q : Nat) : (s6Byte a q).toNat = a.toNat / 2^(8 * (15 - q)) % 256 := by
  simp [s6Byte,Nat.shiftRight_eq_div_pow]

/-- The low `8 * (k + 1)` bits are byte `15 - k` above the low `8 * k`. -/
theorem mod_pow_byte (x k : Nat) :
    x % 2^(8 * (k + 1)) = x % 2^(8 * k) + 2^(8 * k) * (x / 2^(8 * k) % 256) := by
  rw [show 8 * (k + 1) = 8 * k + 8 by omega,Nat.pow_add,Nat.mod_mul]

/-- The byte walk from `q` tests that the last `16 - q` bytes are zero. -/
theorem bytesZeroFrom_iff (a : BitVec 128) {q : Nat} (hq : q ≤ 16) :
    bytesZeroFrom a q = true ↔ a.toNat % 2^(8 * (16 - q)) = 0 := by
  fun_induction bytesZeroFrom a q with
  | case1 q hq16 ih =>
    have hk : 16 - q = 15 - q + 1 := by omega
    rw [Bool.and_eq_true,beq_iff_eq,← UInt8.toNat_inj,toNat_s6Byte,ih (by omega),hk,mod_pow_byte,
      show 16 - (q + 1) = 15 - q by omega]
    have hpos := Nat.two_pow_pos (8 * (15 - q))
    constructor
    · rintro ⟨hb,hr⟩
      rw [hr,hb]
      rfl
    · intro h
      rw [Nat.add_eq_zero_iff,Nat.mul_eq_zero] at h
      exact ⟨h.2.resolve_left (by omega),h.1⟩
  | case2 q hq16 =>
    simp [show 16 - q = 0 by omega,Nat.mod_one]

theorem shiftRight_0xff {r : Nat} (hr : r < 8) : (0xff : Nat) >>> r = 2^(8 - r) - 1 := by
  interval_cases r <;> rfl

/-- `isNetwork()` on an IPv6 address of 1 to 127 bits: the partial byte and
the byte walk after it together test that no host bit is set. -/
theorem isNetwork_v6 (h1 : 1 ≤ (netmaskBits (.v6 p f a s)).toNat) (h127 : (netmaskBits (.v6 p f a s)).toNat ≤ 127) :
    isNetwork (.v6 p f a s) = decide (HostZero (netmaskBits (.v6 p f a s)).toNat a) := by
  obtain ⟨hle,hge⟩ := not_le_zero_not_ge (w := 128) h1 (by simp only [UInt32.reduceToNat]; omega)
  simp only [isNetwork,if_neg hle,if_neg hge]
  generalize hn : (netmaskBits (.v6 p f a s)).toNat = n at *
  -- the byte `n / 8` holds the last `8 - n % 8` host bits of the prefix's byte
  have hdvd : 2^(8 - n % 8) ∣ 256 := Nat.pow_dvd_pow 2 (show 8 - n % 8 ≤ 8 by omega)
  rw [toNat_s6Byte,shiftRight_0xff (Nat.mod_lt _ (by decide)),Nat.and_two_pow_sub_one_eq_mod,
    Nat.mod_mod_of_dvd _ hdvd,Bool.eq_iff_iff,decide_eq_true_iff,hostZero_iff_mod (by omega),
    show 128 - n = 8 * (15 - n / 8) + (8 - n % 8) by omega,Nat.pow_add,Nat.mod_mul]
  by_cases hb : a.toNat / 2^(8 * (15 - n / 8)) % 2^(8 - n % 8) = 0
  · have hw := bytesZeroFrom_iff a (q := n / 8 + 1) (by omega)
    rw [show 16 - (n / 8 + 1) = 15 - n / 8 by omega] at hw
    simp [hb,hw]
  · -- a set bit in the partial byte is a set host bit
    simp [hb]

/-- Two IPv6 addresses of the same netmask bits have an equal prefix when
their first `bits` bits agree; host bits are not read. -/
theorem isEqualPrefix_v6 {p' : UInt16} {f' s' : UInt32} {a' : BitVec 128}
    (hbits : (netmaskBits (.v6 p f a s)).toNat ≤ 128) (hsame : netmaskBits (.v6 p' f' a' s') = netmaskBits (.v6 p f a s)) :
    isEqualPrefix (.v6 p f a s) (.v6 p' f' a' s') =
      some (decide (SamePrefix (netmaskBits (.v6 p f a s)).toNat a' a)) := by
  have hbits' : (netmaskBits (.v6 p' f' a' s')).toNat ≤ 128 := hsame ▸ hbits
  simp only [isEqualPrefix,netmask_v6 hbits,netmask_v6 hbits',hsame,Option.pure_def,Option.bind_eq_bind,
    Option.bind_some,sin6Addr]
  congr 1
  simp only [and_allOnes_shiftLeft_eq_iff_samePrefix hbits,beq_eq_decide]

theorem isEqualPrefix_of_isV6 {ip ip' : InetAddress} (h6 : ip.isV6) (h6' : ip'.isV6)
    (hbits : (netmaskBits ip).toNat ≤ 128) (hsame : netmaskBits ip' = netmaskBits ip) :
    isEqualPrefix ip ip' = some (decide (SamePrefix (netmaskBits ip).toNat (sin6Addr ip') (sin6Addr ip))) := by
  rcases ip with _ | ⟨_,_⟩ | ⟨p,f,a,s⟩ <;> simp only [isV6,Bool.false_eq_true] at h6
  rcases ip' with _ | ⟨_,_⟩ | ⟨p',f',a',s'⟩ <;> simp only [isV6,Bool.false_eq_true] at h6'
  exact isEqualPrefix_v6 hbits hsame

end V6

/-! ### IPv4 -/

section V4
variable {p : UInt16} {a : UInt32}

/-- `32 - bits` as the `unsigned int` the shifts take. -/
theorem toNat_thirtyTwo_sub {bits : UInt32} (h32 : bits.toNat ≤ 32) : (32 - bits).toNat = 32 - bits.toNat :=
  UInt32.toNat_sub_of_le _ _ (by rw [UInt32.le_iff_toNat_le]; simpa using h32)

theorem toBitVec_shiftRight_thirtyTwo_sub {bits : UInt32} (h1 : 1 ≤ bits.toNat) (h32 : bits.toNat ≤ 32) (x : UInt32) :
    (x >>> (32 - bits)).toBitVec = x.toBitVec >>> (32 - bits.toNat) := by
  rw [UInt32.toBitVec_shiftRight,BitVec.ushiftRight_eq',BitVec.toNat_umod,UInt32.toNat_toBitVec,
    toNat_thirtyTwo_sub h32]
  congr 1
  rw [show (32 : BitVec 32).toNat = 32 from rfl]
  omega

/-- `0xffffffff << (32 - bits)`: the top `bits` bits. -/
theorem toBitVec_mask32 {bits : UInt32} (h1 : 1 ≤ bits.toNat) (h32 : bits.toNat ≤ 32) :
    ((0xffffffff : UInt32) <<< (32 - bits)).toBitVec = BitVec.allOnes 32 <<< (32 - bits.toNat) := by
  rw [UInt32.toBitVec_shiftLeft,BitVec.shiftLeft_eq',BitVec.toNat_umod,UInt32.toNat_toBitVec,toNat_thirtyTwo_sub h32]
  congr 1
  rw [show (32 : BitVec 32).toNat = 32 from rfl]
  omega

/-- `0xffffffff >> bits`: the bits past the first `bits`. -/
theorem toBitVec_hostMask32 {bits : UInt32} (h31 : bits.toNat < 32) :
    ((0xffffffff : UInt32) >>> bits).toBitVec = BitVec.allOnes 32 >>> bits.toNat := by
  rw [UInt32.toBitVec_shiftRight,BitVec.ushiftRight_eq',BitVec.toNat_umod,UInt32.toNat_toBitVec]
  congr 1
  rw [show (32 : BitVec 32).toNat = 32 from rfl]
  omega

theorem shr32?_thirtyTwo_sub {bits : UInt32} (h1 : 1 ≤ bits.toNat) (h32 : bits.toNat ≤ 32) (x : UInt32) :
    shr32? x (32 - bits) = some (x >>> (32 - bits)) := by
  rw [shr32?,if_pos (by rw [toNat_thirtyTwo_sub h32]; omega)]

theorem shl32?_thirtyTwo_sub {bits : UInt32} (h1 : 1 ≤ bits.toNat) (h32 : bits.toNat ≤ 32) (x : UInt32) :
    shl32? x (32 - bits) = some (x <<< (32 - bits)) := by
  rw [shl32?,if_pos (by rw [toNat_thirtyTwo_sub h32]; omega)]

/-- An IPv4 route of at most 32 bits contains the addresses whose first
`bits` bits, in host order, are its own; its host bits are not read. -/
theorem containsAddress_v4 (hbits : (netmaskBits (.v4 p a)).toNat ≤ 32) (p' : UInt16) (b : UInt32) :
    containsAddress (.v4 p a) (.v4 p' b) =
      some (decide (SamePrefix (netmaskBits (.v4 p a)).toNat (ntoh32 b).toBitVec (ntoh32 a).toBitVec)) := by
  simp only [containsAddress]
  split_ifs with h0
  · -- a route of 0 bits contains every address
    simp [h0,SamePrefix]
  · have h1 := one_le_toNat_of_ne_zero h0
    simp only [shr32?_thirtyTwo_sub h1 hbits,Option.pure_def,Option.bind_eq_bind,Option.bind_some]
    congr 1
    simp only [samePrefix_iff_ushiftRight hbits,← toBitVec_shiftRight_thirtyTwo_sub h1 hbits,UInt32.toBitVec_inj,
      beq_eq_decide]

/-- `network()` from 1 to 32 bits. -/
theorem network_v4 (h1 : 1 ≤ (netmaskBits (.v4 p a)).toNat) (h32 : (netmaskBits (.v4 p a)).toNat ≤ 32) :
    network (.v4 p a) = some (.v4 p (a &&& TapDriver.hton32 (0xffffffff <<< (32 - netmaskBits (.v4 p a))))) := by
  simp [network,shl32?_thirtyTwo_sub h1 h32]

/-- `isNetwork()` on an IPv4 address of 1 to 31 bits: no host bit is set. -/
theorem isNetwork_v4 (h1 : 1 ≤ (netmaskBits (.v4 p a)).toNat) (h31 : (netmaskBits (.v4 p a)).toNat ≤ 31) :
    isNetwork (.v4 p a) = decide (HostZero (netmaskBits (.v4 p a)).toNat (ntoh32 a).toBitVec) := by
  obtain ⟨hle,hge⟩ := not_le_zero_not_ge (w := 32) h1 (by simp only [UInt32.reduceToNat]; omega)
  simp only [isNetwork,if_neg hle,if_neg hge]
  rw [Bool.eq_iff_iff,beq_iff_eq,decide_eq_true_iff,← and_hostMask_eq_zero_iff,← UInt32.toBitVec_inj,
    UInt32.toBitVec_and,toBitVec_hostMask32 (by omega)]
  rfl

end V4

/-! ### Networks -/

/-- The width of the family's addresses in bits: the most netmask bits an
address of it can have. -/
def familyBits : InetAddress → Nat
  | .v4 .. => 32
  | .v6 .. => 128
  | .null => 0

theorem ntoh32_and_hton32 (a m : UInt32) : ntoh32 (a &&& TapDriver.hton32 m) = ntoh32 a &&& m := by
  rw [ntoh32,ntoh32,hton32_and,hton32_hton32]

theorem ntoh32_inj {x y : UInt32} : ntoh32 x = ntoh32 y ↔ x = y := by
  constructor
  · intro h
    rw [← hton32_hton32 x,← hton32_hton32 y]
    exact congrArg TapDriver.hton32 h
  · rintro rfl
    rfl

/-- Masking in network order with `hton(m)` keeps `a` exactly when masking
in host order with `m` does. -/
theorem and_hton32_eq_self_iff (a m : UInt32) : a &&& TapDriver.hton32 m = a ↔ ntoh32 a &&& m = ntoh32 a := by
  rw [← ntoh32_and_hton32,ntoh32_inj]

section Fixed
variable {p : UInt16} {f s a : UInt32} {x : BitVec 128}

theorem network_eq_self_v4 (h1 : 1 ≤ (netmaskBits (.v4 p a)).toNat) (h32 : (netmaskBits (.v4 p a)).toNat ≤ 32) :
    network (.v4 p a) = some (.v4 p a) ↔ HostZero (netmaskBits (.v4 p a)).toNat (ntoh32 a).toBitVec := by
  rw [network_v4 h1 h32,Option.some_inj,InetAddress.v4.injEq,and_hton32_eq_self_iff,← UInt32.toBitVec_inj,
    UInt32.toBitVec_and,toBitVec_mask32 h1 h32,and_mask_eq_iff h32]
  simp

theorem network_eq_self_v6 (h1 : 1 ≤ (netmaskBits (.v6 p f x s)).toNat) (h128 : (netmaskBits (.v6 p f x s)).toNat ≤ 128) :
    network (.v6 p f x s) = some (.v6 p f x s) ↔ HostZero (netmaskBits (.v6 p f x s)).toNat x := by
  rw [network_v6 h1 h128,Option.some_inj,InetAddress.v6.injEq,and_mask_eq_iff h128]
  simp

end Fixed

/-- `isNetwork()`'s tests, a shift and mask for IPv4 and a byte walk for
IPv6, hold exactly when `network()` gives the address back, for every
netmask short of the family's width. -/
theorem isNetwork_iff_network_eq {ip : InetAddress} (h1 : 1 ≤ (netmaskBits ip).toNat)
    (hw : (netmaskBits ip).toNat < familyBits ip) : isNetwork ip = true ↔ network ip = some ip := by
  cases ip with
  | null => simp [familyBits] at hw
  | v4 p a =>
    simp only [familyBits] at hw
    rw [isNetwork_v4 h1 (by omega),decide_eq_true_iff,network_eq_self_v4 h1 (by omega)]
  | v6 p f x s =>
    simp only [familyBits] at hw
    rw [isNetwork_v6 h1 (by omega),decide_eq_true_iff,network_eq_self_v6 h1 (by omega)]

theorem isNetwork_iff_network_eq_ten_slash_eight :
    (1 ≤ (netmaskBits (.v4 (TapDriver.ntoh16 8) 0x0000000a)).toNat ∧
      (netmaskBits (.v4 (TapDriver.ntoh16 8) 0x0000000a)).toNat < familyBits (.v4 (TapDriver.ntoh16 8) 0x0000000a)) ∧
    (isNetwork (.v4 (TapDriver.ntoh16 8) 0x0000000a) = true ↔
      network (.v4 (TapDriver.ntoh16 8) 0x0000000a) = some (.v4 (TapDriver.ntoh16 8) 0x0000000a)) :=
  ⟨⟨by decide,by decide⟩,isNetwork_iff_network_eq (by decide) (by decide)⟩

/-- Every address of 1 bit up to its family's width lies in its `network()`,
which `network()` leaves as it is. -/
theorem network_contains_self {ip : InetAddress} (h1 : 1 ≤ (netmaskBits ip).toNat)
    (hw : (netmaskBits ip).toNat ≤ familyBits ip) :
    ∃ n, network ip = some n ∧ containsAddress n ip = some true ∧ network n = some n := by
  cases ip with
  | null => exact absurd h1 (by decide)
  | v4 p a =>
    simp only [familyBits] at hw
    -- the network keeps the port, so its netmask bits are the address's
    have hb (b : UInt32) : netmaskBits (.v4 p b) = netmaskBits (.v4 p a) := rfl
    refine ⟨_,network_v4 h1 hw,?_,?_⟩
    · have hpre := ((and_mask_eq_iff hw).1 (rfl : (ntoh32 a).toBitVec &&& BitVec.allOnes 32 <<< (32 - (netmaskBits (.v4 p a)).toNat) = _)).1
      rw [containsAddress_v4 (a := a &&& _) ((hb _).symm ▸ hw)]
      simpa [hb,ntoh32_and_hton32,toBitVec_mask32 h1 hw] using hpre
    · rw [network_v4 (a := a &&& _) ((hb _).symm ▸ h1) ((hb _).symm ▸ hw),hb (a &&& _),UInt32.and_assoc,
      UInt32.and_self]
  | v6 p f x s =>
    simp only [familyBits] at hw
    have hb (y : BitVec 128) : netmaskBits (.v6 p f y s) = netmaskBits (.v6 p f x s) := rfl
    refine ⟨_,network_v6 h1 hw,?_,?_⟩
    · rw [containsAddress_v6 (a := x &&& _) ((hb _).symm ▸ hw)]
      simpa [hb] using (and_mask_eq_iff hw).1 rfl
    · rw [network_v6 (a := x &&& _) ((hb _).symm ▸ h1) ((hb _).symm ▸ hw),hb (x &&& _),BitVec.and_assoc,
      BitVec.and_self]

theorem network_contains_self_ula :
    (1 ≤ (netmaskBits (.v6 (TapDriver.ntoh16 88) 0 0xfd000000000000000000000000000001 0)).toNat ∧
      (netmaskBits (.v6 (TapDriver.ntoh16 88) 0 0xfd000000000000000000000000000001 0)).toNat ≤
        familyBits (.v6 (TapDriver.ntoh16 88) 0 0xfd000000000000000000000000000001 0)) ∧
    ∃ n, network (.v6 (TapDriver.ntoh16 88) 0 0xfd000000000000000000000000000001 0) = some n ∧
      containsAddress n (.v6 (TapDriver.ntoh16 88) 0 0xfd000000000000000000000000000001 0) = some true ∧
      network n = some n :=
  ⟨⟨by decide,by decide⟩,network_contains_self (by decide) (by decide)⟩

/-! ### Managed addresses -/

section Managed
variable (nwid zeroTierAddress : UInt64)

/-- The value of the rfc4193 address: `fd`, the network id, `99 93` and the
low 40 bits of the node address. -/
theorem toNat_rfc4193 :
    (sin6Addr (makeIpv6rfc4193 nwid zeroTierAddress)).toNat =
      0xfd * 2^120 + nwid.toNat * 2^56 + 0x9993 * 2^40 + zeroTierAddress.toNat % 2^40 := by
  have hn := nwid.toNat_lt
  simp only [makeIpv6rfc4193,sin6Addr,ofBytes16,List.map_cons,List.map_nil,List.reverse_cons,List.reverse_nil,
    List.nil_append,List.cons_append,Nat.ofDigits_cons,Nat.ofDigits_nil,BitVec.toNat_ofNat,UInt64.toNat_toUInt8,
    UInt64.toNat_shiftRight,Nat.shiftRight_eq_div_pow,UInt8.toNat_ofNat,UInt64.reduceToNat,Nat.reduceMod,
    Nat.reducePow,Nat.reduceMul]
  omega

/-- The value of the 6PLANE address: `fc`, the network id folded to 32 bits,
the low 40 bits of the node address, zeros and a final 1. -/
theorem toNat_6plane :
    (sin6Addr (makeIpv66plane nwid zeroTierAddress)).toNat =
      0xfc * 2^120 + (nwid ^^^ nwid >>> 32).toNat % 2^32 * 2^88 + zeroTierAddress.toNat % 2^40 * 2^48 + 1 := by
  simp only [makeIpv66plane,sin6Addr,ofBytes16,List.map_cons,List.map_nil,List.reverse_cons,List.reverse_nil,
    List.nil_append,List.cons_append,Nat.ofDigits_cons,Nat.ofDigits_nil,BitVec.toNat_ofNat,UInt64.toNat_toUInt8,
    UInt64.toNat_shiftRight,Nat.shiftRight_eq_div_pow,UInt8.toNat_ofNat,UInt64.reduceToNat,Nat.reduceMod,
    Nat.reducePow,Nat.reduceMul]
  omega

theorem netmaskBits_rfc4193 : netmaskBits (makeIpv6rfc4193 nwid zeroTierAddress) = 88 := rfl

theorem netmaskBits_6plane : netmaskBits (makeIpv66plane nwid zeroTierAddress) = 40 := rfl

/-- Two rfc4193 addresses have an equal prefix exactly when they are of the
same network, whatever their node addresses: the `/88` holds `fd`, the whole
network id and `99 93`. -/
theorem isEqualPrefix_rfc4193 (nwid' zeroTierAddress' : UInt64) :
    isEqualPrefix (makeIpv6rfc4193 nwid zeroTierAddress) (makeIpv6rfc4193 nwid' zeroTierAddress') =
      some (nwid' == nwid) := by
  rw [isEqualPrefix_of_isV6 rfl rfl (by rw [netmaskBits_rfc4193]; decide) (by rw [netmaskBits_rfc4193,netmaskBits_rfc4193])]
  simp only [netmaskBits_rfc4193,UInt32.reduceToNat]
  congr 1
  rw [beq_eq_decide]
  refine decide_eq_decide.2 ?_
  rw [samePrefix_iff_div (by decide),toNat_rfc4193,toNat_rfc4193,← UInt64.toNat_inj]
  omega

/-- Two 6PLANE addresses have an equal prefix exactly when their network ids
fold to the same 32 bits, `nwid ^ (nwid >> 32)`: the `/40` holds `fc` and
the fold, so every network shares its prefix with the networks whose ids
fold alike. -/
theorem isEqualPrefix_6plane (nwid' zeroTierAddress' : UInt64) :
    isEqualPrefix (makeIpv66plane nwid zeroTierAddress) (makeIpv66plane nwid' zeroTierAddress') =
      some ((nwid' ^^^ nwid' >>> 32).toUInt32 == (nwid ^^^ nwid >>> 32).toUInt32) := by
  rw [isEqualPrefix_of_isV6 rfl rfl (by rw [netmaskBits_6plane]; decide) (by rw [netmaskBits_6plane,netmaskBits_6plane])]
  simp only [netmaskBits_6plane,UInt32.reduceToNat]
  congr 1
  rw [beq_eq_decide]
  refine decide_eq_decide.2 ?_
  rw [samePrefix_iff_div (by decide),toNat_6plane,toNat_6plane,← UInt32.toNat_inj,UInt64.toNat_toUInt32,
    UInt64.toNat_toUInt32]
  omega

end Managed

end InetAddress

end V2rayZt.ZeroTier
