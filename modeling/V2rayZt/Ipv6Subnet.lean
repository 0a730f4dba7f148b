import V2rayZt.VirtualTap
import V2rayZt.Lib.BitPrefix

/-! `_ipv6_in_subnet(subnet, addr)` (`ZT1Service.cpp`): both addresses masked by 64-bit halves and
compared as text. For 1 to 128 bits it is the prefix test; for 0 bits the shift by 64 is
undefined, `none`. -/
namespace V2rayZt.Libzt
open V2rayZt.ZeroTier V2rayZt.BitPrefix

/-- `InetAddress::port()`, in host order; `netmaskBits()` returns it. -/
def port : InetAddress → UInt32
  | .v4 p _ => (TapDriver.ntoh16 p).toUInt32
  | .v6 p _ _ _ => (TapDriver.ntoh16 p).toUInt32
  | .null => 0

/-- `InetAddress::netmaskBits()`. -/
def netmaskBits (ip : InetAddress) : UInt32 := port ip

/-- `x << s` on a `uint64_t` by an `unsigned int` count: undefined for a
count of 64 or more. -/
def shl64? (x : UInt64) (s : UInt32) : Option UInt64 := if s.toNat < 64 then some (x <<< s.toUInt64) else none

/-- The mask of `nm[0]`, the first eight bytes. -/
def netmaskHi? (bits : UInt32) : Option UInt64 :=
  if bits ≥ 64 then some 0xffffffffffffffff else shl64? 0xffffffffffffffff (64 - bits)

/-- The mask of `nm[1]`, the last eight bytes. -/
def netmaskLo? (bits : UInt32) : Option UInt64 :=
  if bits ≤ 64 then some 0 else shl64? 0xffffffffffffffff (128 - bits)

/-- `sin6_addr` read from an address's storage: the address of an IPv6 one,
and zero bytes for another family, whose storage the constructors clear. -/
def sin6Addr : InetAddress → BitVec 128
  | .v6 _ _ a _ => a
  | _ => 0

/-- The `memcpy` of a masked `sin6_addr` back into an address's storage. For
an IPv4 address it lands past `sin_addr`, where `toIpString` does not read. -/
def setSin6Addr : InetAddress → BitVec 128 → InetAddress
  | .v6 p f _ s, a => .v6 p f a s
  | ip, _ => ip

/-- `nm[0] &= hton(m0); nm[1] &= hton(m1)` on the sixteen bytes of an address
copied into `uint64_t nm[2]`. `hton` lays each mask out most significant
byte first, the order of the address's bytes, and `&` acts byte by byte, so
the two `&=` mask the big-endian address with `m0` and `m1` side by side. -/
def mask6 (a : BitVec 128) (m0 m1 : UInt64) : BitVec 128 := a &&& (m0.toBitVec ++ m1.toBitVec)

/-- `Utils::HEXCHARS`. -/
def hexChars : List Char := ['0','1','2','3','4','5','6','7','8','9','a','b','c','d','e','f']

/-- `Utils::hex(uint16_t i, s)`: four digits, most significant first. -/
def hex16 (i : Nat) : List Char := [12,8,4,0].map fun s => hexChars.getD (i >>> s &&& 0xf) '0'

/-- `ntoh(a[i])` of the `uint16_t a[8]` copied from `sin6_addr`: bytes `2i`
and `2i + 1`, big-endian. -/
def group6 (a : BitVec 128) (i : Nat) : Nat := a.toNat >>> (16 * (7 - i)) % 2^16

/-- `InetAddress::toIpString(buf)`: the bytes of `s_addr` in decimal with
dots, the groups of `sin6_addr` in four hex digits with colons, and the
cleared buffer for another family. -/
def toIpString : InetAddress → String
  | .v4 _ sAddr => String.intercalate "." ((List.range 4).map fun i => Nat.repr (sAddr.toNat >>> (8 * i) % 256))
  | .v6 _ _ a _ => String.ofList ([':'].intercalate ((List.range 8).map fun i => hex16 (group6 a i)))
  | .null => ""

/-- `_ipv6_in_subnet(subnet, addr)`; `none` where a shift is undefined.
`!strcmp` of the two texts is their equality: neither holds a NUL. -/
def ipv6InSubnet (subnet addr : InetAddress) : Option Bool := do
  let bits := netmaskBits subnet
  let (r,b) ← match addr with
    | .v4 p sAddr => do
      let m ← shl32? 0xffffffff (32 - bits)
      pure (InetAddress.v4 p (sAddr &&& TapDriver.hton32 m),subnet)
    | .v6 .. => do
      let m0 ← netmaskHi? bits
      let m1 ← netmaskLo? bits
      pure (setSin6Addr addr (mask6 (sin6Addr addr) m0 m1),setSin6Addr subnet (mask6 (sin6Addr subnet) m0 m1))
    | .null => pure (addr,subnet)
  pure (toIpString r == toIpString b)

/-! ### The text of an IPv6 address determines it -/

theorem intercalate_inj_of_length {α : Type*} {sep : List α} {k : Nat} :
    ∀ {L M : List (List α)}, L.length = M.length → (∀ x ∈ L, x.length = k) → (∀ x ∈ M, x.length = k) →
      sep.intercalate L = sep.intercalate M → L = M
  | [], [], _, _, _, _ => rfl
  | [x], [y], _, _, _, h => by rwa [List.intercalate_singleton,List.intercalate_singleton,← List.singleton_inj] at h
  | x :: x' :: L, y :: y' :: M, hlen, hL, hM, h => by
    rw [List.intercalate_cons_cons,List.intercalate_cons_cons,List.append_assoc,List.append_assoc] at h
    obtain ⟨rfl,hrest⟩ := List.append_inj h (by rw [hL x (by simp),hM y (by simp)])
    have ih := intercalate_inj_of_length (by simpa using hlen) (fun z hz => hL z (List.mem_cons_of_mem x hz))
      (fun z hz => hM z (List.mem_cons_of_mem x hz)) (List.append_cancel_left hrest)
    rw [ih]
  | [], _ :: _, hlen, _, _, _ | _ :: _, [], hlen, _, _, _ | [_], _ :: _ :: _, hlen, _, _, _
  | _ :: _ :: _, [_], hlen, _, _, _ => by simp at hlen

theorem length_hex16 (i : Nat) : (hex16 i).length = 4 := rfl

theorem hexChars_injective : ∀ n < 16, ∀ m < 16, hexChars.getD n '0' = hexChars.getD m '0' → n = m := by
  decide

theorem nibble_eq (i s : Nat) : i >>> s &&& 0xf = i / 2^s % 16 := by
  rw [Nat.shiftRight_eq_div_pow,show (0xf : Nat) = 2^4 - 1 from rfl,Nat.and_two_pow_sub_one_eq_mod]

/-- Four hex digits determine a 16-bit value. -/
theorem hex16_injective {i j : Nat} (hi : i < 2^16) (hj : j < 2^16) (h : hex16 i = hex16 j) : i = j := by
  simp only [hex16,List.map_cons,List.map_nil,List.cons.injEq,and_true,nibble_eq] at h
  obtain ⟨h12,h8,h4,h0⟩ := h
  have e12 := hexChars_injective _ (Nat.mod_lt _ (by decide)) _ (Nat.mod_lt _ (by decide)) h12
  have e8 := hexChars_injective _ (Nat.mod_lt _ (by decide)) _ (Nat.mod_lt _ (by decide)) h8
  have e4 := hexChars_injective _ (Nat.mod_lt _ (by decide)) _ (Nat.mod_lt _ (by decide)) h4
  have e0 := hexChars_injective _ (Nat.mod_lt _ (by decide)) _ (Nat.mod_lt _ (by decide)) h0
  simp only [Nat.pow_zero,Nat.div_one] at e0
  omega

theorem group6_lt (a : BitVec 128) (i : Nat) : group6 a i < 2^16 := Nat.mod_lt _ (Nat.two_pow_pos 16)

/-- Agreeing groups from the first on give agreeing prefixes, one group longer
at each step: the value above group `k` and the group make the value above
group `k + 1`. -/
theorem div_eq_of_group6_eq {a b : BitVec 128} (h : ∀ i < 8, group6 a i = group6 b i) :
    ∀ k ≤ 8, a.toNat / 2^(16 * (8 - k)) = b.toNat / 2^(16 * (8 - k))
  | 0, _ => by
    -- nothing lies above the first group
    rw [Nat.div_eq_of_lt a.isLt,Nat.div_eq_of_lt b.isLt]
  | k + 1, hk => by
    have ih := div_eq_of_group6_eq h k (by omega)
    have hg := h k (by omega)
    have hsplit (x : Nat) :
        x / 2^(16 * (8 - (k + 1))) = 2^16 * (x / 2^(16 * (8 - k))) + x >>> (16 * (7 - k)) % 2^16 := by
      have hpow : 2^(16 * (8 - k)) = 2^(16 * (8 - (k + 1))) * 2^16 := by
        rw [← Nat.pow_add]
        congr 1
        omega
      rw [hpow,← Nat.div_div_eq_div_mul,Nat.shiftRight_eq_div_pow,show 7 - k = 8 - (k + 1) by omega,
        Nat.div_add_mod]
    rw [hsplit,hsplit,ih]
    exact congrArg _ hg

/-- The eight groups determine the address. -/
theorem eq_of_group6_eq {a b : BitVec 128} (h : ∀ i < 8, group6 a i = group6 b i) : a = b := by
  have h8 := div_eq_of_group6_eq h 8 le_rfl
  simp only [Nat.sub_self,Nat.mul_zero,Nat.pow_zero,Nat.div_one] at h8
  exact BitVec.eq_of_toNat_eq h8

/-- `toIpString` of an IPv6 address reads its `sin6_addr` and nothing else,
and tells every two such addresses apart. -/
theorem toIpString_v6_eq_iff {p p' : UInt16} {f f' s s' : UInt32} {a a' : BitVec 128} :
    toIpString (.v6 p f a s) = toIpString (.v6 p' f' a' s') ↔ a = a' := by
  constructor
  · intro h
    have hlists := intercalate_inj_of_length (by simp) (k := 4) (by simp [length_hex16])
      (by simp [length_hex16]) (String.ofList_injective h)
    apply eq_of_group6_eq
    intro i hi
    have hi' := congrArg (fun L => L.getD i []) hlists
    simp only [List.getD_eq_getElem?_getD,List.getElem?_map,List.getElem?_range hi,Option.map_some,
      Option.getD_some] at hi'
    exact hex16_injective (group6_lt a i) (group6_lt a' i) hi'
  · rintro rfl
    rfl

/-! ### The masks -/

theorem shl64?_of_lt {x : UInt64} {s : UInt32} (hs : s.toNat < 64) : shl64? x s = some (x <<< s.toUInt64) :=
  if_pos hs

/-- `~0ULL << s` for a defined count: the top `64 - s` bits. -/
theorem toNat_allOnes_shiftLeft64 {s : UInt32} (hs : s.toNat < 64) :
    ((0xffffffffffffffff : UInt64) <<< s.toUInt64).toNat = 2^64 - 2^s.toNat := by
  have hP : 1 ≤ 2^s.toNat := Nat.one_le_two_pow
  have hP' : 2^s.toNat ≤ 2^63 := Nat.pow_le_pow_right (by decide) (by omega)
  simp only [UInt64.toNat_shiftLeft,UInt32.toNat_toUInt64,Nat.mod_eq_of_lt hs,Nat.shiftLeft_eq]
  simp only [UInt64.toNat_ofNat,Nat.reducePow,Nat.reduceMod]
  omega

/-- The top `128 - k` bits of 128. -/
theorem toNat_allOnes_shiftLeft128 {k : Nat} (hk : k ≤ 128) :
    (BitVec.allOnes 128 <<< k).toNat = 2^128 - 2^k := by
  have hP : 1 ≤ 2^k := Nat.one_le_two_pow
  have hP' : 2^k ≤ 2^128 := Nat.pow_le_pow_right (by decide) hk
  simp only [BitVec.toNat_shiftLeft,BitVec.toNat_allOnes,Nat.shiftLeft_eq,Nat.reducePow]
  omega

theorem ge_64_iff {bits : UInt32} : bits ≥ 64 ↔ 64 ≤ bits.toNat := by
  rw [ge_iff_le,UInt32.le_iff_toNat_le]
  rfl

theorem le_64_iff {bits : UInt32} : bits ≤ 64 ↔ bits.toNat ≤ 64 := by
  rw [UInt32.le_iff_toNat_le]
  rfl

/-- The first half's mask from 1 bit on: its top `min bits 64` bits. -/
theorem netmaskHi?_eq {bits : UInt32} (h1 : 1 ≤ bits.toNat) :
    ∃ m0, netmaskHi? bits = some m0 ∧ m0.toNat = 2^64 - 2^(64 - min bits.toNat 64) := by
  by_cases h64 : 64 ≤ bits.toNat
  · refine ⟨0xffffffffffffffff,by rw [netmaskHi?,if_pos (ge_64_iff.2 h64)],?_⟩
    rw [Nat.min_eq_right h64]
    rfl
  · have hs : (64 - bits).toNat = 64 - bits.toNat :=
      UInt32.toNat_sub_of_le _ _ (by rw [UInt32.le_iff_toNat_le]; simp; omega)
    refine ⟨_,by rw [netmaskHi?,if_neg (mt ge_64_iff.1 h64),shl64?_of_lt (by omega)],?_⟩
    rw [toNat_allOnes_shiftLeft64 (by omega),hs,Nat.min_eq_left (by omega)]

/-- The second half's mask up to 128 bits: its top `max bits 64 - 64` bits. -/
theorem netmaskLo?_eq {bits : UInt32} (h128 : bits.toNat ≤ 128) :
    ∃ m1, netmaskLo? bits = some m1 ∧ m1.toNat = 2^64 - 2^(128 - max bits.toNat 64) := by
  by_cases h64 : bits.toNat ≤ 64
  · refine ⟨0,by rw [netmaskLo?,if_pos (le_64_iff.2 h64)],?_⟩
    rw [Nat.max_eq_right h64]
    rfl
  · have hs : (128 - bits).toNat = 128 - bits.toNat :=
      UInt32.toNat_sub_of_le _ _ (by rw [UInt32.le_iff_toNat_le]; simp; omega)
    refine ⟨_,by rw [netmaskLo?,if_neg (mt le_64_iff.1 h64),shl64?_of_lt (by omega)],?_⟩
    rw [toNat_allOnes_shiftLeft64 (by omega),hs,Nat.max_eq_left (by omega)]

/-- For 1 to 128 bits both masks are defined and side by side make the mask
of the top `bits` bits. -/
theorem netmask_eq {bits : UInt32} (h1 : 1 ≤ bits.toNat) (h128 : bits.toNat ≤ 128) :
    ∃ m0 m1, netmaskHi? bits = some m0 ∧ netmaskLo? bits = some m1 ∧
      m0.toBitVec ++ m1.toBitVec = BitVec.allOnes 128 <<< (128 - bits.toNat) := by
  obtain ⟨m0,hm0,hv0⟩ := netmaskHi?_eq h1
  obtain ⟨m1,hm1,hv1⟩ := netmaskLo?_eq h128
  refine ⟨m0,m1,hm0,hm1,?_⟩
  apply BitVec.eq_of_toNat_eq
  rw [toNat_allOnes_shiftLeft128 (by omega),BitVec.toNat_append,UInt64.toNat_toBitVec,UInt64.toNat_toBitVec,
    ← Nat.shiftLeft_add_eq_or_of_lt m1.toNat_lt,Nat.shiftLeft_eq,hv0,hv1]
  -- the top `bits` bits split at 64: all of one half and the top of the other
  by_cases h64 : 64 ≤ bits.toNat
  · have hQ1 : 1 ≤ 2^(128 - bits.toNat) := Nat.one_le_two_pow
    have hQ2 : 2^(128 - bits.toNat) ≤ 2^64 := Nat.pow_le_pow_right (by decide) (by omega)
    rw [Nat.min_eq_right h64,Nat.max_eq_left h64]
    simp only [Nat.sub_self,Nat.pow_zero,Nat.reducePow] at hQ2 ⊢
    omega
  · have hP : 2^(128 - bits.toNat) = 2^(64 - bits.toNat) * 2^64 := by
      rw [← Nat.pow_add]
      congr 1
      omega
    have hP1 : 1 ≤ 2^(64 - bits.toNat) := Nat.one_le_two_pow
    have hP2 : 2^(64 - bits.toNat) ≤ 2^63 := Nat.pow_le_pow_right (by decide) (by omega)
    rw [Nat.min_eq_left (by omega),Nat.max_eq_right (by omega),hP]
    simp only [Nat.reduceSub,Nat.reducePow] at hP2 ⊢
    omega

/-- With 0 bits the first half's shift is by 64. -/
theorem netmaskHi?_zero : netmaskHi? 0 = none := by decide

/-! ### The prefix test -/

theorem ipv6InSubnet_v6 {subnet : InetAddress} {ap af aa as} (m0 m1 : UInt64)
    (hm0 : netmaskHi? (netmaskBits subnet) = some m0) (hm1 : netmaskLo? (netmaskBits subnet) = some m1) :
    ipv6InSubnet subnet (.v6 ap af aa as) =
      some (toIpString (.v6 ap af (mask6 aa m0 m1) as) == toIpString (setSin6Addr subnet (mask6 (sin6Addr subnet) m0 m1))) := by
  simp only [ipv6InSubnet,hm0,hm1]
  rfl

theorem ipv6InSubnet_eq_prefix {subnet addr : InetAddress} (hs : subnet.isV6) (ha : addr.isV6)
    (hbits : (netmaskBits subnet).toNat ≤ 128) :
    ipv6InSubnet subnet addr =
      if netmaskBits subnet = 0 then none
      else some (decide (SamePrefix (netmaskBits subnet).toNat (sin6Addr addr) (sin6Addr subnet))) := by
  rcases subnet with _ | ⟨_,_⟩ | ⟨sp,sf,sa,ss⟩ <;> simp only [InetAddress.isV6,Bool.false_eq_true] at hs
  rcases addr with _ | ⟨_,_⟩ | ⟨ap,af,aa,as⟩ <;> simp only [InetAddress.isV6,Bool.false_eq_true] at ha
  split_ifs with h0
  · -- the first half's mask is `0xffffffffffffffffULL << 64`
    simp [ipv6InSubnet,h0,netmaskHi?_zero]
  · have h1 : 1 ≤ (netmaskBits (.v6 sp sf sa ss)).toNat := by
      rw [Nat.one_le_iff_ne_zero]
      intro h
      exact h0 (UInt32.toNat_inj.1 h)
    obtain ⟨m0,m1,hm0,hm1,hmask⟩ := netmask_eq h1 hbits
    rw [ipv6InSubnet_v6 m0 m1 hm0 hm1]
    apply congrArg some
    rw [Bool.eq_iff_iff,beq_iff_eq,decide_eq_true_iff,setSin6Addr,sin6Addr,sin6Addr,toIpString_v6_eq_iff,mask6,
      mask6,hmask]
    exact and_allOnes_shiftLeft_eq_iff_samePrefix hbits

theorem ipv6InSubnet_eq_prefix_default_route :
    ipv6InSubnet (.v6 0 0 0 0) (.v6 0 0 0x20010db8000000000000000000000001 0) =
      if netmaskBits (.v6 0 0 0 0) = 0 then none
      else some (decide (SamePrefix (netmaskBits (.v6 0 0 0 0)).toNat
        (sin6Addr (.v6 0 0 0x20010db8000000000000000000000001 0)) (sin6Addr (.v6 0 0 0 0)))) :=
  ipv6InSubnet_eq_prefix rfl rfl (by decide)

end V2rayZt.Libzt
