import V2rayZt.Ipv6Subnet
import V2rayZt.EthFrame
import V2rayZt.Lib.CString

/-! The text form of `InetAddress` (`InetAddress.cpp`): `toString`, and `fromString` through
`Utils::scopy`, `stok`, `strToUInt` and `hexStrToUInt`. Every address the text can carry
comes back from its own text. -/
namespace V2rayZt.ZeroTier
open V2rayZt.CString V2rayZt.Libzt

namespace Utils

/-- `unsigned long` on the LP64 targets, 64-bit Linux and Android. -/
def ulongBits : Nat := 64

/-- `Utils::strToUInt(s)`: `strtoul` in base 10, cast to `unsigned int`. -/
def strToUInt (s : List Char) : Nat := strtoul ulongBits 10 s % 2^32

/-- `Utils::hexStrToUInt(s)`: `strtoul` in base 16, cast to `unsigned int`. -/
def hexStrToUInt (s : List Char) : Nat := strtoul ulongBits 16 s % 2^32

/-- `_Utils_itoa(n, s)`: the decimal digits of `n`, most significant first,
and none for 0. A 64-bit value has at most 20 digits, so the clamp of the
position at 22 never applies. -/
def itoa (n : Nat) : List Char :=
  if n = 0 then [] else itoa (n / 10) ++ [Char.ofNat ('0'.toNat + n % 10)]
decreasing_by omega

/-- `Utils::decimal(n, s)`. -/
def decimal (n : UInt64) : List Char := if n = 0 then ['0'] else itoa n.toNat

/-- The copy loop of `Utils::scopy` with `room` bytes of `dest` left: a
character that fills the last byte is overwritten by the NUL. -/
def scopyLoop (room : Nat) : List Char → Bool × List Char
  | [] => (true,[])
  | c :: cs =>
    if room = 1 then (false,[])
    else
      let r := scopyLoop (room - 1) cs
      (r.1,c :: r.2)

/-- `Utils::scopy(dest, len, src)`: the return value and the string in `dest`. -/
def scopy (dest : List Char) (len : Nat) (src : List Char) : Bool × List Char :=
  if len = 0 then (false,dest) else scopyLoop len src

end Utils

namespace InetAddress

/-- `InetAddress::toString(buf)`. -/
def toString (ip : InetAddress) : List Char :=
  let s := (toIpString ip).toList
  if s = [] then s else s ++ '/' :: Utils.decimal (port ip).toUInt64

/-- The text before the first `/`, where `fromString` writes its NUL. -/
def ipPart (buf : List Char) : List Char := buf.takeWhile (· != '/')

/-- The port after the first `/`, and 0 without one. -/
def portPart (buf : List Char) : Nat :=
  match buf.dropWhile (· != '/') with
  | [] => 0
  | _ :: portAt => Utils.strToUInt portAt &&& 0xffff

/-- The IPv6 branch's loop: at most eight tokens between `:`, each in hex. -/
def v6Groups (ip : List Char) : List Nat :=
  stokLoop (· == ':') (fun s => Utils.hexStrToUInt s &&& 0xffff) 8 ip

/-- The IPv4 branch's loop: at most four tokens between `.`, each in decimal. -/
def v4Bytes (ip : List Char) : List Nat :=
  stokLoop (· == '.') (fun s => Utils.strToUInt s &&& 0xff) 4 ip

/-- `sin6_addr` after the `memcpy` of `uint16_t a[8]` whose entries were
stored with `hton`: the groups, most significant first. -/
def ofGroups (gs : List Nat) : BitVec 128 := BitVec.ofNat 128 (Nat.ofDigits (2^16) gs.reverse)

/-- `s_addr` after the `memcpy` of `uint8_t a[4]` on a little-endian host. -/
def ofBytes (bs : List Nat) : UInt32 := UInt32.ofNat (Nat.ofDigits 256 bs)

/-- `InetAddress::fromString(ipSlashPort)`: the return value and the address.
The object is cleared first, so every `false` leaves the null address, and
the flow label and scope id of an IPv6 result are zero. `Utils::hton` of a
16-bit port is the byte swap `ntoh16`. The groups go into `uint16_t a[8]` and
the bytes into `uint8_t a[4]`, neither cleared first: a field the text does
not give (any IPv6 text with `::`) keeps what the stack held, `junk6` and
`junk4`. -/
def fromString (junk4 : Nat → UInt8) (junk6 : Nat → UInt16) (ipSlashPort : List Char) : Bool × InetAddress :=
  if ipSlashPort = [] then (true,.null)
  else
    -- `char buf[64]`; its earlier contents are read only when `scopy` gets no room
    let (ok,buf) := Utils.scopy [] 64 ipSlashPort
    if !ok then (false,.null)
    else
      let ip := ipPart buf
      let port := portPart buf
      if ':' ∈ ip then
        let a := v6Groups ip
        (true,.v6 (TapDriver.ntoh16 (UInt16.ofNat port)) 0
          (ofGroups ((List.range 8).map fun b => a.getD b (junk6 b).toNat)) 0)
      else if '.' ∈ ip then
        let a := v4Bytes ip
        (true,.v4 (TapDriver.ntoh16 (UInt16.ofNat port))
          (ofBytes ((List.range 4).map fun b => a.getD b (junk4 b).toNat)))
      else (false,.null)

end InetAddress

/-! ### The utilities -/

namespace Utils

theorem scopyLoop_eq {room : Nat} (hroom : 1 ≤ room) (src : List Char) :
    scopyLoop room src = if src.length < room then (true,src) else (false,src.take (room - 1)) := by
  induction src generalizing room with
  | nil =>
    simp only [scopyLoop,List.length_nil]
    rw [if_pos (by omega)]
  | cons c cs ih =>
    rw [scopyLoop]
    split_ifs with h1 h2 h2
    · simp [h1] at h2
    · simp [h1]
    · rw [ih (by omega),if_pos (by simp at h2; omega)]
    · rw [ih (by omega),if_neg (by simp at h2; omega)]
      -- `c` and the `room - 2` characters after it fit
      obtain ⟨k,rfl⟩ : ∃ k, room = k + 2 := ⟨room - 2,by omega⟩
      simp

/-- A string shorter than the buffer is copied whole. -/
theorem scopy_of_lt {dest src : List Char} {len : Nat} (h : src.length < len) :
    scopy dest len src = (true,src) := by
  rw [scopy,if_neg (by omega),scopyLoop_eq (by omega),if_pos h]

theorem scopy_fst (dest : List Char) (len : Nat) (src : List Char) : (scopy dest len src).1 = decide (src.length < len) := by
  unfold scopy
  split_ifs with h0
  · simp [h0]
  · rw [scopyLoop_eq (by omega)]
    split_ifs with h <;> simp [h]

theorem digitChar_eq : ∀ d < 10, Nat.digitChar d = Char.ofNat ('0'.toNat + d) := by decide

/-- `_Utils_itoa` writes the digits `Nat.toDigits` does. -/
theorem itoa_eq {n : Nat} (hn : n ≠ 0) : itoa n = Nat.toDigits 10 n := by
  induction n using Nat.strong_induction_on with
  | _ n ih =>
    rw [itoa,if_neg hn,Nat.toDigits_eq_if (by decide),← digitChar_eq _ (Nat.mod_lt _ (by decide))]
    split_ifs with h10
    · rw [Nat.div_eq_of_lt h10,Nat.mod_eq_of_lt h10,itoa,if_pos rfl,List.nil_append]
    · rw [ih _ (by omega) (by omega)]

theorem decimal_eq (n : UInt64) : decimal n = Nat.toDigits 10 n.toNat := by
  unfold decimal
  split_ifs with h
  · rw [h]
    rfl
  · exact itoa_eq fun h0 => h ((UInt64.toNat_inj (a := n) (b := 0)).1 h0)

/-- `strToUInt` reads what `decimal` writes. -/
theorem strToUInt_decimal (n : UInt64) : strToUInt (decimal n) = n.toNat % 2^32 := by
  rw [strToUInt,decimal_eq,strtoul_toDigits (w := ulongBits) n.toNat_lt]

theorem digitVal_hexChars : ∀ k < 16, digitVal 16 (hexChars.getD k '0') = some k := by decide

theorem hexChars_ne : ∀ k < 16, hexChars.getD k '0' ≠ 'x' ∧ hexChars.getD k '0' ≠ 'X' ∧
    hexChars.getD k '0' ≠ ':' ∧ hexChars.getD k '0' ≠ '/' := by
  decide

/-- `hexStrToUInt` reads the four digits of `hex16`. -/
theorem hexStrToUInt_hex16 {g : Nat} (hg : g < 2^16) : hexStrToUInt (hex16 g) = g := by
  have hk (s : Nat) : g >>> s &&& 0xf < 16 := by rw [nibble_eq]; exact Nat.mod_lt _ (by decide)
  have hv (s : Nat) := digitVal_hexChars _ (hk s)
  have hval : digitsValue 16 0 (hex16 g) = g := by
    simp only [hex16,List.map_cons,List.map_nil,digitsValue,hv]
    simp only [nibble_eq]
    omega
  obtain ⟨h1,h2,-,-⟩ := hexChars_ne _ (hk 8)
  have hform : hex16 g = [hexChars.getD (g >>> 12 &&& 0xf) '0',hexChars.getD (g >>> 8 &&& 0xf) '0',
      hexChars.getD (g >>> 4 &&& 0xf) '0',hexChars.getD (g >>> 0 &&& 0xf) '0'] := rfl
  rw [hexStrToUInt,hform,strtoul_eq_digitsValue ⟨_,hv 12⟩ (fun x cs' h => (List.cons.inj h).1 ▸ ⟨h1,h2⟩)
    (by rw [← hform,hval,ulongBits]; omega),← hform,hval]
  exact Nat.mod_eq_of_lt (by omega)

end Utils

/-! ### Fields in memory -/

theorem toNat_ntoh16 (x : UInt16) : (TapDriver.ntoh16 x).toNat = x.toNat % 256 * 256 + x.toNat / 256 := by
  have hx := x.toNat_lt
  simp only [TapDriver.ntoh16,UInt16.toNat_or,UInt16.toNat_shiftLeft,UInt16.toNat_shiftRight,UInt16.toNat_ofNat,
    Nat.shiftLeft_eq,Nat.shiftRight_eq_div_pow,Nat.reducePow,Nat.reduceMod]
  rw [or_add_of_dvd (s := 8) (by omega) (by omega)]
  omega

/-- `hton` and `ntoh` of a 16-bit word undo each other. -/
theorem ntoh16_ntoh16 (x : UInt16) : TapDriver.ntoh16 (TapDriver.ntoh16 x) = x := by
  have hx := x.toNat_lt
  apply UInt16.toNat_inj.1
  rw [toNat_ntoh16,toNat_ntoh16]
  omega

namespace InetAddress

/-- Group `i` of the stored groups is the `i`-th entry of `a`. -/
theorem group6_ofGroups {gs : List Nat} (hlen : gs.length = 8) (hlt : ∀ g ∈ gs, g < 2^16) {i : Nat} (hi : i < 8) :
    group6 (ofGroups gs) i = gs[i] := by
  have hrev : ∀ g ∈ gs.reverse, g < 2^16 := fun g hg => hlt g (List.mem_reverse.1 hg)
  have hval : Nat.ofDigits (2^16) gs.reverse < 2^128 := by
    have h := Nat.ofDigits_lt_base_pow_length (b := 2^16) (by decide) hrev
    rwa [List.length_reverse,hlen,← Nat.pow_mul] at h
  have hdrop : gs.reverse.drop (7 - i) = gs[i] :: gs.reverse.drop (7 - i + 1) := by
    rw [List.drop_eq_getElem_cons (by simp [hlen]; omega),List.getElem_reverse]
    congr 2
    omega
  rw [group6,ofGroups,BitVec.toNat_ofNat,Nat.mod_eq_of_lt hval,Nat.shiftRight_eq_div_pow,Nat.pow_mul,
    Nat.ofDigits_div_pow_eq_ofDigits_drop _ (by decide) _ hrev,hdrop,Nat.ofDigits_cons,Nat.add_mul_mod_self_left,
    Nat.mod_eq_of_lt (hlt _ (List.getElem_mem _))]

/-- The eight groups `toIpString` prints give the address back. -/
theorem ofGroups_group6 (a : BitVec 128) : ofGroups ((List.range 8).map (group6 a)) = a := by
  apply eq_of_group6_eq
  intro i hi
  rw [group6_ofGroups (by simp) (fun g hg => ?_) hi,List.getElem_map,List.getElem_range]
  obtain ⟨j,-,rfl⟩ := List.mem_map.1 hg
  exact group6_lt a j

/-- The four bytes `toIpString` prints give `s_addr` back. -/
theorem ofBytes_bytes (x : UInt32) : ofBytes ((List.range 4).map fun i => x.toNat >>> (8 * i) % 256) = x := by
  have hx := x.toNat_lt
  apply UInt32.toNat_inj.1
  simp only [ofBytes,List.range_succ,List.range_zero,List.nil_append,List.cons_append,List.map_cons,List.map_nil,
    Nat.ofDigits_cons,Nat.ofDigits_nil,Nat.shiftRight_eq_div_pow,UInt32.toNat_ofNat',Nat.reduceMul,Nat.reducePow]
  omega

/-- Entries read past the end of a short array come from `junk`. -/
theorem map_getD_range {a : List Nat} {n : Nat} (hlen : a.length = n) (junk : Nat → Nat) :
    (List.range n).map (fun b => a.getD b (junk b)) = a := by
  apply List.ext_getElem (by simp [hlen])
  intro i h1 h2
  rw [List.getElem_map,List.getElem_range,List.getD_eq_getElem _ _ h2]

/-! ### The texts `toString` writes -/

/-- The addresses `toString` writes in full: the flow label and scope id of
an IPv6 address are not in its text. -/
def Printable : InetAddress → Prop
  | .v6 _ f _ s => f = 0 ∧ s = 0
  | _ => True

instance (ip : InetAddress) : Decidable (Printable ip) := by
  cases ip <;> unfold Printable <;> infer_instance

theorem toIpString_v4_toList (p : UInt16) (sAddr : UInt32) :
    (toIpString (.v4 p sAddr)).toList =
      ['.'].intercalate ((List.range 4).map fun i => Nat.toDigits 10 (sAddr.toNat >>> (8 * i) % 256)) := by
  simp [toIpString,String.toList_intercalate,Function.comp_def,Nat.toList_repr]

theorem toIpString_v6_toList (p : UInt16) (f : UInt32) (a : BitVec 128) (s : UInt32) :
    (toIpString (.v6 p f a s)).toList = [':'].intercalate ((List.range 8).map fun i => hex16 (group6 a i)) := by
  rw [toIpString,String.toList_ofList]

theorem isToken_toDigits (n : Nat) : IsToken (· == '.') (Nat.toDigits 10 n) := by
  refine ⟨Nat.toDigits_ne_nil,fun c hc => ?_⟩
  have hd := Nat.isDigit_of_mem_toDigits (by decide) (by decide) hc
  cases h : c == '.'
  · exact h
  · rw [beq_iff_eq.1 h] at hd
    exact absurd hd (by decide)

theorem mem_hex16 {g : Nat} {c : Char} (hc : c ∈ hex16 g) : ∃ k < 16, hexChars.getD k '0' = c := by
  simp only [hex16,List.mem_map] at hc
  obtain ⟨s,-,rfl⟩ := hc
  exact ⟨_,by rw [nibble_eq]; exact Nat.mod_lt _ (by decide),rfl⟩

theorem isToken_hex16 (g : Nat) : IsToken (· == ':') (hex16 g) := by
  refine ⟨by simp [hex16],fun c hc => ?_⟩
  obtain ⟨k,hk,rfl⟩ := mem_hex16 hc
  exact beq_false_of_ne (Utils.hexChars_ne k hk).2.2.1

/-- No `/` in the IP text: the port starts after the first one. -/
theorem slash_not_mem_toIpString (ip : InetAddress) : '/' ∉ (toIpString ip).toList := by
  intro h
  cases ip with
  | null => simp [toIpString] at h
  | v4 p sAddr =>
    rw [toIpString_v4_toList] at h
    rcases CString.mem_intercalate h with h | ⟨t,ht,hc⟩
    · simp at h
    · obtain ⟨i,-,rfl⟩ := List.mem_map.1 ht
      exact absurd (Nat.isDigit_of_mem_toDigits (by decide) (by decide) hc) (by decide)
  | v6 p f a s =>
    rw [toIpString_v6_toList] at h
    rcases CString.mem_intercalate h with h | ⟨t,ht,hc⟩
    · simp at h
    · obtain ⟨i,-,rfl⟩ := List.mem_map.1 ht
      obtain ⟨k,hk,hkc⟩ := mem_hex16 hc
      exact (Utils.hexChars_ne k hk).2.2.2 hkc

theorem length_decimal_le {n : UInt64} (hn : n.toNat < 2^16) : (Utils.decimal n).length ≤ 5 := by
  rw [Utils.decimal_eq]
  exact Nat.toDigits_length 10 _ 5 (by decide) (by omega)

theorem length_toIpString_le (ip : InetAddress) : (toIpString ip).toList.length ≤ 40 := by
  cases ip with
  | null => simp [toIpString]
  | v4 p sAddr =>
    rw [toIpString_v4_toList]
    refine (CString.length_intercalate_le (k := 3) fun t ht => ?_).trans (by simp)
    obtain ⟨i,-,rfl⟩ := List.mem_map.1 ht
    exact Nat.toDigits_length 10 _ 3 (by decide) (by simp only [Nat.reducePow]; omega)
  | v6 p f a s =>
    rw [toIpString_v6_toList]
    refine (CString.length_intercalate_le (k := 4) fun t ht => ?_).trans (by simp)
    obtain ⟨i,-,rfl⟩ := List.mem_map.1 ht
    rw [length_hex16]

/-- Every text `toString` writes fits the 64-byte buffer of `fromString`. -/
theorem length_toString_lt (ip : InetAddress) : (toString ip).length < 64 := by
  have h1 := length_toIpString_le ip
  have h2 := length_decimal_le (n := (port ip).toUInt64) (by
    cases ip <;> simp [port] <;> exact UInt16.toNat_lt _)
  unfold toString
  dsimp only
  split_ifs
  · omega
  · simp only [List.length_append,List.length_cons]
    omega

/-! ### Reading a text back -/

section Parse
variable (junk4 : Nat → UInt8) (junk6 : Nat → UInt16)

/-- A nonempty text that fits the buffer is parsed as it is. -/
theorem fromString_of_lt {s : List Char} (hne : s ≠ []) (hlen : s.length < 64) :
    fromString junk4 junk6 s =
      if ':' ∈ ipPart s then
        (true,.v6 (TapDriver.ntoh16 (UInt16.ofNat (portPart s))) 0
          (ofGroups ((List.range 8).map fun b => (v6Groups (ipPart s)).getD b (junk6 b).toNat)) 0)
      else if '.' ∈ ipPart s then
        (true,.v4 (TapDriver.ntoh16 (UInt16.ofNat (portPart s)))
          (ofBytes ((List.range 4).map fun b => (v4Bytes (ipPart s)).getD b (junk4 b).toNat)))
      else (false,.null) := by
  rw [fromString,if_neg hne,Utils.scopy_of_lt hlen]
  rfl

/-- A text that does not fit the buffer is refused. -/
theorem fromString_of_ge {s : List Char} (hlen : 64 ≤ s.length) : fromString junk4 junk6 s = (false,.null) := by
  have hne : s ≠ [] := by rintro rfl; simp at hlen
  have hok := Utils.scopy_fst [] 64 s
  rw [decide_eq_false (by omega)] at hok
  rw [fromString,if_neg hne]
  rcases hs : Utils.scopy [] 64 s with ⟨ok,buf⟩
  rw [hs] at hok
  cases hok
  rfl

theorem ipPart_slash {s : List Char} (hs : '/' ∉ s) (d : List Char) : ipPart (s ++ '/' :: d) = s := by
  rw [ipPart,List.takeWhile_append_of_pos (fun c hc => by simp; rintro rfl; exact hs hc),List.takeWhile_cons_of_neg
    (by simp),List.append_nil]

theorem portPart_slash {s : List Char} (hs : '/' ∉ s) (d : List Char) :
    portPart (s ++ '/' :: d) = Utils.strToUInt d &&& 0xffff := by
  rw [portPart,List.dropWhile_append_of_pos (fun c hc => by simp; rintro rfl; exact hs hc),List.dropWhile_cons_of_neg
    (by simp)]

/-- The port `toString` writes is read back and stored as it was. -/
theorem port_toString (p : UInt16) :
    TapDriver.ntoh16 (UInt16.ofNat (Utils.strToUInt (Utils.decimal (TapDriver.ntoh16 p).toUInt32.toUInt64) &&& 0xffff)) = p := by
  have hp := (TapDriver.ntoh16 p).toNat_lt
  have hv : Utils.strToUInt (Utils.decimal (TapDriver.ntoh16 p).toUInt32.toUInt64) &&& 0xffff =
      (TapDriver.ntoh16 p).toNat := by
    rw [Utils.strToUInt_decimal,show (0xffff : Nat) = 2^16 - 1 from rfl,Nat.and_two_pow_sub_one_eq_mod]
    simp only [UInt32.toNat_toUInt64,UInt16.toNat_toUInt32]
    omega
  rw [hv,UInt16.ofNat_toNat,ntoh16_ntoh16]

theorem v4Bytes_toIpString (p : UInt16) (sAddr : UInt32) :
    v4Bytes (toIpString (.v4 p sAddr)).toList = (List.range 4).map fun i => sAddr.toNat >>> (8 * i) % 256 := by
  rw [toIpString_v4_toList,v4Bytes,CString.stokLoop_intercalate (by rfl) (by simp)
    (fun t ht => by obtain ⟨i,-,rfl⟩ := List.mem_map.1 ht; exact isToken_toDigits _),List.map_map]
  apply List.map_congr_left
  intro i _
  have hb : sAddr.toNat >>> (8 * i) % 256 < 256 := Nat.mod_lt _ (by decide)
  simp only [Function.comp_apply,Utils.strToUInt,strtoul_toDigits (w := Utils.ulongBits)
    (show sAddr.toNat >>> (8 * i) % 256 < 2^64 by omega),show (0xff : Nat) = 2^8 - 1 from rfl,
    Nat.and_two_pow_sub_one_eq_mod]
  omega

theorem v6Groups_toIpString (p : UInt16) (f : UInt32) (a : BitVec 128) (s : UInt32) :
    v6Groups (toIpString (.v6 p f a s)).toList = (List.range 8).map (group6 a) := by
  rw [toIpString_v6_toList,v6Groups,CString.stokLoop_intercalate (by rfl) (by simp)
    (fun t ht => by obtain ⟨i,-,rfl⟩ := List.mem_map.1 ht; exact isToken_hex16 _),List.map_map]
  apply List.map_congr_left
  intro i _
  rw [Function.comp_apply,Utils.hexStrToUInt_hex16 (group6_lt a i),show (0xffff : Nat) = 2^16 - 1 from rfl,
    Nat.and_two_pow_sub_one_eq_mod,Nat.mod_eq_of_lt (group6_lt a i)]

theorem colon_not_mem_toIpString_v4 (p : UInt16) (sAddr : UInt32) : ':' ∉ (toIpString (.v4 p sAddr)).toList := by
  rw [toIpString_v4_toList]
  intro h
  rcases CString.mem_intercalate h with h | ⟨t,ht,hc⟩
  · simp at h
  · obtain ⟨i,-,rfl⟩ := List.mem_map.1 ht
    exact absurd (Nat.isDigit_of_mem_toDigits (by decide) (by decide) hc) (by decide)

/-- `InetAddress::fromString` reads back every address `toString` writes in
full, whatever the uninitialised arrays hold. -/
theorem fromString_toString {ip : InetAddress} (hip : Printable ip) : fromString junk4 junk6 (toString ip) = (true,ip) := by
  cases ip with
  | null => rfl
  | v4 p sAddr =>
    have hne : (toIpString (.v4 p sAddr)).toList ≠ [] := by
      rw [toIpString_v4_toList]
      simp [List.range_succ,List.intercalate_cons_cons]
    have hdot : '.' ∈ (toIpString (.v4 p sAddr)).toList := by
      rw [toIpString_v4_toList]
      simp [List.range_succ,List.intercalate_cons_cons]
    have hslash := slash_not_mem_toIpString (.v4 p sAddr)
    have hlen := length_toString_lt (.v4 p sAddr)
    rw [toString] at hlen ⊢
    rw [if_neg hne] at hlen ⊢
    rw [fromString_of_lt junk4 junk6 (by simp) hlen,ipPart_slash hslash,portPart_slash hslash,
      if_neg (colon_not_mem_toIpString_v4 p sAddr),if_pos hdot,v4Bytes_toIpString,
      map_getD_range (by simp),ofBytes_bytes,port,port_toString]
  | v6 p f a s =>
    obtain ⟨rfl,rfl⟩ := hip
    have hne : (toIpString (.v6 p 0 a 0)).toList ≠ [] := by
      rw [toIpString_v6_toList]
      simp [List.range_succ,List.intercalate_cons_cons,hex16]
    have hcolon : ':' ∈ (toIpString (.v6 p 0 a 0)).toList := by
      rw [toIpString_v6_toList]
      simp [List.range_succ,List.intercalate_cons_cons]
    have hslash := slash_not_mem_toIpString (.v6 p 0 a 0)
    have hlen := length_toString_lt (.v6 p 0 a 0)
    rw [toString] at hlen ⊢
    rw [if_neg hne] at hlen ⊢
    rw [fromString_of_lt junk4 junk6 (by simp) hlen,ipPart_slash hslash,portPart_slash hslash,if_pos hcolon,
      v6Groups_toIpString,map_getD_range (by simp),ofGroups_group6,port,port_toString]

/-- `fd00:0000:0000:0000:0000:0000:0000:0001/88` is read back. -/
theorem fromString_toString_ula :
    fromString (fun _ => 0) (fun _ => 0) (toString (.v6 0x5800 0 0xfd000000000000000000000000000001 0)) =
      (true,.v6 0x5800 0 0xfd000000000000000000000000000001 0) :=
  fromString_toString _ _ ⟨rfl,rfl⟩

/-- Every refusal of `fromString` leaves the cleared address. -/
theorem snd_fromString_of_fst_eq_false {s : List Char} (h : (fromString junk4 junk6 s).1 = false) :
    (fromString junk4 junk6 s).2 = .null := by
  by_cases hne : s = []
  · subst hne
    simp [fromString] at h
  by_cases hlen : 64 ≤ s.length
  · rw [fromString_of_ge junk4 junk6 hlen]
  · rw [fromString_of_lt junk4 junk6 hne (by omega)] at h ⊢
    -- both accepting branches return `true`
    split_ifs at h ⊢
    rfl

/-- `fromString` returns `false` exactly when the text is nonempty and is too
long for the buffer or has neither `:` nor `.` before its first `/`; every
refusal leaves the cleared address. -/
theorem fromString_eq_false_iff (s : List Char) :
    ((fromString junk4 junk6 s).1 = false ↔
        s ≠ [] ∧ (64 ≤ s.length ∨ ':' ∉ ipPart s ∧ '.' ∉ ipPart s)) ∧
      ((fromString junk4 junk6 s).1 = false → (fromString junk4 junk6 s).2 = .null) := by
  refine ⟨?_,snd_fromString_of_fst_eq_false junk4 junk6⟩
  by_cases hne : s = []
  · subst hne
    simp [fromString]
  by_cases hlen : 64 ≤ s.length
  · simp [fromString_of_ge junk4 junk6 hlen,hne,hlen]
  · rw [fromString_of_lt junk4 junk6 hne (by omega)]
    split_ifs with hc hd
    · simp [hc,hlen]
    · simp [hd,hlen]
    · simp [hne,hc,hd]

theorem lt_two_pow_of_mem_v6Groups {ip : List Char} {g : Nat} (hg : g ∈ v6Groups ip) : g < 2^16 := by
  obtain ⟨t,rfl⟩ := CString.mem_stokLoop hg
  exact lt_of_le_of_lt Nat.and_le_right (by decide)

/-- An IPv6 text with fewer than eight groups, such as one with `::`, leaves
every group past the parsed ones to what `uint16_t a[8]` held before. -/
theorem fromString_v6_unset_groups {s : List Char} (hlen : s.length < 64) (hcolon : ':' ∈ ipPart s) {i : Nat}
    (hi : (v6Groups (ipPart s)).length ≤ i) (hi8 : i < 8) :
    group6 (sin6Addr (fromString junk4 junk6 s).2) i = (junk6 i).toNat := by
  have hne : s ≠ [] := by rintro rfl; simp [ipPart] at hcolon
  rw [fromString_of_lt junk4 junk6 hne hlen,if_pos hcolon,sin6Addr,group6_ofGroups (by simp) (fun g hg => ?_) hi8,
    List.getElem_map,List.getElem_range,List.getD_eq_default _ _ hi]
  obtain ⟨b,-,rfl⟩ := List.mem_map.1 hg
  by_cases hb : b < (v6Groups (ipPart s)).length
  · rw [List.getD_eq_getElem _ _ hb]
    exact lt_two_pow_of_mem_v6Groups (List.getElem_mem hb)
  · rw [List.getD_eq_default _ _ (by omega)]
    exact UInt16.toNat_lt _

/-- `fd00::1/88` gives two groups; the last group is whatever `a[7]` held. -/
example : group6 (sin6Addr (fromString (fun _ => 0) (fun _ => 0xbeef) "fd00::1/88".toList).2) 7 = 0xbeef :=
  fromString_v6_unset_groups _ _ (by decide) (by decide) (by decide) (by decide)

end Parse

end InetAddress

end V2rayZt.ZeroTier
