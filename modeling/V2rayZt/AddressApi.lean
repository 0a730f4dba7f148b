import V2rayZt.VirtualTap
import V2rayZt.Lib.OptionSearch
import Mathlib.Data.Finset.Card

/-! The address queries of libzt's API (`ZT1Service.cpp`) over the tap `getTapByNWID` finds,
the last one of the network in `vtaps`. `zts_get_address_at_index` accepts the index one
past the last address and reads it, which is undefined. -/
namespace V2rayZt.Libzt
open V2rayZt.Machine V2rayZt.SortedSet V2rayZt.OptionSearch V2rayZt.ZeroTier TapDriver

/-- `AF_INET` and `AF_INET6` on Linux and Android. -/
def afInet : Int := 2

def afInet6 : Int := 10

/-- `sizeof(struct sockaddr_storage)`, the size of an `InetAddress`. -/
def sockaddrStorageSize : Nat := 128

/-- What the queries read: whether `zt1Service` is set, the taps' `_ips`, and
the network id `_nwid` of each of `vtaps[0..vtaps)`. -/
structure Service where
  running : Bool
  driver : TapDriver
  nwid : Nat → UInt64
  vtaps : Nat

/-- `getTapByNWID(nwid)`: every tap of the network overwrites `tap`, so the
last one is returned. -/
def getTapByNWID (s : Service) (nwid : UInt64) : Option Nat :=
  (List.range s.vtaps).foldl (fun tap i => if s.nwid i = nwid then some i else tap) none

/-- `zts_get_num_assigned_addresses(nwid)`. -/
def ztsGetNumAssignedAddresses (s : Service) (nwid : UInt64) : Int :=
  if !s.running then -1
  else match getTapByNWID s nwid with
    | none => -1
    | some t => (s.driver.ips t).length

/-- `zts_get_address_at_index(nwid, index, addr, addrlen)`: the error code and,
when it is 0, the address whose first `*addrlen` bytes were copied to `addr`
with that length and the new `*addrlen`. `none` is undefined behaviour:
`_ips[index]` past the last address, or a copy longer than an `InetAddress`. -/
def ztsGetAddressAtIndex (s : Service) (nwid : UInt64) (index : Int) (addrlen : Nat) :
    Option (Int × Option (InetAddress × Nat × Nat)) :=
  if !s.running then some (-1,none)
  else match getTapByNWID s nwid with
    | none => some (-1,none)
    | some t =>
      if index > -1 ∧ index ≤ (s.driver.ips t).length then
        match (s.driver.ips t)[index.toNat]? with
        | none => none
        | some ip =>
          if addrlen ≤ sockaddrStorageSize then some (0,some (ip,addrlen,if ip.isV4 then 16 else 28))
          else none
      else some (-1,none)

/-- The family test of `zts_get_address`'s loop. -/
def familyMatches (addressFamily : Int) (ip : InetAddress) : Bool :=
  (addressFamily == afInet && ip.isV4) || (addressFamily == afInet6 && ip.isV6)

/-- `zts_get_address(nwid, addr, address_family)`: the error code, and the
address copied to `addr`, which is left as it was when none is found. -/
def ztsGetAddress (s : Service) (nwid : UInt64) (addressFamily : Int) : Int × Option InetAddress :=
  if !s.running then (-1,none)
  else match getTapByNWID s nwid with
    | none => (-1,none)
    | some t =>
      match (s.driver.ips t).find? (familyMatches addressFamily) with
      | some ip => (0,some ip)
      | none => (-1,none)

/-- `zts_has_address(nwid)`: `ss` starts as zero bytes, the null address, and
keeps what a call found; its family is tested after each call. -/
def ztsHasAddress (s : Service) (nwid : UInt64) : Bool :=
  let ss := (ztsGetAddress s nwid afInet).2.getD .null
  if ss.isV4 then true
  else
    let ss := (ztsGetAddress s nwid afInet6).2.getD ss
    ss.isV6

/-! ### The tap of a network -/

/-- The tap found is the last of `vtaps` on the network. -/
theorem getTapByNWID_eq_some_iff (s : Service) (nwid : UInt64) {t : Nat} :
    getTapByNWID s nwid = some t ↔ t < s.vtaps ∧ s.nwid t = nwid ∧ ∀ j < s.vtaps, s.nwid j = nwid → j ≤ t :=
  foldl_range_last_eq_some_iff (fun i => s.nwid i = nwid) s.vtaps

/-! ### Over runs of `addIp` and `removeIp` -/

section Runs
variable {ops : List TapDriver.TapOp} {s : Service}

/-- The addresses added to tap `t` and not removed since. -/
abbrev live (ops : List TapDriver.TapOp) (t : Nat) : Finset InetAddress := run liveIps (fun _ => ∅) ops t

theorem mem_ips_iff (hrun : runOpt TapDriver.step TapDriver.init ops = some s.driver) (t : Nat) (x : InetAddress) :
    x ∈ s.driver.ips t ↔ x ∈ live ops t := by
  unfold live
  rw [← List.mem_toFinset,(ips_refine_liveIps hrun).toFinset_eq]

theorem length_ips (hrun : runOpt TapDriver.step TapDriver.init ops = some s.driver) (t : Nat) :
    (s.driver.ips t).length = (live ops t).card := by
  unfold live
  rw [← (ips_refine_liveIps hrun).toFinset_eq,List.toFinset_card_of_nodup ((ips_refine_liveIps hrun).sorted t).nodup]

theorem ztsGetAddress_eq_zero_iff (hrunning : s.running) {nwid : UInt64} {t : Nat} (htap : getTapByNWID s nwid = some t)
    (addressFamily : Int) (x : InetAddress) :
    ztsGetAddress s nwid addressFamily = (0,some x) ↔ (s.driver.ips t).find? (familyMatches addressFamily) = some x := by
  simp only [ztsGetAddress,hrunning,Bool.not_true,Bool.false_eq_true,if_false,htap]
  cases h : (s.driver.ips t).find? (familyMatches addressFamily) <;> simp

/-- On every defined run, `zts_get_address` returns the least address of the
family live on the network's tap, in `InetAddress::operator<`, not the first
one added. -/
theorem ztsGetAddress_least (hrun : runOpt TapDriver.step TapDriver.init ops = some s.driver) (hrunning : s.running)
    {nwid : UInt64} {t : Nat} (htap : getTapByNWID s nwid = some t) (addressFamily : Int) (x : InetAddress) :
    ztsGetAddress s nwid addressFamily = (0,some x) ↔
      x ∈ live ops t ∧ familyMatches addressFamily x = true ∧
        ∀ y ∈ live ops t, familyMatches addressFamily y = true → x ≤ y := by
  rw [ztsGetAddress_eq_zero_iff hrunning htap,
    find?_eq_some_iff_least ((ips_refine_liveIps hrun).sorted t),mem_ips_iff hrun]
  simp only [mem_ips_iff hrun]

theorem ztsGetAddress_least_after_two_addIps :
    (runOpt TapDriver.step TapDriver.init [.addIp 0 (.v4 (TapDriver.ntoh16 24) 0x0911930a),.addIp 0 (.v4 (TapDriver.ntoh16 24) 0x0511930a)] = some (⟨true,((TapDriver.init.addIp 0 (.v4 (TapDriver.ntoh16 24) 0x0911930a)).addIp 0 (.v4 (TapDriver.ntoh16 24) 0x0511930a)),fun _ => 0x8056c2e21c000001,1⟩ : Service).driver ∧
      (⟨true,((TapDriver.init.addIp 0 (.v4 (TapDriver.ntoh16 24) 0x0911930a)).addIp 0 (.v4 (TapDriver.ntoh16 24) 0x0511930a)),fun _ => 0x8056c2e21c000001,1⟩ : Service).running = true ∧ getTapByNWID ⟨true,((TapDriver.init.addIp 0 (.v4 (TapDriver.ntoh16 24) 0x0911930a)).addIp 0 (.v4 (TapDriver.ntoh16 24) 0x0511930a)),fun _ => 0x8056c2e21c000001,1⟩ 0x8056c2e21c000001 = some 0) ∧
    (ztsGetAddress ⟨true,((TapDriver.init.addIp 0 (.v4 (TapDriver.ntoh16 24) 0x0911930a)).addIp 0 (.v4 (TapDriver.ntoh16 24) 0x0511930a)),fun _ => 0x8056c2e21c000001,1⟩ 0x8056c2e21c000001 afInet = (0,some (.v4 (TapDriver.ntoh16 24) 0x0511930a)) ↔
      (.v4 (TapDriver.ntoh16 24) 0x0511930a) ∈ live [.addIp 0 (.v4 (TapDriver.ntoh16 24) 0x0911930a),.addIp 0 (.v4 (TapDriver.ntoh16 24) 0x0511930a)] 0 ∧ familyMatches afInet (.v4 (TapDriver.ntoh16 24) 0x0511930a) = true ∧
        ∀ y ∈ live [.addIp 0 (.v4 (TapDriver.ntoh16 24) 0x0911930a),.addIp 0 (.v4 (TapDriver.ntoh16 24) 0x0511930a)] 0, familyMatches afInet y = true → (.v4 (TapDriver.ntoh16 24) 0x0511930a) ≤ y) :=
  ⟨⟨rfl,rfl,by decide⟩,ztsGetAddress_least rfl rfl (by decide) afInet (.v4 (TapDriver.ntoh16 24) 0x0511930a)⟩

/-- On every defined run, `zts_get_address_at_index` on the network's tap is
undefined exactly at index `k`, the number of live addresses, which
`index <= _ips.size()` lets through to `_ips[k]`, and on a valid index with a
copy longer than an `InetAddress`. -/
theorem ztsGetAddressAtIndex_eq_none_iff (hrun : runOpt TapDriver.step TapDriver.init ops = some s.driver)
    (hrunning : s.running) {nwid : UInt64} {t : Nat} (htap : getTapByNWID s nwid = some t) (index : Int)
    (addrlen : Nat) :
    ztsGetAddressAtIndex s nwid index addrlen = none ↔
      index = (live ops t).card ∨ (0 ≤ index ∧ index < (live ops t).card ∧ sockaddrStorageSize < addrlen) := by
  have hlen := length_ips hrun t
  simp only [ztsGetAddressAtIndex,hrunning,Bool.not_true,Bool.false_eq_true,if_false,htap]
  by_cases hin : index > -1 ∧ index ≤ (s.driver.ips t).length
  · rw [if_pos hin]
    rcases hget : (s.driver.ips t)[index.toNat]? with _ | ip
    · -- `_ips[index]` one past the last address
      have hpast := List.getElem?_eq_none_iff.1 hget
      simp only [true_iff]
      omega
    · have hvalid := (List.getElem?_eq_some_iff.1 hget).1
      simp only
      split_ifs with hcopy
      · simp only [false_iff,not_or,not_and,not_lt]
        omega
      · simp only [true_iff]
        omega
  · rw [if_neg hin]
    simp only [reduceCtorEq,false_iff,not_or,not_and,not_lt]
    omega

theorem ztsGetAddressAtIndex_eq_none_iff_after_two_addIps :
    (runOpt TapDriver.step TapDriver.init [.addIp 0 (.v4 (TapDriver.ntoh16 24) 0x0911930a),.addIp 0 (.v4 (TapDriver.ntoh16 24) 0x0511930a)] = some (⟨true,((TapDriver.init.addIp 0 (.v4 (TapDriver.ntoh16 24) 0x0911930a)).addIp 0 (.v4 (TapDriver.ntoh16 24) 0x0511930a)),fun _ => 0x8056c2e21c000001,1⟩ : Service).driver ∧
      (⟨true,((TapDriver.init.addIp 0 (.v4 (TapDriver.ntoh16 24) 0x0911930a)).addIp 0 (.v4 (TapDriver.ntoh16 24) 0x0511930a)),fun _ => 0x8056c2e21c000001,1⟩ : Service).running = true ∧ getTapByNWID ⟨true,((TapDriver.init.addIp 0 (.v4 (TapDriver.ntoh16 24) 0x0911930a)).addIp 0 (.v4 (TapDriver.ntoh16 24) 0x0511930a)),fun _ => 0x8056c2e21c000001,1⟩ 0x8056c2e21c000001 = some 0) ∧
    (ztsGetAddressAtIndex ⟨true,((TapDriver.init.addIp 0 (.v4 (TapDriver.ntoh16 24) 0x0911930a)).addIp 0 (.v4 (TapDriver.ntoh16 24) 0x0511930a)),fun _ => 0x8056c2e21c000001,1⟩ 0x8056c2e21c000001 2 16 = none ↔
      (2 : Int) = (live [.addIp 0 (.v4 (TapDriver.ntoh16 24) 0x0911930a),.addIp 0 (.v4 (TapDriver.ntoh16 24) 0x0511930a)] 0).card ∨
        (0 ≤ (2 : Int) ∧ (2 : Int) < (live [.addIp 0 (.v4 (TapDriver.ntoh16 24) 0x0911930a),.addIp 0 (.v4 (TapDriver.ntoh16 24) 0x0511930a)] 0).card ∧ sockaddrStorageSize < 16)) :=
  ⟨⟨rfl,rfl,by decide⟩,ztsGetAddressAtIndex_eq_none_iff rfl rfl (by decide) 2 16⟩

/-- On a valid index and a copy that fits, `zts_get_address_at_index` returns
the live address with exactly `index` live addresses below it. -/
theorem ztsGetAddressAtIndex_of_lt (hrun : runOpt TapDriver.step TapDriver.init ops = some s.driver)
    (hrunning : s.running) {nwid : UInt64} {t : Nat} (htap : getTapByNWID s nwid = some t) {index : Nat}
    (hindex : index < (live ops t).card) {addrlen : Nat} (hfit : addrlen ≤ sockaddrStorageSize) :
    ∃ x ∈ live ops t, ((live ops t).filter (· < x)).card = index ∧
      ztsGetAddressAtIndex s nwid index addrlen = some (0,some (x,addrlen,if x.isV4 then 16 else 28)) := by
  have hR := ips_refine_liveIps hrun
  have hi : index < (s.driver.ips t).length := by
    rw [length_ips hrun t]
    exact hindex
  refine ⟨(s.driver.ips t)[index],(mem_ips_iff hrun t _).1 (List.getElem_mem hi),?_,?_⟩
  · unfold live
    rw [← hR.toFinset_eq t]
    exact card_filter_lt_getElem (hR.sorted t) hi
  · simp only [ztsGetAddressAtIndex,hrunning,Bool.not_true,Bool.false_eq_true,if_false,htap]
    rw [if_pos ⟨by omega,by omega⟩,Int.toNat_natCast,List.getElem?_eq_getElem hi]
    simp only [if_pos hfit]

theorem ztsGetAddressAtIndex_of_lt_after_two_addIps :
    (runOpt TapDriver.step TapDriver.init [.addIp 0 (.v4 (TapDriver.ntoh16 24) 0x0911930a),.addIp 0 (.v4 (TapDriver.ntoh16 24) 0x0511930a)] = some (⟨true,((TapDriver.init.addIp 0 (.v4 (TapDriver.ntoh16 24) 0x0911930a)).addIp 0 (.v4 (TapDriver.ntoh16 24) 0x0511930a)),fun _ => 0x8056c2e21c000001,1⟩ : Service).driver ∧
      (⟨true,((TapDriver.init.addIp 0 (.v4 (TapDriver.ntoh16 24) 0x0911930a)).addIp 0 (.v4 (TapDriver.ntoh16 24) 0x0511930a)),fun _ => 0x8056c2e21c000001,1⟩ : Service).running = true ∧ getTapByNWID ⟨true,((TapDriver.init.addIp 0 (.v4 (TapDriver.ntoh16 24) 0x0911930a)).addIp 0 (.v4 (TapDriver.ntoh16 24) 0x0511930a)),fun _ => 0x8056c2e21c000001,1⟩ 0x8056c2e21c000001 = some 0 ∧
      1 < (live [.addIp 0 (.v4 (TapDriver.ntoh16 24) 0x0911930a),.addIp 0 (.v4 (TapDriver.ntoh16 24) 0x0511930a)] 0).card ∧ 16 ≤ sockaddrStorageSize) ∧
    ∃ x ∈ live [.addIp 0 (.v4 (TapDriver.ntoh16 24) 0x0911930a),.addIp 0 (.v4 (TapDriver.ntoh16 24) 0x0511930a)] 0, ((live [.addIp 0 (.v4 (TapDriver.ntoh16 24) 0x0911930a),.addIp 0 (.v4 (TapDriver.ntoh16 24) 0x0511930a)] 0).filter (· < x)).card = 1 ∧
      ztsGetAddressAtIndex ⟨true,((TapDriver.init.addIp 0 (.v4 (TapDriver.ntoh16 24) 0x0911930a)).addIp 0 (.v4 (TapDriver.ntoh16 24) 0x0511930a)),fun _ => 0x8056c2e21c000001,1⟩ 0x8056c2e21c000001 (1 : Nat) 16 =
        some (0,some (x,16,if x.isV4 then 16 else 28)) := by
  have hcard : 1 < (live [.addIp 0 (.v4 (TapDriver.ntoh16 24) 0x0911930a),.addIp 0 (.v4 (TapDriver.ntoh16 24) 0x0511930a)] 0).card := by decide
  exact ⟨⟨rfl,rfl,by decide,hcard,by decide⟩,ztsGetAddressAtIndex_of_lt rfl rfl (by decide) hcard (by decide)⟩

theorem familyMatches_afInet : familyMatches afInet = InetAddress.isV4 := by
  funext ip
  simp [familyMatches,afInet,afInet6]

theorem familyMatches_afInet6 : familyMatches afInet6 = InetAddress.isV6 := by
  funext ip
  simp [familyMatches,afInet,afInet6]

/-- `zts_has_address` holds exactly when an IPv4 or IPv6 address is live on
the network's tap; a null address added to it does not count. -/
theorem ztsHasAddress_iff (hrun : runOpt TapDriver.step TapDriver.init ops = some s.driver) (hrunning : s.running)
    {nwid : UInt64} {t : Nat} (htap : getTapByNWID s nwid = some t) :
    ztsHasAddress s nwid = true ↔ ∃ x ∈ live ops t, x.isV4 = true ∨ x.isV6 = true := by
  have hn4 : InetAddress.null.isV4 = false := rfl
  have hn6 : InetAddress.null.isV6 = false := rfl
  simp only [ztsHasAddress,ztsGetAddress,hrunning,Bool.not_true,Bool.false_eq_true,if_false,htap,
    familyMatches_afInet,familyMatches_afInet6]
  -- the first call finds an IPv4 address, or else `ss` stays null for the second
  cases h4 : (s.driver.ips t).find? InetAddress.isV4 with
  | some x =>
    have hx := List.find?_some h4
    simp only [Option.getD_some,hx,if_true,true_iff]
    exact ⟨x,(mem_ips_iff hrun t x).1 (List.mem_of_find?_eq_some h4),Or.inl hx⟩
  | none =>
    have hno4 := List.find?_eq_none.1 h4
    cases h6 : (s.driver.ips t).find? InetAddress.isV6 with
    | some y =>
      have hy := List.find?_some h6
      simp only [Option.getD_some,Option.getD_none,hn4,Bool.false_eq_true,if_false,hy,true_iff]
      exact ⟨y,(mem_ips_iff hrun t y).1 (List.mem_of_find?_eq_some h6),Or.inr hy⟩
    | none =>
      have hno6 := List.find?_eq_none.1 h6
      simp only [Option.getD_none,hn4,hn6,Bool.false_eq_true,if_false,false_iff,not_exists,not_and,not_or]
      intro x hx
      have hx' := (mem_ips_iff hrun t x).2 hx
      exact ⟨by simpa using hno4 x hx',by simpa using hno6 x hx'⟩

theorem ztsHasAddress_iff_after_two_addIps :
    (runOpt TapDriver.step TapDriver.init [.addIp 0 (.v4 (TapDriver.ntoh16 24) 0x0911930a),.addIp 0 (.v4 (TapDriver.ntoh16 24) 0x0511930a)] = some (⟨true,((TapDriver.init.addIp 0 (.v4 (TapDriver.ntoh16 24) 0x0911930a)).addIp 0 (.v4 (TapDriver.ntoh16 24) 0x0511930a)),fun _ => 0x8056c2e21c000001,1⟩ : Service).driver ∧
      (⟨true,((TapDriver.init.addIp 0 (.v4 (TapDriver.ntoh16 24) 0x0911930a)).addIp 0 (.v4 (TapDriver.ntoh16 24) 0x0511930a)),fun _ => 0x8056c2e21c000001,1⟩ : Service).running = true ∧ getTapByNWID ⟨true,((TapDriver.init.addIp 0 (.v4 (TapDriver.ntoh16 24) 0x0911930a)).addIp 0 (.v4 (TapDriver.ntoh16 24) 0x0511930a)),fun _ => 0x8056c2e21c000001,1⟩ 0x8056c2e21c000001 = some 0) ∧
    (ztsHasAddress ⟨true,((TapDriver.init.addIp 0 (.v4 (TapDriver.ntoh16 24) 0x0911930a)).addIp 0 (.v4 (TapDriver.ntoh16 24) 0x0511930a)),fun _ => 0x8056c2e21c000001,1⟩ 0x8056c2e21c000001 = true ↔ ∃ x ∈ live [.addIp 0 (.v4 (TapDriver.ntoh16 24) 0x0911930a),.addIp 0 (.v4 (TapDriver.ntoh16 24) 0x0511930a)] 0, x.isV4 = true ∨ x.isV6 = true) :=
  ⟨⟨rfl,rfl,by decide⟩,ztsHasAddress_iff rfl rfl (by decide)⟩

end Runs

end V2rayZt.Libzt
