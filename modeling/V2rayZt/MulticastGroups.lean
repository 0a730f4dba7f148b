import V2rayZt.VirtualTap
import V2rayZt.EthFrame
import V2rayZt.Lib.SortedVector
import Mathlib.Data.Finset.Card

/-! `VirtualTap::scanMulticastGroups` over `MulticastGroup` (`MulticastGroup.hpp`): a scan
derives, sorts and diffs the groups of the tap's addresses. It drops the result of
`std::unique`, so it is an exact diff only where the addresses give distinct groups. -/
namespace V2rayZt.Libzt
open V2rayZt.Machine V2rayZt.ZeroTier V2rayZt.SortedVector

/-- `MAC(uint64_t m)`: the low 48 bits. -/
def MAC.ofUInt64 (m : UInt64) : MAC :=
  ⟨m.toNat &&& 0xffffffffffff,Nat.and_lt_two_pow _ (show 0xffffffffffff < 2^48 by decide)⟩

/-- `MAC(a,b,c,d,e,f)`: the same masks and shifts as `setTo` on six bytes. -/
def MAC.ofBytes (a b c d e f : UInt8) : MAC := MAC.setTo fun i => [a,b,c,d,e,f].getD i 0

/-- `ZeroTier::MulticastGroup`: `_mac` and `_adi`. -/
structure MulticastGroup where
  mac : MAC
  adi : UInt32

namespace MulticastGroup

/-- `MulticastGroup()`: zero MAC, zero ADI. -/
instance : Inhabited MulticastGroup := ⟨⟨⟨0,Nat.two_pow_pos 48⟩,0⟩⟩

/-- `operator<`: by MAC, then by ADI. -/
def lt (a b : MulticastGroup) : Bool :=
  if a.mac.m < b.mac.m then true
  else if a.mac.m = b.mac.m then a.adi < b.adi
  else false

/-- The fields `operator<` compares, in its order. -/
def key (g : MulticastGroup) : List Nat := [g.mac.m,g.adi.toNat]

theorem key_injective : Function.Injective key := by
  rintro ⟨⟨m,hm⟩,a⟩ ⟨⟨m',hm'⟩,a'⟩ h
  simp only [key,List.cons.injEq,and_true] at h
  obtain ⟨rfl,h⟩ := h
  rw [UInt32.toNat_inj.1 h]

instance : LinearOrder MulticastGroup := LinearOrder.lift' key key_injective

theorem key_lt_iff {a b : MulticastGroup} :
    key a < key b ↔ a.mac.m < b.mac.m ∨ a.mac.m = b.mac.m ∧ a.adi.toNat < b.adi.toNat := by
  simp [key,List.cons_lt_cons_iff]

theorem lt_eq_true_iff (a b : MulticastGroup) : lt a b = true ↔ a < b := by
  change _ ↔ key a < key b
  rw [key_lt_iff,lt]
  split_ifs with h1 h2
  · simp [h1]
  · simp [h2,UInt32.lt_iff_toNat_lt]
  · simp only [false_iff]
    omega

end MulticastGroup

/-- `Utils::ntoh` of a 32-bit word on a little-endian host: the byte swap of
`hton`. -/
def ntoh32 (x : UInt32) : UInt32 := TapDriver.hton32 x

/-- Byte `i` of `sin6_addr`, which the model keeps as one big-endian number. -/
def s6Byte (a : BitVec 128) (i : Nat) : UInt8 := UInt8.ofNat (a.toNat >>> (8 * (15 - i)))

/-- `MulticastGroup::deriveMulticastGroupForAddressResolution(ip)`: the
broadcast MAC with the IPv4 address as ADI, or the IPv6 solicited-node MAC
`33:33:ff` and the address's last three bytes. The port, which holds an
address's netmask bits, plays no part. -/
def deriveMulticastGroupForAddressResolution : InetAddress → MulticastGroup
  | .v4 _ sAddr => ⟨MAC.ofUInt64 0xffffffffffff,ntoh32 sAddr⟩
  | .v6 _ _ a _ => ⟨MAC.ofBytes 0x33 0x33 0xff (s6Byte a 13) (s6Byte a 14) (s6Byte a 15),0⟩
  | .null => default

/-- The groups a tap with addresses `ips` is meant to be subscribed to. -/
def groupsOf (ips : List InetAddress) : Finset MulticastGroup :=
  (ips.map deriveMulticastGroupForAddressResolution).toFinset

/-- What a scan leaves: the caller's `added` and `removed` with the groups
pushed onto them, and the new `_multicastGroups`. -/
structure ScanResult where
  added : List MulticastGroup
  removed : List MulticastGroup
  multicastGroups : List MulticastGroup

/-- `VirtualTap::scanMulticastGroups(added, removed)` on a tap with
addresses `ips` and groups `multicastGroups`; `fill` is what `std::unique`
leaves past its new end. -/
def scanMulticastGroups (fill : List MulticastGroup → Nat → MulticastGroup) (ips : List InetAddress)
    (multicastGroups added removed : List MulticastGroup) : ScanResult :=
  let newGroups := ips.map deriveMulticastGroupForAddressResolution
  let newGroups := sort MulticastGroup.lt newGroups
  -- `std::unique(newGroups.begin(),newGroups.end())`, its result unused
  let newGroups := unique fill newGroups
  let added := added ++ newGroups.filter fun m => !binarySearch MulticastGroup.lt multicastGroups m
  let removed := removed ++ multicastGroups.filter fun m => !binarySearch MulticastGroup.lt newGroups m
  ⟨added,removed,newGroups⟩

/-- The new `_multicastGroups`: the sorted groups, repeats kept in number. -/
theorem scanMulticastGroups_multicastGroups (fill : List MulticastGroup → Nat → MulticastGroup)
    (ips : List InetAddress) (multicastGroups added removed : List MulticastGroup) :
    (scanMulticastGroups fill ips multicastGroups added removed).multicastGroups =
      unique fill (sort MulticastGroup.lt (ips.map deriveMulticastGroupForAddressResolution)) := rfl

theorem length_scanMulticastGroups (fill : List MulticastGroup → Nat → MulticastGroup)
    (ips : List InetAddress) (multicastGroups added removed : List MulticastGroup) :
    (scanMulticastGroups fill ips multicastGroups added removed).multicastGroups.length = ips.length := by
  rw [scanMulticastGroups_multicastGroups,length_unique,(sort_perm _ _).length_eq,List.length_map]

/-- A scan is the exact diff from `prev` to `G`: the new groups are `G`,
strictly increasing, and what is pushed onto `added` and `removed` is
`G \ prev` and `prev \ G`, each group once. -/
structure ExactDiff (prev G : Finset MulticastGroup) (added removed : List MulticastGroup) (r : ScanResult) :
    Prop where
  sorted : r.multicastGroups.SortedLT
  toFinset_multicastGroups : r.multicastGroups.toFinset = G
  added_eq : ∃ l, r.added = added ++ l ∧ l.Nodup ∧ l.toFinset = G \ prev
  removed_eq : ∃ l, r.removed = removed ++ l ∧ l.Nodup ∧ l.toFinset = prev \ G

/-- The part of a strictly increasing list not in a sorted one: once each,
and as a set the difference. -/
theorem filter_not_binarySearch_diff {l m : List MulticastGroup} (hl : l.SortedLE) (hm : m.Nodup) :
    (m.filter fun x => !binarySearch MulticastGroup.lt l x).Nodup ∧
      (m.filter fun x => !binarySearch MulticastGroup.lt l x).toFinset = m.toFinset \ l.toFinset := by
  rw [filter_not_binarySearch MulticastGroup.lt_eq_true_iff hl]
  refine ⟨hm.filter _,?_⟩
  ext x
  simp

/-- With distinct groups `std::unique` leaves the sorted groups as they are,
and the scan diffs them against `prev`. -/
theorem scanMulticastGroups_of_nodup (fill : List MulticastGroup → Nat → MulticastGroup) {ips : List InetAddress}
    (hinj : (ips.map deriveMulticastGroupForAddressResolution).Nodup) (prev added removed : List MulticastGroup) :
    scanMulticastGroups fill ips prev added removed =
      let newGroups := sort MulticastGroup.lt (ips.map deriveMulticastGroupForAddressResolution)
      ⟨added ++ newGroups.filter (fun m => !binarySearch MulticastGroup.lt prev m),
        removed ++ prev.filter (fun m => !binarySearch MulticastGroup.lt newGroups m),newGroups⟩ := by
  have hsorted := sortedLT_sort MulticastGroup.lt_eq_true_iff hinj
  simp only [scanMulticastGroups,unique_of_nodup fill hsorted.sortedLE hsorted.nodup]

/-- Addresses whose groups are distinct give the exact diff from any
strictly increasing previous list: no group repeats, so `std::unique` has no
tail and both searches run on sorted lists. -/
theorem scanMulticastGroups_exact (fill : List MulticastGroup → Nat → MulticastGroup) {ips : List InetAddress}
    (hinj : (ips.map deriveMulticastGroupForAddressResolution).Nodup) {prev : List MulticastGroup}
    (hprev : prev.SortedLT) (added removed : List MulticastGroup) :
    ExactDiff prev.toFinset (groupsOf ips) added removed (scanMulticastGroups fill ips prev added removed) := by
  have hsorted := sortedLT_sort MulticastGroup.lt_eq_true_iff hinj
  have hset : (sort MulticastGroup.lt (ips.map deriveMulticastGroupForAddressResolution)).toFinset = groupsOf ips :=
    List.toFinset_eq_of_perm _ _ (sort_perm _ _)
  obtain ⟨hadd,hadd'⟩ := filter_not_binarySearch_diff hprev.sortedLE hsorted.nodup
  obtain ⟨hrem,hrem'⟩ := filter_not_binarySearch_diff hsorted.sortedLE hprev.nodup
  rw [scanMulticastGroups_of_nodup fill hinj]
  exact ⟨hsorted,hset,⟨_,rfl,hadd,hset ▸ hadd'⟩,⟨_,rfl,hrem,hset ▸ hrem'⟩⟩

/-- A tap's `_multicastGroups` from one scan to the next: the scan's step on
the addresses the tap has at the time. -/
def scanStep (fill : List MulticastGroup → Nat → MulticastGroup) (multicastGroups : List MulticastGroup)
    (ips : List InetAddress) : List MulticastGroup :=
  (scanMulticastGroups fill ips multicastGroups [] []).multicastGroups

/-- A scan whose addresses give distinct groups. -/
def DistinctGroups (_ : List MulticastGroup) (ips : List InetAddress) : Prop :=
  (ips.map deriveMulticastGroupForAddressResolution).Nodup

/-- Along every run of scans from a new tap (`_multicastGroups` empty) in
which each scan's addresses give distinct groups, every scan is the exact
diff from the groups the previous one left: the invariant that those are
strictly increasing is carried from scan to scan. -/
theorem scanRun_exact (fill : List MulticastGroup → Nat → MulticastGroup) {runs : List (List InetAddress)}
    (hrun : GuardedRun (scanStep fill) DistinctGroups [] runs) {ips : List InetAddress}
    (hips : (ips.map deriveMulticastGroupForAddressResolution).Nodup) (added removed : List MulticastGroup) :
    let prev := run (scanStep fill) [] runs
    ExactDiff prev.toFinset (groupsOf ips) added removed (scanMulticastGroups fill ips prev added removed) := by
  have hsorted : (run (scanStep fill) [] runs).SortedLT := by
    refine guardedRun_invariant (P := List.SortedLT) ?_ runs List.Pairwise.nil.sortedLT hrun
    intro mg ips hmg hdistinct
    exact (scanMulticastGroups_exact fill hdistinct hmg [] []).sorted
  exact scanMulticastGroups_exact fill hips hsorted added removed

/-- A list with one entry per address cannot be the groups strictly
increasing once two addresses share a group. -/
theorem not_sortedLT_groupsOf {ips : List InetAddress} (hdup : ¬ (ips.map deriveMulticastGroupForAddressResolution).Nodup)
    {mg : List MulticastGroup} (hlen : mg.length = ips.length) : ¬ (mg.SortedLT ∧ mg.toFinset = groupsOf ips) := by
  rintro ⟨hs,hset⟩
  apply hdup
  have hcard : (groupsOf ips).card = ips.length := by rw [← hset,List.toFinset_card_of_nodup hs.nodup,hlen]
  rw [groupsOf,List.card_toFinset] at hcard
  rw [← List.dedup_eq_self]
  exact (List.dedup_sublist _).eq_of_length (by rw [hcard,List.length_map])

/-- Two addresses of a tap with one group give a repeat among its groups. -/
theorem not_nodup_of_derive_eq {ips : List InetAddress} {x y : InetAddress} (hx : x ∈ ips) (hy : y ∈ ips)
    (hxy : x ≠ y) (hg : deriveMulticastGroupForAddressResolution x = deriveMulticastGroupForAddressResolution y) :
    ¬ (ips.map deriveMulticastGroupForAddressResolution).Nodup :=
  fun hn => hxy (List.inj_on_of_nodup_map hn hx hy hg)

/-- A tap reaches such addresses: `addIp` keeps the same IPv4 address under
two netmasks, since the netmask bits are part of the address. -/
theorem repeated_group_reachable (t : Nat) (a : UInt32) {p q : UInt16} (hpq : p ≠ q) :
    ∃ d, runOpt TapDriver.step TapDriver.init [.addIp t (.v4 p a),.addIp t (.v4 q a)] = some d ∧
      ¬ ((d.ips t).map deriveMulticastGroupForAddressResolution).Nodup := by
  refine ⟨_,TapDriver.runOpt_addIps TapDriver.init [(t,.v4 p a),(t,.v4 q a)],?_⟩
  -- both addresses are in the tap's set
  have hset : ∀ ip, ip ∈ [InetAddress.v4 p a,.v4 q a] →
      ip ∈ (([(t,InetAddress.v4 p a),(t,.v4 q a)].foldl (fun d p => d.addIp p.1 p.2) TapDriver.init).ips t) := by
    intro ip hip
    rw [← List.mem_toFinset]
    simp only [List.foldl_cons,List.foldl_nil,TapDriver.ips_addIp,Function.update_self,
      SortedSet.toFinset_insertSorted]
    simp only [List.mem_cons,List.not_mem_nil,or_false] at hip
    rcases hip with rfl | rfl <;> simp
  exact not_nodup_of_derive_eq (hset (.v4 p a) (by simp)) (hset (.v4 q a) (by simp))
    (fun h => hpq (InetAddress.v4.inj h).1) rfl

theorem scanMulticastGroups_keeps_repeated_groups (fill : List MulticastGroup → Nat → MulticastGroup)
    {ips : List InetAddress} (hdup : ¬ (ips.map deriveMulticastGroupForAddressResolution).Nodup)
    (prev added removed : List MulticastGroup) :
    let r := scanMulticastGroups fill ips prev added removed
    r.multicastGroups.length = ips.length ∧ ¬ ExactDiff prev.toFinset (groupsOf ips) added removed r := by
  have hlen := length_scanMulticastGroups fill ips prev added removed
  refine ⟨hlen,fun hexact => ?_⟩
  exact not_sortedLT_groupsOf hdup hlen ⟨hexact.sorted,hexact.toFinset_multicastGroups⟩

/-- `10.0.0.1/16` and `10.0.0.1/24`, two addresses a tap can hold at once,
scanned with what libstdc++ leaves in the tail. -/
theorem scanMulticastGroups_keeps_repeated_groups_two_netmasks :
    let ips := [InetAddress.v4 0x1000 0x0100000a,InetAddress.v4 0x1800 0x0100000a]
    let r := scanMulticastGroups libstdcxxFill ips [] [] []
    r.multicastGroups.length = ips.length ∧ ¬ ExactDiff ([] : List MulticastGroup).toFinset (groupsOf ips) [] [] r :=
  scanMulticastGroups_keeps_repeated_groups libstdcxxFill (by simp [deriveMulticastGroupForAddressResolution]) [] [] []

end V2rayZt.Libzt
