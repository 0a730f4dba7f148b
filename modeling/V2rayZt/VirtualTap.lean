import V2rayZt.Lib.Machine
import V2rayZt.Lib.SortedSet
import V2rayZt.InetAddress
import V2rayZt.RxRouting
import Mathlib.Data.Finset.Basic

/-! `VirtualTap::addIp` and `removeIp` (`VirtualTap.cpp`) with `lwip_init_interface` (`lwIP.cpp`).
A tap's `_ips` refine the set of addresses added and not removed; the ten netif slots record
every `addIp`, with no bound check and no de-registration. -/
namespace V2rayZt.Libzt
open V2rayZt.Machine V2rayZt.SortedSet V2rayZt.ZeroTier

def lwipInterfacesSize : Nat := 10

/-- `x << s` on a `uint32_t`: undefined for a count of 32 or more. -/
def shl32? (x s : UInt32) : Option UInt32 := if s.toNat < 32 then some (x <<< s) else none

/-- A filled netif slot: the tap it was registered for (`lwipdev->state =
tapref`), the address passed to `lwip_init_interface`, and the netif, `none`
where computing it was undefined. -/
structure NetifSlot where
  tap : Nat
  ip : InetAddress
  netif : Option Netif

/-- What address management touches: the `_ips` of every `VirtualTap`, by
position, and the slots `lwipInterfaces[0..lwipInterfacesCount)`. -/
structure TapDriver where
  ips : Nat → List InetAddress
  lwipInterfaces : List NetifSlot

namespace TapDriver

def init : TapDriver := ⟨fun _ => [],[]⟩

/-- `Utils::hton` of a 32-bit word on a little-endian host. -/
def hton32 (x : UInt32) : UInt32 :=
  (x <<< 24) ||| ((x <<< 8) &&& (0x00FF0000 : UInt32)) ||| ((x >>> 8) &&& (0x0000FF00 : UInt32)) |||
    (x >>> 24)

/-- `Utils::ntoh` of a 16-bit word on a little-endian host. -/
def ntoh16 (x : UInt16) : UInt16 := (x <<< 8) ||| (x >>> 8)

/-- `ip.netmask().rawIpData()` of an IPv4 address whose `sin_port` holds the
netmask bits: `hton(0xffffffff << (32 - netmaskBits()))`, undefined for 0
bits and for more than 32. -/
def netmask4 (sinPort : UInt16) : Option UInt32 :=
  (shl32? 0xffffffff (32 - (ntoh16 sinPort).toUInt32)).map hton32

/-- A slot no `netif_add` has filled: the zero bytes of the static array. -/
def zeroNetif : Netif := ⟨.null,.null,0,0,0,false⟩

/-- `lwip_init_interface(tapref, mac, ip)`: configure the slot
`lwipInterfaces[lwipInterfacesCount]` for `ip` and count it. -/
def lwipInitInterface (d : TapDriver) (tap : Nat) (ip : InetAddress) : TapDriver :=
  let netif := match ip with
    | .v4 sinPort sAddr => (netmask4 sinPort).map fun m => netifInit4 sAddr m true
    | .v6 .. => some (netifInit6 true)
    | .null => some zeroNetif
  { d with lwipInterfaces := d.lwipInterfaces ++ [⟨tap,ip,netif⟩] }

/-- `std::sort` with `InetAddress::operator<`. -/
def sortIps (l : List InetAddress) : List InetAddress := l.mergeSort (fun a b => !InetAddress.lt b a)

/-- `VirtualTap::addIp` on tap `tap`: `registerIpWithStack(ip)` first, then
`push_back` and `std::sort` unless `std::find` finds `ip`. -/
def addIp (d : TapDriver) (tap : Nat) (ip : InetAddress) : TapDriver :=
  let d := d.lwipInitInterface tap ip
  if ip ∈ d.ips tap then d
  else { d with ips := Function.update d.ips tap (sortIps (d.ips tap ++ [ip])) }

/-- `VirtualTap::removeIp` on tap `tap`: `_ips.erase(std::find(...))`. When
`ip` is absent the iterator is `end()` and erasing it is undefined behaviour
(`none`); nothing is de-registered from the stack. -/
def removeIp (d : TapDriver) (tap : Nat) (ip : InetAddress) : Option TapDriver :=
  if ip ∈ d.ips tap then some { d with ips := Function.update d.ips tap ((d.ips tap).erase ip) }
  else none

inductive TapOp where
  | addIp (tap : Nat) (ip : InetAddress)
  | removeIp (tap : Nat) (ip : InetAddress)

def step (d : TapDriver) : TapOp → Option TapDriver
  | .addIp tap ip => some (d.addIp tap ip)
  | .removeIp tap ip => d.removeIp tap ip

/-- The registrations made so far, as (tap, address) pairs in slot order. -/
def registry (d : TapDriver) : List (Nat × InetAddress) :=
  d.lwipInterfaces.map fun s => (s.tap,s.ip)

def registration : TapOp → List (Nat × InetAddress)
  | .addIp tap ip => [(tap,ip)]
  | .removeIp .. => []

@[simp] theorem ips_lwipInitInterface (d : TapDriver) (tap : Nat) (ip : InetAddress) :
    (d.lwipInitInterface tap ip).ips = d.ips := rfl

@[simp] theorem registry_lwipInitInterface (d : TapDriver) (tap : Nat) (ip : InetAddress) :
    (d.lwipInitInterface tap ip).registry = d.registry ++ [(tap,ip)] := by
  simp [lwipInitInterface,registry]

theorem sortIps_eq (l : List InetAddress) : sortIps l = l.mergeSort (fun a b => decide (a ≤ b)) := by
  simp only [sortIps,InetAddress.not_lt_swap_eq]

/-- On a tap's addresses `addIp` is a sorted-set insertion. -/
theorem ips_addIp (d : TapDriver) (tap : Nat) (ip : InetAddress) :
    (d.addIp tap ip).ips = Function.update d.ips tap (insertSorted ip (d.ips tap)) := by
  by_cases h : ip ∈ d.ips tap
  · simp [addIp,insertSorted,h]
  · simp [addIp,insertSorted,h,sortIps_eq]

@[simp] theorem registry_addIp (d : TapDriver) (tap : Nat) (ip : InetAddress) :
    (d.addIp tap ip).registry = d.registry ++ [(tap,ip)] := by
  by_cases h : ip ∈ d.ips tap <;> simp [addIp,h,registry,lwipInitInterface]

/-- Everything `removeIp` can do: it is defined exactly when the address is
present, and then erases it from that tap and touches nothing else. -/
theorem removeIp_eq_some {d d' : TapDriver} {tap : Nat} {ip : InetAddress} :
    d.removeIp tap ip = some d' ↔
      ip ∈ d.ips tap ∧ d' = { d with ips := Function.update d.ips tap ((d.ips tap).erase ip) } := by
  unfold removeIp
  split_ifs with h <;> simp [h,eq_comm]

@[simp] theorem length_registry (d : TapDriver) : d.registry.length = d.lwipInterfaces.length := by
  simp [registry]

theorem runOpt_addIps (d : TapDriver) (l : List (Nat × InetAddress)) :
    runOpt step d (l.map fun p => .addIp p.1 p.2) = some (l.foldl (fun d p => d.addIp p.1 p.2) d) := by
  induction l generalizing d with
  | nil => rfl
  | cons p l ih => exact ih (d.addIp p.1 p.2)

end TapDriver

open TapDriver

/-- What a tap's addresses are meant to be: for each tap, the set of
addresses added to it and not removed since. -/
def liveIps (A : Nat → Finset InetAddress) : TapOp → Nat → Finset InetAddress
  | .addIp tap ip => Function.update A tap (insert ip (A tap))
  | .removeIp tap ip => Function.update A tap ((A tap).erase ip)

/-- A driver's taps hold the abstract sets `A`: each `_ips` is strictly
increasing and has exactly the addresses of its set. -/
structure IpsRefine (d : TapDriver) (A : Nat → Finset InetAddress) : Prop where
  sorted : ∀ tap, (d.ips tap).SortedLT
  toFinset_eq : ∀ tap, (d.ips tap).toFinset = A tap

namespace IpsRefine

theorem init : IpsRefine TapDriver.init (fun _ => ∅) :=
  ⟨fun _ => List.Pairwise.nil.sortedLT,fun _ => rfl⟩

theorem update {d d' : TapDriver} {A : Nat → Finset InetAddress} (h : IpsRefine d A)
    {tap : Nat} {l : List InetAddress} {S : Finset InetAddress}
    (hips : d'.ips = Function.update d.ips tap l) (hl : l.SortedLT) (hS : l.toFinset = S) :
    IpsRefine d' (Function.update A tap S) := by
  constructor
  · intro t
    by_cases ht : t = tap
    · subst ht; simpa [hips] using hl
    · simpa [hips,ht] using h.sorted t
  · intro t
    by_cases ht : t = tap
    · subst ht; simpa [hips] using hS
    · simpa [hips,ht] using h.toFinset_eq t

theorem addIp {d : TapDriver} {A : Nat → Finset InetAddress} (h : IpsRefine d A)
    (tap : Nat) (ip : InetAddress) : IpsRefine (d.addIp tap ip) (liveIps A (.addIp tap ip)) :=
  h.update (ips_addIp d tap ip) (sortedLT_insertSorted (h.sorted tap) ip)
    (by rw [toFinset_insertSorted,h.toFinset_eq])

theorem removeIp {d d' : TapDriver} {A : Nat → Finset InetAddress} (h : IpsRefine d A)
    {tap : Nat} {ip : InetAddress} (he : d.removeIp tap ip = some d') :
    IpsRefine d' (liveIps A (.removeIp tap ip)) := by
  obtain ⟨-,rfl⟩ := removeIp_eq_some.1 he
  exact h.update rfl (sortedLT_erase (h.sorted tap) ip)
    (by rw [toFinset_erase (h.sorted tap).nodup,h.toFinset_eq])

theorem step {d d' : TapDriver} {A : Nat → Finset InetAddress} (h : IpsRefine d A)
    {op : TapOp} (he : d.step op = some d') : IpsRefine d' (liveIps A op) := by
  cases op with
  | addIp tap ip => cases he; exact h.addIp tap ip
  | removeIp tap ip => exact h.removeIp he

end IpsRefine

/-- On every run whose calls are all defined, each tap's `_ips` is strictly
increasing and holds exactly the addresses added to it and not removed since. -/
theorem ips_refine_liveIps {ops : List TapOp} {d : TapDriver}
    (h : runOpt TapDriver.step TapDriver.init ops = some d) :
    IpsRefine d (run liveIps (fun _ => ∅) ops) :=
  runOpt_simulate (fun _ _ _ _ hR he => hR.step he) ops IpsRefine.init h

theorem run_append_registration (r : List (Nat × InetAddress)) (ops : List TapOp) :
    run (fun r op => r ++ registration op) r ops = r ++ ops.flatMap registration := by
  induction ops generalizing r with
  | nil => simp
  | cons op ops ih => simp [ih]

/-- The stack's slots record every `addIp` call of a defined run, in order,
duplicates and removed addresses included. -/
theorem registry_runOpt {ops : List TapOp} {d d' : TapDriver}
    (h : runOpt TapDriver.step d ops = some d') :
    d'.registry = d.registry ++ ops.flatMap registration := by
  have hstep : ∀ (d : TapDriver) (r : List (Nat × InetAddress)) (op : TapOp) d',
      d.registry = r → d.step op = some d' → d'.registry = r ++ registration op := by
    rintro d r (⟨tap,ip⟩ | ⟨tap,ip⟩) d' rfl he
    · cases he; simp [registration]
    · obtain ⟨-,rfl⟩ := removeIp_eq_some.1 he
      simp [registry,registration]
  rw [← run_append_registration]
  exact runOpt_simulate hstep ops rfl h

/-- Adding and then removing an address leaves it registered while `_ips` is
empty; adding it twice registers it twice; removing an absent address is
undefined; eleven additions take more than the ten slots. -/
theorem tap_registry_diverges (a : InetAddress) :
    (runOpt TapDriver.step TapDriver.init [.addIp 0 a,.removeIp 0 a]).map
        (fun d => (d.ips 0,d.registry)) = some ([],[(0,a)]) ∧
      (runOpt TapDriver.step TapDriver.init [.addIp 0 a,.addIp 0 a]).map
        (fun d => (d.ips 0,d.registry)) = some ([a],[(0,a),(0,a)]) ∧
      runOpt TapDriver.step TapDriver.init [.removeIp 0 a] = none ∧
      ∃ d, runOpt TapDriver.step TapDriver.init (List.replicate 11 (.addIp 0 a)) = some d ∧
        lwipInterfacesSize < d.lwipInterfaces.length := by
  refine ⟨?_,?_,?_,?_⟩
  · simp [runOpt_cons,TapDriver.step,TapDriver.addIp,TapDriver.removeIp,TapDriver.init,
      TapDriver.lwipInitInterface,sortIps,registry]
  · simp [runOpt_cons,TapDriver.step,TapDriver.addIp,TapDriver.init,TapDriver.lwipInitInterface,
      sortIps,registry]
  · simp [runOpt_cons,TapDriver.step,TapDriver.removeIp,TapDriver.init]
  · have hops : List.replicate 11 (TapOp.addIp 0 a) =
        (List.replicate 11 (0,a)).map fun p => .addIp p.1 p.2 := by
      simp
    rw [hops]
    refine ⟨_,runOpt_addIps _ _,?_⟩
    have hlen := congrArg List.length
      (registry_runOpt (runOpt_addIps TapDriver.init (List.replicate 11 (0,a))))
    rw [length_registry] at hlen
    rw [hlen]
    simp [lwipInterfacesSize,TapDriver.init,registry,registration]

end V2rayZt.Libzt
