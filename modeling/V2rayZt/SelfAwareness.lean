import V2rayZt.InetScope
import V2rayZt.Lib.Json
import V2rayZt.Lib.Machine

/-! `SelfAwareness` (`SelfAwareness.cpp`): the table of the node's external addresses as peers
report them (`iam`), its expiry (`clean`), and the port guesses for a symmetric NAT. -/
namespace V2rayZt.ZeroTier
open V2rayZt.Libzt V2rayZt.Machine

namespace SelfAwareness

def ztSelfawarenessEntryTimeout : UInt64 := 600000

structure PhySurfaceKey where
  reporter : UInt64
  receivedOnLocalSocket : Int64
  reporterPhysicalAddress : InetAddress
  scope : IpScope
  deriving DecidableEq

structure PhySurfaceEntry where
  mySurface : InetAddress
  ts : UInt64
  trusted : Bool
  deriving DecidableEq

/-- `PhySurfaceEntry()`, the entry `operator[]` adds for a new key. -/
def PhySurfaceEntry.empty : PhySurfaceEntry := ⟨.null,0,false⟩

/-- `Hashtable<PhySurfaceKey,PhySurfaceEntry>`: its entries in the order its
iterator visits them, the keys distinct. -/
structure PhyTable where
  entries : List (PhySurfaceKey × PhySurfaceEntry)
  nodup : (entries.map Prod.fst).Nodup

namespace PhyTable

def empty : PhyTable := ⟨[],List.nodup_nil⟩

/-- `_phy[k]`, read: the entry, or the one `operator[]` adds. -/
def get (t : PhyTable) (k : PhySurfaceKey) : PhySurfaceEntry := (t.entries.lookup k).getD .empty

/-- `_phy[k] = e`. -/
def set (t : PhyTable) (k : PhySurfaceKey) (e : PhySurfaceEntry) : PhyTable :=
  ⟨LinkedMap.put t.entries k e,LinkedMap.nodup_put t.nodup k e⟩

/-- A loop over the iterator that erases the key it returned where `p` fails. -/
def filter (t : PhyTable) (p : PhySurfaceKey × PhySurfaceEntry → Bool) : PhyTable :=
  ⟨t.entries.filter p,(List.Sublist.map Prod.fst List.filter_sublist).nodup t.nodup⟩

theorem mem_set {t : PhyTable} {k : PhySurfaceKey} {e : PhySurfaceEntry} {ke : PhySurfaceKey × PhySurfaceEntry}
    (h : ke ∈ (t.set k e).entries) : ke = (k,e) ∨ ke ∈ t.entries :=
  LinkedMap.mem_put h

theorem mem_set_self (t : PhyTable) (k : PhySurfaceKey) (e : PhySurfaceEntry) : (k,e) ∈ (t.set k e).entries :=
  LinkedMap.mem_put_self ..

theorem mem_filter {t : PhyTable} {p : PhySurfaceKey × PhySurfaceEntry → Bool} {ke : PhySurfaceKey × PhySurfaceEntry} :
    ke ∈ (t.filter p).entries ↔ ke ∈ t.entries ∧ p ke = true :=
  List.mem_filter

end PhyTable

/-- `RR->t->resettingPathsInScope(...)`, after which every peer gets
`resetWithinScope` for the scope and the family of the new surface. -/
structure ResettingPathsInScope where
  reporter : UInt64
  reporterPhysicalAddress : InetAddress
  myPhysicalAddress : InetAddress
  scope : IpScope
  deriving DecidableEq

/-- `SelfAwareness::iam`: the table after the report, and the paths it resets.
The `int64_t` time is compared with the `uint64_t` stamps in unsigned
arithmetic. -/
def iam (phy : PhyTable) (reporter : UInt64) (receivedOnLocalSocket : Int64)
    (reporterPhysicalAddress myPhysicalAddress : InetAddress) (trusted : Bool) (now : Int64) :
    PhyTable × Option ResettingPathsInScope :=
  let scope := myPhysicalAddress.ipScope
  if scope ≠ reporterPhysicalAddress.ipScope ∨ scope = .ipScopeNone ∨ scope = .ipScopeLoopback ∨
      scope = .ipScopeMulticast then (phy,none)
  else
    let key : PhySurfaceKey := ⟨reporter,receivedOnLocalSocket,reporterPhysicalAddress,scope⟩
    let entry := phy.get key
    -- both branches write the same entry
    let written := phy.set key ⟨myPhysicalAddress,now.toUInt64,trusted⟩
    if trusted = true ∧ now.toUInt64 - entry.ts < ztSelfawarenessEntryTimeout ∧
        entry.mySurface.ipsEqual myPhysicalAddress = false then
      (written.filter fun ke => !(ke.1.reporterPhysicalAddress != reporterPhysicalAddress && ke.1.scope == scope),
        some ⟨reporter,reporterPhysicalAddress,myPhysicalAddress,scope⟩)
    else (written,none)

/-- `SelfAwareness::clean`. -/
def clean (phy : PhyTable) (now : Int64) : PhyTable :=
  phy.filter fun ke => !decide (now.toUInt64 - ke.2.ts ≥ ztSelfawarenessEntryTimeout)

/-! ### Symmetric NAT predictions -/

/-- The first loop of `getSymmetricNatPredictions`, over trusted global IPv4
surfaces: the first of them (`theOneTrueSurface`), whether another differs
from it, and the port of the last one seen at each address. -/
def trustedStep (acc : InetAddress × Bool × List (UInt32 × UInt32)) (ke : PhySurfaceKey × PhySurfaceEntry) :
    InetAddress × Bool × List (UInt32 × UInt32) :=
  match ke.2.mySurface with
  | s@(.v4 _ sAddr) =>
    if ke.2.trusted = true ∧ s.ipScope = .ipScopeGlobal then
      let theOneTrueSurface := if acc.1 = .null then s else acc.1
      let symmetric := acc.2.1 || (acc.1 != .null && acc.1 != s)
      (theOneTrueSurface,symmetric,LinkedMap.put acc.2.2 sAddr (port s))
    else acc
  | _ => acc

/-- The second loop: the highest port any global IPv4 surface at one of
those addresses was seen with. -/
def maxPortStep (maxPortByIp : List (UInt32 × UInt32)) (ke : PhySurfaceKey × PhySurfaceEntry) :
    List (UInt32 × UInt32) :=
  match ke.2.mySurface with
  | s@(.v4 _ sAddr) =>
    if s.ipScope = .ipScopeGlobal then
      match maxPortByIp.lookup sAddr with
      | some p => if p < port s then LinkedMap.put maxPortByIp sAddr (port s) else maxPortByIp
      | none => maxPortByIp
    else maxPortByIp
  | _ => maxPortByIp

/-- `InetAddress(&ip,4,port)`: `hton((uint16_t)port)` is the byte swap of
`ntoh`. -/
def ofIpPort (ip port : UInt32) : InetAddress := .v4 (TapDriver.ntoh16 port.toUInt16) ip

/-- `if (std::find(r.begin(),r.end(),pred) == r.end()) r.push_back(pred);` -/
def pushNew (r : List InetAddress) (pred : InetAddress) : List InetAddress := if pred ∈ r then r else r ++ [pred]

/-- The port after the highest one seen, wrapping past `65535` to `1025`. -/
def nextPort (maxPort : UInt32) : UInt32 :=
  let p := maxPort + 1
  if p > 65535 then p - 64511 else p

/-- `SelfAwareness::getSymmetricNatPredictions`; `prng i` is the `i`-th
value of `RR->node->prng()`. -/
def getSymmetricNatPredictions (phy : PhyTable) (prng : Nat → UInt64) : List InetAddress :=
  let first := phy.entries.foldl trustedStep (.null,false,[])
  if !first.2.1 then []
  else
    -- `std::map` visits its addresses in increasing order
    let maxPortByIp := (phy.entries.foldl maxPortStep first.2.2).mergeSort fun a b => decide (a.1 ≤ b.1)
    let r := maxPortByIp.foldl (fun r ipPort => pushNew r (ofIpPort ipPort.1 (nextPort ipPort.2))) []
    maxPortByIp.zipIdx.foldl
      (fun r ipPortI => pushNew r (ofIpPort ipPortI.1.1 (1024 + (prng ipPortI.2).toUInt32 % 64511))) r

/-! ### What a report records -/

/-- A scope that `iam` records reports in. -/
def Routable (scope : IpScope) : Prop :=
  scope ≠ .ipScopeNone ∧ scope ≠ .ipScopeLoopback ∧ scope ≠ .ipScopeMulticast

/-- The reports `iam` does not ignore: both addresses in one routable scope. -/
def Recorded (reporterPhysicalAddress myPhysicalAddress : InetAddress) : Prop :=
  myPhysicalAddress.ipScope = reporterPhysicalAddress.ipScope ∧ Routable myPhysicalAddress.ipScope

theorem recorded_of_not_ignored {rpa my : InetAddress}
    (h : ¬ (my.ipScope ≠ rpa.ipScope ∨ my.ipScope = .ipScopeNone ∨ my.ipScope = .ipScopeLoopback ∨
      my.ipScope = .ipScopeMulticast)) : Recorded rpa my := by
  simp only [not_or,ne_eq,not_not] at h
  exact ⟨h.1,h.2.1,h.2.2.1,h.2.2.2⟩

theorem mem_clean {phy : PhyTable} {now : Int64} {ke : PhySurfaceKey × PhySurfaceEntry} :
    ke ∈ (clean phy now).entries ↔ ke ∈ phy.entries ∧ now.toUInt64 - ke.2.ts < ztSelfawarenessEntryTimeout := by
  simp [clean,PhyTable.mem_filter]

section Iam
variable {phy : PhyTable} {reporter : UInt64} {sock : Int64} {rpa my : InetAddress} {trusted : Bool}
  {now : Int64}

/-- After `iam` the table holds what it held before, less what a reset
erased, and the report's own entry when the report is recorded. -/
theorem mem_iam {ke : PhySurfaceKey × PhySurfaceEntry} (h : ke ∈ (iam phy reporter sock rpa my trusted now).1.entries) :
    ke ∈ phy.entries ∨
      Recorded rpa my ∧ ke = (⟨reporter,sock,rpa,my.ipScope⟩,⟨my,now.toUInt64,trusted⟩) := by
  unfold iam at h
  dsimp only at h
  split_ifs at h with hign hreset
  · exact .inl h
  -- the reset erases entries and adds none
  · exact (PhyTable.mem_set (PhyTable.mem_filter.1 h).1).symm.imp_right fun h => ⟨recorded_of_not_ignored hign,h⟩
  · exact (PhyTable.mem_set h).symm.imp_right fun h => ⟨recorded_of_not_ignored hign,h⟩

/-- A recorded report is in the table afterwards, the reset included. -/
theorem mem_iam_self (h : Recorded rpa my) :
    (⟨reporter,sock,rpa,my.ipScope⟩,⟨my,now.toUInt64,trusted⟩) ∈ (iam phy reporter sock rpa my trusted now).1.entries := by
  obtain ⟨hscope,hnone,hloop,hmulti⟩ := h
  unfold iam
  dsimp only
  rw [if_neg (by simp only [not_or,ne_eq,not_not]; exact ⟨hscope,hnone,hloop,hmulti⟩)]
  split_ifs
  · exact PhyTable.mem_filter.2 ⟨PhyTable.mem_set_self .., by simp⟩
  · exact PhyTable.mem_set_self ..

/-- A reset leaves, in its scope, only the entries that the reporter's own
address reported. -/
theorem iam_reset {r : ResettingPathsInScope} (h : (iam phy reporter sock rpa my trusted now).2 = some r) :
    r = ⟨reporter,rpa,my,my.ipScope⟩ ∧
      ∀ ke ∈ (iam phy reporter sock rpa my trusted now).1.entries, ke.1.scope = my.ipScope →
        ke.1.reporterPhysicalAddress = rpa := by
  unfold iam at h ⊢
  dsimp only at h ⊢
  split_ifs at h ⊢
  · cases h
    refine ⟨rfl,fun ke hke hs => ?_⟩
    simpa [hs] using (PhyTable.mem_filter.1 hke).2

end Iam

/-! ### The table along a run -/

/-- The calls that change the table, each a whole call under `_phy_m`. -/
inductive Op where
  | iam (reporter : UInt64) (receivedOnLocalSocket : Int64) (reporterPhysicalAddress myPhysicalAddress : InetAddress)
      (trusted : Bool) (now : Int64)
  | clean (now : Int64)

def step (phy : PhyTable) : Op → PhyTable
  | .iam reporter sock rpa my trusted now => (iam phy reporter sock rpa my trusted now).1
  | .clean now => clean phy now

/-- The entry a call writes, if any. -/
def Reports : Op → PhySurfaceKey × PhySurfaceEntry → Prop
  | .iam reporter sock rpa my trusted now, ke =>
    Recorded rpa my ∧ ke = (⟨reporter,sock,rpa,my.ipScope⟩,⟨my,now.toUInt64,trusted⟩)
  | .clean _, _ => False

/-- Every entry of the table, after any run from the empty table, is one
that a recorded report of the run wrote. -/
theorem reported_of_mem_run {ops : List Op} {ke : PhySurfaceKey × PhySurfaceEntry}
    (h : ke ∈ (run step PhyTable.empty ops).entries) : ∃ op ∈ ops, Reports op ke := by
  refine run_invariant_of_mem (P := fun t : PhyTable => ∀ ke ∈ t.entries, ∃ op ∈ ops, Reports op ke) ?_
    (fun _ h => by simp [PhyTable.empty] at h) ke h
  intro t op hop ht ke hke
  cases op with
  | iam reporter sock rpa my trusted now =>
    rcases mem_iam hke with hold | hnew
    · exact ht ke hold
    · exact ⟨_,hop,hnew⟩
  | clean now => exact ht ke (mem_clean.1 hke).1

/-- Hence every entry sits under the scope of its surface, a routable one
that its reporter's address shares. -/
theorem scope_of_mem_run {ops : List Op} {ke : PhySurfaceKey × PhySurfaceEntry}
    (h : ke ∈ (run step PhyTable.empty ops).entries) :
    ke.1.scope = ke.2.mySurface.ipScope ∧ Recorded ke.1.reporterPhysicalAddress ke.2.mySurface := by
  obtain ⟨op,-,hop⟩ := reported_of_mem_run h
  cases op with
  | iam reporter sock rpa my trusted now =>
    obtain ⟨hrec,rfl⟩ := hop
    exact ⟨rfl,hrec⟩
  | clean now => exact hop.elim

/-! ### Where the predictions come from -/

/-- `ke` is a trusted report of the global IPv4 surface at `ip`. -/
def TrustedGlobalAt (ke : PhySurfaceKey × PhySurfaceEntry) (ip : UInt32) : Prop :=
  ke.2.trusted = true ∧ ke.2.mySurface.ipScope = .ipScopeGlobal ∧ ∃ p, ke.2.mySurface = .v4 p ip

theorem mem_trustedStep {acc : InetAddress × Bool × List (UInt32 × UInt32)} {ke : PhySurfaceKey × PhySurfaceEntry}
    {kv : UInt32 × UInt32} (h : kv ∈ (trustedStep acc ke).2.2) : kv ∈ acc.2.2 ∨ TrustedGlobalAt ke kv.1 := by
  unfold trustedStep at h
  dsimp only at h
  split at h
  · rename_i p sAddr hs
    -- the first surface is chosen by an inner `if`, which the keys do not see
    split at h
    · rename_i hc
      rcases LinkedMap.mem_put h with rfl | hmem
      · exact .inr ⟨hc.1,hs ▸ hc.2,p,hs⟩
      · exact .inl hmem
    · exact .inl h
  · exact .inl h

theorem mem_foldl_trustedStep {l : List (PhySurfaceKey × PhySurfaceEntry)} {acc : InetAddress × Bool × List (UInt32 × UInt32)}
    {kv : UInt32 × UInt32} (h : kv ∈ (l.foldl trustedStep acc).2.2) :
    kv ∈ acc.2.2 ∨ ∃ ke ∈ l, TrustedGlobalAt ke kv.1 := by
  induction l generalizing acc with
  | nil => exact .inl h
  | cons ke l ih =>
    rcases ih h with hacc | ⟨ke',hke',ht⟩
    · exact (mem_trustedStep hacc).imp_right fun ht => ⟨ke,List.mem_cons_self ..,ht⟩
    · exact .inr ⟨ke',List.mem_cons_of_mem ke hke',ht⟩

/-- The second loop only raises the ports of addresses already there. -/
theorem mem_maxPortStep {m : List (UInt32 × UInt32)} {ke : PhySurfaceKey × PhySurfaceEntry} {kv : UInt32 × UInt32}
    (h : kv ∈ maxPortStep m ke) : ∃ v, (kv.1,v) ∈ m := by
  unfold maxPortStep at h
  split at h
  · split_ifs at h
    · split at h
      · rename_i p hp
        split_ifs at h
        · rcases LinkedMap.mem_put h with rfl | hmem
          · exact ⟨p,LinkedMap.mem_of_lookup_eq_some hp⟩
          · exact ⟨kv.2,hmem⟩
        · exact ⟨kv.2,h⟩
      · exact ⟨kv.2,h⟩
    · exact ⟨kv.2,h⟩
  · exact ⟨kv.2,h⟩

theorem mem_foldl_maxPortStep {l : List (PhySurfaceKey × PhySurfaceEntry)} {m : List (UInt32 × UInt32)}
    {kv : UInt32 × UInt32} (h : kv ∈ l.foldl maxPortStep m) : ∃ v, (kv.1,v) ∈ m := by
  induction l generalizing m with
  | nil => exact ⟨kv.2,h⟩
  | cons ke l ih =>
    obtain ⟨v,hv⟩ := ih h
    obtain ⟨v',hv'⟩ := mem_maxPortStep hv
    exact ⟨v',hv'⟩

theorem mem_foldl_pushNew {β : Type*} (f : β → InetAddress) (l : List β) {r : List InetAddress} {a : InetAddress}
    (h : a ∈ l.foldl (fun r x => pushNew r (f x)) r) : a ∈ r ∨ ∃ x ∈ l, a = f x := by
  induction l generalizing r with
  | nil => exact .inl h
  | cons x l ih =>
    rcases ih h with hr | ⟨y,hy,rfl⟩
    · simp only [pushNew] at hr
      split_ifs at hr
      · exact .inl hr
      · rcases List.mem_append.1 hr with hr | hx
        · exact .inl hr
        · exact .inr ⟨x,List.mem_cons_self ..,List.mem_singleton.1 hx⟩
    · exact .inr ⟨y,List.mem_cons_of_mem x hy,rfl⟩

theorem nodup_foldl_pushNew {β : Type*} (f : β → InetAddress) (l : List β) {r : List InetAddress}
    (h : r.Nodup) : (l.foldl (fun r x => pushNew r (f x)) r).Nodup := by
  induction l generalizing r with
  | nil => exact h
  | cons x l ih =>
    refine ih ?_
    simp only [pushNew]
    split_ifs with hx
    · exact h
    · exact List.nodup_append.2 ⟨h,List.nodup_singleton _,fun a ha b hb => by
        rw [List.mem_singleton.1 hb]
        exact fun hab => hx (hab ▸ ha)⟩

/-- Every address of `maxPortByIp` is the surface of a trusted global report. -/
theorem trustedGlobalAt_of_mem_maxPortByIp {phy : PhyTable} {ipPort : UInt32 × UInt32}
    (h : ipPort ∈ (phy.entries.foldl maxPortStep (phy.entries.foldl trustedStep (.null,false,[])).2.2).mergeSort
      fun a b => decide (a.1 ≤ b.1)) : ∃ ke ∈ phy.entries, TrustedGlobalAt ke ipPort.1 := by
  obtain ⟨v,hv⟩ := mem_foldl_maxPortStep (List.mem_mergeSort.1 h)
  rcases mem_foldl_trustedStep hv with hnil | hk
  · simp at hnil
  · exact hk

/-- Every prediction is at the address of a trusted report of a global IPv4
surface, as the security note of `getSymmetricNatPredictions` requires. -/
theorem mem_getSymmetricNatPredictions {phy : PhyTable} {prng : Nat → UInt64} {a : InetAddress}
    (h : a ∈ getSymmetricNatPredictions phy prng) :
    ∃ ke ∈ phy.entries, ∃ ip port, TrustedGlobalAt ke ip ∧ a = ofIpPort ip port := by
  unfold getSymmetricNatPredictions at h
  dsimp only at h
  split_ifs at h
  · simp at h
  -- the random ports after the next ports, both over the addresses of `maxPortByIp`
  rcases mem_foldl_pushNew _ _ h with hr | ⟨x,hx,rfl⟩
  · rcases mem_foldl_pushNew _ _ hr with hnil | ⟨x,hx,rfl⟩
    · simp at hnil
    · obtain ⟨ke,hke,ht⟩ := trustedGlobalAt_of_mem_maxPortByIp hx
      exact ⟨ke,hke,_,_,ht,rfl⟩
  · obtain ⟨ke,hke,ht⟩ := trustedGlobalAt_of_mem_maxPortByIp (List.fst_mem_of_mem_zipIdx hx)
    exact ⟨ke,hke,_,_,ht,rfl⟩

theorem getSymmetricNatPredictions_nodup (phy : PhyTable) (prng : Nat → UInt64) :
    (getSymmetricNatPredictions phy prng).Nodup := by
  unfold getSymmetricNatPredictions
  dsimp only
  split_ifs
  · exact List.nodup_nil
  · exact nodup_foldl_pushNew _ _ (nodup_foldl_pushNew _ _ List.nodup_nil)

/-- Over every run of reports and cleanups, each symmetric NAT prediction is
at an IPv4 address that a trusted report of the run gave as a global
surface: an untrusted peer cannot place an address among the predictions. -/
theorem symmetricNatPredictions_trusted (ops : List Op) (prng : Nat → UInt64) {a : InetAddress}
    (h : a ∈ getSymmetricNatPredictions (run step PhyTable.empty ops) prng) :
    ∃ reporter sock rpa p ip now port, Op.iam reporter sock rpa (.v4 p ip) true now ∈ ops ∧
      (InetAddress.v4 p ip).ipScope = .ipScopeGlobal ∧ a = ofIpPort ip port := by
  obtain ⟨ke,hke,ip,port,⟨htr,hglobal,p,hs⟩,rfl⟩ := mem_getSymmetricNatPredictions h
  obtain ⟨op,hop,hrep⟩ := reported_of_mem_run hke
  cases op with
  | iam reporter sock rpa my trusted now =>
    obtain ⟨-,rfl⟩ := hrep
    dsimp only at htr hglobal hs
    subst htr hs
    exact ⟨reporter,sock,rpa,p,ip,now,port,hop,hglobal,rfl⟩
  | clean now => exact hrep.elim

/-- Two trusted reports of different global surfaces make the node predict,
and the next port at the second address is a prediction. -/
theorem symmetricNatPredictions_trusted_two_surfaces :
    ofIpPort 0x08080808 1 ∈ getSymmetricNatPredictions (run step PhyTable.empty
        [.iam 1 0 (.v4 0 0x08080808) (.v4 0 0x04040404) true 0,
          .iam 2 0 (.v4 0 0x08080808) (.v4 0 0x08080808) true 0]) (fun _ => 0) ∧
      ∃ reporter sock rpa p ip now port,
        Op.iam reporter sock rpa (.v4 p ip) true now ∈
          [.iam 1 0 (.v4 0 0x08080808) (.v4 0 0x04040404) true 0,
            .iam 2 0 (.v4 0 0x08080808) (.v4 0 0x08080808) true 0] ∧
        (InetAddress.v4 p ip).ipScope = .ipScopeGlobal ∧ ofIpPort 0x08080808 1 = ofIpPort ip port := by
  have h : ofIpPort 0x08080808 1 ∈ getSymmetricNatPredictions (run step PhyTable.empty
      [.iam 1 0 (.v4 0 0x08080808) (.v4 0 0x04040404) true 0,
        .iam 2 0 (.v4 0 0x08080808) (.v4 0 0x08080808) true 0]) (fun _ => 0) := by
    unfold getSymmetricNatPredictions
    dsimp only
    -- the two addresses arrive in increasing order, so the sort keeps them
    rw [List.mergeSort_of_pairwise (by decide +kernel)]
    decide +kernel
  exact ⟨h,symmetricNatPredictions_trusted _ _ h⟩

end SelfAwareness

end V2rayZt.ZeroTier
