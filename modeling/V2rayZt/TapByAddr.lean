import V2rayZt.InetSubnet
import V2rayZt.Lib.OptionSearch

/-! `getTapByAddr(addr)` (`ZT1Service.cpp`): the first tap in `vtaps` whose addresses or routes
match `addr`, `none` where a test shifts past its width. With netmask bits in range, every
address a tap holds goes to that tap or an earlier one. -/
namespace V2rayZt.Libzt
open V2rayZt.ZeroTier V2rayZt.ZeroTier.InetAddress V2rayZt.BitPrefix V2rayZt.OptionSearch V2rayZt.Machine

/-- The tests made of one of a tap's addresses, behind the address-scheme
check and in the order `||` evaluates them. -/
def ipMatches (ip addr : InetAddress) : Option Bool :=
  if (ip.isV4 && addr.isV4) || (ip.isV6 && addr.isV6) then do
    if ← ip.isEqualPrefix addr then return true
    if ip.ipsEqual addr then return true
    if ← ip.containsAddress addr then return true
    if addr.isV6 then ipv6InSubnet ip addr else return false
  else pure false

/-- One managed route: `nm = target.netmask()` is computed, and not read,
before `target.containsAddress(addr)`. -/
def routeMatches (target addr : InetAddress) : Option Bool := do
  let _ ← target.netmask
  target.containsAddress addr

/-- Whether the walk stops at tap `t`: one of its `_ips` matches, or else one
of the routes of its network, `zt1Service->getRoutes(s->_nwid)`, contains
`addr`. `tap` is never assigned in the loop, so the `tap == NULL` guard on the
routes always holds. -/
def tapMatches (d : TapDriver) (routes : Nat → List InetAddress) (addr : InetAddress) (t : Nat) : Option Bool := do
  if ← (d.ips t).anyM (ipMatches · addr) then return true
  (routes t).anyM (routeMatches · addr)

/-- `getTapByAddr(addr)` over `vtaps[0..n)`: the first tap that matches. -/
def getTapByAddr (d : TapDriver) (routes : Nat → List InetAddress) (n : Nat) (addr : InetAddress) :
    Option (Option Nat) :=
  (List.range n).findM? (tapMatches d routes addr)

/-- Netmask bits from 1 to the family's width, where every shift of the tests
is defined; the null address has none to take. -/
def NetmaskOk (ip : InetAddress) : Prop :=
  ip = .null ∨ 1 ≤ (netmaskBits ip).toNat ∧ (netmaskBits ip).toNat ≤ ip.familyBits

instance : DecidablePred NetmaskOk := fun _ => inferInstanceAs (Decidable (_ ∨ _))

/-- The addresses and routes of the first `n` taps all have such bits. -/
def TapsOk (d : TapDriver) (routes : Nat → List InetAddress) (n : Nat) : Prop :=
  ∀ t < n, (∀ ip ∈ d.ips t, NetmaskOk ip) ∧ ∀ r ∈ routes t, NetmaskOk r

/-! ### When the tests are defined -/

theorem netmaskOk_v4 {p : UInt16} {a : UInt32} (h : NetmaskOk (.v4 p a)) :
    1 ≤ (netmaskBits (.v4 p a)).toNat ∧ (netmaskBits (.v4 p a)).toNat ≤ 32 := by
  simpa [NetmaskOk,familyBits] using h

theorem netmaskOk_v6 {p : UInt16} {f s : UInt32} {a : BitVec 128} (h : NetmaskOk (.v6 p f a s)) :
    1 ≤ (netmaskBits (.v6 p f a s)).toNat ∧ (netmaskBits (.v6 p f a s)).toNat ≤ 128 := by
  simpa [NetmaskOk,familyBits] using h

theorem ipMatches_v4 {p p' : UInt16} {a b : UInt32} (h32 : (netmaskBits (.v4 p a)).toNat ≤ 32) :
    ipMatches (.v4 p a) (.v4 p' b) =
      some (a == b || decide (SamePrefix (netmaskBits (.v4 p a)).toNat (ntoh32 b).toBitVec (ntoh32 a).toBitVec)) := by
  simp only [ipMatches,isV4,isV6,Bool.and_self,Bool.or_false,if_true,isEqualPrefix,ipsEqual_v4,containsAddress_v4 h32,
    Option.pure_def,Option.bind_eq_bind,Option.bind_some,Bool.false_eq_true,if_false]
  exact ite_some_or _ _

section V6
variable {p : UInt16} {f s : UInt32} {a : BitVec 128}

theorem isEqualPrefix_isSome_v6 {p' : UInt16} {f' s' : UInt32} {b : BitVec 128} (h128 : (netmaskBits (.v6 p f a s)).toNat ≤ 128)
    (h128' : (netmaskBits (.v6 p' f' b s')).toNat ≤ 128) : (isEqualPrefix (.v6 p f a s) (.v6 p' f' b s')).isSome := by
  simp [isEqualPrefix,netmask_v6 h128,netmask_v6 h128']

theorem ipv6InSubnet_isSome_v6 (h1 : 1 ≤ (netmaskBits (.v6 p f a s)).toNat)
    (h128 : (netmaskBits (.v6 p f a s)).toNat ≤ 128) (p' : UInt16) (f' s' : UInt32) (b : BitVec 128) :
    (ipv6InSubnet (.v6 p f a s) (.v6 p' f' b s')).isSome := by
  obtain ⟨m0,m1,hm0,hm1,-⟩ := netmask_eq h1 h128
  rw [ipv6InSubnet_v6 m0 m1 hm0 hm1]
  rfl

/-- Between IPv6 addresses every test is defined once both netmasks are, and
`_ipv6_in_subnet` has a bit to shift by. -/
theorem ipMatches_isSome_v6 {p' : UInt16} {f' s' : UInt32} {b : BitVec 128} (h1 : 1 ≤ (netmaskBits (.v6 p f a s)).toNat)
    (h128 : (netmaskBits (.v6 p f a s)).toNat ≤ 128) (h128' : (netmaskBits (.v6 p' f' b s')).toNat ≤ 128) :
    (ipMatches (.v6 p f a s) (.v6 p' f' b s')).isSome := by
  obtain ⟨e,he⟩ := Option.isSome_iff_exists.1 (isEqualPrefix_isSome_v6 h128 h128')
  obtain ⟨c,hc⟩ := Option.isSome_iff_exists.1 (ipv6InSubnet_isSome_v6 h1 h128 p' f' s' b)
  simp only [ipMatches,isV4,isV6,Bool.and_self,Bool.or_true,if_true,he,containsAddress_v6 h128,hc,Option.pure_def,
    Option.bind_eq_bind,Option.bind_some]
  split_ifs <;> rfl

end V6

theorem ipMatches_isSome {ip addr : InetAddress} (hip : NetmaskOk ip)
    (haddr : addr.isV6 → (netmaskBits addr).toNat ≤ 128) : (ipMatches ip addr).isSome := by
  rcases ip with _ | ⟨p,a⟩ | ⟨p,f,a,s⟩ <;> rcases addr with _ | ⟨p',b⟩ | ⟨p',f',b,s'⟩
  -- addresses of two families fail the scheme check
  all_goals try rfl
  · rw [ipMatches_v4 (netmaskOk_v4 hip).2]
    rfl
  · exact ipMatches_isSome_v6 (netmaskOk_v6 hip).1 (netmaskOk_v6 hip).2 (haddr rfl)

theorem routeMatches_isSome {r : InetAddress} (hr : NetmaskOk r) (addr : InetAddress) :
    (routeMatches r addr).isSome := by
  rcases r with _ | ⟨p,a⟩ | ⟨p,f,a,s⟩
  · rfl
  · obtain ⟨h1,h32⟩ := netmaskOk_v4 hr
    -- the unused netmask is defined, and only `containsAddress` is left
    have hnm : routeMatches (.v4 p a) addr = (InetAddress.v4 p a).containsAddress addr := by
      simp [routeMatches,netmask,shl32?_thirtyTwo_sub h1 h32]
    rw [hnm]
    rcases addr with _ | ⟨p',b⟩ | ⟨p',f',b,s'⟩
    · rfl
    · rw [containsAddress_v4 h32]
      rfl
    · rfl
  · obtain ⟨-,h128⟩ := netmaskOk_v6 hr
    have hnm : routeMatches (.v6 p f a s) addr = (InetAddress.v6 p f a s).containsAddress addr := by
      simp [routeMatches,netmask_v6 h128]
    rw [hnm]
    rcases addr with _ | ⟨p',b⟩ | ⟨p',f',b,s'⟩
    · rfl
    · rfl
    · rw [containsAddress_v6 h128]
      rfl

/-! ### What matches -/

theorem ipMatches_of_isEqualPrefix {ip addr : InetAddress} (h : ip.isEqualPrefix addr = some true) :
    ipMatches ip addr = some true := by
  rcases ip with _ | ⟨p,a⟩ | ⟨p,f,a,s⟩ <;> rcases addr with _ | ⟨p',b⟩ | ⟨p',f',b,s'⟩
  case v6.v6 =>
    simp only [ipMatches,isV4,isV6,Bool.and_self,Bool.or_true,if_true,h,Option.bind_eq_bind,Option.bind_some]
    rfl
  -- `isEqualPrefix` is `false` unless both addresses are IPv6
  all_goals simp [isEqualPrefix] at h

/-- A tap's address matches itself: by `ipsEqual` for IPv4 and already by
`isEqualPrefix` for IPv6. -/
theorem ipMatches_self {addr : InetAddress} (hok : NetmaskOk addr) (hnull : addr ≠ .null) :
    ipMatches addr addr = some true := by
  rcases addr with _ | ⟨p,a⟩ | ⟨p,f,a,s⟩
  · exact absurd rfl hnull
  · rw [ipMatches_v4 (netmaskOk_v4 hok).2]
    simp
  · apply ipMatches_of_isEqualPrefix
    rw [isEqualPrefix_v6 (netmaskOk_v6 hok).2 rfl]
    simp

/-- A tap's rfc4193 address matches every rfc4193 address of its network. -/
theorem ipMatches_rfc4193 (nwid zeroTierAddress zeroTierAddress' : UInt64) :
    ipMatches (makeIpv6rfc4193 nwid zeroTierAddress) (makeIpv6rfc4193 nwid zeroTierAddress') = some true := by
  apply ipMatches_of_isEqualPrefix
  rw [isEqualPrefix_rfc4193]
  simp

/-- An IPv6 `addr` whose netmask bits, its port, pass 128 makes the first
comparison with an IPv6 address undefined: `addr.netmask()` is taken. -/
theorem ipMatches_eq_none {ip addr : InetAddress} (hip : ip.isV6) (h6 : addr.isV6)
    (hport : 128 < (netmaskBits addr).toNat) : ipMatches ip addr = none := by
  rcases ip with _ | ⟨p,a⟩ | ⟨p,f,a,s⟩ <;> simp only [isV6,Bool.false_eq_true] at hip
  rcases addr with _ | ⟨p',b⟩ | ⟨p',f',b,s'⟩ <;> simp only [isV6,Bool.false_eq_true] at h6
  simp [ipMatches,isV4,isV6,isEqualPrefix,netmask_v6_eq_none hport]

section Taps
variable {d : TapDriver} {routes : Nat → List InetAddress} {n t : Nat} {addr : InetAddress}

theorem tapMatches_isSome (hok : TapsOk d routes n) (haddr : addr.isV6 → (netmaskBits addr).toNat ≤ 128)
    (ht : t < n) : (tapMatches d routes addr t).isSome := by
  rw [tapMatches,anyM_of_defined fun ip hip => ipMatches_isSome ((hok t ht).1 ip hip) haddr,
    anyM_of_defined fun r hr => routeMatches_isSome ((hok t ht).2 r hr) addr]
  cases (d.ips t).any (value (ipMatches · addr)) <;> rfl

theorem tapMatches_of_ipMatches (hok : TapsOk d routes n) (haddr : addr.isV6 → (netmaskBits addr).toNat ≤ 128)
    (ht : t < n) {ip : InetAddress} (hip : ip ∈ d.ips t) (hm : ipMatches ip addr = some true) :
    tapMatches d routes addr t = some true := by
  have hany : (d.ips t).any (value (ipMatches · addr)) = true :=
    List.any_eq_true.2 ⟨ip,hip,value_eq_true_iff.2 hm⟩
  rw [tapMatches,anyM_of_defined fun ip hip => ipMatches_isSome ((hok t ht).1 ip hip) haddr,hany]
  rfl

/-- With every test defined, an address one of tap `t`'s addresses matches
goes to tap `t` or an earlier one. -/
theorem getTapByAddr_le_of_ipMatches (hok : TapsOk d routes n)
    (haddr : addr.isV6 → (netmaskBits addr).toNat ≤ 128) (ht : t < n) {ip : InetAddress} (hip : ip ∈ d.ips t)
    (hm : ipMatches ip addr = some true) : ∃ t' ≤ t, getTapByAddr d routes n addr = some (some t') := by
  obtain ⟨j,hj,hfind,-⟩ := findM?_range_le (fun j hj => tapMatches_isSome hok haddr hj) ht
    (tapMatches_of_ipMatches hok haddr ht hip hm)
  exact ⟨j,hj,hfind⟩

/-- Past the taps that do not match, a tap holding an IPv6 address makes the
search undefined for an IPv6 `addr` whose port is above 128: `getTapByAddr`
reads that port as `addr`'s netmask bits. -/
theorem getTapByAddr_port_undefined (ht : t < n) (hpre : ∀ j < t, tapMatches d routes addr j = some false)
    (hv6 : ∃ ip ∈ d.ips t, ip.isV6) (h6 : addr.isV6) (hport : 128 < (netmaskBits addr).toNat) :
    getTapByAddr d routes n addr = none := by
  -- the first IPv6 address of the tap is the first comparison that is made
  obtain ⟨ip,hfind⟩ := Option.isSome_iff_exists.1 (List.find?_isSome.2 hv6)
  obtain ⟨hip,pre,post,hsplit,hpre4⟩ := List.find?_eq_some_iff_append.1 hfind
  have hskip : ∀ y ∈ pre, ipMatches y addr = some false := by
    intro y hy
    have hy6 : y.isV6 = false := by simpa using hpre4 y hy
    rcases y with _ | ⟨_,_⟩ | ⟨_,_,_,_⟩ <;> rcases addr with _ | ⟨_,_⟩ | ⟨_,_,_,_⟩ <;>
      simp_all [ipMatches,isV4,isV6]
  have htap : tapMatches d routes addr t = none := by
    rw [tapMatches,hsplit,anyM_eq_none hskip (ipMatches_eq_none hip h6 hport)]
    rfl
  exact findM?_range_eq_none ht hpre htap

/-- With every test defined, a peer's rfc4193 address goes to the first tap
holding an rfc4193 address of the peer's network, or to an earlier tap: the
`/88` prefix test compares the whole network id. -/
theorem getTapByAddr_rfc4193 (hok : TapsOk d routes n) (ht : t < n) {nwid zeroTierAddress : UInt64}
    (hmine : makeIpv6rfc4193 nwid zeroTierAddress ∈ d.ips t) (peer : UInt64) :
    ∃ t' ≤ t, getTapByAddr d routes n (makeIpv6rfc4193 nwid peer) = some (some t') :=
  getTapByAddr_le_of_ipMatches hok (fun _ => by rw [netmaskBits_rfc4193]; decide) ht hmine
    (ipMatches_rfc4193 nwid zeroTierAddress peer)

end Taps

/-- Every address live on a tap in the abstract model was there at the start
or was added to that tap by a call of the run. -/
theorem mem_run_liveIps {A : Nat → Finset InetAddress} {ops : List TapDriver.TapOp} {t : Nat} {x : InetAddress}
    (h : x ∈ run liveIps A ops t) : x ∈ A t ∨ (t,x) ∈ ops.flatMap TapDriver.registration := by
  induction ops generalizing A with
  | nil => exact Or.inl h
  | cons op ops ih =>
    rw [List.flatMap_cons,List.mem_append]
    rcases ih h with h | h
    · -- one abstract step only adds the address of an `addIp`
      cases op with
      | addIp tap ip =>
        by_cases ht : t = tap
        · subst ht
          rcases Finset.mem_insert.1 (by simpa [liveIps] using h) with rfl | h
          · exact Or.inr (Or.inl (by simp [TapDriver.registration]))
          · exact Or.inl h
        · exact Or.inl (by simpa [liveIps,ht] using h)
      | removeIp tap ip =>
        by_cases ht : t = tap
        · subst ht
          exact Or.inl (Finset.mem_of_mem_erase (by simpa [liveIps] using h))
        · exact Or.inl (by simpa [liveIps,ht] using h)
    · exact Or.inr (Or.inr h)

/-- On every defined run of `addIp` and `removeIp` from the start whose added
addresses have netmask bits in range, with routes of such bits, an address
added to tap `t` and not removed since goes to tap `t` or an earlier one. -/
theorem getTapByAddr_live {ops : List TapDriver.TapOp} {d : TapDriver} (hrun : runOpt TapDriver.step TapDriver.init ops = some d)
    (hadded : ∀ q ∈ ops.flatMap TapDriver.registration, NetmaskOk q.2) {routes : Nat → List InetAddress} {n : Nat}
    (hroutes : ∀ t < n, ∀ r ∈ routes t, NetmaskOk r) {t : Nat} (ht : t < n) {addr : InetAddress}
    (hlive : addr ∈ run liveIps (fun _ => ∅) ops t) (hnull : addr ≠ .null) :
    ∃ t' ≤ t, getTapByAddr d routes n addr = some (some t') := by
  have hR := ips_refine_liveIps hrun
  have hips (t : Nat) (x : InetAddress) : x ∈ d.ips t ↔ x ∈ run liveIps (fun _ => ∅) ops t := by
    rw [← List.mem_toFinset,hR.toFinset_eq]
  -- what is live was added, so it has netmask bits in range
  have hlive_ok (t : Nat) (x : InetAddress) (hx : x ∈ run liveIps (fun _ => ∅) ops t) : NetmaskOk x :=
    (mem_run_liveIps hx).elim (fun h => absurd h (Finset.notMem_empty x)) (fun h => hadded _ h)
  have hok : TapsOk d routes n := fun t ht =>
    ⟨fun ip hip => hlive_ok t ip ((hips t ip).1 hip),hroutes t ht⟩
  have haddr := hlive_ok t addr hlive
  refine getTapByAddr_le_of_ipMatches hok (fun h6 => ?_) ht ((hips t addr).2 hlive) (ipMatches_self haddr hnull)
  rcases addr with _ | ⟨_,_⟩ | ⟨p,f,a,s⟩ <;> simp only [isV6,Bool.false_eq_true] at h6
  exact (netmaskOk_v6 haddr).2

theorem getTapByAddr_rfc4193_peer :
    (TapsOk (TapDriver.init.addIp 0 (makeIpv6rfc4193 0x8056c2e21c000001 0x89e92ceee5)) (fun _ => []) 1 ∧ 0 < 1 ∧
      makeIpv6rfc4193 0x8056c2e21c000001 0x89e92ceee5 ∈
        (TapDriver.init.addIp 0 (makeIpv6rfc4193 0x8056c2e21c000001 0x89e92ceee5)).ips 0) ∧
    ∃ t' ≤ 0, getTapByAddr (TapDriver.init.addIp 0 (makeIpv6rfc4193 0x8056c2e21c000001 0x89e92ceee5)) (fun _ => []) 1
      (makeIpv6rfc4193 0x8056c2e21c000001 0x1122334455) = some (some t') := by
  have hips : (TapDriver.init.addIp 0 (makeIpv6rfc4193 0x8056c2e21c000001 0x89e92ceee5)).ips 0 =
      [makeIpv6rfc4193 0x8056c2e21c000001 0x89e92ceee5] := by
    simp [TapDriver.addIp,TapDriver.init,TapDriver.sortIps]
  have hok : TapsOk (TapDriver.init.addIp 0 (makeIpv6rfc4193 0x8056c2e21c000001 0x89e92ceee5)) (fun _ => []) 1 := by
    intro t ht
    obtain rfl : t = 0 := by omega
    rw [hips]
    exact ⟨by decide,by simp⟩
  have hmine : makeIpv6rfc4193 0x8056c2e21c000001 0x89e92ceee5 ∈
      (TapDriver.init.addIp 0 (makeIpv6rfc4193 0x8056c2e21c000001 0x89e92ceee5)).ips 0 := by
    rw [hips]
    exact List.mem_singleton_self _
  exact ⟨⟨hok,by decide,hmine⟩,getTapByAddr_rfc4193 hok (by decide) hmine 0x1122334455⟩

theorem getTapByAddr_live_after_addIp :
    (runOpt TapDriver.step TapDriver.init [.addIp 0 (.v4 (TapDriver.ntoh16 24) 0x0511930a)] =
        some (TapDriver.init.addIp 0 (.v4 (TapDriver.ntoh16 24) 0x0511930a)) ∧
      (∀ q ∈ [TapDriver.TapOp.addIp 0 (.v4 (TapDriver.ntoh16 24) 0x0511930a)].flatMap TapDriver.registration,
        NetmaskOk q.2) ∧
      (∀ t < 1, ∀ r ∈ ([] : List InetAddress), NetmaskOk r) ∧ 0 < 1 ∧
      InetAddress.v4 (TapDriver.ntoh16 24) 0x0511930a ∈
        run liveIps (fun _ => ∅) [.addIp 0 (.v4 (TapDriver.ntoh16 24) 0x0511930a)] 0 ∧
      InetAddress.v4 (TapDriver.ntoh16 24) 0x0511930a ≠ .null) ∧
    ∃ t' ≤ 0, getTapByAddr (TapDriver.init.addIp 0 (.v4 (TapDriver.ntoh16 24) 0x0511930a)) (fun _ => []) 1
      (.v4 (TapDriver.ntoh16 24) 0x0511930a) = some (some t') := by
  have hadded : ∀ q ∈ [TapDriver.TapOp.addIp 0 (.v4 (TapDriver.ntoh16 24) 0x0511930a)].flatMap TapDriver.registration,
      NetmaskOk q.2 := by
    decide
  have hlive : InetAddress.v4 (TapDriver.ntoh16 24) 0x0511930a ∈
      run liveIps (fun _ => ∅) [.addIp 0 (.v4 (TapDriver.ntoh16 24) 0x0511930a)] 0 := by
    simp [liveIps]
  exact ⟨⟨rfl,hadded,by decide,by decide,hlive,by decide⟩,
    getTapByAddr_live rfl hadded (by decide) (by decide) hlive (by decide)⟩

theorem getTapByAddr_port_undefined_https :
    (0 < 1 ∧ (∀ j < 0, tapMatches (TapDriver.init.addIp 0 (makeIpv6rfc4193 0x8056c2e21c000001 0x89e92ceee5))
        (fun _ => []) (.v6 (TapDriver.ntoh16 443) 0 0xfd8056c2e21c000001999389e92ceee5 0) j = some false) ∧
      (∃ ip ∈ (TapDriver.init.addIp 0 (makeIpv6rfc4193 0x8056c2e21c000001 0x89e92ceee5)).ips 0, ip.isV6) ∧
      (InetAddress.v6 (TapDriver.ntoh16 443) 0 0xfd8056c2e21c000001999389e92ceee5 0).isV6 ∧
      128 < (netmaskBits (.v6 (TapDriver.ntoh16 443) 0 0xfd8056c2e21c000001999389e92ceee5 0)).toNat) ∧
    getTapByAddr (TapDriver.init.addIp 0 (makeIpv6rfc4193 0x8056c2e21c000001 0x89e92ceee5)) (fun _ => []) 1
      (.v6 (TapDriver.ntoh16 443) 0 0xfd8056c2e21c000001999389e92ceee5 0) = none := by
  have hv6 : ∃ ip ∈ (TapDriver.init.addIp 0 (makeIpv6rfc4193 0x8056c2e21c000001 0x89e92ceee5)).ips 0, ip.isV6 :=
    ⟨makeIpv6rfc4193 0x8056c2e21c000001 0x89e92ceee5,by simp [TapDriver.addIp,TapDriver.init,TapDriver.sortIps],rfl⟩
  exact ⟨⟨by decide,fun j hj => absurd hj (Nat.not_lt_zero j),hv6,rfl,by decide⟩,
    getTapByAddr_port_undefined (by decide) (fun j hj => absurd hj (Nat.not_lt_zero j)) hv6 rfl (by decide)⟩

end V2rayZt.Libzt
