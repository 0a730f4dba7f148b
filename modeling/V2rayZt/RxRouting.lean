import V2rayZt.GuardedRxQueue

/-! What the lwIP driver (`lwIP.cpp`) does with the references of a received pbuf, under lwIP's
rule that an input returning `ERR_OK` takes one and a failed one none. They balance exactly for
the IP frames that one netif accepts. -/
namespace V2rayZt.Libzt

/-- The output routines the driver's netifs point to; `null` is the zero
pointer of a slot that no `netif_add` has filled. -/
inductive OutputFn where
  | etharpOutput | ethip6Output | netifNullOutputIp6 | null
  deriving DecidableEq

/-- `NETIF_FLAG_UP`, `NETIF_FLAG_BROADCAST`, `NETIF_FLAG_LINK_UP`,
`NETIF_FLAG_ETHARP`, `NETIF_FLAG_ETHERNET`, `NETIF_FLAG_IGMP`, `NETIF_FLAG_MLD6`. -/
def netifFlagUp : UInt8 := 0x01
def netifFlagBroadcast : UInt8 := 0x02
def netifFlagLinkUp : UInt8 := 0x04
def netifFlagEtharp : UInt8 := 0x08
def netifFlagEthernet : UInt8 := 0x10
def netifFlagIgmp : UInt8 := 0x20
def netifFlagMld6 : UInt8 := 0x40

/-- The fields of a `struct netif` that `my_tcpip_callback` reads; `state`
records whether `netif->state` is non-null and addresses are the stored
(network order) 32-bit words. -/
structure Netif where
  output : OutputFn
  outputIp6 : OutputFn
  ip4Addr : UInt32
  netmask : UInt32
  flags : UInt8
  state : Bool
  deriving DecidableEq

/-- An IPv4 netif as `lwip_init_interface` sets it up: `netif_add` with the
address and netmask, `netif_init_4`, then `lwipdev->state = tapref`. -/
def netifInit4 (ipaddr netmask : UInt32) (tapref : Bool) : Netif where
  output := .etharpOutput
  outputIp6 := .netifNullOutputIp6
  ip4Addr := ipaddr
  netmask := netmask
  flags := netifFlagBroadcast ||| netifFlagEtharp ||| netifFlagEthernet ||| netifFlagIgmp |||
    netifFlagLinkUp ||| netifFlagUp
  state := tapref

/-- An IPv6 netif as `lwip_init_interface` sets it up: `netif_add` with no
IPv4 address, `netif_init_6`, `lwipdev->state = tapref`, then
`netif_set_up` and `netif_set_link_up`. -/
def netifInit6 (tapref : Bool) : Netif where
  output := .etharpOutput
  outputIp6 := .ethip6Output
  ip4Addr := 0
  netmask := 0
  flags := netifFlagBroadcast ||| netifFlagEtharp ||| netifFlagEthernet ||| netifFlagIgmp |||
    netifFlagMld6 ||| netifFlagUp ||| netifFlagLinkUp
  state := tapref

/-- `ip4_addr_isbroadcast_u32` of lwIP. -/
def ip4AddrIsbroadcastU32 (addr : UInt32) (netif : Netif) : Bool :=
  if ~~~addr = 0 ∨ addr = 0 then true
  else if netif.flags &&& netifFlagBroadcast = 0 then false
  else if addr = netif.ip4Addr then false
  else addr &&& netif.netmask = netif.ip4Addr &&& netif.netmask ∧
    addr &&& ~~~netif.netmask = 0xFFFFFFFF &&& ~~~netif.netmask

/-- `ETHTYPE_IP`, `ETHTYPE_ARP`, `ETHTYPE_IPV6`. -/
def ethtypeIp : UInt16 := 0x0800
def ethtypeArp : UInt16 := 0x0806
def ethtypeIpv6 : UInt16 := 0x86DD

/-- What the driver does to the references of one pbuf. -/
inductive PbufOp where
  | alloc | ref | free
  /-- a call of `netif->input` and whether it returned `ERR_OK` -/
  | input (ok : Bool)
  deriving DecidableEq

/-- The loop of the IPv6 and the IPv4 case: the frame goes to every netif
(from index `i` on) that `sel` picks, until an input fails. `input i` is
whether `lwipInterfaces[i].input` returns `ERR_OK`. -/
def inputEach (sel : Netif → Bool) (input : Nat → Bool) : Nat → List Netif → List PbufOp
  | _, [] => []
  | i, n :: ns =>
    if sel n then
      if input i then .input true :: inputEach sel input (i+1) ns
      -- "packet input error": `break`
      else [.input false]
    else inputEach sel input (i+1) ns

/-- The loop of the ARP case: the first netif with a `state` gets a
`pbuf_ref` and then the frame. -/
def inputArp (input : Nat → Bool) : Nat → List Netif → List PbufOp
  | _, [] => []
  | i, n :: ns => if n.state then [.ref,.input (input i)] else inputArp input (i+1) ns

/-- The `switch` of `my_tcpip_callback` on a frame of Ethernet type `type`
whose IPv4 header, if any, has destination `dest`. -/
def routeFrame (lwipInterfaces : List Netif) (input : Nat → Bool) (type : UInt16)
    (dest : UInt32) : List PbufOp :=
  if type = ethtypeIpv6 then inputEach (fun n => n.outputIp6 = .ethip6Output) input 0 lwipInterfaces
  else if type = ethtypeIp then
    inputEach (fun n => n.output = .etharpOutput ∧ (n.ip4Addr = dest ∨ ip4AddrIsbroadcastU32 dest n))
      input 0 lwipInterfaces
  else if type = ethtypeArp then inputArp input 0 lwipInterfaces
  else []

/-- The driver's operations on a pbuf that `pbuf_alloc` returned, given how
`lwip_eth_rx` ended and, for a queued frame, what the `switch` did with it. -/
def frameOps (exit : RxQueue.RxExit) (route : List PbufOp) : List PbufOp :=
  match exit with
  | .queued => .alloc :: route
  | _ => [.alloc]

/-- References the driver takes: `pbuf_alloc` and `pbuf_ref`. -/
def taken (ops : List PbufOp) : Nat := ops.count .alloc+ops.count .ref

/-- References given away: `pbuf_free` and inputs that returned `ERR_OK`. -/
def released (ops : List PbufOp) : Nat := ops.count .free+ops.count (.input true)

/-- Every reference taken is given away exactly once. -/
def Balanced (ops : List PbufOp) : Prop := released ops = taken ops

instance (ops : List PbufOp) : Decidable (Balanced ops) := inferInstanceAs (Decidable (_ = _))

theorem mem_inputEach {sel : Netif → Bool} {input : Nat → Bool} {i : Nat} {ns : List Netif}
    {op : PbufOp} (h : op ∈ inputEach sel input i ns) : ∃ ok, op = .input ok := by
  induction ns generalizing i with
  | nil => simp [inputEach] at h
  | cons n ns ih =>
    simp only [inputEach] at h
    split_ifs at h
    · rcases List.mem_cons.mp h with rfl | h
      · exact ⟨true,rfl⟩
      · exact ih h
    · simp only [List.mem_singleton] at h
      exact ⟨false,h⟩
    · exact ih h

theorem inputArp_cases (input : Nat → Bool) (i : Nat) (ns : List Netif) :
    inputArp input i ns = [] ∨ ∃ ok, inputArp input i ns = [.ref,.input ok] := by
  induction ns generalizing i with
  | nil => exact .inl rfl
  | cons n ns ih =>
    simp only [inputArp]
    split
    · exact .inr ⟨_,rfl⟩
    · exact ih (i+1)

theorem taken_alloc_cons (ops : List PbufOp) : taken (.alloc :: ops) = taken ops+1 := by
  simp only [taken,List.count_cons_self,List.count_cons,beq_iff_eq,reduceCtorEq,if_false]
  omega

theorem released_alloc_cons (ops : List PbufOp) : released (.alloc :: ops) = released ops := by
  simp [released]

/-- A loop that only calls `input` takes no reference and gives away one
per accepted input. -/
theorem inputEach_balance (sel : Netif → Bool) (input : Nat → Bool) (i : Nat) (ns : List Netif) :
    taken (inputEach sel input i ns) = 0 ∧
      released (inputEach sel input i ns) = (inputEach sel input i ns).count (.input true) := by
  have hnot : ∀ op, (∀ ok, op ≠ .input ok) → (inputEach sel input i ns).count op = 0 := by
    intro op hop
    apply List.count_eq_zero.mpr
    intro hmem
    obtain ⟨ok,rfl⟩ := mem_inputEach hmem
    exact hop ok rfl
  simp only [taken,released,hnot .alloc (fun _ => by simp),hnot .ref (fun _ => by simp),
    hnot .free (fun _ => by simp)]
  simp

/-- The references of a queued frame balance exactly when it is an IPv4 or
IPv6 frame that one netif accepted: an ARP frame keeps the reference of the
`pbuf_ref` (or, with no netif to take it, the one of the allocation), any
other type keeps the allocation's, and an IP frame accepted by no netif or
by several keeps or gives away too many. -/
theorem routeFrame_balanced_iff (lwipInterfaces : List Netif) (input : Nat → Bool)
    (type : UInt16) (dest : UInt32) :
    Balanced (frameOps .queued (routeFrame lwipInterfaces input type dest)) ↔
      (type = ethtypeIpv6 ∨ type = ethtypeIp) ∧
        (routeFrame lwipInterfaces input type dest).count (.input true) = 1 := by
  simp only [frameOps,Balanced,taken_alloc_cons,released_alloc_cons]
  unfold routeFrame
  split_ifs with h6 h4 ha
  · obtain ⟨ht,hr⟩ := inputEach_balance (fun n => n.outputIp6 = .ethip6Output) input 0 lwipInterfaces
    rw [ht,hr]
    simp [h6]
  · obtain ⟨ht,hr⟩ := inputEach_balance
      (fun n => n.output = .etharpOutput ∧ (n.ip4Addr = dest ∨ ip4AddrIsbroadcastU32 dest n))
      input 0 lwipInterfaces
    rw [ht,hr]
    simp [h4]
  · have hne : ¬(type = ethtypeIpv6 ∨ type = ethtypeIp) := by simp [h6,h4]
    simp only [hne,false_and,iff_false]
    rcases inputArp_cases input 0 lwipInterfaces with h | ⟨ok,h⟩
    · rw [h]
      simp [taken,released]
    · rw [h]
      cases ok <;> simp [taken,released]
  · simp [h6,h4,taken,released]

/-- Every early return of `lwip_eth_rx` after a successful `pbuf_alloc`
leaks the pbuf: nothing frees it. -/
theorem frameOps_early_unbalanced {exit : RxQueue.RxExit} (hexit : exit ≠ .queued)
    (route : List PbufOp) : ¬Balanced (frameOps exit route) := by
  cases exit <;> simp_all [frameOps,Balanced,taken,released]

/-- The receive path is not reference balanced. A frame received while no
netif is configured is dropped with its pbuf; an ARP frame input into the
one IPv4 netif keeps the reference of its `pbuf_ref`; an IPv6 frame that two
IPv6 netifs accept gives away two references where it holds one. -/
theorem rx_path_unbalanced :
    (RxQueue.init.lwipEthRx (some (0 : Nat)) sizeofEthHdr 0).1 = .noNetif ∧
      ¬Balanced (frameOps .noNetif []) ∧
      ¬Balanced (frameOps .queued
        (routeFrame [netifInit4 0x0A000002 0xFFFFFF00 true] (fun _ => true) ethtypeArp 0)) ∧
      ¬Balanced (frameOps .queued
        (routeFrame [netifInit6 true,netifInit6 true] (fun _ => true) ethtypeIpv6 0)) := by
  decide

end V2rayZt.Libzt
