import V2rayZt.Lib.Machine
import V2rayZt.Lib.TicketLock

/-! Start-up of the lwIP driver (`lwIP.cpp`): the callers of `lwip_driver_init` and the lwIP
thread in any interleaving, over the ticket lock `driver_m`, which one thread takes and another
gives back. The early return keeps the lock. -/
namespace V2rayZt.Libzt
open V2rayZt.Machine

/-- Where one `lwip_driver_init` call is. -/
inductive InitPc where
  | idle
  /-- in `driver_m.lock()`, spinning until `nowServing == myTicket` -/
  | spinning (myTicket : BitVec 16)
  /-- past `driver_m.lock()` -/
  | locked
  | returned
  deriving DecidableEq

def InitPc.inProgress : InitPc → Bool
  | .spinning _ | .locked => true
  | _ => false

/-- The shared state of start-up: `driver_m`, `lwip_driver_initialized`, the
calls of `lwip_driver_init` by caller, and how many `main_thread`s were started
and how many `tcpip_init_done` callbacks have run. -/
structure Driver where
  driverM : TicketLock 16
  lwipDriverInitialized : Bool
  callers : Nat → InitPc
  mainThreads : Nat
  initDones : Nat

namespace Driver

def init : Driver := ⟨TicketLock.init,false,fun _ => .idle,0,0⟩

/-- The atomic steps of start-up. -/
inductive Event where
  /-- caller `c` enters `lwip_driver_init`: the fetch-and-add of `driver_m.lock()` -/
  | lock (c : Nat)
  /-- the spin loop of caller `c` sees its ticket served -/
  | spin (c : Nat)
  /-- caller `c` reads `lwip_driver_initialized`, starts `main_thread` if it is
  unset, and returns -/
  | check (c : Nat)
  /-- the lwIP thread runs `tcpip_init_done` for a started `main_thread` -/
  | tcpipInitDone

def Event.isLock : Event → Bool
  | .lock _ => true
  | _ => false

def step (s : Driver) : Event → Option Driver
  | .lock c =>
    if s.callers c = .idle then
      some { s with driverM := s.driverM.takeTicket.2,
                    callers := Function.update s.callers c (.spinning s.driverM.takeTicket.1) }
    else none
  | .spin c =>
    match s.callers c with
    | .spinning myTicket =>
      if s.driverM.serves myTicket then some { s with callers := Function.update s.callers c .locked }
      else none
    | _ => none
  | .check c =>
    if s.callers c = .locked then
      -- the early return leaves `driver_m` locked
      if s.lwipDriverInitialized then some { s with callers := Function.update s.callers c .returned }
      else some { s with callers := Function.update s.callers c .returned, mainThreads := s.mainThreads + 1 }
    else none
  | .tcpipInitDone =>
    if s.initDones < s.mainThreads then
      some { s with lwipDriverInitialized := true, driverM := s.driverM.unlock, initDones := s.initDones + 1 }
    else none

variable {s s' : Driver} {c : Nat}

theorem step_lock (h : s.step (.lock c) = some s') :
    s.callers c = .idle ∧
      s' = { s with driverM := s.driverM.takeTicket.2,
                    callers := Function.update s.callers c (.spinning s.driverM.takeTicket.1) } := by
  simp only [step] at h
  split_ifs at h with hc
  exact ⟨hc,(Option.some.inj h).symm⟩

theorem step_spin (h : s.step (.spin c) = some s') :
    ∃ t, s.callers c = .spinning t ∧ s.driverM.serves t = true ∧
      s' = { s with callers := Function.update s.callers c .locked } := by
  simp only [step] at h
  split at h
  · rename_i t ht
    split_ifs at h with hs
    exact ⟨t,ht,hs,(Option.some.inj h).symm⟩
  · cases h

theorem step_check (h : s.step (.check c) = some s') :
    s.callers c = .locked ∧
      s' = { s with callers := Function.update s.callers c .returned,
                    mainThreads := if s.lwipDriverInitialized then s.mainThreads else s.mainThreads + 1 } := by
  simp only [step] at h
  split_ifs at h with hc hi <;> simp_all

theorem step_tcpipInitDone (h : s.step .tcpipInitDone = some s') :
    s.initDones < s.mainThreads ∧
      s' = { s with lwipDriverInitialized := true, driverM := s.driverM.unlock,
                    initDones := s.initDones + 1 } := by
  simp only [step] at h
  split_ifs at h with hd
  exact ⟨hd,(Option.some.inj h).symm⟩

/-- `driver_m` counts the `lwip_driver_init` entries as tickets taken and the
`tcpip_init_done` runs as unlocks. -/
theorem counts_step {k : Nat} (h : s.driverM.Counts k s.initDones) {e : Event}
    (he : s.step e = some s') :
    s'.driverM.Counts (if e.isLock then k+1 else k) s'.initDones := by
  cases e with
  | lock c => obtain ⟨-,rfl⟩ := step_lock he; exact h.takeTicket
  | spin c => obtain ⟨t,-,-,rfl⟩ := step_spin he; exact h
  | check c => obtain ⟨-,rfl⟩ := step_check he; exact h
  | tcpipInitDone => obtain ⟨-,rfl⟩ := step_tcpipInitDone he; exact h.unlock

theorem run_countLocks (k : Nat) (evs : List Event) :
    run (fun k e => if e.isLock then k+1 else k) k evs = k + evs.countP Event.isLock := by
  induction evs generalizing k with
  | nil => simp
  | cons e evs ih =>
    cases h : e.isLock
    · simp [ih,h]
    · simp [ih,h]; omega

theorem counts_runOpt {evs : List Event} (h : runOpt step init evs = some s) :
    s.driverM.Counts (evs.countP Event.isLock) s.initDones := by
  have hstep : ∀ (s : Driver) (k : Nat) (e : Event) s', s.driverM.Counts k s.initDones →
      s.step e = some s' → s'.driverM.Counts (if e.isLock then k+1 else k) s'.initDones :=
    fun _ _ _ _ hR he => counts_step hR he
  have hsim := runOpt_simulate hstep evs TicketLock.counts_init h
  rwa [run_countLocks,Nat.zero_add] at hsim

theorem initDones_le_runOpt {evs : List Event} (h : runOpt step init evs = some s) :
    s.initDones ≤ s.mainThreads := by
  refine runOpt_invariant (P := fun s : Driver => s.initDones ≤ s.mainThreads) ?_ evs le_rfl h
  intro s e s' hs he
  cases e with
  | lock c => obtain ⟨-,rfl⟩ := step_lock he; exact hs
  | spin c => obtain ⟨t,-,-,rfl⟩ := step_spin he; exact hs
  | check c => obtain ⟨-,rfl⟩ := step_check he; split_ifs <;> simp only <;> omega
  | tcpipInitDone => obtain ⟨hd,rfl⟩ := step_tcpipInitDone he; exact hd

/-- In every reachable state `driver_m` is free exactly when `lwip_driver_init`
has been entered as often as `tcpip_init_done` has run, modulo `2^16`; and
`tcpip_init_done` runs at most once per started `main_thread`. So with one
`main_thread`, every entry after the first leaves the lock held for good. -/
theorem driverM_free_iff {evs : List Event} (h : runOpt step init evs = some s) :
    (s.driverM.Free ↔ evs.countP Event.isLock % 2^16 = s.initDones % 2^16) ∧
      s.initDones ≤ s.mainThreads :=
  ⟨(counts_runOpt h).free_iff,initDones_le_runOpt h⟩

/-- Caller `c` spins on a ticket that is not served, the stack is up, and no
`tcpip_init_done` is still to come: nothing can ever unlock `driver_m` again. -/
structure Stalled (c : Nat) (t : BitVec 16) (s : Driver) : Prop where
  spinning : s.callers c = .spinning t
  not_served : s.driverM.serves t = false
  initialized : s.lwipDriverInitialized = true
  no_callback : s.initDones = s.mainThreads

theorem Stalled.step {t : BitVec 16} (h : Stalled c t s) {e : Event} (he : s.step e = some s') :
    Stalled c t s' := by
  cases e with
  | lock c' =>
    obtain ⟨hidle,rfl⟩ := step_lock he
    have hne : c ≠ c' := by rintro rfl; simp [h.spinning] at hidle
    exact ⟨by simp [hne,h.spinning],by simpa [TicketLock.serves] using h.not_served,
      h.initialized,h.no_callback⟩
  | spin c' =>
    obtain ⟨t',ht',hserve,rfl⟩ := step_spin he
    -- the caller that got through is not `c`, whose ticket is not served
    have hne : c ≠ c' := by
      rintro rfl
      rw [h.spinning] at ht'
      cases ht'
      simp [h.not_served] at hserve
    exact ⟨by simp [hne,h.spinning],h.not_served,h.initialized,h.no_callback⟩
  | check c' =>
    obtain ⟨hlocked,rfl⟩ := step_check he
    have hne : c ≠ c' := by rintro rfl; simp [h.spinning] at hlocked
    exact ⟨by simp [hne,h.spinning],h.not_served,h.initialized,by simp [h.initialized,h.no_callback]⟩
  | tcpipInitDone =>
    obtain ⟨hd,-⟩ := step_tcpipInitDone he
    exact absurd h.no_callback (Nat.ne_of_lt hd)

theorem Stalled.runOpt {t : BitVec 16} (h : Stalled c t s) {evs : List Event}
    (he : Machine.runOpt Driver.step s evs = some s') : Stalled c t s' :=
  runOpt_invariant (fun _ _ _ hs he => hs.step he) evs h he

theorem add_one_add_ofNat (x : BitVec 16) (k : Nat) :
    x + 1 + BitVec.ofNat 16 k = x + BitVec.ofNat 16 (k+1) := by
  rw [BitVec.ofNat_add,BitVec.add_assoc,BitVec.add_comm 1]
  rfl

/-- Idle callers `base, …, base+n-1` entering one after the other take
consecutive tickets, and nothing else changes. -/
theorem runOpt_locks (n : Nat) : ∀ (base : Nat) (s : Driver), (∀ j < n, s.callers (base + j) = .idle) →
    ∃ s', runOpt step s ((List.range' base n).map .lock) = some s' ∧
      s'.driverM = ⟨s.driverM.nextTicket + BitVec.ofNat 16 n,s.driverM.nowServing⟩ ∧
      (∀ j < n, s'.callers (base + j) = .spinning (s.driverM.nextTicket + BitVec.ofNat 16 j)) ∧
      (∀ c < base, s'.callers c = s.callers c) ∧
      s'.lwipDriverInitialized = s.lwipDriverInitialized ∧ s'.mainThreads = s.mainThreads := by
  induction n with
  | zero => intro base s _; exact ⟨s,rfl,by simp,by simp,fun _ _ => rfl,rfl,rfl⟩
  | succ n ih =>
    intro base s hidle
    have h0 : s.callers base = .idle := by simpa using hidle 0 (Nat.succ_pos n)
    set s1 : Driver :=
      { s with driverM := s.driverM.takeTicket.2
               callers := Function.update s.callers base (.spinning s.driverM.takeTicket.1) } with hs1
    have hstep : s.step (.lock base) = some s1 := by simp [step,h0,s1]
    have hidle1 : ∀ j < n, s1.callers (base + 1 + j) = .idle := by
      intro j hj
      have hne : base + 1 + j ≠ base := by omega
      simpa [s1,hne,Nat.add_assoc,Nat.add_comm 1 j] using hidle (j+1) (by omega)
    obtain ⟨s',hrun,hd,hc,hbelow,hi,hm⟩ := ih (base + 1) s1 hidle1
    refine ⟨s',?_,?_,?_,?_,hi,hm⟩
    · simp [List.range'_succ,runOpt_cons,hstep,hrun]
    · rw [hd]
      simp only [s1,TicketLock.takeTicket,add_one_add_ofNat]
    · intro j hj
      cases j with
      | zero => simp [hbelow base (by omega),s1,TicketLock.takeTicket]
      | succ j =>
        have := hc j (by omega)
        simp only [s1,TicketLock.takeTicket,add_one_add_ofNat] at this
        rw [show base + (j+1) = base + 1 + j by omega,this]
    · intro c hc'
      rw [hbelow c (by omega)]
      simp [s1,Nat.ne_of_lt hc']

end Driver

open Driver

/-- Two `VirtualTap` constructions with `tcpip_init_done` between them: then no
`lwip_driver_init` call is in progress and the callback has run, yet
`driver_m` is held, and a third construction spins in `driver_m.lock()` in
every state that follows. -/
theorem driver_lock_held_after_rejoin :
    ∃ s, runOpt Driver.step Driver.init
        [.lock 0,.spin 0,.check 0,.tcpipInitDone,.lock 1,.spin 1,.check 1] = some s ∧
      (∀ c, (s.callers c).inProgress = false) ∧ 0 < s.initDones ∧ ¬ s.driverM.Free ∧
      ∀ evs s', runOpt Driver.step s (.lock 2 :: evs) = some s' → s'.callers 2 = .spinning 2 := by
  refine ⟨_,rfl,?_,by decide,by decide,?_⟩
  · intro c
    simp only [Driver.init,TicketLock.init,TicketLock.takeTicket,TicketLock.unlock,Function.update_apply]
    split_ifs <;> rfl
  · intro evs s' h
    rw [runOpt_cons] at h
    obtain ⟨s2,h2,hrun⟩ := Option.bind_eq_some_iff.1 h
    have hstall : Stalled 2 2 s2 := by
      obtain ⟨-,rfl⟩ := step_lock h2
      exact ⟨by dsimp only; rw [Function.update_self]; rfl,by decide,rfl,rfl⟩
    exact (hstall.runOpt hrun).spinning

/-- With 65536 more callers spinning while the first holds `driver_m` and before
`tcpip_init_done`, the ticket counter wraps and the last of them gets in while
`lwip_driver_initialized` is still unset: `main_thread` is started twice. -/
theorem mainThread_started_twice :
    ∃ s, runOpt Driver.step Driver.init
        ([.lock 0,.spin 0,.check 0] ++ (List.range' 1 65536).map .lock ++ [.spin 65536,.check 65536]) =
          some s ∧ s.mainThreads = 2 := by
  -- the first call holds `driver_m` and has started `main_thread`
  let s3 : Driver := ⟨⟨1,0⟩,false,Function.update (Function.update
    (Function.update (fun _ => .idle) 0 (.spinning 0)) 0 .locked) 0 .returned,1,0⟩
  have h3 : runOpt Driver.step Driver.init [.lock 0,.spin 0,.check 0] = some s3 := rfl
  have hidle : ∀ j < 65536, s3.callers (1 + j) = .idle := by
    intro j _
    simp [s3]
  obtain ⟨s4,h4,hd4,hc4,-,hi4,hm4⟩ := runOpt_locks 65536 1 s3 hidle
  -- the last ticket, 1 + 65535, is 0 modulo 2^16: the one being served
  have hlast : s4.callers 65536 = .spinning 0#16 := by simpa [s3] using hc4 65535 (by omega)
  have hserved : s4.driverM.serves 0#16 = true := by rw [hd4]; rfl
  refine ⟨{ s4 with callers := Function.update (Function.update s4.callers 65536 .locked) 65536 .returned
                    mainThreads := s4.mainThreads + 1 },?_,by simp [hm4,s3]⟩
  rw [runOpt_append,runOpt_append,h3,Option.bind_some,h4,Option.bind_some]
  simp [runOpt_cons,Driver.step,hlast,hserved,hi4,s3]

end V2rayZt.Libzt
