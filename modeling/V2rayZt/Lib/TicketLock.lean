import Mathlib.Data.BitVec

/-! A ticket lock with `w`-bit counters that wrap: its state says how many tickets were taken
and how many unlocks made, modulo `2^w`. -/
namespace V2rayZt

structure TicketLock (w : Nat) where
  nextTicket : BitVec w
  nowServing : BitVec w
  deriving DecidableEq

namespace TicketLock
variable {w : Nat}

def init : TicketLock w := ⟨0,0⟩

/-- The fetch-and-add of `lock`: the caller's ticket, and the lock after it. -/
def takeTicket (l : TicketLock w) : BitVec w × TicketLock w :=
  (l.nextTicket,{ l with nextTicket := l.nextTicket + 1 })

/-- The spin loop of `lock` exits for ticket `t`. -/
def serves (l : TicketLock w) (t : BitVec w) : Bool := l.nowServing == t

def unlock (l : TicketLock w) : TicketLock w := { l with nowServing := l.nowServing + 1 }

def Free (l : TicketLock w) : Prop := l.nextTicket = l.nowServing

instance (l : TicketLock w) : Decidable l.Free := inferInstanceAs (Decidable (_ = _))

@[simp] theorem takeTicket_nowServing (l : TicketLock w) : l.takeTicket.2.nowServing = l.nowServing :=
  rfl

@[simp] theorem unlock_nextTicket (l : TicketLock w) : l.unlock.nextTicket = l.nextTicket := rfl

theorem ofNat_eq_ofNat_iff {a b : Nat} : BitVec.ofNat w a = BitVec.ofNat w b ↔ a % 2^w = b % 2^w := by
  simp [BitVec.toNat_eq]

/-- The lock is what `taken` tickets and `released` unlocks from `init` make it. -/
structure Counts (l : TicketLock w) (taken released : Nat) : Prop where
  next_eq : l.nextTicket = BitVec.ofNat w taken
  serving_eq : l.nowServing = BitVec.ofNat w released

theorem counts_init : Counts (init : TicketLock w) 0 0 := ⟨rfl,rfl⟩

namespace Counts
variable {l : TicketLock w} {k m : Nat}

theorem takeTicket (h : Counts l k m) : Counts l.takeTicket.2 (k+1) m :=
  ⟨by simp [TicketLock.takeTicket,h.next_eq,BitVec.ofNat_add],h.serving_eq⟩

theorem unlock (h : Counts l k m) : Counts l.unlock k (m+1) :=
  ⟨h.next_eq,by simp [TicketLock.unlock,h.serving_eq,BitVec.ofNat_add]⟩

theorem free_iff (h : Counts l k m) : l.Free ↔ k % 2^w = m % 2^w := by
  rw [Free,h.next_eq,h.serving_eq,ofNat_eq_ofNat_iff]

end Counts

end TicketLock
end V2rayZt
