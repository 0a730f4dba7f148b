import Mathlib.Data.List.Lex
import Mathlib.Order.Lattice

/-! ZeroTier's `InetAddress` (`InetAddress.hpp`, `InetAddress.cpp`): a `sockaddr_storage` read
through its `ss_family`, its fields as stored, with `operator==` and the linear order
`operator<` that the driver's `std::sort` and `std::find` work with. -/
namespace V2rayZt.ZeroTier

inductive InetAddress where
  /-- `ss_family == 0`, the null address -/
  | null
  /-- `AF_INET`: `sin_port`, `sin_addr.s_addr` -/
  | v4 (sinPort : UInt16) (sAddr : UInt32)
  /-- `AF_INET6`: `sin6_port`, `sin6_flowinfo`, `sin6_addr`, `sin6_scope_id`; the sixteen bytes
  of `sin6_addr` as one big-endian number, so that `memcmp` order is numeric order -/
  | v6 (sin6Port : UInt16) (sin6Flowinfo : UInt32) (s6Addr : BitVec 128) (sin6ScopeId : UInt32)
  deriving DecidableEq

namespace InetAddress

def isV4 : InetAddress → Bool
  | .v4 .. => true
  | _ => false

def isV6 : InetAddress → Bool
  | .v6 .. => true
  | _ => false

/-- `InetAddress::operator<`. `AF_INET < AF_INET6` on every platform, and
the null address compares below both. -/
def lt : InetAddress → InetAddress → Bool
  | .null, .null => false
  | .null, _ => true
  | .v4 .., .null => false
  | .v4 p a, .v4 p' a' => p < p' || (p == p' && a < a')
  | .v4 .., .v6 .. => true
  | .v6 .., .null => false
  | .v6 .., .v4 .. => false
  | .v6 p f a s, .v6 p' f' a' s' =>
    p < p' || (p == p' && (f < f' || (f == f' && (a < a' || (a == a' && s < s')))))

/-- The fields `operator<` compares, in its order. -/
def key : InetAddress → List Nat
  | .null => [0,0,0,0,0]
  | .v4 p a => [1,p.toNat,a.toNat,0,0]
  | .v6 p f a s => [2,p.toNat,f.toNat,a.toNat,s.toNat]

theorem key_injective : Function.Injective key := by
  intro x y h
  cases x <;> cases y <;> simp_all [key,UInt16.toNat_inj,UInt32.toNat_inj,BitVec.toNat_inj]

instance : LinearOrder InetAddress := LinearOrder.lift' key key_injective

theorem lt_iff_key {a b : InetAddress} : a < b ↔ key a < key b := Iff.rfl

theorem lt_eq_true_iff (a b : InetAddress) : lt a b = true ↔ a < b := by
  rw [lt_iff_key]
  cases a <;> cases b <;>
    simp [lt,key,List.cons_lt_cons_iff,UInt16.lt_iff_toNat_lt,
      UInt32.lt_iff_toNat_lt,BitVec.lt_def,UInt16.toNat_inj,UInt32.toNat_inj,BitVec.toNat_inj]

/-- The comparison a sort by `operator<` makes, `!(b < a)`, is `≤`. -/
theorem not_lt_swap_eq (a b : InetAddress) : (!lt b a) = decide (a ≤ b) := by
  by_cases h : b < a
  · simp [(lt_eq_true_iff b a).2 h, not_le.2 h]
  · have hf : lt b a = false := by rw [← Bool.not_eq_true,lt_eq_true_iff]; exact h
    simp [hf, not_lt.1 h]

end InetAddress
end V2rayZt.ZeroTier
