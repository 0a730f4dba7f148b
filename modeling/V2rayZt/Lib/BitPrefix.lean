import Mathlib.Data.Nat.Bitwise

/-! Agreement of two bit vectors on their first `n` bits, as a shift and as a mask; the networks
of a prefix, and first-match tables of them. Nothing here names a particular program. -/
namespace V2rayZt.BitPrefix
variable {w : Nat}

/-- `a` and `b` agree on their first `n` bits. -/
def SamePrefix (n : Nat) (a b : BitVec w) : Prop := ∀ i < n, a.getMsbD i = b.getMsbD i

instance (n : Nat) (a b : BitVec w) : Decidable (SamePrefix n a b) :=
  inferInstanceAs (Decidable (∀ i < n, a.getMsbD i = b.getMsbD i))

theorem samePrefix_iff_ushiftRight {n : Nat} (hn : n ≤ w) {a b : BitVec w} :
    SamePrefix n a b ↔ a >>> (w - n) = b >>> (w - n) := by
  constructor
  · intro h
    apply BitVec.eq_of_getLsbD_eq
    intro j hj
    simp only [BitVec.getLsbD_ushiftRight]
    by_cases hjw : w - n + j < w
    · -- bit `w - n + j` from the bottom is bit `w - 1 - (w - n + j)` from the top, in the prefix
      have hi := h (w - 1 - (w - n + j)) (by omega)
      simp only [BitVec.getMsbD_eq_getLsbD,show w - 1 - (w - 1 - (w - n + j)) = w - n + j by omega,
        show w - 1 - (w - n + j) < w by omega,decide_true,Bool.true_and] at hi
      exact hi
    · rw [BitVec.getLsbD_of_ge a _ (by omega),BitVec.getLsbD_of_ge b _ (by omega)]
  · intro h i hi
    have hj := congrArg (fun x => x.getLsbD (w - 1 - i - (w - n))) h
    simp only [BitVec.getLsbD_ushiftRight,show w - n + (w - 1 - i - (w - n)) = w - 1 - i by omega] at hj
    simp only [BitVec.getMsbD_eq_getLsbD,hj]

/-- The top `w - k` bits kept by the mask agree exactly when the shifts past
the other `k` do. -/
theorem and_allOnes_shiftLeft_eq_iff {k : Nat} {a b : BitVec w} :
    a &&& BitVec.allOnes w <<< k = b &&& BitVec.allOnes w <<< k ↔ a >>> k = b >>> k := by
  rw [← BitVec.shiftLeft_ushiftRight,← BitVec.shiftLeft_ushiftRight]
  constructor
  · intro h
    have hnat := congrArg BitVec.toNat h
    -- `(x / 2^k) * 2^k ≤ x < 2^w`: the shift back loses no bit
    have hfit (x : BitVec w) : x.toNat / 2^k * 2^k < 2^w := lt_of_le_of_lt (Nat.div_mul_le_self _ _) x.isLt
    simp only [BitVec.toNat_shiftLeft,BitVec.toNat_ushiftRight,Nat.shiftLeft_eq,Nat.shiftRight_eq_div_pow,
      Nat.mod_eq_of_lt (hfit a),Nat.mod_eq_of_lt (hfit b)] at hnat
    apply BitVec.eq_of_toNat_eq
    simp only [BitVec.toNat_ushiftRight,Nat.shiftRight_eq_div_pow]
    exact Nat.eq_of_mul_eq_mul_right (Nat.two_pow_pos k) hnat
  · intro h
    rw [h]

/-- Masking with the top `n` bits decides `SamePrefix n`. -/
theorem and_allOnes_shiftLeft_eq_iff_samePrefix {n : Nat} (hn : n ≤ w) {a b : BitVec w} :
    a &&& BitVec.allOnes w <<< (w - n) = b &&& BitVec.allOnes w <<< (w - n) ↔ SamePrefix n a b := by
  rw [and_allOnes_shiftLeft_eq_iff,samePrefix_iff_ushiftRight hn]

/-- The bits of `a` from the `n`-th on are zero. -/
def HostZero (n : Nat) (a : BitVec w) : Prop := ∀ i < w, n ≤ i → a.getMsbD i = false

instance (n : Nat) (a : BitVec w) : Decidable (HostZero n a) :=
  inferInstanceAs (Decidable (∀ i < w, n ≤ i → a.getMsbD i = false))

@[simp] theorem SamePrefix.refl (n : Nat) (a : BitVec w) : SamePrefix n a a := fun _ _ => rfl

theorem SamePrefix.symm {n : Nat} {a b : BitVec w} (h : SamePrefix n a b) : SamePrefix n b a :=
  fun i hi => (h i hi).symm

theorem SamePrefix.trans {n : Nat} {a b c : BitVec w} (h : SamePrefix n a b) (h' : SamePrefix n b c) :
    SamePrefix n a c :=
  fun i hi => (h i hi).trans (h' i hi)

/-- The mask of the top `n` bits. -/
theorem getMsbD_mask {n : Nat} (hn : n ≤ w) (i : Nat) : (BitVec.allOnes w <<< (w - n)).getMsbD i = decide (i < n) := by
  rw [BitVec.getMsbD_shiftLeft,BitVec.getMsbD_allOnes]
  exact decide_eq_decide.2 (by omega)

/-- Masking `a` with the top `n` bits gives `b` exactly when `b` has `a`'s
prefix and nothing after it. -/
theorem and_mask_eq_iff {n : Nat} (hn : n ≤ w) {a b : BitVec w} :
    a &&& BitVec.allOnes w <<< (w - n) = b ↔ SamePrefix n a b ∧ HostZero n b := by
  constructor
  · rintro rfl
    refine ⟨fun i hi => ?_,fun i _ hi => ?_⟩
    · rw [BitVec.getMsbD_and,getMsbD_mask hn,decide_eq_true hi,Bool.and_true]
    · rw [BitVec.getMsbD_and,getMsbD_mask hn,decide_eq_false (by omega),Bool.and_false]
  · rintro ⟨hpre,hzero⟩
    apply BitVec.eq_of_getMsbD_eq
    intro i hi
    rw [BitVec.getMsbD_and,getMsbD_mask hn]
    by_cases hin : i < n
    · rw [decide_eq_true hin,Bool.and_true,hpre i hin]
    · rw [decide_eq_false hin,Bool.and_false,hzero i hi (by omega)]

/-- No host bits: the remainder below the prefix is zero. -/
theorem hostZero_iff_mod {n : Nat} (hn : n ≤ w) {a : BitVec w} : HostZero n a ↔ a.toNat % 2^(w - n) = 0 := by
  constructor
  · intro h
    apply Nat.zero_of_testBit_eq_false
    intro j
    rw [Nat.testBit_mod_two_pow]
    by_cases hj : j < w - n
    · -- bit `j` from the bottom is bit `w - 1 - j` from the top, a host bit
      rw [decide_eq_true hj,Bool.true_and,BitVec.testBit_toNat,BitVec.getLsbD_eq_getMsbD,decide_eq_true (by omega),
        Bool.true_and]
      exact h _ (by omega) (by omega)
    · rw [decide_eq_false hj,Bool.false_and]
  · intro h i hi hni
    have hj := congrArg (fun x => x.testBit (w - 1 - i)) h
    simp only [Nat.testBit_mod_two_pow,Nat.zero_testBit,BitVec.testBit_toNat] at hj
    rw [decide_eq_true (by omega),Bool.true_and] at hj
    rw [BitVec.getMsbD_eq_getLsbD,decide_eq_true hi,Bool.true_and,hj]

/-- Masking with the bits past the first `n` gives zero exactly when there
are no host bits. -/
theorem and_hostMask_eq_zero_iff {n : Nat} {a : BitVec w} : a &&& BitVec.allOnes w >>> n = 0 ↔ HostZero n a := by
  constructor
  · intro h i hi hni
    have hj := congrArg (fun x => x.getMsbD i) h
    simp only [BitVec.getMsbD_and,BitVec.getMsbD_ushiftRight,BitVec.getMsbD_allOnes] at hj
    simpa [hi,not_lt.2 hni,show i - n < w by omega] using hj
  · intro h
    apply BitVec.eq_of_getMsbD_eq
    intro i hi
    simp only [BitVec.getMsbD_and,BitVec.getMsbD_ushiftRight,BitVec.getMsbD_allOnes]
    by_cases hin : i < n
    · simp [hin]
    · rw [h i hi (by omega),Bool.false_and]
      simp

/-- The first `n` bits agree exactly when the values do after dividing off
the other `w - n`. -/
theorem samePrefix_iff_div {n : Nat} (hn : n ≤ w) {a b : BitVec w} :
    SamePrefix n a b ↔ a.toNat / 2^(w - n) = b.toNat / 2^(w - n) := by
  rw [samePrefix_iff_ushiftRight hn,← BitVec.toNat_inj,BitVec.toNat_ushiftRight,BitVec.toNat_ushiftRight,
    Nat.shiftRight_eq_div_pow,Nat.shiftRight_eq_div_pow]

/-- A mask of the top `n` bits, compared with a value that has no bits past
them, compares the values with the other `w - n` bits divided off. -/
theorem and_mask_eq_iff_div {n : Nat} (hn : n ≤ w) {a b : BitVec w} (hz : b.toNat % 2^(w - n) = 0) :
    a &&& BitVec.allOnes w <<< (w - n) = b ↔ a.toNat / 2^(w - n) = b.toNat / 2^(w - n) := by
  rw [and_mask_eq_iff hn,hostZero_iff_mod hn,samePrefix_iff_div hn]
  exact ⟨fun h => h.1,fun h => ⟨h,hz⟩⟩

/-! ### First-match tables

A table of blocks `(net, n, v)` read from the top: the value of the first
block whose first `n` bits an address shares, and a default past the end. -/

/-- The value of the first block of `table` that holds `x`, or `d`. -/
def lookup {β : Type*} (d : β) (x : BitVec w) : List (BitVec w × Nat × β) → β
  | [] => d
  | (net,n,v) :: t => if SamePrefix n x net then v else lookup d x t

@[simp] theorem lookup_nil {β : Type*} (d : β) (x : BitVec w) : lookup d x [] = d := rfl

@[simp] theorem lookup_cons {β : Type*} (d : β) (x net : BitVec w) (n : Nat) (v : β)
    (t : List (BitVec w × Nat × β)) :
    lookup d x ((net,n,v) :: t) = if SamePrefix n x net then v else lookup d x t := rfl

end V2rayZt.BitPrefix
