import Mathlib.Data.List.Basic
import Mathlib.Algebra.Group.Nat.Defs

/-! Three octets as one 24-bit group and as its four sextets, the radix-64 arithmetic under
Base64, and the bit operations that compute it. -/
namespace V2rayZt.Radix64

/-- The 24-bit group of three octets. -/
def group (a b c : Nat) : Nat := a * 2^16 + b * 2^8 + c

/-- The four sextets of a 24-bit group. -/
def sextets (g : Nat) : List Nat := [g / 2^18 % 64, g / 2^12 % 64, g / 2^6 % 64, g % 64]

/-- The three octets of a 24-bit group. -/
def octets (g : Nat) : List Nat := [g / 2^16 % 256, g / 2^8 % 256, g % 256]

/-- The group four sextets make. -/
def ofSextets (s0 s1 s2 s3 : Nat) : Nat := s0 * 2^18 + s1 * 2^12 + s2 * 2^6 + s3

variable {a b c g : Nat}

theorem group_lt (ha : a < 256) (hb : b < 256) (hc : c < 256) : group a b c < 2^24 := by
  unfold group
  omega

theorem octets_group (ha : a < 256) (hb : b < 256) (hc : c < 256) : octets (group a b c) = [a,b,c] := by
  simp only [octets,group,List.cons.injEq,and_true]
  omega

/-- Reading a group's sextets back gives the group. -/
theorem ofSextets_sextets (hg : g < 2^24) :
    ofSextets (g / 2^18 % 64) (g / 2^12 % 64) (g / 2^6 % 64) (g % 64) = g := by
  unfold ofSextets
  omega

theorem mem_sextets_lt {s : Nat} (hs : s ∈ sextets g) : s < 64 := by
  simp only [sextets,List.mem_cons,List.not_mem_nil,or_false] at hs
  omega

/-! ### The bit operations -/

/-- `(x << 24) >>> s` with `s ≤ 24` moves `x` to bit `24 - s`. -/
theorem shl24_ushr {s : Nat} (x : Nat) (hs : s ≤ 24) : x <<< 24 >>> s = x * 2^(24 - s) := by
  rw [Nat.shiftRight_eq_div_pow,Nat.shiftLeft_eq]
  have hsplit : 2^24 = 2^(24 - s) * 2^s := by rw [← Nat.pow_add,Nat.sub_add_cancel hs]
  rw [hsplit,← Nat.mul_assoc,Nat.mul_div_cancel _ (Nat.two_pow_pos s)]

/-- Parts in disjoint bits: `|` is `+`. -/
theorem mul_two_pow_or {i : Nat} (a : Nat) (hb : b < 2^i) : a * 2^i ||| b = a * 2^i + b := by
  rw [Nat.mul_comm,Nat.two_pow_add_eq_or_of_lt hb]

/-- Four sextets in disjoint bits: `|` is `ofSextets`. -/
theorem or_sextets {s0 s1 s2 s3 : Nat} (h1 : s1 < 64) (h2 : s2 < 64) (h3 : s3 < 64) :
    s0 * 2^18 ||| s1 * 2^12 ||| s2 * 2^6 ||| s3 = ofSextets s0 s1 s2 s3 := by
  rw [mul_two_pow_or _ (show s1 * 2^12 < 2^18 by omega),
    show s0 * 2^18 + s1 * 2^12 = (s0 * 2^6 + s1) * 2^12 by omega,
    mul_two_pow_or _ (show s2 * 2^6 < 2^12 by omega),
    show (s0 * 2^6 + s1) * 2^12 + s2 * 2^6 = (s0 * 2^12 + s1 * 2^6 + s2) * 2^6 by omega,
    mul_two_pow_or _ (show s3 < 2^6 by omega),ofSextets]
  omega

theorem ushr_and_63 (x k : Nat) : x >>> k &&& 0x3f = x / 2^k % 64 := by
  rw [Nat.shiftRight_eq_div_pow,show (0x3f : Nat) = 2^6 - 1 from rfl,Nat.and_two_pow_sub_one_eq_mod]

theorem and_63 (x : Nat) : x &&& 0x3f = x % 64 := by
  rw [show (0x3f : Nat) = 2^6 - 1 from rfl,Nat.and_two_pow_sub_one_eq_mod]

/-! ### Base64 of a list of octets -/

section Encode
variable {σ : Type*} (sym : Nat → σ) (pad : σ)

/-- Base64 of a list of octets with the symbols `sym` and the padding `pad`:
every group of three octets as four symbols, and a last group of one or two
octets as two or three symbols padded to four. -/
def encode : List Nat → List σ
  | a :: b :: c :: rest => (sextets (group a b c)).map sym ++ encode rest
  | [a, b] => ((sextets (group a b 0)).take 3).map sym ++ [pad]
  | [a] => ((sextets (group a 0 0)).take 2).map sym ++ [pad, pad]
  | [] => []

theorem length_encode (x : List Nat) : (encode sym pad x).length = 4 * ((x.length + 2) / 3) := by
  fun_induction encode sym pad x with
  | case1 a b c rest ih =>
    simp only [List.length_append,List.length_map,sextets,List.length_cons,List.length_nil,ih]
    omega
  | case2 | case3 | case4 => simp [sextets]

/-- Whole groups are encoded one after the other. -/
theorem encode_append {x : List Nat} (hx : 3 ∣ x.length) (y : List Nat) :
    encode sym pad (x ++ y) = encode sym pad x ++ encode sym pad y := by
  fun_induction encode sym pad x with
  | case1 a b c rest ih =>
    have hrest : 3 ∣ rest.length := by
      simp only [List.length_cons] at hx
      omega
    simp only [List.cons_append,encode,ih hrest,List.append_assoc]
  | case2 | case3 => simp at hx
  | case4 => rfl

/-- Base64 without padding: a last group of one or two octets keeps only its
two or three symbols. -/
def encodeNoPad : List Nat → List σ
  | a :: b :: c :: rest => (sextets (group a b c)).map sym ++ encodeNoPad rest
  | [a, b] => ((sextets (group a b 0)).take 3).map sym
  | [a] => ((sextets (group a 0 0)).take 2).map sym
  | [] => []

/-- The padding symbols of `n` octets. -/
def padCount (n : Nat) : Nat := (3 - n % 3) % 3

/-- The padded text is the unpadded one followed by the padding. -/
theorem encode_eq_encodeNoPad (x : List Nat) :
    encode sym pad x = encodeNoPad sym x ++ List.replicate (padCount x.length) pad := by
  fun_induction encode sym pad x with
  | case1 a b c rest ih =>
    have hpad : padCount (rest.length + 3) = padCount rest.length := by
      unfold padCount
      omega
    simp only [encodeNoPad,ih,List.length_cons,show rest.length + 1 + 1 + 1 = rest.length + 3 by omega,hpad,
      List.append_assoc]
  | case2 a b => simp [encodeNoPad,padCount]
  | case3 a => simp [encodeNoPad,padCount]
  | case4 => simp [encodeNoPad,padCount]

theorem length_encodeNoPad (x : List Nat) : (encodeNoPad sym x).length = (4 * x.length + 2) / 3 := by
  fun_induction encodeNoPad sym x with
  | case1 a b c rest ih =>
    simp only [List.length_append,List.length_map,sextets,List.length_cons,List.length_nil,ih]
    omega
  | case2 | case3 | case4 => simp [sextets]

theorem encodeNoPad_append {x : List Nat} (hx : 3 ∣ x.length) (y : List Nat) :
    encodeNoPad sym (x ++ y) = encode sym pad x ++ encodeNoPad sym y := by
  fun_induction encode sym pad x with
  | case1 a b c rest ih =>
    have hrest : 3 ∣ rest.length := by
      simp only [List.length_cons] at hx
      omega
    simp only [List.cons_append,encodeNoPad,ih hrest,List.append_assoc]
  | case2 | case3 => simp at hx
  | case4 => rfl

/-- Every symbol of the unpadded text is the symbol of a sextet. -/
theorem mem_encodeNoPad {x : List Nat} {y : σ} (hy : y ∈ encodeNoPad sym x) : ∃ s < 64, y = sym s := by
  have hsym : ∀ {g : Nat} {l : List Nat}, l <+: sextets g → y ∈ l.map sym → ∃ s < 64, y = sym s := by
    intro g l hl hy
    obtain ⟨s,hs,rfl⟩ := List.mem_map.1 hy
    exact ⟨s,mem_sextets_lt (hl.subset hs),rfl⟩
  fun_induction encodeNoPad sym x with
  | case1 a b c rest ih =>
    rcases List.mem_append.1 hy with h | h
    · exact hsym (List.prefix_refl _) h
    · exact ih h
  | case2 a b => exact hsym (List.take_prefix _ _) hy
  | case3 a => exact hsym (List.take_prefix _ _) hy
  | case4 => simp at hy

end Encode

end V2rayZt.Radix64
