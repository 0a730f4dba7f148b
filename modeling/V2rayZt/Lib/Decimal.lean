import Mathlib.Data.String.Basic
import Mathlib.Algebra.Group.Int.Defs

/-! Decimal text of integers as the JVM writes it (`Integer.toString`) and reads it
(`Integer.parseInt`, `Long.parseLong`) with ASCII digits, `none` for the
`NumberFormatException`. -/
namespace V2rayZt.Decimal

/-- The value of a nonempty run of ASCII digits. -/
def digits? (cs : List Char) : Option Nat :=
  if cs ≠ [] ∧ cs.all Char.isDigit then some (Nat.ofDigitChars 10 cs 0) else none

/-- A sign and digits, before the range check. -/
def parse? (s : String) : Option Int :=
  match s.toList with
  | '-' :: cs => (digits? cs).map fun n => -(n : Int)
  | '+' :: cs => (digits? cs).map fun n => (n : Int)
  | cs => (digits? cs).map fun n => (n : Int)

/-- `Integer.parseInt` (`w = 32`), `Short.parseShort` (16) or `Long.parseLong`
(64) in radix 10, `none` for the `NumberFormatException`. Only ASCII digits
are digits here; the other Unicode decimal digits that `Character.digit`
accepts are left out. -/
def parseSigned? (w : Nat) (s : String) : Option Int :=
  (parse? s).bind fun n => if -2^(w-1) ≤ n ∧ n < 2^(w-1) then some n else none

def render (n : Int) : String :=
  if n < 0 then "-" ++ n.natAbs.repr else n.natAbs.repr

theorem digits?_toDigits (n : Nat) : digits? (Nat.toDigits 10 n) = some n := by
  have hd : (Nat.toDigits 10 n).all Char.isDigit = true :=
    List.all_eq_true.2 fun _ hc => Nat.isDigit_of_mem_toDigits (by decide) (by decide) hc
  simp [digits?,Nat.toDigits_ne_nil,hd]

theorem isDigit_of_digits? {cs : List Char} {n : Nat} (h : digits? cs = some n) :
    ∀ c ∈ cs, c.isDigit = true := by
  unfold digits? at h
  split_ifs at h with hd
  exact fun c hc => List.all_eq_true.1 hd.2 c hc

theorem ne_nil_of_digits? {cs : List Char} {n : Nat} (h : digits? cs = some n) : cs ≠ [] := by
  unfold digits? at h
  split_ifs at h with hd
  exact hd.1

/-- Digits with no sign read as their value. -/
theorem parse?_ofList {cs : List Char} {n : Nat} (h : digits? cs = some n) : parse? (String.ofList cs) = some (n : Int) := by
  have hdig := isDigit_of_digits? h
  unfold parse?
  rw [String.toList_ofList]
  -- the first character is a digit, so neither sign branch applies
  split
  · exact absurd (hdig '-' List.mem_cons_self) (by decide)
  · exact absurd (hdig '+' List.mem_cons_self) (by decide)
  · simp [h]

/-- A rendered natural number starts with a digit, so the sign branches of
`parse?` do not apply to it. -/
theorem parse?_repr (n : Nat) : parse? n.repr = some (n : Int) := by
  have h := parse?_ofList (digits?_toDigits n)
  rwa [← Nat.toList_repr,String.ofList_toList] at h

theorem parse?_render (n : Int) : parse? (render n) = some n := by
  unfold render
  split_ifs with hn
  · have hlist : ("-" ++ n.natAbs.repr).toList = '-' :: Nat.toDigits 10 n.natAbs := by
      simp [Nat.toList_repr]
    have habs : -(n.natAbs : Int) = n := by omega
    unfold parse?
    rw [hlist]
    simp only [digits?_toDigits,Option.pure_def,Option.bind_eq_bind,Option.bind_some,Option.map_some,habs]
  · have habs : (n.natAbs : Int) = n := by omega
    rw [parse?_repr,habs]

/-- A text that reads as a number is digits after at most one sign. -/
theorem parse?_chars {s : String} {n : Int} (h : parse? s = some n) :
    ∀ c ∈ s.toList, c.isDigit = true ∨ c = '-' ∨ c = '+' := by
  unfold parse? at h
  -- each branch reads the digits after its sign with `digits?`
  split at h
  · rename_i cs hs
    cases hd : digits? cs with
    | none => simp [hd] at h
    | some k =>
      intro c hc
      rw [hs,List.mem_cons] at hc
      rcases hc with rfl | hc
      · simp
      · exact Or.inl (isDigit_of_digits? hd c hc)
  · rename_i cs hs
    cases hd : digits? cs with
    | none => simp [hd] at h
    | some k =>
      intro c hc
      rw [hs,List.mem_cons] at hc
      rcases hc with rfl | hc
      · simp
      · exact Or.inl (isDigit_of_digits? hd c hc)
  · cases hd : digits? s.toList with
    | none => simp [hd] at h
    | some k => exact fun c hc => Or.inl (isDigit_of_digits? hd c hc)

theorem parse?_of_parseSigned? {w : Nat} {s : String} {n : Int} (h : parseSigned? w s = some n) :
    parse? s = some n := by
  unfold parseSigned? at h
  obtain ⟨m,hm,hrange⟩ := Option.bind_eq_some_iff.1 h
  split_ifs at hrange
  cases hrange
  exact hm

theorem range_of_parseSigned? {w : Nat} {s : String} {n : Int} (h : parseSigned? w s = some n) :
    -2^(w-1) ≤ n ∧ n < 2^(w-1) := by
  unfold parseSigned? at h
  obtain ⟨m,-,hrange⟩ := Option.bind_eq_some_iff.1 h
  split_ifs at hrange with hm
  cases hrange
  exact hm

theorem isDigit_of_mem_repr {a : Nat} {c : Char} (hc : c ∈ a.repr.toList) : c.isDigit = true := by
  rw [Nat.toList_repr] at hc
  exact Nat.isDigit_of_mem_toDigits (by decide) (by decide) hc

theorem repr_toList_ne_nil (a : Nat) : a.repr.toList ≠ [] := by
  rw [Nat.toList_repr]
  exact Nat.toDigits_ne_nil

theorem render_natCast (a : Nat) : render (a : Int) = a.repr := by
  simp [render]

theorem render_ne_empty (n : Int) : render n ≠ "" := by
  unfold render
  split_ifs
  · intro h
    have := congrArg String.length h
    simp at this
  · exact Nat.repr_ne_empty

theorem render_injective : Function.Injective render := by
  intro a b h
  have h' := congrArg parse? h
  rwa [parse?_render,parse?_render,Option.some.injEq] at h'

theorem parseSigned?_of_parse? {w : Nat} {s : String} {n : Int} (h : parse? s = some n) (hlo : -2^(w-1) ≤ n)
    (hhi : n < 2^(w-1)) : parseSigned? w s = some n := by
  simp [parseSigned?,h,hlo,hhi]

theorem parseSigned?_render {w : Nat} {n : Int} (hlo : -2^(w-1) ≤ n) (hhi : n < 2^(w-1)) :
    parseSigned? w (render n) = some n :=
  parseSigned?_of_parse? (parse?_render n) hlo hhi

end V2rayZt.Decimal
