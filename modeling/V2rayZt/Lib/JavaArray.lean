import Mathlib.Data.List.Basic

/-! Java arrays as lists whose loads and stores outside the array throw an exception the model
chooses. -/
namespace V2rayZt.JavaArray
universe u
variable {ε : Type*} {α : Type u}

/-- The load `a[i]`. -/
def load (oob : ε) (a : List α) (i : Nat) : Except ε α :=
  match a[i]? with
  | some x => pure x
  | none => throw oob

/-- The store `a[i] = x`, returning the array after it. -/
def store (oob : ε) (a : List α) (i : Nat) (x : α) : Except ε (List α) :=
  if i < a.length then pure (a.set i x) else throw oob

/-- `System.arraycopy(a, 0, out, 0, n)` into a fresh `out` of length `n`. -/
def copyOf (oob : ε) (a : List α) (n : Nat) : Except ε (List α) :=
  if n ≤ a.length then pure (a.take n) else throw oob

/-- A thrown exception skips the rest of the block. -/
@[simp] theorem throw_bind {β : Type u} (e : ε) (f : α → Except ε β) : (throw e >>= f) = throw e := rfl

variable {oob e : ε} {a : List α} {i n : Nat} {x : α}

@[simp] theorem load_of_lt (h : i < a.length) : load oob a i = pure a[i] := by
  simp [load,List.getElem?_eq_getElem h]

@[simp] theorem store_of_lt (h : i < a.length) : store oob a i x = pure (a.set i x) := by
  simp [store,h]

@[simp] theorem copyOf_of_le (h : n ≤ a.length) : copyOf oob a n = pure (a.take n) := by
  simp [copyOf,h]

theorem load_error (h : load oob a i = .error e) : e = oob := by
  unfold load at h
  split at h
  · cases h
  · cases h
    rfl

theorem store_error (h : store oob a i x = .error e) : e = oob := by
  unfold store at h
  split at h
  · cases h
  · cases h
    rfl

theorem copyOf_error (h : copyOf oob a n = .error e) : e = oob := by
  unfold copyOf at h
  split at h
  · cases h
  · cases h
    rfl

/-- Storing at the end of the written prefix moves one element of the rest
into it. -/
theorem set_append_cons (p r : List α) (y x : α) : (p ++ y :: r).set p.length x = (p ++ [x]) ++ r := by
  simp [List.set_append_right]

/-- An array filled from the left: `k` stores past a prefix `p` turn `k`
elements of the zeros after it into the values stored. -/
theorem set_append_replicate (p : List α) (z x : α) (m : Nat) :
    (p ++ List.replicate (m+1) z).set p.length x = (p ++ [x]) ++ List.replicate m z := by
  rw [List.replicate_succ,set_append_cons]

/-! ### Outcomes

What a block of checked accesses can end with: a value, or one of the
exceptions it may throw. A proof that a block throws nothing else chains these
through its binds, one access at a time. -/

section Ensures
variable {β : Type u} {P : α → Prop} {Q : β → Prop} {E : ε → Prop}

/-- `x` returns a value with `P` or throws an exception with `E`. -/
def Ensures (P : α → Prop) (E : ε → Prop) : Except ε α → Prop
  | .ok a => P a
  | .error e => E e

theorem ensures_pure {a : α} (h : P a) : Ensures P E (pure a) := h

theorem ensures_throw (h : E e) : Ensures P E (throw e : Except ε α) := h

theorem ensures_bind {x : Except ε α} {f : α → Except ε β} (hx : Ensures P E x) (hf : ∀ a, P a → Ensures Q E (f a)) :
    Ensures Q E (x >>= f) := by
  cases x with
  | ok a => exact hf a hx
  | error e => exact hx

theorem Ensures.mono {P' : α → Prop} {x : Except ε α} (hx : Ensures P E x) (h : ∀ a, P a → P' a) :
    Ensures P' E x := by
  cases x with
  | ok a => exact h a hx
  | error e => exact hx

/-- What returns and what it returns with. -/
theorem Ensures.eq_pure_or_throw {x : Except ε α} (hx : Ensures P E x) : (∃ a, x = pure a ∧ P a) ∨ ∃ e, x = throw e ∧ E e := by
  cases x with
  | ok a => exact .inl ⟨a,rfl,hx⟩
  | error e => exact .inr ⟨e,rfl,hx⟩

end Ensures

end V2rayZt.JavaArray
