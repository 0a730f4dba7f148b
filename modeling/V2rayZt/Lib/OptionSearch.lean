import Mathlib.Data.List.Basic

/-! Searches whose tests can be undefined (`α → Option Bool`): `List.anyM` and `List.findM?` in
`Option`, undefined exactly when they reach an undefined test before a hit. -/
namespace V2rayZt.OptionSearch
variable {α : Type} {p : α → Option Bool}

/-- The value of a test where it is defined. -/
def value (p : α → Option Bool) (x : α) : Bool := (p x).getD false

theorem value_eq_true_iff {x : α} : value p x = true ↔ p x = some true := by
  unfold value
  cases p x <;> simp

/-- Two defined tests joined by `||`. -/
theorem ite_some_or (x y : Bool) :
    (if x = true then some true else if y = true then some true else some false) = some (x || y) := by
  cases x <;> cases y <;> rfl

theorem anyM_of_defined : ∀ {l : List α}, (∀ x ∈ l, (p x).isSome) → l.anyM p = some (l.any (value p))
  | [], _ => rfl
  | x :: l, h => by
    obtain ⟨b,hb⟩ := Option.isSome_iff_exists.1 (h x (List.mem_cons_self ..))
    have ih := anyM_of_defined fun y hy => h y (List.mem_cons_of_mem x hy)
    cases b <;> simp [List.anyM,hb,ih,value]

theorem findM?_of_defined : ∀ {l : List α}, (∀ x ∈ l, (p x).isSome) → l.findM? p = some (l.find? (value p))
  | [], _ => rfl
  | x :: l, h => by
    obtain ⟨b,hb⟩ := Option.isSome_iff_exists.1 (h x (List.mem_cons_self ..))
    have ih := findM?_of_defined fun y hy => h y (List.mem_cons_of_mem x hy)
    cases b <;> simp [List.findM?,hb,ih,value]

/-- A search that reaches an undefined test before any hit is undefined. -/
theorem anyM_eq_none {pre post : List α} {x : α} (hpre : ∀ y ∈ pre, p y = some false) (hx : p x = none) :
    (pre ++ x :: post).anyM p = none := by
  induction pre with
  | nil => simp [hx]
  | cons y pre ih =>
    rw [List.cons_append,List.anyM,hpre y (List.mem_cons_self ..)]
    exact ih fun z hz => hpre z (List.mem_cons_of_mem y hz)

theorem findM?_eq_none {pre post : List α} {x : α} (hpre : ∀ y ∈ pre, p y = some false) (hx : p x = none) :
    (pre ++ x :: post).findM? p = none := by
  induction pre with
  | nil => simp [List.findM?,hx]
  | cons y pre ih =>
    rw [List.cons_append,List.findM?,hpre y (List.mem_cons_self ..)]
    exact ih fun z hz => hpre z (List.mem_cons_of_mem y hz)

/-- Over `0, …, n - 1`: undefined when test `t` is, all before it false. -/
theorem findM?_range_eq_none {p : Nat → Option Bool} {n t : Nat} (ht : t < n)
    (hpre : ∀ j < t, p j = some false) (hx : p t = none) : (List.range n).findM? p = none := by
  have hsplit : List.range n = List.range t ++ t :: List.range' (t + 1) (n - (t + 1)) := by
    have h := @List.range'_append_1 0 t (n - t)
    rw [Nat.zero_add,show t + (n - t) = n by omega,show n - t = n - (t + 1) + 1 by omega,List.range'_succ] at h
    rw [List.range_eq_range',List.range_eq_range',← h]
  rw [hsplit]
  exact findM?_eq_none (fun j hj => hpre j (List.mem_range.1 hj)) hx

/-- Over `0, …, n - 1` with every test defined: a hit at `t` makes the search
return a hit at or before `t`. -/
theorem findM?_range_le {p : Nat → Option Bool} {n t : Nat} (hdef : ∀ j < n, (p j).isSome) (ht : t < n)
    (hx : p t = some true) : ∃ j ≤ t, (List.range n).findM? p = some (some j) ∧ p j = some true := by
  rw [findM?_of_defined fun j hj => hdef j (List.mem_range.1 hj)]
  obtain ⟨j,hj⟩ := Option.isSome_iff_exists.1
    (List.find?_isSome.2 ⟨t,List.mem_range.2 ht,value_eq_true_iff.2 hx⟩)
  obtain ⟨hpj,-,hbefore⟩ := List.find?_range_eq_some.1 hj
  refine ⟨j,?_,by rw [hj],value_eq_true_iff.1 hpj⟩
  -- every test before the first hit is false, and test `t` is a hit
  by_contra hlt
  have ht' := hbefore t (by omega)
  rw [value_eq_true_iff.2 hx] at ht'
  exact absurd ht' (by decide)

/-- The loop `for (i = 0; i < n; i++) if (p(i)) r = i;`, with no `break`:
the last hit. -/
theorem foldl_range_last_eq_some_iff (p : Nat → Prop) [DecidablePred p] (n : Nat) {t : Nat} :
    (List.range n).foldl (fun r i => if p i then some i else r) none = some t ↔
      t < n ∧ p t ∧ ∀ j < n, p j → j ≤ t := by
  induction n with
  | zero => simp
  | succ n ih =>
    rw [List.range_succ,List.foldl_append,List.foldl_cons,List.foldl_nil]
    by_cases hn : p n
    · -- the last index of the range is a hit, and it wins
      rw [if_pos hn]
      constructor
      · rintro ⟨⟩
        exact ⟨by omega,hn,fun j hj _ => by omega⟩
      · rintro ⟨ht,hpt,hlast⟩
        rw [Nat.le_antisymm (by omega) (hlast n (by omega) hn)]
    · rw [if_neg hn,ih]
      constructor
      · rintro ⟨ht,hpt,hlast⟩
        refine ⟨by omega,hpt,fun j hj hpj => ?_⟩
        rcases Nat.lt_succ_iff_lt_or_eq.1 hj with hj | rfl
        · exact hlast j hj hpj
        · exact absurd hpj hn
      · rintro ⟨ht,hpt,hlast⟩
        have htn : t ≠ n := fun h => hn (h ▸ hpt)
        exact ⟨by omega,hpt,fun j hj hpj => hlast j (by omega) hpj⟩

end V2rayZt.OptionSearch
