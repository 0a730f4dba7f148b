import Mathlib.Data.List.Basic

/-! Loops whose body can throw, in `Except`: `mapM`, and loops that append each output to an
accumulator. Nothing here names a particular program. -/
namespace V2rayZt.ExceptLoop
variable {ε α β : Type} {f : α → Except ε β}

@[simp] theorem ok_bind (a : α) (g : α → Except ε β) : (Except.ok a >>= g) = g a := rfl

@[simp] theorem error_bind (e : ε) (g : α → Except ε β) : (Except.error e >>= g) = .error e := rfl

/-- A block that returns ran each step to a value. -/
theorem bind_eq_ok {x : Except ε α} {g : α → Except ε β} {b : β} : x >>= g = .ok b ↔ ∃ a, x = .ok a ∧ g a = .ok b := by
  cases x with
  | error e => simp
  | ok a => simp

/-- A body that throws somewhere makes `mapM` throw. -/
theorem mapM_error_of_mem {x : α} (hx : ∀ b, f x ≠ .ok b) : ∀ {l : List α}, x ∈ l → ∃ e, l.mapM f = .error e
  | y :: l, hmem => by
    rw [List.mapM_cons]
    cases hy : f y with
    | error e => exact ⟨e,rfl⟩
    | ok b =>
      -- `y` passes, so `x` is further on
      have hxl : x ∈ l := by
        rcases List.mem_cons.1 hmem with rfl | h
        · exact absurd hy (hx b)
        · exact h
      obtain ⟨e,he⟩ := mapM_error_of_mem hx hxl
      exact ⟨e,by simp only [he]; rfl⟩

/-- Where no body throws, `mapM` returns every output. -/
theorem mapM_of_ok {g : α → β} : ∀ {l : List α}, (∀ x ∈ l, f x = .ok (g x)) → l.mapM f = .ok (l.map g)
  | [], _ => rfl
  | x :: l, h => by
    rw [List.mapM_cons,h x (List.mem_cons_self ..),mapM_of_ok fun y hy => h y (List.mem_cons_of_mem x hy)]
    rfl

/-- Each output of a `mapM` that returns comes from an element. -/
theorem mem_of_mapM_ok : ∀ {l : List α} {bs : List β}, l.mapM f = .ok bs → ∀ b ∈ bs, ∃ x ∈ l, f x = .ok b
  | [], bs, h => by
    cases h
    simp
  | x :: l, bs, h => by
    rw [List.mapM_cons] at h
    cases hx : f x with
    | error e =>
      rw [hx] at h
      cases h
    | ok b =>
      cases hl : l.mapM f with
      | error e =>
        rw [hx,hl] at h
        cases h
      | ok bs' =>
        rw [hx,hl] at h
        cases h
        intro b' hb'
        rcases List.mem_cons.1 hb' with rfl | hb'
        · exact ⟨x,List.mem_cons_self ..,hx⟩
        · obtain ⟨y,hy,hyb⟩ := mem_of_mapM_ok hl b' hb'
          exact ⟨y,List.mem_cons_of_mem x hy,hyb⟩

/-- A loop that appends each body's output to its accumulator. -/
theorem foldlM_append (f : α → Except ε (List β)) :
    ∀ (l : List α) (acc : List β),
      l.foldlM (fun acc x => (acc ++ ·) <$> f x) acc = (fun ys => acc ++ ys.flatten) <$> l.mapM f
  | [], acc => by simp
  | x :: l, acc => by
    rw [List.foldlM_cons,List.mapM_cons]
    cases f x with
    | error e => rfl
    | ok ys =>
      show l.foldlM _ (acc ++ ys) = _
      rw [foldlM_append f l (acc ++ ys)]
      cases l.mapM f <;> simp [Functor.map,Except.map,bind,Except.bind,pure,Except.pure]

end V2rayZt.ExceptLoop
