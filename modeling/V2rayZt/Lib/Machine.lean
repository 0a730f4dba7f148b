import Mathlib.Data.List.Basic

/-! Deterministic labelled transition systems: runs, reachable states, partial runs and `try`
blocks, with the invariant and simulation rules over them. -/
namespace V2rayZt.Machine
variable {σ τ α : Type*}

def run (step : σ → α → σ) (s : σ) (as : List α) : σ := as.foldl step s

@[simp] theorem run_nil (step : σ → α → σ) (s : σ) : run step s [] = s := rfl

@[simp] theorem run_cons (step : σ → α → σ) (s : σ) (a : α) (as : List α) :
    run step s (a :: as) = run step (step s a) as := rfl

theorem run_append (step : σ → α → σ) (s : σ) (as bs : List α) :
    run step s (as ++ bs) = run step (run step s as) bs := List.foldl_append

@[simp] theorem run_concat (step : σ → α → σ) (s : σ) (as : List α) (a : α) :
    run step s (as ++ [a]) = step (run step s as) a := by
  rw [run_append]
  rfl

def Reachable (step : σ → α → σ) (s₀ s : σ) : Prop := ∃ as, run step s₀ as = s

theorem Reachable.refl (step : σ → α → σ) (s₀ : σ) : Reachable step s₀ s₀ := ⟨[],rfl⟩

theorem Reachable.step {step : σ → α → σ} {s₀ s : σ} (h : Reachable step s₀ s) (a : α) :
    Reachable step s₀ (step s a) := by
  obtain ⟨as,rfl⟩ := h
  exact ⟨as++[a],run_concat step s₀ as a⟩

/-- The invariant rule: a property of the start state that every action
preserves holds along every run. -/
theorem run_invariant {step : σ → α → σ} {P : σ → Prop}
    (hstep : ∀ s a, P s → P (step s a)) : ∀ (as : List α) {s : σ}, P s → P (run step s as)
  | [], _, h => h
  | a :: as, s, h => run_invariant hstep as (hstep s a h)

/-- The invariant rule for one run, where a step need only keep the
property for the actions of that run. -/
theorem run_invariant_of_mem {step : σ → α → σ} {P : σ → Prop} {as : List α}
    (hstep : ∀ s a, a ∈ as → P s → P (step s a)) {s : σ} (h : P s) : P (run step s as) := by
  induction as generalizing s with
  | nil => exact h
  | cons a as ih =>
    exact ih (fun s' a' ha' => hstep s' a' (List.mem_cons_of_mem a ha')) (hstep s a (List.mem_cons_self ..) h)

theorem Reachable.invariant {step : σ → α → σ} {P : σ → Prop} {s₀ s : σ}
    (h0 : P s₀) (hstep : ∀ s a, P s → P (step s a)) (h : Reachable step s₀ s) : P s := by
  obtain ⟨as,rfl⟩ := h
  exact run_invariant hstep as h0

/-- Forward simulation. If the abstraction `abs` commutes with every step on
states satisfying an inductive invariant, a run of the concrete system is
mapped to the run of the abstract one on the same actions. -/
theorem run_simulate {step : σ → α → σ} {astep : τ → α → τ} {Inv : σ → Prop}
    (abs : σ → τ) (hinv : ∀ s a, Inv s → Inv (step s a))
    (hcomm : ∀ s a, Inv s → abs (step s a) = astep (abs s) a) :
    ∀ (as : List α) {s : σ}, Inv s → abs (run step s as) = run astep (abs s) as
  | [], _, _ => rfl
  | a :: as, s, h => by
    rw [run_cons,run_cons,← hcomm s a h]
    exact run_simulate abs hinv hcomm as (hinv s a h)

/-- A run all of whose actions are admissible, `ok s a` being checked at the
state `s` the action is taken in. -/
def GuardedRun (step : σ → α → σ) (ok : σ → α → Prop) : σ → List α → Prop
  | _, [] => True
  | s, a :: as => ok s a ∧ GuardedRun step ok (step s a) as

theorem guardedRun_invariant {step : σ → α → σ} {ok : σ → α → Prop} {P : σ → Prop}
    (hstep : ∀ s a, P s → ok s a → P (step s a)) :
    ∀ (as : List α) {s : σ}, P s → GuardedRun step ok s as → P (run step s as)
  | [], _, h, _ => h
  | a :: as, s, h, ⟨ha,hrest⟩ => guardedRun_invariant hstep as (hstep s a h ha) hrest

/-- The state reached by a run of partial steps; `none` once some step is
undefined. -/
def runOpt (step : σ → α → Option σ) : σ → List α → Option σ
  | s, [] => some s
  | s, a :: as => (step s a).bind (runOpt step · as)

@[simp] theorem runOpt_nil (step : σ → α → Option σ) (s : σ) : runOpt step s [] = some s := rfl

theorem runOpt_cons (step : σ → α → Option σ) (s : σ) (a : α) (as : List α) :
    runOpt step s (a :: as) = (step s a).bind (runOpt step · as) := rfl

theorem runOpt_append (step : σ → α → Option σ) (s : σ) (as bs : List α) :
    runOpt step s (as ++ bs) = (runOpt step s as).bind (runOpt step · bs) := by
  induction as generalizing s with
  | nil => rfl
  | cons a as ih =>
    rw [List.cons_append,runOpt_cons,runOpt_cons,Option.bind_assoc]
    simp only [ih]

/-- The invariant rule for partial steps: every defined run keeps an invariant
that every defined step keeps. -/
theorem runOpt_invariant {step : σ → α → Option σ} {P : σ → Prop}
    (hstep : ∀ s a s', P s → step s a = some s' → P s') :
    ∀ (as : List α) {s s' : σ}, P s → runOpt step s as = some s' → P s'
  | [], _, _, h, he => by cases he; exact h
  | a :: as, s, s', h, he => by
    rw [runOpt_cons] at he
    cases hs : step s a with
    | none => rw [hs] at he; cases he
    | some t =>
      rw [hs] at he
      exact runOpt_invariant hstep as (hstep s a t h hs) he

/-- Forward simulation of a total abstract system by a partial concrete one:
a relation that every defined concrete step carries along the abstract step
on the same action holds between the ends of every defined run. -/
theorem runOpt_simulate {step : σ → α → Option σ} {astep : τ → α → τ} {R : σ → τ → Prop}
    (hstep : ∀ s t a s', R s t → step s a = some s' → R s' (astep t a)) :
    ∀ (as : List α) {s s' : σ} {t : τ}, R s t → runOpt step s as = some s' → R s' (run astep t as)
  | [], _, _, _, h, he => by cases he; exact h
  | a :: as, s, s', t, h, he => by
    rw [runOpt_cons] at he
    cases hs : step s a with
    | none => rw [hs] at he; cases he
    | some u =>
      rw [hs] at he
      exact runOpt_simulate hstep as (hstep s t a u h hs) he

/-! ### `try` blocks

Statements that may throw, run in order inside a `try` whose `catch` swallows
the exception: the block ends at the first throw, with the state the
statements before it left. -/

/-- The state a `try` block leaves, and whether no statement threw. -/
def tryRun : List (σ → Option σ) → σ → σ × Bool
  | [], s => (s,true)
  | f :: fs, s =>
    match f s with
    | some s' => tryRun fs s'
    | none => (s,false)

@[simp] theorem tryRun_nil (s : σ) : tryRun [] s = (s,true) := rfl

theorem tryRun_cons_of_some {f : σ → Option σ} {fs : List (σ → Option σ)} {s s' : σ} (h : f s = some s') :
    tryRun (f :: fs) s = tryRun fs s' := by
  rw [tryRun,h]

theorem tryRun_cons_of_none {f : σ → Option σ} {fs : List (σ → Option σ)} {s : σ} (h : f s = none) :
    tryRun (f :: fs) s = (s,false) := by
  rw [tryRun,h]

/-- The invariant rule for `try` blocks: a property that every statement keeps
where it does not throw holds of the state the block leaves. -/
theorem tryRun_invariant {P : σ → Prop} :
    ∀ {fs : List (σ → Option σ)}, (∀ f ∈ fs, ∀ s s', P s → f s = some s' → P s') →
      ∀ {s : σ}, P s → P (tryRun fs s).1
  | [], _, _, h => h
  | f :: fs, hf, s, h => by
    cases hs : f s with
    | none => rwa [tryRun_cons_of_none hs]
    | some s' =>
      rw [tryRun_cons_of_some hs]
      exact tryRun_invariant (fun g hg => hf g (List.mem_cons_of_mem f hg))
        (hf f (List.mem_cons_self ..) s s' h hs)

end V2rayZt.Machine
