import Mathlib.Data.List.Basic

/-! JSON trees with objects as lists of members in insertion order, as a linked hash map keeps
them: a write replaces a present key in place and appends a new one. -/
namespace V2rayZt

namespace LinkedMap
variable {α β : Type*} [BEq α]

/-- The linked hash map's put: the value of a present key is replaced in place,
a new key goes last. -/
def put : List (α × β) → α → β → List (α × β)
  | [], k, v => [(k,v)]
  | (k',v') :: kvs, k, v => if k' == k then (k,v) :: kvs else (k',v') :: put kvs k v

def putAll (kvs pairs : List (α × β)) : List (α × β) :=
  pairs.foldl (fun acc p => put acc p.1 p.2) kvs

variable [LawfulBEq α]

theorem lookup_put (kvs : List (α × β)) (k : α) (v : β) (k' : α) :
    (put kvs k v).lookup k' = if k' == k then some v else kvs.lookup k' := by
  induction kvs with
  | nil => cases h : k' == k <;> simp [put,List.lookup_cons,h]
  | cons p kvs ih =>
    obtain ⟨k'',v''⟩ := p
    by_cases hk : k'' = k
    · subst hk
      cases h : k' == k'' <;> simp [put,List.lookup_cons,h]
    · cases h : k' == k'' <;> simp [put,List.lookup_cons,hk,h,ih]
      -- the key read is the one kept, so it is not the one written
      intro hk'
      exact absurd (hk' ▸ (beq_iff_eq.1 h).symm) hk

/-- After a run of puts a key holds the value of its last put, or its old value
when none of them wrote it. -/
theorem lookup_putAll (kvs pairs : List (α × β)) (k : α) :
    (putAll kvs pairs).lookup k = (pairs.reverse.lookup k).or (kvs.lookup k) := by
  induction pairs generalizing kvs with
  | nil => simp [putAll]
  | cons p ps ih =>
    obtain ⟨k',v'⟩ := p
    have hput : (put kvs k' v').lookup k = ([(k',v')].lookup k).or (kvs.lookup k) := by
      cases h : k == k' <;> simp [lookup_put,List.lookup_cons,h]
    simp only [putAll,List.foldl_cons] at ih ⊢
    rw [ih,hput,List.reverse_cons,List.lookup_append,Option.or_assoc]

omit [LawfulBEq α] in
/-- A put adds no key but its own. -/
theorem mem_put {kvs : List (α × β)} {k : α} {v : β} {p : α × β} (h : p ∈ put kvs k v) : p = (k,v) ∨ p ∈ kvs := by
  induction kvs with
  | nil => simpa [put] using h
  | cons q kvs ih =>
    by_cases hq : q.1 == k
    · rw [put,if_pos hq] at h
      rcases List.mem_cons.1 h with rfl | h
      · exact .inl rfl
      · exact .inr (List.mem_cons_of_mem q h)
    · rw [put,if_neg hq] at h
      rcases List.mem_cons.1 h with rfl | h
      · exact .inr (List.mem_cons_self ..)
      · exact (ih h).imp_right (List.mem_cons_of_mem q)

omit [LawfulBEq α] in
/-- A put holds what it wrote. -/
theorem mem_put_self (kvs : List (α × β)) (k : α) (v : β) : (k,v) ∈ put kvs k v := by
  induction kvs with
  | nil => simp [put]
  | cons q kvs ih =>
    by_cases hq : q.1 == k
    · rw [put,if_pos hq]
      exact List.mem_cons_self ..
    · rw [put,if_neg hq]
      exact List.mem_cons_of_mem q ih

/-- A put keeps the keys distinct. -/
theorem nodup_put {kvs : List (α × β)} (h : (kvs.map Prod.fst).Nodup) (k : α) (v : β) :
    ((put kvs k v).map Prod.fst).Nodup := by
  induction kvs with
  | nil => simp [put]
  | cons q kvs ih =>
    rw [List.map_cons,List.nodup_cons] at h
    by_cases hq : q.1 == k
    · -- the key is replaced where it stands
      rw [put,if_pos hq,List.map_cons,List.nodup_cons]
      exact ⟨beq_iff_eq.1 hq ▸ h.1,h.2⟩
    · rw [put,if_neg hq,List.map_cons,List.nodup_cons]
      refine ⟨fun hmem => ?_,ih h.2⟩
      obtain ⟨p,hp,hpq⟩ := List.mem_map.1 hmem
      rcases mem_put hp with rfl | hp
      · exact hq (beq_iff_eq.2 hpq.symm)
      · exact h.1 (hpq ▸ List.mem_map_of_mem hp)

/-- A key's value is one of the map's members. -/
theorem mem_of_lookup_eq_some {kvs : List (α × β)} {k : α} {v : β} (h : kvs.lookup k = some v) :
    (k,v) ∈ kvs := by
  obtain ⟨l₁,l₂,rfl,-⟩ := List.lookup_eq_some_iff.1 h
  exact List.mem_append_right l₁ (List.mem_cons_self ..)

end LinkedMap

/-- A JSON value; numbers are the integers the program writes and reads. -/
inductive Json where
  | null
  | bool (b : Bool)
  | num (n : Int)
  | str (s : String)
  | arr (items : List Json)
  | obj (members : List (String × Json))
  deriving Repr, Inhabited

namespace Json

def field? : Json → String → Option Json
  | .obj kvs, k => kvs.lookup k
  | _, _ => none

def get? (j : Json) : List String → Option Json
  | [] => some j
  | k :: ks => (j.field? k).bind fun c => c.get? ks

@[simp] theorem get?_nil (j : Json) : j.get? [] = some j := rfl

@[simp] theorem get?_obj_cons (kvs : List (String × Json)) (k : String) (ks : List String) :
    (Json.obj kvs).get? (k :: ks) = (kvs.lookup k).bind fun c => c.get? ks := rfl

end Json

end V2rayZt
