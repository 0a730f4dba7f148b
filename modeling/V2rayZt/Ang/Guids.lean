import V2rayZt.Ang.Activities

/-! Server guids, each the clock reading of the addition that made it: distinct along every run
whose readings strictly increase, colliding when two readings are equal. -/
namespace V2rayZt.Ang
open V2rayZt.Machine Manager

namespace AngConfig

/-- Every server's guid renders one of the clock readings `R`, and no two
servers share a guid. -/
structure GuidsFrom (R : List Nat) (c : AngConfig) : Prop where
  nodup : (c.vmess.map (·.guid)).Nodup
  mem : ∀ v ∈ c.vmess, ∃ k ∈ R, v.guid = Decimal.render k

variable {R R' : List Nat} {c c' : AngConfig}

theorem GuidsFrom.of_nil (h : c.vmess = []) : c.GuidsFrom R :=
  ⟨by simp [h],by simp [h]⟩

theorem GuidsFrom.mono (h : c.GuidsFrom R) (hR : R ⊆ R') : c.GuidsFrom R' :=
  ⟨h.nodup,fun v hv => by
    obtain ⟨k,hk,hg⟩ := h.mem v hv
    exact ⟨k,hR hk,hg⟩⟩

theorem GuidsFrom.of_vmess_eq (h : c.GuidsFrom R) (hv : c'.vmess = c.vmess) : c'.GuidsFrom R :=
  ⟨hv ▸ h.nodup,hv ▸ h.mem⟩

/-- An edit that keeps the slot's guid. -/
theorem GuidsFrom.set (h : c.GuidsFrom R) {i : Nat} (hi : i < c.vmess.length) {v : VmessBean}
    (hg : v.guid = (c.vmess.get ⟨i,hi⟩).guid) : { c with vmess := c.vmess.set i v }.GuidsFrom R := by
  have hmap : (c.vmess.set i v).map (·.guid) = c.vmess.map (·.guid) := by
    apply List.ext_getElem (by simp)
    intro j hj _
    by_cases hji : i = j
    · subst hji
      simp [hg]
    · simp [hji]
  refine ⟨by simpa [hmap] using h.nodup,fun w hw => ?_⟩
  rcases List.mem_or_eq_of_mem_set hw with hw | rfl
  · exact h.mem w hw
  · obtain ⟨k,hk,hgk⟩ := h.mem _ (List.getElem_mem hi)
    exact ⟨k,hk,hg.trans hgk⟩

theorem GuidsFrom.eraseIdx (h : c.GuidsFrom R) (i : Nat) (index : Int) :
    { c with vmess := c.vmess.eraseIdx i, index := index }.GuidsFrom R :=
  ⟨h.nodup.sublist ((List.eraseIdx_sublist c.vmess i).map _),
    fun v hv => h.mem v (List.mem_of_mem_eraseIdx hv)⟩

/-- A server named by a reading later than all of `R` gets a guid of its own. -/
theorem GuidsFrom.appendServer (h : c.GuidsFrom R) {now : Nat} (hnow : ∀ r ∈ R, r < now) {v : VmessBean}
    (hv : v.guid = Decimal.render now) : (Manager.appendServer c v).GuidsFrom (R ++ [now]) := by
  have hfresh : v.guid ∉ c.vmess.map (·.guid) := by
    intro hmem
    obtain ⟨w,hw,hwg⟩ := List.mem_map.1 hmem
    obtain ⟨k,hk,hgk⟩ := h.mem w hw
    have hkn : (k : Int) = now := Decimal.render_injective (hgk.symm.trans (hwg.trans hv))
    have := hnow k hk
    omega
  refine ⟨?_,fun w hw => ?_⟩
  · simpa [Manager.appendServer,List.nodup_append,h.nodup] using hfresh
  · simp only [Manager.appendServer,List.mem_append,List.mem_singleton] at hw
    rcases hw with hw | rfl
    · exact (h.mem w hw).imp fun k hk => ⟨List.mem_append_left _ hk.1,hk.2⟩
    · exact ⟨now,by simp,hv⟩

/-- With distinct guids the lookup by a server's guid finds that server. -/
theorem GuidsFrom.getIndexViaGuid_get (h : c.GuidsFrom R) {i : Nat} (hi : i < c.vmess.length) :
    c.getIndexViaGuid (c.vmess.get ⟨i,hi⟩).guid = i := by
  have hfind : ∀ (l : List VmessBean) (i : Nat) (hi : i < l.length), (l.map (·.guid)).Nodup →
      l.findIdx? (fun v => v.guid == l[i].guid) = some i := by
    intro l
    induction l with
    | nil => intro i hi; simp at hi
    | cons a l ih =>
      intro i hi hnd
      rw [List.map_cons,List.nodup_cons] at hnd
      cases i with
      | zero => simp [List.findIdx?_cons]
      | succ j =>
        -- the head's guid is not the guid looked for, which belongs to the tail
        have hj : j < l.length := by simpa using hi
        have hne : ¬ a.guid = l[j].guid := fun he =>
          hnd.1 (he ▸ List.mem_map_of_mem (List.getElem_mem _))
        simp [List.findIdx?_cons,hne,ih j hj hnd.2]
  obtain ⟨k,-,hk⟩ := h.mem _ (List.getElem_mem hi)
  have hguid : (c.vmess.get ⟨i,hi⟩).guid ≠ "" := by
    rw [List.get_eq_getElem,hk]
    exact Decimal.render_ne_empty _
  rw [List.get_eq_getElem] at hguid ⊢
  simp only [getIndexViaGuid,if_neg hguid,hfind c.vmess i hi h.nodup]

end AngConfig

namespace Manager
open AngConfig

variable {m : Manager} {R : List Nat}

theorem guidsFrom_addServer (h : m.angConfig.GuidsFrom R) {v : VmessBean} {i : Int} {now : Nat}
    (hnow : ∀ r ∈ R, r < now)
    (hedit : 0 ≤ i → ∀ hi : i.toNat < m.angConfig.vmess.length,
      v.guid = (m.angConfig.vmess.get ⟨i.toNat,hi⟩).guid) :
    (m.addServer v i now).2.angConfig.GuidsFrom (R ++ [now]) := by
  by_cases h0 : 0 ≤ i
  · by_cases hi : i.toNat < m.angConfig.vmess.length
    · rw [addServer_of_lt h0 hi]
      exact (h.set hi (hedit h0 hi)).mono (List.subset_append_left _ _)
    · rw [addServer_of_ge h0 hi]
      exact h.mono (List.subset_append_left _ _)
  · rw [addServer_of_neg (Int.not_le.1 h0)]
    exact h.appendServer hnow rfl

theorem guidsFrom_removeServer (h : m.angConfig.GuidsFrom R) (i : Int) :
    (m.removeServer i).2.angConfig.GuidsFrom R := by
  by_cases hi : 0 ≤ i ∧ i.toNat < m.angConfig.vmess.length
  · rw [removeServer_of_lt hi.1 hi.2]
    exact h.eraseIdx _ _
  · rwa [removeServer_of_not hi]

theorem guidsFrom_setActiveServer (h : m.angConfig.GuidsFrom R) (i : Int) :
    (m.setActiveServer i).2.angConfig.GuidsFrom R := by
  by_cases hi : 0 ≤ i ∧ i.toNat < m.angConfig.vmess.length
  · rw [setActiveServer_of_lt hi.1 hi.2]
    exact h.of_vmess_eq rfl
  · rwa [setActiveServer_of_not hi]

theorem guidsFrom_importConfig (h : m.angConfig.GuidsFrom R) (cd : Codecs) (server : Option String)
    {now : Nat} (hnow : ∀ r ∈ R, r < now) :
    (m.importConfig cd server now).2.angConfig.GuidsFrom (R ++ [now]) := by
  obtain ⟨hfail,hok⟩ := m.importConfig_spec cd server now
  by_cases hr : (m.importConfig cd server now).1 = .ok
  · obtain ⟨q,hq⟩ := hok hr
    rw [hq]
    exact h.appendServer hnow rfl
  · rw [hfail hr]
    exact h.mono (List.subset_append_left _ _)

theorem guidsFrom_importCustomizeConfig (h : m.angConfig.GuidsFrom R) (server : Option String)
    {now : Nat} (hnow : ∀ r ∈ R, r < now) :
    (m.importCustomizeConfig server now).2.angConfig.GuidsFrom (R ++ [now]) := by
  obtain ⟨hfail,hok⟩ := m.importCustomizeConfig_spec server now
  by_cases hr : (m.importCustomizeConfig server now).1 = .ok
  · rw [hok hr]
    exact h.appendServer hnow rfl
  · rw [hfail hr]
    exact h.mono (List.subset_append_left _ _)

/-- The refresh starts from an empty list, so only its own readings name the
servers it leaves. -/
theorem guidsFrom_onResponse (cd : Codecs) (entries : List (Option String × Nat))
    (hsorted : (entries.map Prod.snd).Pairwise (· < ·)) :
    (m.onResponse cd entries).angConfig.GuidsFrom (entries.map Prod.snd) := by
  -- the imports of the loop, each from the readings before it
  have hfold : ∀ (es : List (Option String × Nat)) (m : Manager) (R : List Nat),
      (es.map Prod.snd).Pairwise (· < ·) → (∀ r ∈ R, ∀ e ∈ es, r < e.2) → m.angConfig.GuidsFrom R →
      (es.foldl (fun m e => m.importConfigNoToast cd e.1 e.2) m).angConfig.GuidsFrom (R ++ es.map Prod.snd) := by
    intro es
    induction es with
    | nil => simp
    | cons e es ih =>
      intro m R hs hR h
      rw [List.map_cons,List.pairwise_cons] at hs
      have hstep : (m.importConfigNoToast cd e.1 e.2).angConfig.GuidsFrom (R ++ [e.2]) := by
        rcases e with ⟨_ | s,now⟩
        · exact h.mono (List.subset_append_left _ _)
        · exact guidsFrom_importConfig h cd (some s) fun r hr => hR r hr _ (List.mem_cons_self ..)
      have hR' : ∀ r ∈ R ++ [e.2], ∀ e' ∈ es, r < e'.2 := by
        intro r hr e' he'
        rcases List.mem_append.1 hr with hr | hr
        · exact hR r hr e' (List.mem_cons_of_mem _ he')
        · rw [List.mem_singleton.1 hr]
          exact hs.1 _ (List.mem_map_of_mem he')
      simpa using ih _ _ hs.2 hR' hstep
  unfold onResponse
  simpa using hfold entries _ [] hsorted (by simp) (GuidsFrom.of_nil rfl)

/-- `ServerActivity` names a new server by the clock and an edited one by the
guid it read from the slot in `onCreate`. -/
theorem guidsFrom_serverActivitySaveServer (h : m.angConfig.GuidsFrom R) {i : Int} {g : String}
    (f : ServerForm) {now : Nat} (hnow : ∀ r ∈ R, r < now)
    (hedit : 0 ≤ i → ∀ hi : i.toNat < m.angConfig.vmess.length,
      g = (m.angConfig.vmess.get ⟨i.toNat,hi⟩).guid) :
    (m.serverActivitySaveServer i g f now).2.angConfig.GuidsFrom (R ++ [now]) := by
  unfold serverActivitySaveServer
  dsimp only
  split_ifs
  all_goals first
    | exact guidsFrom_addServer h hnow hedit
    | exact h.mono (List.subset_append_left _ _)

/-- `Server2Activity` writes the live bean back to its own slot, guid and all. -/
theorem guidsFrom_server2ActivitySaveServer (h : m.angConfig.GuidsFrom R) {i : Int} {remarks : String}
    {now : Nat} (hnow : ∀ r ∈ R, r < now) {b : Bool} {m' : Manager}
    (hs : m.server2ActivitySaveServer i remarks now = some (b,m')) : m'.angConfig.GuidsFrom (R ++ [now]) := by
  unfold server2ActivitySaveServer at hs
  dsimp only at hs
  split_ifs at hs with hi hr
  · simp only [Option.some.injEq,Prod.mk.injEq] at hs
    obtain ⟨-,rfl⟩ := hs
    exact (h.set hi.2 (v := { m.angConfig.vmess.get ⟨i.toNat,hi.2⟩ with remarks := remarks }) rfl).mono
      (List.subset_append_left _ _)
  · simp only [Option.some.injEq,Prod.mk.injEq] at hs
    obtain ⟨-,rfl⟩ := hs
    apply guidsFrom_addServer
      (h.set hi.2 (v := { m.angConfig.vmess.get ⟨i.toNat,hi.2⟩ with remarks := remarks }) rfl) hnow
    intro _ _
    simp

end Manager

/-- The clock readings an operation is given, in order; only additions name a
server by theirs. -/
def AppOp.readings : AppOp → List Nat
  | .serverSave _ _ now => [now]
  | .server2Save _ _ now => [now]
  | .deleteServer _ => []
  | .select _ => []
  | .importConfig _ now => [now]
  | .importCustomizeConfig _ now => [now]
  | .refresh es => es.map Prod.snd

open AngConfig in
theorem guidsFrom_appStep {cd : Codecs} {m m' : Manager} {R : List Nat} {op : AppOp}
    (h : m.angConfig.GuidsFrom R) (hnow : ∀ r ∈ R, ∀ r' ∈ op.readings, r < r')
    (hsorted : op.readings.Pairwise (· < ·)) (hstep : appStep cd m op = some m') :
    m'.angConfig.GuidsFrom (R ++ op.readings) := by
  unfold appStep at hstep
  cases op with
  | serverSave i f now =>
    have hnow' : ∀ r ∈ R, r < now := fun r hr => hnow r hr now (List.mem_singleton_self _)
    simp only [appExec] at hstep
    split_ifs at hstep with hi
    · -- a new server: `onCreate` reads no slot
      simp only [Option.map_some,Option.some.injEq] at hstep
      subst hstep
      exact guidsFrom_serverActivitySaveServer h f hnow' fun h0 => absurd h0 (by omega)
    · split at hstep
      · rename_i v hv
        simp only [Option.map_some,Option.some.injEq] at hstep
        subst hstep
        refine guidsFrom_serverActivitySaveServer h f hnow' fun _ hi' => ?_
        rw [List.get_eq_getElem,(List.getElem?_eq_some_iff.1 hv).2]
      · simp at hstep
  | server2Save i remarks now =>
    simp only [appExec,Option.map_map] at hstep
    obtain ⟨⟨b,m''⟩,hs,hm⟩ := Option.map_eq_some_iff.1 hstep
    simp only [Function.comp_apply] at hm
    subst hm
    exact guidsFrom_server2ActivitySaveServer h (fun r hr => hnow r hr now (List.mem_singleton_self _)) hs
  | deleteServer i =>
    simp only [appExec] at hstep
    split_ifs at hstep
    · simp only [Option.map_some,Option.some.injEq] at hstep
      subst hstep
      simpa [AppOp.readings] using guidsFrom_removeServer h i
    · simp only [Option.map_some,Option.some.injEq] at hstep
      subst hstep
      simpa [AppOp.readings] using h
  | select i =>
    simp only [appExec,Option.map_some,Option.some.injEq] at hstep
    subst hstep
    simpa [AppOp.readings] using guidsFrom_setActiveServer h i
  | importConfig server now =>
    simp only [appExec,Option.map_some,Option.some.injEq] at hstep
    subst hstep
    exact guidsFrom_importConfig h cd server fun r hr => hnow r hr now (List.mem_singleton_self _)
  | importCustomizeConfig server now =>
    simp only [appExec,Option.map_some,Option.some.injEq] at hstep
    subst hstep
    exact guidsFrom_importCustomizeConfig h server fun r hr => hnow r hr now (List.mem_singleton_self _)
  | refresh es =>
    simp only [appExec,Option.map_some,Option.some.injEq] at hstep
    subst hstep
    exact (guidsFrom_onResponse cd es hsorted).mono (List.subset_append_right _ _)

/-- The step lemma carried along a run: the guids render the readings made so
far, as long as every reading is later than those before it. -/
theorem guidsFrom_runOpt (cd : Codecs) :
    ∀ (ops : List AppOp) {m m' : Manager} {R : List Nat}, m.angConfig.GuidsFrom R →
      (R ++ ops.flatMap AppOp.readings).Pairwise (· < ·) → runOpt (appStep cd) m ops = some m' →
      m'.angConfig.GuidsFrom (R ++ ops.flatMap AppOp.readings)
  | [], m, m', R, h, _, hrun => by
    simp only [runOpt_nil,Option.some.injEq] at hrun
    subst hrun
    simpa using h
  | op :: ops, m, m', R, h, hs, hrun => by
    rw [runOpt_cons] at hrun
    obtain ⟨m1,h1,hrun⟩ := Option.bind_eq_some_iff.1 hrun
    rw [List.flatMap_cons,← List.append_assoc] at hs ⊢
    have hop := List.pairwise_append.1 (List.pairwise_append.1 hs).1
    exact guidsFrom_runOpt cd ops (guidsFrom_appStep h hop.2.2 hop.2.1 h1) hs hrun

/-- Along every run of the screens' operations from the first start whose clock
readings strictly increase, no two servers share a guid and the lookup by a
server's guid finds that server. -/
theorem guids_distinct_of_increasing (cd : Codecs) {ops : List AppOp} {m : Manager}
    (hrun : runOpt (appStep cd) init ops = some m) (hclock : (ops.flatMap AppOp.readings).Pairwise (· < ·)) :
    (m.angConfig.vmess.map (·.guid)).Nodup ∧
      ∀ i (hi : i < m.angConfig.vmess.length),
        m.angConfig.getIndexViaGuid (m.angConfig.vmess.get ⟨i,hi⟩).guid = i := by
  have h := guidsFrom_runOpt cd ops (R := []) (AngConfig.GuidsFrom.of_nil rfl) (by simpa using hclock) hrun
  exact ⟨h.nodup,fun i hi => h.getIndexViaGuid_get hi⟩

/-- Three custom imports a millisecond apart, with a selection and a deletion
in between, leave distinct guids. -/
theorem guids_distinct_after_imports :
    ∃ m, runOpt (appStep Codecs.app) init [.importCustomizeConfig (some "a") 1,.importCustomizeConfig (some "b") 2,
        .select 1,.deleteServer 0,.importCustomizeConfig (some "c") 3] = some m ∧
      ([.importCustomizeConfig (some "a") 1,.importCustomizeConfig (some "b") 2,.select 1,.deleteServer 0,
        .importCustomizeConfig (some "c") 3].flatMap AppOp.readings).Pairwise (· < ·) ∧
      (m.angConfig.vmess.map (·.guid)).Nodup ∧
        ∀ i (hi : i < m.angConfig.vmess.length),
          m.angConfig.getIndexViaGuid (m.angConfig.vmess.get ⟨i,hi⟩).guid = i := by
  obtain ⟨m,hm⟩ : ∃ m, runOpt (appStep Codecs.app) init [.importCustomizeConfig (some "a") 1,
      .importCustomizeConfig (some "b") 2,.select 1,.deleteServer 0,.importCustomizeConfig (some "c") 3] = some m :=
    ⟨_,rfl⟩
  have hclock : ([AppOp.importCustomizeConfig (some "a") 1,.importCustomizeConfig (some "b") 2,.select 1,
      .deleteServer 0,.importCustomizeConfig (some "c") 3].flatMap AppOp.readings).Pairwise (· < ·) := by
    decide
  exact ⟨m,hm,hclock,guids_distinct_of_increasing Codecs.app hm hclock⟩

end V2rayZt.Ang
