import V2rayZt.Ang.ConfigManager

/-! The screens that change the server list: `ServerActivity`, `Server2Activity`, the list's click
and `MainActivity`'s imports. Every successful manager call ends in `storeConfigFile`; two
paths change the live list and do not store. -/
namespace V2rayZt.Ang
open V2rayZt.Machine Manager

/-- `ServerActivity`'s form when "save" is pressed: the text fields and the
strings the spinners select. -/
structure ServerForm where
  remarks : String
  address : String
  port : String
  id : String
  alterId : String
  security : String
  network : String
  headerType : String
  requestHost : String
  streamSecurity : String

namespace Manager

/-- `ServerActivity.saveServer`: a fresh bean from the form, checked before
anything changes, then `addServer(vmess, edit_index)`. -/
def serverActivitySaveServer (m : Manager) (editIndex : Int) (editGuid : String) (f : ServerForm)
    (now : Nat) : Bool × Manager :=
  let vmess : VmessBean :=
    { guid := editGuid, remarks := f.remarks, address := f.address, port := parseInt f.port, id := f.id,
      alterId := parseInt f.alterId, security := f.security, network := f.network,
      headerType := f.headerType, requestHost := f.requestHost, streamSecurity := f.streamSecurity }
  if vmess.remarks = "" then (false,m)
  else if vmess.address = "" then (false,m)
  else if Decimal.render vmess.port.toInt = "" ∨ vmess.port ≤ 0 then (false,m)
  else if vmess.id = "" then (false,m)
  else if Decimal.render vmess.alterId.toInt = "" ∨ vmess.alterId < 0 then (false,m)
  else
    let r := m.addServer vmess editIndex now
    (r.1 = .ok,r.2)

/-- `Server2Activity.saveServer`: `configs.vmess[edit_index]` is the live bean,
so its remarks change in the list before they are checked. An index outside
the list throws (`none`). -/
def server2ActivitySaveServer (m : Manager) (editIndex : Int) (remarks : String) (now : Nat) :
    Option (Bool × Manager) :=
  if h : 0 ≤ editIndex ∧ editIndex.toNat < m.angConfig.vmess.length then
    let vmess := { m.angConfig.vmess.get ⟨editIndex.toNat,h.2⟩ with remarks := remarks }
    let m := { m with angConfig.vmess := m.angConfig.vmess.set editIndex.toNat vmess }
    if vmess.remarks = "" then some (false,m)
    else
      let r := m.addServer vmess editIndex now
      some (r.1 = .ok,r.2)
  else none

end Manager

/-- What the user can do to the server list. An activity opened on slot
`edit_index` reads its guid there in `onCreate` (and throws outside the list);
a deletion is the confirmed dialog of either activity. -/
inductive AppOp where
  | serverSave (editIndex : Int) (form : ServerForm) (now : Nat)
  | server2Save (editIndex : Int) (remarks : String) (now : Nat)
  | deleteServer (editIndex : Int)
  | select (position : Int)
  | importConfig (server : Option String) (now : Nat)
  | importCustomizeConfig (server : Option String) (now : Nat)
  | refresh (entries : List (Option String × Nat))

/-- An operation: `none` when it throws, else what it reports (`some false`
for `false`, `-1` or a toast; `none` for the refresh, which reports nothing)
and the state after it. -/
def appExec (cd : Codecs) (m : Manager) : AppOp → Option (Option Bool × Manager)
  | .serverSave i f now =>
    if i < 0 then some ((m.serverActivitySaveServer i "" f now).1,(m.serverActivitySaveServer i "" f now).2)
    else
      match m.angConfig.vmess[i.toNat]? with
      | some v =>
        some ((m.serverActivitySaveServer i v.guid f now).1,(m.serverActivitySaveServer i v.guid f now).2)
      | none => none
  | .server2Save i remarks now =>
    (m.server2ActivitySaveServer i remarks now).map fun r => (some r.1,r.2)
  | .deleteServer i =>
    if 0 ≤ i then some (some ((m.removeServer i).1 = .ok),(m.removeServer i).2) else some (some true,m)
  | .select i => some (some ((m.setActiveServer i).1 = .ok),(m.setActiveServer i).2)
  | .importConfig s now => some (some ((m.importConfig cd s now).1 = .ok),(m.importConfig cd s now).2)
  | .importCustomizeConfig s now =>
    some (some ((m.importCustomizeConfig s now).1 = .ok),(m.importCustomizeConfig s now).2)
  | .refresh es => some (none,m.onResponse cd es)

def appStep (cd : Codecs) (m : Manager) (op : AppOp) : Option Manager := (appExec cd m op).map Prod.snd

/-- The two copies agree: Gson decodes from `ANG_CONFIG` the config in memory. -/
def Manager.Agree (m : Manager) : Prop := m.stored = some m.angConfig

namespace Manager

variable {m m' : Manager} {v : VmessBean} {i : Int} {now : Nat}

@[simp] theorem storeConfigFile_agree (m : Manager) : (storeConfigFile m).Agree := rfl

/-- A call that returns `0` has stored what it wrote. -/
theorem agree_of_ok {r : Ret × Manager} (hr : r = (.fail,m) ∨ ∃ m', r = (.ok,storeConfigFile m'))
    (h : r.1 = .ok) : r.2.Agree := by
  rcases hr with rfl | ⟨m',rfl⟩
  · cases h
  · exact storeConfigFile_agree m'

theorem addServer_ok_agree (h : (m.addServer v i now).1 = .ok) : (m.addServer v i now).2.Agree :=
  agree_of_ok (addServer_cases m v i now) h

theorem removeServer_ok_agree (h : (m.removeServer i).1 = .ok) : (m.removeServer i).2.Agree :=
  agree_of_ok (removeServer_cases m i) h

theorem setActiveServer_ok_agree (h : (m.setActiveServer i).1 = .ok) : (m.setActiveServer i).2.Agree :=
  agree_of_ok (setActiveServer_cases m i) h

theorem importConfig_ok_agree (cd : Codecs) {s : Option String} (h : (m.importConfig cd s now).1 = .ok) :
    (m.importConfig cd s now).2.Agree := by
  obtain ⟨q,hq⟩ := (m.importConfig_spec cd s now).2 h
  rw [hq]
  exact storeConfigFile_agree _

theorem importCustomizeConfig_some {s : String} (hs : s ≠ "") :
    m.importCustomizeConfig (some s) now =
      (.ok,storeConfigFile { m with customConfigs := Function.update m.customConfigs (Decimal.render now) (some s),
                                    angConfig := appendServer m.angConfig (customServer (Decimal.render now)) }) := by
  simp [importCustomizeConfig,hs]

theorem importCustomizeConfig_ok_agree {s : Option String} (h : (m.importCustomizeConfig s now).1 = .ok) :
    (m.importCustomizeConfig s now).2.Agree := by
  rcases s with _ | s
  · simp [importCustomizeConfig] at h
  · by_cases hs : s = ""
    · simp [importCustomizeConfig,hs] at h
    · rw [importCustomizeConfig_some hs]
      exact storeConfigFile_agree _

theorem serverActivitySaveServer_cases (editGuid : String) (f : ServerForm) :
    ((m.serverActivitySaveServer i editGuid f now).1 = false → (m.serverActivitySaveServer i editGuid f now).2 = m) ∧
      ((m.serverActivitySaveServer i editGuid f now).1 = true →
        (m.serverActivitySaveServer i editGuid f now).2.Agree) := by
  unfold serverActivitySaveServer
  dsimp only
  split_ifs
  · simp
  · simp
  · simp
  · simp
  · simp
  · constructor
    · intro h
      exact addServer_failed (by simpa using h)
    · intro h
      exact addServer_ok_agree (by simpa using h)

theorem server2ActivitySaveServer_true {r : String} (h : m.server2ActivitySaveServer i r now = some (true,m')) :
    m'.Agree := by
  unfold server2ActivitySaveServer at h
  dsimp only at h
  split_ifs at h with hi hr
  · simp at h
  · simp only [Option.some.injEq,Prod.mk.injEq,decide_eq_true_eq] at h
    obtain ⟨hok,rfl⟩ := h
    exact addServer_ok_agree hok

end Manager

/-- Every operation that reports success leaves the two copies agreeing, except
a deletion with no server open, which does nothing. -/
theorem appExec_success_agree {cd : Codecs} {m m' : Manager} {op : AppOp}
    (h : appExec cd m op = some (some true,m')) : m'.Agree ∨ m' = m := by
  cases op with
  | serverSave i f now =>
    simp only [appExec] at h
    split_ifs at h
    · simp only [Option.some.injEq,Prod.mk.injEq] at h
      obtain ⟨h1,rfl⟩ := h
      exact .inl ((serverActivitySaveServer_cases "" f).2 h1)
    · split at h
      · simp only [Option.some.injEq,Prod.mk.injEq] at h
        obtain ⟨h1,rfl⟩ := h
        exact .inl ((serverActivitySaveServer_cases _ f).2 h1)
      · simp at h
  | server2Save i r now =>
    simp only [appExec,Option.map_eq_some_iff,Prod.mk.injEq,Option.some.injEq] at h
    obtain ⟨⟨b,m''⟩,h1,rfl,rfl⟩ := h
    exact .inl (server2ActivitySaveServer_true h1)
  | deleteServer i =>
    simp only [appExec] at h
    split_ifs at h
    · simp only [Option.some.injEq,Prod.mk.injEq,decide_eq_true_eq] at h
      obtain ⟨h1,rfl⟩ := h
      exact .inl (removeServer_ok_agree h1)
    · simp only [Option.some.injEq,Prod.mk.injEq] at h
      exact .inr h.2.symm
  | select i =>
    simp only [appExec,Option.some.injEq,Prod.mk.injEq,decide_eq_true_eq] at h
    obtain ⟨h1,rfl⟩ := h
    exact .inl (setActiveServer_ok_agree h1)
  | importConfig s now =>
    simp only [appExec,Option.some.injEq,Prod.mk.injEq,decide_eq_true_eq] at h
    obtain ⟨h1,rfl⟩ := h
    exact .inl (importConfig_ok_agree cd h1)
  | importCustomizeConfig s now =>
    simp only [appExec,Option.some.injEq,Prod.mk.injEq,decide_eq_true_eq] at h
    obtain ⟨h1,rfl⟩ := h
    exact .inl (importCustomizeConfig_ok_agree h1)
  | refresh es => simp [appExec] at h

/-- Every operation that reports failure, except `Server2Activity.saveServer`,
changes neither copy. -/
theorem appExec_failure_unchanged {cd : Codecs} {m m' : Manager} {op : AppOp}
    (hop : ∀ i r now, op ≠ .server2Save i r now) (h : appExec cd m op = some (some false,m')) : m' = m := by
  cases op with
  | serverSave i f now =>
    simp only [appExec] at h
    split_ifs at h
    · simp only [Option.some.injEq,Prod.mk.injEq] at h
      obtain ⟨h1,rfl⟩ := h
      exact (serverActivitySaveServer_cases "" f).1 h1
    · split at h
      · simp only [Option.some.injEq,Prod.mk.injEq] at h
        obtain ⟨h1,rfl⟩ := h
        exact (serverActivitySaveServer_cases _ f).1 h1
      · simp at h
  | server2Save i r now => exact absurd rfl (hop i r now)
  | deleteServer i =>
    simp only [appExec] at h
    split_ifs at h
    · simp only [Option.some.injEq,Prod.mk.injEq,decide_eq_false_iff_not] at h
      obtain ⟨h1,rfl⟩ := h
      exact removeServer_failed h1
    · simp at h
  | select i =>
    simp only [appExec,Option.some.injEq,Prod.mk.injEq,decide_eq_false_iff_not] at h
    obtain ⟨h1,rfl⟩ := h
    exact setActiveServer_failed h1
  | importConfig s now =>
    simp only [appExec,Option.some.injEq,Prod.mk.injEq,decide_eq_false_iff_not] at h
    obtain ⟨h1,rfl⟩ := h
    exact (m.importConfig_spec cd s now).1 h1
  | importCustomizeConfig s now =>
    simp only [appExec,Option.some.injEq,Prod.mk.injEq,decide_eq_false_iff_not] at h
    obtain ⟨h1,rfl⟩ := h
    exact (m.importCustomizeConfig_spec s now).1 h1
  | refresh es => simp [appExec] at h

/-- Right after a custom config is imported (both copies agree),
`Server2Activity.saveServer` with empty remarks reports failure yet has changed
the list in memory, which no longer matches the stored one; and from any
agreeing state with servers, a refresh whose response has no entries leaves an
empty list in memory and the old list stored. -/
theorem stored_config_diverges (cd : Codecs) (server : String) (hs : server ≠ "") (now : Nat) :
    (init.importCustomizeConfig (some server) now).2.Agree ∧
      (∃ m', appExec cd (init.importCustomizeConfig (some server) now).2 (.server2Save 0 "" now) =
          some (some false,m') ∧
        m'.angConfig ≠ (init.importCustomizeConfig (some server) now).2.angConfig ∧ ¬ m'.Agree) ∧
      ∀ m : Manager, m.Agree → m.angConfig.vmess ≠ [] →
        ∃ m', appExec cd m (.refresh []) = some (none,m') ∧ ¬ m'.Agree := by
  set m1 := (init.importCustomizeConfig (some server) now).2 with hm1
  have hv : m1.angConfig.vmess = [customServer (Decimal.render now)] := by
    simp [hm1,importCustomizeConfig_some hs,init,loadConfig,appendServer,storeConfigFile]
  have hagree : m1.Agree := by
    rw [hm1,importCustomizeConfig_some hs]
    exact storeConfigFile_agree _
  -- the guid, and so the remarks of the imported server, is never empty
  have hrem : (customServer (Decimal.render now)).remarks ≠ "" := by
    simpa [customServer] using Decimal.render_ne_empty now
  set v' : VmessBean := { customServer (Decimal.render now) with remarks := "" }
  have hne : v' ≠ customServer (Decimal.render now) := by
    intro h
    exact hrem (by rw [← h])
  refine ⟨hagree,⟨{ m1 with angConfig.vmess := [v'] },?_,?_,?_⟩,?_⟩
  · simp [appExec,server2ActivitySaveServer,hv,v']
  · intro h
    have := congrArg AngConfig.vmess h
    simp [hv,hne] at this
  · intro h
    have h' : m1.stored = some { m1.angConfig with vmess := [v'] } := h
    rw [hagree] at h'
    have := congrArg AngConfig.vmess (Option.some.inj h')
    simp [hv,hne.symm] at this
  · intro m hm hne
    refine ⟨_,rfl,fun h => hne ?_⟩
    have h' : m.stored = some { m.angConfig with vmess := [] } := h
    rw [hm] at h'
    exact congrArg AngConfig.vmess (Option.some.inj h')

theorem stored_config_diverges_after_import :
    (init.importCustomizeConfig (some "c") 1).2.Agree ∧
      (∃ m', appExec ⟨id,id,fun _ => none,fun _ => ""⟩ (init.importCustomizeConfig (some "c") 1).2
          (.server2Save 0 "" 1) = some (some false,m') ∧
        m'.angConfig ≠ (init.importCustomizeConfig (some "c") 1).2.angConfig ∧ ¬ m'.Agree) ∧
      ∀ m : Manager, m.Agree → m.angConfig.vmess ≠ [] →
        ∃ m', appExec ⟨id,id,fun _ => none,fun _ => ""⟩ m (.refresh []) = some (none,m') ∧ ¬ m'.Agree :=
  stored_config_diverges ⟨id,id,fun _ => none,fun _ => ""⟩ "c" (by simp) 1

/-- Two custom configs imported in the same millisecond get the same guid: the
lookup by the second server's guid finds the first, and the second text has
overwritten the first under `ANG_CONFIG + guid`. -/
theorem same_millisecond_guids_collide (cd : Codecs) (a b : String) (ha : a ≠ "") (hb : b ≠ "") (t : Nat) :
    ∃ m, runOpt (appStep cd) init [.importCustomizeConfig (some a) t,.importCustomizeConfig (some b) t] = some m ∧
      m.angConfig.vmess.map VmessBean.guid = [Decimal.render t,Decimal.render t] ∧
      m.angConfig.getIndexViaGuid (Decimal.render t) = 0 ∧
      m.customConfigs (Decimal.render t) = some b := by
  refine ⟨_,by simp [runOpt_cons,appStep,appExec]; rfl,?_,?_,?_⟩
  · simp [importCustomizeConfig_some ha,importCustomizeConfig_some hb,init,loadConfig,appendServer,
      storeConfigFile,customServer]
  · simp [importCustomizeConfig_some ha,importCustomizeConfig_some hb,init,loadConfig,appendServer,
      storeConfigFile,customServer,AngConfig.getIndexViaGuid,Decimal.render_ne_empty,List.findIdx?_cons]
  · simp [importCustomizeConfig_some ha,importCustomizeConfig_some hb,storeConfigFile]

theorem same_millisecond_guids_collide_at_zero :
    ∃ m, runOpt (appStep ⟨id,id,fun _ => none,fun _ => ""⟩) init
        [.importCustomizeConfig (some "a") 0,.importCustomizeConfig (some "b") 0] = some m ∧
      m.angConfig.vmess.map VmessBean.guid = [Decimal.render 0,Decimal.render 0] ∧
      m.angConfig.getIndexViaGuid (Decimal.render 0) = 0 ∧
      m.customConfigs (Decimal.render 0) = some "b" :=
  same_millisecond_guids_collide _ "a" "b" (by simp) (by simp) 0

end V2rayZt.Ang
