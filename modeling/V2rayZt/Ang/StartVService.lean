import V2rayZt.Ang.V2rayConfigUtil

/-! `Utils.startVService`, the way Tasker starts the VPN. A guid no server has gives the index
`-1`, which nobody checks, so the server that was active is started. -/
namespace V2rayZt.Ang
open V2rayConfigUtil

/-- `SettingsActivity.PREF_BYPASS_MAINLAND` and `PREF_MUX_ENABLED`. -/
def prefBypassMainland : String := "pref_bypass_mainland"
def prefMuxEnabled : String := "pref_mux_enabled"

/-- What `startVService` reads and writes: the manager, the `domainName`
array of the `lib2rayObj` singleton, the preferences `PREF_CURR_CONFIG`,
`PREF_CURR_CONFIG_GUID` and `PREF_CURR_CONFIG_NAME`, and how many times
`V2RayVpnService.startV2Ray` has sent its intent. -/
structure ServiceState where
  manager : Manager
  domainName : List String
  currConfig : String
  currConfigGuid : String
  currConfigName : String
  starts : Nat

/-- `currConfigGuid()` and `currConfigName()`: a field of the active server,
`""` when the index is out of range. -/
def currConfigField (field : VmessBean → String) (c : AngConfig) : String :=
  if c.index < 0 ∨ c.vmess.length ≤ 0 ∨ c.index > (c.vmess.length : Int) - 1 then ""
  else field (c.vmess.getD c.index.toNat {})

def currConfigGuid (c : AngConfig) : String := currConfigField VmessBean.guid c

def currConfigName (c : AngConfig) : String := currConfigField VmessBean.remarks c

/-- The text of `Result.content`. -/
def contentText (env : ConfigEnv) (r : Result) : String :=
  match r.content with
  | some j => env.jsonText j
  | none => ""

/-- What `getIndexViaGuid` returns: `-1` for the empty guid or a guid no
server has, and otherwise an index in range whose server has the guid. -/
theorem getIndexViaGuid_spec (c : AngConfig) (g : String) :
    (c.getIndexViaGuid g = -1 ∧ (g = "" ∨ ∀ v ∈ c.vmess, v.guid ≠ g)) ∨
      ∃ i, ∃ hi : i < c.vmess.length, c.getIndexViaGuid g = i ∧ (c.vmess.get ⟨i,hi⟩).guid = g := by
  by_cases hg : g = ""
  · exact .inl ⟨by simp [AngConfig.getIndexViaGuid,hg],.inl hg⟩
  cases hf : c.vmess.findIdx? (fun v => v.guid == g) with
  | none =>
    refine .inl ⟨by simp [AngConfig.getIndexViaGuid,hg,hf],.inr fun v hv heq => ?_⟩
    have := List.findIdx?_eq_none_iff.1 hf v hv
    simp [heq] at this
  | some i =>
    obtain ⟨hi,hgi,-⟩ := List.findIdx?_eq_some_iff_getElem.1 hf
    exact .inr ⟨i,hi,by simp [AngConfig.getIndexViaGuid,hg,hf],by simpa using hgi⟩

theorem currConfigField_of_active {c : AngConfig} {v : VmessBean} (hv : c.active = some v) (field : VmessBean → String) :
    currConfigField field c = field v := by
  unfold AngConfig.active at hv
  split_ifs at hv with h0
  have hi : c.index.toNat < c.vmess.length := (List.getElem?_eq_some_iff.1 hv).1
  have hrange : ¬ (c.index < 0 ∨ c.vmess.length ≤ 0 ∨ c.index > (c.vmess.length : Int) - 1) := by omega
  rw [currConfigField,if_neg hrange,List.getD_eq_getElem?_getD,hv,Option.getD_some]

section Service
variable (env : ConfigEnv) (prefBoolean : String → Bool)

/-- `genStoreV2rayConfig()`. The two switches are read into the live
`angConfig`; a config whose status is true is stored with the active server's
guid and remarks. `prefBoolean` is `getPrefBoolean(key, false)`. -/
def genStoreV2rayConfig (s : ServiceState) : Bool × ServiceState :=
  let angConfig := { s.manager.angConfig with
    bypassMainland := prefBoolean prefBypassMainland, muxEnabled := prefBoolean prefMuxEnabled }
  let r := getV2rayConfig env s.domainName angConfig
  let s := { s with manager.angConfig := angConfig, domainName := r.2 }
  if r.1.status then
    (true,{ s with currConfig := contentText env r.1, currConfigGuid := currConfigGuid angConfig,
                   currConfigName := currConfigName angConfig })
  else (false,s)

/-- `startVService(context)`. -/
def startVService (s : ServiceState) : Bool × ServiceState :=
  let r := genStoreV2rayConfig env prefBoolean s
  if r.1 then (true,{ r.2 with starts := r.2.starts + 1 }) else (false,r.2)

/-- `startVService(context, index)`: the value of `setActiveServer` is dropped. -/
def startVServiceIndex (s : ServiceState) (index : Int) : Bool × ServiceState :=
  startVService env prefBoolean { s with manager := (s.manager.setActiveServer index).2 }

/-- `startVService(context, guid)`, which `TaskerReceiver` calls with the
guid of its bundle. -/
def startVServiceGuid (s : ServiceState) (guid : String) : Bool × ServiceState :=
  startVServiceIndex env prefBoolean s (s.manager.angConfig.getIndexViaGuid guid)

variable {s : ServiceState} {g : String}

/-- The switches are all `genStoreV2rayConfig` writes into `angConfig`: the
list and the active index stay, and so do the stored copy and the custom
configs. -/
theorem genStoreV2rayConfig_manager :
    (genStoreV2rayConfig env prefBoolean s).2.manager.angConfig.vmess = s.manager.angConfig.vmess ∧
      (genStoreV2rayConfig env prefBoolean s).2.manager.angConfig.index = s.manager.angConfig.index ∧
      (genStoreV2rayConfig env prefBoolean s).2.manager.stored = s.manager.stored ∧
      (genStoreV2rayConfig env prefBoolean s).2.starts = s.starts := by
  dsimp only [genStoreV2rayConfig]
  split_ifs <;> exact ⟨rfl,rfl,rfl,rfl⟩

/-- A config that generates is stored under the active server's guid. -/
theorem genStoreV2rayConfig_currConfigGuid (h : (genStoreV2rayConfig env prefBoolean s).1 = true) :
    (genStoreV2rayConfig env prefBoolean s).2.currConfigGuid = currConfigGuid s.manager.angConfig := by
  dsimp only [genStoreV2rayConfig] at h ⊢
  -- the branch with status false returns false
  split_ifs at h ⊢
  rfl

/-- `startVService(context)` starts the service when the config generates. -/
theorem startVService_of_true (h : (genStoreV2rayConfig env prefBoolean s).1 = true) :
    startVService env prefBoolean s = (true,{ (genStoreV2rayConfig env prefBoolean s).2 with starts := s.starts + 1 }) := by
  have hstarts := (genStoreV2rayConfig_manager env prefBoolean (s := s)).2.2.2
  dsimp only [startVService]
  rw [if_pos h,hstarts]

theorem startVService_of_false (h : (genStoreV2rayConfig env prefBoolean s).1 = false) :
    startVService env prefBoolean s = (false,(genStoreV2rayConfig env prefBoolean s).2) := by
  dsimp only [startVService]
  rw [if_neg (by simp [h])]

/-- A guid that no server has, the empty guid included, falls through to
the active server: the lookup gives `-1`, `setActiveServer(-1)` changes
nothing, and `startVService(context)` runs on the state as it was. -/
theorem startVServiceGuid_of_unknown (hg : g = "" ∨ ∀ v ∈ s.manager.angConfig.vmess, v.guid ≠ g) :
    startVServiceGuid env prefBoolean s g = startVService env prefBoolean s := by
  have hidx : s.manager.angConfig.getIndexViaGuid g = -1 := by
    rcases getIndexViaGuid_spec s.manager.angConfig g with ⟨h,-⟩ | ⟨i,hi,h,hgi⟩
    · exact h
    · -- a server with the guid contradicts the hypothesis
      have hne : g ≠ "" := by
        intro he
        rw [he] at h
        simp [AngConfig.getIndexViaGuid] at h
      exact absurd hgi ((hg.resolve_left hne) _ (List.get_mem _ _))
  rw [startVServiceGuid,startVServiceIndex,hidx,Manager.setActiveServer_of_not (by omega)]

/-- A guid that some server has makes the first such server active, stores
the list, and starts the service with that server's config when it
generates. -/
theorem startVServiceGuid_of_known {i : Nat} (hi : i < s.manager.angConfig.vmess.length)
    (hidx : s.manager.angConfig.getIndexViaGuid g = i) :
    startVServiceGuid env prefBoolean s g =
      startVService env prefBoolean { s with manager := Manager.storeConfigFile { s.manager with angConfig.index := i } } := by
  rw [startVServiceGuid,startVServiceIndex,hidx,Manager.setActiveServer_of_lt (Int.natCast_nonneg i) (by simpa using hi)]

/-- A guid that some server has: the first such server becomes active and
the list is stored with it, and when its config generates, the service is
started and the current config is stored under that guid. -/
theorem startVServiceGuid_of_mem (hg : ∃ v ∈ s.manager.angConfig.vmess, v.guid = g) (hne : g ≠ "") :
    ∃ i, ∃ hi : i < s.manager.angConfig.vmess.length, (s.manager.angConfig.vmess.get ⟨i,hi⟩).guid = g ∧
      (startVServiceGuid env prefBoolean s g).2.manager.angConfig.index = i ∧
      (startVServiceGuid env prefBoolean s g).2.manager.stored = some { s.manager.angConfig with index := i } ∧
      ((startVServiceGuid env prefBoolean s g).1 = true →
        (startVServiceGuid env prefBoolean s g).2.starts = s.starts + 1 ∧
          (startVServiceGuid env prefBoolean s g).2.currConfigGuid = g) := by
  rcases getIndexViaGuid_spec s.manager.angConfig g with ⟨-,hg'⟩ | ⟨i,hi,hidx,hgi⟩
  · -- the lookup cannot fail on a guid that a server has
    obtain ⟨v,hv,rfl⟩ := hg
    exact absurd rfl ((hg'.resolve_left hne) v hv)
  refine ⟨i,hi,hgi,?_⟩
  set s' : ServiceState := { s with manager := Manager.storeConfigFile { s.manager with angConfig.index := i } }
  have hactive : s'.manager.angConfig.active = some (s.manager.angConfig.vmess.get ⟨i,hi⟩) := by
    simp [s',Manager.storeConfigFile,AngConfig.active,hi]
  obtain ⟨-,hindex,hstored,-⟩ := genStoreV2rayConfig_manager env prefBoolean (s := s')
  rw [startVServiceGuid_of_known env prefBoolean hi hidx]
  cases hgen : (genStoreV2rayConfig env prefBoolean s').1
  · rw [startVService_of_false env prefBoolean hgen]
    exact ⟨hindex,hstored,fun h => absurd h Bool.false_ne_true⟩
  · rw [startVService_of_true env prefBoolean hgen]
    refine ⟨hindex,hstored,fun _ => ⟨rfl,?_⟩⟩
    rw [genStoreV2rayConfig_currConfigGuid env prefBoolean hgen,currConfigGuid,currConfigField_of_active hactive,hgi]

theorem startVService_unknown_guid_starts_active (hg : g = "" ∨ ∀ v ∈ s.manager.angConfig.vmess, v.guid ≠ g)
    (hgen : (genStoreV2rayConfig env prefBoolean s).1 = true) :
    (startVServiceGuid env prefBoolean s g).1 = true ∧ (startVServiceGuid env prefBoolean s g).2.starts = s.starts + 1 ∧
      (startVServiceGuid env prefBoolean s g).2.manager.angConfig.index = s.manager.angConfig.index ∧
      (startVServiceGuid env prefBoolean s g).2.currConfigGuid = currConfigGuid s.manager.angConfig := by
  obtain ⟨-,hindex,-,-⟩ := genStoreV2rayConfig_manager env prefBoolean (s := s)
  rw [startVServiceGuid_of_unknown env prefBoolean hg,startVService_of_true env prefBoolean hgen]
  exact ⟨rfl,rfl,hindex,genStoreV2rayConfig_currConfigGuid env prefBoolean hgen⟩

end Service

/-- One default server with guid `"1"` on the asset, started by the guid
`"2"` that no server has. -/
theorem startVService_unknown_guid_starts_active_one_server :
    let s : ServiceState := ⟨⟨{ index := 0, vmess := [{ guid := "1" }] },none,fun _ => none⟩,[],"","","",0⟩
    (startVServiceGuid assetEnv (fun _ => false) s "2").1 = true ∧
      (startVServiceGuid assetEnv (fun _ => false) s "2").2.starts = s.starts + 1 ∧
      (startVServiceGuid assetEnv (fun _ => false) s "2").2.manager.angConfig.index = s.manager.angConfig.index ∧
      (startVServiceGuid assetEnv (fun _ => false) s "2").2.currConfigGuid = currConfigGuid s.manager.angConfig :=
  startVService_unknown_guid_starts_active _ _ (.inr (by decide)) rfl

end V2rayZt.Ang
