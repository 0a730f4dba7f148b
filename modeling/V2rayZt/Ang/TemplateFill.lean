import V2rayZt.Ang.V2rayConfigUtil

/-! What `outbound`, `routing` and `customDns` do to the template bean, each
inside its own `try`, and so the config `getV2rayConfig` writes for a type-1
server. -/
namespace V2rayZt.Ang
open V2rayZt.Machine

namespace V2rayConfigUtil
open V2rayConfig

/-! ### The statements, one at a time -/

/-- `routing` and `customDns` write `routing` and `dns` only. -/
theorem addRule_outbound {r : RulesBean} {c c' : V2rayConfig} (h : addRule r c = some c') : c'.outbound = c.outbound := by
  simp only [addRule,Option.bind_eq_bind,Option.bind_eq_some_iff,Option.pure_def,Option.some.injEq] at h
  obtain ⟨_,_,_,_,_,_,rfl⟩ := h
  rfl

theorem outbound_tryRun_routingStatements (config : AngConfig) (c : V2rayConfig) :
    (tryRun (routingStatements config) c).1.outbound = c.outbound := by
  refine tryRun_invariant (P := fun c' : V2rayConfig => c'.outbound = c.outbound) (fun f hf c₁ c₂ h₁ h₂ => ?_) rfl
  unfold routingStatements at hf
  split_ifs at hf
  · rcases List.mem_pair.1 hf with rfl | rfl <;> rw [addRule_outbound h₂,h₁]
  · cases hf

theorem outbound_tryRun_setDnsServers (servers : List String) (c : V2rayConfig) :
    (tryRun [setDnsServers servers] c).1.outbound = c.outbound := by
  cases hd : c.dns with
  | none => simp [tryRun,setDnsServers,hd]
  | some d => simp [tryRun,setDnsServers,hd]

/-- Where the links are there, `outbound` runs all its assignments. -/
theorem tryRun_outboundStatements {config : AngConfig} {vmess : VmessBean} {c : V2rayConfig} {o : OutboundBean}
    {st : OutSettingsBean} {v : VnextBean} {vs : List VnextBean} {u : UsersBean} {us : List UsersBean} {mux : MuxBean}
    (ho : c.outbound = some o) (hst : o.settings = some st) (hv : st.vnext = some (v :: vs))
    (hu : v.users = some (u :: us)) (hm : o.mux = some mux) :
    let user : UsersBean := { u with id := vmess.id, alterId := vmess.alterId, security := vmess.security }
    let vnext0 : VnextBean := { v with address := vmess.address, port := vmess.port, users := some (user :: us) }
    tryRun (outboundStatements config vmess) c =
      ({ c with
         outbound := some
           { o with
             settings := some { st with vnext := some (vnext0 :: vs) }
             mux := some { mux with enabled := config.muxEnabled }
             streamSettings := some (boundStreamSettings vmess) } },true) := by
  simp [outboundStatements,tryRun,updateVnext0,updateOutbound,updateUsers0,ho,hst,hv,hu,hm]

/-- A first `vnext` entry without users: the address and the port are written,
and the third assignment throws. -/
theorem tryRun_outboundStatements_of_no_user {config : AngConfig} {vmess : VmessBean} {c : V2rayConfig}
    {o : OutboundBean} {st : OutSettingsBean} {v : VnextBean} {vs : List VnextBean}
    (ho : c.outbound = some o) (hst : o.settings = some st) (hv : st.vnext = some (v :: vs))
    (hu : v.users.getD [] = []) :
    let vnext0 : VnextBean := { v with address := vmess.address, port := vmess.port }
    tryRun (outboundStatements config vmess) c =
      ({ c with outbound := some { o with settings := some { st with vnext := some (vnext0 :: vs) } } },false) := by
  rcases hus : v.users with _ | _ | ⟨u,us⟩
  · simp [outboundStatements,tryRun,updateVnext0,updateOutbound,updateUsers0,ho,hst,hv,hus]
  · simp [outboundStatements,tryRun,updateVnext0,updateOutbound,updateUsers0,ho,hst,hv,hus]
  · simp [hus] at hu

/-- Whether `outbound` reaches its last statement depends on the links only. -/
theorem tryRun_outboundStatements_snd (config : AngConfig) (vmess : VmessBean) (c : V2rayConfig) :
    (tryRun (outboundStatements config vmess) c).2 = outboundComplete c := by
  -- one case for each link that can be missing, and the complete one
  rcases c with ⟨_ | ⟨_ | ⟨_ | _ | ⟨⟨address,port,_ | _ | ⟨u,us⟩⟩,vs⟩⟩,streamSettings,_ | mux⟩,dns,routing⟩ <;>
    simp [outboundStatements,tryRun,updateVnext0,updateOutbound,updateUsers0,outboundComplete]

theorem tryRun_routingStatements {config : AngConfig} {c : V2rayConfig} {r : RoutingBean} {rs : SettingsBean}
    {rules : List RulesBean} (hr : c.routing = some r) (hrs : r.settings = some rs) (hrules : rs.rules = some rules) :
    tryRun (routingStatements config) c =
      ({ c with routing := some { r with settings := some { rs with
          rules := some (rules ++ if config.bypassMainland then [rulesItem1,rulesItem2] else []) } } },true) := by
  unfold routingStatements
  split_ifs
  · simp [tryRun,addRule,hr,hrs,hrules]
  · -- nothing to run: the routing written back is the one there
    obtain ⟨o,d,_⟩ := c
    obtain ⟨_⟩ := r
    obtain ⟨_⟩ := rs
    simp_all

theorem tryRun_setDnsServers {servers : List String} {c : V2rayConfig} {d : DnsBean} (hd : c.dns = some d) :
    tryRun [setDnsServers servers] c = ({ c with dns := some { d with servers := some servers } },true) := by
  simp [tryRun,setDnsServers,hd]

/-! ### The filled template -/

/-- A template with all the links these functions follow is filled with the
active server in its first `vnext` entry and first user, the config's mux
flag, the server's stream settings, the DNS servers of the preferences and,
with `bypassMainland`, the two mainland rules after the template's. -/
theorem fillTemplate_of_complete {remoteDns : String} {config : AngConfig} {vmess : VmessBean} {c : V2rayConfig}
    {o : OutboundBean} {st : OutSettingsBean} {v : VnextBean} {vs : List VnextBean} {u : UsersBean}
    {us : List UsersBean} {mux : MuxBean} {d : DnsBean} {r : RoutingBean} {rs : SettingsBean}
    {rules : List RulesBean} (ho : c.outbound = some o) (hst : o.settings = some st)
    (hv : st.vnext = some (v :: vs)) (hu : v.users = some (u :: us)) (hm : o.mux = some mux)
    (hd : c.dns = some d) (hr : c.routing = some r) (hrs : r.settings = some rs) (hrules : rs.rules = some rules) :
    let user : UsersBean := { u with id := vmess.id, alterId := vmess.alterId, security := vmess.security }
    let vnext0 : VnextBean := { v with address := vmess.address, port := vmess.port, users := some (user :: us) }
    fillTemplate remoteDns config vmess c =
      ({ outbound := some
           { o with
             settings := some { st with vnext := some (vnext0 :: vs) }
             mux := some { mux with enabled := config.muxEnabled }
             streamSettings := some (boundStreamSettings vmess) }
         dns := some { d with servers := some (getRemoteDnsServers remoteDns) }
         routing := some { r with settings := some { rs with
           rules := some (rules ++ if config.bypassMainland then [rulesItem1,rulesItem2] else []) } } },true) := by
  intro user vnext0
  simp only [fillTemplate,tryRun_outboundStatements ho hst hv hu hm]
  -- `routing` and `customDns` find the template's links under the new outbound
  rw [@tryRun_routingStatements config { c with outbound := some _ } r rs rules hr hrs hrules,
    @tryRun_setDnsServers _ { c with outbound := some _, routing := some _ } d hd]

/-- A template whose first `vnext` entry has no user gets the server's address
and port but keeps its own users, mux and stream settings, and `outbound`
does not reach its append. -/
theorem fillTemplate_of_no_user {remoteDns : String} {config : AngConfig} {vmess : VmessBean} {c : V2rayConfig}
    {o : OutboundBean} {st : OutSettingsBean} {v : VnextBean} {vs : List VnextBean}
    (ho : c.outbound = some o) (hst : o.settings = some st) (hv : st.vnext = some (v :: vs))
    (hu : v.users.getD [] = []) :
    (fillTemplate remoteDns config vmess c).1.outbound =
        some { o with settings := some { st with vnext := some ({ v with address := vmess.address, port := vmess.port } :: vs) } } ∧
      (fillTemplate remoteDns config vmess c).2 = false := by
  simp only [fillTemplate,tryRun_outboundStatements_of_no_user ho hst hv hu,and_true]
  rw [outbound_tryRun_setDnsServers,outbound_tryRun_routingStatements]

/-! ### DNS servers -/

/-- The `isEmpty` test changes nothing: the empty preference splits into one
empty piece, which is no IPv4 literal. -/
theorem remoteDnsIps_eq (remoteDns : String) :
    (if remoteDns.isEmpty then [] else (Text.split remoteDns ',').filter isIpAddress) =
      (Text.split remoteDns ',').filter isIpAddress := by
  split_ifs with h
  · have hip : isIpAddress "" = false := by simp [isIpAddress,isIpAddressFrom]
    rw [String.isEmpty_iff.1 h,Text.split_of_not_mem (by simp),List.filter_singleton,hip]
    rfl
  · rfl

theorem localhost_not_mem_filter (l : List String) : "localhost" ∉ l.filter isIpAddress := by
  intro h
  have hip := (List.mem_filter.1 h).2
  rw [isIpAddress_eq_false_of_mem (c := 'l') (by decide) (by decide)] at hip
  contradiction

/-- The remote DNS servers are the IPv4 literals of the preference in order,
then whichever of `8.8.8.8` and `8.8.4.4` they lack, then `localhost`. -/
theorem getRemoteDnsServers_eq (remoteDns : String) :
    getRemoteDnsServers remoteDns =
      (Text.split remoteDns ',').filter isIpAddress ++
        ["8.8.8.8","8.8.4.4"].filter (fun s => !((Text.split remoteDns ',').filter isIpAddress).contains s) ++
          ["localhost"] := by
  have hl := localhost_not_mem_filter (Text.split remoteDns ',')
  simp only [getRemoteDnsServers,remoteDnsIps_eq]
  generalize (Text.split remoteDns ',').filter isIpAddress = ips at hl ⊢
  by_cases h8 : "8.8.8.8" ∈ ips <;> by_cases h4 : "8.8.4.4" ∈ ips <;> simp [h8,h4,hl]

/-! ### Stream settings -/

/-- A `ws` server whose `requestHost` is a path and a host joined by `;` gets
that path and that `Host` header. -/
theorem boundStreamSettings_ws {vmess : VmessBean} (hnet : vmess.network = "ws") {path host : String}
    (hpath : ';' ∉ path.toList) (hhost : ';' ∉ host.toList) (hreq : vmess.requestHost = path ++ ";" ++ host) :
    (boundStreamSettings vmess).wssettings = some { connectionReuse := true, path := path, headers := { Host := host } } := by
  have hsplit : Text.split vmess.requestHost ';' = [path,host] := by
    have hjoin : (String.singleton ';').intercalate [path,host] = path ++ ";" ++ host := by
      simp [String.intercalate_cons_cons]
    rw [hreq,← hjoin]
    exact Text.split_intercalate (by simp) (by simp [hpath,hhost])
  simp [boundStreamSettings,hnet,hsplit]

example :
    (boundStreamSettings { network := "ws", requestHost := "/ray;example.com" }).wssettings =
      some { connectionReuse := true, path := "/ray", headers := { Host := "example.com" } } :=
  @boundStreamSettings_ws { network := "ws", requestHost := "/ray;example.com" } rfl "/ray" "example.com" (by decide)
    (by decide) rfl

/-! ### The config `getV2rayConfig` writes -/

/-- With the template asset read into a bean, `getV2rayConfig` for a type-1
active server reports success with the filled bean written out and
`#lib2ray` holding the domain names, to which the server's `address:port` is
added when `outbound` reached its last statement. -/
theorem getV2rayConfig_templateOfBean {env : ConfigEnv} {toJson : V2rayConfig → List (String × Json)}
    {v2rayConfig : V2rayConfig}
    (ht : env.template = some (templateOfBean toJson (env.prefString prefRemoteDns) v2rayConfig))
    {config : AngConfig} {vmess : VmessBean} (hv : config.active = some vmess) (h1 : vmess.configType = 1)
    (domainName : List String) :
    let filled := fillTemplate (env.prefString prefRemoteDns) config vmess v2rayConfig
    let domainName' := if filled.2 then domainName ++ outboundDomain vmess else domainName
    getV2rayConfig env domainName config =
      (⟨true,some (.obj (LinkedMap.put (toJson filled.1) "#lib2ray" (lib2rayObj domainName')))⟩,domainName') := by
  intro filled domainName'
  have hreach : filled.2 = outboundComplete v2rayConfig := tryRun_outboundStatements_snd config vmess v2rayConfig
  rw [getV2rayConfig_of_active env hv,if_pos h1]
  simp only [getV2rayConfigType1,ht,templateOfBean,hv,Option.map_some,domainName',hreach]
  rfl

/-- On a template with every link the fill follows, `getV2rayConfig` writes
the template with the active server, the mux flag, the stream settings, the
DNS servers and the mainland rules filled in, and adds the server to the
domain names when its address is no IPv4 literal. -/
theorem getV2rayConfig_of_complete_template {env : ConfigEnv} {toJson : V2rayConfig → List (String × Json)}
    {c : V2rayConfig} (ht : env.template = some (templateOfBean toJson (env.prefString prefRemoteDns) c))
    {config : AngConfig} {vmess : VmessBean} (hv : config.active = some vmess) (h1 : vmess.configType = 1)
    {o : OutboundBean} {st : OutSettingsBean} {v : VnextBean} {vs : List VnextBean} {u : UsersBean}
    {us : List UsersBean} {mux : MuxBean} {d : DnsBean} {r : RoutingBean} {rs : SettingsBean}
    {rules : List RulesBean} (ho : c.outbound = some o) (hst : o.settings = some st)
    (hv0 : st.vnext = some (v :: vs)) (hu : v.users = some (u :: us)) (hm : o.mux = some mux)
    (hd : c.dns = some d) (hr : c.routing = some r) (hrs : r.settings = some rs) (hrules : rs.rules = some rules)
    (domainName : List String) :
    let user : UsersBean := { u with id := vmess.id, alterId := vmess.alterId, security := vmess.security }
    let vnext0 : VnextBean := { v with address := vmess.address, port := vmess.port, users := some (user :: us) }
    let filled : V2rayConfig :=
      { outbound := some
          { o with
            settings := some { st with vnext := some (vnext0 :: vs) }
            mux := some { mux with enabled := config.muxEnabled }
            streamSettings := some (boundStreamSettings vmess) }
        dns := some { d with servers := some (getRemoteDnsServers (env.prefString prefRemoteDns)) }
        routing := some { r with settings := some { rs with
          rules := some (rules ++ if config.bypassMainland then [rulesItem1,rulesItem2] else []) } } }
    getV2rayConfig env domainName config =
      (⟨true,some (.obj (LinkedMap.put (toJson filled) "#lib2ray" (lib2rayObj (domainName ++ outboundDomain vmess))))⟩,
        domainName ++ outboundDomain vmess) := by
  intro user vnext0 filled
  have hfill : fillTemplate (env.prefString prefRemoteDns) config vmess c = (filled,true) :=
    fillTemplate_of_complete ho hst hv0 hu hm hd hr hrs hrules
  rw [getV2rayConfig_templateOfBean ht hv h1 domainName]
  simp only [hfill,if_true]

/-- On the asset, the default server is written into the template with the
DNS servers of an empty preference, and its `address:port` is listed. -/
theorem getV2rayConfig_of_complete_template_asset :
    ∃ filled : V2rayConfig,
      filled.dns = some { servers := some (getRemoteDnsServers "") } ∧
        getV2rayConfig assetEnv [] { index := 0, vmess := [{}] } =
          (⟨true,some (.obj (LinkedMap.put (gsonToJson filled) "#lib2ray" (lib2rayObj ([] ++ outboundDomain {}))))⟩,
            [] ++ outboundDomain {}) :=
  ⟨_,rfl,@getV2rayConfig_of_complete_template assetEnv gsonToJson assetBean rfl { index := 0, vmess := [{}] } {} rfl rfl
    _ _ _ _ _ _ _ _ _ _ _ rfl rfl rfl rfl rfl rfl rfl rfl rfl []⟩

/-- On a template whose first `vnext` entry has no user, `getV2rayConfig`
still reports success: the config names the server's address and port with
the template's users, mux and stream settings, and no domain name is added. -/
theorem getV2rayConfig_of_no_user {env : ConfigEnv} {toJson : V2rayConfig → List (String × Json)}
    {c : V2rayConfig} (ht : env.template = some (templateOfBean toJson (env.prefString prefRemoteDns) c))
    {config : AngConfig} {vmess : VmessBean} (hv : config.active = some vmess) (h1 : vmess.configType = 1)
    {o : OutboundBean} {st : OutSettingsBean} {v : VnextBean} {vs : List VnextBean}
    (ho : c.outbound = some o) (hst : o.settings = some st) (hv0 : st.vnext = some (v :: vs))
    (hu : v.users.getD [] = []) (domainName : List String) :
    ∃ filled : V2rayConfig,
      filled.outbound =
          some { o with settings := some { st with vnext := some ({ v with address := vmess.address, port := vmess.port } :: vs) } } ∧
        getV2rayConfig env domainName config =
          (⟨true,some (.obj (LinkedMap.put (toJson filled) "#lib2ray" (lib2rayObj domainName)))⟩,domainName) := by
  obtain ⟨hout,hreach⟩ := @fillTemplate_of_no_user (env.prefString prefRemoteDns) config vmess c o st v vs ho hst hv0 hu
  refine ⟨_,hout,?_⟩
  rw [getV2rayConfig_templateOfBean ht hv h1 domainName]
  simp only [hreach]
  rfl

/-- The asset with its user removed: a server on `example.com:443` is written
into `vnext` with no user, and no domain name is listed. -/
theorem getV2rayConfig_of_no_user_asset :
    ∃ filled : V2rayConfig,
      filled.outbound =
          some { settings := some { vnext := some [{ address := "example.com", port := 443, users := some [] }] }
                 streamSettings := some { network := "tcp", security := "", tcpSettings := none, kcpsettings := none,
                                          wssettings := none }
                 mux := some { enabled := false } } ∧
        getV2rayConfig
            ⟨some (templateOfBean gsonToJson ""
              { assetBean with
                outbound := assetBean.outbound.map fun o =>
                  { o with settings := some { vnext := some [{ address := "v2ray.cool", port := 10086, users := some [] }] } } }),
              fun _ => "",fun _ => none,fun _ => ""⟩
            [] { index := 0, vmess := [{ address := "example.com", port := 443 }] } =
          (⟨true,some (.obj (LinkedMap.put (gsonToJson filled) "#lib2ray" (lib2rayObj [])))⟩,[]) :=
  @getV2rayConfig_of_no_user _ gsonToJson _ rfl { index := 0, vmess := [{ address := "example.com", port := 443 }] } _
    rfl rfl
    { settings := some { vnext := some [{ address := "v2ray.cool", port := 10086, users := some [] }] }
      streamSettings := some { network := "tcp", security := "", tcpSettings := none, kcpsettings := none,
                               wssettings := none }
      mux := some { enabled := false } }
    _ { address := "v2ray.cool", port := 10086, users := some [] } [] rfl rfl rfl rfl []

end V2rayConfigUtil

end V2rayZt.Ang
