import V2rayZt.Lib.JavaArray
import V2rayZt.Lib.CString
import V2rayZt.Lib.Decimal
import V2rayZt.Lib.Text
import V2rayZt.Lib.ExceptLoop
import V2rayZt.Lib.Machine

/-! `V2RayVpnService.setup` and its callback: the parameter string read into `VpnService.Builder`
calls, and the swap of the tun interface. The builder's checks and `establish()` are the
platform's; at most one interface is ever open. -/
namespace V2rayZt.Ang.VpnService
open V2rayZt.Machine V2rayZt.ExceptLoop

/-- What `setup` throws: its own accesses and parsers, the platform's builder,
and Kotlin's check that the platform value `establish()` returns is not null. -/
inductive Thrown where
  | stringIndexOutOfBounds
  | indexOutOfBounds
  | numberFormat
  | illegalArgument
  | unsupportedOperation
  /-- `PackageManager.NameNotFoundException`, for an app the builder does not find. -/
  | nameNotFound
  | nullAssertion
  deriving DecidableEq, Repr

/-- The calls `setup` makes on its `Builder`. -/
inductive BuilderCall where
  | setMtu (mtu : Int)
  | addAddress (address : String) (prefixLength : Int)
  | addRoute (address : String) (prefixLength : Int)
  | addSearchDomain (domain : String)
  | setSession (session : String)
  | addDnsServer (address : String)
  | addDisallowedApplication (packageName : String)
  | addAllowedApplication (packageName : String)
  deriving DecidableEq, Repr

/-- `Short.parseShort` (`w = 16`) and `Integer.parseInt` (`w = 32`). -/
def parseSigned (w : Nat) (s : String) : Except Thrown Int :=
  match Decimal.parseSigned? w s with
  | some v => pure v
  | none => throw .numberFormat

def parseShort (s : String) : Except Thrown Int := parseSigned 16 s

def parseInt (s : String) : Except Thrown Int := parseSigned 32 s

/-- `it[i]` on the fields of a token. -/
def field (it : List String) (i : Nat) : Except Thrown String := JavaArray.load .indexOutOfBounds it i

/-- `s[0]` on a field. -/
def firstChar (s : String) : Except Thrown Char := JavaArray.load .stringIndexOutOfBounds s.toList 0

/-- The `when (it[0][0])` on one token: the builder call of its branch, `none`
for a letter with no branch. Arguments are read left to right, so `a,x`
throws at `it[2]`. -/
def directive (it : List String) : Except Thrown (Option BuilderCall) := do
  match ← firstChar (← field it 0) with
  | 'm' => return some (.setMtu (← parseShort (← field it 1)))
  | 'a' => return some (.addAddress (← field it 1) (← parseInt (← field it 2)))
  | 'r' => return some (.addRoute (← field it 1) (← parseInt (← field it 2)))
  | 's' => return some (.addSearchDomain (← field it 1))
  | _ => return none

/-- A call on the builder: the platform checks it, and throws or records it. -/
def builderCall (refuses : BuilderCall → Option Thrown) (calls : List BuilderCall) (c : BuilderCall) :
    Except Thrown (List BuilderCall) :=
  match refuses c with
  | some e => throw e
  | none => pure (calls ++ [c])

/-- `parameters.split(" ").map { it.split(",") }`. -/
def tokens (parameters : String) : List (List String) :=
  (Text.split parameters ' ').map (Text.split · ',')

/-- The `forEach` over the tokens, from a fresh builder. -/
def configure (refuses : BuilderCall → Option Thrown) (parameters : String) : Except Thrown (List BuilderCall) :=
  (tokens parameters).foldlM (fun calls it => do
    match ← directive it with
    | some c => builderCall refuses calls c
    | none => pure calls) []

/-- `AppConfig.PREF_CURR_CONFIG_NAME`, `SettingsActivity.PREF_PER_APP_PROXY`,
`PerAppProxyActivity.PREF_PER_APP_PROXY_SET` and `PREF_BYPASS_APPS`. -/
def prefCurrConfigName : String := "pref_v2ray_config_name"
def prefPerAppProxy : String := "pref_per_app_proxy"
def prefPerAppProxySet : String := "pref_per_app_proxy_set"
def prefBypassApps : String := "pref_bypass_apps"

/-- `Build.VERSION_CODES.LOLLIPOP`. -/
def lollipop : Nat := 21

/-- `Utils.getDnsServers()`, a `LinkedHashSet` in insertion order. -/
def getDnsServers : List String := ["8.8.8.8","8.8.4.4"]

/-- What `setup` gets from the platform: the builder's checks of each call (the
ones `setup` can meet depend on the call alone, since one `setup` never mixes
allowed and disallowed apps), what `establish()` does with the calls made (a
new interface, `null`, or a throw), `Build.VERSION.SDK_INT`, and the
preferences read as `getPrefString(key, "")`, `getPrefBoolean(key, false)` and
`getPrefStringSet(key, null)` (a set in its iteration order). -/
structure SetupEnv where
  refuses : BuilderCall → Option Thrown
  establish : List BuilderCall → Except Thrown Bool
  sdkInt : Nat
  prefString : String → String
  prefBoolean : String → Bool
  prefStringSet : String → Option (List String)

/-- The call for one app of the per-app list. -/
def appCall (bypassApps : Bool) (app : String) : BuilderCall :=
  if bypassApps then .addDisallowedApplication app else .addAllowedApplication app

/-- `apps?.forEach { try { … } catch (e: PackageManager.NameNotFoundException) {} }`. -/
def addApps (refuses : BuilderCall → Option Thrown) (bypassApps : Bool) (calls : List BuilderCall) :
    List String → Except Thrown (List BuilderCall)
  | [] => pure calls
  | app :: apps =>
    match builderCall refuses calls (appCall bypassApps app) with
    | .error .nameNotFound => addApps refuses bypassApps calls apps
    | .error e => throw e
    | .ok calls => addApps refuses bypassApps calls apps

/-- What `setup` asks of the builder after the parameters: the session, the
DNS servers and, from Lollipop on and when per-app proxy is on, the apps. -/
def finish (env : SetupEnv) (calls : List BuilderCall) : Except Thrown (List BuilderCall) := do
  let calls ← builderCall env.refuses calls (.setSession (env.prefString prefCurrConfigName))
  let calls ← getDnsServers.foldlM (fun calls dns => builderCall env.refuses calls (.addDnsServer dns)) calls
  if env.sdkInt ≥ lollipop ∧ env.prefBoolean prefPerAppProxy = true then
    let apps := env.prefStringSet prefPerAppProxySet
    let bypassApps := env.prefBoolean prefBypassApps
    match apps with
    | some apps => addApps env.refuses bypassApps calls apps
    | none => pure calls
  else pure calls

/-- Every call `setup` makes on its builder before it touches `mInterface`. -/
def builderCalls (env : SetupEnv) (parameters : String) : Except Thrown (List BuilderCall) :=
  configure env.refuses parameters >>= finish env

/-- A tun interface the platform established for the service: its serial
among the interfaces established, and the builder calls it was made from. -/
structure Iface where
  serial : Nat
  calls : List BuilderCall
  deriving DecidableEq, Repr

/-- `mInterface`, `none` while the lateinit property is unset; on the
platform's side, the service's interfaces still open and how many were
established. -/
structure VpnState where
  mInterface : Option Iface
  openIfaces : List Iface
  established : Nat

def VpnState.init : VpnState := ⟨none,[],0⟩

/-- `try { mInterface.close() } catch (ignored: Exception) {}`: reading the
unset property throws, and that is ignored too. -/
def closeInterface (s : VpnState) : VpnState :=
  match s.mInterface with
  | none => s
  | some i => { s with openIfaces := s.openIfaces.erase i }

/-- `mInterface = builder.establish()` when a descriptor comes back: the new
interface is open and held. -/
def hold (s : VpnState) (calls : List BuilderCall) : VpnState :=
  let i : Iface := ⟨s.established,calls⟩
  { mInterface := some i, openIfaces := s.openIfaces ++ [i], established := s.established + 1 }

/-- `setup(parameters)`: what it throws, if it throws, and the state it leaves. -/
def setup (env : SetupEnv) (s : VpnState) (parameters : String) : Option Thrown × VpnState :=
  match builderCalls env parameters with
  | .error e => (some e,s)
  | .ok calls =>
    let s := closeInterface s
    match env.establish calls with
    | .error e => (some e,s)
    | .ok false => (some .nullAssertion,s)
    | .ok true => (none,hold s calls)

/-- `V2RayCallback.setup(s)`: `0` when `setup` returns, `-1` when it throws. -/
def setupCallback (env : SetupEnv) (s : VpnState) (parameters : String) : Int × VpnState :=
  match setup env s parameters with
  | (none,s) => (0,s)
  | (some _,s) => (-1,s)

/-- One callback from the core, with the platform and preferences of that moment. -/
def step (s : VpnState) (call : SetupEnv × String) : VpnState := (setupCallback call.1 s call.2).2

/-! ### The parameter string -/

theorem field_mem {it : List String} {i : Nat} {f : String} (h : field it i = .ok f) : f ∈ it := by
  unfold field JavaArray.load at h
  split at h
  · rename_i x hx
    cases h
    exact List.mem_of_getElem? hx
  · cases h

@[simp] theorem field_cons_zero (f : String) (it : List String) : field (f :: it) 0 = .ok f := rfl

@[simp] theorem field_cons_succ (f : String) (it : List String) (i : Nat) : field (f :: it) (i + 1) = field it i := rfl

theorem parseSigned_range {w : Nat} {s : String} {v : Int} (h : parseSigned w s = .ok v) :
    -2^(w-1) ≤ v ∧ v < 2^(w-1) := by
  unfold parseSigned at h
  split at h
  · rename_i hv
    cases h
    exact Decimal.range_of_parseSigned? hv
  · cases h

theorem parseSigned_render {w : Nat} {v : Int} (hlo : -2^(w-1) ≤ v) (hhi : v < 2^(w-1)) :
    parseSigned w (Decimal.render v) = .ok v := by
  rw [parseSigned,Decimal.parseSigned?_render hlo hhi]
  rfl

/-- What one token adds to the builder's calls. -/
def tokenCalls (refuses : BuilderCall → Option Thrown) (it : List String) : Except Thrown (List BuilderCall) := do
  match ← directive it with
  | some c => builderCall refuses [] c
  | none => pure []

theorem builderCall_eq (refuses : BuilderCall → Option Thrown) (calls : List BuilderCall) (c : BuilderCall) :
    builderCall refuses calls c = (calls ++ ·) <$> builderCall refuses [] c := by
  unfold builderCall
  cases refuses c <;> rfl

/-- The loop over the tokens is `mapM` of what each token adds. -/
theorem configure_eq (refuses : BuilderCall → Option Thrown) (parameters : String) :
    configure refuses parameters = List.flatten <$> (tokens parameters).mapM (tokenCalls refuses) := by
  have hbody : ∀ calls it, (do
      match ← directive it with
      | some c => builderCall refuses calls c
      | none => pure calls : Except Thrown (List BuilderCall)) = (calls ++ ·) <$> tokenCalls refuses it := by
    intro calls it
    unfold tokenCalls
    cases directive it with
    | error e => rfl
    | ok oc =>
      cases oc with
      | none => simp [Functor.map,Except.map,pure,Except.pure]
      | some c => exact builderCall_eq refuses calls c
  unfold configure
  simp only [hbody,foldlM_append,List.nil_append]

/-! ### Directives

The format the core writes: one token per directive, its fields joined by
commas and the tokens by spaces. This layer is the model's statement of what
`setup` reads; `configure` is checked against it. -/

/-- A text with neither separator of the format. -/
def Plain (s : String) : Prop := ' ' ∉ s.toList ∧ ',' ∉ s.toList

instance : DecidablePred Plain := fun _ => inferInstanceAs (Decidable (_ ∧ _))

/-- A directive of the parameter string. -/
inductive Directive where
  | mtu (value : Int)
  | address (address : String) (prefixLength : Int)
  | route (address : String) (prefixLength : Int)
  | searchDomain (domain : String)
  deriving DecidableEq, Repr

namespace Directive

/-- The builder call a directive asks for. -/
def call : Directive → BuilderCall
  | mtu v => .setMtu v
  | address a p => .addAddress a p
  | route a p => .addRoute a p
  | searchDomain d => .addSearchDomain d

/-- The fields of a directive's token. -/
def fields : Directive → List String
  | mtu v => ["m",Decimal.render v]
  | address a p => ["a",a,Decimal.render p]
  | route a p => ["r",a,Decimal.render p]
  | searchDomain d => ["s",d]

def render (d : Directive) : String := ",".intercalate d.fields

/-- A directive whose token reads back: its texts are plain, and its numbers
fit a `Short` (the MTU) or an `Int` (a prefix length). -/
def WellFormed : Directive → Prop
  | mtu v => -2^15 ≤ v ∧ v < 2^15
  | address a p | route a p => Plain a ∧ -2^31 ≤ p ∧ p < 2^31
  | searchDomain d => Plain d

instance (d : Directive) : Decidable d.WellFormed :=
  match d with
  | mtu _ => inferInstanceAs (Decidable (_ ∧ _))
  | address .. | route .. => inferInstanceAs (Decidable (_ ∧ _))
  | searchDomain _ => inferInstanceAs (Decidable (Plain _))

end Directive

def renderParameters (ds : List Directive) : String := " ".intercalate (ds.map Directive.render)

theorem plain_render_number (v : Int) : Plain (Decimal.render v) := by
  -- a rendered number is digits after a sign
  have hchars := Decimal.parse?_chars (Decimal.parse?_render v)
  constructor
  · intro h
    rcases hchars ' ' h with h | h | h <;> simp at h
  · intro h
    rcases hchars ',' h with h | h | h <;> simp at h

theorem plain_fields {d : Directive} (hwf : d.WellFormed) : ∀ f ∈ d.fields, Plain f := by
  cases d with
  | mtu v =>
    simp only [Directive.fields,List.forall_mem_cons,List.not_mem_nil,IsEmpty.forall_iff,implies_true,and_true]
    exact ⟨by decide,plain_render_number v⟩
  | address a p =>
    simp only [Directive.fields,List.forall_mem_cons,List.not_mem_nil,IsEmpty.forall_iff,implies_true,and_true]
    exact ⟨by decide,hwf.1,plain_render_number p⟩
  | route a p =>
    simp only [Directive.fields,List.forall_mem_cons,List.not_mem_nil,IsEmpty.forall_iff,implies_true,and_true]
    exact ⟨by decide,hwf.1,plain_render_number p⟩
  | searchDomain e =>
    simp only [Directive.fields,List.forall_mem_cons,List.not_mem_nil,IsEmpty.forall_iff,implies_true,and_true]
    exact ⟨by decide,hwf⟩

theorem fields_ne_nil (d : Directive) : d.fields ≠ [] := by
  cases d <;> simp [Directive.fields]

theorem split_render {d : Directive} (hwf : d.WellFormed) : Text.split d.render ',' = d.fields :=
  Text.split_intercalate (fields_ne_nil d) fun f hf => (plain_fields hwf f hf).2

theorem space_not_mem_render {d : Directive} (hwf : d.WellFormed) : ' ' ∉ d.render.toList := by
  intro h
  rw [Directive.render,String.toList_intercalate] at h
  rcases CString.mem_intercalate h with h | ⟨f,hf,hsp⟩
  · simp at h
  · obtain ⟨f',hf',rfl⟩ := List.mem_map.1 hf
    exact (plain_fields hwf f' hf').1 hsp

/-- The tokens of rendered directives are their fields. -/
theorem tokens_renderParameters {ds : List Directive} (hds : ds ≠ []) (hwf : ∀ d ∈ ds, d.WellFormed) :
    tokens (renderParameters ds) = ds.map Directive.fields := by
  have hsplit : Text.split (renderParameters ds) ' ' = ds.map Directive.render := by
    refine Text.split_intercalate (by simpa using hds) fun t ht => ?_
    obtain ⟨d,hd,rfl⟩ := List.mem_map.1 ht
    exact space_not_mem_render (hwf d hd)
  rw [tokens,hsplit,List.map_map]
  exact List.map_congr_left fun d hd => split_render (hwf d hd)

theorem directive_fields {d : Directive} (hwf : d.WellFormed) : directive d.fields = .ok (some d.call) := by
  cases d with
  | mtu v =>
    have hm : firstChar "m" = .ok 'm' := rfl
    simp only [directive,Directive.fields,Directive.call,field_cons_zero,field_cons_succ,hm,ok_bind,parseShort,
      @parseSigned_render 16 v hwf.1 hwf.2]
    rfl
  | address a p =>
    have ha : firstChar "a" = .ok 'a' := rfl
    simp only [directive,Directive.fields,Directive.call,field_cons_zero,field_cons_succ,ha,ok_bind,parseInt,
      @parseSigned_render 32 p hwf.2.1 hwf.2.2]
    rfl
  | route a p =>
    have hr : firstChar "r" = .ok 'r' := rfl
    simp only [directive,Directive.fields,Directive.call,field_cons_zero,field_cons_succ,hr,ok_bind,parseInt,
      @parseSigned_render 32 p hwf.2.1 hwf.2.2]
    rfl
  | searchDomain e => rfl

theorem tokenCalls_fields {refuses : BuilderCall → Option Thrown} {d : Directive} (hwf : d.WellFormed)
    (hok : refuses d.call = none) : tokenCalls refuses d.fields = .ok [d.call] := by
  rw [tokenCalls,directive_fields hwf,ok_bind]
  simp only [builderCall,hok,List.nil_append]
  rfl

/-- Rendered directives reach the builder as their calls, in order, when the
platform takes each of them. -/
theorem configure_renderParameters {refuses : BuilderCall → Option Thrown} {ds : List Directive} (hds : ds ≠ [])
    (hwf : ∀ d ∈ ds, d.WellFormed) (hok : ∀ d ∈ ds, refuses d.call = none) :
    configure refuses (renderParameters ds) = .ok (ds.map Directive.call) := by
  have hmap : ds.mapM (tokenCalls refuses ∘ Directive.fields) = .ok (ds.map fun d => [d.call]) :=
    mapM_of_ok fun d hd => tokenCalls_fields (hwf d hd) (hok d hd)
  rw [configure_eq,tokens_renderParameters hds hwf,List.mapM_map,hmap]
  show Except.ok (ds.map fun d => [d.call]).flatten = _
  rw [← List.flatMap_def,List.map_eq_flatMap]

theorem configure_renderParameters_two :
    configure (fun _ => none) (renderParameters [.mtu 1500,.address "10.0.0.2" 32]) =
      .ok [.setMtu 1500,.addAddress "10.0.0.2" 32] :=
  configure_renderParameters (by decide) (by decide) (by decide)

/-- The fields of every token are plain. -/
theorem plain_of_mem_tokens {parameters : String} {it : List String} (hit : it ∈ tokens parameters) :
    ∀ f ∈ it, Plain f := by
  obtain ⟨t,ht,rfl⟩ := List.mem_map.1 hit
  intro f hf
  -- a field is a piece of a token, which is a piece of the parameters
  exact ⟨fun h => Text.not_mem_of_mem_split ht ((Text.sublist_of_mem_split hf).subset h),
    Text.not_mem_of_mem_split hf⟩

/-- A call a token with plain fields asks for is a well-formed directive's. -/
theorem directive_wellFormed {it : List String} {c : BuilderCall} (hplain : ∀ f ∈ it, Plain f)
    (h : directive it = .ok (some c)) : ∃ d : Directive, d.WellFormed ∧ d.call = c := by
  unfold directive at h
  obtain ⟨f0,-,h⟩ := bind_eq_ok.1 h
  obtain ⟨ch,-,h⟩ := bind_eq_ok.1 h
  -- one case per branch of the `when`
  split at h
  · obtain ⟨s,-,h⟩ := bind_eq_ok.1 h
    obtain ⟨v,hv,h⟩ := bind_eq_ok.1 h
    cases h
    exact ⟨.mtu v,parseSigned_range hv,rfl⟩
  · obtain ⟨a,ha,h⟩ := bind_eq_ok.1 h
    obtain ⟨s,-,h⟩ := bind_eq_ok.1 h
    obtain ⟨p,hp,h⟩ := bind_eq_ok.1 h
    cases h
    exact ⟨.address a p,⟨hplain a (field_mem ha),parseSigned_range hp⟩,rfl⟩
  · obtain ⟨a,ha,h⟩ := bind_eq_ok.1 h
    obtain ⟨s,-,h⟩ := bind_eq_ok.1 h
    obtain ⟨p,hp,h⟩ := bind_eq_ok.1 h
    cases h
    exact ⟨.route a p,⟨hplain a (field_mem ha),parseSigned_range hp⟩,rfl⟩
  · obtain ⟨e,he,h⟩ := bind_eq_ok.1 h
    cases h
    exact ⟨.searchDomain e,hplain e (field_mem he),rfl⟩
  · cases h

theorem directive_of_mem_tokenCalls {refuses : BuilderCall → Option Thrown} {it : List String}
    {cs : List BuilderCall} (h : tokenCalls refuses it = .ok cs) {c : BuilderCall} (hc : c ∈ cs) :
    directive it = .ok (some c) := by
  unfold tokenCalls at h
  obtain ⟨oc,hoc,h⟩ := bind_eq_ok.1 h
  cases oc with
  | none =>
    cases h
    simp at hc
  | some c' =>
    -- the builder took the call, so the token added exactly it
    cases hr : refuses c' with
    | some e =>
      simp only [builderCall,hr] at h
      cases h
    | none =>
      simp only [builderCall,hr,List.nil_append] at h
      cases h
      rw [List.mem_singleton.1 hc,hoc]

/-- What the parameters make the builder do comes from well-formed directives:
every MTU fits a `Short`, every prefix length an `Int`, and no address or
domain holds a space or a comma. -/
theorem configure_wellFormed {refuses : BuilderCall → Option Thrown} {parameters : String}
    {calls : List BuilderCall} (h : configure refuses parameters = .ok calls) :
    ∀ c ∈ calls, ∃ d : Directive, d.WellFormed ∧ d.call = c := by
  rw [configure_eq] at h
  cases hm : (tokens parameters).mapM (tokenCalls refuses) with
  | error e =>
    rw [hm] at h
    cases h
  | ok css =>
    rw [hm] at h
    cases h
    intro c hc
    obtain ⟨cs,hcs,hc⟩ := List.mem_flatten.1 hc
    obtain ⟨it,hit,hits⟩ := mem_of_mapM_ok hm cs hcs
    exact directive_wellFormed (plain_of_mem_tokens hit) (directive_of_mem_tokenCalls hits hc)

theorem configure_wellFormed_mtu_address :
    configure (fun _ => none) "m,1500 a,10.0.0.2,32" = .ok [.setMtu 1500,.addAddress "10.0.0.2" 32] ∧
      ∀ c ∈ [BuilderCall.setMtu 1500,.addAddress "10.0.0.2" 32], ∃ d : Directive, d.WellFormed ∧ d.call = c :=
  ⟨by decide,@configure_wellFormed (fun _ => none) "m,1500 a,10.0.0.2,32" _ (by decide)⟩

/-! ### Errors -/

/-- An empty token has one empty field, and reading its first character throws. -/
theorem tokenCalls_empty (refuses : BuilderCall → Option Thrown) :
    tokenCalls refuses [""] = .error .stringIndexOutOfBounds := rfl

theorem configure_of_empty_token {refuses : BuilderCall → Option Thrown} {parameters : String}
    (h : "" ∈ Text.split parameters ' ') : ∃ e, configure refuses parameters = .error e := by
  have hsplit : Text.split "" ',' = [""] := rfl
  have hmem : [""] ∈ tokens parameters := List.mem_map.2 ⟨"",h,hsplit⟩
  have hthrows : ∀ cs, tokenCalls refuses [""] ≠ .ok cs := fun cs h => by
    rw [tokenCalls_empty] at h
    cases h
  obtain ⟨e,he⟩ := mapM_error_of_mem hthrows hmem
  exact ⟨e,by rw [configure_eq,he]; rfl⟩

@[simp] theorem setupCallback_snd (env : SetupEnv) (s : VpnState) (parameters : String) :
    (setupCallback env s parameters).2 = (setup env s parameters).2 := by
  unfold setupCallback
  split <;> simp_all

/-- What one `setup` can do: throw while it builds and change nothing, throw
after closing the old interface, or close it and hold a new one. -/
theorem setup_cases (env : SetupEnv) (s : VpnState) (parameters : String) :
    (∃ e, builderCalls env parameters = .error e ∧ setup env s parameters = (some e,s)) ∨
    (∃ calls e, builderCalls env parameters = .ok calls ∧ setup env s parameters = (some e,closeInterface s)) ∨
    (∃ calls, builderCalls env parameters = .ok calls ∧ env.establish calls = .ok true ∧
      setup env s parameters = (none,hold (closeInterface s) calls)) := by
  cases hb : builderCalls env parameters with
  | error e => exact .inl ⟨e,rfl,by simp only [setup,hb]⟩
  | ok calls =>
    simp only [setup,hb]
    cases he : env.establish calls with
    | error e => exact .inr (.inl ⟨calls,e,rfl,rfl⟩)
    | ok b =>
      cases b with
      | false => exact .inr (.inl ⟨calls,.nullAssertion,rfl,rfl⟩)
      | true => exact .inr (.inr ⟨calls,rfl,he,rfl⟩)

/-- A parameter string with an empty token (the empty string, or a space at
either end or doubled) fails, and the service is left as it was. -/
theorem setupCallback_of_empty_token {parameters : String} (h : "" ∈ Text.split parameters ' ')
    (env : SetupEnv) (s : VpnState) : setupCallback env s parameters = (-1,s) := by
  obtain ⟨e,he⟩ := @configure_of_empty_token env.refuses _ h
  have hb : builderCalls env parameters = .error e := by
    rw [builderCalls,he]
    rfl
  simp [setupCallback,setup,hb]

theorem setupCallback_of_empty_token_trailing_space :
    "" ∈ Text.split "m,1500 a,10.0.0.2,32 " ' ' ∧
      setupCallback ⟨fun _ => none,fun _ => .ok true,28,fun _ => "",fun _ => false,fun _ => none⟩
        VpnState.init "m,1500 a,10.0.0.2,32 " = (-1,VpnState.init) :=
  ⟨by decide,setupCallback_of_empty_token (by decide) _ _⟩

/-! ### The per-app list -/

/-- The per-app loop when the platform refuses an app only because it does not
find it: the apps it finds are added in the list's order, the others are
skipped. -/
theorem addApps_of_found {refuses : BuilderCall → Option Thrown} {bypassApps : Bool} {apps : List String}
    (h : ∀ app ∈ apps, refuses (appCall bypassApps app) = none ∨
      refuses (appCall bypassApps app) = some .nameNotFound) (calls : List BuilderCall) :
    addApps refuses bypassApps calls apps =
      .ok (calls ++ (apps.filter fun app => (refuses (appCall bypassApps app)).isNone).map (appCall bypassApps)) := by
  induction apps generalizing calls with
  | nil => simp [addApps,pure,Except.pure]
  | cons app apps ih =>
    have ih' := ih fun a ha => h a (List.mem_cons_of_mem app ha)
    rcases h app (List.mem_cons_self ..) with hr | hr
    · -- the platform takes the app
      simp only [addApps,builderCall,hr,pure,Except.pure,ih',Option.isNone_none,List.filter_cons_of_pos,
        List.map_cons,List.append_assoc,List.singleton_append]
    · -- `NameNotFoundException` is caught and the app skipped
      simp only [addApps,builderCall,hr,ih',Option.isNone_some,Bool.false_eq_true,not_false_eq_true,
        List.filter_cons_of_neg]
      rfl

theorem addApps_of_found_missing_app :
    addApps (fun c => if c = .addAllowedApplication "com.missing" then some .nameNotFound else none) false []
      ["com.a","com.missing","com.b"] = .ok [.addAllowedApplication "com.a",.addAllowedApplication "com.b"] := by
  rw [addApps_of_found (by decide) []]
  decide

/-! ### The interface over a run of callbacks -/

/-- Every open interface is the one the service holds, so at most one is open. -/
def Held (s : VpnState) : Prop := List.Sublist s.openIfaces s.mInterface.toList

@[simp] theorem closeInterface_mInterface (s : VpnState) : (closeInterface s).mInterface = s.mInterface := by
  rcases s with ⟨_ | i,o,n⟩ <;> rfl

@[simp] theorem closeInterface_established (s : VpnState) : (closeInterface s).established = s.established := by
  rcases s with ⟨_ | i,o,n⟩ <;> rfl

/-- Closing the held interface leaves none open. -/
theorem closeInterface_openIfaces {s : VpnState} (h : Held s) : (closeInterface s).openIfaces = [] := by
  rcases s with ⟨_ | i,o,n⟩
  · exact List.sublist_nil.1 h
  · rcases List.sublist_singleton.1 h with rfl | rfl
    · rfl
    · simp [closeInterface]

theorem held_setup {env : SetupEnv} {s : VpnState} {parameters : String} (h : Held s) :
    Held (setup env s parameters).2 := by
  rcases setup_cases env s parameters with ⟨e,-,hs⟩ | ⟨calls,e,-,hs⟩ | ⟨calls,-,-,hs⟩ <;> rw [hs]
  · exact h
  · show List.Sublist (closeInterface s).openIfaces _
    rw [closeInterface_openIfaces h]
    exact List.nil_sublist _
  · show List.Sublist ((closeInterface s).openIfaces ++ _) _
    rw [closeInterface_openIfaces h]
    exact List.Sublist.refl _

/-- Over any run of callbacks the service leaks no interface: every interface
still open is the one `mInterface` holds. -/
theorem held_run (evs : List (SetupEnv × String)) : Held (run step VpnState.init evs) :=
  run_invariant (fun s call h => by rw [step,setupCallback_snd]; exact held_setup h) evs (List.nil_sublist _)

/-- What the callback's return value says, from any state where only the held
interface is open: `0` when the service now holds one open interface made from
exactly the builder calls of the parameters; `-1` when nothing changed, or when
the old interface was closed and no new one came, so that the service still
holds the closed one. -/
theorem setupCallback_of_held {env : SetupEnv} {s : VpnState} (hs : Held s) (parameters : String) :
    ((setupCallback env s parameters).1 = 0 ∧ ∃ calls, builderCalls env parameters = .ok calls ∧
      (setupCallback env s parameters).2.mInterface = some ⟨s.established,calls⟩ ∧
      (setupCallback env s parameters).2.openIfaces = [⟨s.established,calls⟩]) ∨
    ((setupCallback env s parameters).1 = -1 ∧ ((setupCallback env s parameters).2 = s ∨
      ((setupCallback env s parameters).2.mInterface = s.mInterface ∧
        (setupCallback env s parameters).2.openIfaces = []))) := by
  rcases setup_cases env s parameters with ⟨e,-,hs'⟩ | ⟨calls,e,-,hs'⟩ | ⟨calls,hb,-,hs'⟩ <;>
    rw [setupCallback,hs']
  · exact .inr ⟨rfl,.inl rfl⟩
  · exact .inr ⟨rfl,.inr ⟨closeInterface_mInterface s,closeInterface_openIfaces hs⟩⟩
  · refine .inl ⟨rfl,calls,hb,?_,?_⟩
    · simp [hold]
    · simp [hold,closeInterface_openIfaces hs]

/-- After any run of callbacks, the next one returns `0` exactly when the
service then holds one open interface made from the parameters' builder calls,
and `-1` when nothing changed or the service holds the interface it just
closed. -/
theorem setupCallback_after_run (evs : List (SetupEnv × String)) (env : SetupEnv) (parameters : String) :
    let s := run step VpnState.init evs
    ((setupCallback env s parameters).1 = 0 ∧ ∃ calls, builderCalls env parameters = .ok calls ∧
      (setupCallback env s parameters).2.mInterface = some ⟨s.established,calls⟩ ∧
      (setupCallback env s parameters).2.openIfaces = [⟨s.established,calls⟩]) ∨
    ((setupCallback env s parameters).1 = -1 ∧ ((setupCallback env s parameters).2 = s ∨
      ((setupCallback env s parameters).2.mInterface = s.mInterface ∧
        (setupCallback env s parameters).2.openIfaces = []))) :=
  setupCallback_of_held (held_run evs) parameters

end V2rayZt.Ang.VpnService
