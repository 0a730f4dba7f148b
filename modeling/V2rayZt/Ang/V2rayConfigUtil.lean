import V2rayZt.Lib.Json
import V2rayZt.Ang.ConfigManager

/-! `V2rayConfigUtil.getV2rayConfig` with the template bean it fills, from the
`domainName` array of the `lib2rayObj` singleton, which every call appends to
and none clears. -/
namespace V2rayZt.Ang
open V2rayZt.Machine

/-- The loop of `Utils.isIpAddress` from `start` on. `rest` is the text from
`start`; a block runs to the next `.` or to the end, and the loop stops when
`start` passes the end. -/
def isIpAddressFrom (rest : List Char) (numBlocks : Nat) : Bool :=
  match rest with
  | [] => numBlocks == 4
  | c :: cs =>
    let block := (c :: cs).takeWhile (· != '.')
    match Decimal.parseSigned? 32 (String.ofList block) with
    | none => false
    | some b =>
      if b > 255 ∨ b < 0 then false
      else isIpAddressFrom ((c :: cs).drop (block.length + 1)) (numBlocks + 1)
termination_by rest.length
decreasing_by
  simp only [List.length_drop,List.length_cons]
  omega

/-- `Utils.isIpAddress`: four dot-separated blocks that `Integer.parseInt`
reads as `0..255`. -/
def isIpAddress (value : String) : Bool := isIpAddressFrom value.toList 0

/-- What `isIpAddress` accepts is digits, dots and signs: a host name is never
taken for an IPv4 literal. -/
theorem isIpAddressFrom_chars (rest : List Char) (numBlocks : Nat) (h : isIpAddressFrom rest numBlocks = true) :
    ∀ c ∈ rest, c.isDigit = true ∨ c = '.' ∨ c = '-' ∨ c = '+' := by
  fun_induction isIpAddressFrom rest numBlocks with
  | case1 => simp
  | case2 => contradiction
  | case3 => contradiction
  | case4 n c cs block b hparse hrange ih =>
    intro c' hc'
    -- a character is in the block just read, is the dot after it, or comes later
    rcases Text.mem_takeWhile_or (· != '.') hc' with hblock | hdot | hlater
    · have hchars := Decimal.parse?_chars (Decimal.parse?_of_parseSigned? hparse) c'
        (by simpa [block] using hblock)
      rcases hchars with h' | h' | h' <;> simp [h']
    · simp_all
    · exact ih h c' hlater

theorem isIpAddress_eq_false_of_mem {value : String} {c : Char} (hc : c ∈ value.toList)
    (hchar : ¬ (c.isDigit = true ∨ c = '.' ∨ c = '-' ∨ c = '+')) : isIpAddress value = false := by
  cases h : isIpAddress value
  · rfl
  · exact absurd (isIpAddressFrom_chars _ 0 h c hc) hchar

/-- A block that `parseInt` reads as a value in `0..255`, up to the next dot
or the end, is read as one block. -/
theorem isIpAddressFrom_block_append {block rest : List Char} {a : Nat}
    (hparse : Decimal.parse? (String.ofList block) = some (a : Int)) (ha : a ≤ 255) (hne : block ≠ [])
    (hdot : ∀ c ∈ block, c ≠ '.') (hsep : rest.takeWhile (· != '.') = []) (numBlocks : Nat) :
    isIpAddressFrom (block ++ rest) numBlocks = isIpAddressFrom (rest.drop 1) (numBlocks + 1) := by
  have htake : (block ++ rest).takeWhile (· != '.') = block := by
    rw [List.takeWhile_append_of_pos (fun c hc => by simpa using hdot c hc),hsep,List.append_nil]
  have hparse32 : Decimal.parseSigned? 32 (String.ofList block) = some (a : Int) := by
    have hlo : -2^(32-1) ≤ (a : Int) := by omega
    have hhi : (a : Int) < 2^(32-1) := by omega
    exact Decimal.parseSigned?_of_parse? hparse hlo hhi
  have hrange : ¬ ((a : Int) > 255 ∨ (a : Int) < 0) := by omega
  have hdrop : (block ++ rest).drop (block.length + 1) = rest.drop 1 := by
    simp [List.drop_append]
  obtain ⟨c,cs,hcs⟩ := List.exists_cons_of_ne_nil hne
  rw [hcs,List.cons_append,isIpAddressFrom,← List.cons_append,← hcs]
  simp only [htake,hparse32,if_neg hrange,hdrop]

/-- A block of digits worth at most 255. -/
theorem isIpAddressFrom_digits_append {block rest : List Char} {a : Nat} (hdigits : Decimal.digits? block = some a)
    (ha : a ≤ 255) (hsep : rest.takeWhile (· != '.') = []) (numBlocks : Nat) :
    isIpAddressFrom (block ++ rest) numBlocks = isIpAddressFrom (rest.drop 1) (numBlocks + 1) := by
  have hdot : ∀ c ∈ block, c ≠ '.' := by
    rintro c hc rfl
    exact absurd (Decimal.isDigit_of_digits? hdigits '.' hc) (by decide)
  exact isIpAddressFrom_block_append (Decimal.parse?_ofList hdigits) ha (Decimal.ne_nil_of_digits? hdigits) hdot
    hsep numBlocks

theorem isIpAddressFrom_digits_dot {block : List Char} {a : Nat} (hdigits : Decimal.digits? block = some a)
    (ha : a ≤ 255) (rest : List Char) (numBlocks : Nat) :
    isIpAddressFrom (block ++ '.' :: rest) numBlocks = isIpAddressFrom rest (numBlocks + 1) := by
  rw [isIpAddressFrom_digits_append hdigits ha (by simp),List.drop_one,List.tail_cons]

theorem isIpAddressFrom_digits {block : List Char} {a : Nat} (hdigits : Decimal.digits? block = some a)
    (ha : a ≤ 255) (numBlocks : Nat) :
    isIpAddressFrom block numBlocks = (numBlocks + 1 == 4) := by
  have h := @isIpAddressFrom_digits_append block [] a hdigits ha rfl numBlocks
  rw [List.append_nil] at h
  rw [h,List.drop_nil,isIpAddressFrom]

theorem digits?_repr (a : Nat) : Decimal.digits? a.repr.toList = some a := by
  rw [Nat.toList_repr]
  exact Decimal.digits?_toDigits a

theorem isIpAddressFrom_repr_dot {a : Nat} (ha : a ≤ 255) (rest : List Char) (numBlocks : Nat) :
    isIpAddressFrom (a.repr.toList ++ '.' :: rest) numBlocks = isIpAddressFrom rest (numBlocks + 1) :=
  isIpAddressFrom_digits_dot (digits?_repr a) ha rest numBlocks

theorem isIpAddressFrom_repr {a : Nat} (ha : a ≤ 255) (numBlocks : Nat) :
    isIpAddressFrom a.repr.toList numBlocks = (numBlocks + 1 == 4) :=
  isIpAddressFrom_digits (digits?_repr a) ha numBlocks

theorem isIpAddress_dottedQuad {a b c d : Nat} (ha : a ≤ 255) (hb : b ≤ 255) (hc : c ≤ 255) (hd : d ≤ 255) :
    isIpAddress (a.repr ++ "." ++ b.repr ++ "." ++ c.repr ++ "." ++ d.repr) = true := by
  have htext : (a.repr ++ "." ++ b.repr ++ "." ++ c.repr ++ "." ++ d.repr).toList =
      a.repr.toList ++ '.' :: (b.repr.toList ++ '.' :: (c.repr.toList ++ '.' :: d.repr.toList)) := by
    simp [String.toList_append]
  rw [isIpAddress,htext,isIpAddressFrom_repr_dot ha,isIpAddressFrom_repr_dot hb,isIpAddressFrom_repr_dot hc,
    isIpAddressFrom_repr hd]
  rfl

/-- The language `isIpAddress` is meant to accept: four nonempty runs of
ASCII digits, each worth at most 255, joined by dots. -/
def IsDottedQuad (value : String) : Prop :=
  ∃ d1 d2 d3 d4 : List Char, (∀ d ∈ [d1, d2, d3, d4], ∃ a ≤ 255, Decimal.digits? d = some a) ∧
    value.toList = d1 ++ '.' :: (d2 ++ '.' :: (d3 ++ '.' :: d4))

/-- Every dotted quad is accepted. -/
theorem isIpAddress_of_isDottedQuad {value : String} (h : IsDottedQuad value) : isIpAddress value = true := by
  obtain ⟨d1,d2,d3,d4,hd,htext⟩ := h
  obtain ⟨a1,h1,hd1⟩ := hd d1 (by simp)
  obtain ⟨a2,h2,hd2⟩ := hd d2 (by simp)
  obtain ⟨a3,h3,hd3⟩ := hd d3 (by simp)
  obtain ⟨a4,h4,hd4⟩ := hd d4 (by simp)
  rw [isIpAddress,htext,isIpAddressFrom_digits_dot hd1 h1,isIpAddressFrom_digits_dot hd2 h2,
    isIpAddressFrom_digits_dot hd3 h3,isIpAddressFrom_digits hd4 h4]
  rfl

/-- A dotted quad starts and ends with a digit. -/
theorem IsDottedQuad.head?_getLast? {value : String} (h : IsDottedQuad value) :
    (∃ c, value.toList.head? = some c ∧ c.isDigit = true) ∧ ∃ c, value.toList.getLast? = some c ∧ c.isDigit = true := by
  obtain ⟨d1,d2,d3,d4,hd,htext⟩ := h
  obtain ⟨a1,-,hd1⟩ := hd d1 (by simp)
  obtain ⟨a4,-,hd4⟩ := hd d4 (by simp)
  obtain ⟨x,xs,rfl⟩ := List.exists_cons_of_ne_nil (Decimal.ne_nil_of_digits? hd1)
  rcases List.eq_nil_or_concat d4 with rfl | ⟨ys,y,rfl⟩
  · exact absurd rfl (Decimal.ne_nil_of_digits? hd4)
  have hsnoc : value.toList = (x :: xs ++ '.' :: (d2 ++ '.' :: (d3 ++ '.' :: ys))) ++ [y] := by simp [htext]
  refine ⟨⟨x,by simp [htext],Decimal.isDigit_of_digits? hd1 x (by simp)⟩,⟨y,?_,Decimal.isDigit_of_digits? hd4 y (by simp)⟩⟩
  rw [hsnoc,List.getLast?_append_of_ne_nil _ (List.cons_ne_nil y []),List.getLast?_singleton]

/-- A dotted quad followed by a dot is accepted, though it is no dotted quad:
the loop ends when `start` passes the end of the text, so the empty block
after the last dot is never read. -/
theorem isIpAddress_trailing_dot {a b c d : Nat} (ha : a ≤ 255) (hb : b ≤ 255) (hc : c ≤ 255) (hd : d ≤ 255) :
    isIpAddress (a.repr ++ "." ++ b.repr ++ "." ++ c.repr ++ "." ++ d.repr ++ ".") = true ∧
      ¬ IsDottedQuad (a.repr ++ "." ++ b.repr ++ "." ++ c.repr ++ "." ++ d.repr ++ ".") := by
  have htext : (a.repr ++ "." ++ b.repr ++ "." ++ c.repr ++ "." ++ d.repr ++ ".").toList =
      a.repr.toList ++ '.' :: (b.repr.toList ++ '.' :: (c.repr.toList ++ '.' :: (d.repr.toList ++ ['.']))) := by
    simp [String.toList_append]
  constructor
  · rw [isIpAddress,htext,isIpAddressFrom_repr_dot ha,isIpAddressFrom_repr_dot hb,isIpAddressFrom_repr_dot hc,
      @isIpAddressFrom_digits_append d.repr.toList ['.'] d (digits?_repr d) hd rfl,List.drop_one,List.tail_cons,
      isIpAddressFrom]
    rfl
  · -- the text ends with the dot, a dotted quad with a digit
    have hsnoc : (a.repr ++ "." ++ b.repr ++ "." ++ c.repr ++ "." ++ d.repr ++ ".").toList =
        (a.repr.toList ++ '.' :: (b.repr.toList ++ '.' :: (c.repr.toList ++ '.' :: d.repr.toList))) ++ ['.'] := by
      simp [String.toList_append]
    intro hquad
    obtain ⟨x,hx,hdig⟩ := hquad.head?_getLast?.2
    rw [hsnoc,List.getLast?_append_of_ne_nil _ (List.cons_ne_nil _ []),List.getLast?_singleton,Option.some.injEq] at hx
    subst hx
    exact absurd hdig (by decide)

theorem isIpAddress_trailing_dot_at_one_two_three_four :
    isIpAddress (Nat.repr 1 ++ "." ++ Nat.repr 2 ++ "." ++ Nat.repr 3 ++ "." ++ Nat.repr 4 ++ ".") = true ∧
      ¬ IsDottedQuad (Nat.repr 1 ++ "." ++ Nat.repr 2 ++ "." ++ Nat.repr 3 ++ "." ++ Nat.repr 4 ++ ".") :=
  isIpAddress_trailing_dot (by decide) (by decide) (by decide) (by decide)

/-- A sign before the first block is accepted too: `parseInt` reads `+1` as 1. -/
theorem isIpAddress_plus_sign {a b c d : Nat} (ha : a ≤ 255) (hb : b ≤ 255) (hc : c ≤ 255) (hd : d ≤ 255) :
    isIpAddress ("+" ++ a.repr ++ "." ++ b.repr ++ "." ++ c.repr ++ "." ++ d.repr) = true ∧
      ¬ IsDottedQuad ("+" ++ a.repr ++ "." ++ b.repr ++ "." ++ c.repr ++ "." ++ d.repr) := by
  have htext : ("+" ++ a.repr ++ "." ++ b.repr ++ "." ++ c.repr ++ "." ++ d.repr).toList =
      ('+' :: a.repr.toList) ++ '.' :: (b.repr.toList ++ '.' :: (c.repr.toList ++ '.' :: d.repr.toList)) := by
    simp [String.toList_append]
  have hparse : Decimal.parse? (String.ofList ('+' :: a.repr.toList)) = some (a : Int) := by
    simp [Decimal.parse?,Decimal.digits?_toDigits]
  have hdot : ∀ x ∈ '+' :: a.repr.toList, x ≠ '.' := by
    rintro x hx rfl
    rcases List.mem_cons.1 hx with h | h
    · exact absurd h (by decide)
    · exact absurd (Decimal.isDigit_of_mem_repr h) (by decide)
  constructor
  · rw [isIpAddress,htext,isIpAddressFrom_block_append hparse ha (List.cons_ne_nil _ _) hdot (by simp),
      List.drop_one,List.tail_cons,isIpAddressFrom_repr_dot hb,isIpAddressFrom_repr_dot hc,isIpAddressFrom_repr hd]
    rfl
  · -- the text starts with the sign, a dotted quad with a digit
    intro hquad
    obtain ⟨x,hx,hdig⟩ := hquad.head?_getLast?.1
    rw [htext,List.cons_append,List.head?_cons,Option.some.injEq] at hx
    subst hx
    exact absurd hdig (by decide)

namespace V2rayConfig

structure UsersBean where
  id : String
  alterId : Int32
  security : String
  deriving DecidableEq, Repr

structure VnextBean where
  address : String
  port : Int32
  users : Option (List UsersBean)
  deriving DecidableEq, Repr

structure OutSettingsBean where
  vnext : Option (List VnextBean)
  deriving DecidableEq, Repr

structure TcpsettingsBean.HeaderBean where
  type : String := "none"
  request : Option Json := none
  response : Option Json := none
  deriving Repr

structure TcpsettingsBean where
  connectionReuse : Bool := true
  header : TcpsettingsBean.HeaderBean := {}
  deriving Repr

structure KcpsettingsBean.HeaderBean where
  type : String := "none"
  deriving DecidableEq, Repr

structure KcpsettingsBean where
  mtu : Int32 := 1350
  tti : Int32 := 20
  uplinkCapacity : Int32 := 12
  downlinkCapacity : Int32 := 100
  congestion : Bool := false
  readBufferSize : Int32 := 1
  writeBufferSize : Int32 := 1
  header : KcpsettingsBean.HeaderBean := {}
  deriving DecidableEq, Repr

structure WssettingsBean.HeadersBean where
  Host : String := ""
  deriving DecidableEq, Repr

structure WssettingsBean where
  connectionReuse : Bool := true
  path : String := ""
  headers : WssettingsBean.HeadersBean := {}
  deriving DecidableEq, Repr

structure StreamSettingsBean where
  network : String
  security : String
  tcpSettings : Option TcpsettingsBean
  kcpsettings : Option KcpsettingsBean
  wssettings : Option WssettingsBean
  deriving Repr

structure MuxBean where
  enabled : Bool
  deriving DecidableEq, Repr

structure OutboundBean where
  settings : Option OutSettingsBean
  streamSettings : Option StreamSettingsBean
  mux : Option MuxBean
  deriving Repr

structure DnsBean where
  servers : Option (List String)
  deriving DecidableEq, Repr

structure RulesBean where
  type : String
  ip : Option (List String)
  domain : Option (List String)
  outboundTag : String
  deriving DecidableEq, Repr

structure SettingsBean where
  rules : Option (List RulesBean)
  deriving DecidableEq, Repr

structure RoutingBean where
  settings : Option SettingsBean
  deriving DecidableEq, Repr

end V2rayConfig

/-- The members of `V2rayConfig` that the fill reads or writes; `none` is a
`null` Gson left. -/
structure V2rayConfig where
  outbound : Option V2rayConfig.OutboundBean
  dns : Option V2rayConfig.DnsBean
  routing : Option V2rayConfig.RoutingBean
  deriving Repr

namespace V2rayConfigUtil

def angConfigKey : String := "ang_config"

def vpnserviceArgs : List String :=
  ["--netif-ipaddr","26.26.26.2","--netif-netmask","255.255.255.0","--socks-server-addr",
    "127.0.0.1:$V2RaySocksPort","--tunfd","3","--tunmtu","1500","--sock-path","/dev/null",
    "--loglevel","4","--enable-udprelay"]

/-- `lib2rayObj` holding the `domainName` array it has reached. -/
def lib2rayObj (domainName : List String) : Json :=
  .obj [("enabled",.bool true),
    ("listener",.obj [("onUp",.str "#none"),("onDown",.str "#none")]),
    ("env",.arr [.str "V2RaySocksPort=10808"]),
    ("render",.arr []),
    ("escort",.arr []),
    ("vpnservice",.obj [("Target",.str "$\x7bdatadir\x7dtun2socks"),
      ("Args",.arr (vpnserviceArgs.map .str)),
      ("VPNSetupArg",.str "m,1500 a,26.26.26.1,24 r,0.0.0.0,0")]),
    ("preparedDomainName",.obj [("domainName",.arr (domainName.map .str)),
      ("tcpVersion",.str "tcp4"),("udpVersion",.str "udp4")])]

/-- `replacementPairs`, in the order of its `mapOf`; the `#lib2ray` value is
the singleton itself. -/
def replacementPairs (lib2ray : Json) : List (String × Json) :=
  [("port",.num 10808),
    ("inbound",.obj [("protocol",.str "socks"),("listen",.str "127.0.0.1"),
      ("settings",.obj [("auth",.str "noauth"),("udp",.bool true)]),
      ("domainOverride",.arr [.str "http",.str "tls"])]),
    ("inboundDetour",.arr []),
    ("#lib2ray",lib2ray),
    ("log",.obj [("loglevel",.str "warning")])]

def domainNamePath : List String := ["#lib2ray","preparedDomainName","domainName"]

/-- `Result(status, content)`. The content is the JSON tree whose text the
code returns; `none` is the empty text. -/
structure Result where
  status : Bool
  content : Option Json

/-- What Gson makes of the asset `v2ray_config.json`. -/
structure V2rayTemplate where
  /-- `outbound.settings.vnext[0].users[0]` exists, so `outbound` gets to its
  last statement. -/
  vnextUser : Bool
  /-- `JSONObject(Gson().toJson(v2rayConfig))` after `outbound`, `routing` and
  `customDns` have filled the template for a config; `none` where it throws. -/
  fill : AngConfig → Option (List (String × Json))

/-- The process's fixed inputs: the template (`none` when the asset is empty or
Gson reads `null`), `getPrefString(key, "")`, the `JSONObject(String)` parser,
and the text org.json writes for an array or object. -/
structure ConfigEnv where
  template : Option V2rayTemplate
  prefString : String → String
  parseObject : String → Option (List (String × Json))
  jsonText : Json → String

variable (env : ConfigEnv)

/-- `JSONObject.getString` on a present member. -/
def getString : Json → String
  | .str s => s
  | .num n => Decimal.render n
  | .bool b => if b then "true" else "false"
  | .null => "null"
  | j => env.jsonText j

/-- The entry `outbound` appends for the active server. -/
def outboundDomain (vmess : VmessBean) : List String :=
  if !isIpAddress vmess.address then [vmess.address ++ ":" ++ Decimal.render vmess.port.toInt] else []

/-- The entries the `vnext` loop of `addLib2ray2` appends: it stops, keeping
what it appended, at the first item that is not an object or lacks `address`
or `port`. -/
def vnextDomains : List Json → List String
  | [] => []
  | .obj item :: rest =>
    match item.lookup "address", item.lookup "port" with
    | some address, some port =>
      (if !isIpAddress (getString env address) then [getString env address ++ ":" ++ getString env port]
        else []) ++ vnextDomains rest
    | _, _ => []
  | _ :: _ => []

/-- A missing `outbound`, `settings` or `vnext` throws before the loop, inside
the inner `try`. -/
def customDomains (jObj : List (String × Json)) : List String :=
  match (Json.obj jObj).get? ["outbound","settings","vnext"] with
  | some (.arr vnext) => vnextDomains env vnext
  | _ => []

/-- `getV2rayConfigType1` past its range check, which `getV2rayConfig` has made. -/
def getV2rayConfigType1 (domainName : List String) (config : AngConfig) (vmess : VmessBean) :
    Result × List String :=
  match env.template with
  | none => (⟨false,none⟩,domainName)
  | some t =>
    -- the append is the last statement of the `try` in `outbound`
    let domainName := if t.vnextUser then domainName ++ outboundDomain vmess else domainName
    match t.fill config with
    | some conf => (⟨true,some (.obj (LinkedMap.put conf "#lib2ray" (lib2rayObj domainName)))⟩,domainName)
    | none => (⟨true,none⟩,domainName)

/-- `addLib2ray2`: `none` is the `""` of its outer `catch`. -/
def addLib2ray2 (domainName : List String) (jsonConfig : String) : Option Json × List String :=
  match env.parseObject jsonConfig with
  | none => (none,domainName)
  | some jObj =>
    let domainName := domainName ++ customDomains env jObj
    (some (.obj (LinkedMap.putAll jObj (replacementPairs (lib2rayObj domainName)))),domainName)

def getV2rayConfigType2 (domainName : List String) (vmess : VmessBean) : Result × List String :=
  let r := addLib2ray2 env domainName (env.prefString (angConfigKey ++ vmess.guid))
  (⟨true,r.1⟩,r.2)

/-- `getV2rayConfig(app, config)`, from the `domainName` array of `lib2rayObj`
as earlier calls left it; it returns the array it leaves. -/
def getV2rayConfig (domainName : List String) (config : AngConfig) : Result × List String :=
  if config.index < 0 ∨ config.vmess.length ≤ 0 ∨ config.index > (config.vmess.length : Int) - 1 then
    (⟨false,none⟩,domainName)
  else
    match config.vmess[config.index.toNat]? with
    | some vmess =>
      if vmess.configType = 1 then getV2rayConfigType1 env domainName config vmess
      else if vmess.configType = 2 then getV2rayConfigType2 env domainName vmess
      else (⟨false,none⟩,domainName)
    | none => (⟨false,none⟩,domainName)

def callStep (domainName : List String) (config : AngConfig) : List String :=
  (getV2rayConfig env domainName config).2

/-! ### The template bean and its fill -/

section Fill
open V2rayConfig
def requestFields : List (String × Json) :=
  [("version",.str "1.1"),("method",.str "GET"),("path",.arr [.str "/"]),
    ("headers",.obj [("User-Agent",.arr [
        .str "Mozilla/5.0 (Windows NT 10.0; WOW64) AppleWebKit/537.36 (KHTML, like Gecko) Chrome/55.0.2883.75 Safari/537.36",
        .str "Mozilla/5.0 (iPhone; CPU iPhone OS 10_0_2 like Mac OS X) AppleWebKit/601.1 (KHTML, like Gecko) CriOS/53.0.2785.109 Mobile/14A456 Safari/601.1.46"]),
      ("Accept-Encoding",.arr [.str "gzip, deflate"]),("Connection",.arr [.str "keep-alive"]),
      ("Pragma",.str "no-cache")])]

/-- `requestObj`. -/
def requestObj : Json := .obj requestFields

/-- `responseObj`. -/
def responseObj : Json :=
  .obj [("version",.str "1.1"),("status",.str "200"),("reason",.str "OK"),
    ("headers",.obj [("Content-Type",.arr [.str "application/octet-stream",.str "video/mpeg"]),
      ("Transfer-Encoding",.arr [.str "chunked"]),("Connection",.arr [.str "keep-alive"]),
      ("Pragma",.str "no-cache")])]

/-- `boundStreamSettings(config)` for the active server. -/
def boundStreamSettings (vmess : VmessBean) : StreamSettingsBean :=
  let streamSettings : StreamSettingsBean := ⟨vmess.network,vmess.streamSecurity,none,none,none⟩
  match vmess.network with
  | "kcp" =>
    let kcpsettings : KcpsettingsBean :=
      { mtu := 1350, tti := 50, uplinkCapacity := 12, downlinkCapacity := 100, congestion := false,
        readBufferSize := 1, writeBufferSize := 1, header := { type := vmess.headerType } }
    { streamSettings with kcpsettings := some kcpsettings }
  | "ws" =>
    let lstParameter := Text.split vmess.requestHost ';'
    let wssettings : WssettingsBean := { connectionReuse := true }
    let wssettings := match lstParameter with
      | path :: _ => { wssettings with path := path }
      | [] => wssettings
    let wssettings := match lstParameter with
      | _ :: host :: _ => { wssettings with headers := { Host := host } }
      | _ => wssettings
    { streamSettings with wssettings := some wssettings }
  | _ =>
    if vmess.headerType = "http" then
      -- without a `headers` object `optJSONObject("headers")` is `null` and the
      -- `catch` returns the settings built so far
      match requestFields.lookup "headers" with
      | some (.obj headers) =>
        let arrHost : Json := .arr ((Text.split vmess.requestHost ',').map .str)
        let request := LinkedMap.put requestFields "headers" (.obj (LinkedMap.put headers "Host" arrHost))
        let tcpSettings : TcpsettingsBean :=
          { connectionReuse := true,
            header := { type := vmess.headerType, request := some (.obj request), response := some responseObj } }
        { streamSettings with tcpSettings := some tcpSettings }
      | _ => streamSettings
    else streamSettings

/-- `v2rayConfig.outbound`, changed by `f`; `none` where it is `null`. -/
def updateOutbound (f : OutboundBean → Option OutboundBean) (c : V2rayConfig) : Option V2rayConfig := do
  let outbound ← c.outbound
  pure { c with outbound := some (← f outbound) }

/-- `outbound.settings.vnext[0]`, changed by `f`; `none` where a link is
`null` or `vnext` is empty. -/
def updateVnext0 (f : VnextBean → Option VnextBean) : V2rayConfig → Option V2rayConfig :=
  updateOutbound fun outbound => do
    let settings ← outbound.settings
    match ← settings.vnext with
    | [] => none
    | v :: vs => pure { outbound with settings := some { settings with vnext := some ((← f v) :: vs) } }

/-- `vnext[0].users[0]`, changed by `f`. -/
def updateUsers0 (f : UsersBean → UsersBean) (v : VnextBean) : Option VnextBean := do
  match ← v.users with
  | [] => none
  | u :: us => pure { v with users := some (f u :: us) }

/-- The assignments of `outbound`, in order. The append to `domainName` after
them is the abstract model's. -/
def outboundStatements (config : AngConfig) (vmess : VmessBean) : List (V2rayConfig → Option V2rayConfig) :=
  [updateVnext0 fun v => some { v with address := vmess.address },
    updateVnext0 fun v => some { v with port := vmess.port },
    updateVnext0 (updateUsers0 fun u => { u with id := vmess.id }),
    updateVnext0 (updateUsers0 fun u => { u with alterId := vmess.alterId }),
    updateVnext0 (updateUsers0 fun u => { u with security := vmess.security }),
    updateOutbound fun outbound => do
      let mux ← outbound.mux
      pure { outbound with mux := some { mux with enabled := config.muxEnabled } },
    updateOutbound fun outbound => some { outbound with streamSettings := some (boundStreamSettings vmess) }]

def rulesItem1 : RulesBean := { type := "field", ip := none, domain := some ["geosite:cn"], outboundTag := "direct" }

def rulesItem2 : RulesBean := { type := "field", ip := some ["geoip:cn"], domain := none, outboundTag := "direct" }

/-- `v2rayConfig.routing.settings.rules.add(r)`. -/
def addRule (r : RulesBean) (c : V2rayConfig) : Option V2rayConfig := do
  let routing ← c.routing
  let settings ← routing.settings
  let rules ← settings.rules
  pure { c with routing := some { routing with settings := some { settings with rules := some (rules ++ [r]) } } }

/-- The statements of `routing`. -/
def routingStatements (config : AngConfig) : List (V2rayConfig → Option V2rayConfig) :=
  if config.bypassMainland then [addRule rulesItem1,addRule rulesItem2] else []

def prefRemoteDns : String := "pref_remote_dns"

/-- `getRemoteDnsServers(app)`, from `getPrefString(PREF_REMOTE_DNS, "")`. -/
def getRemoteDnsServers (remoteDns : String) : List String :=
  let ret := if remoteDns.isEmpty then [] else (Text.split remoteDns ',').filter isIpAddress
  let ret := if ret.contains "8.8.8.8" then ret else ret ++ ["8.8.8.8"]
  let ret := if ret.contains "8.8.4.4" then ret else ret ++ ["8.8.4.4"]
  if ret.contains "localhost" then ret else ret ++ ["localhost"]

/-- `v2rayConfig.dns.servers = servers`, the statement of `customDns`. -/
def setDnsServers (servers : List String) (c : V2rayConfig) : Option V2rayConfig := do
  let dns ← c.dns
  pure { c with dns := some { dns with servers := some servers } }

/-- `outbound`, `routing` and `customDns` on the template bean, their results
dropped as `getV2rayConfigType1` drops them; and whether `outbound` reached
its last statement. -/
def fillTemplate (remoteDns : String) (config : AngConfig) (vmess : VmessBean) (v2rayConfig : V2rayConfig) :
    V2rayConfig × Bool :=
  let outbound := tryRun (outboundStatements config vmess) v2rayConfig
  let c := (tryRun (routingStatements config) outbound.1).1
  ((tryRun [setDnsServers (getRemoteDnsServers remoteDns)] c).1,outbound.2)

/-- The links `outbound` follows: a first `vnext` entry with a first user, and
a `mux`. -/
def outboundComplete (c : V2rayConfig) : Bool :=
  match c.outbound with
  | some o =>
    match o.settings,o.mux with
    | some st,some _ =>
      match st.vnext with
      | some (v :: _) =>
        match v.users with
        | some (_ :: _) => true
        | _ => false
      | _ => false
    | _,_ => false
  | none => false

/-- The abstract model's template, from the bean Gson read and Gson's writer
`toJson`, which also writes the members the fill leaves alone: the append of
`outbound` is reached when the links are there, and the fill is the filled
bean written out. -/
def templateOfBean (toJson : V2rayConfig → List (String × Json)) (remoteDns : String) (v2rayConfig : V2rayConfig) :
    V2rayTemplate where
  vnextUser := outboundComplete v2rayConfig
  fill config := config.active.map fun vmess => toJson (fillTemplate remoteDns config vmess v2rayConfig).1


/-! ### The asset -/

/-- The bean Gson reads from `assets/v2ray_config.json`. The asset's
`streamSettings` has no `security`, which Gson leaves `null` and the model's
text holds as `""`; `outbound` replaces the whole object. -/
def assetBean : V2rayConfig where
  outbound := some
    { settings := some { vnext := some [{ address := "v2ray.cool", port := 10086,
                                          users := some [{ id := "a3482e88-686a-4a58-8126-99c9df64b7bf",
                                                           alterId := 64, security := "aes-128-cfb" }] }] }
      streamSettings := some { network := "tcp", security := "", tcpSettings := none, kcpsettings := none,
                               wssettings := none }
      mux := some { enabled := false } }
  dns := some { servers := some ["8.8.8.8","8.8.4.4","localhost"] }
  routing := some
    { settings := some
        { rules := some
            [{ type := "field"
               ip := some ["0.0.0.0/8","10.0.0.0/8","100.64.0.0/10","127.0.0.0/8","169.254.0.0/16",
                 "172.16.0.0/12","192.0.0.0/24","192.0.2.0/24","192.168.0.0/16","198.18.0.0/15","198.51.100.0/24",
                 "203.0.113.0/24","::1/128","fc00::/7","fe80::/10"]
               domain := some []
               outboundTag := "direct" }] } }

/-- A member Gson writes only when the field is not `null`. -/
def optMember (name : String) {α : Type} (f : α → Json) : Option α → List (String × Json)
  | some a => [(name,f a)]
  | none => []

def strArr (l : List String) : Json := .arr (l.map .str)

def streamSettingsJson (s : StreamSettingsBean) : Json :=
  .obj ([("network",.str s.network),("security",.str s.security)] ++
    optMember "tcpSettings" (fun t => .obj [("connectionReuse",.bool t.connectionReuse),
      ("header",.obj ([("type",.str t.header.type)] ++ optMember "request" id t.header.request ++
        optMember "response" id t.header.response))]) s.tcpSettings ++
    optMember "kcpsettings" (fun k => .obj [("mtu",.num k.mtu.toInt),("tti",.num k.tti.toInt),
      ("uplinkCapacity",.num k.uplinkCapacity.toInt),("downlinkCapacity",.num k.downlinkCapacity.toInt),
      ("congestion",.bool k.congestion),("readBufferSize",.num k.readBufferSize.toInt),
      ("writeBufferSize",.num k.writeBufferSize.toInt),("header",.obj [("type",.str k.header.type)])]) s.kcpsettings ++
    optMember "wssettings" (fun w => .obj [("connectionReuse",.bool w.connectionReuse),("path",.str w.path),
      ("headers",.obj [("Host",.str w.headers.Host)])]) s.wssettings)

def outboundJson (o : OutboundBean) : Json :=
  .obj ([("tag",.str "agentout"),("protocol",.str "vmess")] ++
    optMember "settings" (fun st => .obj (optMember "vnext" (fun vs => .arr (vs.map fun v =>
      .obj ([("address",.str v.address),("port",.num v.port.toInt)] ++
        optMember "users" (fun us => .arr (us.map fun u =>
          .obj [("id",.str u.id),("alterId",.num u.alterId.toInt),("security",.str u.security)])) v.users)))
      st.vnext)) o.settings ++
    optMember "streamSettings" streamSettingsJson o.streamSettings ++
    optMember "mux" (fun m => .obj [("enabled",.bool m.enabled)]) o.mux)

def routingJson (r : RoutingBean) : Json :=
  .obj ([("strategy",.str "rules")] ++
    optMember "settings" (fun st => .obj ([("domainStrategy",.str "IPIfNonMatch")] ++
      optMember "rules" (fun rules => .arr (rules.map fun rule =>
        .obj ([("type",.str rule.type)] ++ optMember "ip" strArr rule.ip ++ optMember "domain" strArr rule.domain ++
          [("outboundTag",.str rule.outboundTag)]))) st.rules)) r.settings)

/-- `Gson().toJson(v2rayConfig)` of a bean read from the asset, its fields in
declaration order and without the `null` ones. The members the model leaves
out (`port`, `log`, `inbound`, `outboundDetour`, the outbound's `tag` and
`protocol`, the routing's `strategy` and `domainStrategy`) are `val`s the fill
never writes, so they are the asset's. -/
def gsonToJson (c : V2rayConfig) : List (String × Json) :=
  [("port",.num 10808),("log",.obj [("loglevel",.str "warning")]),
    ("inbound",.obj [("listen",.str "127.0.0.1"),("protocol",.str "socks"),
      ("settings",.obj [("auth",.str "noauth"),("udp",.bool true)]),("domainOverride",strArr ["http","tls"])])] ++
  optMember "outbound" outboundJson c.outbound ++
  [("outboundDetour",.arr [.obj [("protocol",.str "freedom"),("settings",.obj []),("tag",.str "direct")]])] ++
  optMember "dns" (fun d => .obj (optMember "servers" strArr d.servers)) c.dns ++
  optMember "routing" routingJson c.routing

end Fill

/-- The process on a fresh install: the asset as Gson reads and writes it, and
no preference set. The type-1 path reads neither org.json's parser nor its
writer. -/
def assetEnv : ConfigEnv := ⟨some (templateOfBean gsonToJson "" assetBean),fun _ => "",fun _ => none,fun _ => ""⟩

/-! ### The entries of one call -/

/-- A server whose address has a character other than a digit, a dot or a
sign, as every host name has, is listed by `outbound`. -/
theorem outboundDomain_of_mem {vmess : VmessBean} {c : Char} (hc : c ∈ vmess.address.toList)
    (hchar : ¬ (c.isDigit = true ∨ c = '.' ∨ c = '-' ∨ c = '+')) :
    outboundDomain vmess = [vmess.address ++ ":" ++ Decimal.render vmess.port.toInt] := by
  simp [outboundDomain,isIpAddress_eq_false_of_mem hc hchar]

theorem outboundDomain_dottedQuad {vmess : VmessBean} {a b c d : Nat} (ha : a ≤ 255) (hb : b ≤ 255)
    (hc : c ≤ 255) (hd : d ≤ 255) (hv : vmess.address = a.repr ++ "." ++ b.repr ++ "." ++ c.repr ++ "." ++ d.repr) :
    outboundDomain vmess = [] := by
  simp [outboundDomain,hv,isIpAddress_dottedQuad ha hb hc hd]

/-! ### Where a call reads the array -/

theorem get?_lib2rayObj (domainName : List String) :
    (lib2rayObj domainName).get? ["preparedDomainName","domainName"] = some (.arr (domainName.map .str)) := by
  simp [lib2rayObj,Json.get?,Json.field?,List.lookup_cons]

theorem domainName_put_lib2rayObj (conf : List (String × Json)) (domainName : List String) :
    (Json.obj (LinkedMap.put conf "#lib2ray" (lib2rayObj domainName))).get? domainNamePath =
      some (.arr (domainName.map .str)) := by
  simp [domainNamePath,LinkedMap.lookup_put,get?_lib2rayObj]

/-- `putOpt(replacementPairs)` writes `#lib2ray` once, and no later pair
overwrites it. -/
theorem domainName_putAll_replacementPairs (jObj : List (String × Json)) (domainName : List String) :
    (Json.obj (LinkedMap.putAll jObj (replacementPairs (lib2rayObj domainName)))).get? domainNamePath =
      some (.arr (domainName.map .str)) := by
  have hlast : (replacementPairs (lib2rayObj domainName)).reverse.lookup "#lib2ray" =
      some (lib2rayObj domainName) := by
    simp [replacementPairs,List.lookup_cons]
  simp [domainNamePath,LinkedMap.lookup_putAll,hlast,get?_lib2rayObj]

/-- A call that appends its own entries `own` to the array it finds and, when it
writes a config, writes the whole array into it through `frame`. -/
def Framed (call : List String → Result × List String) : Prop :=
  ∃ (status : Bool) (own : List String) (frame : Option (List String → Json)),
    (∀ f ∈ frame, ∀ L, (f L).get? domainNamePath = some (.arr (L.map .str))) ∧
      ∀ L, call L = (⟨status,frame.map fun f => f (L ++ own)⟩,L ++ own)

theorem framed_const (status : Bool) : Framed fun L => (⟨status,none⟩,L) :=
  ⟨status,[],none,by simp,by simp⟩

theorem framed_getV2rayConfigType1 (config : AngConfig) (vmess : VmessBean) :
    Framed fun L => getV2rayConfigType1 env L config vmess := by
  rcases ht : env.template with _ | t
  · simpa [getV2rayConfigType1,ht] using framed_const false
  -- whether `outbound` appends does not depend on the array
  have hown : ∀ L : List String, (if t.vnextUser then L ++ outboundDomain vmess else L) =
      L ++ if t.vnextUser then outboundDomain vmess else [] := by
    intro L
    split <;> simp
  rcases hf : t.fill config with _ | conf
  · exact ⟨true,if t.vnextUser then outboundDomain vmess else [],none,by simp,
      fun L => by simp [getV2rayConfigType1,ht,hf,hown]⟩
  · exact ⟨true,if t.vnextUser then outboundDomain vmess else [],
      some fun L => .obj (LinkedMap.put conf "#lib2ray" (lib2rayObj L)),
      by simp [domainName_put_lib2rayObj],fun L => by simp [getV2rayConfigType1,ht,hf,hown]⟩

theorem framed_getV2rayConfigType2 (vmess : VmessBean) :
    Framed fun L => getV2rayConfigType2 env L vmess := by
  rcases hp : env.parseObject (env.prefString (angConfigKey ++ vmess.guid)) with _ | jObj
  · exact ⟨true,[],none,by simp,fun L => by simp [getV2rayConfigType2,addLib2ray2,hp]⟩
  · exact ⟨true,customDomains env jObj,
      some fun L => .obj (LinkedMap.putAll jObj (replacementPairs (lib2rayObj L))),
      by simp [domainName_putAll_replacementPairs],fun L => by simp [getV2rayConfigType2,addLib2ray2,hp]⟩

theorem getV2rayConfig_of_active {config : AngConfig} {vmess : VmessBean} (hv : config.active = some vmess)
    (domainName : List String) :
    getV2rayConfig env domainName config =
      if vmess.configType = 1 then getV2rayConfigType1 env domainName config vmess
      else if vmess.configType = 2 then getV2rayConfigType2 env domainName vmess
      else (⟨false,none⟩,domainName) := by
  unfold AngConfig.active at hv
  split_ifs at hv with h0
  have hi : config.index.toNat < config.vmess.length := (List.getElem?_eq_some_iff.1 hv).1
  have hrange : ¬ (config.index < 0 ∨ config.vmess.length ≤ 0 ∨
      config.index > (config.vmess.length : Int) - 1) := by omega
  simp only [getV2rayConfig,if_neg hrange,hv]

theorem framed_getV2rayConfig (config : AngConfig) : Framed fun L => getV2rayConfig env L config := by
  rcases hv : config.active with _ | vmess
  · -- no active server: the range check fails before anything is read
    have hrange : config.index < 0 ∨ config.vmess.length ≤ 0 ∨
        config.index > (config.vmess.length : Int) - 1 := by
      unfold AngConfig.active at hv
      split_ifs at hv with h0
      · have := List.getElem?_eq_none_iff.1 hv
        omega
      · omega
    simp only [getV2rayConfig,if_pos hrange]
    exact framed_const false
  · simp only [getV2rayConfig_of_active env hv]
    split_ifs
    · exact framed_getV2rayConfigType1 env config vmess
    · exact framed_getV2rayConfigType2 env vmess
    · exact framed_const false

/-! ### Calls after calls -/

namespace Framed
variable {call : List String → Result × List String}

theorem snd (h : Framed call) (L : List String) : (call L).2 = L ++ (call []).2 := by
  obtain ⟨status,own,frame,-,hcall⟩ := h
  simp [hcall]

/-- A call repeats its first result exactly when the array it finds is empty or
it writes no config. -/
theorem fst_eq_iff (h : Framed call) (L : List String) :
    (call L).1 = (call []).1 ↔ L = [] ∨ (call []).1.content = none := by
  obtain ⟨status,own,frame,hframe,hcall⟩ := h
  rw [hcall L,hcall []]
  cases frame with
  | none => simp
  | some f =>
    simp only [Option.map_some,List.nil_append,Result.mk.injEq,true_and,Option.some.injEq,reduceCtorEq,
      or_false]
    constructor
    · -- the two outputs carry arrays of different lengths
      intro heq
      have hget := congrArg (fun j => j.get? domainNamePath) heq
      simp only [hframe f rfl,Option.some.injEq,Json.arr.injEq] at hget
      have hlen := congrArg List.length hget
      simp only [List.length_map,List.length_append] at hlen
      exact List.eq_nil_of_length_eq_zero (by omega)
    · rintro rfl
      rfl

end Framed

/-- Over any history of calls the array is the entries of the history's calls,
each call's own in order. -/
theorem run_callStep (history : List AngConfig) (domainName : List String) :
    run (callStep env) domainName history = domainName ++ history.flatMap (callStep env []) := by
  induction history generalizing domainName with
  | nil => simp
  | cons c cs ih =>
    rw [run_cons,ih,callStep,(framed_getV2rayConfig env c).snd domainName]
    simp [callStep]

/-- After a history of calls, a call returns what it returns as the first call
of the process exactly when the history appended nothing or the call writes no
config. -/
theorem getV2rayConfig_after_history (history : List AngConfig) (config : AngConfig) :
    (getV2rayConfig env (run (callStep env) [] history) config).1 = (getV2rayConfig env [] config).1 ↔
      history.flatMap (callStep env []) = [] ∨ (getV2rayConfig env [] config).1.content = none := by
  rw [run_callStep,List.nil_append]
  exact (framed_getV2rayConfig env config).fst_eq_iff _

/-- Generating the config of the same type-1 server twice in one process: the
first call lists its `address:port` once, the second lists it twice, and so
the second result differs from the first. -/
theorem second_call_repeats_domainName {config : AngConfig} {vmess : VmessBean}
    (hv : config.active = some vmess) (htype : vmess.configType = 1)
    {t : V2rayTemplate} (ht : env.template = some t) (huser : t.vnextUser = true)
    (hip : isIpAddress vmess.address = false) {conf : List (String × Json)} (hconf : t.fill config = some conf) :
    (getV2rayConfig env (getV2rayConfig env [] config).2 config).1 ≠ (getV2rayConfig env [] config).1 ∧
      (getV2rayConfig env [] config).1.content.bind (fun j => j.get? domainNamePath) =
        some (.arr [.str (vmess.address ++ ":" ++ Decimal.render vmess.port.toInt)]) ∧
      (getV2rayConfig env (getV2rayConfig env [] config).2 config).1.content.bind
          (fun j => j.get? domainNamePath) =
        some (.arr [.str (vmess.address ++ ":" ++ Decimal.render vmess.port.toInt),
          .str (vmess.address ++ ":" ++ Decimal.render vmess.port.toInt)]) := by
  have hout : outboundDomain vmess = [vmess.address ++ ":" ++ Decimal.render vmess.port.toInt] := by
    simp [outboundDomain,hip]
  have hcall : ∀ L, getV2rayConfig env L config =
      (⟨true,some (.obj (LinkedMap.put conf "#lib2ray" (lib2rayObj (L ++ outboundDomain vmess))))⟩,
        L ++ outboundDomain vmess) := by
    intro L
    simp [getV2rayConfig_of_active env hv,htype,getV2rayConfigType1,ht,huser,hconf]
  refine ⟨?_,?_,?_⟩
  · -- the first call leaves a nonempty array and writes a config
    rw [Ne,(framed_getV2rayConfig env config).fst_eq_iff,hcall []]
    simp [hout]
  · simp [hcall,domainName_put_lib2rayObj,hout]
  · simp [hcall,domainName_put_lib2rayObj,hout]

/-- On the asset, the default server's `v2ray.cool:10086` is listed once by
the first call and twice by the second. -/
theorem second_call_repeats_domainName_default_server :
    (getV2rayConfig assetEnv (getV2rayConfig assetEnv [] { index := 0, vmess := [{}] }).2
          { index := 0, vmess := [{}] }).1 ≠
        (getV2rayConfig assetEnv [] { index := 0, vmess := [{}] }).1 ∧
      (getV2rayConfig assetEnv [] { index := 0, vmess := [{}] }).1.content.bind (fun j => j.get? domainNamePath) =
        some (.arr [.str (({} : VmessBean).address ++ ":" ++ Decimal.render ({} : VmessBean).port.toInt)]) ∧
      (getV2rayConfig assetEnv (getV2rayConfig assetEnv [] { index := 0, vmess := [{}] }).2
          { index := 0, vmess := [{}] }).1.content.bind (fun j => j.get? domainNamePath) =
        some (.arr [.str (({} : VmessBean).address ++ ":" ++ Decimal.render ({} : VmessBean).port.toInt),
          .str (({} : VmessBean).address ++ ":" ++ Decimal.render ({} : VmessBean).port.toInt)]) :=
  @second_call_repeats_domainName assetEnv { index := 0, vmess := [{}] } {} rfl rfl _ rfl rfl
    (isIpAddress_eq_false_of_mem (c := 'v') (by decide) (by decide)) _ rfl

end V2rayConfigUtil

end V2rayZt.Ang

