import V2rayZt.Lib.Machine
import V2rayZt.Lib.Decimal
import V2rayZt.Lib.Text
import V2rayZt.Lib.TextCodec
import V2rayZt.Ang.Base64

/-! The server list of the Android app: the DTOs with their Kotlin defaults, and
`AngConfigManager`'s operations on its one `AngConfig`, with Base64, UTF-8 and Gson as the
library functions `Codecs`. -/
namespace V2rayZt.Ang
open V2rayZt.Machine

structure VmessBean where
  guid : String := "123456"
  address : String := "v2ray.cool"
  port : Int32 := 10086
  id : String := "a3482e88-686a-4a58-8126-99c9df64b7bf"
  alterId : Int32 := 64
  security : String := "aes-128-cfb"
  network : String := "tcp"
  remarks : String := "def"
  headerType : String := ""
  requestHost : String := ""
  streamSecurity : String := ""
  configType : Int32 := 1
  deriving DecidableEq

structure AngConfig where
  index : Int
  bypassMainland : Bool := false
  muxEnabled : Bool := false
  vmess : List VmessBean
  deriving DecidableEq

structure VmessQRCode where
  ps : String := ""
  add : String := ""
  port : String := ""
  id : String := ""
  aid : String := ""
  net : String := ""
  type : String := ""
  host : String := ""
  tls : String := ""
  deriving DecidableEq

def vmessProtocol : String := "vmess://"

/-- The string resources the import functions return. -/
inductive ToastRes where
  | toastNoneData
  | toastIncorrectProtocol
  | toastDecodingFailed
  deriving DecidableEq

/-- What the manager's functions return: `0`, `-1`, or a toast resource. -/
inductive Ret where
  | ok
  | fail
  | toast (res : ToastRes)
  deriving DecidableEq

/-- The library functions the manager calls: `Utils.decode` and `Utils.encode`
(Base64 of the UTF-8 bytes, `""` on an exception) and Gson on a `VmessQRCode`
(`none` for a `JsonSyntaxException` or a `null` result). -/
structure Codecs where
  decode : String → String
  encode : String → String
  qrFromJson : String → Option VmessQRCode
  qrToJson : VmessQRCode → String

/-- `Utils.parseInt`: `Integer.parseInt`, or `0` on a `NumberFormatException`. -/
def parseInt (str : String) : Int32 :=
  match Decimal.parseSigned? 32 str with
  | some n => Int32.ofInt n
  | none => 0

namespace Utils

/-- `Utils.encode(text)`: `Base64.encodeToString` of the UTF-8 bytes with the
flag `DEFAULT`, lines of 76 characters. `android.util.Base64` is no part of
the repository; the app's own `Base64` class computes it here, which ends the
last line with a newline only when it is full. -/
def encode (text : String) : String :=
  let bytes := Utf8.encode text.toList
  String.ofList <| match Base64.encodeLines bytes 0 bytes.length Base64.alphabet 76 with
    | .ok (outBuff,_) => outBuff.map fun b => Char.ofNat b.toNat
    | .error _ => []

/-- `Utils.decode(text)`: `Base64.decode` with `NO_WRAP` and the bytes read as
UTF-8, `""` on an exception. The app's `Base64` decoder skips the line breaks
as Android's does, and throws where Android's skips another character. -/
def decode (text : String) : String :=
  String.ofList <| match Base64.decode (Utf8.encode text.toList) with
    | .ok bytes => Utf8.decode bytes
    | .error _ => []

end Utils

/-- The members Gson writes for a `VmessQRCode`, in the order of its fields. -/
def VmessQRCode.members (q : VmessQRCode) : List (String × String) :=
  [("ps",q.ps),("add",q.add),("port",q.port),("id",q.id),("aid",q.aid),("net",q.net),("type",q.type),
    ("host",q.host),("tls",q.tls)]

/-- Gson's reflective reader on one member: the field of that name is set, and
a member of another name is skipped. -/
def VmessQRCode.setMember (q : VmessQRCode) (kv : String × String) : VmessQRCode :=
  if kv.1 = "ps" then { q with ps := kv.2 }
  else if kv.1 = "add" then { q with add := kv.2 }
  else if kv.1 = "port" then { q with port := kv.2 }
  else if kv.1 = "id" then { q with id := kv.2 }
  else if kv.1 = "aid" then { q with aid := kv.2 }
  else if kv.1 = "net" then { q with net := kv.2 }
  else if kv.1 = "type" then { q with type := kv.2 }
  else if kv.1 = "host" then { q with host := kv.2 }
  else if kv.1 = "tls" then { q with tls := kv.2 }
  else q

theorem VmessQRCode.foldl_setMember_members (q : VmessQRCode) : q.members.foldl setMember {} = q := by
  simp [members,setMember]

/-- The codecs as the app's libraries compute them. Gson's lenient syntax
(comments, unquoted or single-quoted texts) and member values other than
strings, which it also reads, are left out: such a text reads as `none`. -/
def Codecs.app : Codecs where
  decode := Utils.decode
  encode := Utils.encode
  qrFromJson s := (JsonText.parseObject s).map fun ms => ms.foldl VmessQRCode.setMember {}
  qrToJson q := JsonText.renderObject q.members

theorem Codecs.app_qrFromJson_qrToJson (q : VmessQRCode) : Codecs.app.qrFromJson (Codecs.app.qrToJson q) = some q := by
  simp [Codecs.app,JsonText.parseObject_renderObject,VmessQRCode.foldl_setMember_members]

/-- The state: the manager's `angConfig`, the config Gson decodes from the
`ANG_CONFIG` preference (`none` while it is empty), and the preferences
`ANG_CONFIG + guid` of the custom configs, by guid. -/
structure Manager where
  angConfig : AngConfig
  stored : Option AngConfig
  customConfigs : String → Option String

namespace Manager

/-- `loadConfig` with an empty `ANG_CONFIG`: `AngConfig(0, vmess = [VmessBean()])`
and then `removeAt(0)`. -/
def loadConfig : AngConfig :=
  let c : AngConfig := { index := 0, vmess := [{}] }
  { c with vmess := c.vmess.eraseIdx 0 }

def init : Manager := ⟨loadConfig,none,fun _ => none⟩

def storeConfigFile (m : Manager) : Manager := { m with stored := some m.angConfig }

/-- The list after `vmess.add(v)`, and the index after `if (vmess.count() == 1) index = 0`. -/
def appendServer (c : AngConfig) (v : VmessBean) : AngConfig :=
  { c with vmess := c.vmess ++ [v], index := if (c.vmess ++ [v]).length = 1 then 0 else c.index }

/-- `addServer(vmess, index)`: an edit of slot `index` when `index >= 0` (out of
range it throws, and the catch returns `-1`), otherwise an addition under the
guid `System.currentTimeMillis().toString()`. -/
def addServer (m : Manager) (vmess : VmessBean) (index : Int) (now : Nat) : Ret × Manager :=
  if 0 ≤ index then
    if index.toNat < m.angConfig.vmess.length then
      (.ok,storeConfigFile { m with angConfig.vmess := m.angConfig.vmess.set index.toNat vmess })
    else (.fail,m)
  else
    let vmess := { vmess with guid := Decimal.render now }
    (.ok,storeConfigFile { m with angConfig := appendServer m.angConfig vmess })

/-- The active index after `removeAt(index)`. -/
def indexAfterRemove (active index : Int) (count : Nat) : Int :=
  if active = index then (if 0 < count then 0 else -1)
  else if index < active then active - 1
  else active

def removeServer (m : Manager) (index : Int) : Ret × Manager :=
  if index < 0 ∨ index > m.angConfig.vmess.length - 1 then (.fail,m)
  else
    let vmess := m.angConfig.vmess.eraseIdx index.toNat
    (.ok,storeConfigFile { m with angConfig.vmess := vmess,
                                  angConfig.index := indexAfterRemove m.angConfig.index index vmess.length })

def setActiveServer (m : Manager) (index : Int) : Ret × Manager :=
  if index < 0 ∨ index > m.angConfig.vmess.length - 1 then (.fail,m)
  else (.ok,storeConfigFile { m with angConfig.index := index })

/-- The server an import builds from a decoded `VmessQRCode`. -/
def qrCodeServer (q : VmessQRCode) : VmessBean :=
  let vmess : VmessBean := {}
  let vmess := { vmess with security := "chacha20-poly1305", network := "tcp", headerType := "none" }
  { vmess with remarks := q.ps, address := q.add, port := parseInt q.port, id := q.id,
               alterId := parseInt q.aid, network := q.net, headerType := q.type,
               requestHost := q.host, streamSecurity := q.tls }

/-- `importConfig(server)`. A successful import returns `0` whatever
`addServer` returns. -/
def importConfig (cd : Codecs) (m : Manager) (server : Option String) (now : Nat) : Ret × Manager :=
  match server with
  | none => (.toast .toastNoneData,m)
  | some server =>
    if server = "" then (.toast .toastNoneData,m)
    else if ¬ vmessProtocol.toList <:+: server.toList then (.toast .toastIncorrectProtocol,m)
    else
      let result := String.ofList (Text.replaceAll vmessProtocol.toList [] server.toList)
      let result := cd.decode result
      if result = "" then (.toast .toastDecodingFailed,m)
      else
        match cd.qrFromJson result with
        | none => (.fail,m)
        | some q =>
          if q.add = "" ∨ q.port = "" ∨ q.id = "" ∨ q.aid = "" ∨ q.net = "" then
            (.toast .toastIncorrectProtocol,m)
          else (.ok,(m.addServer (qrCodeServer q) (-1) now).2)

/-- The server `importCustomizeConfig` adds for a custom config under `guid`. -/
def customServer (guid : String) : VmessBean :=
  let vmess : VmessBean := {}
  let vmess := { vmess with configType := 2, guid := guid }
  let vmess := { vmess with remarks := vmess.guid }
  { vmess with security := "", network := "", headerType := "", address := "", port := 0,
               id := "", alterId := 0, requestHost := "", streamSecurity := "" }

/-- `importCustomizeConfig(server)`: the text goes to the preference
`ANG_CONFIG + guid` and a type-2 server with that guid is added. -/
def importCustomizeConfig (m : Manager) (server : Option String) (now : Nat) : Ret × Manager :=
  match server with
  | none => (.toast .toastNoneData,m)
  | some server =>
    if server = "" then (.toast .toastNoneData,m)
    else
      let guid := Decimal.render now
      let m := { m with customConfigs := Function.update m.customConfigs guid (some server) }
      (.ok,storeConfigFile { m with angConfig := appendServer m.angConfig (customServer guid) })

/-! ### What each call does to the list -/

variable {m : Manager} {v : VmessBean} {i : Int} {now : Nat}

theorem addServer_of_lt (h0 : 0 ≤ i) (hi : i.toNat < m.angConfig.vmess.length) :
    m.addServer v i now =
      (.ok,storeConfigFile { m with angConfig.vmess := m.angConfig.vmess.set i.toNat v }) := by
  simp [addServer,h0,hi]

theorem addServer_of_neg (hi : i < 0) :
    m.addServer v i now =
      (.ok,storeConfigFile { m with angConfig := appendServer m.angConfig { v with guid := Decimal.render now } }) := by
  simp [addServer,Int.not_le.2 hi]

theorem removeServer_of_lt (h0 : 0 ≤ i) (hi : i.toNat < m.angConfig.vmess.length) :
    m.removeServer i =
      (.ok,storeConfigFile { m with angConfig.vmess := m.angConfig.vmess.eraseIdx i.toNat,
                                    angConfig.index := indexAfterRemove m.angConfig.index i
                                      (m.angConfig.vmess.eraseIdx i.toNat).length }) := by
  have : ¬ (i < 0 ∨ i > (m.angConfig.vmess.length : Int) - 1) := by omega
  simp only [removeServer,if_neg this]

theorem setActiveServer_of_lt (h0 : 0 ≤ i) (hi : i.toNat < m.angConfig.vmess.length) :
    m.setActiveServer i = (.ok,storeConfigFile { m with angConfig.index := i }) := by
  have : ¬ (i < 0 ∨ i > (m.angConfig.vmess.length : Int) - 1) := by omega
  simp only [setActiveServer,if_neg this]

theorem addServer_of_ge (h0 : 0 ≤ i) (hi : ¬ i.toNat < m.angConfig.vmess.length) :
    m.addServer v i now = (.fail,m) := by
  simp [addServer,h0,hi]

theorem removeServer_of_not (hi : ¬ (0 ≤ i ∧ i.toNat < m.angConfig.vmess.length)) :
    m.removeServer i = (.fail,m) := by
  have : i < 0 ∨ i > (m.angConfig.vmess.length : Int) - 1 := by omega
  simp only [removeServer,if_pos this]

theorem setActiveServer_of_not (hi : ¬ (0 ≤ i ∧ i.toNat < m.angConfig.vmess.length)) :
    m.setActiveServer i = (.fail,m) := by
  have : i < 0 ∨ i > (m.angConfig.vmess.length : Int) - 1 := by omega
  simp only [setActiveServer,if_pos this]

/-- Each edit of the list either fails and keeps the manager, or returns `0`
and stores the edited config. -/
theorem addServer_cases (m : Manager) (v : VmessBean) (i : Int) (now : Nat) :
    m.addServer v i now = (.fail,m) ∨ ∃ m', m.addServer v i now = (.ok,storeConfigFile m') := by
  by_cases h0 : 0 ≤ i
  · by_cases hi : i.toNat < m.angConfig.vmess.length
    · exact .inr ⟨_,addServer_of_lt h0 hi⟩
    · exact .inl (addServer_of_ge h0 hi)
  · exact .inr ⟨_,addServer_of_neg (Int.not_le.1 h0)⟩

theorem removeServer_cases (m : Manager) (i : Int) :
    m.removeServer i = (.fail,m) ∨ ∃ m', m.removeServer i = (.ok,storeConfigFile m') := by
  by_cases hi : 0 ≤ i ∧ i.toNat < m.angConfig.vmess.length
  · exact .inr ⟨_,removeServer_of_lt hi.1 hi.2⟩
  · exact .inl (removeServer_of_not hi)

theorem setActiveServer_cases (m : Manager) (i : Int) :
    m.setActiveServer i = (.fail,m) ∨ ∃ m', m.setActiveServer i = (.ok,storeConfigFile m') := by
  by_cases hi : 0 ≤ i ∧ i.toNat < m.angConfig.vmess.length
  · exact .inr ⟨_,setActiveServer_of_lt hi.1 hi.2⟩
  · exact .inl (setActiveServer_of_not hi)

theorem snd_eq_of_ne_ok {r : Ret × Manager} (hr : r = (.fail,m) ∨ ∃ m', r = (.ok,storeConfigFile m'))
    (h : r.1 ≠ .ok) : r.2 = m := by
  rcases hr with rfl | ⟨m',rfl⟩
  · rfl
  · exact absurd rfl h

/-- A call that does not return `0` leaves the state as it was. -/
theorem addServer_failed (h : (m.addServer v i now).1 ≠ .ok) : (m.addServer v i now).2 = m :=
  snd_eq_of_ne_ok (addServer_cases m v i now) h

theorem removeServer_failed (h : (m.removeServer i).1 ≠ .ok) : (m.removeServer i).2 = m :=
  snd_eq_of_ne_ok (removeServer_cases m i) h

theorem setActiveServer_failed (h : (m.setActiveServer i).1 ≠ .ok) : (m.setActiveServer i).2 = m :=
  snd_eq_of_ne_ok (setActiveServer_cases m i) h

/-- An import either fails and changes nothing, or appends one server. -/
theorem importConfig_spec (cd : Codecs) (server : Option String) (now : Nat) :
    ((m.importConfig cd server now).1 ≠ .ok → (m.importConfig cd server now).2 = m) ∧
      ((m.importConfig cd server now).1 = .ok →
        ∃ q, (m.importConfig cd server now).2 =
          storeConfigFile { m with angConfig := appendServer m.angConfig
                                     { qrCodeServer q with guid := Decimal.render now } }) := by
  unfold importConfig
  rcases server with _ | server
  · simp
  -- the `let`s of the source stand between the tests
  dsimp only
  split_ifs
  · simp
  · simp
  · split
    · simp
    · rename_i q _
      split_ifs
      · simp
      · exact ⟨by simp,fun _ => ⟨q,by simp [addServer_of_neg]⟩⟩
  · simp

theorem importCustomizeConfig_spec (server : Option String) (now : Nat) :
    ((m.importCustomizeConfig server now).1 ≠ .ok → (m.importCustomizeConfig server now).2 = m) ∧
      ((m.importCustomizeConfig server now).1 = .ok →
        (m.importCustomizeConfig server now).2.angConfig =
          appendServer m.angConfig (customServer (Decimal.render now))) := by
  unfold importCustomizeConfig
  split
  · simp
  · split_ifs <;> simp [storeConfigFile]

end Manager

/-- `getIndexViaGuid(guid)`: the first index whose server has this guid. -/
def AngConfig.getIndexViaGuid (c : AngConfig) (guid : String) : Int :=
  if guid = "" then -1
  else match c.vmess.findIdx? (fun v => v.guid == guid) with
    | some i => i
    | none => -1

namespace AngConfig
open Manager

/-- The server at `index`, if the index points into the list. -/
def active (c : AngConfig) : Option VmessBean :=
  if 0 ≤ c.index then c.vmess[c.index.toNat]? else none

/-- In a nonempty list the active index points into it. -/
def IndexValid (c : AngConfig) : Prop :=
  c.vmess ≠ [] → 0 ≤ c.index ∧ c.index < c.vmess.length

variable {c : AngConfig} {v : VmessBean}

theorem IndexValid.of_nil (h : c.vmess = []) : c.IndexValid := fun hne => absurd h hne

theorem IndexValid.appendServer (h : c.IndexValid) (v : VmessBean) : (appendServer c v).IndexValid := by
  intro _
  by_cases hc : c.vmess = []
  · simp [Manager.appendServer,hc]
  · obtain ⟨h0,hlt⟩ := h hc
    have hlen : c.vmess.length ≠ 0 := by simpa using hc
    simp only [Manager.appendServer,List.length_append,List.length_singleton]
    rw [if_neg (by omega)]
    omega

theorem active_appendServer (h : c.IndexValid) (hc : c.vmess ≠ []) (v : VmessBean) :
    (appendServer c v).active = c.active := by
  obtain ⟨h0,hlt⟩ := h hc
  have hlen : c.vmess.length ≠ 0 := by simpa using hc
  have hidx : (appendServer c v).index = c.index := by
    simp only [Manager.appendServer,List.length_append,List.length_singleton]
    rw [if_neg (by omega)]
  simp only [active,hidx,if_pos h0]
  exact List.getElem?_append_left (by omega)

theorem IndexValid.set (h : c.IndexValid) (j : Nat) (v : VmessBean) :
    IndexValid { c with vmess := c.vmess.set j v } := by
  simpa [IndexValid] using h

theorem active_set (j : Nat) (hj : (j : Int) ≠ c.index) (v : VmessBean) :
    active { c with vmess := c.vmess.set j v } = c.active := by
  unfold active
  dsimp only
  split_ifs with h0
  · exact List.getElem?_set_ne (by omega)
  · rfl

theorem IndexValid.removeAt (h : c.IndexValid) {i : Int} (h0 : 0 ≤ i) (hi : i.toNat < c.vmess.length) :
    IndexValid { c with vmess := c.vmess.eraseIdx i.toNat,
                        index := indexAfterRemove c.index i (c.vmess.eraseIdx i.toNat).length } := by
  intro hne
  have hlen : (c.vmess.eraseIdx i.toNat).length = c.vmess.length - 1 := List.length_eraseIdx_of_lt hi
  have hne' : (c.vmess.eraseIdx i.toNat).length ≠ 0 := by simpa using hne
  obtain ⟨h0,hlt⟩ := h (List.ne_nil_of_length_pos (by omega))
  simp only [indexAfterRemove]
  split_ifs <;> omega

/-- Removing another server keeps the active one: the index moves down with it
when the removed server stood before it. -/
theorem active_removeAt (h : c.IndexValid) {i : Int} (h0 : 0 ≤ i) (hi : i.toNat < c.vmess.length)
    (hne : i ≠ c.index) :
    active { c with vmess := c.vmess.eraseIdx i.toNat,
                    index := indexAfterRemove c.index i (c.vmess.eraseIdx i.toNat).length } = c.active := by
  obtain ⟨h0',hlt⟩ := h (List.ne_nil_of_length_pos (by omega))
  simp only [active,indexAfterRemove,if_neg (Ne.symm hne),if_pos h0']
  split_ifs with hlt' h0''
  · rw [List.getElem?_eraseIdx_of_ge (by omega)]
    congr 1
    omega
  · omega
  · exact List.getElem?_eraseIdx_of_lt (by omega)

theorem IndexValid.active_eq_some (h : c.IndexValid) (hne : c.vmess ≠ []) :
    ∃ v, c.active = some v := by
  obtain ⟨h0,hlt⟩ := h hne
  exact ⟨c.vmess.get ⟨c.index.toNat,by omega⟩,by simp [active,h0]⟩

end AngConfig

namespace Manager
open AngConfig

@[simp] theorem storeConfigFile_angConfig (m : Manager) : (storeConfigFile m).angConfig = m.angConfig := rfl

/-- `importConfigNoToast(server)` of MainActivity: nothing for a `null` entry. -/
def importConfigNoToast (cd : Codecs) (m : Manager) (server : Option String) (now : Nat) : Manager :=
  match server with
  | none => m
  | some s => (m.importConfig cd (some s) now).2

/-- The subscription refresh, MainActivity's `onResponse`: `vmess.clear()` on the
live list, then `importConfigNoToast` of every received entry, each reading the
clock. Nothing is stored unless an import succeeds. -/
def onResponse (cd : Codecs) (m : Manager) (entries : List (Option String × Nat)) : Manager :=
  entries.foldl (fun m e => m.importConfigNoToast cd e.1 e.2) { m with angConfig.vmess := [] }

/-- The calls on the server list, with the clock readings they make. -/
inductive ManagerOp where
  | addServer (vmess : VmessBean) (index : Int) (now : Nat)
  | removeServer (index : Int)
  | setActiveServer (index : Int)
  | importConfig (server : Option String) (now : Nat)
  | importCustomizeConfig (server : Option String) (now : Nat)
  | onResponse (entries : List (Option String × Nat))

/-- A call, with what it returns (`none` for the refresh, which returns nothing). -/
def exec (cd : Codecs) (m : Manager) : ManagerOp → Option Ret × Manager
  | .addServer v i now => (some (m.addServer v i now).1,(m.addServer v i now).2)
  | .removeServer i => (some (m.removeServer i).1,(m.removeServer i).2)
  | .setActiveServer i => (some (m.setActiveServer i).1,(m.setActiveServer i).2)
  | .importConfig s now => (some (m.importConfig cd s now).1,(m.importConfig cd s now).2)
  | .importCustomizeConfig s now =>
    (some (m.importCustomizeConfig s now).1,(m.importCustomizeConfig s now).2)
  | .onResponse es => (none,m.onResponse cd es)

def step (cd : Codecs) (m : Manager) (op : ManagerOp) : Manager := (exec cd m op).2

/-- The calls allowed to change which server is active: selecting a server in
range, removing the active one, editing the active slot, and the refresh. -/
def ManagerOp.MayMoveActive (c : AngConfig) : ManagerOp → Prop
  | .setActiveServer i => 0 ≤ i ∧ i < c.vmess.length
  | .removeServer i => i = c.index
  | .addServer _ i _ => i = c.index
  | .onResponse _ => True
  | _ => False

variable {m : Manager} {cd : Codecs}

theorem importConfig_cases (cd : Codecs) (server : Option String) (now : Nat) :
    (m.importConfig cd server now).2 = m ∨
      ∃ v, (m.importConfig cd server now).2.angConfig = appendServer m.angConfig v := by
  obtain ⟨hfail,hok⟩ := m.importConfig_spec cd server now
  by_cases hr : (m.importConfig cd server now).1 = .ok
  · obtain ⟨q,hq⟩ := hok hr
    exact .inr ⟨_,by rw [hq]; rfl⟩
  · exact .inl (hfail hr)

theorem importCustomizeConfig_cases (server : Option String) (now : Nat) :
    (m.importCustomizeConfig server now).2 = m ∨
      ∃ v, (m.importCustomizeConfig server now).2.angConfig = appendServer m.angConfig v := by
  obtain ⟨hfail,hok⟩ := m.importCustomizeConfig_spec server now
  by_cases hr : (m.importCustomizeConfig server now).1 = .ok
  · exact .inr ⟨_,hok hr⟩
  · exact .inl (hfail hr)

theorem importConfig_valid (h : m.angConfig.IndexValid) (server : Option String) (now : Nat) :
    (m.importConfig cd server now).2.angConfig.IndexValid := by
  rcases importConfig_cases (m := m) cd server now with he | ⟨v,he⟩
  · rwa [he]
  · rw [he]
    exact h.appendServer v

theorem importConfigNoToast_valid (h : m.angConfig.IndexValid) (server : Option String) (now : Nat) :
    (m.importConfigNoToast cd server now).angConfig.IndexValid := by
  rcases server with _ | s
  · exact h
  · exact importConfig_valid h (some s) now

/-- The refresh leaves a valid index whatever it starts from: `clear()` makes
the list empty, and the first import that succeeds sets the index to 0. -/
theorem onResponse_valid (entries : List (Option String × Nat)) : (m.onResponse cd entries).angConfig.IndexValid := by
  have hfold : ∀ (es : List (Option String × Nat)) (m : Manager), m.angConfig.IndexValid →
      (es.foldl (fun m e => m.importConfigNoToast cd e.1 e.2) m).angConfig.IndexValid := by
    intro es
    induction es with
    | nil => exact fun _ h => h
    | cons e es ih => exact fun m h => ih _ (importConfigNoToast_valid h e.1 e.2)
  exact hfold entries _ (IndexValid.of_nil rfl)

theorem step_valid (h : m.angConfig.IndexValid) (op : ManagerOp) : (step cd m op).angConfig.IndexValid := by
  cases op with
  | addServer v i now =>
    simp only [step,exec]
    by_cases h0 : 0 ≤ i
    · by_cases hi : i.toNat < m.angConfig.vmess.length
      · simpa [addServer_of_lt h0 hi] using h.set i.toNat v
      · rwa [addServer_of_ge h0 hi]
    · simpa [addServer_of_neg (Int.not_le.1 h0)] using h.appendServer _
  | removeServer i =>
    simp only [step,exec]
    by_cases hi : 0 ≤ i ∧ i.toNat < m.angConfig.vmess.length
    · rw [removeServer_of_lt hi.1 hi.2,storeConfigFile_angConfig]
      exact h.removeAt hi.1 hi.2
    · rwa [removeServer_of_not hi]
  | setActiveServer i =>
    simp only [step,exec]
    by_cases hi : 0 ≤ i ∧ i.toNat < m.angConfig.vmess.length
    · simp only [setActiveServer_of_lt hi.1 hi.2,storeConfigFile_angConfig]
      exact fun _ => ⟨hi.1,by dsimp only; omega⟩
    · rwa [setActiveServer_of_not hi]
  | importConfig s now => exact importConfig_valid h s now
  | importCustomizeConfig s now =>
    simp only [step,exec]
    rcases importCustomizeConfig_cases (m := m) s now with he | ⟨v,he⟩
    · rwa [he]
    · rw [he]
      exact h.appendServer v
  | onResponse es => exact onResponse_valid es

theorem step_active (h : m.angConfig.IndexValid) (hne : m.angConfig.vmess ≠ []) {op : ManagerOp}
    (hop : ¬ op.MayMoveActive m.angConfig) : (step cd m op).angConfig.active = m.angConfig.active := by
  obtain ⟨h0,-⟩ := h hne
  cases op with
  | addServer v i now =>
    simp only [step,exec]
    by_cases hi0 : 0 ≤ i
    · by_cases hi : i.toNat < m.angConfig.vmess.length
      · rw [addServer_of_lt hi0 hi,storeConfigFile_angConfig]
        exact active_set i.toNat (by simp only [ManagerOp.MayMoveActive] at hop; omega) v
      · rw [addServer_of_ge hi0 hi]
    · rw [addServer_of_neg (Int.not_le.1 hi0),storeConfigFile_angConfig]
      exact active_appendServer h hne _
  | removeServer i =>
    simp only [step,exec]
    by_cases hi : 0 ≤ i ∧ i.toNat < m.angConfig.vmess.length
    · rw [removeServer_of_lt hi.1 hi.2,storeConfigFile_angConfig]
      exact active_removeAt h hi.1 hi.2 hop
    · rw [removeServer_of_not hi]
  | setActiveServer i =>
    have hi : ¬ (0 ≤ i ∧ i.toNat < m.angConfig.vmess.length) := by
      simp only [ManagerOp.MayMoveActive] at hop; omega
    simp only [step,exec,setActiveServer_of_not hi]
  | importConfig s now =>
    simp only [step,exec]
    rcases importConfig_cases (m := m) cd s now with he | ⟨v,he⟩
    · rw [he]
    · rw [he]
      exact active_appendServer h hne v
  | importCustomizeConfig s now =>
    simp only [step,exec]
    rcases importCustomizeConfig_cases (m := m) s now with he | ⟨v,he⟩
    · rw [he]
    · rw [he]
      exact active_appendServer h hne v
  | onResponse es => exact absurd trivial hop

theorem exec_failed {op : ManagerOp} {r : Ret} (h : (exec cd m op).1 = some r) (hr : r ≠ .ok) :
    (exec cd m op).2 = m := by
  cases op with
  | addServer v i now =>
    simp only [exec,Option.some.injEq] at h ⊢
    exact addServer_failed (h ▸ hr)
  | removeServer i =>
    simp only [exec,Option.some.injEq] at h ⊢
    exact removeServer_failed (h ▸ hr)
  | setActiveServer i =>
    simp only [exec,Option.some.injEq] at h ⊢
    exact setActiveServer_failed (h ▸ hr)
  | importConfig s now =>
    simp only [exec,Option.some.injEq] at h ⊢
    exact (m.importConfig_spec cd s now).1 (h ▸ hr)
  | importCustomizeConfig s now =>
    simp only [exec,Option.some.injEq] at h ⊢
    exact (m.importCustomizeConfig_spec s now).1 (h ▸ hr)
  | onResponse es => simp [exec] at h

end Manager

open Manager

theorem reachable_indexValid {cd : Codecs} {m : Manager} (hm : Reachable (step cd) init m) :
    m.angConfig.IndexValid :=
  hm.invariant (P := fun m : Manager => m.angConfig.IndexValid) (AngConfig.IndexValid.of_nil rfl)
    (fun _ a hs => step_valid hs a)

/-- Over every run from the first start, a nonempty list has its active index
inside it; every call outside those meant to move it keeps the active server;
and every call that returns `-1` or a toast changes nothing. -/
theorem active_server_invariant (cd : Codecs) {m : Manager} (hm : Reachable (step cd) init m)
    (op : ManagerOp) :
    m.angConfig.IndexValid ∧
      (m.angConfig.vmess ≠ [] → ¬ op.MayMoveActive m.angConfig →
        (step cd m op).angConfig.active = m.angConfig.active) ∧
      ∀ r, (exec cd m op).1 = some r → r ≠ .ok → (exec cd m op).2 = m := by
  have hvalid := reachable_indexValid hm
  exact ⟨hvalid,fun hne hop => step_active hvalid hne hop,fun r h hr => exec_failed h hr⟩

/-- After two additions, a selection, a custom import and the removal of the
server before the active one, selecting a server that is not there returns
`-1` and keeps the active server and the whole state. -/
theorem active_server_invariant_after_edits :
    ∃ m, m = run (step Codecs.app) init [.addServer {} (-1) 1,.addServer { remarks := "b" } (-1) 2,
        .setActiveServer 1,.importCustomizeConfig (some "\x7b\x7d") 3,.removeServer 0] ∧
      m.angConfig.vmess ≠ [] ∧ ¬ (ManagerOp.setActiveServer 7).MayMoveActive m.angConfig ∧
      (exec Codecs.app m (.setActiveServer 7)).1 = some .fail ∧
      m.angConfig.IndexValid ∧
      (step Codecs.app m (.setActiveServer 7)).angConfig.active = m.angConfig.active ∧
      (exec Codecs.app m (.setActiveServer 7)).2 = m := by
  refine ⟨_,rfl,?_⟩
  generalize hm : run (step Codecs.app) init [.addServer {} (-1) 1,.addServer { remarks := "b" } (-1) 2,
    .setActiveServer 1,.importCustomizeConfig (some "\x7b\x7d") 3,.removeServer 0] = m
  have h := active_server_invariant Codecs.app ⟨_,hm⟩ (.setActiveServer 7)
  have hne : m.angConfig.vmess ≠ [] := by subst hm; decide
  have hop : ¬ (ManagerOp.setActiveServer 7).MayMoveActive m.angConfig := by
    subst hm
    simp only [ManagerOp.MayMoveActive]
    decide
  have hfail : (exec Codecs.app m (.setActiveServer 7)).1 = some .fail := by subst hm; decide
  exact ⟨hne,hop,hfail,h.1,h.2.1 hne hop,h.2.2 _ hfail (by decide)⟩

end V2rayZt.Ang
