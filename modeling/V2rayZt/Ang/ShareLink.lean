import V2rayZt.Ang.ConfigManager
import V2rayZt.Ang.Base64Lines

/-! The `vmess://` share link of `shareConfig` and `importConfig`: importing a shared link appends
a server with the same nine fields, given codecs that invert each other on its text. -/
namespace V2rayZt.Ang
open Manager

/-- The `VmessQRCode` `shareConfig` fills from a server. -/
def shareQRCode (vmess : VmessBean) : VmessQRCode :=
  { ps := vmess.remarks, add := vmess.address, port := Decimal.render vmess.port.toInt, id := vmess.id,
    aid := Decimal.render vmess.alterId.toInt, net := vmess.network, type := vmess.headerType,
    host := vmess.requestHost, tls := vmess.streamSecurity }

/-- `shareConfig(index)`: `""` outside the list. -/
def Manager.shareConfig (cd : Codecs) (m : Manager) (index : Int) : String :=
  if index < 0 ∨ index > m.angConfig.vmess.length - 1 then ""
  else
    match m.angConfig.vmess[index.toNat]? with
    | some vmess => vmessProtocol ++ cd.encode (cd.qrToJson (shareQRCode vmess))
    | none => ""

theorem parseInt_render (x : Int32) : parseInt (Decimal.render x.toInt) = x := by
  have hlo : -2^(32-1) ≤ x.toInt := x.le_toInt
  have hhi : x.toInt < 2^(32-1) := x.toInt_lt
  simp [parseInt,Decimal.parseSigned?_render hlo hhi]

namespace Utils

end Utils

/-- Stripping the scheme from a link whose body has no `:` leaves the body. -/
theorem replace_vmessProtocol {body : String} (hcolon : ':' ∉ body.toList) :
    String.ofList (Text.replaceAll vmessProtocol.toList [] (vmessProtocol ++ body).toList) = body := by
  have hmem : ':' ∈ vmessProtocol.toList := by decide
  rw [String.toList_append,Text.replaceAll_append_self [] (by decide),
    Text.replaceAll_of_not_mem [] hmem body.toList hcolon,List.nil_append,String.ofList_toList]

theorem shareConfig_of_getElem? (cd : Codecs) {m : Manager} {i : Nat} {v : VmessBean}
    (hv : m.angConfig.vmess[i]? = some v) :
    m.shareConfig cd i = vmessProtocol ++ cd.encode (cd.qrToJson (shareQRCode v)) := by
  have hi : i < m.angConfig.vmess.length := (List.getElem?_eq_some_iff.1 hv).1
  have hrange : ¬ ((i : Int) < 0 ∨ (i : Int) > (m.angConfig.vmess.length : Int) - 1) := by omega
  rw [shareConfig,if_neg hrange,Int.toNat_natCast,hv]

theorem qrCodeServer_shareQRCode (vmess : VmessBean) :
    (qrCodeServer (shareQRCode vmess)).remarks = vmess.remarks ∧
      (qrCodeServer (shareQRCode vmess)).address = vmess.address ∧
      (qrCodeServer (shareQRCode vmess)).port = vmess.port ∧
      (qrCodeServer (shareQRCode vmess)).id = vmess.id ∧
      (qrCodeServer (shareQRCode vmess)).alterId = vmess.alterId ∧
      (qrCodeServer (shareQRCode vmess)).network = vmess.network ∧
      (qrCodeServer (shareQRCode vmess)).headerType = vmess.headerType ∧
      (qrCodeServer (shareQRCode vmess)).requestHost = vmess.requestHost ∧
      (qrCodeServer (shareQRCode vmess)).streamSecurity = vmess.streamSecurity := by
  simp [qrCodeServer,shareQRCode,parseInt_render]

/-- Importing the link `shareConfig` makes for a server whose address, id and
network are non-empty returns `0` and appends a server with the same nine
shared fields, for every port and alterId. The codecs only have to invert each
other on this server's text, and Base64 to write no `:`. -/
theorem share_link_round_trip (cd : Codecs) (m : Manager) {i : Nat} {v : VmessBean}
    (hv : m.angConfig.vmess[i]? = some v) (now : Nat)
    (haddr : v.address ≠ "") (hid : v.id ≠ "") (hnet : v.network ≠ "")
    (hjson : cd.qrToJson (shareQRCode v) ≠ "")
    (hgson : cd.qrFromJson (cd.qrToJson (shareQRCode v)) = some (shareQRCode v))
    (hb64 : cd.decode (cd.encode (cd.qrToJson (shareQRCode v))) = cd.qrToJson (shareQRCode v))
    (hcolon : ':' ∉ (cd.encode (cd.qrToJson (shareQRCode v))).toList) :
    (m.importConfig cd (some (m.shareConfig cd i)) now).1 = .ok ∧
      ∃ v', (m.importConfig cd (some (m.shareConfig cd i)) now).2.angConfig.vmess = m.angConfig.vmess ++ [v'] ∧
        v'.remarks = v.remarks ∧ v'.address = v.address ∧ v'.port = v.port ∧ v'.id = v.id ∧
        v'.alterId = v.alterId ∧ v'.network = v.network ∧ v'.headerType = v.headerType ∧
        v'.requestHost = v.requestHost ∧ v'.streamSecurity = v.streamSecurity := by
  rw [shareConfig_of_getElem? cd hv]
  -- the link is non-empty and contains the scheme
  have hserver : vmessProtocol ++ cd.encode (cd.qrToJson (shareQRCode v)) ≠ "" := by
    intro h
    have := congrArg String.length h
    simp [vmessProtocol] at this
  have hscheme : vmessProtocol.toList <:+: (vmessProtocol ++ cd.encode (cd.qrToJson (shareQRCode v))).toList := by
    rw [String.toList_append]
    exact List.infix_append [] _ _
  -- the decoded record passes the emptiness checks
  have hfields : ¬ ((shareQRCode v).add = "" ∨ (shareQRCode v).port = "" ∨ (shareQRCode v).id = "" ∨
      (shareQRCode v).aid = "" ∨ (shareQRCode v).net = "") := by
    simp [shareQRCode,haddr,hid,hnet,Decimal.render_ne_empty]
  have himport : m.importConfig cd (some (vmessProtocol ++ cd.encode (cd.qrToJson (shareQRCode v)))) now =
      (.ok,(m.addServer (qrCodeServer (shareQRCode v)) (-1) now).2) := by
    simp only [importConfig,if_neg hserver,hscheme,not_true_eq_false,if_false,replace_vmessProtocol hcolon,
      hb64,if_neg hjson,hgson,if_neg hfields]
  rw [himport]
  refine ⟨rfl,{ qrCodeServer (shareQRCode v) with guid := Decimal.render now },?_,?_⟩
  · simp [addServer_of_neg,appendServer,storeConfigFile]
  · simpa using qrCodeServer_shareQRCode v

/-- With the app's codecs, a server whose remarks need Gson's escapes and
two-byte UTF-8, and whose link is long enough to be wrapped, comes back. -/
theorem share_link_round_trip_app_codecs :
    ∃ (m : Manager) (v : VmessBean),
      v = { remarks := "caf\u00e9 \"<b>\"", address := "a", id := "b", network := "c" } ∧
      m = ⟨{ index := 0, vmess := [{},v] },none,fun _ => none⟩ ∧
      '\n' ∈ (Codecs.app.encode (Codecs.app.qrToJson (shareQRCode v))).toList ∧
      (m.importConfig Codecs.app (some (m.shareConfig Codecs.app ((1 : Nat) : Int))) 7).1 = .ok ∧
      ∃ v', (m.importConfig Codecs.app (some (m.shareConfig Codecs.app ((1 : Nat) : Int))) 7).2.angConfig.vmess =
          m.angConfig.vmess ++ [v'] ∧
        v'.remarks = v.remarks ∧ v'.address = v.address ∧ v'.port = v.port ∧ v'.id = v.id ∧
        v'.alterId = v.alterId ∧ v'.network = v.network ∧ v'.headerType = v.headerType ∧
        v'.requestHost = v.requestHost ∧ v'.streamSecurity = v.streamSecurity := by
  refine ⟨_,_,rfl,rfl,by decide +kernel,?_⟩
  refine share_link_round_trip Codecs.app _ (i := 1) rfl 7 (by decide) (by decide) (by decide) (by decide)
    (Codecs.app_qrFromJson_qrToJson _) ?_ ?_
  · decide +kernel
  · decide +kernel

end V2rayZt.Ang
