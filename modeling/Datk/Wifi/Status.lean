import Datk.Wifi.Json

/-!
# The status that the server publishes

`wifi_manager_generate_ip_info_json` prints the SSID of `wifi_manager_config_sta` as a
string.  The field has no terminator of its own: `json_print_string` reads on into
`password` if the SSID fills all of its 32 bytes.  What follows has to share the 159
bytes of `ip_info_json`.  `confidential_iff` is the exact condition under which the
text depends on nothing but the SSID and can be read as JSON.
-/

namespace Datk.Wifi

open Lib

/-- The value of a header that `http_server_post_handler` accepts. -/
structure Header (max : Nat) where
  value : List Byte
  ne_nil : value ≠ []
  length_le : value.length ≤ max
  no_nul : 0 ∉ value
  deriving DecidableEq, Repr

/-- The fields `ssid` and `password` of `wifi_config_t.sta`.  The field after them,
`scan_method`, is zero. -/
structure StaConfig where
  ssid : Buffer Byte 32
  password : Buffer Byte 64
  deriving DecidableEq

/-- What `http_server_post_handler` leaves in `wifi_manager_config_sta`. -/
def httpServerPostHandler (ssid : Header 32) (password : Header 64) : Option StaConfig := do
  let s ← (Buffer.fill 32 0).write 0 ssid.value
  let p ← (Buffer.fill 64 0).write 0 password.value
  return ⟨s, p⟩

/-- The string that starts at `config->sta.ssid`. -/
def StaConfig.ssidString (c : StaConfig) : List Byte :=
  (c.ssid.cells ++ (c.password.cells ++ [0])).takeWhile (· ≠ 0)

/-- What `esp_ip4addr_ntoa` writes. -/
structure Address where
  text : List Byte
  dotted : ∀ c ∈ text, JsonBytes.isDigit c = true ∨ c = 0x2e
  length_lt : text.length < 16

structure IpInfo where
  ip : Address
  netmask : Address
  gw : Address

inductive UpdateReason
  | connectionOk
  | failedAttempt
  | userDisconnect
  | lostConnection
  deriving DecidableEq, Repr

def UpdateReason.code : UpdateReason → Int
  | .connectionOk => 0
  | .failedAttempt => 1
  | .userDisconnect => 2
  | .lostConnection => 3

/-- `ip_info_json_format`, up to the closing brace. -/
def ipInfoMembers (ip netmask gw : List Byte) (urc : Int) : List Byte :=
  bytes ",\"ip\":\"" ++ ip ++ bytes "\",\"netmask\":\"" ++ netmask ++ bytes "\",\"gw\":\"" ++ gw ++
    bytes "\",\"urc\":" ++ JsonBytes.printInt urc

/-- What is printed after the SSID, up to the closing brace. -/
def ipInfo (reason : UpdateReason) (info : IpInfo) : List Byte :=
  if reason = .connectionOk then
    ipInfoMembers info.ip.text info.netmask.text info.gw.text reason.code
  else ipInfoMembers (bytes "0") (bytes "0") (bytes "0") reason.code

/-- `wifi_manager_generate_ip_info_json`: what it leaves in `ip_info_json`, or `none`
where it writes past the end. -/
def wifiManagerGenerateIpInfoJson (config : StaConfig) (reason : UpdateReason)
    (info : IpInfo) : Option (Buffer Byte 159) := do
  let b ← (Buffer.fill 159 0).sprintf 0 (bytes "\x7b\"ssid\":")
  let start ← b.text 0
  let b ← jsonPrintString config.ssidString b start.length
  let text ← b.text 0
  let remaining := 159 - text.length
  b.snprintf 0 text.length remaining (ipInfo reason info ++ bytes "\x7d\n")

/-- The text of `status.json` after a user posted `ssid` and `password`. -/
def statusJson (ssid : Header 32) (password : Header 64) (reason : UpdateReason)
    (info : IpInfo) : Option (List Byte) := do
  let config ← httpServerPostHandler ssid password
  let b ← wifiManagerGenerateIpInfoJson config reason info
  b.text 0

/-- The member `ssid` of a text that is a JSON object. -/
def ssidMember (text : List Byte) : Option (List Byte) := do
  let members ← JsonBytes.object text
  match members.lookup (bytes "ssid") with
  | some (.str s) => some s
  | _ => none

/-- What the addresses take of the text. -/
def addressesLength (reason : UpdateReason) (info : IpInfo) : Nat :=
  if reason = .connectionOk then
    info.ip.text.length + info.netmask.text.length + info.gw.text.length
  else 3

/-- **The status does not depend on the password**, and names the SSID. -/
def Confidential (ssid : Header 32) (reason : UpdateReason) (info : IpInfo) : Prop :=
  (∀ password, (statusJson ssid password reason info).bind ssidMember = some ssid.value) ∧
    ∀ password password', statusJson ssid password reason info =
      statusJson ssid password' reason info

/-! ### The string that is read -/

theorem write_header {max : Nat} (h : Header max) :
    ∃ b, (Buffer.fill max (0 : Byte)).write 0 h.value = some b ∧
      b.cells = h.value ++ List.replicate (max - h.value.length) 0 := by
  obtain ⟨b, hb, hcells⟩ := (Buffer.fill max (0 : Byte)).write_of_le
    ((Nat.zero_add _).trans_le h.length_le)
  refine ⟨b, hb, ?_⟩
  rw [hcells, List.take_zero, List.nil_append, Nat.zero_add, Buffer.fill, List.drop_replicate]

/-- What is scanned: an SSID of 32 bytes goes on in the password. -/
def scanned (ssid : Header 32) (password : Header 64) : List Byte :=
  if ssid.value.length < 32 then ssid.value else ssid.value ++ password.value

theorem exists_config (ssid : Header 32) (password : Header 64) :
    ∃ c, httpServerPostHandler ssid password = some c ∧
      c.ssidString = scanned ssid password := by
  obtain ⟨s, hs, hscells⟩ := write_header ssid
  obtain ⟨p, hp, hpcells⟩ := write_header password
  refine ⟨⟨s, p⟩, ?_, ?_⟩
  · simp only [httpServerPostHandler, hs, hp, Option.bind_eq_bind, Option.bind_some]
    rfl
  rw [StaConfig.ssidString, hscells, hpcells, scanned]
  split
  · rename_i hlt
    obtain ⟨k, hk⟩ := Nat.exists_eq_add_of_lt hlt
    rw [show 32 - ssid.value.length = k + 1 by omega, List.replicate_succ, List.append_assoc,
      List.cons_append, Buffer.takeWhile_append_nul ssid.no_nul]
  · rename_i hge
    have hboth : (0 : Byte) ∉ ssid.value ++ password.value := by
      rw [List.mem_append, not_or]
      exact ⟨ssid.no_nul, password.no_nul⟩
    have hfull : 32 - ssid.value.length = 0 := by omega
    rw [hfull, List.replicate_zero, List.append_nil, List.append_assoc,
      ← List.replicate_one, List.replicate_append_replicate, List.replicate_succ,
      ← List.append_assoc, Buffer.takeWhile_append_nul hboth]

/-! ### The text that is stored -/

/-- The text up to the SSID. -/
def ipInfoHead (s : List Byte) : List Byte := bytes "\x7b\"ssid\":" ++ quote s

theorem length_ipInfoHead (s : List Byte) :
    (ipInfoHead s).length = 10 + s.length + sumEscapes s := by
  have hname : (bytes "\x7b\"ssid\":").length = 8 := by decide
  rw [ipInfoHead, quote, List.length_append, hname, List.length_append, List.length_cons,
    length_flatMap_escaped, List.length_singleton]
  omega

theorem length_ipInfo (reason : UpdateReason) (info : IpInfo) :
    (ipInfo reason info).length = 37 + addressesLength reason info := by
  have hmembers : ∀ ip netmask gw : List Byte, (ipInfoMembers ip netmask gw reason.code).length =
      37 + (ip.length + netmask.length + gw.length) := by
    intro ip netmask gw
    have hnames : (bytes ",\"ip\":\"").length = 7 ∧ (bytes "\",\"netmask\":\"").length = 13 ∧
        (bytes "\",\"gw\":\"").length = 8 ∧ (bytes "\",\"urc\":").length = 8 := by
      decide
    have hcode : (JsonBytes.printInt reason.code).length = 1 := by
      cases reason <;> decide
    simp only [ipInfoMembers, List.length_append, hnames, hcode]
    omega
  rw [ipInfo, addressesLength]
  split
  · exact hmembers _ _ _
  · exact hmembers _ _ _

/-- No terminator, closing brace or white space. -/
def inner (c : Byte) : Bool := c ≠ 0 && c ≠ 0x7d && !JsonBytes.isSpace c

/-- The characters of an address are between the point and the nine. -/
theorem ne_of_dotted {c d : Byte} (h : JsonBytes.isDigit c = true ∨ c = 0x2e)
    (hd : d.toNat < 0x2e ∨ 0x39 < d.toNat) : c ≠ d := by
  rintro rfl
  rcases h with h | rfl
  · rw [JsonBytes.isDigit, Bool.and_eq_true, decide_eq_true_eq, decide_eq_true_eq] at h
    omega
  · exact absurd hd (by decide)

theorem inner_of_dotted {c : Byte} (h : JsonBytes.isDigit c = true ∨ c = 0x2e) :
    inner c = true := by
  simp only [inner, JsonBytes.isSpace, Bool.and_eq_true, decide_eq_true_eq, Bool.not_eq_true',
    Bool.or_eq_false_iff, decide_eq_false_iff_not]
  exact ⟨⟨ne_of_dotted h (by decide), ne_of_dotted h (by decide)⟩,
    ⟨⟨ne_of_dotted h (by decide), ne_of_dotted h (by decide)⟩, ne_of_dotted h (by decide)⟩,
    ne_of_dotted h (by decide)⟩

theorem inner_ipInfoMembers {ip netmask gw : List Byte} {urc : Int}
    (hip : ∀ c ∈ ip, inner c = true) (hnetmask : ∀ c ∈ netmask, inner c = true)
    (hgw : ∀ c ∈ gw, inner c = true) (hurc : ∀ c ∈ JsonBytes.printInt urc, inner c = true) :
    ∀ c ∈ ipInfoMembers ip netmask gw urc, inner c = true := by
  have hname : ∀ s : List Byte, s.all inner = true → ∀ c ∈ s, inner c = true := fun _ h =>
    List.all_eq_true.mp h
  simp only [ipInfoMembers, List.forall_mem_append]
  exact ⟨⟨⟨⟨⟨⟨⟨hname _ rfl, hip⟩, hname _ rfl⟩, hnetmask⟩, hname _ rfl⟩, hgw⟩, hname _ rfl⟩, hurc⟩

theorem inner_ipInfo (reason : UpdateReason) (info : IpInfo) :
    ∀ c ∈ ipInfo reason info, inner c = true := by
  have hurc : ∀ c ∈ JsonBytes.printInt reason.code, inner c = true := by
    rw [← List.all_eq_true]
    cases reason <;> rfl
  have hzero : ∀ c ∈ bytes "0", inner c = true := List.all_eq_true.mp rfl
  have hdotted : ∀ a : Address, ∀ c ∈ a.text, inner c = true := fun a c hc =>
    inner_of_dotted (a.dotted c hc)
  rw [ipInfo]
  split
  · exact inner_ipInfoMembers (hdotted _) (hdotted _) (hdotted _) hurc
  · exact inner_ipInfoMembers hzero hzero hzero hurc

/-- **What is stored**: nothing, if the SSID does not fit, and else as much of the text
as fits. -/
theorem text_generate {c : StaConfig} {s : List Byte} (hs : c.ssidString = s) (hnul : 0 ∉ s)
    (reason : UpdateReason) (info : IpInfo) :
    ((wifiManagerGenerateIpInfoJson c reason info).bind fun b => b.text 0) =
      if (ipInfoHead s).length < 159 then
        some ((ipInfoHead s ++ (ipInfo reason info ++ bytes "\x7d\n")).take 158)
      else none := by
  have hname : (0 : Byte) ∉ bytes "\x7b\"ssid\":" := by decide
  have hrest : 0 ∉ ipInfo reason info ++ bytes "\x7d\n" := by
    intro h
    rcases List.mem_append.mp h with h | h
    · cases inner_ipInfo reason info 0 h
    · revert h
      decide
  obtain ⟨b₁, hb₁, ht₁⟩ := Buffer.text_sprintf (b := Buffer.fill 159 (0 : Byte)) hname (by decide)
  have hcat : b₁.write (bytes "\x7b\"ssid\":").length (quote s ++ [0]) = b₁.strcat 0 (quote s) := by
    rw [Buffer.strcat, ht₁, Option.bind_some]
  simp only [wifiManagerGenerateIpInfoJson, Option.bind_eq_bind, hb₁, Option.bind_some, ht₁, hs,
    jsonPrintString_eq, hcat]
  split
  · rename_i hlen
    obtain ⟨b₂, hb₂, ht₂⟩ := Buffer.text_strcat ht₁ (zero_notMem_quote hnul) hlen
    rw [hb₂, Option.bind_some, ht₂, Option.bind_some]
    exact Buffer.snprintf_bind_text ht₂ hrest
  · rename_i hlen
    rw [Buffer.strcat_overflow ht₁ (Nat.le_of_not_lt hlen)]
    rfl

/-! ### What is read of it -/

theorem ipInfo_eq_printObject (s ip netmask gw : List Byte) (urc : Int) :
    ipInfoHead s ++ (ipInfoMembers ip netmask gw urc ++ bytes "\x7d\n") =
      JsonBytes.printObject
        [JsonBytes.printMember (bytes "ssid") (quote s),
          JsonBytes.printMember (bytes "ip") (0x22 :: ip ++ [0x22]),
          JsonBytes.printMember (bytes "netmask") (0x22 :: netmask ++ [0x22]),
          JsonBytes.printMember (bytes "gw") (0x22 :: gw ++ [0x22]),
          JsonBytes.printMember (bytes "urc") (JsonBytes.printInt urc)] ++ bytes "\n" := by
  have hssid : bytes "\x7b\"ssid\":" = 0x7b :: 0x22 :: (bytes "ssid" ++ [0x22, 0x3a]) := by decide
  have hip : bytes ",\"ip\":\"" = 0x2c :: 0x22 :: (bytes "ip" ++ [0x22, 0x3a, 0x22]) := by decide
  have hnetmask : bytes "\",\"netmask\":\"" =
      0x22 :: 0x2c :: 0x22 :: (bytes "netmask" ++ [0x22, 0x3a, 0x22]) := by decide
  have hgw : bytes "\",\"gw\":\"" = 0x22 :: 0x2c :: 0x22 :: (bytes "gw" ++ [0x22, 0x3a, 0x22]) := by
    decide
  have hurc : bytes "\",\"urc\":" = 0x22 :: 0x2c :: 0x22 :: (bytes "urc" ++ [0x22, 0x3a]) := by
    decide
  have hend : bytes "\x7d\n" = 0x7d :: bytes "\n" := by decide
  simp only [ipInfoHead, ipInfoMembers, JsonBytes.printObject, JsonBytes.printMembers,
    JsonBytes.printMember, hssid, hip, hnetmask, hgw, hurc, hend, List.append_assoc,
    List.cons_append, List.nil_append]

theorem plain_of_dotted {c : Byte} (h : JsonBytes.isDigit c = true ∨ c = 0x2e) :
    JsonBytes.plain c = true := by
  have hlo : 0x20 ≤ c.toNat := by
    rcases h with h | rfl
    · rw [JsonBytes.isDigit, Bool.and_eq_true, decide_eq_true_eq, decide_eq_true_eq] at h
      omega
    · decide
  simp only [JsonBytes.plain, Bool.and_eq_true, decide_eq_true_eq]
  exact ⟨⟨hlo, ne_of_dotted h (by decide)⟩, ne_of_dotted h (by decide)⟩

/-- The members are read back, with or without the line feed behind them. -/
theorem exists_object (s : List Byte) (reason : UpdateReason) (info : IpInfo) (k : Nat)
    (hk : (ipInfoHead s ++ (ipInfo reason info ++ bytes "\x7d\n")).length ≤ k + 1) :
    ∃ ms, JsonBytes.object ((ipInfoHead s ++ (ipInfo reason info ++ bytes "\x7d\n")).take k) =
      some ((bytes "ssid", .str s) :: ms) := by
  obtain ⟨ip, netmask, gw, hinfo, hip, hnetmask, hgw⟩ : ∃ ip netmask gw,
      ipInfo reason info = ipInfoMembers ip netmask gw reason.code ∧
        (∀ c ∈ ip, JsonBytes.plain c = true) ∧ (∀ c ∈ netmask, JsonBytes.plain c = true) ∧
          ∀ c ∈ gw, JsonBytes.plain c = true := by
    have hdotted : ∀ a : Address, ∀ c ∈ a.text, JsonBytes.plain c = true := fun a c hc =>
      plain_of_dotted (a.dotted c hc)
    by_cases hr : reason = .connectionOk
    · exact ⟨_, _, _, if_pos hr, hdotted _, hdotted _, hdotted _⟩
    · have hzero : ∀ c ∈ bytes "0", JsonBytes.plain c = true := List.all_eq_true.mp rfl
      exact ⟨_, _, _, if_neg hr, hzero, hzero, hzero⟩
  rw [hinfo, ipInfo_eq_printObject, List.length_append] at hk
  rw [hinfo, ipInfo_eq_printObject, List.take_append,
    List.take_of_length_le (Nat.le_of_succ_le_succ hk)]
  refine ⟨[(bytes "ip", .str ip), (bytes "netmask", .str netmask), (bytes "gw", .str gw),
    (bytes "urc", .int reason.code)], JsonBytes.object_printObject
      (.cons ?_ (.cons ?_ (.cons ?_ (.cons ?_ (.cons ?_ .nil))))) ?_⟩
  · exact JsonBytes.reads_str (List.all_eq_true.mp rfl) (readChars_quote s)
  · exact JsonBytes.reads_str (List.all_eq_true.mp rfl) (JsonBytes.readChars_append hip)
  · exact JsonBytes.reads_str (List.all_eq_true.mp rfl) (JsonBytes.readChars_append hnetmask)
  · exact JsonBytes.reads_str (List.all_eq_true.mp rfl) (JsonBytes.readChars_append hgw)
  · exact JsonBytes.reads_int (List.all_eq_true.mp rfl) reason.code
  · rw [List.all_eq_true]
    intro c hc
    cases List.mem_singleton.mp (List.mem_of_mem_take hc)
    rfl

/-- A text that is cut off before its closing brace is no object. -/
theorem object_take (s : List Byte) (reason : UpdateReason) (info : IpInfo) {k : Nat}
    (hhead : (ipInfoHead s).length ≤ k)
    (hk : k + 1 < (ipInfoHead s ++ (ipInfo reason info ++ bytes "\x7d\n")).length) :
    JsonBytes.object ((ipInfoHead s ++ (ipInfo reason info ++ bytes "\x7d\n")).take k) = none := by
  have hend : (bytes "\x7d\n").length = 2 := by decide
  rw [List.length_append, List.length_append, hend] at hk
  rw [List.take_append, List.take_of_length_le hhead, List.take_append_of_le_length (by omega)]
  cases hobject : JsonBytes.object
      (ipInfoHead s ++ (ipInfo reason info).take (k - (ipInfoHead s).length)) with
  | none => rfl
  | some ms =>
    obtain ⟨c, hlast, hc⟩ := JsonBytes.object_getLast hobject
    have hinner : inner c = true := by
      rw [ipInfoHead, quote, ← List.append_assoc, List.append_assoc, List.singleton_append,
        List.getLast?_append_of_ne_nil _ (List.cons_ne_nil _ _)] at hlast
      rcases List.mem_cons.mp (List.mem_of_getLast? hlast) with rfl | hmem
      · rfl
      · exact inner_ipInfo reason info c (List.mem_of_mem_take hmem)
    rcases hc with rfl | hspace
    · cases hinner
    · simp [inner, hspace] at hinner

theorem statusJson_eq (ssid : Header 32) (password : Header 64) (reason : UpdateReason)
    (info : IpInfo) :
    statusJson ssid password reason info =
      if (ipInfoHead (scanned ssid password)).length < 159 then
        some ((ipInfoHead (scanned ssid password) ++
          (ipInfo reason info ++ bytes "\x7d\n")).take 158)
      else none := by
  obtain ⟨c, hc, hs⟩ := exists_config ssid password
  have hnul : 0 ∉ scanned ssid password := by
    rw [scanned]
    split
    · exact ssid.no_nul
    · rw [List.mem_append, not_or]
      exact ⟨ssid.no_nul, password.no_nul⟩
  rw [← text_generate hs hnul, statusJson, hc]
  rfl

/-- **What a reader of the status gets**: the string that was scanned, if the text fits. -/
theorem ssidMember_statusJson (ssid : Header 32) (password : Header 64) (reason : UpdateReason)
    (info : IpInfo) :
    (statusJson ssid password reason info).bind ssidMember =
      if (scanned ssid password).length + sumEscapes (scanned ssid password) +
          addressesLength reason info ≤ 110 then
        some (scanned ssid password)
      else none := by
  generalize hs : scanned ssid password = s
  have hend : (ipInfo reason info ++ bytes "\x7d\n").length = (ipInfo reason info).length + 2 :=
    List.length_append
  have hlen : (ipInfoHead s ++ (ipInfo reason info ++ bytes "\x7d\n")).length ≤ 159 ↔
      s.length + sumEscapes s + addressesLength reason info ≤ 110 := by
    rw [List.length_append, hend, length_ipInfoHead, length_ipInfo]
    omega
  simp only [statusJson_eq, hs, ← hlen]
  by_cases hhead : (ipInfoHead s).length < 159
  · rw [if_pos hhead, Option.bind_some]
    by_cases hfits : (ipInfoHead s ++ (ipInfo reason info ++ bytes "\x7d\n")).length ≤ 159
    · obtain ⟨ms, hms⟩ := exists_object s reason info 158 hfits
      rw [if_pos hfits, ssidMember, hms]
      rfl
    · rw [if_neg hfits, ssidMember, object_take s reason info (Nat.le_of_lt_succ hhead)
        (Nat.lt_of_not_le hfits)]
      rfl
  · rw [if_neg hhead, if_neg]
    · rfl
    · rw [List.length_append]
      omega

/-! ### When the status is confidential -/

/-- **The status is confidential for exactly the SSIDs that leave room**: for their
terminator in the configuration, and for the rest of the text in `ip_info_json`. -/
theorem confidential_iff (ssid : Header 32) (reason : UpdateReason) (info : IpInfo) :
    Confidential ssid reason info ↔
      ssid.value.length < 32 ∧
        ssid.value.length + sumEscapes ssid.value + addressesLength reason info ≤ 110 := by
  constructor
  · rintro ⟨hread, -⟩
    have hread := hread ⟨bytes "a", by decide, by decide, by decide⟩
    rw [ssidMember_statusJson] at hread
    split at hread
    · rename_i hfits
      have hlt : ssid.value.length < 32 := by
        -- a reader would find the password behind the SSID
        by_contra hfull
        rw [scanned, if_neg hfull, Option.some.injEq] at hread
        exact absurd (List.append_right_eq_self.mp hread) (by decide)
      rw [scanned, if_pos hlt] at hfits
      exact ⟨hlt, hfits⟩
    · cases hread
  · rintro ⟨hlt, hfits⟩
    have hscanned : ∀ password, scanned ssid password = ssid.value := fun _ => if_pos hlt
    constructor
    · intro password
      rw [ssidMember_statusJson, hscanned, if_pos hfits]
    · intro password password'
      rw [statusJson_eq, statusJson_eq, hscanned, hscanned]

/-- An SSID of 32 bytes, in the status of a failed attempt. -/
theorem not_confidential : ¬ ∀ ssid reason info, Confidential ssid reason info := by
  intro h
  have hsame := (h ⟨List.replicate 32 0x6e, by decide, by decide, by decide⟩ .failedAttempt
    ⟨⟨[], by decide, by decide⟩, ⟨[], by decide, by decide⟩, ⟨[], by decide, by decide⟩⟩).2
      ⟨bytes "a", by decide, by decide, by decide⟩ ⟨bytes "b", by decide, by decide, by decide⟩
  revert hsame
  decide +kernel

end Datk.Wifi
