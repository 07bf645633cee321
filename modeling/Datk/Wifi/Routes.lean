import Datk.Lib.Buffer
import Datk.Wifi.Manager
import Datk.Wifi.Server

/-!
# What the web server answers

The handlers of `common/wifi_manager/src/http_app.c` compare the path of a request with
the strings that `http_app_start` has generated.  Before that, the handler of `GET` sends
a client to the access point whose `Host` is neither the access point nor the station: with
the fake DNS, that is how any page leads to the portal.

`allocate_eq` says that the strings fit in what is allocated for them, `route_eq_iff` that
no string hides another one, and `index_of_redirect` that a redirection leads to the
first page and to nothing else.
-/

namespace Datk.Wifi.Portal

open Lib
open Server (Site Url Method)

/-! ### The strings -/

/-- `http_app_generate_url`, on memory that is zero after `memset`. -/
def httpAppGenerateUrl (c : Site) (page : String) : Option Text := do
  let b ← (Buffer.fill (c.webappLocation.length + 1 + (page.toList.length + 1)) '\x00').sprintf
    '\x00' c.webappLocation
  let b ← b.strcat '\x00' page.toList
  b.text '\x00'

/-- What `http_app_start` stores, in memory that it has just allocated. -/
def allocate (c : Site) : Url → Option Text
  | .root => do
    let b ← (Buffer.fill (c.webappLocation.length + 1) '\x00').sprintf '\x00' c.webappLocation
    b.text '\x00'
  | .redirect => do
    let b ← (Buffer.fill (22 + c.webappLocation.length + 1) '\x00').sprintf '\x00' []
    let b ← b.snprintf '\x00' 0 (22 + c.webappLocation.length + 1)
      ("http://".toList ++ c.defaultApIp ++
        if c.webappLocation.length = 1 then [] else c.webappLocation)
    b.text '\x00'
  | .js => httpAppGenerateUrl c "code.js"
  | .css => httpAppGenerateUrl c "style.css"
  | .connect => httpAppGenerateUrl c "connect.json"
  | .ap => httpAppGenerateUrl c "ap.json"
  | .status => httpAppGenerateUrl c "status.json"

/-- The settings are C strings, and `DEFAULT_AP_IP` is an address. -/
structure Proper (c : Site) : Prop where
  location : '\x00' ∉ c.webappLocation
  address : '\x00' ∉ c.defaultApIp ∧ '/' ∉ c.defaultApIp
  length_le : c.defaultApIp.length ≤ 15

instance (c : Site) : Decidable (Proper c) :=
  decidable_of_iff
    ('\x00' ∉ c.webappLocation ∧ ('\x00' ∉ c.defaultApIp ∧ '/' ∉ c.defaultApIp) ∧
      c.defaultApIp.length ≤ 15)
    ⟨fun h => ⟨h.1, h.2.1, h.2.2⟩, fun h => ⟨h.location, h.address, h.length_le⟩⟩

variable {c : Site}

theorem httpAppGenerateUrl_eq (h : Proper c) {page : String} (hpage : '\x00' ∉ page.toList) :
    httpAppGenerateUrl c page = some (c.webappLocation ++ page.toList) := by
  have hloc : c.webappLocation.length < c.webappLocation.length + 1 + (page.toList.length + 1) := by
    omega
  have hboth : (c.webappLocation ++ page.toList).length <
      c.webappLocation.length + 1 + (page.toList.length + 1) := by
    rw [List.length_append]
    omega
  obtain ⟨b, hb, ht⟩ := Buffer.text_sprintf (b := .fill _ '\x00') h.location hloc
  obtain ⟨b', hb', ht'⟩ := Buffer.text_strcat ht hpage hboth
  simp only [httpAppGenerateUrl, Option.bind_eq_bind, hb, Option.bind_some, hb', ht']

/-- The redirection is not cut off. -/
theorem text_redirect (h : Proper c) : c.text .redirect = "http://".toList ++ c.defaultApIp ++
    if c.webappLocation.length = 1 then [] else c.webappLocation := by
  refine List.take_of_length_le ?_
  have hscheme : "http://".toList.length = 7 := rfl
  have haddress := h.length_le
  rw [List.length_append, List.length_append, hscheme]
  split
  · rw [List.length_nil]
    omega
  · omega

/-- **The strings fit**, and are what the handlers compare with. -/
theorem allocate_eq (h : Proper c) (u : Url) : allocate c u = some (c.text u) := by
  have hpage : ∀ page : String, '\x00' ∉ page.toList →
      httpAppGenerateUrl c page = some (c.httpAppGenerateUrl page) := fun page hnul =>
    httpAppGenerateUrl_eq h hnul
  cases u with
  | root =>
    obtain ⟨b, hb, ht⟩ := Buffer.text_sprintf (b := .fill (c.webappLocation.length + 1) '\x00')
      h.location (Nat.lt_succ_self _)
    simp only [allocate, Option.bind_eq_bind, hb, Option.bind_some, ht, Site.text]
  | redirect =>
    have hnul : '\x00' ∉ "http://".toList ++ c.defaultApIp ++
        if c.webappLocation.length = 1 then [] else c.webappLocation := by
      rw [List.mem_append, List.mem_append, not_or, not_or]
      refine ⟨⟨by decide, h.address.1⟩, ?_⟩
      split
      · exact List.not_mem_nil
      · exact h.location
    obtain ⟨b, hb, ht⟩ := Buffer.text_sprintf
      (b := .fill (22 + c.webappLocation.length + 1) '\x00') (s := []) List.not_mem_nil
      (Nat.succ_pos _)
    have hsnprintf := Buffer.snprintf_bind_text ht hnul
    simp only [List.length_nil, Nat.sub_zero, List.nil_append] at hsnprintf
    simp only [allocate, Option.bind_eq_bind, hb, Option.bind_some]
    exact hsnprintf
  | js => exact hpage "code.js" (by decide)
  | css => exact hpage "style.css" (by decide)
  | connect => exact hpage "connect.json" (by decide)
  | ap => exact hpage "ap.json" (by decide)
  | status => exact hpage "status.json" (by decide)

/-! ### A request -/

/-- A request; a header that is absent is empty. -/
structure Request where
  method : Method
  uri : Text
  host : Text
  /-- Whether `httpd_req_get_hdr_value_str` gets the header `Host`. -/
  hostRead : Bool
  /-- `X-Custom-ssid` and `X-Custom-pwd`. -/
  config : Config
  deriving DecidableEq, Repr

/-- The variable `host`. -/
def Request.hostString (r : Request) : Option Text :=
  if r.host = [] then none else some (if r.hostRead then r.host else [])

/-- Whether `strstr(s, t)` is not `NULL`. -/
def strstr : Text → Text → Bool
  | [], t => t.isEmpty
  | ch :: s, t => t.isPrefixOf (ch :: s) || strstr s t

theorem strstr_iff : ∀ s t : Text, strstr s t = true ↔ t <:+: s := by
  intro s t
  induction s with
  | nil => rw [strstr, List.isEmpty_iff, List.infix_nil]
  | cons ch s ih =>
    rw [strstr, Bool.or_eq_true, List.isPrefixOf_iff_prefix, ih, List.infix_cons_iff]

/-- `access_from_sta_ip`. -/
def Request.accessFromStaIp (r : Request) (staIp : Text) : Bool :=
  match r.hostString with
  | some host => strstr host staIp
  | none => false

/-- The branches of the three handlers. -/
inductive Route
  | redirect
  | index
  | codeJs
  | styleCss
  | apJson
  | statusJson
  | customGet
  /-- `POST` of the header for `connect.json`. -/
  | connect (config : Config)
  | badRequest
  | customPost
  | disconnect
  | notFound
  deriving DecidableEq, Repr

/-- `http_server_get_handler`. -/
def routeGet (c : Site) (r : Request) (accessFromStaIp : Bool) : Route :=
  if (r.hostString.any fun host => !strstr host c.defaultApIp) && !accessFromStaIp then .redirect
  else if r.uri = c.text .root then .index
  else if r.uri = c.text .js then .codeJs
  else if r.uri = c.text .css then .styleCss
  else if r.uri = c.text .ap then .apJson
  else if r.uri = c.text .status then .statusJson
  else .customGet

/-- `http_server_post_handler`. -/
def routePost (c : Site) (r : Request) : Route :=
  if r.uri = c.text .connect then if r.config.Accepted then .connect r.config else .badRequest
  else .customPost

/-- `http_server_delete_handler`. -/
def routeDelete (c : Site) (r : Request) : Route :=
  if r.uri = c.text .connect then .disconnect else .notFound

def route (c : Site) (r : Request) (accessFromStaIp : Bool) : Route :=
  match r.method with
  | .get => routeGet c r accessFromStaIp
  | .post => routePost c r
  | .delete => routeDelete c r

/-! ### An answer -/

structure Response where
  status : String
  contentType : Option String
  headers : List (String × Text)
  body : List Byte
  deriving DecidableEq

/-- A status, and nothing else. -/
def Response.bare (status : String) : Response := ⟨status, none, [], []⟩

/-- JSON that is not to be cached. -/
def Response.json (body : List Byte) : Response where
  status := "200 OK"
  contentType := some "application/json"
  headers := [("Cache-Control", "no-store, no-cache, must-revalidate, max-age=0".toList),
    ("Pragma", "no-cache".toList)]
  body := body

/-- The embedded files, and the handlers that a user may set. -/
structure Pages where
  indexHtml : List Byte
  codeJs : List Byte
  styleCss : List Byte
  customGet : Option (Request → Response)
  customPost : Option (Request → Response)

def Response.custom (r : Request) : Option (Request → Response) → Response
  | some handler => handler r
  | none => .bare "404 Not Found"

/-- The answer of a branch that waits for no lock. -/
def respond (c : Site) (p : Pages) (r : Request) : Route → Option Response
  | .redirect => some ⟨"302 Found", none, [("Location", c.text .redirect)], []⟩
  | .index => some ⟨"200 OK", some "text/html", [], p.indexHtml⟩
  | .codeJs => some ⟨"200 OK", some "text/javascript", [], p.codeJs⟩
  | .styleCss =>
    some ⟨"200 OK", some "text/css", [("Cache-Control", "public, max-age=31536000".toList)],
      p.styleCss⟩
  | .customGet => some (.custom r p.customGet)
  | .customPost => some (.custom r p.customPost)
  | .badRequest => some (.bare "400 Bad Request")
  | .disconnect => some (.json [])
  | .notFound => some (.bare "404 Not Found")
  | .apJson | .statusJson | .connect _ => none

/-! ### No string hides another one -/

/-- The pages that `GET` knows, and their strings. -/
def Route.url : Route → Option Url
  | .index => some .root
  | .codeJs => some .js
  | .styleCss => some .css
  | .apJson => some .ap
  | .statusJson => some .status
  | _ => none

/-- What the string of a page has behind `WEBAPP_LOCATION`. -/
def page : Url → Text
  | .root => []
  | .js => "code.js".toList
  | .css => "style.css".toList
  | .connect => "connect.json".toList
  | .ap => "ap.json".toList
  | .status => "status.json".toList
  | .redirect => []

theorem text_eq_page {p : Route} {u : Url} (hp : p.url = some u) :
    c.text u = c.webappLocation ++ page u := by
  cases p with
  | index =>
    cases hp
    exact (List.append_nil _).symm
  | codeJs | styleCss | apJson | statusJson =>
    cases hp
    rfl
  | _ => cases hp

/-- The pages have different strings. -/
theorem eq_of_text {p q : Route} {u w : Url} (hp : p.url = some u) (hq : q.url = some w)
    (h : c.text u = c.text w) : p = q := by
  rw [text_eq_page hp, text_eq_page hq, List.append_cancel_left_eq] at h
  cases p <;> cases hp <;> cases q <;> cases hq <;> first | rfl | (revert h; decide)

/-- A client that is not sent away gets the page with the string that it asks for. -/
theorem routeGet_cases (c : Site) (r : Request) (access : Bool) :
    routeGet c r access = .redirect ∨
      (∃ u, (routeGet c r access).url = some u ∧ r.uri = c.text u) ∨
      routeGet c r access = .customGet ∧ ∀ p : Route, ∀ u, p.url = some u → r.uri ≠ c.text u := by
  unfold routeGet
  split
  · exact .inl rfl
  · split
    · exact .inr (.inl ⟨.root, rfl, ‹_›⟩)
    · split
      · exact .inr (.inl ⟨.js, rfl, ‹_›⟩)
      · split
        · exact .inr (.inl ⟨.css, rfl, ‹_›⟩)
        · split
          · exact .inr (.inl ⟨.ap, rfl, ‹_›⟩)
          · split
            · exact .inr (.inl ⟨.status, rfl, ‹_›⟩)
            · refine .inr (.inr ⟨rfl, fun p u hp => ?_⟩)
              cases p <;> cases hp <;> assumption

/-- **Each page has its own path**, wherever the portal is located: it fits in what
`http_app_start` has allocated for it, is stored whole, and leads to that page and to no other
one. -/
theorem route_eq_iff (h : Proper c) {r : Request} {access : Bool} (hr : r.method = .get)
    (hstay : route c r access ≠ .redirect) {p : Route} {u : Url} (hp : p.url = some u) :
    allocate c u = some (c.text u) ∧ (route c r access = p ↔ r.uri = c.text u) := by
  refine ⟨allocate_eq h u, ?_⟩
  rw [route, hr] at hstay ⊢
  rcases routeGet_cases c r access with hredirect | ⟨w, hw, huri⟩ | ⟨hcustom, hother⟩
  · exact absurd hredirect hstay
  · rw [huri]
    constructor
    · rintro rfl
      rw [Option.some.inj (hw.symm.trans hp)]
    · intro htext
      exact eq_of_text hw hp htext
  · refine iff_of_false ?_ (hother p u hp)
    rw [hcustom]
    rintro rfl
    cases hp

/-- A portal that is not at the root. -/
theorem route_eq_iff_relocated :
    allocate ⟨"/wifimanager/".toList, "10.10.0.1".toList⟩ .ap =
        some ("/wifimanager/".toList ++ "ap.json".toList) ∧
      (route ⟨"/wifimanager/".toList, "10.10.0.1".toList⟩
          ⟨.get, "/wifimanager/ap.json".toList, "10.10.0.1".toList, true, .zero⟩ false =
            .apJson ↔
        "/wifimanager/ap.json".toList = "/wifimanager/".toList ++ "ap.json".toList) :=
  route_eq_iff (by decide) (u := .ap)
    (r := ⟨.get, "/wifimanager/ap.json".toList, "10.10.0.1".toList, true, .zero⟩)
    rfl (by decide +kernel) rfl

/-! ### The redirection -/

/-- What an URL has between its scheme and its path, -/
def authority (rest : Text) : Text := rest.takeWhile (· ≠ '/')

/-- and its path. -/
def path (rest : Text) : Text :=
  if rest.dropWhile (· ≠ '/') = [] then ['/'] else rest.dropWhile (· ≠ '/')

/-- The host and the path that a client asks for when it is sent to an URL. -/
def follow (url : Text) : Option (Text × Text) :=
  if "http://".toList <+: url then
    some (authority (url.drop "http://".toList.length), path (url.drop "http://".toList.length))
  else none

theorem follow_redirect (h : Proper c) (hloc : c.webappLocation.head? = some '/') :
    follow (c.text .redirect) = some (c.defaultApIp, c.webappLocation) := by
  obtain ⟨tail, htail⟩ := List.head?_eq_some_iff.mp hloc
  have hslash : ∀ x ∈ c.defaultApIp, decide (x ≠ '/') = true := by
    intro x hx
    exact decide_eq_true fun hxs => h.address.2 (hxs ▸ hx)
  rw [text_redirect h, List.append_assoc, follow, if_pos (List.prefix_append _ _), List.drop_left,
    authority, path]
  by_cases hlen : c.webappLocation.length = 1
  · have hnil : tail = [] := by
      rw [htail, List.length_cons] at hlen
      exact List.eq_nil_of_length_eq_zero (by omega)
    rw [if_pos hlen, List.append_nil, List.takeWhile_eq_self_iff.mpr hslash,
      List.dropWhile_eq_nil_iff.mpr hslash, if_pos rfl, htail, hnil]
  · rw [if_neg hlen, List.takeWhile_append_of_pos hslash, List.dropWhile_append_of_pos hslash,
      htail]
    simp

/-- **A redirection leads to the first page**, and is not followed by another one. -/
theorem index_of_redirect (h : Proper c) (hloc : c.webappLocation.head? = some '/') (p : Pages)
    {r : Request} {access : Bool} {answer : Response} (hr : route c r access = .redirect)
    (hanswer : respond c p r (route c r access) = some answer) :
    ∃ url host path, ("Location", url) ∈ answer.headers ∧ follow url = some (host, path) ∧
      ∀ r' : Request, r'.method = .get → r'.host = host → r'.hostRead = true → r'.uri = path →
        ∀ access', respond c p r' (route c r' access') =
          some ⟨"200 OK", some "text/html", [], p.indexHtml⟩ := by
  rw [hr] at hanswer
  cases hanswer
  refine ⟨c.text .redirect, c.defaultApIp, c.webappLocation, List.mem_singleton_self _,
    follow_redirect h hloc, ?_⟩
  intro r' hget hhost hread huri access'
  have hstay : (r'.hostString.any fun host => !strstr host c.defaultApIp) = false := by
    rw [Request.hostString, hread, hhost]
    by_cases hempty : c.defaultApIp = []
    · rw [if_pos hempty]
      rfl
    · have hself := (strstr_iff c.defaultApIp c.defaultApIp).mpr List.infix_rfl
      rw [if_neg hempty, if_pos rfl, Option.any_some, hself, Bool.not_true]
  have hroot : r'.uri = c.text .root := huri
  rw [route, hget, routeGet, hstay, Bool.false_and, if_neg Bool.false_ne_true, if_pos hroot,
    respond]

/-- A phone that looks whether it is online. -/
def phone : Request where
  method := .get
  uri := "/generate_204".toList
  host := "phone.test".toList
  hostRead := true
  config := .zero

/-- The portal as it is configured. -/
def site : Site := ⟨['/'], "10.10.0.1".toList⟩

theorem index_of_redirect_phone : ∃ url host path, follow url = some (host, path) ∧
    ∀ access', respond site ⟨[], [], [], none, none⟩ ⟨.get, path, host, true, .zero⟩
        (route site ⟨.get, path, host, true, .zero⟩ access') =
      some ⟨"200 OK", some "text/html", [], []⟩ := by
  have hroute : route site phone false = .redirect := by decide +kernel
  have hanswer : respond site ⟨[], [], [], none, none⟩ phone (route site phone false) =
      some ⟨"302 Found", none, [("Location", site.text .redirect)], []⟩ := by
    decide +kernel
  obtain ⟨url, host, path, -, hfollow, hindex⟩ :=
    index_of_redirect (by decide) rfl _ hroute hanswer
  exact ⟨url, host, path, hfollow, hindex ⟨.get, path, host, true, .zero⟩ rfl rfl rfl rfl⟩

end Datk.Wifi.Portal
