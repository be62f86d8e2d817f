import Greatws.Basic

/-!
# The client handshake

`client.go` dials a server in `DialOption.Dial`. `handshake` rewrites the URL's scheme in place
(`ws` to `http`, `wss` to `https`) and adds the RFC 6455 request headers to `d.Header`; the TCP
connection is opened and wrapped in TLS for `https`; the request is written and the response
read under a deadline; the negotiated compression is stored back into the option; and
`validateRsp` checks the response. Two deferred functions run on every return once the
connection is open: the second, registered after the deadline is set, clears the deadline when
no error is pending, and the first closes the connection when one is. `Dial` returns a nil
`*Conn` on every path.

`sha1` with `base64`, `strings.EqualFold` and `parseExtensions` are not in the sources; they are
parameters.

* `dial_closes`: `Dial` returns a nil `*Conn`, and the connection it opens is closed exactly
  when it returns an error, once, as the last thing done to it; on success it is left open;
* `dial_again`: a second `Dial` of one option fails with the unknown-scheme error before
  opening anything, whatever the first did;
* `dialConfs_offer_stays`: the compression offer a first `DialConf` adds to the option's header
  stays there, so every later `DialConf` sends it again, even once the server has refused
  compression and the option's flags are off.
-/

namespace Greatws

/-! ### Headers and extensions -/

/-- An `http.Header`, as its entries in the order they were added. -/
abbrev Header := List (String × String)

/-- `Header.Add`. -/
def Header.add (h : Header) (k v : String) : Header := h ++ [(k, v)]

/-- `Header.Get`: the first value under the key, keys compared as `textproto` canonicalizes them
(up to ASCII case), and `""` when there is none. -/
def Header.get (h : Header) (k : String) : String :=
  ((h.find? fun p => p.1.toLower == k.toLower).map Prod.snd).getD ""

/-- An extension of `Sec-WebSocket-Extensions` as `parseExtensions` returns it: its parameters by
name, with the extension's own name under `""`. -/
abbrev Extension := List (String × String)

/-- `ext[k]` of a Go map: the value, `""` when absent. -/
def Extension.get (ext : Extension) (k : String) : String := (ext.lookup k).getD ""

/-- `_, ok := ext[k]`. -/
def Extension.has (ext : Extension) (k : String) : Bool := (ext.lookup k).isSome

/-- `needDecompression` (`utils.go`, lines 63-72): some extension is `permessage-deflate`. -/
def needDecompression : List Extension → Bool
  | [] => false
  | ext :: exts => if ext.get "" ≠ "permessage-deflate" then needDecompression exts else true

/-- `maybeCompressionDecompression` (`utils.go`, lines 75-86): the first `permessage-deflate`
extension has `server_no_context_takeover` or `client_no_context_takeover`. -/
def maybeCompressionDecompression : List Extension → Bool
  | [] => false
  | ext :: exts =>
    if ext.get "" ≠ "permessage-deflate" then maybeCompressionDecompression exts
    else ext.has "server_no_context_takeover" || ext.has "client_no_context_takeover"

/-! ### The option and the world -/

/-- `strExtensions`, the compression offer. -/
def strExtensions : String :=
  "permessage-deflate; server_no_context_takeover; client_no_context_takeover"

/-- `uuid`, the GUID of RFC 6455. -/
def uuid : String := "258EAFA5-E914-47DA-95CA-C5AB0DC85B11"

/-- `defaultTimeout`, thirty minutes in nanoseconds. -/
def defaultTimeout : Int := 30 * 60 * 1000000000

/-- The fields of `DialOption` a dial reads or writes: the URL's scheme and host, the request
header, the compression flags, the `ServerName` of `tlsConfig` (`""` for a nil `tlsConfig`),
the header `bindClientHttpHeader` points to (`none` for nil), and the dial timeout. -/
structure DialOption where
  scheme : String
  host : String
  header : Header
  compression : Bool
  decompression : Bool
  tlsServerName : String
  bindClientHttpHeader : Option Header
  dialTimeout : Int
  deriving DecidableEq, Repr

/-- An HTTP response: its status code and header. -/
structure Response where
  statusCode : Nat
  header : Header
  deriving DecidableEq, Repr

/-- What the world answers a dial: the error of `http.NewRequest`, the key `secWebSocketAccept`
draws, the error of `net.Dial` and how long it took, and the answers of `SetDeadline`,
`req.Write`, `http.ReadResponse` and the `SetDeadline` that clears the deadline. -/
structure DialAnswers where
  newRequest : Option GoError
  key : String
  dial : Option GoError
  dialDuration : Int
  setDeadline : Option GoError
  write : Option GoError
  response : Except GoError Response
  clearDeadline : Option GoError

/-- What `Dial` does to the connection it opens: `net.Dial` (wrapped in TLS with a `ServerName`,
or plain), `SetDeadline`, `req.Write`, `http.ReadResponse`, the `SetDeadline` that clears the
deadline, and `Close`. -/
inductive ConnOp where
  | dial (serverName : Option String)
  | setDeadline
  | write
  | read
  | clearDeadline
  | close
  deriving DecidableEq, Repr

/-- The errors of a dial: `Unknown scheme, only supports ws:// or wss://: got ` and the scheme,
`ErrWrongStatusCode` with the code, the three sentinels of `validateRsp`, and the errors of the
calls, passed through. -/
inductive DialErr where
  | unknownScheme (scheme : String)
  | wrongStatusCode (code : Nat)
  | upgradeFieldValue
  | connectionFieldValue
  | secWebSocketAccept
  | io (e : GoError)
  deriving DecidableEq, Repr

/-- What `Dial` returns, with what it leaves: the option as the call leaves it, what it did to
the connection it opened, in order, the `*Conn` it returns (`none` for nil; the model keeps no
content of a `Conn`), and the error. -/
structure Dialed where
  option : DialOption
  ops : List ConnOp
  conn : Option Unit
  err : Option DialErr
  deriving DecidableEq, Repr

/-! ### `Dial` -/

namespace DialOption

/-- `secWebSocketAcceptVal` (`utils.go`, lines 54-60), with `hash` the `base64` of `sha1`. -/
def secWebSocketAcceptVal (hash : String → String) (val : String) : String := hash (val ++ uuid)

/-- `handshake` (lines 92-125), on the answer of `http.NewRequest` and the drawn key: the scheme
rewritten in place, then the headers added, the offer only with both compression flags on. -/
def handshake (d : DialOption) (newRequest : Option GoError) (key : String) :
    DialOption × Except DialErr String :=
  let d? := if d.scheme = "wss" then some { d with scheme := "https" }
    else if d.scheme = "ws" then some { d with scheme := "http" } else none
  match d? with
  | none => (d, .error (.unknownScheme d.scheme))
  | some d =>
    match newRequest with
    | some e => (d, .error (.io e))
    | none =>
      let h := (((d.header.add "Upgrade" "websocket").add "Connection" "Upgrade").add
        "Sec-WebSocket-Key" key).add "Sec-WebSocket-Version" "13"
      let h := if d.decompression && d.compression then h.add "Sec-WebSocket-Extensions" strExtensions
        else h
      ({ d with header := h }, .ok key)

variable (hash : String → String) (equalFold : String → String → Bool)
  (parseExtensions : Header → List Extension)

/-- `validateRsp` (lines 129-153): the first check the response fails. -/
def validateRsp (rsp : Response) (secWebSocket : String) : Option DialErr :=
  if rsp.statusCode ≠ 101 then some (.wrongStatusCode rsp.statusCode)
  else if !equalFold (rsp.header.get "Upgrade") "websocket" then some .upgradeFieldValue
  else if !equalFold (rsp.header.get "Connection") "Upgrade" then some .connectionFieldValue
  else if !equalFold (rsp.header.get "Sec-WebSocket-Accept") (secWebSocketAcceptVal hash secWebSocket)
  then some .secWebSocketAccept
  else none

/-- `tlsConn` (lines 156-176): for `https`, the TLS `ServerName`, the configured one or else the
host up to its first colon; `none` for a plain connection. -/
def tlsConn (d : DialOption) : Option String :=
  if d.scheme = "https" then
    some (if d.tlsServerName = "" then d.host.takeWhile (· ≠ ':') else d.tlsServerName)
  else none

/-- Lines 223-233, once the response is read: its header copied where `bindClientHttpHeader`
points, and each compression flag that is on set to what `maybeCompressionDecompression` says of
the response's extensions. -/
def negotiate (d : DialOption) (rsp : Response) : DialOption :=
  let d := if d.bindClientHttpHeader.isSome then { d with bindClientHttpHeader := some rsp.header }
    else d
  let cd := maybeCompressionDecompression (parseExtensions rsp.header)
  let d := if d.decompression then { d with decompression := cd } else d
  if d.compression then { d with compression := cd } else d

/-- Lines 186-237, from `net.Dial` to `validateRsp`: the option, what was done to the connection,
the error the body returns, and whether the second deferred function was registered (it is
once the deadline is set). The calls fail in the order they are made: `SetDeadline` (made only
when time is left), `req.Write`, `http.ReadResponse`. -/
def dialBody (d : DialOption) (a : DialAnswers) (secWebSocket : String) :
    DialOption × List ConnOp × Option DialErr × Bool :=
  let timed := decide (0 < d.dialTimeout - a.dialDuration)
  let ops := if timed then [ConnOp.dial (tlsConn d), .setDeadline] else [.dial (tlsConn d)]
  match (if timed then a.setDeadline else none), a.write, a.response with
  | some e, _, _ => (d, ops, some (.io e), false)
  | none, some e, _ => (d, ops ++ [.write], some (.io e), true)
  | none, none, .error e => (d, ops ++ [.write, .read], some (.io e), true)
  | none, none, .ok rsp =>
    (negotiate parseExtensions d rsp, ops ++ [.write, .read], validateRsp hash equalFold rsp secWebSocket,
      true)

/-- `Dial` (lines 178-240) on the world's answers. Its named result `c` is never assigned, so
every `return` gives a nil `*Conn`. -/
def dial (d : DialOption) (a : DialAnswers) : Dialed :=
  match handshake d a.newRequest a.key with
  | (d, .error e) => ⟨d, [], none, some e⟩
  | (d, .ok secWebSocket) =>
    match a.dial with
    | some e => ⟨d, [], none, some (.io e)⟩
    | none =>
      let (d, ops, err, clears) := dialBody hash equalFold parseExtensions d a secWebSocket
      -- the second deferred function
      let (ops, err) := if clears ∧ err = none then (ops ++ [.clearDeadline], a.clearDeadline.map .io)
        else (ops, err)
      -- the first
      ⟨d, if err.isSome then ops ++ [.close] else ops, none, err⟩

/-- `DialConf` (lines 51-65), on the parsed URL's scheme and host: the URL and the default
timeout set, the header kept, and the option dialed. -/
def dialConf (conf : DialOption) (url : Except GoError (String × String)) (a : DialAnswers) :
    Dialed :=
  match url with
  | .error e => ⟨conf, [], none, some (.io e)⟩
  | .ok (scheme, host) =>
    dial hash equalFold parseExtensions { conf with scheme := scheme, host := host, dialTimeout := defaultTimeout } a

/-! ### The connection -/

theorem dialBody_ops (d : DialOption) (a : DialAnswers) (secWebSocket : String) :
    ∃ rest, (dialBody hash equalFold parseExtensions d a secWebSocket).2.1 =
      .dial (tlsConn d) :: rest ∧ ConnOp.close ∉ rest := by
  unfold dialBody
  dsimp only
  split <;> split_ifs <;> exact ⟨_, rfl, by simp⟩

/-- **The connection is closed exactly on error.** Whatever the world answers, `Dial` returns a
nil `*Conn`, opens at most one connection, and does nothing to it once it is closed: it is
closed exactly when `Dial` returns an error after opening it, once, as the last thing done to
it. A `Dial` that returns no error leaves the connection it opened open. -/
theorem dial_closes (d : DialOption) (a : DialAnswers) :
    let r := dial hash equalFold parseExtensions d a
    r.conn = none ∧ (r.ops = [] → r.err.isSome) ∧ r.ops.count .close ≤ 1 ∧
      (ConnOp.close ∈ r.ops ↔ r.ops ≠ [] ∧ r.err.isSome) ∧
      (ConnOp.close ∈ r.ops → r.ops.getLast? = some .close) := by
  dsimp only
  unfold dial
  split
  · simp
  split
  · simp
  rename_i d₁ key _ _ _
  obtain ⟨rest, hops, hrest⟩ := dialBody_ops hash equalFold parseExtensions d₁ a key
  generalize dialBody hash equalFold parseExtensions d₁ a key = B at hops ⊢
  obtain ⟨d', ops, err, clears⟩ := B
  dsimp only at hops ⊢
  subst hops
  have hc : rest.count .close = 0 := List.count_eq_zero_of_not_mem hrest
  split_ifs <;> simp_all [List.getLast?_cons, List.getLast?_append]

/-! ### Dialing an option again -/

/-- The headers `handshake` adds, with the key drawn and whether the compression offer goes. -/
def handshakeHeaders (key : String) (offer : Bool) : Header :=
  [("Upgrade", "websocket"), ("Connection", "Upgrade"), ("Sec-WebSocket-Key", key),
    ("Sec-WebSocket-Version", "13")] ++ if offer then [("Sec-WebSocket-Extensions", strExtensions)] else []

/-- The scheme `handshake` rewrites `ws` and `wss` to. -/
def httpScheme (scheme : String) : String := if scheme = "wss" then "https" else "http"

variable {d : DialOption}

theorem handshake_ws (hs : d.scheme = "ws" ∨ d.scheme = "wss") (key : String) :
    handshake d none key =
      ({ d with
        scheme := httpScheme d.scheme
        header := d.header ++ handshakeHeaders key (d.decompression && d.compression) }, .ok key) := by
  rcases hs with hs | hs <;> cases hdc : d.decompression && d.compression <;>
    simp [handshake, httpScheme, hs, hdc, handshakeHeaders, Header.add]

theorem handshake_ws_fails (hs : d.scheme = "ws" ∨ d.scheme = "wss") (e : GoError) (key : String) :
    handshake d (some e) key = ({ d with scheme := httpScheme d.scheme }, .error (.io e)) := by
  rcases hs with hs | hs <;> simp [handshake, httpScheme, hs]

theorem handshake_other (hs : d.scheme ≠ "ws" ∧ d.scheme ≠ "wss") (newRequest : Option GoError)
    (key : String) : handshake d newRequest key = (d, .error (.unknownScheme d.scheme)) := by
  simp [handshake, hs.1, hs.2]

theorem handshake_flags (newRequest : Option GoError) (key : String) :
    (handshake d newRequest key).1.compression = d.compression ∧
      (handshake d newRequest key).1.decompression = d.decompression := by
  unfold handshake
  split_ifs <;> dsimp only <;> repeat' split
  all_goals simp

theorem negotiate_flags (rsp : Response) :
    let d' := negotiate parseExtensions d rsp
    let cd := maybeCompressionDecompression (parseExtensions rsp.header)
    d'.scheme = d.scheme ∧ d'.header = d.header ∧ d'.compression = (d.compression && cd) ∧
      d'.decompression = (d.decompression && cd) := by
  obtain ⟨scheme, host, header, c, dc, tls, bind, t⟩ := d
  cases c <;> cases dc <;> cases bind <;> simp [negotiate]

theorem dialBody_keeps (a : DialAnswers) (secWebSocket : String) :
    let d' := (dialBody hash equalFold parseExtensions d a secWebSocket).1
    d'.scheme = d.scheme ∧ d'.header = d.header ∧
      (d'.compression = true → d.compression = true) ∧
      (d'.decompression = true → d.decompression = true) := by
  unfold dialBody
  dsimp only
  split <;> try exact ⟨rfl, rfl, id, id⟩
  -- a response was read: `negotiate` sets the flags
  obtain ⟨h1, h2, h3, h4⟩ := negotiate_flags parseExtensions (d := d) ‹Response›
  refine ⟨h1, h2, fun h => ?_, fun h => ?_⟩ <;> simp_all

theorem dialBody_read {a : DialAnswers} (secWebSocket : String) (hsd : a.setDeadline = none)
    (hw : a.write = none) {rsp : Response} (hr : a.response = .ok rsp) :
    (dialBody hash equalFold parseExtensions d a secWebSocket).1 = negotiate parseExtensions d rsp := by
  unfold dialBody
  simp only [hsd, ite_self, hw, hr]

theorem dial_option {a : DialAnswers} {d₁ : DialOption} {key : String}
    (hh : handshake d a.newRequest a.key = (d₁, .ok key)) (hd : a.dial = none) :
    (dial hash equalFold parseExtensions d a).option =
      (dialBody hash equalFold parseExtensions d₁ a key).1 := by
  unfold dial
  rw [hh]
  simp only [hd]

theorem dial_keeps (a : DialAnswers) :
    let d' := (dial hash equalFold parseExtensions d a).option
    d'.header = (handshake d a.newRequest a.key).1.header ∧
      d'.scheme = (handshake d a.newRequest a.key).1.scheme ∧
      (d'.compression = true → d.compression = true) ∧
      (d'.decompression = true → d.decompression = true) := by
  have hh := handshake_flags (d := d) a.newRequest a.key
  rcases hhs : handshake d a.newRequest a.key with ⟨d₁, e | key⟩ <;> rw [hhs] at hh <;>
    simp only [dial, hhs]
  · exact ⟨trivial, trivial, hh.1 ▸ id, hh.2 ▸ id⟩
  cases a.dial
  · obtain ⟨h1, h2, h3, h4⟩ := dialBody_keeps hash equalFold parseExtensions (d := d₁) a key
    exact ⟨h2, h1, fun hc => hh.1 ▸ h3 hc, fun hc => hh.2 ▸ h4 hc⟩
  · exact ⟨rfl, rfl, hh.1 ▸ id, hh.2 ▸ id⟩

/-- **`Dial` cannot be run twice.** `handshake` rewrites the option's scheme to `http` or
`https` in place, so a second `Dial` of an option first dialed with `ws` or `wss` fails with
`Unknown scheme, only supports ws:// or wss://: got http` (or `https`) before opening a
connection and changes nothing, whatever the first `Dial` and the world did. -/
theorem dial_again (hs : d.scheme = "ws" ∨ d.scheme = "wss") (a a' : DialAnswers) :
    let d' := (dial hash equalFold parseExtensions d a).option
    d'.scheme = httpScheme d.scheme ∧
      dial hash equalFold parseExtensions d' a' =
        ⟨d', [], none, some (.unknownScheme (httpScheme d.scheme))⟩ := by
  have hsch : (dial hash equalFold parseExtensions d a).option.scheme = httpScheme d.scheme := by
    rw [(dial_keeps hash equalFold parseExtensions a).2.1]
    cases a.newRequest
    · rw [handshake_ws hs]
    · rw [handshake_ws_fails hs]
  refine ⟨hsch, ?_⟩
  have hother : (dial hash equalFold parseExtensions d a).option.scheme ≠ "ws" ∧
      (dial hash equalFold parseExtensions d a).option.scheme ≠ "wss" := by
    rw [hsch, httpScheme]
    split_ifs <;> decide
  rw [dial, handshake_other hother, hsch]

/-! ### `DialConf` again and again -/

/-- `DialConf` called again and again with one option, on each call's URL and answers. -/
def dialConfs (conf : DialOption) : List (Except GoError (String × String) × DialAnswers) → DialOption
  | [] => conf
  | (url, a) :: calls => dialConfs (dialConf hash equalFold parseExtensions conf url a).option calls

theorem dialConf_adds (c : DialOption) (url : Except GoError (String × String)) (a : DialAnswers) :
    ∃ added, (dialConf hash equalFold parseExtensions c url a).option.header = c.header ++ added ∧
      (("Sec-WebSocket-Extensions", strExtensions) ∈ added → (c.decompression && c.compression) = true) := by
  rcases url with e | ⟨scheme, host⟩
  · exact ⟨[], by simp [dialConf], by simp⟩
  simp only [dialConf]
  rw [(dial_keeps hash equalFold parseExtensions a).1]
  by_cases hs : scheme = "ws" ∨ scheme = "wss"
  · cases a.newRequest
    · rw [handshake_ws hs]
      refine ⟨_, rfl, fun h => ?_⟩
      cases hf : c.decompression && c.compression
      · simp [handshakeHeaders, hf] at h
      · rfl
    · rw [handshake_ws_fails hs]
      exact ⟨[], by simp, by simp⟩
  · rw [handshake_other (by simpa [not_or] using hs)]
    exact ⟨[], by simp, by simp⟩

theorem dialConf_flags (c : DialOption) (url : Except GoError (String × String)) (a : DialAnswers) :
    let c' := (dialConf hash equalFold parseExtensions c url a).option
    (c'.compression = true → c.compression = true) ∧ (c'.decompression = true → c.decompression = true) := by
  rcases url with e | ⟨scheme, host⟩
  · exact ⟨id, id⟩
  exact (dial_keeps hash equalFold parseExtensions a).2.2

theorem dialConfs_flags : ∀ (c : DialOption) calls,
    let c' := dialConfs hash equalFold parseExtensions c calls
    (c'.compression = true → c.compression = true) ∧ (c'.decompression = true → c.decompression = true)
  | _, [] => ⟨id, id⟩
  | c, (url, a) :: calls =>
    have h₁ := dialConf_flags hash equalFold parseExtensions c url a
    have h₂ := dialConfs_flags (dialConf hash equalFold parseExtensions c url a).option calls
    ⟨h₁.1 ∘ h₂.1, h₁.2 ∘ h₂.2⟩

theorem dialConfs_no_offer : ∀ (c : DialOption), (c.decompression && c.compression) = false →
    ∀ calls, ∃ added, (dialConfs hash equalFold parseExtensions c calls).header = c.header ++ added ∧
      ("Sec-WebSocket-Extensions", strExtensions) ∉ added
  | c, _, [] => ⟨[], by simp [dialConfs], by simp⟩
  | c, hoff, (url, a) :: calls => by
    obtain ⟨added₁, h₁, hoffer₁⟩ := dialConf_adds hash equalFold parseExtensions c url a
    have hoff' : ((dialConf hash equalFold parseExtensions c url a).option.decompression &&
        (dialConf hash equalFold parseExtensions c url a).option.compression) = false := by
      obtain ⟨hc, hd⟩ := dialConf_flags hash equalFold parseExtensions c url a
      cases h₁ : (dialConf hash equalFold parseExtensions c url a).option.decompression <;>
        cases h₂ : (dialConf hash equalFold parseExtensions c url a).option.compression <;>
        simp_all
    obtain ⟨added₂, h₂, hoffer₂⟩ := dialConfs_no_offer _ hoff' calls
    refine ⟨added₁ ++ added₂, by rw [dialConfs, h₂, h₁, List.append_assoc], ?_⟩
    rw [List.mem_append, not_or]
    exact ⟨fun h => by simp [hoffer₁ h] at hoff, hoffer₂⟩

theorem dial_refused (d : DialOption) (hs : d.scheme = "ws" ∨ d.scheme = "wss") {a : DialAnswers}
    (ha : a.newRequest = none) (hd : a.dial = none) (hsd : a.setDeadline = none) (hw : a.write = none)
    {rsp : Response} (hr : a.response = .ok rsp)
    (hcd : maybeCompressionDecompression (parseExtensions rsp.header) = false) :
    (dial hash equalFold parseExtensions d a).option.decompression = false ∧
      (dial hash equalFold parseExtensions d a).option.compression = false := by
  have hh := handshake_ws (d := d) hs a.key
  rw [← ha] at hh
  obtain ⟨-, -, hc, hdc⟩ := negotiate_flags parseExtensions (d := { d with
    scheme := httpScheme d.scheme
    header := d.header ++ handshakeHeaders a.key (d.decompression && d.compression) }) rsp
  rw [dial_option hash equalFold parseExtensions hh hd, dialBody_read hash equalFold parseExtensions _ hsd hw hr]
  simp only [hc, hdc, hcd, Bool.and_false, and_self]

theorem dialConf_header (c : DialOption) {u : String × String} (hu : u.1 = "ws" ∨ u.1 = "wss")
    {a : DialAnswers} (ha : a.newRequest = none) :
    (dialConf hash equalFold parseExtensions c (.ok u) a).option.header =
      c.header ++ handshakeHeaders a.key (c.decompression && c.compression) := by
  simp only [dialConf]
  rw [(dial_keeps hash equalFold parseExtensions a).1, ha, handshake_ws hu]

/-- **A refused offer is sent again.** `handshake` adds the compression offer to the option's
own header, and `DialConf` keeps that header. After a `DialConf` of an option with both
compression flags on, whose server reads the request and answers without accepting compression,
the flags are off; along every later sequence of `DialConf` calls they stay off, and the
option's header, which every later handshake sends, still holds the first call's headers with
its offer, followed by what the later calls add, none of which is an offer. -/
theorem dialConfs_offer_stays (conf : DialOption)
    (hon : (conf.decompression && conf.compression) = true) {u : String × String}
    (hu : u.1 = "ws" ∨ u.1 = "wss") {a : DialAnswers} (ha : a.newRequest = none)
    (hd : a.dial = none) (hsd : a.setDeadline = none) (hw : a.write = none) {rsp : Response}
    (hr : a.response = .ok rsp)
    (hcd : maybeCompressionDecompression (parseExtensions rsp.header) = false)
    (calls : List (Except GoError (String × String) × DialAnswers)) :
    let c := dialConfs hash equalFold parseExtensions
      (dialConf hash equalFold parseExtensions conf (.ok u) a).option calls
    c.decompression = false ∧ c.compression = false ∧
      ∃ added, c.header = conf.header ++ handshakeHeaders a.key true ++ added ∧
        ("Sec-WebSocket-Extensions", strExtensions) ∉ added := by
  obtain ⟨hdc₁, hc₁⟩ := dial_refused hash equalFold parseExtensions
    { conf with scheme := u.1, host := u.2, dialTimeout := defaultTimeout } hu ha hd hsd hw hr hcd
  have hoff : ((dialConf hash equalFold parseExtensions conf (.ok u) a).option.decompression &&
      (dialConf hash equalFold parseExtensions conf (.ok u) a).option.compression) = false := by
    simp [dialConf, hdc₁]
  obtain ⟨added, hadd, hno⟩ := dialConfs_no_offer hash equalFold parseExtensions _ hoff calls
  obtain ⟨hc, hdc⟩ := dialConfs_flags hash equalFold parseExtensions
    (dialConf hash equalFold parseExtensions conf (.ok u) a).option calls
  refine ⟨Bool.eq_false_iff.2 fun h => ?_, Bool.eq_false_iff.2 fun h => ?_, added, ?_, hno⟩
  · simpa [dialConf, hdc₁] using hdc h
  · simpa [dialConf, hc₁] using hc h
  · rw [hadd, dialConf_header hash equalFold parseExtensions _ hu ha]
    simp only [hon]

/-- A `ws` option with both flags on, whose first server answers without extensions, dialed once
more. -/
theorem dialConfs_offer_stays_ws :
    let conf : DialOption := ⟨"", "", [], true, true, "", none, 0⟩
    let a : DialAnswers := ⟨none, "dGhlIHNhbXBsZSBub25jZQ==", none, 0, none, none, .ok ⟨101, []⟩, none⟩
    let c := dialConfs id (fun _ _ => true) (fun _ => [])
      (dialConf id (fun _ _ => true) (fun _ => []) conf (.ok ("ws", "example.com")) a).option
      [(.ok ("ws", "example.com"), a)]
    c.decompression = false ∧ c.compression = false ∧
      ∃ added, c.header = conf.header ++ handshakeHeaders a.key true ++ added ∧
        ("Sec-WebSocket-Extensions", strExtensions) ∉ added :=
  dialConfs_offer_stays id (fun _ _ => true) (fun _ => []) ⟨"", "", [], true, true, "", none, 0⟩
    rfl (.inl rfl) rfl rfl rfl rfl rfl rfl _

end DialOption

end Greatws
