import Karpacz.Server.Tls

/-!
# `server_event_loop` up to the accept loop

Before it accepts a connection, `server_event_loop` (server.rs 243-896) goes through its
start-up in order: an error loading the modules, the configuration's validation, the
TLS set-up of `Karpacz.Server.Tls`, client authentication, and the listeners. Each
failure sends one error record and ends the loop with an error of the same text, with
three exceptions: the provider's installation and `WebPkiClientVerifier`'s `build()?`
return their error without a record, and `rustls` panics.

With `useClientCertificate: true` the roots are the native certificate store's: a load
error, or a certificate the store refuses, ends start-up. An empty store is not caught
there, and `build()` then refuses to make a verifier without a root.

The HTTP address is `[::]:80`, or `[::]:port` for an integer `port`, or `port` itself
parsed as a socket address when it is a string. The HTTPS address is `[::]:443`, or
`[::]:sport` for an integer `sport`; when `sport` is not an integer the source reads
`port` again, as a string, so a string `sport` is never read. `secure` turns the HTTPS
listener on, and only when `secure` is a boolean is `disableNonEncryptedServer` read,
which turns the HTTP listener off. The listeners are bound HTTP first; with neither,
the accept loop logs "No server is listening" and ends.

What start-up reads from outside `src/` (the modules' validators, the native
certificate store, `SocketAddr`'s parser, `bind`) is a parameter, `StartupEnv`.
-/

namespace Karpacz

/-- What the rest of `server_event_loop` reads from outside `src/`. -/
structure StartupEnv where
  /-- `module_error`: the text of an error loading the modules. -/
  moduleError : Option String
  /-- `prepare_config_for_validation`, then `validate_config` and each module's validation
  function on each part of the configuration, in order: the first error's text. -/
  validation : Except String Unit
  /-- The certificate files and the provider's installation. -/
  tls : TlsEnv
  /-- `load_native_certs().certs`, each kept as what `RootCertStore::add` makes of it. -/
  nativeCerts : List (Except String Unit)
  /-- `load_native_certs().errors`. -/
  nativeCertErrors : List String
  /-- `str::parse::<SocketAddr>`. -/
  parseSocketAddr : String → Option SocketAddr
  /-- `TcpListener::bind(address)` while the listeners on `bound` are open: the text of its
  error on failure. -/
  bind : List SocketAddr → SocketAddr → Except String Unit

/-- How start-up ends. -/
inductive ServerOutcome
  /-- The accept loop runs on these listeners, serving TLS for these versions, offering
  these ALPN protocols, and asking for a client certificate or not. -/
  | listening (listener listenerTls : Option SocketAddr) (versions : List ProtocolVersion)
      (alpnProtocols : List String) (clientAuth : Bool)
  /-- `server_event_loop` returns this error. -/
  | failed (message : String)
  /-- A panic in `rustls`. -/
  | panicked (message : String)
  deriving DecidableEq

/-- What start-up sends to the log channel, and how it ends. -/
structure ServerRun where
  logs : List LogMessage
  outcome : ServerOutcome
  deriving DecidableEq

/-- A failure that is logged: one error record, then the error with the same text. -/
def ServerRun.logged (message : String) : ServerRun := ⟨[⟨message, true⟩], .failed message⟩

/-! ## Client authentication -/

/-- The `for cert in certs` loop: the number of roots added, or the first refusal. -/
def addRoots : List (Except String Unit) → Except String Nat
  | [] => .ok 0
  | .error err :: _ => .error ("Couldn't load add a certificate to the certificate store: " ++ err)
  | .ok () :: certs => (addRoots certs).map (· + 1)

/-- Modelled from `rustls`: `WebPkiClientVerifier::builder(roots).build()`, with no CRL,
fails only on a store without a root. -/
def buildClientVerifier (roots : Nat) : Except String Unit :=
  if roots = 0 then .error "no root trust anchors were provided" else .ok ()

/-- `tls_config_builder_wants_server_cert`: whether a client verifier is set. The verifier's
`build()?` returns its error without a record. -/
def configureClientAuth (env : StartupEnv) (global : Yaml) : Except ServerRun Bool :=
  match (global.index "useClientCertificate").asBool with
  | some true =>
    match env.nativeCertErrors with
    | err :: _ => .error (.logged ("Couldn't load the native certificate store: " ++ err))
    | [] =>
      match addRoots env.nativeCerts with
      | .error err => .error (.logged err)
      | .ok roots =>
        match buildClientVerifier roots with
        | .error err => .error ⟨[], .failed err⟩
        | .ok () => .ok true
  | _ => .ok false

/-! ## Listeners -/

/-- `Ipv6Addr::new(0, 0, 0, 0, 0, 0, 0, 0)`. -/
def unspecifiedV6 : IpAddr := ⟨"::", by decide⟩

/-- `read_port.try_into()`, from `i64` to `u16`. -/
def portOfI64 (readPort : Int) : Option UInt16 :=
  if 0 ≤ readPort ∧ readPort < 2 ^ 16 then some readPort.toNat.toUInt16 else none

/-- How both addresses are read: an integer under `intKey` is a port on `[::]`, else a
string under `strKey` is parsed as a socket address, else the default port on `[::]`.
A bad value is logged as `invalid`. -/
def listenAddress (env : StartupEnv) (global : Yaml) (intKey strKey : String)
    (defaultPort : UInt16) (invalid : String) : Except ServerRun SocketAddr :=
  match (global.index intKey).asI64 with
  | some readPort =>
    match portOfI64 readPort with
    | some port => .ok ⟨unspecifiedV6, port⟩
    | none => .error (.logged invalid)
  | none =>
    match (global.index strKey).asStr with
    | some readPort =>
      match env.parseSocketAddr readPort with
      | some addr => .ok addr
      | none => .error (.logged invalid)
    | none => .ok ⟨unspecifiedV6, defaultPort⟩

/-- `addr`: `port`, as an integer or as a string. -/
def httpAddress (env : StartupEnv) (global : Yaml) : Except ServerRun SocketAddr :=
  listenAddress env global "port" "port" 80 "Invalid HTTP port"

/-- `addr_tls`: `sport` as an integer, else `port` as a string, as the source reads it. -/
def httpsAddress (env : StartupEnv) (global : Yaml) : Except ServerRun SocketAddr :=
  listenAddress env global "sport" "port" 443 "Invalid HTTPS port"

/-- `tls_enabled` and `non_tls_disabled`. -/
def listenerFlags (global : Yaml) : Bool × Bool :=
  match (global.index "secure").asBool with
  | some readTlsEnabled =>
    (readTlsEnabled, ((global.index "disableNonEncryptedServer").asBool).getD false)
  | none => (false, false)

/-- `tls_config.alpn_protocols`: `h2` first when `enableHTTP2` is true. -/
def alpnProtocols (global : Yaml) : List String :=
  if (global.index "enableHTTP2").asBool = some true then ["h2", "http/1.1", "http/1.0"]
  else ["http/1.1", "http/1.0"]

/-- Binding one listener when it is enabled, the listeners on `bound` being open. -/
def bindListener (env : StartupEnv) (bound : List SocketAddr) (enabled : Bool)
    (addr : SocketAddr) (cannotListen : String) : Except ServerRun (Option SocketAddr) :=
  if enabled then
    match env.bind bound addr with
    | .error err => .error (.logged (cannotListen ++ err))
    | .ok () => .ok (some addr)
  else .ok none

/-- From the addresses to the first turn of the accept loop. -/
def listen (env : StartupEnv) (global : Yaml) (versions : List ProtocolVersion)
    (clientAuth : Bool) : ServerRun :=
  match httpAddress env global with
  | .error run => run
  | .ok addr =>
    match httpsAddress env global with
    | .error run => run
    | .ok addrTls =>
      match bindListener env [] (!(listenerFlags global).2) addr "Cannot listen to HTTP port: " with
      | .error run => run
      | .ok listener =>
        match bindListener env listener.toList (listenerFlags global).1 addrTls
            "Cannot listen to HTTPS port: " with
        | .error run => run
        | .ok listenerTls =>
          if listener.isNone && listenerTls.isNone then .logged "No server is listening"
          else ⟨[], .listening listener listenerTls versions (alpnProtocols global) clientAuth⟩

/-! ## Start-up -/

/-- `server_event_loop` up to its first accepted connection. -/
def serverEventLoop (env : StartupEnv) (global : Yaml) : ServerRun :=
  match env.moduleError with
  | some moduleError => .logged moduleError
  | none =>
    match env.validation with
    | .error err => .logged ("Server configuration validation failed: " ++ err)
    | .ok () =>
      let tls := configureTls env.tls global
      match tls.outcome with
      | .failed message => ⟨tls.logs, .failed message⟩
      | .panicked message => ⟨tls.logs, .panicked message⟩
      | .wantsVerifier versions =>
        match configureClientAuth env global with
        | .error run => run
        | .ok clientAuth => listen env global versions clientAuth

end Karpacz
