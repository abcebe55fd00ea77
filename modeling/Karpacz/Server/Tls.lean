import Karpacz.Pipeline.Env

/-!
# The TLS set-up of `server_event_loop`

Before it binds a listener, `server_event_loop` builds the TLS configuration from the
`global` section (server.rs 320-575). It starts from the `aws-lc-rs` provider's
defaults and replaces the cipher suites with the suites the `cipherSuite` list names
and the key-exchange groups with the groups the `ecdhCurve` list names; an entry that is
not a string is skipped, and an unknown name ends start-up. It loads the fallback
certificate and every SNI certificate, installs the provider as the process default,
and asks `rustls` for a builder twice: `ServerConfig::builder()`, for the default
versions TLS 1.3 and TLS 1.2, and then `builder_with_protocol_versions` for the versions
that `tlsMinVersion` and `tlsMaxVersion` select.

Both builder calls `unwrap` the result of `ConfigBuilder::with_protocol_versions`. That
fails when no cipher suite of the provider belongs to one of the versions, when there is
no key-exchange group, and when some suite can use none of the groups, and a failure
there is a panic. Every other failure sends one error record to the log channel and ends
start-up with an error of the same text, except a failure to install the provider,
which is not logged.

The types and checks of `rustls` are modelled from `rustls` 0.23 with the `aws-lc-rs`
provider, since they are not under `src/`. Certificates and keys are kept only as far as
start-up looks at them: whether loading them succeeds, and the text of the error.
-/

namespace Karpacz

/-- `rustls::SupportedProtocolVersion`. -/
inductive ProtocolVersion
  | tls12 | tls13
  deriving DecidableEq

/-- `rustls::crypto::KeyExchangeAlgorithm`. -/
inductive KeyExchangeAlgorithm
  | dhe | ecdhe
  deriving DecidableEq

/-- The cipher suites of `aws_lc_rs::cipher_suite` that `cipherSuite` can name. -/
inductive CipherSuite
  | tls13Aes128GcmSha256 | tls13Aes256GcmSha384 | tls13Chacha20Poly1305Sha256
  | tlsEcdheEcdsaWithAes128GcmSha256 | tlsEcdheEcdsaWithAes256GcmSha384
  | tlsEcdheEcdsaWithChacha20Poly1305Sha256
  | tlsEcdheRsaWithAes128GcmSha256 | tlsEcdheRsaWithAes256GcmSha384
  | tlsEcdheRsaWithChacha20Poly1305Sha256
  deriving DecidableEq

namespace CipherSuite

/-- `SupportedCipherSuite::version`. -/
def version : CipherSuite → ProtocolVersion
  | tls13Aes128GcmSha256 | tls13Aes256GcmSha384 | tls13Chacha20Poly1305Sha256 => .tls13
  | _ => .tls12

/-- `SupportedCipherSuite::key_exchange_algorithms`: a TLS 1.3 suite works with every
algorithm, a TLS 1.2 `ECDHE` suite with `ECDHE` only. -/
def keyExchangeAlgorithms (suite : CipherSuite) : List KeyExchangeAlgorithm :=
  match suite.version with
  | .tls13 => [.ecdhe, .dhe]
  | .tls12 => [.ecdhe]

end CipherSuite

/-- The key-exchange groups of `aws_lc_rs::kx_group` that `ecdhCurve` can name. -/
inductive KxGroup
  | mlkem768 | secp256r1 | secp384r1 | x25519 | x25519mlkem768
  deriving DecidableEq

/-- `NamedGroup::key_exchange_algorithm`: only the finite-field groups are `DHE`. -/
def KxGroup.keyExchangeAlgorithm (_ : KxGroup) : KeyExchangeAlgorithm := .ecdhe

/-- The parts of a `CryptoProvider` start-up changes. -/
structure CryptoProvider where
  cipherSuites : List CipherSuite
  kxGroups : List KxGroup
  deriving DecidableEq

/-- `aws_lc_rs::default_provider()`: `DEFAULT_CIPHER_SUITES` and `DEFAULT_KX_GROUPS`. -/
def defaultProvider : CryptoProvider :=
  ⟨[.tls13Aes256GcmSha384, .tls13Aes128GcmSha256, .tls13Chacha20Poly1305Sha256,
      .tlsEcdheEcdsaWithAes256GcmSha384, .tlsEcdheEcdsaWithAes128GcmSha256,
      .tlsEcdheEcdsaWithChacha20Poly1305Sha256, .tlsEcdheRsaWithAes256GcmSha384,
      .tlsEcdheRsaWithAes128GcmSha256, .tlsEcdheRsaWithChacha20Poly1305Sha256],
    [.x25519mlkem768, .x25519, .secp256r1, .secp384r1]⟩

/-! ## The option lists -/

/-- The `match` on a `cipherSuite` name. -/
def cipherSuiteOfName : String → Option CipherSuite
  | "TLS_AES_128_GCM_SHA256" => some .tls13Aes128GcmSha256
  | "TLS_AES_256_GCM_SHA384" => some .tls13Aes256GcmSha384
  | "TLS_CHACHA20_POLY1305_SHA256" => some .tls13Chacha20Poly1305Sha256
  | "TLS_ECDHE_ECDSA_WITH_AES_128_GCM_SHA256" => some .tlsEcdheEcdsaWithAes128GcmSha256
  | "TLS_ECDHE_ECDSA_WITH_AES_256_GCM_SHA384" => some .tlsEcdheEcdsaWithAes256GcmSha384
  | "TLS_ECDHE_ECDSA_WITH_CHACHA20_POLY1305_SHA256" => some .tlsEcdheEcdsaWithChacha20Poly1305Sha256
  | "TLS_ECDHE_RSA_WITH_AES_128_GCM_SHA256" => some .tlsEcdheRsaWithAes128GcmSha256
  | "TLS_ECDHE_RSA_WITH_AES_256_GCM_SHA384" => some .tlsEcdheRsaWithAes256GcmSha384
  | "TLS_ECDHE_RSA_WITH_CHACHA20_POLY1305_SHA256" => some .tlsEcdheRsaWithChacha20Poly1305Sha256
  | _ => none

/-- The `match` on an `ecdhCurve` name. -/
def kxGroupOfName : String → Option KxGroup
  | "mlkem768" => some .mlkem768
  | "secp256r1" => some .secp256r1
  | "secp384r1" => some .secp384r1
  | "x25519" => some .x25519
  | "x25519mlkem768" => some .x25519mlkem768
  | _ => none

/-- The loop both lists go through: each string entry is looked up and kept, an entry
that is not a string is skipped, and an unknown name ends the loop with the error
`unsupported name`. -/
def selectNamed {α : Type} (lookup : String → Option α) (unsupported : String → String) :
    List Yaml → Except String (List α)
  | [] => .ok []
  | item :: items =>
    match item.asStr with
    | none => selectNamed lookup unsupported items
    | some name =>
      match lookup name with
      | some a => (selectNamed lookup unsupported items).map (a :: ·)
      | none => .error (unsupported name)

/-- The `cipherSuite` loop. -/
def cipherSuitesOf : List Yaml → Except String (List CipherSuite) :=
  selectNamed cipherSuiteOfName fun cipherSuite =>
    "The \"" ++ cipherSuite ++ "\" cipher suite is not supported"

/-- The `ecdhCurve` loop. -/
def kxGroupsOf : List Yaml → Except String (List KxGroup) :=
  selectNamed kxGroupOfName fun ecdhCurve => "The \"" ++ ecdhCurve ++ "\" ECDH curve is not supported"

/-- The provider start-up installs: the defaults, with the suites of a `cipherSuite`
list and the groups of an `ecdhCurve` list in place of theirs. -/
def configureProvider (global : Yaml) : Except String CryptoProvider :=
  let provider := defaultProvider
  match (match (global.index "cipherSuite").asVec with
      | some cipherSuite => (cipherSuitesOf cipherSuite).map fun cipherSuites => { provider with cipherSuites }
      | none => .ok provider) with
  | .error err => .error err
  | .ok provider =>
    match (global.index "ecdhCurve").asVec with
    | some ecdhCurves => (kxGroupsOf ecdhCurves).map fun kxGroups => { provider with kxGroups }
    | none => .ok provider

/-! ## Certificates -/

/-- What start-up reads from outside `src/`: the certificate and key files, each load
with the text of its error, and whether a default provider is installed already. -/
structure TlsEnv where
  /-- `load_certs(path)`. -/
  loadCerts : String → Except String Unit
  /-- `load_private_key(path)`. -/
  loadPrivateKey : String → Except String Unit
  /-- `crypto_provider.key_provider.load_private_key(key)` on the key read from `path`. -/
  loadSigningKey : String → Except String Unit
  /-- Whether `install_default` fails, another provider being the default already. -/
  defaultInstalled : Bool

/-- Loading one certificate and its key, as the fallback and each SNI host do. Both key
errors name the certificate's path, as the source's messages do. -/
def loadCertifiedKey (env : TlsEnv) (certPath keyPath : String) : Except String Unit :=
  match env.loadCerts certPath with
  | .error err => .error ("Cannot load the \"" ++ certPath ++ "\" TLS certificate: " ++ err)
  | .ok () =>
    match env.loadPrivateKey keyPath with
    | .error err => .error ("Cannot load the \"" ++ certPath ++ "\" private key: " ++ err)
    | .ok () =>
      match env.loadSigningKey keyPath with
      | .error err => .error ("Cannot load the \"" ++ certPath ++ "\" private key: " ++ err)
      | .ok () => .ok ()

/-- The `sni` loop: each host whose name, `cert` and `key` are strings gets its
certificate loaded, in order, and the first failure ends the loop. A mapping's keys are
distinct, so `sni[host]` is the value of the host's own entry. -/
def loadSniCertKeys (env : TlsEnv) : List (Yaml × Yaml) → Except String Unit
  | [] => .ok ()
  | (hostname, entry) :: rest =>
    match hostname.asStr, (entry.index "cert").asStr, (entry.index "key").asStr with
    | some _, some certPath, some keyPath =>
      match loadCertifiedKey env certPath keyPath with
      | .error err => .error err
      | .ok () => loadSniCertKeys env rest
    | _, _, _ => loadSniCertKeys env rest

/-- The fallback certificate, when `cert` and `key` are set, then the SNI certificates. -/
def loadCertificates (env : TlsEnv) (global : Yaml) : Except String Unit :=
  match (match (global.index "cert").asStr, (global.index "key").asStr with
      | some certPath, some keyPath => loadCertifiedKey env certPath keyPath
      | _, _ => .ok ()) with
  | .error err => .error err
  | .ok () =>
    match (global.index "sni").asHash with
    | some sni => loadSniCertKeys env sni
    | none => .ok ()

/-! ## Protocol versions and the builder -/

/-- The `tlsMinVersion`/`tlsMaxVersion` match: the versions to build for, or the error. -/
def protocolVersionsFor (minVersion maxVersion : Option String) :
    Except String (List ProtocolVersion) :=
  match minVersion with
  | some "TLSv1.3" =>
    match maxVersion with
    | some "TLSv1.2" => .error "The maximum TLS version is older than the minimum TLS version"
    | some "TLSv1.3" | none => .ok [.tls13]
    | _ => .error "Invalid maximum TLS version"
  | some "TLSv1.2" | none =>
    match maxVersion with
    | some "TLSv1.2" => .ok [.tls12]
    | some "TLSv1.3" | none => .ok [.tls12, .tls13]
    | _ => .error "Invalid maximum TLS version"
  | _ => .error "Invalid minimum TLS version"

/-- Modelled from `rustls`: `ConfigBuilder::with_protocol_versions`, its three checks in
order. The third error's text, which `rustls` formats from the suite, is abbreviated. -/
def withProtocolVersions (provider : CryptoProvider) (versions : List ProtocolVersion) :
    Except String Unit :=
  if !provider.cipherSuites.any fun suite => versions.contains suite.version then
    .error "no usable cipher suites configured"
  else if provider.kxGroups.isEmpty then .error "no kx groups configured"
  else if provider.cipherSuites.all fun suite => suite.keyExchangeAlgorithms.any fun kx =>
      provider.kxGroups.any fun group => group.keyExchangeAlgorithm == kx then .ok ()
  else .error "a cipher suite requires a key exchange no kx group provides"

/-- Modelled from `rustls`: `ServerConfig::builder_with_protocol_versions(versions)` runs
`with_protocol_versions` on the installed default provider and unwraps it. -/
def builderWithProtocolVersions (provider : CryptoProvider) (versions : List ProtocolVersion) :
    Except String Unit :=
  withProtocolVersions provider versions

/-- Modelled from `rustls`: `ServerConfig::builder()`, for `DEFAULT_VERSIONS`. -/
def builder (provider : CryptoProvider) : Except String Unit :=
  builderWithProtocolVersions provider [.tls13, .tls12]

/-! ## Start-up -/

/-- How the TLS set-up ends. -/
inductive TlsOutcome
  /-- `tls_config_builder_wants_verifier`, for these versions. -/
  | wantsVerifier (versions : List ProtocolVersion)
  /-- `Err(anyhow!(message))?`: `server_event_loop` returns this error. -/
  | failed (message : String)
  /-- A panic in `rustls`: an `unwrap` on this error. -/
  | panicked (message : String)
  deriving DecidableEq

/-- What the set-up sends to the log channel, and how it ends. -/
structure TlsRun where
  logs : List LogMessage
  outcome : TlsOutcome
  deriving DecidableEq

/-- A failure that is logged: one error record, then the error with the same text. -/
def TlsRun.logged (message : String) : TlsRun := ⟨[⟨message, true⟩], .failed message⟩

/-- The TLS part of `server_event_loop`, from `default_provider()` to the builder the
version options select. -/
def configureTls (env : TlsEnv) (global : Yaml) : TlsRun :=
  match configureProvider global with
  | .error err => .logged err
  | .ok provider =>
    match loadCertificates env global with
    | .error err => .logged err
    | .ok () =>
      if env.defaultInstalled then ⟨[], .failed "Cannot install crypto provider"⟩
      else
        match builder provider with
        | .error err => ⟨[], .panicked err⟩
        | .ok () =>
          match protocolVersionsFor (global.index "tlsMinVersion").asStr
              (global.index "tlsMaxVersion").asStr with
          | .error err => .logged err
          | .ok versions =>
            match builderWithProtocolVersions provider versions with
            | .error err => ⟨[], .panicked err⟩
            | .ok () => ⟨[], .wantsVerifier versions⟩

end Karpacz
