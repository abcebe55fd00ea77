import Karpacz.Server.Tls

/-!
# When TLS start-up panics

`rustls`'s builder checks reduce, for the `aws-lc-rs` suites and groups, to the
precondition the spec names (`BuildsFor`): some suite of the provider belongs to one of
the versions, and there is a key-exchange group. Every such group does `ECDHE` and every
suite can use `ECDHE`, so the third check never fails (`withProtocolVersions_ok_iff`).

From that, `configureTls_panics_iff` says exactly when start-up panics: the option lists
and the certificates were accepted, the provider was installed, and then either the
provider has no suite or no group, which `ServerConfig::builder()` rejects before the
version options are even read, or the versions those options select have no suite of
the provider. The name checks of the two lists say nothing about this, so a list of
supported names can still make start-up panic: `configureTls_builder_panics`.
`configureTls_logs` is the other half: every failure that is not a panic is logged once,
with the error's text, except the provider's installation. The default provider has a
suite of each version and a group, so without the two lists start-up never panics:
`configureTls_defaults_no_panic`.
-/

namespace Karpacz.Proof

open Karpacz

/-- `rustls`'s precondition for a builder, in the spec's words. -/
def BuildsFor (provider : CryptoProvider) (versions : List ProtocolVersion) : Prop :=
  (∃ suite ∈ provider.cipherSuites, suite.version ∈ versions) ∧ provider.kxGroups ≠ []

/-- Every suite can use every group: they all do `ECDHE`. -/
theorem kx_compatible {provider : CryptoProvider} (h : provider.kxGroups ≠ []) :
    (provider.cipherSuites.all fun suite => suite.keyExchangeAlgorithms.any fun kx =>
      provider.kxGroups.any fun group => group.keyExchangeAlgorithm == kx) = true := by
  obtain ⟨g, gs, hg⟩ := List.exists_cons_of_ne_nil h
  simp only [List.all_eq_true, List.any_eq_true, hg]
  intro suite _
  refine ⟨.ecdhe, ?_, g, List.mem_cons_self _ _, rfl⟩
  unfold CipherSuite.keyExchangeAlgorithms
  split <;> simp

/-- **`with_protocol_versions` succeeds exactly under the spec's precondition.** -/
theorem withProtocolVersions_ok_iff {provider : CryptoProvider} {versions : List ProtocolVersion} :
    withProtocolVersions provider versions = .ok () ↔ BuildsFor provider versions := by
  unfold withProtocolVersions BuildsFor
  by_cases hk : provider.kxGroups = []
  · simp only [hk, List.isEmpty_nil]
    split_ifs <;> simp
  · simp only [kx_compatible hk, List.isEmpty_iff, hk, if_true, if_false, ne_eq, not_false_eq_true,
      and_true]
    split_ifs with hs
    · simpa using hs
    · simpa using hs

/-- `ServerConfig::builder()` succeeds exactly when there is a suite and a group. -/
theorem builder_ok_iff {provider : CryptoProvider} :
    builder provider = .ok () ↔ provider.cipherSuites ≠ [] ∧ provider.kxGroups ≠ [] := by
  rw [builder, builderWithProtocolVersions, withProtocolVersions_ok_iff, BuildsFor]
  constructor
  · rintro ⟨⟨suite, hs, -⟩, hk⟩
    exact ⟨List.ne_nil_of_mem hs, hk⟩
  · rintro ⟨hs, hk⟩
    obtain ⟨suite, rest, hsuite⟩ := List.exists_cons_of_ne_nil hs
    refine ⟨⟨suite, by simp [hsuite], ?_⟩, hk⟩
    cases suite.version <;> simp

/-- **When start-up panics.** The option lists and the certificates were accepted and the
provider installed; then the provider has no suite or no group, or the version options
select versions none of its suites belongs to. -/
theorem configureTls_panics_iff {env : TlsEnv} {global : Yaml} :
    (∃ message, (configureTls env global).outcome = .panicked message) ↔
      ∃ provider, configureProvider global = .ok provider ∧ loadCertificates env global = .ok () ∧
        env.defaultInstalled = false ∧
        (provider.cipherSuites = [] ∨ provider.kxGroups = [] ∨
          ∃ versions, protocolVersionsFor (global.index "tlsMinVersion").asStr
              (global.index "tlsMaxVersion").asStr = .ok versions ∧
            ∀ suite ∈ provider.cipherSuites, suite.version ∉ versions) := by
  unfold configureTls
  rcases hp : configureProvider global with err | provider
  · simp [TlsRun.logged]
  rcases hc : loadCertificates env global with err | ⟨⟩
  · simp [TlsRun.logged]
  cases hi : env.defaultInstalled
  case true => simp
  simp only [Bool.false_eq_true, if_false, Except.ok.injEq, exists_eq_left', true_and]
  rcases hb : builder provider with err | ⟨⟩
  · -- `builder()` panics: no suite or no group
    have hnot : ¬(provider.cipherSuites ≠ [] ∧ provider.kxGroups ≠ []) := by
      rw [← builder_ok_iff, hb]; exact nofun
    simp only [TlsOutcome.panicked.injEq, exists_eq', true_iff]
    rw [not_and_or, not_not, not_not] at hnot
    exact hnot.elim .inl (fun h => .inr (.inl h))
  obtain ⟨hs, hk⟩ := builder_ok_iff.mp hb
  simp only [hs, hk, false_or]
  rcases hv : protocolVersionsFor (global.index "tlsMinVersion").asStr
      (global.index "tlsMaxVersion").asStr with err | versions
  · simp [TlsRun.logged]
  simp only [Except.ok.injEq, exists_eq_left']
  rcases hw : builderWithProtocolVersions provider versions with err | ⟨⟩
  · -- the selected versions have no suite
    have hnot : ¬BuildsFor provider versions := by
      rw [← withProtocolVersions_ok_iff, ← builderWithProtocolVersions, hw]; exact nofun
    simp only [TlsOutcome.panicked.injEq, exists_eq', true_iff]
    intro suite hsuite hversion
    exact hnot ⟨⟨suite, hsuite, hversion⟩, hk⟩
  · rw [builderWithProtocolVersions, withProtocolVersions_ok_iff] at hw
    obtain ⟨⟨suite, hsuite, hversion⟩, -⟩ := hw
    simp only [reduceCtorEq, exists_false, false_iff, not_forall, not_not]
    exact ⟨suite, hsuite, hversion⟩

/-- **Every failure but a panic is logged once, with its own text**, except a provider
that cannot be installed; a run that does not fail sends nothing. -/
theorem configureTls_logs (env : TlsEnv) (global : Yaml) :
    (∃ message, configureTls env global = .logged message) ∨
      ((configureTls env global).logs = [] ∧
        ∀ message, (configureTls env global).outcome = .failed message →
          env.defaultInstalled = true ∧ message = "Cannot install crypto provider") := by
  unfold configureTls
  rcases hp : configureProvider global with err | provider
  · exact .inl ⟨err, rfl⟩
  rcases hc : loadCertificates env global with err | ⟨⟩
  · exact .inl ⟨err, rfl⟩
  cases hi : env.defaultInstalled
  case true => exact .inr ⟨rfl, fun message h => ⟨rfl, (TlsOutcome.failed.inj h).symm⟩⟩
  simp only [Bool.false_eq_true, if_false]
  rcases hb : builder provider with err | u
  · exact .inr ⟨rfl, fun message h => nomatch h⟩
  cases u
  rcases hv : protocolVersionsFor (global.index "tlsMinVersion").asStr
      (global.index "tlsMaxVersion").asStr with err | versions
  · exact .inl ⟨err, rfl⟩
  dsimp only
  rcases hw : builderWithProtocolVersions provider versions with err | u
  · exact .inr ⟨rfl, fun message h => nomatch h⟩
  · cases u; exact .inr ⟨rfl, fun message h => nomatch h⟩

/-- The version options select at least one version. -/
theorem protocolVersionsFor_ne_nil {minVersion maxVersion : Option String}
    {versions : List ProtocolVersion} (h : protocolVersionsFor minVersion maxVersion = .ok versions) :
    versions ≠ [] := by
  unfold protocolVersionsFor at h
  split at h <;> (try split at h) <;> cases h <;> simp

/-- The default provider has a suite of every version and a group. -/
theorem buildsFor_defaultProvider {versions : List ProtocolVersion} (h : versions ≠ []) :
    BuildsFor defaultProvider versions := by
  obtain ⟨v, rest, rfl⟩ := List.exists_cons_of_ne_nil h
  refine ⟨?_, by decide⟩
  cases v
  · exact ⟨.tlsEcdheEcdsaWithAes256GcmSha384, by decide, List.mem_cons_self _ _⟩
  · exact ⟨.tls13Aes256GcmSha384, by decide, List.mem_cons_self _ _⟩

/-- **The default suites and groups never panic.** With neither `cipherSuite` nor
`ecdhCurve` a list, start-up does not panic in `rustls`, whatever the version options,
the certificates and the installed provider. -/
theorem configureTls_defaults_no_panic (env : TlsEnv) (global : Yaml)
    (hsuites : (global.index "cipherSuite").asVec = none)
    (hcurves : (global.index "ecdhCurve").asVec = none) (message : String) :
    (configureTls env global).outcome ≠ .panicked message := by
  have hprovider : configureProvider global = .ok defaultProvider := by
    simp only [configureProvider, hsuites, hcurves]
  have hbuilds : ∀ versions, versions ≠ [] → builderWithProtocolVersions defaultProvider versions = .ok () :=
    fun versions h => withProtocolVersions_ok_iff.mpr (buildsFor_defaultProvider h)
  unfold configureTls
  rw [hprovider]
  rcases loadCertificates env global with err | ⟨⟩
  · exact nofun
  dsimp only
  split_ifs
  · exact nofun
  rw [builder, hbuilds _ (by decide)]
  dsimp only
  rcases hv : protocolVersionsFor (global.index "tlsMinVersion").asStr
      (global.index "tlsMaxVersion").asStr with err | versions
  · exact nofun
  dsimp only
  rw [hbuilds _ (protocolVersionsFor_ne_nil hv)]
  exact nofun

/-- `tlsMinVersion: TLSv1.3` alone. -/
def tls13Only : Yaml := .hash [(.string "tlsMinVersion", .string "TLSv1.3")]

theorem configureTls_defaults_no_panic_tls13 :
    (tls13Only.index "cipherSuite").asVec = none ∧ (tls13Only.index "ecdhCurve").asVec = none ∧
      (configureTls ⟨fun _ => .ok (), fun _ => .ok (), fun _ => .ok (), false⟩ tls13Only).outcome ≠
        .panicked "no usable cipher suites configured" :=
  ⟨rfl, rfl, configureTls_defaults_no_panic ⟨fun _ => .ok (), fun _ => .ok (), fun _ => .ok (), false⟩
    tls13Only rfl rfl _⟩

/-- `cipherSuite: [TLS_AES_128_GCM_SHA256]` and `tlsMaxVersion: TLSv1.2`: supported names
and a valid version pair. -/
def tls13SuiteMaxTls12 : Yaml :=
  .hash [(.string "cipherSuite", .array [.string "TLS_AES_128_GCM_SHA256"]),
    (.string "tlsMaxVersion", .string "TLSv1.2")]

/-- Start-up panics in `rustls` on lists of supported names and a valid version pair: a
TLS 1.3 suite under `tlsMaxVersion: TLSv1.2`, an empty `cipherSuite` and an empty
`ecdhCurve`, whatever the certificate files hold. -/
theorem configureTls_builder_panics (loadCerts loadPrivateKey loadSigningKey : String → Except String Unit) :
    configureTls ⟨loadCerts, loadPrivateKey, loadSigningKey, false⟩ tls13SuiteMaxTls12 =
        ⟨[], .panicked "no usable cipher suites configured"⟩ ∧
      configureTls ⟨loadCerts, loadPrivateKey, loadSigningKey, false⟩
          (.hash [(.string "cipherSuite", .array [])]) =
        ⟨[], .panicked "no usable cipher suites configured"⟩ ∧
      configureTls ⟨loadCerts, loadPrivateKey, loadSigningKey, false⟩
          (.hash [(.string "ecdhCurve", .array [])]) =
        ⟨[], .panicked "no kx groups configured"⟩ :=
  ⟨rfl, rfl, rfl⟩

end Karpacz.Proof
