import Karpacz.Proof.Tls
import Karpacz.Server.EventLoop

/-!
# How start-up fails

`serverEventLoop_logs`: every way `server_event_loop` can fail before its first
connection sends one error record with the error's own text, except two that send
nothing: a provider that cannot be installed, and a client verifier built from an empty
native certificate store. Panics in `rustls` are the third silent end, characterized in
`Karpacz.Proof.Tls`.
-/

namespace Karpacz.Proof

open Karpacz

/-! ## Client authentication -/

/-- Without a refusal, the loop adds every certificate. -/
theorem addRoots_ok {certs : List (Except String Unit)} {roots : Nat}
    (h : addRoots certs = .ok roots) : roots = certs.length := by
  induction certs generalizing roots with
  | nil => exact (Except.ok.inj h).symm
  | cons cert certs ih =>
    rcases cert with err | ⟨⟩
    · exact nomatch h
    rcases hr : addRoots certs with err | n
    · simp [addRoots, hr, Except.map] at h
    · simp only [addRoots, hr, Except.map, Except.ok.injEq] at h
      rw [← h, ih hr, List.length_cons]

/-- Client authentication fails without a record exactly on an empty native store. -/
theorem configureClientAuth_logs (env : StartupEnv) (global : Yaml) :
    (∃ message, configureClientAuth env global = .error (.logged message)) ∨
      (configureClientAuth env global = .error ⟨[], .failed "no root trust anchors were provided"⟩ ∧
        (global.index "useClientCertificate").asBool = some true ∧
        env.nativeCerts = [] ∧ env.nativeCertErrors = []) ∨
      ∃ clientAuth, configureClientAuth env global = .ok clientAuth := by
  unfold configureClientAuth
  split
  case h_2 => exact .inr (.inr ⟨_, rfl⟩)
  rename_i huse
  split
  · exact .inl ⟨_, rfl⟩
  rename_i herrors
  rcases hr : addRoots env.nativeCerts with err | roots
  · exact .inl ⟨_, rfl⟩
  dsimp only
  unfold buildClientVerifier
  split_ifs with h0
  · have hcerts : env.nativeCerts = [] := List.length_eq_zero.mp ((addRoots_ok hr).symm.trans h0)
    exact .inr (.inl ⟨rfl, huse, hcerts, herrors⟩)
  · exact .inr (.inr ⟨_, rfl⟩)

/-! ## Listeners -/

theorem listenAddress_logs {env : StartupEnv} {global : Yaml} {intKey strKey : String}
    {defaultPort : UInt16} {invalid : String} {run : ServerRun}
    (h : listenAddress env global intKey strKey defaultPort invalid = .error run) :
    run = .logged invalid := by
  unfold listenAddress at h
  split at h
  · split at h
    · exact nomatch h
    · exact (Except.error.inj h).symm
  · split at h
    · split at h
      · exact nomatch h
      · exact (Except.error.inj h).symm
    · exact nomatch h

theorem bindListener_logs {env : StartupEnv} {bound : List SocketAddr} {enabled : Bool}
    {addr : SocketAddr} {cannotListen : String} {run : ServerRun}
    (h : bindListener env bound enabled addr cannotListen = .error run) :
    ∃ message, run = .logged message := by
  unfold bindListener at h
  split_ifs at h
  split at h
  · exact ⟨_, (Except.error.inj h).symm⟩
  · exact nomatch h

/-- The listener part either fails with a record or reaches the accept loop. -/
theorem listen_logs (env : StartupEnv) (global : Yaml) (versions : List ProtocolVersion)
    (clientAuth : Bool) :
    (∃ message, listen env global versions clientAuth = .logged message) ∨
      ∃ listener listenerTls alpn, listen env global versions clientAuth =
        ⟨[], .listening listener listenerTls versions alpn clientAuth⟩ := by
  unfold listen
  rcases ha : httpAddress env global with run | addr
  · exact .inl ⟨_, listenAddress_logs ha⟩
  rcases hs : httpsAddress env global with run | addrTls
  · exact .inl ⟨_, listenAddress_logs hs⟩
  dsimp only
  rcases hb : bindListener env [] (!(listenerFlags global).2) addr "Cannot listen to HTTP port: "
    with run | listener
  · exact .inl (bindListener_logs hb)
  dsimp only
  rcases hbt : bindListener env listener.toList (listenerFlags global).1 addrTls
      "Cannot listen to HTTPS port: " with run | listenerTls
  · exact .inl (bindListener_logs hbt)
  dsimp only
  split
  · exact .inl ⟨_, rfl⟩
  · exact .inr ⟨_, _, _, rfl⟩

/-! ## Start-up -/

/-- **Every start-up failure is logged, but two.** Whatever the configuration and the
environment, `server_event_loop` either fails after one error record with the error's
text, or sends nothing; then it fails only when the provider cannot be installed, or
when `useClientCertificate` is true and the native certificate store is empty, with
`WebPkiClientVerifier`'s own error. -/
theorem serverEventLoop_logs (env : StartupEnv) (global : Yaml) :
    (∃ message, serverEventLoop env global = .logged message) ∨
      ((serverEventLoop env global).logs = [] ∧
        ∀ message, (serverEventLoop env global).outcome = .failed message →
          (env.tls.defaultInstalled = true ∧ message = "Cannot install crypto provider") ∨
          ((global.index "useClientCertificate").asBool = some true ∧ env.nativeCerts = [] ∧
            env.nativeCertErrors = [] ∧ message = "no root trust anchors were provided")) := by
  unfold serverEventLoop
  rcases env.moduleError with _ | moduleError
  case some => exact .inl ⟨_, rfl⟩
  rcases env.validation with err | ⟨⟩
  · exact .inl ⟨_, rfl⟩
  dsimp only
  rcases configureTls_logs env.tls global with ⟨message, hlogged⟩ | ⟨hlogs, hfailed⟩
  · rw [hlogged]; exact .inl ⟨_, rfl⟩
  split
  · rename_i message hout
    exact .inr ⟨hlogs, fun m h => .inl (hfailed m (by rw [hout, (ServerOutcome.failed.inj h)]))⟩
  · exact .inr ⟨hlogs, fun m h => nomatch h⟩
  rename_i versions _
  rcases configureClientAuth_logs env global with ⟨message, h⟩ | ⟨h, huse, hcerts, herrors⟩ |
      ⟨clientAuth, h⟩
  · rw [h]; exact .inl ⟨_, rfl⟩
  · rw [h]
    exact .inr ⟨rfl, fun m hm => .inr ⟨huse, hcerts, herrors, (ServerOutcome.failed.inj hm).symm⟩⟩
  · rw [h]; dsimp only
    rcases listen_logs env global versions clientAuth with ⟨message, hl⟩ | ⟨_, _, _, hl⟩
    · exact .inl ⟨_, hl⟩
    · rw [hl]; exact .inr ⟨rfl, fun m hm => nomatch hm⟩

end Karpacz.Proof
