import Karpacz.Http.Message
import Karpacz.Config.Yaml

/-!
# What the pipeline leans on

`request_handler_wrapped` calls into code that is not under `src/`: the configuration
combiner, the URL sanitizer, the default error page, the `Server` product token, the
WebSocket handshake, the file system and the clock. Each is a field of `Env`, and every
property of the pipeline is proved for every `Env`.

The pipeline's own output to the log channel is a list of `LogMessage`s, each marked
as an error record or an access record, as `LogMessage::new(text, is_error)` marks it.
-/

namespace Karpacz

/-- The local time `Local::now()` returns, in the fields the formats print. -/
structure LocalTime where
  year : Nat
  month : Fin 12
  day : Nat
  hour : Nat
  minute : Nat
  second : Nat
  /-- The offset from UTC, in minutes, and whether it is west of UTC. -/
  offsetMinutes : Nat
  offsetWest : Bool
  deriving DecidableEq

/-- The collaborators of `request_handler_wrapped` that live outside `src/`. -/
structure Env where
  /-- `SERVER_SOFTWARE`. -/
  serverSoftware : String
  /-- `generate_default_error_page(status, serverAdministratorEmail)`. -/
  generateDefaultErrorPage : StatusCode → Option String → String
  /-- `combine_config(global, host config, hostname, local IP, path)`. -/
  combineConfig : ServerConfigRoot → Yaml → Option String → IpAddr → String →
    Option ServerConfigRoot
  /-- `sanitize_url(path, allowDoubleSlashes)`, with the text of its error. -/
  sanitizeUrl : String → Bool → Except String String
  /-- `hyper_tungstenite::is_upgrade_request`. -/
  isUpgradeRequest : Request → Bool
  /-- `hyper_tungstenite::upgrade`: the handshake response, or the error's text. -/
  upgradeWebsocket : Request → Except String Response
  /-- Whether `fs::File::open(path)` succeeds. -/
  canOpen : String → Bool
  /-- `file.metadata()` on the opened file: its length, or `None` when it fails. -/
  statLength : String → Option Nat
  /-- `Local::now()` when the access record is formatted. -/
  clock : LocalTime

/-- A record sent to the log channel: its text, and whether it is an error record. -/
structure LogMessage where
  message : String
  isError : Bool
  deriving DecidableEq

end Karpacz
