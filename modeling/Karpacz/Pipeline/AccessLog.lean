import Karpacz.Pipeline.Env

/-!
# The access record

`log_combined` formats one NCSA combined record,

`%h - %u [%d/%b/%Y:%H:%M:%S %z] "%m %U %H" %>s %b "%{Referer}" "%{User-Agent}"`,

with `-` for an absent user, length, referer or user agent, and with backslashes, then
double quotes, backslash-escaped inside the referer and the user agent. Nothing else is
escaped: the user comes from a handler and the target from the request line, and both
are printed as they are.

Every call site computes the length field the same way (`logContentLength`): the
`Content-Length` header when it is there and parses as a `u64`, else the body's exact
size hint.
-/

namespace Karpacz

/-- The protocol label of the access record. (`hyper::Version` has no other values, so
the `HTTP/Unknown` arm is never taken.) -/
def protocolLabel : Version → String
  | .http09 => "HTTP/0.9"
  | .http10 => "HTTP/1.0"
  | .http11 => "HTTP/1.1"
  | .http2 => "HTTP/2.0"
  | .http3 => "HTTP/3.0"

/-- `str::replace` with a one-character pattern. -/
def replaceChar (c : Char) (rep : List Char) : List Char → List Char
  | [] => []
  | d :: ds => (if d = c then rep else [d]) ++ replaceChar c rep ds

/-- `s.replace("\\", "\\\\").replace("\"", "\\\"")`. -/
def escapeQuoted (s : String) : String :=
  ⟨replaceChar '"' ['\\', '"'] (replaceChar '\\' ['\\', '\\'] s.data)⟩

/-- A quoted referer or user agent, or `-`. -/
def quotedOrDash : Option String → String
  | some s => "\"" ++ escapeQuoted s ++ "\""
  | none => "-"

/-- A number zero-padded to two digits. -/
def pad2 (n : Nat) : List Char := if n < 10 then '0' :: decimal n else decimal n

/-- `%b`. -/
def monthAbbrev (m : Fin 12) : String :=
  ["Jan", "Feb", "Mar", "Apr", "May", "Jun", "Jul", "Aug", "Sep", "Oct", "Nov", "Dec"].getD m ""

/-- `%Y`: four digits, zero-padded; a year past 9999 takes a sign. -/
def formatYear (y : Nat) : List Char :=
  if y ≤ 9999 then List.replicate (4 - (decimal y).length) '0' ++ decimal y else '+' :: decimal y

/-- `now.format("%d/%b/%Y:%H:%M:%S %z")`. -/
def formatCombinedTime (t : LocalTime) : String :=
  ⟨pad2 t.day ++ '/' :: (monthAbbrev t.month).data ++ '/' :: formatYear t.year ++
    ':' :: pad2 t.hour ++ ':' :: pad2 t.minute ++ ':' :: pad2 t.second ++
    ' ' :: (if t.offsetWest then '-' else '+') :: pad2 (t.offsetMinutes / 60) ++
    pad2 (t.offsetMinutes % 60)⟩

/-- `log_combined`: the access record it sends. -/
def logCombined (now : LocalTime) (clientIp : IpAddr) (authUser : Option String)
    (method requestPath protocol : String) (statusCode : Nat) (contentLength : Option Nat)
    (referrer userAgent : Option String) : LogMessage :=
  ⟨clientIp.text ++ " - " ++ authUser.getD "-" ++ " [" ++ formatCombinedTime now ++ "] \"" ++
    method ++ " " ++ requestPath ++ " " ++ protocol ++ "\" " ++ ⟨decimal statusCode⟩ ++ " " ++
    (match contentLength with
      | some n => ⟨decimal n⟩
      | none => "-") ++ " " ++
    quotedOrDash referrer ++ " " ++ quotedOrDash userAgent, false⟩

/-- The length field every call site computes from the response it logs. -/
def logContentLength (response : Response) : Option Nat :=
  match response.headers.get .contentLength with
  | some headerValue =>
    match headerValue.toStr with
    | some text =>
      match parseU64 text with
      | some contentLength => some contentLength
      | none => response.body.exactSize
    | none => response.body.exactSize
  | none => response.body.exactSize

end Karpacz
