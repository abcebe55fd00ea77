import Karpacz.Proof.Dispatch

/-!
# The error response, as a whole

`generateErrorResponse_spec` says everything `generate_error_response` puts in the
response: the status, the caller's headers other than `Content-Type` and
`Content-Length` in their order, one `Content-Type: text/html`, and the body and
length of the first `errorPages` entry for the status whose file opens, or of the
default page.

A page whose file opens but whose `metadata()` fails is served anyway, without a
length; the loop does not go on to the next entry for the status.
`generateErrorResponse_stat_failure_kept` is such a response.
-/

namespace Karpacz.Proof

open Karpacz

/-- The body and length the error response settles on, by the first entry that
qualifies. -/
theorem errorPageBody_eq (env : Env) (s : StatusCode) (config : ServerConfigRoot) :
    errorPageBody env s config =
      match ((config.get "errorPages").asVec.getD []).find? (pageQualifies env s) with
      | some page => (env.statLength (pagePath page), .file (pagePath page))
      | none => (some (bareBody env s config).utf8ByteSize, .full (bareBody env s config)) := by
  unfold errorPageBody
  cases (config.get "errorPages").asVec with
  | none => rfl
  | some pages =>
    simp only [Option.some_bind, Option.getD_some, selectErrorPage_eq]
    cases pages.find? (pageQualifies env s) <;> rfl

/-- The copied entries are the ones the filter keeps; the length and type are not. -/
theorem filter_generateErrorResponse_entries (env : Env) (s : StatusCode) (config : ServerConfigRoot)
    (headers : Option HeaderMap) :
    (generateErrorResponse env s config headers).headers.entries.filter
        (fun p => p.1 ≠ .contentType ∧ p.1 ≠ .contentLength) = copiedHeaders headers := by
  have hcopied : (copiedHeaders headers).filter (fun p => p.1 ≠ .contentType ∧ p.1 ≠ .contentLength) =
      copiedHeaders headers := by
    cases headers with
    | none => rfl
    | some h => simp only [copiedHeaders, List.filter_filter, Bool.and_self]
  have hlength (contentLength : Option Nat) :
      (contentLengthHeader contentLength).filter (fun p => p.1 ≠ .contentType ∧ p.1 ≠ .contentLength) = [] := by
    cases contentLength <;> simp [contentLengthHeader]
  simp only [generateErrorResponse, List.filter_append, hcopied, hlength]
  simp

/-- **`generate_error_response`, field by field.** -/
theorem generateErrorResponse_spec (env : Env) (s : StatusCode) (config : ServerConfigRoot)
    (headers : Option HeaderMap) :
    let r := generateErrorResponse env s config headers
    let bare := bareBody env s config
    r.status = s ∧
    r.headers.entries.filter (fun p => p.1 ≠ .contentType ∧ p.1 ≠ .contentLength) =
      (headers.map fun h => h.entries.filter fun p => p.1 ≠ .contentType ∧ p.1 ≠ .contentLength).getD [] ∧
    r.headers.getAll .contentType = [.textHtml] ∧
    match ((config.get "errorPages").asVec.getD []).find? (pageQualifies env s) with
    | some page =>
      r.body = .file (pagePath page) ∧
        r.headers.getAll .contentLength = ((env.statLength (pagePath page)).map .ofNat).toList
    | none => r.body = .full bare ∧ r.headers.getAll .contentLength = [.ofNat bare.utf8ByteSize] := by
  refine ⟨rfl, ?_, generateErrorResponse_contentType env s config headers, ?_⟩
  · rw [filter_generateErrorResponse_entries]
    cases headers <;> rfl
  · simp only [generateErrorResponse_body, generateErrorResponse_contentLength, errorPageBody_eq]
    split <;> simp_all

/-- A file system in which `/errors/404.html` opens but cannot be stat'ed, and
`/errors/fallback.html` opens with length 12. -/
def statFailureEnv : Env :=
  { sampleEnv with
    statLength := fun path => if path = "/errors/404.html" then none else some 12 }

/-- Two pages for 404. -/
def twoPagesConfig : ServerConfigRoot :=
  ⟨[(.string "errorPages", .array
    [.hash [(.string "scode", .integer 404), (.string "path", .string "/errors/404.html")],
     .hash [(.string "scode", .integer 404), (.string "path", .string "/errors/fallback.html")]])]⟩

/-- The first page is served without a length; the second is never tried. -/
theorem generateErrorResponse_stat_failure_kept :
    (generateErrorResponse statFailureEnv .notFound twoPagesConfig none).body = .file "/errors/404.html" ∧
      (generateErrorResponse statFailureEnv .notFound twoPagesConfig none).headers.getAll .contentLength = [] := by
  decide

end Karpacz.Proof
