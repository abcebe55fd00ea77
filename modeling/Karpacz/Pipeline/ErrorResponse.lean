import Karpacz.Pipeline.Env

/-!
# Error responses

`generate_error_response(status, config, headers)` builds every error response the
pipeline sends once the configuration is known. Its body is the default error page,
unless an `errorPages` entry names a page for the status; the loop takes the first
entry whose `scode` converts to the status and whose file opens, and stops there.

The length it announces is the page's byte length for the default page, and the
file's `metadata().len()` for a page file. A file that opens but whose `metadata()`
fails is still served, with no `Content-Length`: the loop has already broken out.
So the entry is not skipped, as it would be if the open had failed.

The extra headers are copied in order, except `Content-Type` and `Content-Length`;
then the length, if known, and one `Content-Type: text/html`.
-/

namespace Karpacz

/-- `u16::try_from(scode)` then `StatusCode::from_u16`: the status an entry names. -/
def pageStatusCode (i : Int) : Option StatusCode :=
  if 0 ≤ i ∧ i < 65536 then StatusCode.fromU16 i.toNat else none

/-- One turn of the `errorPages` loop: the length and body it settles on, or `none`
where the loop goes on to the next entry. -/
def errorPageEntry (env : Env) (statusCode : StatusCode) (page : Yaml) :
    Option (Option Nat × Body) :=
  match (page.index "scode").asI64 with
  | none => none
  | some code =>
    match pageStatusCode code with
    | none => none
    | some pageStatusCode =>
      if statusCode ≠ pageStatusCode then none
      else
        match (page.index "path").asStr with
        | none => none
        | some pagePath =>
          if env.canOpen pagePath then some (env.statLength pagePath, .file pagePath) else none

/-- The `errorPages` loop: the first entry that settles it. -/
def selectErrorPage (env : Env) (statusCode : StatusCode) : List Yaml → Option (Option Nat × Body)
  | [] => none
  | page :: pages =>
    match errorPageEntry env statusCode page with
    | some chosen => some chosen
    | none => selectErrorPage env statusCode pages

/-- The default page `generate_error_response` starts from. -/
def bareBody (env : Env) (statusCode : StatusCode) (config : ServerConfigRoot) : String :=
  env.generateDefaultErrorPage statusCode (config.get "serverAdministratorEmail").asStr

/-- The content length and body `generate_error_response` settles on. -/
def errorPageBody (env : Env) (statusCode : StatusCode) (config : ServerConfigRoot) :
    Option Nat × Body :=
  match (config.get "errorPages").asVec.bind (selectErrorPage env statusCode) with
  | some chosen => chosen
  | none => (some (bareBody env statusCode config).utf8ByteSize, .full (bareBody env statusCode config))

/-- The extra headers `generate_error_response` copies. -/
def copiedHeaders : Option HeaderMap → List (HeaderName × HeaderValue)
  | some headers => headers.entries.filter fun p => p.1 ≠ .contentType ∧ p.1 ≠ .contentLength
  | none => []

/-- The `Content-Length` header `generate_error_response` adds when the length is known. -/
def contentLengthHeader : Option Nat → List (HeaderName × HeaderValue)
  | some contentLength => [(.contentLength, .ofNat contentLength)]
  | none => []

/-- `generate_error_response`. -/
def generateErrorResponse (env : Env) (statusCode : StatusCode) (config : ServerConfigRoot)
    (headers : Option HeaderMap) : Response :=
  ⟨statusCode,
    ⟨copiedHeaders headers ++ contentLengthHeader (errorPageBody env statusCode config).1 ++
      [(.contentType, .textHtml)]⟩,
    (errorPageBody env statusCode config).2⟩

/-! ## What the response carries -/

section
variable (env : Env) (s : StatusCode) (config : ServerConfigRoot) (headers : Option HeaderMap)

@[simp] theorem generateErrorResponse_status : (generateErrorResponse env s config headers).status = s :=
  rfl

@[simp] theorem generateErrorResponse_body :
    (generateErrorResponse env s config headers).body = (errorPageBody env s config).2 := rfl

theorem contentType_ne_contentLength : HeaderName.contentType ≠ HeaderName.contentLength := by
  decide

theorem getAll_copiedHeaders (n : HeaderName) :
    HeaderMap.getAll ⟨copiedHeaders headers⟩ n =
      if n ≠ .contentType ∧ n ≠ .contentLength then (headers.map (·.getAll n)).getD [] else [] := by
  cases headers with
  | none => simp [copiedHeaders, HeaderMap.getAll]
  | some h =>
      exact (HeaderMap.getAll_mk_filter h
        (fun m => decide (m ≠ .contentType ∧ m ≠ .contentLength)) n).trans (by simp)

theorem getAll_contentLengthHeader (contentLength : Option Nat) (n : HeaderName) :
    HeaderMap.getAll ⟨contentLengthHeader contentLength⟩ n =
      if n = .contentLength then (contentLength.map .ofNat).toList else [] := by
  cases contentLength with
  | none => simp [contentLengthHeader, HeaderMap.getAll]
  | some c =>
      by_cases h : n = .contentLength
      · subst h; simp [contentLengthHeader]
      · simp [contentLengthHeader, h, Ne.symm h]

/-- Every header the caller passes survives, except `Content-Type` and `Content-Length`. -/
theorem getAll_generateErrorResponse {n : HeaderName} (hct : n ≠ .contentType)
    (hcl : n ≠ .contentLength) :
    (generateErrorResponse env s config headers).headers.getAll n =
      (headers.map (·.getAll n)).getD [] := by
  simp [generateErrorResponse, HeaderMap.getAll_mk_append, getAll_copiedHeaders,
    getAll_contentLengthHeader, hct, hcl, Ne.symm hct]

/-- Exactly one `Content-Type`, and it is `text/html`. -/
theorem generateErrorResponse_contentType :
    (generateErrorResponse env s config headers).headers.getAll .contentType = [.textHtml] := by
  simp [generateErrorResponse, HeaderMap.getAll_mk_append, getAll_copiedHeaders,
    getAll_contentLengthHeader, contentType_ne_contentLength]

/-- The `Content-Length` is the one the page settled on, if any. -/
theorem generateErrorResponse_contentLength :
    (generateErrorResponse env s config headers).headers.getAll .contentLength =
      ((errorPageBody env s config).1.map .ofNat).toList := by
  simp [generateErrorResponse, HeaderMap.getAll_mk_append, getAll_copiedHeaders,
    getAll_contentLengthHeader, contentType_ne_contentLength, Ne.symm contentType_ne_contentLength]

end

/-! ## The first page that opens -/

/-- An entry names the status `s` and a path that opens. -/
def pageQualifies (env : Env) (s : StatusCode) (page : Yaml) : Bool :=
  match (page.index "scode").asI64, (page.index "path").asStr with
  | some code, some pagePath => pageStatusCode code == some s && env.canOpen pagePath
  | _, _ => false

/-- The path of an entry, `""` when it has none. -/
def pagePath (page : Yaml) : String := ((page.index "path").asStr).getD ""

theorem errorPageEntry_eq (env : Env) (s : StatusCode) (page : Yaml) :
    errorPageEntry env s page =
      if pageQualifies env s page then
        some (env.statLength (pagePath page), .file (pagePath page))
      else none := by
  unfold errorPageEntry pageQualifies pagePath
  rcases (page.index "scode").asI64 with _ | code
  · cases (page.index "path").asStr <;> rfl
  rcases (page.index "path").asStr with _ | path
  · dsimp only; split <;> simp
  dsimp only
  rcases pageStatusCode code with _ | ps
  · simp
  by_cases hs : s = ps
  · subst hs; simp
  · simp [hs, Ne.symm hs]

/-- **The loop takes the first entry that qualifies.** -/
theorem selectErrorPage_eq (env : Env) (s : StatusCode) (pages : List Yaml) :
    selectErrorPage env s pages =
      (pages.find? (pageQualifies env s)).map fun page =>
        (env.statLength (pagePath page), .file (pagePath page)) := by
  induction pages with
  | nil => rfl
  | cons page pages ih =>
      simp only [selectErrorPage, errorPageEntry_eq, List.find?_cons]
      cases pageQualifies env s page <;> simp [ih]

end Karpacz
