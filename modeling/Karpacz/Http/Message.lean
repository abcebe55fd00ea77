import Karpacz.Http.Header

/-!
# Requests, responses and the connection they arrive on

The rest of the `http`/`hyper` vocabulary the pipeline touches. A status code is a
number in `100..=999` (`StatusCode::from_u16`). A method is a token. A URI keeps the
three parts `Uri::into_parts` exposes, and `PathAndQuery::from_str`, `Uri::path`,
`Uri::to_string` and `Uri::from_parts` follow the crate: an authority-form target has the empty path, and
`from_parts` refuses a scheme without an authority and an authority with a path but
no scheme.

Bodies are kept only as far as the pipeline looks at them: `Full` bodies built from a
page, `Empty` bodies, streams over an error-page file, and whatever a handler builds,
with the exact size hint `size_hint().exact()` reports. An IP address is kept as the
text `Display` prints for it, which is all the pipeline does with one.
-/

namespace Karpacz

/-- A status code carries its range. -/
structure StatusCode where
  code : Nat
  valid : 100 ≤ code ∧ code < 1000
  deriving DecidableEq

namespace StatusCode

/-- `StatusCode::from_u16`. -/
def fromU16 (n : Nat) : Option StatusCode :=
  if h : 100 ≤ n ∧ n < 1000 then some ⟨n, h⟩ else none

def ok : StatusCode := ⟨200, by decide⟩
def noContent : StatusCode := ⟨204, by decide⟩
def badRequest : StatusCode := ⟨400, by decide⟩
def notFound : StatusCode := ⟨404, by decide⟩
def internalServerError : StatusCode := ⟨500, by decide⟩
def notImplemented : StatusCode := ⟨501, by decide⟩

theorem fromU16_code {n : Nat} {s : StatusCode} (h : fromU16 n = some s) : s.code = n := by
  unfold fromU16 at h; split at h
  · cases h; rfl
  · cases h

theorem fromU16_self (s : StatusCode) : fromU16 s.code = some s := by
  simp [fromU16, s.valid]

end StatusCode

/-- The token characters of RFC 9110, which a method is made of. -/
def tchar (c : Char) : Bool :=
  c.isAlphanum || "!#$%&'*+-.^_`|~".data.contains c

/-- A request method: a non-empty token. -/
structure Method where
  name : String
  token : (!name.data.isEmpty && name.data.all tchar) = true
  deriving DecidableEq

namespace Method

def connect : Method := ⟨"CONNECT", by decide⟩
def options : Method := ⟨"OPTIONS", by decide⟩
def get : Method := ⟨"GET", by decide⟩

end Method

/-- `hyper::Version`. -/
inductive Version
  | http09 | http10 | http11 | http2 | http3
  deriving DecidableEq

/-- A path-and-query: the path text before `?`, and the query after it. -/
structure PathAndQuery where
  path : String
  query : Option String
  deriving DecidableEq

namespace PathAndQuery

def empty : PathAndQuery := ⟨"", none⟩

/-- `PathAndQuery::path`: an empty path reads as `/`. -/
def readPath (pq : PathAndQuery) : String := if pq.path = "" then "/" else pq.path

/-- The bytes the path loop of `PathAndQuery::from_shared` keeps: those a path needs
not percent-encode, and `"`, `{` and `}`, which clients send as they are. -/
def pathChar (c : Char) : Bool :=
  let n := c.toNat
  n == 0x21 || (0x24 ≤ n && n ≤ 0x3B) || n == 0x3D || (0x40 ≤ n && n ≤ 0x5F) ||
    (0x61 ≤ n && n ≤ 0x7A) || n == 0x7C || n == 0x7E || n == 0x22 || n == 0x7B || n == 0x7D

/-- The bytes its query loop keeps. -/
def queryChar (c : Char) : Bool :=
  let n := c.toNat
  n == 0x21 || (0x24 ≤ n && n ≤ 0x3B) || n == 0x3D || (0x3F ≤ n && n ≤ 0x7E)

/-- The path loop: the path, and what follows the `?` that ends it. A `#` or the end of
the text ends the path with no query. -/
def scanPath : List Char → Except String (List Char × Option (List Char))
  | [] => .ok ([], none)
  | c :: cs =>
    if c = '?' then .ok ([], some cs)
    else if c = '#' then .ok ([], none)
    else if pathChar c then (scanPath cs).map fun r => (c :: r.1, r.2)
    else .error "invalid uri character"

/-- The query loop: the query, up to a `#`. -/
def scanQuery : List Char → Except String (List Char)
  | [] => .ok []
  | c :: cs =>
    if c = '#' then .ok []
    else if queryChar c then (scanQuery cs).map (c :: ·)
    else .error "invalid uri character"

/-- `str::parse::<PathAndQuery>`, as `http` 1.2's `from_shared` scans it; the fragment is
dropped. -/
def fromStr (s : String) : Except String PathAndQuery :=
  match scanPath s.data with
  | .error err => .error err
  | .ok (path, none) => .ok ⟨⟨path⟩, none⟩
  | .ok (path, some rest) => (scanQuery rest).map fun query => ⟨⟨path⟩, some ⟨query⟩⟩

theorem ne_of_pathChar {c : Char} (h : pathChar c = true) : c ≠ '?' ∧ c ≠ '#' := by
  constructor <;> (rintro rfl; exact absurd h (by decide))

/-- The path loop passes over path bytes and goes on with what follows them. -/
theorem scanPath_append {p : List Char} (hp : ∀ c ∈ p, pathChar c = true) (rest : List Char) :
    scanPath (p ++ rest) = (scanPath rest).map fun r => (p ++ r.1, r.2) := by
  induction p with
  | nil => rw [List.nil_append]; cases scanPath rest <;> rfl
  | cons c p ih =>
    have hc := hp c (List.mem_cons_self _ _)
    rw [List.cons_append, scanPath, if_neg (ne_of_pathChar hc).1, if_neg (ne_of_pathChar hc).2,
      if_pos hc, ih fun d hd => hp d (List.mem_cons_of_mem _ hd)]
    cases scanPath rest <;> rfl

theorem scanQuery_of_queryChar : ∀ {q : List Char}, (∀ c ∈ q, queryChar c = true) → scanQuery q = .ok q
  | [], _ => rfl
  | c :: q, hq => by
    have hc := hq c (List.mem_cons_self _ _)
    have hne : c ≠ '#' := by rintro rfl; exact absurd hc (by decide)
    rw [scanQuery, if_neg hne, if_pos hc,
      scanQuery_of_queryChar fun d hd => hq d (List.mem_cons_of_mem _ hd)]
    rfl

theorem queryChar_of_scanQuery : ∀ {cs q : List Char}, scanQuery cs = .ok q → ∀ c ∈ q, queryChar c = true
  | [], _, h => by cases h; simp
  | c :: cs, q, h => by
    unfold scanQuery at h
    split_ifs at h with hhash hc
    · cases h; simp
    · cases hs : scanQuery cs with
      | error err => rw [hs] at h; cases h
      | ok r =>
        rw [hs] at h; cases h
        exact List.forall_mem_cons.mpr ⟨hc, queryChar_of_scanQuery hs⟩

/-- A parsed query is made of query bytes. -/
theorem queryChar_of_fromStr {s : String} {pq : PathAndQuery} (h : fromStr s = .ok pq) :
    ∀ q, pq.query = some q → ∀ c ∈ q.data, queryChar c = true := by
  unfold fromStr at h
  intro q hq
  split at h
  · cases h
  · cases h; cases hq
  · rename_i rest _
    cases hs : scanQuery rest with
    | error err => rw [hs] at h; cases h
    | ok query =>
      rw [hs] at h; cases h; cases hq
      exact queryChar_of_scanQuery hs

/-- **The round trip, with a query.** A path of path bytes, `?` and a query of query
bytes parse back into that path and that query. -/
theorem fromStr_path_query {p q : String} (hp : ∀ c ∈ p.data, pathChar c = true)
    (hq : ∀ c ∈ q.data, queryChar c = true) : fromStr (p ++ ("?" ++ q)) = .ok ⟨p, some q⟩ := by
  have hs : (p ++ ("?" ++ q)).data = p.data ++ '?' :: q.data := rfl
  rw [fromStr, hs, scanPath_append hp]
  simp only [scanPath, if_true, Except.map, List.append_nil, scanQuery_of_queryChar hq]

/-- **The round trip, without one.** -/
theorem fromStr_path {p : String} (hp : ∀ c ∈ p.data, pathChar c = true) :
    fromStr p = .ok ⟨p, none⟩ := by
  rw [fromStr, ← List.append_nil p.data, scanPath_append hp]
  simp only [scanPath, Except.map, List.append_nil]

end PathAndQuery

/-- A request target, as `Uri::into_parts` splits it. -/
structure Uri where
  scheme : Option String
  authority : Option String
  pathAndQuery : PathAndQuery
  deriving DecidableEq

namespace Uri

/-- `Uri::has_path`. -/
def hasPath (u : Uri) : Bool :=
  u.pathAndQuery != PathAndQuery.empty || u.scheme.isSome

/-- `Uri::path`. -/
def path (u : Uri) : String := if u.hasPath then u.pathAndQuery.readPath else ""

/-- `Uri::query`. -/
def query (u : Uri) : Option String := u.pathAndQuery.query

/-- `Uri::host().is_some()`: there is a host exactly when there is an authority. -/
def hasHost (u : Uri) : Bool := u.authority.isSome

/-- `Uri::to_string`. -/
def toString (u : Uri) : String :=
  (match u.scheme with | some s => s ++ "://" | none => "") ++
  u.authority.getD "" ++ u.path ++
  (match u.query with | some q => "?" ++ q | none => "")

/-- The path-and-query `Uri::into_parts` hands back. -/
def partsPathAndQuery (u : Uri) : Option PathAndQuery :=
  if u.hasPath then some u.pathAndQuery else none

/-- `Uri::from_parts`, with the texts of its `InvalidUriParts` errors. -/
def fromParts (scheme authority : Option String) (pathAndQuery : Option PathAndQuery) :
    Except String Uri :=
  if scheme.isSome && authority.isNone then .error "authority missing"
  else if scheme.isSome && pathAndQuery.isNone then .error "path missing"
  else if scheme.isNone && authority.isSome && pathAndQuery.isSome then .error "scheme missing"
  else .ok ⟨scheme, authority, pathAndQuery.getD PathAndQuery.empty⟩

/-- `from_parts` takes a path-and-query with both a scheme and an authority, or with
neither. -/
theorem fromParts_of_form {scheme authority : Option String} (pq : PathAndQuery)
    (h : (scheme = none ∧ authority = none) ∨ (scheme.isSome ∧ authority.isSome)) :
    fromParts scheme authority (some pq) = .ok ⟨scheme, authority, pq⟩ := by
  rcases h with ⟨rfl, rfl⟩ | ⟨hs, ha⟩
  · rfl
  · obtain ⟨s, rfl⟩ := Option.isSome_iff_exists.mp hs
    obtain ⟨a, rfl⟩ := Option.isSome_iff_exists.mp ha
    rfl

theorem path_of_ne_empty {scheme authority : Option String} {path : String} {query : Option String}
    (h : path ≠ "") : (⟨scheme, authority, ⟨path, query⟩⟩ : Uri).path = path := by
  simp [Uri.path, hasPath, PathAndQuery.readPath, PathAndQuery.empty, h]

theorem eq_of_partsPathAndQuery {u : Uri} {pq : PathAndQuery} (h : u.partsPathAndQuery = some pq) :
    pq = u.pathAndQuery := by
  unfold partsPathAndQuery at h
  split at h
  · cases h; rfl
  · cases h

/-- `into_parts` hands back no path-and-query only for a URI without a query. -/
theorem query_of_partsPathAndQuery {u : Uri} (h : u.partsPathAndQuery = none) : u.query = none := by
  unfold partsPathAndQuery at h
  split at h
  · cases h
  · rename_i hpath
    simp only [hasPath, Bool.or_eq_true, bne_iff_ne, ne_eq, not_or, not_not] at hpath
    simp [query, hpath.1, PathAndQuery.empty]

end Uri

/-- A response body, as far as the pipeline looks at one. -/
inductive Body
  /-- `Full::new(Bytes::from(text))`. -/
  | full (text : String)
  /-- `Empty::new()`. -/
  | empty
  /-- A `StreamBody` over the opened file at `path`. -/
  | file (path : String)
  /-- Any other body a handler builds, named by `tag`, with its exact size hint. -/
  | stream (tag : Nat) (exact : Option Nat)
  deriving DecidableEq

/-- `size_hint().exact()`. -/
def Body.exactSize : Body → Option Nat
  | .full text => some text.utf8ByteSize
  | .empty => some 0
  | .file _ => none
  | .stream _ exact => exact

/-- A request head. The streaming body is never read by the pipeline. -/
structure Request where
  method : Method
  version : Version
  uri : Uri
  headers : HeaderMap
  deriving DecidableEq

/-- A response. -/
structure Response where
  status : StatusCode
  headers : HeaderMap
  body : Body
  deriving DecidableEq

/-- The characters `Display for IpAddr` prints: hexadecimal digits, `.` and `:`. -/
def ipChar (c : Char) : Bool := c.isDigit || ('a' ≤ c && c ≤ 'f') || c = '.' || c = ':'

/-- An IP address, kept as the non-empty text it displays as. -/
structure IpAddr where
  text : String
  valid : (!text.data.isEmpty && text.data.all ipChar) = true
  deriving DecidableEq

/-- `SocketAddr`: an address and a port. -/
structure SocketAddr where
  ip : IpAddr
  port : UInt16
  deriving DecidableEq

/-- `SocketData`: what a handler learns about the connection. -/
structure SocketData where
  remoteAddr : SocketAddr
  localAddr : SocketAddr
  encrypted : Bool
  deriving DecidableEq

end Karpacz
