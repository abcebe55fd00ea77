import Karpacz.Proof.Dispatch

/-!
# Reading an access record back

`parseCombined` is a reader for the NCSA combined format: host, ident, user, the time
in brackets, the quoted request line, status, length, and the quoted referer and user
agent, with `\\` and `\"` unescaped inside quotes and a bare `-` read as absent.

`parseCombined_logCombined` is the round trip: the record `log_combined` formats is one
line, and the reader gives back every field, for every value the pipeline passes it,
as long as the user is a single word other than `-`, the target has no quote and no
backslash, and the referer and user agent hold no line break. The user comes from a
handler and the target from the client, and both are printed as they are, so a user
with a line break breaks the record over two lines, and a quote in the target, which
the path-and-query parser accepts, ends the quoted request line early:
`logCombined_not_read_back`.
-/

namespace Karpacz.Proof

open Karpacz

/-! ## The reader -/

/-- The text up to the first `c`, and what follows it. -/
def readUntil (c : Char) : List Char → Option (List Char × List Char)
  | [] => none
  | d :: ds => if d = c then some ([], ds) else (readUntil c ds).map fun p => (d :: p.1, p.2)

/-- The character `c`, and what follows it. -/
def expectChar (c : Char) : List Char → Option (List Char)
  | [] => none
  | d :: ds => if d = c then some ds else none

/-- The inside of a quoted field, unescaped, and what follows the closing quote. -/
def readQuoted : List Char → Option (List Char × List Char)
  | [] => none
  | c :: rest =>
    if c = '"' then some ([], rest)
    else if c = '\\' then
      match rest with
      | [] => none
      | d :: rest' => (readQuoted rest').map fun p => (d :: p.1, p.2)
    else (readQuoted rest).map fun p => (c :: p.1, p.2)

/-- A quoted field, or `-` for an absent one. -/
def readOptQuoted : List Char → Option (Option String × List Char)
  | '-' :: rest => some (none, rest)
  | '"' :: rest => (readQuoted rest).map fun p => (some ⟨p.1⟩, p.2)
  | _ => none

/-- `-` for an absent field. -/
def dashToNone (w : List Char) : Option String := if w = ['-'] then none else some ⟨w⟩

/-- The fields of an access record. -/
structure CombinedFields where
  clientIp : String
  authUser : Option String
  time : String
  method : String
  target : String
  protocol : String
  status : Nat
  contentLength : Option Nat
  referrer : Option String
  userAgent : Option String
  deriving DecidableEq

/-- Host, ident and user, and the time in brackets; then what follows `] "`. -/
def readHead (line : List Char) : Option (List Char × List Char × List Char × List Char) := do
  let host ← readUntil ' ' line
  let ident ← readUntil ' ' host.2
  let user ← readUntil ' ' ident.2
  let r ← expectChar '[' user.2
  let time ← readUntil ']' r
  let r ← expectChar ' ' time.2
  let r ← expectChar '"' r
  pure (host.1, user.1, time.1, r)

/-- The quoted request line, unescaped and split at its first two spaces into method,
target and protocol; then what follows `" `. -/
def readRequestLine (r : List Char) : Option (List Char × List Char × List Char × List Char) := do
  let line ← readQuoted r
  let method ← readUntil ' ' line.1
  let target ← readUntil ' ' method.2
  let r ← expectChar ' ' line.2
  pure (method.1, target.1, target.2, r)

/-- Status, length, referer and user agent, to the end of the line. -/
def readTail (r : List Char) : Option (List Char × List Char × Option String × Option String) := do
  let status ← readUntil ' ' r
  let length ← readUntil ' ' status.2
  let referrer ← readOptQuoted length.2
  let r ← expectChar ' ' referrer.2
  let userAgent ← readOptQuoted r
  if userAgent.2 = [] then pure (status.1, length.1, referrer.1, userAgent.1) else none

/-- Split one record into its fields. -/
def parseCombined (line : String) : Option CombinedFields := do
  let (host, user, time, r) ← readHead line.data
  let (method, target, protocol, r) ← readRequestLine r
  let (status, length, referrer, userAgent) ← readTail r
  pure ⟨⟨host⟩, dashToNone user, ⟨time⟩, ⟨method⟩, ⟨target⟩, ⟨protocol⟩, digitsValue status,
    (dashToNone length).map fun l => digitsValue l.data, referrer, userAgent⟩

example : parseCombined "10.0.0.1 - bob [09/Nov/2026:12:00:00 +0000] \"GET /a?b HTTP/1.1\" 200 - \"x\\\"y\" -" =
    some ⟨"10.0.0.1", some "bob", "09/Nov/2026:12:00:00 +0000", "GET", "/a?b", "HTTP/1.1", 200, none,
      some "x\"y", none⟩ := by
  decide

/-! ## The reader undoes each piece -/

theorem readUntil_append {c : Char} : ∀ {w : List Char} (rest : List Char), c ∉ w →
    readUntil c (w ++ c :: rest) = some (w, rest)
  | [], _, _ => by simp [readUntil]
  | d :: w, rest, h => by
    have hd : d ≠ c := fun hdc => h (hdc ▸ List.mem_cons_self d w)
    simp [readUntil, hd, readUntil_append rest (fun hw => h (List.mem_cons_of_mem d hw))]

theorem expectChar_cons (c : Char) (rest : List Char) : expectChar c (c :: rest) = some rest := by
  simp [expectChar]

/-- The escaping `log_combined` applies inside quotes. -/
def escapeChars : List Char → List Char
  | [] => []
  | c :: cs => (if c = '\\' then ['\\', '\\'] else if c = '"' then ['\\', '"'] else [c]) ++ escapeChars cs

theorem escapeQuoted_data (s : String) : (escapeQuoted s).data = escapeChars s.data := by
  show replaceChar '"' ['\\', '"'] (replaceChar '\\' ['\\', '\\'] s.data) = _
  induction s.data with
  | nil => rfl
  | cons c cs ih =>
    simp only [replaceChar, escapeChars]
    by_cases h1 : c = '\\'
    · subst h1; simp [replaceChar, ih]
    · by_cases h2 : c = '"'
      · subst h2; simp [replaceChar, ih]
      · simp [replaceChar, h1, h2, ih]

theorem readQuoted_escapeChars : ∀ (s rest : List Char),
    readQuoted (escapeChars s ++ '"' :: rest) = some (s, rest)
  | [], rest => by unfold readQuoted; simp [escapeChars]
  | c :: cs, rest => by
    have ih := readQuoted_escapeChars cs rest
    by_cases h1 : c = '\\'
    · subst h1; unfold readQuoted; simp [escapeChars, ih]
    · by_cases h2 : c = '"'
      · subst h2; unfold readQuoted; simp [escapeChars, ih]
      · simp only [escapeChars, h1, h2, if_false, List.singleton_append, List.cons_append]
        unfold readQuoted; simp [h1, h2, ih]

/-- Text with no backslash and no quote is its own escape. -/
theorem escapeChars_of_plain : ∀ {l : List Char}, (∀ c ∈ l, c ≠ '\\' ∧ c ≠ '"') → escapeChars l = l
  | [], _ => rfl
  | c :: l, h => by
    obtain ⟨h1, h2⟩ := h c (List.mem_cons_self _ _)
    simp only [escapeChars, h1, h2, if_false, List.singleton_append,
      escapeChars_of_plain fun d hd => h d (List.mem_cons_of_mem _ hd)]

theorem readOptQuoted_quotedOrDash (field : Option String) (rest : List Char) :
    readOptQuoted ((quotedOrDash field).data ++ rest) = some (field, rest) := by
  cases field with
  | none => rfl
  | some s =>
    simp only [quotedOrDash, String.data_append, List.append_assoc]
    show readOptQuoted ('"' :: ((escapeQuoted s).data ++ '"' :: rest)) = _
    simp [readOptQuoted, escapeQuoted_data, readQuoted_escapeChars]

theorem dashToNone_getD (authUser : Option String) (h : authUser ≠ some "-") :
    dashToNone (authUser.getD "-").data = authUser := by
  cases authUser with
  | none => rfl
  | some u =>
    have hu : u.data ≠ ['-'] := fun hd => h (congrArg some (String.ext hd))
    simp [dashToNone, hu]

/-! ## What a record is made of -/

/-- The length field. -/
def lengthChars : Option Nat → List Char
  | some n => decimal n
  | none => ['-']

theorem logCombined_data (now : LocalTime) (clientIp : IpAddr) (authUser : Option String)
    (method requestPath protocol : String) (statusCode : Nat) (contentLength : Option Nat)
    (referrer userAgent : Option String) :
    (logCombined now clientIp authUser method requestPath protocol statusCode contentLength referrer
      userAgent).message.data =
      clientIp.text.data ++ ' ' :: '-' :: ' ' :: ((authUser.getD "-").data ++ ' ' :: '[' ::
        ((formatCombinedTime now).data ++ ']' :: ' ' :: '"' :: (method.data ++ ' ' ::
        (requestPath.data ++ ' ' :: (protocol.data ++ '"' :: ' ' :: (decimal statusCode ++ ' ' ::
        (lengthChars contentLength ++ ' ' :: ((quotedOrDash referrer).data ++ ' ' ::
        (quotedOrDash userAgent).data)))))))) := by
  cases contentLength <;> simp [logCombined, lengthChars, String.data_append]

theorem digit_ne {c : Char} (h : c.isDigit = true) : c ≠ ' ' ∧ c ≠ ']' ∧ c ≠ '\n' ∧ c ≠ '-' := by
  refine ⟨?_, ?_, ?_, ?_⟩ <;> rintro rfl <;> simp at h

theorem pad2_isDigit (n : Nat) : ∀ c ∈ pad2 n, c.isDigit = true := by
  unfold pad2; split
  · exact List.forall_mem_cons.2 ⟨rfl, decimal_isDigit n⟩
  · exact decimal_isDigit n

theorem formatYear_chars (y : Nat) : ∀ c ∈ formatYear y, c.isDigit = true ∨ c = '+' := by
  unfold formatYear; split
  · exact List.forall_mem_append.2 ⟨fun c hc => .inl ((List.eq_of_mem_replicate hc).symm ▸ rfl),
      fun c hc => .inl (decimal_isDigit y c hc)⟩
  · exact List.forall_mem_cons.2 ⟨.inr rfl, fun c hc => .inl (decimal_isDigit y c hc)⟩

theorem monthAbbrev_chars (m : Fin 12) : ∀ c ∈ (monthAbbrev m).data, c ≠ ']' ∧ c ≠ '\n' := by
  revert m; decide

/-- The time field has no `]` and no line break. -/
theorem formatCombinedTime_chars (t : LocalTime) :
    ∀ c ∈ (formatCombinedTime t).data, c ≠ ']' ∧ c ≠ '\n' := by
  have hpad : ∀ n, ∀ c ∈ pad2 n, c ≠ ']' ∧ c ≠ '\n' := fun n c hc =>
    ⟨(digit_ne (pad2_isDigit n c hc)).2.1, (digit_ne (pad2_isDigit n c hc)).2.2.1⟩
  have hyear : ∀ c ∈ formatYear t.year, c ≠ ']' ∧ c ≠ '\n' := fun c hc => by
    rcases formatYear_chars t.year c hc with h | rfl
    · exact ⟨(digit_ne h).2.1, (digit_ne h).2.2.1⟩
    · decide
  have hsign : (if t.offsetWest then '-' else '+') ≠ ']' ∧ (if t.offsetWest then '-' else '+') ≠ '\n' := by
    cases t.offsetWest <;> decide
  simp only [formatCombinedTime, List.forall_mem_append, List.forall_mem_cons]
  and_intros
  all_goals first | exact hpad _ | exact hyear | exact monthAbbrev_chars _ | exact hsign.1 | exact hsign.2 | decide

/-- A character a list's every element rules out is not in it. -/
theorem not_mem_of_all {p : Char → Bool} {l : List Char} (h : l.all p = true) {c : Char}
    (hc : p c = false) : c ∉ l := fun hm => by
  rw [List.all_eq_true] at h
  rw [h c hm] at hc
  cases hc

theorem mem_escapeChars {c : Char} : ∀ {l : List Char}, c ∈ escapeChars l → c ∈ l ∨ c = '\\'
  | [], h => by simp [escapeChars] at h
  | d :: l, h => by
    simp only [escapeChars, List.mem_append] at h
    rcases h with h | h
    · split_ifs at h with h1 h2 <;> simp at h
      · exact .inr h
      · rcases h with rfl | rfl
        · exact .inr rfl
        · exact .inl (h2 ▸ List.mem_cons_self _ _)
      · exact .inl (h ▸ List.mem_cons_self _ _)
    · exact (mem_escapeChars h).imp (List.mem_cons_of_mem d) id

theorem newline_not_mem_quotedOrDash {field : Option String} (h : ∀ s, field = some s → '\n' ∉ s.data) :
    '\n' ∉ (quotedOrDash field).data := by
  cases field with
  | none => decide
  | some s =>
    simp only [quotedOrDash, String.data_append, escapeQuoted_data, List.mem_append]
    rintro ((hq | hm) | hq)
    · cases hq; contradiction
    · rcases mem_escapeChars hm with hm | hm
      · exact h s rfl hm
      · cases hm
    · cases hq; contradiction

/-! ## The round trip -/

theorem readHead_eq {host user time : List Char} (rest : List Char) (hh : ' ' ∉ host) (hu : ' ' ∉ user)
    (ht : ']' ∉ time) :
    readHead (host ++ ' ' :: '-' :: ' ' :: (user ++ ' ' :: '[' :: (time ++ ']' :: ' ' :: '"' :: rest))) =
      some (host, user, time, rest) := by
  have hident : readUntil ' ' ('-' :: ' ' :: (user ++ ' ' :: '[' :: (time ++ ']' :: ' ' :: '"' :: rest))) =
      some (['-'], user ++ ' ' :: '[' :: (time ++ ']' :: ' ' :: '"' :: rest)) := by
    simp [readUntil]
  simp [readHead, readUntil_append _ hh, hident, readUntil_append _ hu, expectChar_cons,
    readUntil_append _ ht]

theorem readRequestLine_eq {method target protocol : List Char} (rest : List Char) (hm : ' ' ∉ method)
    (ht : ' ' ∉ target) (hplain : ∀ c ∈ method ++ ' ' :: (target ++ ' ' :: protocol), c ≠ '\\' ∧ c ≠ '"') :
    readRequestLine (method ++ ' ' :: (target ++ ' ' :: (protocol ++ '"' :: ' ' :: rest))) =
      some (method, target, protocol, rest) := by
  have hline := readQuoted_escapeChars (method ++ ' ' :: (target ++ ' ' :: protocol)) (' ' :: rest)
  rw [escapeChars_of_plain hplain] at hline
  simp only [List.append_assoc, List.cons_append] at hline
  simp [readRequestLine, hline, readUntil_append _ hm, readUntil_append _ ht, expectChar_cons]

theorem readTail_eq {status length : List Char} (hs : ' ' ∉ status) (hl : ' ' ∉ length)
    (referrer userAgent : Option String) :
    readTail (status ++ ' ' :: (length ++ ' ' :: ((quotedOrDash referrer).data ++ ' ' ::
      (quotedOrDash userAgent).data))) = some (status, length, referrer, userAgent) := by
  have hua := readOptQuoted_quotedOrDash userAgent []
  rw [List.append_nil] at hua
  simp [readTail, readUntil_append _ hs, readUntil_append _ hl, readOptQuoted_quotedOrDash, expectChar_cons, hua]

theorem lengthChars_ne (contentLength : Option Nat) :
    ' ' ∉ lengthChars contentLength ∧ '\n' ∉ lengthChars contentLength := by
  cases contentLength with
  | none => decide
  | some n =>
    exact ⟨fun h => (digit_ne (decimal_isDigit n _ h)).1 rfl,
      fun h => (digit_ne (decimal_isDigit n _ h)).2.2.1 rfl⟩

theorem dashToNone_lengthChars (contentLength : Option Nat) :
    (dashToNone (lengthChars contentLength)).map (fun l => digitsValue l.data) = contentLength := by
  cases contentLength with
  | none => rfl
  | some n =>
    have hne : decimal n ≠ ['-'] := fun h =>
      (digit_ne (decimal_isDigit n '-' (h ▸ List.mem_singleton_self _))).2.2.2 rfl
    simp [dashToNone, lengthChars, hne]

/-- **The access record is one line, and a combined-format reader gives back its fields**,
for every client, time, method, status, length and protocol, every target made of
visible characters other than the quote and the backslash, which `log_combined` prints
unescaped inside the quoted request line, every user that is one word other than `-`,
and every referer and user agent without a line break. -/
theorem parseCombined_logCombined (now : LocalTime) (clientIp : IpAddr) (authUser : Option String)
    (method : Method) (target : String) (version : Version) (statusCode : Nat)
    (contentLength : Option Nat) (referrer userAgent : Option String)
    (huser : ∀ u, authUser = some u → u ≠ "-" ∧ ' ' ∉ u.data ∧ '\n' ∉ u.data)
    (htarget : ∀ c ∈ target.data, '!' ≤ c ∧ c ≤ '~' ∧ c ≠ '"' ∧ c ≠ '\\')
    (hreferrer : ∀ r, referrer = some r → '\n' ∉ r.data)
    (huserAgent : ∀ r, userAgent = some r → '\n' ∉ r.data) :
    let line := (logCombined now clientIp authUser method.name target (protocolLabel version) statusCode
      contentLength referrer userAgent).message
    '\n' ∉ line.data ∧
      parseCombined line = some ⟨clientIp.text, authUser, formatCombinedTime now, method.name, target,
        protocolLabel version, statusCode, contentLength, referrer, userAgent⟩ := by
  have hip : ' ' ∉ clientIp.text.data ∧ '\n' ∉ clientIp.text.data := by
    have h := clientIp.valid
    simp only [Bool.and_eq_true] at h
    exact ⟨not_mem_of_all h.2 rfl, not_mem_of_all h.2 rfl⟩
  have huser' : ' ' ∉ (authUser.getD "-").data ∧ '\n' ∉ (authUser.getD "-").data := by
    cases authUser with
    | none => decide
    | some u => exact (huser u rfl).2
  have hmethod : ' ' ∉ method.name.data ∧ '\n' ∉ method.name.data := by
    have h := method.token
    simp only [Bool.and_eq_true] at h
    exact ⟨not_mem_of_all h.2 (by decide), not_mem_of_all h.2 (by decide)⟩
  have htarget' : ' ' ∉ target.data ∧ '\n' ∉ target.data :=
    ⟨fun h => absurd (htarget _ h).1 (by decide), fun h => absurd (htarget _ h).1 (by decide)⟩
  have hprotocol : (∀ c ∈ (protocolLabel version).data, c ≠ '\\' ∧ c ≠ '"') ∧
      '\n' ∉ (protocolLabel version).data := by
    cases version <;> decide
  have hplain : ∀ c ∈ method.name.data ++ ' ' :: (target.data ++ ' ' :: (protocolLabel version).data),
      c ≠ '\\' ∧ c ≠ '"' := by
    have hm := method.token
    simp only [Bool.and_eq_true] at hm
    simp only [List.mem_append, List.mem_cons]
    rintro c ((hc | rfl | hc | rfl | hc))
    · exact ⟨fun h => not_mem_of_all hm.2 (by decide) (h ▸ hc), fun h => not_mem_of_all hm.2 (by decide) (h ▸ hc)⟩
    · decide
    · exact ⟨(htarget c hc).2.2.2, (htarget c hc).2.2.1⟩
    · decide
    · exact hprotocol.1 c hc
  have hstatus : ' ' ∉ decimal statusCode ∧ '\n' ∉ decimal statusCode :=
    ⟨fun h => (digit_ne (decimal_isDigit _ _ h)).1 rfl, fun h => (digit_ne (decimal_isDigit _ _ h)).2.2.1 rfl⟩
  have htime : ']' ∉ (formatCombinedTime now).data ∧ '\n' ∉ (formatCombinedTime now).data :=
    ⟨fun h => (formatCombinedTime_chars now _ h).1 rfl, fun h => (formatCombinedTime_chars now _ h).2 rfl⟩
  intro line
  refine ⟨?_, ?_⟩
  · simp [line, logCombined_data, hip.2, huser'.2, htime.2, hmethod.2, htarget'.2, hprotocol.2, hstatus.2,
      (lengthChars_ne _).2, newline_not_mem_quotedOrDash hreferrer, newline_not_mem_quotedOrDash huserAgent]
  · have hauth : authUser ≠ some "-" := fun h => (huser "-" h).1 rfl
    simp only [line, parseCombined, logCombined_data, Option.bind_eq_bind, Option.some_bind, Option.pure_def,
      readHead_eq _ hip.1 huser'.1 htime.1,
      readRequestLine_eq _ hmethod.1 htarget'.1 hplain,
      readTail_eq hstatus.1 (lengthChars_ne contentLength).1 referrer userAgent, dashToNone_getD _ hauth,
      digitsValue_decimal, dashToNone_lengthChars]

theorem parseCombined_logCombined_sample :
    (∀ u, some "alice" = some u → u ≠ "-" ∧ ' ' ∉ u.data ∧ '\n' ∉ u.data) ∧
      (∀ c ∈ "/index.html?lang=en".data, '!' ≤ c ∧ c ≤ '~' ∧ c ≠ '"' ∧ c ≠ '\\') ∧
      (∀ r, some "https://example.org/\"quoted\"" = some r → '\n' ∉ r.data) ∧
      (∀ r, (none : Option String) = some r → '\n' ∉ r.data) ∧
      '\n' ∉ (logCombined sampleEnv.clock sampleAddr.ip (some "alice") Method.get.name "/index.html?lang=en"
        (protocolLabel .http11) 200 (some 1024) (some "https://example.org/\"quoted\"") none).message.data ∧
      parseCombined (logCombined sampleEnv.clock sampleAddr.ip (some "alice") Method.get.name
        "/index.html?lang=en" (protocolLabel .http11) 200 (some 1024) (some "https://example.org/\"quoted\"")
        none).message =
        some ⟨sampleAddr.ip.text, some "alice", formatCombinedTime sampleEnv.clock, Method.get.name,
          "/index.html?lang=en", protocolLabel .http11, 200, some 1024, some "https://example.org/\"quoted\"",
          none⟩ :=
  have huser : ∀ u, some "alice" = some u → u ≠ "-" ∧ ' ' ∉ u.data ∧ '\n' ∉ u.data := by
    rintro u ⟨⟩; decide
  have href : ∀ r, some "https://example.org/\"quoted\"" = some r → '\n' ∉ r.data := by
    rintro r ⟨⟩; decide
  have hua : ∀ r, (none : Option String) = some r → '\n' ∉ r.data := fun _ h => nomatch h
  ⟨huser, by decide, href, hua, parseCombined_logCombined sampleEnv.clock sampleAddr.ip (some "alice") .get
    "/index.html?lang=en" .http11 200 (some 1024) _ none huser (by decide) href hua⟩

/-- Two records the reader does not give back. A user with a line break, as a handler
may return one, splits the record in two. A target with a quote, which the
path-and-query parser accepts, is printed inside the quoted request line as it is, so
the reader's request line ends at that quote. -/
theorem logCombined_not_read_back :
    '\n' ∈ (logCombined sampleEnv.clock sampleAddr.ip (some "alice\nbob") "GET" "/" "HTTP/1.1" 200
      (some 0) none none).message.data ∧
    (PathAndQuery.fromStr "/a\"b").toOption = some ⟨"/a\"b", none⟩ ∧
    (parseCombined (logCombined sampleEnv.clock sampleAddr.ip none "GET" "/a\"b" "HTTP/1.1" 200
      (some 0) none none).message).map CombinedFields.target ≠ some "/a\"b" := by
  decide

end Karpacz.Proof
