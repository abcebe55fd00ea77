import Karpacz.Http.Decimal

/-!
# Header names, header values and header maps

The pipeline reads and writes headers through the `http` crate's three types, and
every property about `Server`, `customHeaders` or the access log is a property of
what these types admit. They are modelled as the crate defines them:

* a **header value** is a byte string whose bytes are `≥ 32` and not DEL, or tab
  (`HeaderValue::from_bytes`); `to_str` succeeds only when every byte is visible
  ASCII or tab, and `from_str` admits a string exactly when its UTF-8 bytes are
  admitted;
* a **header name** is a non-empty token of fewer than `2^16` bytes, stored in lower
  case: `HeaderName::from_str` lowercases ASCII letters and rejects every other
  byte outside the token alphabet;
* a **header map** is the list of its `(name, value)` pairs. What the pipeline
  observes of a name is `get_all`, the values under that name in order, and every
  lemma here is stated through it. (`HeaderMap::insert` keeps the slot of the first
  value it replaces; the slot is not observable through `get_all`, so `insert` below
  puts the new pair last.)
-/

namespace Karpacz

/-- The bytes `HeaderValue::from_bytes` admits: `b ≥ 32 && b != 127 || b == b'\t'`. -/
def validHeaderByte (b : UInt8) : Bool :=
  (32 ≤ b.toNat && b.toNat != 127) || b.toNat == 9

/-- The bytes `HeaderValue::to_str` accepts: `b >= 32 && b < 127 || b == b'\t'`. -/
def visibleAsciiByte (b : UInt8) : Bool :=
  (32 ≤ b.toNat && b.toNat < 127) || b.toNat == 9

/-- A header value carries the proof that `from_bytes` admits each of its bytes. -/
structure HeaderValue where
  bytes : List UInt8
  valid : bytes.all validHeaderByte = true
  deriving DecidableEq

namespace HeaderValue

/-- `HeaderValue::to_str`: the value as text when it is visible ASCII. -/
def toStr (v : HeaderValue) : Option String :=
  if v.bytes.all visibleAsciiByte then some ⟨v.bytes.map fun b => Char.ofNat b.toNat⟩
  else none

/-- `HeaderValue::from_str`: the UTF-8 bytes of `s`, when each is admitted. -/
def fromStr (s : String) : Option HeaderValue :=
  if h : (s.data.flatMap String.utf8EncodeChar).all validHeaderByte = true then
    some ⟨_, h⟩
  else none

/-- `HeaderValue::from(u64)`: the decimal digits of `n`. -/
def ofNat (n : Nat) : HeaderValue :=
  ⟨(decimal n).map fun c => c.toNat.toUInt8, by
    rw [List.all_eq_true]
    intro b hb
    obtain ⟨c, hc, rfl⟩ := List.mem_map.mp hb
    have h := decimal_isDigit n c hc
    simp only [Char.isDigit, Bool.and_eq_true, decide_eq_true_eq] at h
    have h1 : 48 ≤ c.toNat := h.1
    have h2 : c.toNat ≤ 57 := h.2
    simp [validHeaderByte, Nat.toUInt8, UInt8.toNat, UInt8.ofNat, Fin.ofNat]
    omega⟩

/-- `text/html`. -/
def textHtml : HeaderValue := ⟨"text/html".data.map fun c => c.toNat.toUInt8, by decide⟩

/-- `GET, POST, HEAD, OPTIONS`. -/
def allowedMethods : HeaderValue :=
  ⟨"GET, POST, HEAD, OPTIONS".data.map fun c => c.toNat.toUInt8, by decide⟩

theorem toStr_isSome_iff (v : HeaderValue) :
    v.toStr.isSome ↔ ∀ b ∈ v.bytes, visibleAsciiByte b = true := by
  unfold toStr; split <;> simp_all

/-! ### Visible ASCII text, both ways -/

/-- A character `to_str` lets through: visible ASCII, or a tab. -/
def VisibleChar (c : Char) : Prop := (32 ≤ c.toNat ∧ c.toNat < 127) ∨ c.toNat = 9

theorem toNat_ofNat_of_lt {n : Nat} (h : n < 0xd800) : (Char.ofNat n).toNat = n := by
  rw [Char.ofNat, dif_pos (Or.inl h)]
  rfl

theorem toNat_toLower (c : Char) :
    c.toLower.toNat = if 65 ≤ c.toNat ∧ c.toNat ≤ 90 then c.toNat + 32 else c.toNat := by
  unfold Char.toLower
  split
  · rename_i h
    simp only [ge_iff_le, h, and_self, if_true]
    exact toNat_ofNat_of_lt (by omega)
  · rename_i h
    rw [if_neg (by simpa using h)]

/-- Lowercasing keeps a character visible. -/
theorem VisibleChar.toLower {c : Char} (h : VisibleChar c) : VisibleChar c.toLower := by
  unfold VisibleChar at *
  rw [toNat_toLower]
  split <;> omega

theorem utf8EncodeChar_ascii {c : Char} (h : c.toNat < 128) :
    String.utf8EncodeChar c = [c.toNat.toUInt8] := by
  have hv : c.val ≤ 0x7f := by
    show c.val.toNat ≤ 127
    exact Nat.lt_succ_iff.mp h
  simp only [String.utf8EncodeChar, hv, if_true]
  rfl

theorem flatMap_utf8EncodeChar_ascii : ∀ {l : List Char}, (∀ c ∈ l, c.toNat < 128) →
    l.flatMap String.utf8EncodeChar = l.map fun c => c.toNat.toUInt8
  | [], _ => rfl
  | c :: l, h => by
    rw [List.flatMap_cons, utf8EncodeChar_ascii (h c (List.mem_cons_self c l)),
      flatMap_utf8EncodeChar_ascii fun d hd => h d (List.mem_cons_of_mem c hd)]
    rfl

theorem toNat_toUInt8 {m : Nat} (h : m < 256) : m.toUInt8.toNat = m := by
  simp [Nat.toUInt8, UInt8.toNat, UInt8.ofNat, Fin.ofNat]
  omega

theorem VisibleChar.validHeaderByte {c : Char} (h : VisibleChar c) :
    validHeaderByte c.toNat.toUInt8 = true := by
  unfold VisibleChar at h
  simp only [Karpacz.validHeaderByte, toNat_toUInt8 (show c.toNat < 256 by omega)]
  rcases h with h | h <;> simp [h]
  omega

theorem VisibleChar.visibleAsciiByte {c : Char} (h : VisibleChar c) :
    visibleAsciiByte c.toNat.toUInt8 = true := by
  unfold VisibleChar at h
  simp only [Karpacz.visibleAsciiByte, toNat_toUInt8 (show c.toNat < 256 by omega)]
  rcases h with h | h <;> simp [h]

/-- The text `to_str` returns is visible ASCII. -/
theorem visibleChar_of_toStr {v : HeaderValue} {text : String} (h : v.toStr = some text) :
    ∀ c ∈ text.data, VisibleChar c := by
  unfold toStr at h
  split at h
  · rename_i hv
    cases h
    intro c hc
    obtain ⟨b, hb, rfl⟩ := List.mem_map.mp hc
    have hvis := List.all_eq_true.mp hv b hb
    have hlt : b.toNat < 256 := UInt8.toNat_lt_size b
    simp only [Karpacz.visibleAsciiByte, Bool.or_eq_true, Bool.and_eq_true, decide_eq_true_eq,
      beq_iff_eq] at hvis
    unfold VisibleChar
    rw [toNat_ofNat_of_lt (by omega)]
    exact hvis
  · cases h

/-- `from_str` of visible ASCII text succeeds, and `to_str` gives the text back. -/
theorem toStr_fromStr {s : String} (h : ∀ c ∈ s.data, VisibleChar c) :
    ∃ v, fromStr s = some v ∧ v.toStr = some s := by
  have hbytes := flatMap_utf8EncodeChar_ascii fun c hc => by
    rcases h c hc with h | h <;> omega
  have hvalid : (s.data.flatMap String.utf8EncodeChar).all validHeaderByte = true := by
    rw [hbytes, List.all_eq_true]
    intro b hb
    obtain ⟨c, hc, rfl⟩ := List.mem_map.mp hb
    exact (h c hc).validHeaderByte
  have hvisible : (s.data.flatMap String.utf8EncodeChar).all visibleAsciiByte = true := by
    rw [hbytes, List.all_eq_true]
    intro b hb
    obtain ⟨c, hc, rfl⟩ := List.mem_map.mp hb
    exact (h c hc).visibleAsciiByte
  refine ⟨⟨_, hvalid⟩, by rw [fromStr, dif_pos hvalid], ?_⟩
  rw [toStr, if_pos hvisible]
  show some (⟨(s.data.flatMap String.utf8EncodeChar).map fun b => Char.ofNat b.toNat⟩ : String) = some s
  rw [hbytes, List.map_map, Option.some.injEq]
  obtain ⟨data⟩ := s
  congr 1
  refine (List.map_congr_left fun c hc => ?_).trans (List.map_id data)
  have : c.toNat < 256 := by rcases h c hc with h | h <;> omega
  simp only [Function.comp_apply, toNat_toUInt8 this, Char.ofNat_toNat, id_eq]

end HeaderValue

/-- The token alphabet of `HEADER_CHARS`, after lowercasing. -/
def lowerTchar (c : Char) : Bool :=
  c.isLower || c.isDigit || "!#$%&'*+-.^_`|~".data.contains c

/-- What a stored header name looks like. -/
def isHeaderName (s : String) : Bool :=
  !s.data.isEmpty && s.data.length < 65536 && s.data.all lowerTchar

/-- A header name carries the proof that it is a lowercase token. -/
structure HeaderName where
  name : String
  valid : isHeaderName name = true
  deriving DecidableEq

namespace HeaderName

/-- `HeaderName::from_str`: lowercase the ASCII letters, then check the token alphabet. -/
def fromStr (s : String) : Option HeaderName :=
  if h : isHeaderName ⟨s.data.map Char.toLower⟩ = true then some ⟨_, h⟩ else none

def host : HeaderName := ⟨"host", by decide⟩
def server : HeaderName := ⟨"server", by decide⟩
def contentType : HeaderName := ⟨"content-type", by decide⟩
def contentLength : HeaderName := ⟨"content-length", by decide⟩
def allow : HeaderName := ⟨"allow", by decide⟩
def referer : HeaderName := ⟨"referer", by decide⟩
def userAgent : HeaderName := ⟨"user-agent", by decide⟩
def xForwardedFor : HeaderName := ⟨"x-forwarded-for", by decide⟩

/-- Two strings name the same header when they lowercase to the same token. -/
theorem fromStr_eq_some_iff {s : String} {n : HeaderName} :
    fromStr s = some n ↔ ∃ h, n = ⟨⟨s.data.map Char.toLower⟩, h⟩ := by
  unfold fromStr
  split
  · exact ⟨fun e => ⟨_, (Option.some.inj e).symm⟩, fun ⟨_, e⟩ => by rw [e]⟩
  · rename_i h
    exact ⟨fun e => Option.noConfusion e, fun ⟨h', _⟩ => absurd h' h⟩

/-- A string names `n` exactly when it lowercases to `n`'s name. -/
theorem fromStr_eq_some_iff_toLower {s : String} {n : HeaderName} :
    fromStr s = some n ↔ s.data.map Char.toLower = n.name.data := by
  rw [fromStr_eq_some_iff]
  constructor
  · rintro ⟨_, rfl⟩; rfl
  · obtain ⟨⟨d⟩, hv⟩ := n
    rintro rfl
    exact ⟨hv, rfl⟩

end HeaderName

/-- A header map, as the list of its `(name, value)` pairs. -/
structure HeaderMap where
  entries : List (HeaderName × HeaderValue)
  deriving DecidableEq

namespace HeaderMap

def empty : HeaderMap := ⟨[]⟩

/-- `HeaderMap::get_all`: the values under `n`, in order. -/
def getAll (h : HeaderMap) (n : HeaderName) : List HeaderValue :=
  h.entries.filterMap fun p => if p.1 = n then some p.2 else none

/-- `HeaderMap::get`: the first value under `n`. -/
def get (h : HeaderMap) (n : HeaderName) : Option HeaderValue := (h.getAll n).head?

/-- `HeaderMap::contains_key(&str)`: a string that is not a header name is never a key. -/
def containsKey (h : HeaderMap) (key : String) : Bool :=
  match HeaderName.fromStr key with
  | some n => h.entries.any fun p => p.1 = n
  | none => false

/-- `HeaderMap::insert`: `n` ends up with the single value `v`. -/
def insert (h : HeaderMap) (n : HeaderName) (v : HeaderValue) : HeaderMap :=
  ⟨h.entries.filter (fun p => p.1 ≠ n) ++ [(n, v)]⟩

/-- `HeaderMap::append` (and `Builder::header`): one more value under `n`. -/
def append (h : HeaderMap) (n : HeaderName) (v : HeaderValue) : HeaderMap :=
  ⟨h.entries ++ [(n, v)]⟩

@[simp] theorem getAll_empty (n : HeaderName) : empty.getAll n = [] := rfl

@[simp] theorem getAll_insert_self (h : HeaderMap) (n : HeaderName) (v : HeaderValue) :
    (h.insert n v).getAll n = [v] := by
  simp [insert, getAll, List.filterMap_append, List.filterMap_filter]

@[simp] theorem getAll_insert_of_ne (h : HeaderMap) {m n : HeaderName} (v : HeaderValue)
    (hmn : m ≠ n) : (h.insert n v).getAll m = h.getAll m := by
  simp only [insert, getAll, List.filterMap_append, List.filterMap_filter]
  simp only [List.filterMap_cons, List.filterMap_nil, Ne.symm hmn, if_false, List.append_nil]
  congr 1; funext p; by_cases hp : p.1 = m <;> simp_all

@[simp] theorem getAll_append_self (h : HeaderMap) (n : HeaderName) (v : HeaderValue) :
    (h.append n v).getAll n = h.getAll n ++ [v] := by
  simp [append, getAll, List.filterMap_append]

@[simp] theorem getAll_append_of_ne (h : HeaderMap) {m n : HeaderName} (v : HeaderValue)
    (hmn : m ≠ n) : (h.append n v).getAll m = h.getAll m := by
  simp [append, getAll, List.filterMap_append, Ne.symm hmn]

theorem getAll_mk_append (l₁ l₂ : List (HeaderName × HeaderValue)) (n : HeaderName) :
    HeaderMap.getAll ⟨l₁ ++ l₂⟩ n = HeaderMap.getAll ⟨l₁⟩ n ++ HeaderMap.getAll ⟨l₂⟩ n := by
  simp [getAll, List.filterMap_append]

@[simp] theorem getAll_mk_singleton (m n : HeaderName) (v : HeaderValue) :
    HeaderMap.getAll ⟨[(m, v)]⟩ n = if m = n then [v] else [] := by
  by_cases h : m = n <;> simp [getAll, h]

/-- Filtering the pairs by name filters each name's values all or nothing. -/
theorem getAll_mk_filter (h : HeaderMap) (p : HeaderName → Bool) (n : HeaderName) :
    HeaderMap.getAll ⟨h.entries.filter fun e => p e.1⟩ n = if p n then h.getAll n else [] := by
  unfold getAll
  rw [List.filterMap_filter]
  split
  · rename_i hp; congr 1; funext e; by_cases he : e.1 = n <;> simp_all
  · rename_i hp
    rw [List.filterMap_eq_nil_iff]
    intro e _; by_cases he : e.1 = n <;> simp_all

/-- `contains_key` asks whether the lowercased key has a value. -/
theorem containsKey_iff (h : HeaderMap) (key : String) :
    h.containsKey key = true ↔ ∃ n, HeaderName.fromStr key = some n ∧ h.getAll n ≠ [] := by
  unfold containsKey getAll
  cases HeaderName.fromStr key with
  | none => simp
  | some n => simp [List.filterMap_eq_nil_iff]

theorem containsKey_of_fromStr (h : HeaderMap) {key : String} {n : HeaderName}
    (hn : HeaderName.fromStr key = some n) : h.containsKey key = decide (h.getAll n ≠ []) := by
  rw [Bool.eq_iff_iff, containsKey_iff, hn]
  simp

end HeaderMap

end Karpacz
