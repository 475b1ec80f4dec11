/-
# Header fields

A field name is a token in lower case; a field value is a string of bytes without
controls other than the tab.  Both carry that as a proof, so a header that is
held can be sent.  The fields of a message are an ordered list in which a name
may occur more than once; `values` is the view by which the operations are
described:

* `append` adds a value behind those of its name,
* `set` leaves a name with one value,
* `erase` leaves a name with none,

and none of them touches any other name.
-/
import HttpClient.Error
import HttpClient.Text.Quoted

namespace HttpClient

def HeaderName.isNameChar (c : Char) : Bool := Text.isTokenChar c && c.toLower = c

structure HeaderName where
  text : String
  isName : text ≠ "" ∧ text.toList.all HeaderName.isNameChar = true ∧
    text.toList.length < UInt16.size
deriving DecidableEq

namespace HeaderName

/-- The name that a text spells in any case. -/
def ofString? (s : String) : Option HeaderName :=
  let t := Text.lower s
  if h : t ≠ "" ∧ t.toList.all isNameChar = true ∧ t.toList.length < UInt16.size then some ⟨t, h⟩
  else none

/-- The name that a text spells, or the failure that it spells none. -/
def parse (s : String) : Except Error HeaderName :=
  (ofString? s).elim (.error (.badHeader "invalid HTTP header name")) .ok

def authorization : HeaderName := ⟨"authorization", by decide⟩
def proxyAuthorization : HeaderName := ⟨"proxy-authorization", by decide⟩
def cookie : HeaderName := ⟨"cookie", by decide⟩
def setCookie : HeaderName := ⟨"set-cookie", by decide⟩
def location : HeaderName := ⟨"location", by decide⟩
def host : HeaderName := ⟨"host", by decide⟩
def contentLength : HeaderName := ⟨"content-length", by decide⟩
def transferEncoding : HeaderName := ⟨"transfer-encoding", by decide⟩
def wwwAuthenticate : HeaderName := ⟨"www-authenticate", by decide⟩

end HeaderName

def HeaderValue.isValueByte (b : UInt8) : Bool := b = 9 || (32 ≤ b && b ≠ 127)

structure HeaderValue where
  bytes : Bytes
  isValue : bytes.all HeaderValue.isValueByte = true
deriving DecidableEq

namespace HeaderValue

/-- The value that a byte string is. -/
def ofBytes? (bytes : Bytes) : Option HeaderValue :=
  if h : bytes.all isValueByte = true then some ⟨bytes, h⟩ else none

/-- The value that a byte string is, or the failure that it is none. -/
def parse (bytes : Bytes) : Except Error HeaderValue :=
  (ofBytes? bytes).elim (.error (.badHeader "failed to parse header value")) .ok

def ofText (s : String) : Except Error HeaderValue := parse (Text.utf8 s)

/-- A byte that stands for a visible character of ASCII, a space or a tab. -/
def isTextByte (b : UInt8) : Bool := b = 9 || (32 ≤ b && b < 127)

/-- The value as a text, if all of it is visible ASCII, spaces and tabs. -/
def text? (v : HeaderValue) : Option String :=
  if v.bytes.all isTextByte then some (String.ofList (v.bytes.map fun b => Char.ofNat b.toNat))
  else none

/-- A byte of a value in a description. -/
def quotedByte (b : UInt8) : List Char :=
  if b = 34 then ['\\', '"']
  else if isTextByte b then [Char.ofNat b.toNat]
  else ['\\', 'x'] ++ [Hex.digit (b.toNat / 16), Hex.digit (b.toNat % 16)]

def quoted (v : HeaderValue) : String :=
  "\"" ++ String.ofList (v.bytes.flatMap quotedByte) ++ "\""

end HeaderValue

/-- The header fields of a message, in order. -/
structure Headers where
  fields : List (HeaderName × HeaderValue)
deriving DecidableEq

namespace Headers

def empty : Headers := ⟨[]⟩

instance : Inhabited Headers := ⟨empty⟩

def values (h : Headers) (n : HeaderName) : List HeaderValue :=
  (h.fields.filter (·.1 = n)).map (·.2)

def contains (h : Headers) (n : HeaderName) : Bool := h.fields.any (·.1 = n)

def first? (h : Headers) (n : HeaderName) : Option HeaderValue := (h.values n).head?

/-- The values of a name that are texts, in order. -/
def texts (h : Headers) (n : HeaderName) : List String := (h.values n).filterMap (·.text?)

def firstText? (h : Headers) (n : HeaderName) : Option String := (h.first? n).bind (·.text?)

/-- The names that occur, each once, in the order of their first values. -/
def names (h : Headers) : List HeaderName := (h.fields.map (·.1)).eraseDups

def append (h : Headers) (n : HeaderName) (v : HeaderValue) : Headers := ⟨h.fields ++ [(n, v)]⟩

/-- One value in place of all those of a name. -/
def set (h : Headers) (n : HeaderName) (v : HeaderValue) : Headers := ⟨go h.fields⟩
where
  /-- The fields with the first one of the name replaced and its others left out. -/
  go : List (HeaderName × HeaderValue) → List (HeaderName × HeaderValue)
    | [] => [(n, v)]
    | f :: fs => if f.1 = n then (n, v) :: fs.filter (·.1 ≠ n) else f :: go fs

def erase (h : Headers) (n : HeaderName) : Headers := ⟨h.fields.filter (·.1 ≠ n)⟩

/-- The fields with those of others added whose names do not occur. -/
def withDefaults (h d : Headers) : Headers := ⟨h.fields ++ d.fields.filter (!h.contains ·.1)⟩

/-- The names whose values a description leaves out. -/
def secretNames : List HeaderName :=
  [.authorization, .proxyAuthorization, .cookie]

/-- The fields in a description, values of one name together, secrets left out. -/
def quoted (h : Headers) : String :=
  let entry := fun (n : HeaderName) (v : HeaderValue) =>
    Text.quoted n.text ++ ": " ++ (if secretNames.contains n then "\"***\"" else v.quoted)
  "\x7b" ++ Text.join ", " (h.names.flatMap fun n => (h.values n).map (entry n)) ++ "\x7d"

/-! ## The view `values` -/

theorem contains_iff_values (h : Headers) (n : HeaderName) :
    h.contains n = true ↔ h.values n ≠ [] := by
  simp [contains, values, List.filter_eq_nil_iff]

theorem values_append (h : Headers) (n m : HeaderName) (v : HeaderValue) :
    (h.append n v).values m = if m = n then h.values m ++ [v] else h.values m := by
  by_cases e : m = n
  · subst e; simp [values, append]
  · have : ¬ n = m := fun x => e x.symm
    simp [values, append, e, this]

theorem values_erase (h : Headers) (n m : HeaderName) :
    (h.erase n).values m = if m = n then [] else h.values m := by
  by_cases e : m = n
  · subst e
    simp [values, erase, List.filter_filter]
  · simp only [values, erase, List.filter_filter, e, if_false]
    congr 1
    apply List.filter_congr
    intro f _
    by_cases hf : f.1 = m
    · simp [hf, e]
    · simp [hf]

theorem values_set_go (n m : HeaderName) (v : HeaderValue) (fs : List (HeaderName × HeaderValue)) :
    ((set.go n v fs).filter (·.1 = m)).map (·.2)
      = if m = n then [v] else (fs.filter (·.1 = m)).map (·.2) := by
  induction fs with
  | nil =>
    by_cases e : m = n
    · subst e; simp [set.go]
    · have : ¬ n = m := fun x => e x.symm
      simp [set.go, e, this]
  | cons f fs ih =>
    by_cases hf : f.1 = n
    · simp only [set.go, hf, if_true]
      have key := values_erase ⟨fs⟩ n m
      simp only [values, erase] at key
      by_cases e : m = n
      · subst e
        simp only [if_true] at key
        simp
      · have e' : ¬ n = m := fun x => e x.symm
        simp only [e, if_false] at key
        simpa [List.filter_filter, hf, e, e'] using key
    · simp only [set.go, hf, if_false]
      by_cases e : m = n
      · subst e
        simp only [if_true] at ih
        simp [hf, ih]
      · simp only [e, if_false] at ih ⊢
        by_cases hm : f.1 = m <;> simp [hm, ih]

theorem values_set (h : Headers) (n m : HeaderName) (v : HeaderValue) :
    (h.set n v).values m = if m = n then [v] else h.values m :=
  values_set_go n m v h.fields

theorem values_withDefaults (h d : Headers) (m : HeaderName) :
    (h.withDefaults d).values m = if h.contains m then h.values m else d.values m := by
  have rest : ((d.fields.filter (!h.contains ·.1)).filter (·.1 = m)).map (·.2)
      = if h.contains m then [] else d.values m := by
    simp only [List.filter_filter, values]
    by_cases hc : h.contains m = true
    · have hnone : ∀ f ∈ d.fields, ¬ (decide (f.1 = m) && !h.contains f.1) = true := by
        intro f _ both
        simp only [Bool.and_eq_true, decide_eq_true_eq] at both
        simp [both.1, hc] at both
      simp [hc, List.filter_eq_nil_iff.2 hnone]
    · simp only [hc, Bool.false_eq_true, if_false]
      congr 1
      apply List.filter_congr
      intro f _
      by_cases e : f.1 = m
      · simp [e, hc]
      · simp [e]
  have split : (h.withDefaults d).values m
      = h.values m ++ ((d.fields.filter (!h.contains ·.1)).filter (·.1 = m)).map (·.2) := by
    simp [values, withDefaults]
  rw [split, rest]
  by_cases hc : h.contains m = true
  · simp [hc]
  · have hnone : h.values m = [] := by
      simp only [values, List.map_eq_nil_iff, List.filter_eq_nil_iff]
      intro f hf e
      exact hc (List.any_eq_true.2 ⟨f, hf, e⟩)
    simp [hc, hnone]

end Headers

end HttpClient
