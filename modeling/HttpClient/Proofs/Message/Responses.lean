/-
# Responses read from bytes

A response is what its head says, with the bytes behind the head for its body: all of them, or as
many as the last `Content-Length` field names.  Whatever head is written and whatever bytes come
behind it, also if they look like more of the head, this is what is read (`response_of_written`); and
as long as a byte of the head is missing, nothing is.
-/
import HttpClient.Proofs.Message.Legible
import HttpClient.Proofs.Message.WrittenHead
import HttpClient.Proofs.Text.Letters
import HttpClient.Proofs.Text.Numbers

namespace HttpClient

open Text

namespace FieldLine

variable (f : FieldLine)

theorem length_utf8_name : (utf8 f.name).length = f.name.toList.length := by
  simpa using congrArg List.length (map_ofNat_utf8 f.ascii)

def headerName : HeaderName where
  text := lower f.name
  isName := by
    refine ⟨fun hnil => f.isToken.1 ?_, ?_, ?_⟩
    · simpa [lower] using hnil
    · simp only [lower, String.toList_ofList, List.all_map, List.all_eq_true, Function.comp_apply,
        HeaderName.isNameChar, Bool.and_eq_true, decide_eq_true_eq]
      exact fun c there =>
        ⟨isTokenChar_toLower (f.tokens c there), Char.toLower_toLower_eq_toLower c⟩
    · rw [lower, String.toList_ofList, List.length_map, ← f.length_utf8_name]
      exact f.short

theorem parse_name : HeaderName.parse (Response.latin f.raw.name) = .ok f.headerName := by
  have same : Response.latin f.raw.name = f.name := by
    rw [Response.latin, raw, map_ofNat_utf8 f.ascii, String.ofList_toList]
  have named : HeaderName.ofString? f.name = some f.headerName := dif_pos f.headerName.isName
  rw [same, HeaderName.parse, named]
  rfl

theorem parse_value : HeaderValue.parse f.raw.value = .ok f.value := by
  have valued : HeaderValue.ofBytes? f.raw.value = some f.value := dif_pos f.value.isValue
  rw [HeaderValue.parse, valued]
  rfl

def field : HeaderName × HeaderValue := (f.headerName, f.value)

end FieldLine

theorem headersOfFields_raw (lines : List FieldLine) :
    Response.headersOfFields (lines.map (·.raw)) = .ok ⟨lines.map (·.field)⟩ := by
  -- by induction over the lines, behind those that were read already
  have behind (h : Headers) :
      (lines.map (·.raw)).foldlM (fun h f => do
          let n ← HeaderName.parse (Response.latin f.name)
          let v ← HeaderValue.parse f.value
          return h.append n v) h
        = (.ok ⟨h.fields ++ lines.map (·.field)⟩ : Except Error Headers) := by
    induction lines generalizing h with
    | nil => simp [pure, Except.pure]
    | cons line lines ih =>
        rw [List.map_cons, List.foldlM_cons, line.parse_name, line.parse_value]
        exact (ih _).trans (by simp [Headers.append, FieldLine.field])
  exact behind .empty

namespace WrittenHead

variable (h : WrittenHead)

def valuesOf (n : HeaderName) : List HeaderValue :=
  (h.fields.filter fun f => lower f.name = n.text).map (·.value)

def headers : Headers := ⟨h.fields.map (·.field)⟩

theorem values_headers (n : HeaderName) : h.headers.values n = h.valuesOf n := by
  have same (f : FieldLine) : f.field.1 = n ↔ lower f.name = n.text :=
    ⟨congrArg HeaderName.text, fun h => by cases n; cases h; rfl⟩
  simp only [Headers.values, headers, valuesOf, List.filter_map, List.map_map, Function.comp_def,
    same]
  rfl

end WrittenHead

/-- The value is a number in decimal. -/
def HeaderValue.IsDecimal (v : HeaderValue) (n : Nat) : Prop :=
  ∃ ds : String, v.bytes = utf8 ds ∧ ds ≠ "" ∧ (∀ c ∈ ds.toList, c.isDigit = true) ∧
    digitsValue ds.toList = n

theorem HeaderValue.IsDecimal.read {v : HeaderValue} {n : Nat} (h : v.IsDecimal n)
    (small : n < UInt64.size) :
    (v.text?.bind fun s => natUpTo? (UInt64.size - 1) s.toList) = some n := by
  obtain ⟨ds, bytes, hne, digits, rfl⟩ := h
  have legible : Legible ds := by
    intro c there
    have range : 48 ≤ c.toNat ∧ c.toNat ≤ 57 := Char.isDigit_iff_toNat.mp (digits c there)
    rw [← Char.ofNat_toNat c]
    exact isLegible_ofNat (by omega) (by omega)
  rw [HeaderValue.text?_of_legible bytes legible, Option.bind_some,
    natUpTo?_of_digits _ (mt String.toList_eq_nil_iff.mp hne) digits,
    if_pos (Nat.le_sub_one_of_lt small)]

/-- The body is cut to the length that the last field for it names. -/
theorem Response.contentLength?_of_last {h : Headers} {v : HeaderValue} {n : Nat}
    (last : (h.values .contentLength).getLast? = some v) (decimal : v.IsDecimal n)
    (small : n < UInt64.size) : Response.contentLength? h = some n := by
  rw [Response.contentLength?, last, Option.bind_some, decimal.read small]

theorem Response.contentLength?_of_none {h : Headers} (hnil : h.values .contentLength = []) :
    Response.contentLength? h = .none := by
  rw [Response.contentLength?, hnil]
  rfl

/-- What is read is what is written in the head, and the bytes behind it as far as they count. -/
theorem WrittenHead.ofBytes_written (h : WrittenHead) (behind : Bytes) (url : Url) :
    Response.ofBytes (h.written ++ behind) url = .ok
      { status := h.status
        version := h.version
        headers := h.headers
        body := .ofBytes (((Response.contentLength? h.headers).map behind.take).getD behind)
        url } := by
  have status : Status.ofNat? h.raw.code = some h.status := dif_pos h.status.inRange
  have headers : Response.headersOfFields h.raw.fields = .ok h.headers :=
    headersOfFields_raw h.fields
  simp only [Response.ofBytes, h.takes_written.whole, status, headers, bind, Except.bind, pure,
    Except.pure]
  cases Response.contentLength? h.headers <;> rfl

/-- A response is read from its head as it is written and any bytes behind it: it has the status and
the version of the head, under every name the values that are written under it, and for its body what
is behind the head, cut to the number that the last `Content-Length` field names, or not cut if there
is no such field. From a head that breaks off nothing is read. -/
theorem response_of_written (h : WrittenHead) (behind : Bytes) (url : Url) :
    (∃ r, Response.ofBytes (h.written ++ behind) url = .ok r ∧ r.status = h.status ∧
      r.version = h.version ∧ r.url = url ∧ (∀ n, r.headers.values n = h.valuesOf n) ∧
      (h.valuesOf .contentLength = [] → r.body = .ofBytes behind) ∧
      ∀ v n, (h.valuesOf .contentLength).getLast? = some v → v.IsDecimal n → n < UInt64.size →
        r.body = .ofBytes (behind.take n)) ∧
    ∀ p, p <+: h.written → p ≠ h.written →
      Response.ofBytes p url = .error (.protocol "incomplete response head") := by
  constructor
  · refine ⟨_, h.ofBytes_written behind url, rfl, rfl, rfl, h.values_headers, fun hnil => ?_,
      fun v n last decimal small => ?_⟩
    · rw [← h.values_headers] at hnil
      simp only [Response.contentLength?_of_none hnil]
      rfl
    · rw [← h.values_headers] at last
      simp only [Response.contentLength?_of_last last decimal small]
      rfl
  · intro p front other
    rw [Response.ofBytes, h.takes_written.broken p front other]
    rfl

namespace Repeated

/-- A line with a space in front of the value. -/
def line (name : String) (value : Bytes)
    (isToken : name ≠ "" ∧ name.toList.all isTokenChar = true := by decide)
    (short : (utf8 name).length < UInt16.size := by decide)
    (isValue : value.all HeaderValue.isValueByte = true := by decide)
    (bare : value.head?.any RawHead.isGap = false ∧ value.getLast?.any RawHead.isGap = false := by
      decide) : FieldLine :=
  { name, isToken, short, value := ⟨value, isValue⟩, bare }

/-- A head with two fields of one name, in either case, and with two lengths. -/
def head : WrittenHead where
  version := .http10
  status := ⟨203, by decide⟩
  reason := some [79, 75]
  fields := [line "Content-Length" [57], line "x" [97, 32, 200], line "X" [98],
    line "content-length" [51]]
  few := by decide

/-- What looks like one more field line. -/
def extra : Bytes := utf8 "x: c\r\n"

def place : Url := ⟨"http", some ⟨"", none, some (.domain "q.test"), none⟩, "/", none, none⟩

end Repeated

open Repeated in
/-- The fields are kept in order, the last length counts, and what is behind the head is not read as
more of it. -/
theorem response_of_written_of_repeated :
    (∃ r, Response.ofBytes (head.written ++ extra) place = .ok r ∧ r.version = .http10 ∧
      (r.headers.values ⟨"x", by decide⟩).map (·.bytes) = [[97, 32, 200], [98]] ∧
      r.body = .full (utf8 "x: ")) ∧
    Response.ofBytes head.written.dropLast place =
      .error (.protocol "incomplete response head") := by
  obtain ⟨⟨r, read, -, version, -, values, -, cut⟩, broken⟩ := response_of_written head extra place
  refine ⟨⟨r, read, version, ?_, ?_⟩, broken _ (List.dropLast_prefix _) ?_⟩
  · rw [values]
    decide +kernel
  · have three : (⟨[51], by decide⟩ : HeaderValue).IsDecimal 3 :=
      ⟨"3", by decide, by decide, forall_of_all (by decide), by decide⟩
    have last : (head.valuesOf .contentLength).getLast? = some ⟨[51], by decide⟩ := by
      decide +kernel
    rw [cut _ 3 last three (by decide)]
    decide
  · intro same
    have shorter := congrArg List.length same
    rw [List.length_dropLast] at shorter
    have hpos : 0 < head.written.length := by decide +kernel
    omega

end HttpClient
