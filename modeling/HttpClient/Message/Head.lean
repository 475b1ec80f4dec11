/-
# Response heads

The head of a response is a status line and up to sixty-four field lines, ended by
an empty line.  It is read leniently where that loses nothing: a line may end with
a line feed alone, empty lines may come before the status line, and the reason
may be missing with the space before it.  It is read strictly everywhere else;
in particular a field cannot be folded over lines.  A head that breaks off before
its end is told apart from one that is wrong.

What follows the head is the body, cut to the length that the last
`Content-Length` field names, if that field is a number.
-/
import HttpClient.Message.Response

namespace HttpClient

inductive HeadFault where
  | headerName
  | headerValue
  | newLine
  | status
  | tooManyHeaders
  | version
  /-- The bytes end before the head does. -/
  | incomplete
  /-- The status has three digits but is below one hundred. -/
  | statusTooLow
deriving DecidableEq, Repr

def HeadFault.detail : HeadFault → String
  | .headerName => "bad response: invalid header name"
  | .headerValue => "bad response: invalid header value"
  | .newLine => "bad response: invalid new line"
  | .status => "bad response: invalid response status"
  | .tooManyHeaders => "bad response: too many headers"
  | .version => "bad response: invalid HTTP version"
  | .incomplete => "incomplete response head"
  | .statusTooLow => "bad response status"

/-- A field line as it stands in a head. -/
structure RawField where
  name : Bytes
  value : Bytes
deriving DecidableEq, Repr

structure RawHead where
  version : Version
  code : Nat
  fields : List RawField
deriving DecidableEq, Repr

namespace RawHead

def sp : UInt8 := 32
def tab : UInt8 := 9
def cr : UInt8 := 13
def lf : UInt8 := 10

/-- How many field lines a head may have. -/
def maxFields : Nat := 64

/-- The bytes behind the empty lines at their head. -/
def skipEmptyLines : Bytes → Except HeadFault Bytes
  | [] => .error .incomplete
  | b :: rest =>
    if b = lf then skipEmptyLines rest
    else if b = cr then
      match rest with
      | [] => .error .incomplete
      | c :: rest => if c = lf then skipEmptyLines rest else .error .newLine
    else .ok (b :: rest)

/-- The end of a line at the head of the bytes; a carriage return without a line feed is `fault`. -/
def lineEnd (fault : HeadFault) : Bytes → Except HeadFault Bytes
  | [] => .error .incomplete
  | b :: rest =>
    if b = lf then .ok rest
    else if b = cr then
      match rest with
      | [] => .error .incomplete
      | c :: rest => if c = lf then .ok rest else .error fault
    else .error fault

/-- The version at the head of the bytes. -/
def readVersion (bytes : Bytes) : Except HeadFault (Version × Bytes) :=
  if bytes.length < 8 then
    if bytes.isPrefixOf (Text.utf8 "HTTP/1.") then .error .incomplete else .error .version
  else if (Text.utf8 "HTTP/1.0").isPrefixOf bytes then .ok (.http10, bytes.drop 8)
  else if (Text.utf8 "HTTP/1.1").isPrefixOf bytes then .ok (.http11, bytes.drop 8)
  else .error .version

/-- A space at the head of the bytes. -/
def readSpace : Bytes → Except HeadFault Bytes
  | [] => .error .incomplete
  | b :: rest => if b = sp then .ok rest else .error .version

/-- So many digits at the head of the bytes, `n` being the value of those before. -/
def readDigits (n : Nat) : Nat → Bytes → Except HeadFault (Nat × Bytes)
  | 0, bytes => .ok (n, bytes)
  | _ + 1, [] => .error .incomplete
  | k + 1, b :: rest =>
    if 48 ≤ b && b ≤ 57 then readDigits (10 * n + (b.toNat - 48)) k rest else .error .status

def isTextByte (b : UInt8) : Bool := b = tab || (32 ≤ b && b ≠ 127)

def isNameByte (b : UInt8) : Bool := Text.isTokenChar (Char.ofNat b.toNat)

/-- The rest of the status line behind the code. -/
def skipReason : Bytes → Except HeadFault Bytes
  | [] => .error .incomplete
  | b :: rest =>
    if b = sp then lineEnd .status (rest.dropWhile isTextByte) else lineEnd .status (b :: rest)

/-- The value without the blanks at its end. -/
def trimEnd (value : Bytes) : Bytes :=
  (value.reverse.dropWhile fun b => b = sp || b = tab || b = cr || b = lf).reverse

/-- A field line. -/
def readField (bytes : Bytes) : Except HeadFault (RawField × Bytes) :=
  let name := bytes.takeWhile isNameByte
  if name = [] then .error .headerName
  else
    match bytes.drop name.length with
    | [] => .error .incomplete
    | b :: rest =>
      if b ≠ 58 then .error .headerName
      else
        let text := rest.dropWhile fun b => b = sp || b = tab
        let value := text.takeWhile isTextByte
        (lineEnd .headerValue (text.drop value.length)).map fun rest => (⟨name, trimEnd value⟩, rest)

/-- The field lines up to the empty line, at most so many, and the bytes behind it. -/
def readFields : Nat → Bytes → Except HeadFault (List RawField × Bytes)
  | _, [] => .error .incomplete
  | slots, b :: rest =>
    if b = cr || b = lf then (lineEnd .newLine (b :: rest)).map fun rest => ([], rest)
    else
      match readField (b :: rest), slots with
      | .error e, _ => .error e
      | .ok _, 0 => .error .tooManyHeaders
      | .ok (field, rest), slots + 1 =>
        (readFields slots rest).map fun (fields, rest) => (field :: fields, rest)

/-- A head and the bytes behind it. -/
def read (bytes : Bytes) : Except HeadFault (RawHead × Bytes) := do
  let bytes ← skipEmptyLines bytes
  let (version, bytes) ← readVersion bytes
  let bytes ← readSpace bytes
  let (code, bytes) ← readDigits 0 3 bytes
  let bytes ← skipReason bytes
  let (fields, bytes) ← readFields maxFields bytes
  return (⟨version, code, fields⟩, bytes)

end RawHead

namespace Response

/-- A byte string as a text, each byte the character with its number. -/
def latin (bytes : Bytes) : String := String.ofList (bytes.map fun b => Char.ofNat b.toNat)

/-- The fields of a head as header fields. -/
def headersOfFields (fields : List RawField) : Except Error Headers :=
  fields.foldlM
    (fun h f => do
      let n ← HeaderName.parse (latin f.name)
      let v ← HeaderValue.parse f.value
      return h.append n v)
    .empty

/-- The length that the last `Content-Length` field names. -/
def contentLength? (h : Headers) : Option Nat :=
  (h.values .contentLength).getLast?.bind fun v =>
    v.text?.bind fun s => Text.natUpTo? (UInt64.size - 1) s.toList

/-- The response that a byte string spells. -/
def ofBytes (bytes : Bytes) (url : Url) : Except Error Response :=
  match RawHead.read bytes with
  | .error e => .error (.protocol e.detail)
  | .ok (head, rest) =>
    match Status.ofNat? head.code with
    | none => .error (.protocol HeadFault.statusTooLow.detail)
    | some status => do
      let headers ← headersOfFields head.fields
      let body := match contentLength? headers with
        | some n => rest.take n
        | none => rest
      return { status, version := head.version, headers, body := .ofBytes body, url }

end Response

end HttpClient
