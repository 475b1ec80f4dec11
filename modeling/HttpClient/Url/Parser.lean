/-
# Reading urls

A text is read as a url, on its own or against a base url that supplies the
leading parts it leaves out.  Blanks and controls around the text do not count,
and neither do tabs and line ends inside it.

The web schemes are read leniently: any number of slashes or backslashes may
follow the scheme, a backslash counts as a slash, and dot segments are resolved
while the path is read.  A host is required there, so a text that leaves it empty
is refused.  Relative texts take one of four forms, told apart by their first
character: a query, a fragment, a path from the root (or, behind two slashes, a
new authority), and a path from the directory of the base.
-/
import HttpClient.Encoding.Percent
import HttpClient.Url.Basic
import HttpClient.Url.Domain

namespace HttpClient.Url

open Text

/-! ## Paths -/

/-- A drive letter: a letter and a colon or a bar. -/
def isDrive : List Char → Bool
  | [a, b] => a.isAlpha && (b = ':' || b = '|')
  | _ => false

/-- A drive letter with a colon. -/
def isNormalDrive : List Char → Bool
  | [a, b] => a.isAlpha && b = ':'
  | _ => false

/-- A drive letter that the text behind it does not continue. -/
def startsWithDrive : List Char → Bool
  | a :: b :: rest => isDrive [a, b] && (rest.head?.all fun c => "/\\?#".toList.contains c)
  | _ => false

def isDot (segment : List Char) : Bool := [".", "%2e"].contains (lower (String.ofList segment))

/-- A segment that names the directory above. -/
def isDoubleDot (segment : List Char) : Bool :=
  ["..", ".%2e", "%2e.", "%2e%2e"].contains (lower (String.ofList segment))

def endsWithSlash (path : List Char) : Bool := path.getLast? = some '/'

/-- The path up to and with its last slash; a drive letter at its end stays. -/
def parent (kind : Kind) (path : List Char) : List Char :=
  match cutLast '/' path with
  | some (front, segment) =>
    if kind = .file && isNormalDrive segment then path else front ++ ['/']
  | none => []

/-- The slash at the end of a path may go: it is not the first, and not the one behind a drive
letter. -/
def mayDropSlash (path : List Char) : Bool :=
  endsWithSlash path &&
    match cutLast '/' path.dropLast with
    | some (_, segment) => !startsWithDrive (segment ++ ['/'])
    | none => false

/-- The path with one more segment, `slash` telling whether a slash follows it. Dot segments
change the path before them instead. -/
def addSegment (kind : Kind) (path segment : List Char) (slash : Bool) : List Char :=
  if isDoubleDot segment then
    let up := parent kind (if mayDropSlash path then path.dropLast else path)
    if slash && !endsWithSlash up then up ++ ['/'] else up
  else if isDot segment then
    if endsWithSlash path then path else path ++ ['/']
  else path ++ segment ++ (if slash then ['/'] else [])

/-- The path with segments added that slashes separate. -/
def addSegments (kind : Kind) (path : List Char) : List (List Char) → List Char
  | [] => path
  | [last] => addSegment kind path (Percent.encode Percent.pathSet last) false
  | segment :: rest =>
    addSegments kind (addSegment kind path (Percent.encode Percent.pathSet segment) true) rest

/-- The segments at the head of a text, and the rest of it from the query or fragment on. -/
def cutPath (kind : Kind) (cs : List Char) : List (List Char) × List Char :=
  let text := cs.takeWhile fun c => c ≠ '?' && c ≠ '#'
  (piecesBy (fun c => c = '/' || (c = '\\' && kind.isSpecial)) text, cs.drop text.length)

/-- The path that the text continues, and the rest of the text from the query or fragment on. -/
def pathFrom (kind : Kind) (path cs : List Char) : List Char × List Char :=
  let (segments, rest) := cutPath kind cs
  (addSegments kind path segments, rest)

/-- The path behind an authority. -/
def pathAfterAuthority (kind : Kind) (cs : List Char) : List Char × List Char :=
  if kind.isSpecial then
    match cs with
    | '/' :: rest => pathFrom kind ['/'] rest
    | '\\' :: rest => pathFrom kind ['/'] rest
    | _ => pathFrom kind ['/'] cs
  else
    match cs with
    | [] => ([], [])
    | '?' :: _ => ([], cs)
    | '#' :: _ => ([], cs)
    | '/' :: rest => pathFrom kind ['/'] rest
    | _ => pathFrom kind ['/'] cs

/-! ## Queries and fragments -/

/-- The query and the fragment that end a text. -/
def queryAndFragment (kind : Kind) (cs : List Char) : Option String × Option String :=
  let (beforeHash, fragment) := match cut '#' cs with
    | some (a, b) => (a, some (String.ofList (Percent.encode Percent.fragmentSet b)))
    | none => (cs, none)
  let set := if kind.isSpecial then Percent.specialQuerySet else Percent.querySet
  match beforeHash with
  | '?' :: q => (some (String.ofList (Percent.encode set q)), fragment)
  | _ => (none, fragment)

/-- The url with the path that the text continues, and with its query and fragment. -/
def withPath (scheme : String) (authority : Option Authority) (result : List Char × List Char) :
    Url :=
  let (query, fragment) := queryAndFragment (Kind.of scheme) result.2
  ⟨scheme, authority, String.ofList result.1, query, fragment⟩

/-! ## Authorities -/

/-- A character that ends an authority. -/
def endsAuthority (kind : Kind) (c : Char) : Bool :=
  c = '/' || c = '?' || c = '#' || (c = '\\' && kind.isSpecial)

/-- The user name and password of an authority, and the text behind them. -/
def readLogin (kind : Kind) (cs : List Char) :
    Except ParseError (String × Option String × List Char) :=
  let region := cs.takeWhile fun c => !endsAuthority kind c
  match cutLast '@' region with
  | none => .ok ("", none, cs)
  | some ([], _) =>
    let rest := cs.drop 1
    if rest.head?.any (endsAuthority kind) then .error .emptyHost else .ok ("", none, rest)
  | some (login, _) =>
    let rest := cs.drop (login.length + 1)
    let written := fun part => String.ofList (Percent.encode Percent.userinfoSet part)
    match cut ':' login with
    | none => .ok (written login, none, rest)
    | some (name, []) => .ok (written name, none, rest)
    | some (name, word) => .ok (written name, some (written word), rest)

/-- The text of a host and the text behind it. A colon ends the host unless it is in brackets. -/
def cutHost (kind : Kind) (inBrackets : Bool) : List Char → List Char × List Char
  | [] => ([], [])
  | c :: cs =>
    if (c = ':' && !inBrackets) || endsAuthority kind c then ([], c :: cs)
    else
      let inBrackets := if c = '[' then true else if c = ']' then false else inBrackets
      let (host, rest) := cutHost kind inBrackets cs
      (c :: host, rest)

/-- The text inside brackets is an IPv6 address. -/
def bracketed (cs : List Char) : Except ParseError Host :=
  match cs.reverse with
  | ']' :: inner => ((ipv6? inner.reverse).map Host.ipv6).elim (.error .badIpv6) .ok
  | _ => .error .badIpv6

/-- The host that a text names in the urls of the web and of files. -/
def readHost (cs : List Char) : Except ParseError Host :=
  match cs with
  | '[' :: inner => bracketed inner
  | _ =>
    match (decode? (Percent.decode cs)).bind fun name => Domain.toAscii? name.toList with
    | none => .error .badDomain
    | some [] => .error .emptyHost
    | some name =>
      if endsInNumber name then (ipv4? name).elim (.error .badIpv4) fun n => .ok (.ipv4 n)
      else .ok (.domain (String.ofList name))

/-- The characters that no host may contain. -/
def isForbiddenInHost (c : Char) : Bool :=
  c.toNat = 0 || "\t\n\r #/:<>?@[\\]^|".toList.contains c

/-- The host that a text names in the urls of other schemes. -/
def readOpaqueHost (cs : List Char) : Except ParseError Host :=
  match cs with
  | '[' :: inner => bracketed inner
  | _ =>
    if cs.any isForbiddenInHost then .error .badHostCharacter
    else .ok (.domain (String.ofList (Percent.encode Percent.controls cs)))

/-- The number of a port, `n` being the value of the digits read so far, and the text behind it. -/
def readPort (n : Nat) : List Char → Except ParseError (Nat × List Char)
  | [] => .ok (n, [])
  | c :: cs =>
    match digit? c with
    | some d => if 65535 < 10 * n + d then .error .badPort else readPort (10 * n + d) cs
    | none => if "/\\?#".toList.contains c then .ok (n, c :: cs) else .error .badPort

/-- The port behind a host, unless it is missing or the default of the scheme. -/
def portAfterHost (scheme : String) (cs : List Char) :
    Except ParseError (Option Nat × List Char) :=
  match cs with
  | ':' :: rest => do
    let (n, behind) ← readPort 0 rest
    if behind.length = rest.length || some n = defaultPort? scheme then return (none, behind)
    else return (some n, behind)
  | _ => .ok (none, cs)

/-- The url behind the two slashes that begin an authority. -/
def afterSlashes (scheme : String) (cs : List Char) : Except ParseError Url := do
  let kind := Kind.of scheme
  let (username, password, rest) ← readLogin kind cs
  let (hostText, rest) := cutHost kind false rest
  if hostText = [] && kind.isSpecial then throw .emptyHost
  let host ← if kind.isSpecial then readHost hostText else readOpaqueHost hostText
  if hostText = [] && rest.head? = some ':' then throw .emptyHost
  let (port, rest) ← portAfterHost scheme rest
  if hostText = [] && (username ≠ "" || password.isSome) then throw .emptyHost
  let host? := if hostText = [] then none else some host
  return withPath scheme (some ⟨username, password, host?, port⟩) (pathAfterAuthority kind rest)

/-! ## Files -/

def hostOnly (host : Option Host) : Option Authority := some ⟨"", none, host, none⟩

/-- The path of a file while it is read, and whether its first segment was written as a drive
letter. -/
structure FilePath where
  path : List Char
  drive : Bool := false

/-- The path consists of a drive letter. -/
def isDriveRoot : List Char → Bool
  | '/' :: segment => isNormalDrive segment
  | _ => false

/-- The path of a file with one more segment. A drive letter in the first place is written with a
colon, and a slash stands behind it. `gap` says that the text was broken behind the first two
characters of the segment; a drive letter there is taken off. -/
def FilePath.add (p : FilePath) (gap : Bool) (segment : List Char) (slash : Bool) : FilePath :=
  let coded := Percent.encode Percent.pathSet segment
  if segment ≠ [] && isDriveRoot p.path then
    { p with path := addSegment .file (p.path ++ ['/']) coded slash }
  else if p.path = ['/'] && isDrive coded then
    ⟨'/' :: coded.take 1 ++ [':'] ++ (if slash then ['/'] else []), true⟩
  else if p.path = ['/'] && gap && 2 < segment.length && isNormalDrive (segment.take 2) then
    { p with path := '/' :: coded.take 2 ++ ['/'] ++ coded.drop 2 ++ (if slash then ['/'] else []) }
  else { p with path := addSegment .file p.path coded slash }

/-- The path of a file with segments added that slashes separate, `n` being the length of the text
from them on. -/
def FilePath.addAll (gaps : List Nat) (p : FilePath) (n : Nat) : List (List Char) → FilePath
  | [] => p
  | segment :: rest =>
    (p.add (gaps.contains (n - 2)) segment (rest ≠ [])).addAll gaps (n - segment.length - 1) rest

/-- The path of a file that the text continues, and the rest of the text from the query or fragment
on. It begins with one slash. -/
def filePath (gaps : List Nat) (path cs : List Char) : FilePath × List Char :=
  let (segments, rest) := cutPath .file cs
  let p := FilePath.addAll gaps ⟨path, false⟩ cs.length segments
  ({ p with path := '/' :: p.path.dropWhile (· = '/') }, rest)

def fileUrl (authority : Option Authority) (result : FilePath × List Char) : Url :=
  withPath "file" authority (result.1.path, result.2)

/-- A file url behind two slashes. A drive letter is no host, and `localhost` is as good as none.
Without a host, the path has a slash before its text; a host gives way to a path that begins with
a drive letter. -/
def fileAfterSlashes (gaps : List Nat) (cs : List Char) : Except ParseError Url := do
  let text := cs.takeWhile fun c => !endsAuthority .file c
  let rest := cs.drop text.length
  if isDrive text then return fileUrl (hostOnly none) (filePath gaps ['/'] cs)
  else if text = [] then return fileUrl (hostOnly none) (filePath gaps ['/'] rest)
  else
    let host ← readHost text
    if host = .domain "localhost" then
      return fileUrl (hostOnly none) (filePath gaps ['/'] rest)
    else
      let isSlash := rest.head?.any fun c => c = '/' || c = '\\'
      let result := filePath gaps ['/'] (if isSlash then rest.drop 1 else rest)
      return fileUrl (hostOnly (if result.1.drive then none else some host)) result

/-- A file url behind one slash. Without a drive letter of its own it takes that of the base, else
its host. -/
def fileAfterSlash (gaps : List Nat) (base : Option Url) (cs : List Char) : Url :=
  let (host, path) :=
    if startsWithDrive cs then (none, [])
    else
      match base with
      | none => (none, [])
      | some b =>
        let first := (b.path.toList.drop 1).takeWhile (· ≠ '/')
        if isNormalDrive first then (none, '/' :: first) else (b.host?, [])
  fileUrl (hostOnly host) (filePath gaps (path ++ ['/']) cs)

/-- A file url behind its scheme, or a text resolved against one. -/
def file (gaps : List Nat) (base : Option Url) (cs : List Char) : Except ParseError Url :=
  let isSlash := fun c => c = '/' || c = '\\'
  match cs with
  | c :: d :: rest =>
    if isSlash c && isSlash d then fileAfterSlashes gaps rest
    else if isSlash c then .ok (fileAfterSlash gaps base (d :: rest))
    else .ok (relative base cs)
  | [c] => if isSlash c then .ok (fileAfterSlash gaps base []) else .ok (relative base cs)
  | [] => .ok (relative base cs)
where
  /-- A text without a leading slash. -/
  relative (base : Option Url) (cs : List Char) : Url :=
    match base, cs with
    | none, _ => fileUrl (hostOnly none) (filePath gaps ['/'] cs)
    | some b, [] => { b with fragment := none }
    | some b, '?' :: _ => withPath "file" b.authority (b.path.toList, cs)
    | some b, '#' :: f =>
      { b with fragment := some (String.ofList (Percent.encode Percent.fragmentSet f)) }
    | some b, _ =>
      if startsWithDrive cs then fileUrl (hostOnly none) (filePath gaps ['/'] cs)
      else fileUrl b.authority (filePath gaps (parent .file b.path.toList) cs)

/-! ## Whole urls -/

/-- A text resolved against a base that is neither a file nor opaque. -/
def relativeTo (b : Url) (cs : List Char) : Except ParseError Url :=
  let kind := Kind.of b.scheme
  let isSlash := fun c => c = '/' || c = '\\'
  match cs with
  | [] => .ok { b with fragment := none }
  | '?' :: _ => .ok (withPath b.scheme b.authority (b.path.toList, cs))
  | '#' :: f =>
    .ok { b with fragment := some (String.ofList (Percent.encode Percent.fragmentSet f)) }
  | c :: rest =>
    if isSlash c then
      if rest.head?.any isSlash then
        match behind "//".toList cs with
        | some rest => afterSlashes b.scheme rest
        | none => afterSlashes b.scheme (cs.dropWhile isSlash)
      else .ok (withPath b.scheme b.authority (pathFrom kind ['/'] rest))
    else
      let directory := parent kind b.path.toList
      let directory := if directory = [] then ['/'] else directory
      .ok (withPath b.scheme b.authority (pathFrom kind directory cs))

/-- The scheme at the head of a text, in lower case, and the text behind its colon. -/
def readScheme (cs : List Char) : Option (String × List Char) :=
  match cut ':' cs with
  | some (c :: name, rest) =>
    if c.isAlpha && name.all fun c => c.isAlphanum || "+-.".toList.contains c then
      some (lower (String.ofList (c :: name)), rest)
    else none
  | _ => none

/-- A url behind its scheme. -/
def afterScheme (gaps : List Nat) (base : Option Url) (scheme : String) (cs : List Char) :
    Except ParseError Url :=
  let isSlash := fun c => c = '/' || c = '\\'
  match Kind.of scheme with
  | .file => file gaps (base.filter (·.scheme = "file")) cs
  | .web =>
    let slashes := cs.takeWhile isSlash
    match base.filter (·.scheme = scheme) with
    | some b =>
      if slashes.length < 2 then relativeTo b cs
      else afterSlashes scheme (cs.dropWhile isSlash)
    | none => afterSlashes scheme (cs.dropWhile isSlash)
  | .other =>
    match cs with
    | '/' :: '/' :: rest => afterSlashes scheme rest
    | '/' :: rest => .ok (withPath scheme none (pathFrom .other ['/'] rest))
    | _ =>
      let opaquePath := cs.takeWhile fun c => c ≠ '?' && c ≠ '#'
      .ok (withPath scheme none
        (Percent.encode Percent.controls opaquePath, cs.drop opaquePath.length))

/-- The text without the tabs and line ends in it; how long it is; and, for each of these, how much
of the text stands behind it. -/
def close (cs : List Char) : List Char × Nat × List Nat :=
  cs.foldr
    (fun c (text, n, gaps) =>
      if c = '\t' || c = '\n' || c = '\r' then (text, n, n :: gaps) else (c :: text, n + 1, gaps))
    ([], 0, [])

/-- The text without the blanks and controls around it and the tabs and line ends in it, and the gaps
that these leave. -/
def clean (s : String) : List Char × List Nat :=
  let (text, _, gaps) := close (strip (fun c => c.toNat ≤ 0x20) s.toList)
  (text, gaps)

/-- Reads a text as a url, against a base if there is one. -/
def read (base : Option Url) (s : String) : Except ParseError Url :=
  let (cs, gaps) := clean s
  match readScheme cs with
  | some (scheme, rest) => afterScheme gaps base scheme rest
  | none =>
    match base with
    | none => .error .relativeWithoutBase
    | some b =>
      if cs.head? = some '#' then
        .ok { b with fragment := some (String.ofList (Percent.encode Percent.fragmentSet (cs.drop 1))) }
      else if b.isOpaque then .error .relativeToOpaque
      else if b.scheme = "file" then file gaps (some b) cs
      else relativeTo b cs

def parse (s : String) : Except ParseError Url := read none s

def resolve (base : Url) (s : String) : Except ParseError Url := read (some base) s

end HttpClient.Url
