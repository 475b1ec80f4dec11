/-
# Logins in a netrc file

A netrc file lists machines with the logins to use for them, and perhaps a
default for all others.  It is read word by word, but a comment ends with its
line, a value stands on the line of its keyword, and a macro definition runs to
the next blank line.  An entry goes on until the next one begins, whatever
comments and macros stand in it.  Of several default entries the last counts, of
several entries for one machine the first.
-/
import HttpClient.Auth.Basic
import HttpClient.Text.Blank

namespace HttpClient.Auth

open Text

structure Machine where
  host : String
  login : Login
deriving DecidableEq, Repr

structure NetRc where
  machines : List Machine
  default? : Option Login
deriving DecidableEq, Repr

namespace NetRc

inductive Fault where
  | noHost
  | noValue (keyword : String)
  | noEntry (keyword : String)
  | unexpected (word : String)
deriving DecidableEq, Repr

def Fault.detail : Fault → String
  | .noHost => "machine without host name"
  | .noValue keyword => keyword ++ " without value"
  | .noEntry keyword => keyword ++ " outside machine entry"
  | .unexpected word => "unexpected token: " ++ word

/-- The entry that is being read. -/
inductive Draft where
  | none
  | machine (host : String) (login : Login)
  | default (login : Login)
deriving DecidableEq, Repr

/-- The entry with another login, if there is one. -/
def Draft.change (f : Login → Login) : Draft → Option Draft
  | .none => Option.none
  | .machine host login => some (.machine host (f login))
  | .default login => some (.default (f login))

/-- What was read so far, and the entry that is being read. -/
structure Reader where
  file : NetRc
  draft : Draft
deriving DecidableEq, Repr

/-- The file with the entry that was being read. -/
def Reader.close (r : Reader) : NetRc :=
  match r.draft with
  | .none => r.file
  | .machine host login => { r.file with machines := r.file.machines ++ [⟨host, login⟩] }
  | .default login => { r.file with default? := some login }

/-- How a value changes the login of its entry. -/
def assign (keyword value : String) (l : Login) : Login :=
  if keyword = "login" then { l with username := value }
  else if keyword = "password" then { l with password := value }
  else l

/-- What is read behind the words of a line: another line, or the lines of a macro. -/
inductive LineEnd where
  | line
  | macroLines
deriving DecidableEq, Repr

/-- Reads the words of a line. -/
def readWords (r : Reader) : List String → Except Fault (Reader × LineEnd)
  | [] => .ok (r, .line)
  | word :: rest =>
    if word = "machine" then
      match rest with
      | [] => .error .noHost
      | host :: rest => readWords ⟨r.close, .machine host ⟨"", ""⟩⟩ rest
    else if word = "default" then readWords ⟨r.close, .default ⟨"", ""⟩⟩ rest
    else if word = "login" || word = "password" || word = "account" then
      match rest with
      | [] => .error (.noValue word)
      | value :: rest =>
        match r.draft.change (assign word value) with
        | none => .error (.noEntry word)
        | some draft => readWords { r with draft } rest
    else if word = "macdef" then .ok (r, .macroLines)
    else if "#".toList.isPrefixOf word.toList then .ok (r, .line)
    else .error (.unexpected word)

/-- Reads lines, `inMacro` telling that they belong to a macro so far. -/
def readLines (inMacro : Bool) (r : Reader) : List (List Char) → Except Fault Reader
  | [] => .ok r
  | line :: rest =>
    if inMacro then readLines (trim line ≠ []) r rest
    else
      match readWords r ((words line).map String.ofList) with
      | .error e => .error e
      | .ok (r, stop) => readLines (stop = .macroLines) r rest

def parse (s : String) : Except Fault NetRc :=
  (readLines false ⟨⟨[], none⟩, .none⟩ (pieces '\n' s.toList)).map Reader.close

/-- Reads a file of which the path and the content are known, `none` if there is no such file. -/
def load (path : String) (content : Option Bytes) : Except Error NetRc :=
  match content with
  | none => .error (.netRc (path ++ ": No such file or directory (os error 2)"))
  | some bytes =>
    match decode? bytes with
    | none => .error (.netRc (path ++ ": stream did not contain valid UTF-8"))
    | some text => (parse text).mapError fun fault => .netRc fault.detail

/-- The login for a host: that of its machine, else the default. -/
def login? (n : NetRc) (host : String) : Option Login :=
  ((n.machines.find? fun m => sameLetters m.host host).map (·.login)).or n.default?

/-- The request with the login for its host, if there is one. -/
def apply (n : NetRc) (r : Request) : Except Error Request :=
  match n.login? r.url.hostText with
  | some l => l.apply r
  | none => .ok r

/-- The file in a description, which leaves the logins out. -/
def describe (n : NetRc) : String :=
  Text.record "NetRc"
    [("machines", quotedList (n.machines.map (·.host))), ("default", toString n.default?.isSome)]

end NetRc

end HttpClient.Auth
