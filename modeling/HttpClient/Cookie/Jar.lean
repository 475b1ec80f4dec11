/-
# The cookie jar

The jar holds at most one cookie for each name, in ascending order of names, each
with the time at which it stops being sent.  `find?` is the view by which the
operations are described.  A `Set-Cookie` that has already expired removes the
cookie of its name; any other one replaces it.  An expired cookie that is still
in the jar is neither shown nor sent.
-/
import HttpClient.Cookie.SetCookie
import HttpClient.Message.Header

namespace HttpClient

structure Cookie where
  value : String
  /-- When the cookie stops being sent, if it does. -/
  expires : Option Instant
deriving DecidableEq, Repr

/-- The cookie is sent at this time. -/
def Cookie.isLive (c : Cookie) (now : Instant) : Bool :=
  match c.expires with
  | some t => now < t
  | none => true

/-- Cookies by name, in ascending order of names. -/
structure Jar where
  entries : List (String × Cookie)
  ascending : entries.Pairwise (·.1 < ·.1)

namespace Jar

def empty : Jar := ⟨[], .nil⟩

instance : Inhabited Jar := ⟨empty⟩

/-- The cookie of a name, expired or not. -/
def find? (jar : Jar) (name : String) : Option Cookie :=
  (jar.entries.find? (·.1 = name)).map (·.2)

/-- The entries with one more, which takes the place of the one of its name. -/
def put (name : String) (c : Cookie) : List (String × Cookie) → List (String × Cookie)
  | [] => [(name, c)]
  | e :: es =>
    if name < e.1 then (name, c) :: e :: es
    else if name = e.1 then (name, c) :: es
    else e :: put name c es

theorem mem_put {name : String} {c : Cookie} {es : List (String × Cookie)} {e : String × Cookie}
    (h : e ∈ put name c es) : e = (name, c) ∨ e ∈ es := by
  induction es with
  | nil => simpa [put] using h
  | cons x xs ih =>
    simp only [put] at h
    split at h
    · simpa using h
    · split at h
      · rcases List.mem_cons.1 h with h | h
        · exact .inl h
        · exact .inr (List.mem_cons_of_mem _ h)
      · rcases List.mem_cons.1 h with h | h
        · exact .inr (h ▸ List.mem_cons_self ..)
        · exact (ih h).imp_right (List.mem_cons_of_mem _)

theorem ascending_put {name : String} {c : Cookie} {es : List (String × Cookie)}
    (h : es.Pairwise (·.1 < ·.1)) : (put name c es).Pairwise (·.1 < ·.1) := by
  induction es with
  | nil => simp [put]
  | cons x xs ih =>
    have hx := List.pairwise_cons.1 h
    simp only [put]
    split
    · rename_i lt
      refine List.pairwise_cons.2 ⟨fun e he => ?_, h⟩
      rcases List.mem_cons.1 he with he | he
      · exact he ▸ lt
      · exact String.lt_trans lt (hx.1 e he)
    · split
      · rename_i eq
        exact List.pairwise_cons.2 ⟨fun e he => eq ▸ hx.1 e he, hx.2⟩
      · rename_i nlt ne
        refine List.pairwise_cons.2 ⟨fun e he => ?_, ih hx.2⟩
        rcases mem_put he with he | he
        · subst he
          exact Std.lt_of_le_of_ne (String.not_lt.1 nlt) fun x => ne x.symm
        · exact hx.1 e he

def insert (jar : Jar) (name : String) (c : Cookie) : Jar :=
  ⟨put name c jar.entries, ascending_put jar.ascending⟩

def erase (jar : Jar) (name : String) : Jar :=
  ⟨jar.entries.filter (·.1 ≠ name), jar.ascending.filter _⟩

def set (jar : Jar) (name value : String) : Jar := jar.insert name ⟨value, none⟩

/-- The value of a name at a time, unless its cookie has expired. -/
def value? (jar : Jar) (name : String) (now : Instant) : Option String :=
  ((jar.find? name).filter (·.isLive now)).map (·.value)

/-- How many cookies there are, expired ones included. -/
def size (jar : Jar) : Nat := jar.entries.length

def isEmpty (jar : Jar) : Bool := jar.entries.isEmpty

/-- The names and values that are sent at a time, in ascending order of names. -/
def live (jar : Jar) (now : Instant) : List (String × String) :=
  (jar.entries.filter (·.2.isLive now)).map fun (name, c) => (name, c.value)

/-- The value of a `Cookie` field at a time, if there is anything to send. -/
def render (jar : Jar) (now : Instant) : Option String :=
  match jar.live now with
  | [] => none
  | pairs => some (Text.join "; " (pairs.map fun (name, value) => name ++ "=" ++ value))

/-- The jar after one `Set-Cookie` that is well formed. -/
def apply (jar : Jar) (c : SetCookie) (now : Instant) : Jar :=
  if c.expires.any (· ≤ now) then jar.erase c.name else jar.insert c.name ⟨c.value, c.expires⟩

/-- The jar after one `Set-Cookie` value. One that is not well formed changes nothing. -/
def extractValue (now : Instant) (jar : Jar) (s : String) : Jar :=
  match SetCookie.parse? s now with
  | some c => jar.apply c now
  | none => jar

/-- The jar after the `Set-Cookie` values of a response, in order. Values that are no text do not
count. -/
def extract (jar : Jar) (headers : Headers) (now : Instant) : Jar :=
  (headers.texts .setCookie).foldl (extractValue now) jar

end Jar

end HttpClient
