/-
# Basic authentication in the field

Base64 writes any bytes with legible characters, so whatever a login consists of, its value can be
written into the field (`Login.apply_eq`), and whoever has the value has the bytes of the login.
They are parted at their first colon.  A colon is one byte, and no other character has that byte in
its form (`mem_utf8_iff`), so the two parts are name and password exactly if there is no colon in the
name (`ofBytes?_eq_some_iff`).

A login is sent as it is given or as a netrc file has it for the host (`Presents`), and that never
fails.  Where there is no colon in the name, the value is read back as the login (`login_read_back`).
-/
import HttpClient.Auth.Flow
import HttpClient.Proofs.Encoding.Base64
import Mathlib.Data.List.TakeWhile

namespace HttpClient.Auth

open Text

namespace Login

/-! ## The bytes of a login -/

def colon : UInt8 := 58

/-- The login that bytes spell: the first colon parts the name from the password, and both are
UTF-8. -/
def ofBytes? (bytes : Bytes) : Option Login :=
  match bytes.dropWhile (· ≠ colon) with
  | [] => none
  | _ :: behind => do return ⟨← decode? (bytes.takeWhile (· ≠ colon)), ← decode? behind⟩

theorem colon_mem_utf8_iff (s : String) : colon ∈ utf8 s ↔ ':' ∈ s.toList := by
  rw [mem_utf8_iff (by decide)]
  constructor
  · rintro ⟨c, there, same⟩
    rwa [show c = ':' from Char.toNat_inj.mp same] at there
  · exact fun there => ⟨':', there, rfl⟩

theorem not_mem_of_ofBytes? {bytes : Bytes} {l : Login} (h : ofBytes? bytes = some l) :
    ':' ∉ l.username.toList := by
  unfold ofBytes? at h
  split at h
  · cases h
  · obtain ⟨username, front, h⟩ := Option.bind_eq_some_iff.mp h
    obtain ⟨password, -, h⟩ := Option.bind_eq_some_iff.mp h
    cases h
    rw [← colon_mem_utf8_iff, decode?_eq_some_iff.mp front]
    intro there
    simpa using List.mem_takeWhile_imp there

/-- A login is spelled by its two parts with a colon between them, unless its name has one. -/
theorem ofBytes?_eq_some_iff (l : Login) :
    ofBytes? (utf8 (l.username ++ ":" ++ l.password)) = some l ↔ ':' ∉ l.username.toList := by
  refine ⟨not_mem_of_ofBytes?, fun plain => ?_⟩
  have bytes : utf8 (l.username ++ ":" ++ l.password)
      = utf8 l.username ++ colon :: utf8 l.password := by
    rw [utf8_append, utf8_append, List.append_assoc]
    rfl
  have others : ∀ b ∈ utf8 l.username, decide (b ≠ colon) = true := by
    intro b there
    refine decide_eq_true ?_
    rintro rfl
    exact plain ((colon_mem_utf8_iff _).mp there)
  have front : (utf8 l.username ++ colon :: utf8 l.password).takeWhile (· ≠ colon)
      = utf8 l.username := by
    rw [List.takeWhile_append_of_pos others, List.takeWhile_cons_of_neg (by simp), List.append_nil]
  have behind : (utf8 l.username ++ colon :: utf8 l.password).dropWhile (· ≠ colon)
      = colon :: utf8 l.password := by
    rw [List.dropWhile_append_of_pos others, List.dropWhile_cons_of_neg (by simp)]
  rw [bytes, ofBytes?, front, behind]
  simp only [decode?_eq_some_iff.mpr rfl]
  rfl

/-! ## The field -/

theorem legible_basic (l : Login) : Legible l.basic :=
  .append (by decide) (Base64.legible_encode _)

theorem apply_eq (l : Login) (r : Request) :
    ∃ v : HeaderValue, v.bytes = utf8 l.basic ∧
      l.apply r = .ok { r with headers := r.headers.set .authorization v } := by
  obtain ⟨v, written⟩ := HeaderValue.ofText_of_legible l.legible_basic
  refine ⟨v, HeaderValue.ofText_bytes written, ?_⟩
  rw [apply, Request.withAuthorization, written]
  rfl

end Login

/-- The ways to authenticate that send a login with the first request, and the login that they
send to a url. -/
inductive Presents (u : Url) : Auth → Login → Prop where
  | basic {l : Login} : Presents u (.basic l) l
  | netRc {n : NetRc} {l : Login} : n.login? u.hostText = some l → Presents u (.netRc n) l

variable {a a' : Auth} {r r' : Request} {l l' : Login}

theorem Presents.start_eq (h : Presents r.url a l) (j : Journal) (s : Digest.Store) :
    ∃ v : HeaderValue, v.bytes = utf8 l.basic ∧ (Flow.ofAuth (some a)).start j r s
      = (⟨{ r with headers := r.headers.set .authorization v }, none⟩, s) := by
  obtain ⟨v, bytes, applied⟩ := l.apply_eq r
  refine ⟨v, bytes, ?_⟩
  cases h with
  | basic => simp only [Flow.ofAuth, Flow.start, applied, Edited.ofExcept]
  | netRc found => simp only [Flow.ofAuth, Flow.start, NetRc.apply, found, applied, Edited.ofExcept]

/-- A value of a login with a plain name is the word and a text of Base64, which decodes to bytes
that spell the login. -/
theorem Login.basic_read_back (plain : ':' ∉ l.username.toList) :
    ∃ code bytes, l.basic = "Basic " ++ code ∧ Base64.decode? code = some bytes ∧
      Login.ofBytes? bytes = some l :=
  ⟨_, _, rfl, Base64.decode?_encode _, l.ofBytes?_eq_some_iff.mpr plain⟩

theorem Login.basic_inj (plain : ':' ∉ l.username.toList) (plain' : ':' ∉ l'.username.toList) :
    l.basic = l'.basic ↔ l = l' := by
  refine ⟨fun same => ?_, congrArg basic⟩
  obtain ⟨code, bytes, written, decoded, spelled⟩ := basic_read_back plain
  obtain ⟨code', bytes', written', decoded', spelled'⟩ := basic_read_back plain'
  rw [written, written', String.append_right_inj] at same
  subst same
  cases decoded.symm.trans decoded'
  exact Option.some.inj (spelled.symm.trans spelled')

/-- A login without a colon in its name can be sent whatever else it consists of, as it is given or
as a netrc file has it.  The value in the field is the word and a text of Base64 that decodes to bytes
which spell the login, so that no other such login is ever sent with the same value. -/
theorem login_read_back (plain : ':' ∉ l.username.toList) (presents : Presents r.url a l)
    (j : Journal) (s : Digest.Store) :
    ∃ v code bytes, (Flow.ofAuth (some a)).start j r s
        = (⟨{ r with headers := r.headers.set .authorization v }, none⟩, s) ∧
      v.bytes = utf8 ("Basic " ++ code) ∧ Base64.decode? code = some bytes ∧
      Login.ofBytes? bytes = some l ∧
      ∀ {a' r' l'}, ':' ∉ l'.username.toList → Presents r'.url a' l' → ∀ j' s',
        ((Flow.ofAuth (some a')).start j' r' s').1.request.headers.values .authorization = [v] →
          l' = l := by
  obtain ⟨v, value, started⟩ := presents.start_eq j s
  obtain ⟨code, bytes, written, decoded, spelled⟩ := Login.basic_read_back plain
  refine ⟨v, code, bytes, started, written ▸ value, decoded, spelled, ?_⟩
  intro a' r' l' plain' presents' j' s' same
  obtain ⟨v', value', started'⟩ := presents'.start_eq j' s'
  rw [started', Headers.values_set, if_pos rfl] at same
  cases same
  exact (Login.basic_inj plain' plain).mp (utf8_inj.mp (value'.symm.trans value))

/-- A login with controls and characters outside ASCII, and with colons in its password. -/
theorem login_read_back_of_controls :
    let l : Login := ⟨"né\u0000\n", ":p:\u007F"⟩
    let file : NetRc := ⟨[⟨"Q.test", l⟩], none⟩
    let url : Url := ⟨"http", some ⟨"", none, some (.domain "q.test"), none⟩, "/", none, none⟩
    ':' ∉ l.username.toList ∧ file.login? url.hostText = some l ∧
      ∃ q v code bytes, (Flow.ofAuth (some (.netRc file))).start [] { method := .get, url } .empty
          = (⟨q, none⟩, .empty) ∧ q.headers.values .authorization = [v] ∧
        v.bytes = utf8 ("Basic " ++ code) ∧ Base64.decode? code = some bytes ∧
        Login.ofBytes? bytes = some l := by
  intro l file url
  have plain : ':' ∉ l.username.toList := by decide
  have found : file.login? url.hostText = some l := by decide +kernel
  obtain ⟨v, code, bytes, started, value, decoded, spelled, -⟩ :=
    login_read_back (r := { method := .get, url }) plain (.netRc found) [] .empty
  exact ⟨plain, found, _, v, code, bytes, started, (Headers.values_set _ _ _ v).trans (if_pos rfl),
    value, decoded, spelled⟩

end HttpClient.Auth
