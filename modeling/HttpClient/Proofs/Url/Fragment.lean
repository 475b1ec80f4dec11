/-
# Fragments in urls that are read against a base

The fragment of a url of the web is what stands behind the first hash of the text that it was
read from, whatever the text leaves out, and there is none if there is no hash
(`resolve_fragment`).  Each reader takes a front of the text that has no hash in it and hands on
the rest, so the first hash of the rest is the first one of the text (`fragmentAt_append`).

The text of a location is cleaned before it is read, and a host may be written into it.  The one
keeps the first hash where it is and the other puts nothing behind it, provided that there is no hash
in the host and the port of the base.  So the fragment is told by the location alone.
-/
import HttpClient.Proofs.Text.Trimming
import HttpClient.Proofs.Url.Host
import Mathlib.Data.List.Basic

namespace HttpClient

open Text

/-! ## The first hash of a text -/

namespace Text

def behindHash? (cs : List Char) : Option (List Char) := (cut '#' cs).map (·.2)

variable {front cs : List Char}

theorem behindHash?_of_not_mem (free : '#' ∉ cs) : behindHash? cs = none := by
  rw [behindHash?, cut_eq_none free]
  rfl

theorem behindHash?_append (free : '#' ∉ front) (cs : List Char) :
    behindHash? (front ++ cs) = behindHash? cs := by
  induction front with
  | nil => rfl
  | cons c front ih =>
      obtain ⟨other, free⟩ := not_or.mp (mt List.mem_cons.mpr free)
      rw [List.cons_append, behindHash?, cut, if_neg (Ne.symm other), Option.map_map]
      exact ih free

theorem hash_cases (cs : List Char) :
    '#' ∉ cs ∨ ∃ front rest, '#' ∉ front ∧ cs = front ++ '#' :: rest := by
  by_cases there : '#' ∈ cs
  · obtain ⟨front, rest, parts, free⟩ := List.eq_append_cons_of_mem there
    exact .inr ⟨front, rest, free, parts⟩
  · exact .inl there

theorem behindHash?_filter {p : Char → Bool} (kept : p '#' = true) (cs : List Char) :
    behindHash? (cs.filter p) = (behindHash? cs).map (·.filter p) := by
  rcases hash_cases cs with free | ⟨front, rest, free, rfl⟩
  · rw [behindHash?_of_not_mem free, behindHash?_of_not_mem (mt List.mem_of_mem_filter free)]
    rfl
  · rw [List.filter_append, List.filter_cons_of_pos kept, behindHash?_append free,
      behindHash?_append (mt List.mem_of_mem_filter free)]
    rfl

theorem behindHash?_dropWhile {p : Char → Bool} (kept : p '#' = false) (cs : List Char) :
    behindHash? (cs.dropWhile p) = behindHash? cs := by
  have free : '#' ∉ cs.takeWhile p := by
    intro there
    rw [List.mem_takeWhile_imp there] at kept
    cases kept
  conv_rhs => rw [← List.takeWhile_append_dropWhile (p := p) (l := cs), behindHash?_append free]

theorem behindHash?_dropEnd {p : Char → Bool} (kept : p '#' = false) (cs : List Char) :
    behindHash? (dropEnd p cs) = (behindHash? cs).map (dropEnd p) := by
  rcases hash_cases cs with free | ⟨front, rest, free, rfl⟩
  · rw [behindHash?_of_not_mem free, behindHash?_of_not_mem (mt mem_of_mem_dropEnd free)]
    rfl
  · rw [dropEnd_append_cons kept, behindHash?_append free, behindHash?_append free]
    rfl

end Text

/-! ## What the readers make of it -/

namespace Url

variable {u : Url} {scheme : String} {kind : Kind} {cs : List Char}

/-- The fragment that a text ends with. -/
def fragmentAt (cs : List Char) : Option String :=
  (behindHash? cs).map fun text => String.ofList (Percent.encode Percent.fragmentSet text)

theorem fragmentAt_append {front : List Char} (free : '#' ∉ front) (cs : List Char) :
    fragmentAt (front ++ cs) = fragmentAt cs := by
  rw [fragmentAt, behindHash?_append free]
  rfl

theorem fragmentAt_cons {c : Char} (other : '#' ≠ c) (cs : List Char) :
    fragmentAt (c :: cs) = fragmentAt cs :=
  @fragmentAt_append [c] (mt List.mem_singleton.mp other) cs

theorem fragmentAt_drop {n : Nat} (free : '#' ∉ cs.take n) :
    fragmentAt (cs.drop n) = fragmentAt cs := by
  conv_rhs => rw [← List.take_append_drop n cs, fragmentAt_append free]

theorem fragmentAt_dropWhile {p : Char → Bool} (kept : p '#' = false) (cs : List Char) :
    fragmentAt (cs.dropWhile p) = fragmentAt cs := by
  rw [fragmentAt, behindHash?_dropWhile kept]
  rfl

theorem not_mem_takeWhile {p : Char → Bool} (kept : p '#' = false) (cs : List Char) :
    '#' ∉ cs.takeWhile p := by
  intro there
  rw [List.mem_takeWhile_imp there] at kept
  cases kept

/-- A text is taken up to characters of a class to which the hash belongs. -/
theorem fragmentAt_drop_takeWhile {p : Char → Bool} (kept : p '#' = false) (cs : List Char) :
    fragmentAt (cs.drop (cs.takeWhile p).length) = fragmentAt cs := by
  refine fragmentAt_drop ?_
  rw [← List.prefix_iff_eq_take.mp (List.takeWhile_prefix p)]
  exact not_mem_takeWhile kept cs

theorem queryAndFragment_fragment (kind : Kind) (cs : List Char) :
    (queryAndFragment kind cs).2 = fragmentAt cs := by
  unfold queryAndFragment fragmentAt behindHash?
  cases cut '#' cs with
  | none =>
      dsimp only
      split <;> rfl
  | some parts =>
      dsimp only
      split <;> rfl

theorem withPath_fragment (scheme : String) (authority : Option Authority)
    (result : List Char × List Char) :
    (withPath scheme authority result).fragment = fragmentAt result.2 :=
  queryAndFragment_fragment (Kind.of scheme) result.2

theorem pathFrom_rest (kind : Kind) (path cs : List Char) :
    fragmentAt (pathFrom kind path cs).2 = fragmentAt cs :=
  fragmentAt_drop_takeWhile rfl cs

theorem pathAfterAuthority_rest (kind : Kind) (cs : List Char) :
    fragmentAt (pathAfterAuthority kind cs).2 = fragmentAt cs := by
  unfold pathAfterAuthority
  split
  · split
    · rw [pathFrom_rest, fragmentAt_cons (by decide)]
    · rw [pathFrom_rest, fragmentAt_cons (by decide)]
    · exact pathFrom_rest kind ['/'] cs
  · split
    · rfl
    · rfl
    · rfl
    · rw [pathFrom_rest, fragmentAt_cons (by decide)]
    · exact pathFrom_rest kind ['/'] cs

theorem endsAuthority_hash (kind : Kind) : endsAuthority kind '#' = true := by
  simp [endsAuthority]

theorem readLogin_rest {username : String} {password : Option String} {rest : List Char}
    (h : readLogin kind cs = .ok (username, password, rest)) : fragmentAt rest = fragmentAt cs := by
  -- the login and the sign behind it stand before the first hash
  have inside {login behind : List Char}
      (found : cutLast '@' (cs.takeWhile fun c => !endsAuthority kind c) = some (login, behind)) :
      fragmentAt (cs.drop (login.length + 1)) = fragmentAt cs := by
    refine fragmentAt_drop fun there => ?_
    have long : login.length + 1 ≤ (cs.takeWhile fun c => !endsAuthority kind c).length := by
      simp [cutLast_eq found]
    rw [← List.takeWhile_append_dropWhile (p := fun c => !endsAuthority kind c) (l := cs),
      List.take_append_of_le_length long] at there
    exact not_mem_takeWhile (by rw [endsAuthority_hash]; rfl) cs (List.mem_of_mem_take there)
  simp only [readLogin] at h
  split at h
  · cases h
    rfl
  · rename_i found
    split at h
    · cases h
    · cases h
      exact inside found
  · rename_i found
    split at h
    · cases h
      exact inside found
    · cases h
      exact inside found
    · cases h
      exact inside found

theorem cutHost_rest (kind : Kind) (inBrackets : Bool) (cs : List Char) :
    fragmentAt (cutHost kind inBrackets cs).2 = fragmentAt cs := by
  induction cs generalizing inBrackets with
  | nil => rfl
  | cons c cs ih =>
      unfold cutHost
      split
      · rfl
      · rename_i inside
        have other : '#' ≠ c := by
          rintro rfl
          simp [endsAuthority_hash] at inside
        dsimp only
        rw [ih]
        exact (fragmentAt_cons other cs).symm

theorem readPort_rest {n m : Nat} {behind : List Char} (h : readPort n cs = .ok (m, behind)) :
    fragmentAt behind = fragmentAt cs := by
  induction cs generalizing n with
  | nil =>
      cases h
      rfl
  | cons c cs ih =>
      unfold readPort at h
      split at h
      · rename_i d digit
        have other : '#' ≠ c := by
          rintro rfl
          cases digit
        split at h
        · cases h
        · rw [ih h]
          exact (fragmentAt_cons other cs).symm
      · split at h
        · cases h
          rfl
        · cases h

theorem portAfterHost_rest {port : Option Nat} {behind : List Char}
    (h : portAfterHost scheme cs = .ok (port, behind)) : fragmentAt behind = fragmentAt cs := by
  unfold portAfterHost at h
  split at h
  · rename_i rest
    obtain ⟨⟨n, behind'⟩, read, h⟩ := ok_of_bind h
    have same : behind = behind' := by
      dsimp only at h
      split at h <;> cases h <;> rfl
    rw [same, readPort_rest read]
    exact (fragmentAt_cons (by decide) rest).symm
  · cases h
    rfl

theorem behindHost_fragment {username : String} {password : Option String}
    {hostText rest : List Char} {host : Host} (h : (do
      if hostText = [] && rest.head? = some ':' then throw ParseError.emptyHost
      let (port, rest) ← portAfterHost scheme rest
      if hostText = [] && (username ≠ "" || password.isSome) then throw ParseError.emptyHost
      let host? := if hostText = [] then none else some host
      return withPath scheme (some ⟨username, password, host?, port⟩)
        (pathAfterAuthority (Kind.of scheme) rest) : Except ParseError Url) = .ok u) :
    u.fragment = fragmentAt rest := by
  dsimp only at h
  split at h
  · cases h
  · obtain ⟨⟨port, behind⟩, read, h⟩ := ok_of_bind h
    dsimp only at h
    split at h
    · cases h
    · cases h
      rw [withPath_fragment, pathAfterAuthority_rest, portAfterHost_rest read]

theorem afterSlashes_fragment (h : afterSlashes scheme cs = .ok u) :
    u.fragment = fragmentAt cs := by
  simp only [afterSlashes] at h
  obtain ⟨⟨username, password, behind⟩, login, h⟩ := ok_of_bind h
  dsimp only at h
  split at h
  · cases h
  · rw [← readLogin_rest login, ← cutHost_rest (Kind.of scheme) false behind]
    split at h
    · obtain ⟨host, -, h⟩ := ok_of_bind h
      exact behindHost_fragment h
    · obtain ⟨host, -, h⟩ := ok_of_bind h
      exact behindHost_fragment h

theorem behind_rest {word rest : List Char} (free : '#' ∉ word) (h : behind word cs = some rest) :
    fragmentAt rest = fragmentAt cs := by
  rw [behind_eq h, fragmentAt_append free]

theorem relativeTo_fragment {b : Url} (h : relativeTo b cs = .ok u) :
    u.fragment = fragmentAt cs := by
  simp only [relativeTo] at h
  split at h
  · cases h
    rfl
  · cases h
    exact withPath_fragment _ _ _
  · cases h
    rfl
  · rename_i c rest _ unhashed
    have other : '#' ≠ c := by
      rintro rfl
      exact unhashed rfl
    split at h
    · split at h
      · split at h
        · rename_i straight
          rw [afterSlashes_fragment h, behind_rest (by decide) straight]
        · rw [afterSlashes_fragment h, fragmentAt_dropWhile rfl]
      · cases h
        rw [withPath_fragment, pathFrom_rest, fragmentAt_cons other]
    · cases h
      rw [withPath_fragment, pathFrom_rest]

theorem afterScheme_fragment {gaps : List Nat} {base : Option Url}
    (h : afterScheme gaps base scheme cs = .ok u) (web : Kind.of u.scheme = .web) :
    u.fragment = fragmentAt cs := by
  simp only [afterScheme] at h
  split at h
  · have file : u.scheme = "file" := by
      refine file_scheme (fun b' same => ?_) h
      simpa using (Option.filter_eq_some_iff.mp same).2
    rw [file] at web
    cases web
  · have slashes (h : afterSlashes scheme (cs.dropWhile fun c => c = '/' || c = '\\') = .ok u) :
        u.fragment = fragmentAt cs := by
      rw [afterSlashes_fragment h, fragmentAt_dropWhile rfl]
    split at h
    · split at h
      · exact relativeTo_fragment h
      · exact slashes h
    · exact slashes h
  · rename_i other
    have foreign (same : u.scheme = scheme) : False := by
      rw [same, other] at web
      cases web
    split at h
    · exact (foreign (afterSlashes_ok h).1).elim
    · cases h
      exact (foreign rfl).elim
    · cases h
      exact (foreign rfl).elim

theorem readScheme_rest {rest : List Char} (h : readScheme cs = some (scheme, rest)) :
    fragmentAt rest = fragmentAt cs := by
  unfold readScheme at h
  split at h
  · rename_i c name rest' found
    split at h
    · rename_i letters
      cases h
      obtain ⟨first, others⟩ := Bool.and_eq_true_iff.mp letters
      have free : '#' ∉ c :: name := by
        intro there
        rcases List.mem_cons.mp there with same | there
        · rw [← same] at first
          cases first
        · have letter := List.all_eq_true.mp others '#' there
          revert letter
          decide
      rw [cut_eq found, fragmentAt_append free, fragmentAt_cons (by decide)]
    · cases h
  · cases h

/-- The fragment of a url of the web is the one that its text ends with, or there is none. -/
theorem read_fragment {base : Option Url} {s : String} (h : read base s = .ok u)
    (web : Kind.of u.scheme = .web) : u.fragment = fragmentAt (clean s).1 := by
  simp only [read] at h
  split at h
  · rename_i scheme rest named
    rw [afterScheme_fragment h web, readScheme_rest named]
  · split at h
    · cases h
    · split at h
      · rename_i hash
        cases h
        cases text : (clean s).1 with
        | nil =>
            rw [text] at hash
            cases hash
        | cons c rest =>
            rw [text] at hash
            cases hash
            rfl
      · split at h
        · cases h
        · split at h
          · rename_i b _ _ files
            have file : u.scheme = "file" :=
              file_scheme (fun b' same => by cases same; exact files) h
            rw [file] at web
            cases web
          · exact relativeTo_fragment h

/-! ## Cleaning -/

/-- The tabs and line ends that are taken out of a text. -/
def isGap (c : Char) : Bool := c = '\t' || c = '\n' || c = '\r'

theorem close_text (cs : List Char) : (close cs).1 = cs.filter (!isGap ·) := by
  induction cs with
  | nil => rfl
  | cons c cs ih =>
      have step : (close (c :: cs)).1 =
          if c = '\t' || c = '\n' || c = '\r' then (close cs).1 else c :: (close cs).1 := by
        show (if c = '\t' || c = '\n' || c = '\r' then
          ((close cs).1, (close cs).2.1, (close cs).2.1 :: (close cs).2.2)
          else (c :: (close cs).1, (close cs).2.1 + 1, (close cs).2.2)).1 = _
        split <;> rfl
      rw [step, ih]
      by_cases gap : isGap c = true
      · rw [List.filter_cons_of_neg (by simp [gap])]
        exact if_pos gap
      · rw [List.filter_cons_of_pos (by simp [gap])]
        exact if_neg gap

/-- What is left of a text behind its first hash when it is cleaned. -/
def tidy (text : List Char) : List Char :=
  (dropEnd (fun c => c.toNat ≤ 0x20) text).filter (!isGap ·)

theorem not_isGap_of_far {c : Char} (far : 0x20 < c.toNat) : isGap c = false := by
  simp only [isGap, Bool.or_eq_false_iff, decide_eq_false_iff_not]
  refine ⟨⟨?_, ?_⟩, ?_⟩ <;> rintro rfl <;> exact absurd far (by decide)

theorem clean_front {front : List Char} (nonempty : front ≠ []) (h : ∀ c ∈ front, 0x20 < c.toNat)
    (rest : List Char) : (clean (String.ofList (front ++ rest))).1 = front ++ tidy rest := by
  have gapless : front.filter (!isGap ·) = front :=
    List.filter_eq_self.mpr fun c there => by rw [not_isGap_of_far (h c there)]; rfl
  show (close (strip (fun c => c.toNat ≤ 0x20) (String.ofList (front ++ rest)).toList)).1 = _
  rw [close_text, String.toList_ofList, strip_front nonempty, List.filter_append, gapless]
  · rfl
  · exact fun c there => decide_eq_false (Nat.not_le.mpr (h c there))

theorem behindHash?_clean (s : String) :
    behindHash? (clean s).1 = (behindHash? s.toList).map tidy := by
  show behindHash? (close (strip (fun c => c.toNat ≤ 0x20) s.toList)).1 = _
  rw [close_text, behindHash?_filter rfl, strip, behindHash?_dropEnd rfl, behindHash?_dropWhile rfl,
    Option.map_map]
  rfl

theorem fragmentAt_clean {s t : String} (same : behindHash? s.toList = behindHash? t.toList) :
    fragmentAt (clean s).1 = fragmentAt (clean t).1 := by
  unfold fragmentAt
  rw [behindHash?_clean, behindHash?_clean, same]

end Url

/-! ## Locations -/

namespace Redirect

/-- The fragment that a location names, which may be an empty one. -/
def fragmentNamed? (location : String) : Option String :=
  Url.fragmentAt (Url.clean (String.ofList (trim location.toList))).1

theorem split?_eq {location : List Char} {a : Absolute} (h : Absolute.split? location = some a) :
    location = a.scheme ++ ("://".toList ++ (a.authority ++ a.rest)) ∧ '#' ∉ a.scheme ∧
      '#' ∉ a.authority := by
  unfold Absolute.split? at h
  split at h
  · cases h
  · rename_i scheme behind found
    split at h
    · rename_i letters
      cases h
      refine ⟨?_, ?_, Url.not_mem_takeWhile rfl behind⟩
      · rw [List.takeWhile_append_dropWhile]
        exact cutWord_eq found
      · intro there
        cases scheme with
        | nil => cases there
        | cons c cs =>
            obtain ⟨first, others⟩ := Bool.and_eq_true_iff.mp letters
            rcases List.mem_cons.mp there with same | there
            · rw [← same] at first
              cases first
            · have letter := List.all_eq_true.mp others '#' there
              revert letter
              decide
    · cases h

theorem behindHash?_complete {base : Url} {location text : List Char}
    (hashless : '#' ∉ base.hostAndPort.toList) (h : complete base location = .ok text) :
    behindHash? text = behindHash? location := by
  unfold complete at h
  split at h
  · cases h
    rfl
  · rename_i a found
    split at h
    · cases h
      split
      · obtain ⟨parts, scheme, authority⟩ := split?_eq found
        have slashes : '#' ∉ "://".toList := by decide
        rw [parts, Absolute.withAuthority, List.append_assoc, List.append_assoc,
          behindHash?_append scheme, behindHash?_append scheme, behindHash?_append slashes,
          behindHash?_append slashes, behindHash?_append hashless, behindHash?_append authority]
      · rfl
    · cases h

/-- The fragment of a url of the web that a location leads to is the one that the location names. -/
theorem resolve_fragment {base url : Url} {location : String}
    (hashless : '#' ∉ base.hostAndPort.toList) (h : resolve base location = .ok url)
    (web : Url.Kind.of url.scheme = .web) : url.fragment = fragmentNamed? location := by
  obtain ⟨text, completed, read⟩ := resolve_ok h
  rw [Url.read_fragment read web, fragmentNamed?]
  refine Url.fragmentAt_clean ?_
  rw [String.toList_ofList, String.toList_ofList, behindHash?_complete hashless completed]

end Redirect

end HttpClient
