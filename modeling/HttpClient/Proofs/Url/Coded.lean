/-
# How paths and queries are written

Whatever a text holds, the path and the query of a url of the web that is read from it are legible
(`Coded`): the reader puts everything else into percent coding, a control by the set of the part and
a character outside ASCII always.  Only what the base has is taken over as it is, so a url that is
read against another is coded if that one is.  A url that came about by reading alone is, and so is
one whose path and query are those of such a url (`Written`).

Nothing is said here about urls that calls cannot be made to.
-/
import HttpClient.Proofs.Message.Legible
import HttpClient.Proofs.Url.Host

namespace HttpClient

open Text

/-! ## Percent coding -/

theorem Hex.upperDigit_legible : ∀ n < 16, isLegible (upperDigit n) = true := by decide

namespace Percent

theorem encodeByte_legible (b : UInt8) : ∀ c ∈ encodeByte b, isLegible c = true := by
  have small := UInt8.toNat_lt b
  simp only [encodeByte, List.forall_mem_cons]
  exact ⟨by decide, Hex.upperDigit_legible _ (by omega), Hex.upperDigit_legible _ (by omega),
    fun _ h => absurd h List.not_mem_nil⟩

theorem encode_legible {set : Set} (covers : ∀ c, controls c = true → set c = true)
    (cs : List Char) : ∀ c ∈ encode set cs, isLegible c = true := by
  intro c there
  obtain ⟨d, -, there⟩ := List.mem_flatMap.mp there
  unfold encodeChar at there
  split at there
  · rename_i plain
    obtain ⟨ascii, plain⟩ := Bool.and_eq_true_iff.mp plain
    have ascii := of_decide_eq_true ascii
    have visible : controls d = false := by
      cases control : controls d with
      | false => rfl
      | true => simp [covers d control] at plain
    cases List.mem_singleton.mp there
    simp only [controls, Bool.or_eq_false_iff, decide_eq_false_iff_not] at visible
    simp only [isLegible, Bool.or_eq_true, Bool.and_eq_true, decide_eq_true_eq]
    omega
  · obtain ⟨b, -, there⟩ := List.mem_flatMap.mp there
    exact encodeByte_legible b c there

theorem pathSet_covers (c : Char) (h : controls c = true) : pathSet c = true := by
  simp [pathSet, fragmentSet, h]

theorem querySet_covers (c : Char) (h : controls c = true) : querySet c = true := by
  simp [querySet, h]

theorem specialQuerySet_covers (c : Char) (h : controls c = true) : specialQuerySet c = true := by
  simp [specialQuerySet, querySet, h]

end Percent

namespace Url

variable {u : Url} {scheme : String} {kind : Kind} {path cs : List Char}

/-! ## Paths and queries -/

/-- The path and the query are legible. -/
structure Coded (u : Url) : Prop where
  path : Legible u.path
  query : ∀ q, u.query = some q → Legible q

theorem Coded.pathAndQuery (h : u.Coded) : Legible u.pathAndQuery := by
  unfold Url.pathAndQuery
  split
  · rename_i q found
    exact (h.path.append (by decide)).append (h.query q found)
  · exact h.path

theorem slash_legible : ∀ c ∈ ['/'], isLegible c = true :=
  List.forall_mem_singleton.mpr (by decide)

theorem parent_legible (kind : Kind) (h : ∀ c ∈ path, isLegible c = true) :
    ∀ c ∈ parent kind path, isLegible c = true := by
  unfold parent
  split
  · rename_i front segment found
    split
    · exact h
    · rw [cutLast_eq found] at h
      exact List.forall_mem_append.mpr ⟨(List.forall_mem_append.mp h).1, slash_legible⟩
  · exact fun _ h => absurd h List.not_mem_nil

theorem addSegment_legible {segment : List Char} (kind : Kind) (slash : Bool)
    (h : ∀ c ∈ path, isLegible c = true) (h' : ∀ c ∈ segment, isLegible c = true) :
    ∀ c ∈ addSegment kind path segment slash, isLegible c = true := by
  have ended {cs : List Char} (h : ∀ c ∈ cs, isLegible c = true) :
      ∀ c ∈ cs ++ ['/'], isLegible c = true := List.forall_mem_append.mpr ⟨h, slash_legible⟩
  have up : ∀ c ∈ parent kind (if mayDropSlash path then path.dropLast else path),
      isLegible c = true := by
    refine parent_legible kind ?_
    split
    · exact fun c there => h c (path.dropLast_subset there)
    · exact h
  unfold addSegment
  by_cases above : isDoubleDot segment = true
  · rw [if_pos above]
    by_cases unended : (slash && !endsWithSlash
        (parent kind (if mayDropSlash path then path.dropLast else path))) = true
    · exact (if_pos unended).symm ▸ ended up
    · exact (if_neg unended).symm ▸ up
  · rw [if_neg above]
    split
    · split
      · exact h
      · exact ended h
    · have longer := List.forall_mem_append.mpr ⟨h, h'⟩
      split
      · exact ended longer
      · rw [List.append_nil]
        exact longer

theorem addSegments_legible (kind : Kind) (segments : List (List Char))
    (h : ∀ c ∈ path, isLegible c = true) :
    ∀ c ∈ addSegments kind path segments, isLegible c = true := by
  have coded (segment : List Char) := Percent.encode_legible Percent.pathSet_covers segment
  induction segments generalizing path with
  | nil => exact h
  | cons segment rest ih =>
      cases rest with
      | nil => exact addSegment_legible kind false h (coded segment)
      | cons next rest => exact ih (addSegment_legible kind true h (coded segment))

theorem pathFrom_legible (kind : Kind) (cs : List Char) (h : ∀ c ∈ path, isLegible c = true) :
    ∀ c ∈ (pathFrom kind path cs).1, isLegible c = true := addSegments_legible kind _ h

theorem pathAfterAuthority_legible (kind : Kind) (cs : List Char) :
    ∀ c ∈ (pathAfterAuthority kind cs).1, isLegible c = true := by
  have rooted (cs : List Char) := pathFrom_legible kind cs slash_legible
  have hnil : ∀ c ∈ ([] : List Char), isLegible c = true :=
    fun _ h => absurd h List.not_mem_nil
  unfold pathAfterAuthority
  split
  · split
    · exact rooted _
    · exact rooted _
    · exact rooted _
  · split
    · exact hnil
    · exact hnil
    · exact hnil
    · exact rooted _
    · exact rooted _

theorem queryAndFragment_legible {q : String} (h : (queryAndFragment kind cs).1 = some q) :
    Legible q := by
  have coded (cs : List Char) : Legible (String.ofList (Percent.encode
      (if kind.isSpecial then Percent.specialQuerySet else Percent.querySet) cs)) := by
    unfold Legible
    rw [String.toList_ofList]
    refine Percent.encode_legible ?_ cs
    split
    · exact Percent.specialQuerySet_covers
    · exact Percent.querySet_covers
  simp only [queryAndFragment] at h
  split at h
  · cases h
    exact coded _
  · cases h

theorem withPath_coded {result : List Char × List Char} (scheme : String)
    (authority : Option Authority) (h : ∀ c ∈ result.1, isLegible c = true) :
    (withPath scheme authority result).Coded where
  path := by
    show Legible (String.ofList result.1)
    unfold Legible
    rw [String.toList_ofList]
    exact h
  query _ found := queryAndFragment_legible found

/-! ## Reading -/

theorem behindHost_coded {username : String} {password : Option String} {hostText rest : List Char}
    {host : Host} (h : (do
      if hostText = [] && rest.head? = some ':' then throw ParseError.emptyHost
      let (port, rest) ← portAfterHost scheme rest
      if hostText = [] && (username ≠ "" || password.isSome) then throw ParseError.emptyHost
      let host? := if hostText = [] then none else some host
      return withPath scheme (some ⟨username, password, host?, port⟩)
        (pathAfterAuthority (Kind.of scheme) rest) : Except ParseError Url) = .ok u) : u.Coded := by
  dsimp only at h
  split at h
  · cases h
  · obtain ⟨⟨port, behind⟩, -, h⟩ := ok_of_bind h
    dsimp only at h
    split at h
    · cases h
    · cases h
      exact withPath_coded scheme _ (pathAfterAuthority_legible _ _)

theorem afterSlashes_coded (h : afterSlashes scheme cs = .ok u) : u.Coded := by
  simp only [afterSlashes] at h
  obtain ⟨⟨username, password, behind⟩, -, h⟩ := ok_of_bind h
  dsimp only at h
  split at h
  · cases h
  · split at h
    · obtain ⟨host, -, h⟩ := ok_of_bind h
      exact behindHost_coded h
    · obtain ⟨host, -, h⟩ := ok_of_bind h
      exact behindHost_coded h

theorem relativeTo_coded {b : Url} (base : Kind.of b.scheme = .web → b.Coded)
    (h : relativeTo b cs = .ok u) (web : Kind.of u.scheme = .web) : u.Coded := by
  simp only [relativeTo] at h
  split at h
  · cases h
    obtain ⟨path, query⟩ := base web
    exact ⟨path, query⟩
  · cases h
    exact withPath_coded _ _ (base web).path
  · cases h
    obtain ⟨path, query⟩ := base web
    exact ⟨path, query⟩
  · split at h
    · split at h
      · split at h
        · exact afterSlashes_coded h
        · exact afterSlashes_coded h
      · cases h
        exact withPath_coded _ _ (pathFrom_legible _ _ slash_legible)
    · cases h
      refine withPath_coded _ _ (pathFrom_legible _ _ ?_)
      split
      · exact slash_legible
      · exact parent_legible _ (base web).path

theorem afterScheme_coded {gaps : List Nat} {base : Option Url}
    (bases : ∀ b, base = some b → Kind.of b.scheme = .web → b.Coded)
    (h : afterScheme gaps base scheme cs = .ok u) (web : Kind.of u.scheme = .web) : u.Coded := by
  simp only [afterScheme] at h
  split at h
  · have file : u.scheme = "file" := by
      refine file_scheme (fun b' same => ?_) h
      simpa using (Option.filter_eq_some_iff.mp same).2
    rw [file] at web
    cases web
  · split at h
    · rename_i b kept
      obtain ⟨same, -⟩ := Option.filter_eq_some_iff.mp kept
      split at h
      · exact relativeTo_coded (bases b same) h web
      · exact afterSlashes_coded h
    · exact afterSlashes_coded h
  · rename_i other
    have foreign (same : u.scheme = scheme) : u.Coded := by
      rw [same, other] at web
      cases web
    split at h
    · exact afterSlashes_coded h
    · cases h
      exact foreign rfl
    · cases h
      exact foreign rfl

/-- What is read against a coded url is coded, if it is a url of the web. -/
theorem read_coded {base : Option Url} {s : String}
    (bases : ∀ b, base = some b → Kind.of b.scheme = .web → b.Coded) (h : read base s = .ok u)
    (web : Kind.of u.scheme = .web) : u.Coded := by
  simp only [read] at h
  split at h
  · exact afterScheme_coded bases h web
  · split at h
    · cases h
    · rename_i b
      split at h
      · cases h
        obtain ⟨path, query⟩ := bases b rfl web
        exact ⟨path, query⟩
      · split at h
        · cases h
        · split at h
          · rename_i files
            have file : u.scheme = "file" :=
              file_scheme (fun b' same => by cases same; exact files) h
            rw [file] at web
            cases web
          · exact relativeTo_coded (bases b rfl) h web

/-- The urls that come about by reading, and those with the path and the query of one of these. -/
inductive Written : Url → Prop
  | parsed {u : Url} {s : String} : parse s = .ok u → Written u
  | resolved {b u : Url} {s : String} : Written b → resolve b s = .ok u → Written u
  | edited {u v : Url} : Written u → v.scheme = u.scheme → v.path = u.path → v.query = u.query →
      Written v

theorem Written.coded {u : Url} (h : u.Written) (web : Kind.of u.scheme = .web) : u.Coded := by
  induction h with
  | parsed read => exact read_coded (fun _ impossible => by cases impossible) read web
  | resolved _ read ih =>
      refine read_coded (fun b' same webs => ?_) read web
      cases same
      exact ih webs
  | edited _ scheme path query ih =>
      rw [scheme] at web
      obtain ⟨coded, queried⟩ := ih web
      exact ⟨path ▸ coded, query ▸ queried⟩

end Url

end HttpClient
