/-
# Lifetimes

The lifetime of a cookie is written as a whole number of seconds, and a value that has one such
attribute is told by the number (`Denotes`), whatever dates stand beside it:

* with a positive number the cookie is stored, and it is live from now on for that many seconds;
* with any other number it expires at the epoch, so it is deleted, unless the clock shows a time
  before the epoch;
* a number that does not fit in 64 bits is not read at all, and it is the dates that count.

The last two points part from what a lifetime should do, which is to delete the cookie if it is not
positive, and to keep it for as long as it says if it is.
-/
import HttpClient.Proofs.Call.Reordered
import HttpClient.Proofs.Text.Numbers

namespace HttpClient

/-! ## What a single lifetime asks for -/

namespace SetCookie

open Text

variable {attributes : List Attribute} {key text : List Char} {k : Int}

/-- The text is the value of the only lifetime among the attributes. -/
def OnlyLifetime (attributes : List Attribute) (text : List Char) : Prop :=
  ∃ key, attributes.filter (·.isNamed "max-age") = [(key, text)]

theorem maxAgeOf_of_only (only : OnlyLifetime attributes text) :
    maxAgeOf attributes = int64? text := by
  obtain ⟨key, only⟩ := only
  unfold maxAgeOf
  rw [only]
  cases read : int64? text <;> simp [read]

theorem lastBy_of_only (only : OnlyLifetime attributes text) (denotes : Denotes text k)
    (fits : Fits k) : LastBy IsLifetime attributes k := by
  rw [lastBy_isLifetime, maxAgeOf_of_only only, int64?_of_denotes denotes, if_pos fits]

theorem not_lastBy_of_only (only : OnlyLifetime attributes text) (denotes : Denotes text k)
    (long : ¬ Fits k) (seconds : Int) : ¬ LastBy IsLifetime attributes seconds := by
  rw [lastBy_isLifetime, maxAgeOf_of_only only, int64?_of_denotes denotes, if_neg long]
  exact (Option.some_ne_none seconds).symm

/-- A lifetime of nothing is taken for the epoch. -/
theorem verdict_nothing {now : Instant} {name value : String}
    (lifetime : LastBy IsLifetime attributes k) (nothing : k ≤ 0) :
    (SetCookie.mk name value (expiry attributes now)).verdict now =
      if .epoch ≤ now then none else some ⟨value, some .epoch⟩ := by
  rw [expiry_of_lifetime lifetime, if_pos nothing, SetCookie.verdict, Option.any_some]
  by_cases passed : Instant.epoch ≤ now
  · rw [if_pos (decide_eq_true passed), if_pos passed]
  · rw [if_neg (by simpa using passed), if_neg passed]

end SetCookie

/-! ## What becomes of the cookie -/

theorem Cookie.isLive_later? {value : String} {now t : Instant} {seconds : Nat}
    (before : t.nanos < now.nanos + seconds * Instant.perSecond) :
    (Cookie.mk value (now.later? seconds)).isLive t = true := by
  unfold isLive Instant.later?
  by_cases shown : Instant.inRange ⟨now.nanos + seconds * Instant.perSecond⟩ = true
  · simp only [if_pos shown]
    exact decide_eq_true before
  · simp only [if_neg shown]

namespace Jar

open SetCookie Text

/-- The last value for a name settles what is under it. -/
theorem find?_extract_last {jar : Jar} {now : Instant} {headers : Headers} {name value : String}
    {before after : List HeaderValue} {v : HeaderValue} {attributes : List Attribute}
    (values : headers.values .setCookie = before ++ v :: after)
    (last : ∀ w ∈ after, ∀ value attributes, ¬ Spells w name value attributes)
    (spells : Spells v name value attributes) :
    (jar.extract headers now).find? name =
      (SetCookie.mk name value (expiry attributes now)).verdict now := by
  have here : verdicts name now [v] =
      [(SetCookie.mk name value (expiry attributes now)).verdict now] := by
    have read : ofValue? v now = some ⟨name, value, expiry attributes now⟩ :=
      ofValue?_eq_some.mpr ⟨attributes, spells, rfl⟩
    simp [verdicts, read]
  have behind : verdicts name now after = [] := by
    unfold verdicts
    rw [List.map_eq_nil_iff, List.filter_eq_nil_iff]
    intro c among same
    obtain ⟨w, there, read⟩ := List.mem_filterMap.mp among
    obtain ⟨attributes', spells', -⟩ := ofValue?_eq_some.mp read
    rw [of_decide_eq_true same] at spells'
    exact last w there _ _ spells'
  rw [find?_extract, values, List.append_cons, verdicts_append, verdicts_append, here, behind,
    List.append_nil, List.getLast?_concat]
  rfl

/-- What becomes of a cookie whose last value in a response has one lifetime, which is a whole
number.

If the number fits in 64 bits and is positive, then the new value is stored, and it is live from now
on for that many seconds; the clock may be anywhere.  If it fits and is not positive, then there is
no cookie any more, unless the clock shows a time before the epoch: then there is one that expires
at the epoch.  If it does not fit, then only the dates count. -/
theorem cookie_by_lifetime {jar : Jar} {now : Instant} {headers : Headers} {name value : String}
    {before after : List HeaderValue} {v : HeaderValue} {attributes : List Attribute}
    {text : List Char} {k : Int}
    (values : headers.values .setCookie = before ++ v :: after)
    (last : ∀ w ∈ after, ∀ value attributes, ¬ Spells w name value attributes)
    (spells : Spells v name value attributes) (only : OnlyLifetime attributes text)
    (denotes : Denotes text k) :
    (0 < k → Fits k → ∃ c, (jar.extract headers now).find? name = some c ∧ c.value = value ∧
      c.expires = now.later? k.toNat ∧
      ∀ t : Instant, now ≤ t → t.nanos < now.nanos + k * Instant.perSecond → c.isLive t = true) ∧
    (k ≤ 0 → Fits k → (jar.extract headers now).find? name =
      if .epoch ≤ now then none else some ⟨value, some .epoch⟩) ∧
    (¬ Fits k →
      (∀ t, LastBy IsDate attributes t → (jar.extract headers now).find? name =
        if t ≤ now then none else some ⟨value, some t⟩) ∧
      ((∀ t, ¬ LastBy IsDate attributes t) →
        (jar.extract headers now).find? name = some ⟨value, none⟩)) := by
  rw [find?_extract_last values last spells]
  refine ⟨fun positive fits => ?_, fun nothing fits => ?_, fun long => ⟨fun t date => ?_, ?_⟩⟩
  · have lifetime := lastBy_of_only only denotes fits
    refine ⟨_, verdict_lasts lifetime positive, rfl, rfl, fun t _ soon => ?_⟩
    have whole : (k.toNat : Int) = k := Int.toNat_of_nonneg (Int.le_of_lt positive)
    exact Cookie.isLive_later? (by rw [whole]; exact soon)
  · exact verdict_nothing (lastBy_of_only only denotes fits) nothing
  · have unlimited := not_lastBy_of_only only denotes long
    by_cases passed : t ≤ now
    · rw [if_pos passed]
      exact verdict_passed unlimited date passed
    · rw [if_neg passed]
      exact verdict_comes unlimited date (Int.not_le.mp passed)
  · exact verdict_stays (not_lastBy_of_only only denotes long)

/-! ## Heeded and unheeded -/

section Sampled

def behindName (s : String) : List Attribute := (pieces ';' s.toList).tail.map readAttribute

def spelled (s : String) : HeaderValue := ((HeaderValue.ofText s).toOption).getD ⟨[], rfl⟩

/-- What can be computed of such a value. -/
def SpellsN (s : String) (text : List Char) : Prop :=
  (spelled s).text? = some s ∧ (pieces ';' s.toList).head? = some "n=v".toList ∧
    (behindName s).filter (·.isNamed "max-age") = [("Max-Age".toList, text)]

instance (s : String) (text : List Char) : Decidable (SpellsN s text) :=
  inferInstanceAs (Decidable (_ ∧ _))

theorem SpellsN.spells {s : String} {text : List Char} (h : SpellsN s text) :
    Spells (spelled s) "n" "v" (behindName s) ∧ OnlyLifetime (behindName s) text := by
  obtain ⟨read, begins, only⟩ := h
  obtain ⟨rest, split⟩ := List.head?_eq_some_iff.mp begins
  have spells : Spells (spelled s) (String.ofList (trim ['n']))
      (String.ofList (strip (· = '"') (trim ['v']))) (rest.map readAttribute) :=
    .intro read split (by decide) (by decide)
  have behind : behindName s = rest.map readAttribute := by
    rw [behindName, split, List.tail_cons]
  rw [← behind] at spells
  exact ⟨spells, _, only⟩

def only (s : String) : Headers := ⟨[(.setCookie, spelled s)]⟩

theorem values_only (s : String) : (only s).values .setCookie = [] ++ spelled s :: [] := rfl

/-- Beside a date that has passed, a lifetime, and one beyond all clocks. -/
def brief : String := "n=v; Max-Age=007; Expires=Thu, 01 Jan 1970 00:00:00 GMT"

def beyond : String := "n=v; Max-Age=9223372036854775808; Expires=Thu, 01 Jan 1970 00:00:00 GMT"

/-- A lifetime of nothing, and one of less. -/
def nothing : String := "n=v; Max-Age=0"

def less : String := "n=v; Max-Age=-9223372036854775809"

/-- The cookie is live up to the seventh second. -/
theorem cookie_by_lifetime_of_brief :
    Denotes "007".toList 7 ∧
    ∃ c, (empty.extract (only brief) (.ofSeconds 20 0)).find? "n" = some c ∧ c.value = "v" ∧
      c.isLive (.ofSeconds 26 999999999) = true ∧ c.isLive (.ofSeconds 27 0) = false := by
  have denotes : Denotes "007".toList 7 :=
    denotes_of_digits (by decide) (by decide) (by decide) (by decide +kernel)
  have spelled : SpellsN brief "007".toList := by decide +kernel
  obtain ⟨spells, single⟩ := spelled.spells
  obtain ⟨lasts, -, -⟩ := cookie_by_lifetime (values_only brief)
    (fun _ h => absurd h List.not_mem_nil) spells single denotes
  obtain ⟨c, found, value, expires, live⟩ := lasts (by decide) (by decide)
  refine ⟨denotes, c, found, value, live _ (by decide) (by decide), ?_⟩
  rw [Cookie.isLive, expires]
  decide

/-- What lifetimes should do is not what they do.  One that is not positive does not delete the
cookie where the clock is before the epoch, or where the number does not fit in 64 bits.  One that
is positive and does not fit deletes it. -/
theorem lifetime_not_heeded :
    ¬ (∀ (jar : Jar) (now : Instant) (s : String) (text : List Char) (k : Int), SpellsN s text →
        Denotes text k → k ≤ 0 → (jar.extract (only s) now).find? "n" = none) ∧
    ¬ (∀ (jar : Jar) (now : Instant) (s : String) (text : List Char) (k : Int), .epoch ≤ now →
        SpellsN s text → Denotes text k → k ≤ 0 → (jar.extract (only s) now).find? "n" = none) ∧
    ¬ (∀ (jar : Jar) (now : Instant) (s : String) (text : List Char) (k : Int), SpellsN s text →
        Denotes text k → 0 < k →
        ((jar.extract (only s) now).find? "n").any (·.isLive now) = true) := by
  refine ⟨fun always => ?_, fun always => ?_, fun always => ?_⟩
  · have denotes : Denotes "0".toList 0 :=
      denotes_of_digits (by decide) (by decide) (by decide) (by decide +kernel)
    have gone :=
      always empty (.ofSeconds (-5) 0) nothing _ 0 (by decide +kernel) denotes (by decide)
    revert gone
    decide +kernel
  · have size : Denotes "9223372036854775809".toList 9223372036854775809 :=
      denotes_of_digits (by decide) (by decide) (by decide) (by decide +kernel)
    have denotes : Denotes "-9223372036854775809".toList (-9223372036854775809) :=
      size.neg (by decide)
    have gone := always empty .epoch less _ _ (by decide) (by decide +kernel) denotes (by decide)
    revert gone
    decide +kernel
  · have denotes : Denotes "9223372036854775808".toList 9223372036854775808 :=
      denotes_of_digits (by decide) (by decide) (by decide) (by decide +kernel)
    have live := always empty .epoch beyond _ _ (by decide +kernel) denotes (by decide)
    revert live
    decide +kernel

end Sampled

end Jar

end HttpClient
