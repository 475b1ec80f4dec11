/-
# Rendered cookies are read again

A jar that only responses have put cookies into (`Served`) holds no name and no value that could be
taken for something else when they are written: a name is not empty, has no blanks around it and no
`=` in it, neither names nor values have a `;`, and all characters are legible (`Settable`).  That
is so because of how a `Set-Cookie` is parted, whatever stands in it.

So what such a jar renders can be written into a field, and it is read back: a reader who parts it
at `; ` and each part at its first `=` gets the live names and values (`readPairs_render`).  A
cookie that was set by hand may be anything, and nothing is said of it here.
-/
import HttpClient.Proofs.Cookie.Decisions
import HttpClient.Proofs.Message.Legible
import HttpClient.Proofs.Text.Trimming
import HttpClient.Message.Request

namespace HttpClient

open Text

/-! ## What a server can set -/

namespace SetCookie

/-- A name and a value that a `Set-Cookie` can spell. -/
structure Settable (name value : String) : Prop where
  /-- The name is not empty, and there is no blank at either end of it. -/
  trimmed : Trimmed name.toList
  no_equals : '=' ∉ name.toList
  whole_name : ';' ∉ name.toList
  whole_value : ';' ∉ value.toList
  legible_name : Legible name
  legible_value : Legible value

theorem Spells.settable {v : HeaderValue} {name value : String} {attributes : List Attribute}
    (h : Spells v name value attributes) : Settable name value := by
  cases h with
  | @intro s first key val segments text split found hne =>
      have parts := cut_eq found
      have first_mem : first ∈ pieces ';' s.toList := by
        rw [split]
        exact List.mem_cons_self
      have whole {c : Char} (there : c ∈ first) : c ≠ ';' := by
        rintro rfl
        cases not_of_mem_piecesBy first_mem there
      have legible {c : Char} (there : c ∈ first) : isLegible c = true :=
        HeaderValue.legible_of_text? text c (mem_of_mem_piecesBy first_mem there)
      have ofName {c : Char} (there : c ∈ trim key) : c ∈ first := by
        rw [parts]
        exact List.mem_append_left _ (mem_of_mem_trim there)
      have ofValue {c : Char} (there : c ∈ strip (· = '"') (trim val)) : c ∈ first := by
        rw [parts]
        exact List.mem_append_right _
          (List.mem_cons_of_mem _ (mem_of_mem_trim (mem_of_mem_strip there)))
      constructor <;> simp only [Legible, String.toList_ofList]
      · exact trimmed_trim hne
      · exact fun there => not_mem_of_cut found (mem_of_mem_trim there)
      · exact fun there => whole (ofName there) rfl
      · exact fun there => whole (ofValue there) rfl
      · exact fun c there => legible (ofName there)
      · exact fun c there => legible (ofValue there)

end SetCookie

namespace Jar

open SetCookie

/-! ## Jars that only responses have put cookies into -/

def Plain (jar : Jar) : Prop := ∀ e ∈ jar.entries, Settable e.1 e.2.value

/-- The operation sets a cookie by hand. -/
def Operation.isSet : Operation → Bool
  | set _ _ => true
  | remove _ | clear | extract _ _ => false

/-- The jar came about without a cookie that was set by hand. -/
def Served (jar : Jar) : Prop := ∃ ops, (∀ op ∈ ops, op.isSet = false) ∧ behind .empty ops = jar

variable {jar : Jar} {now : Instant}

theorem Served.on (h : jar.Served) {op : Operation} (unset : op.isSet = false) :
    (op.on jar).Served := by
  obtain ⟨ops, all, rfl⟩ := h
  refine ⟨ops ++ [op], List.forall_mem_append.mpr ⟨all, List.forall_mem_singleton.mpr unset⟩, ?_⟩
  rw [behind, List.foldl_append]
  rfl

theorem Plain.erase (h : jar.Plain) (name : String) : (jar.erase name).Plain :=
  fun e there => h e (List.mem_of_mem_filter there)

theorem Plain.insert (h : jar.Plain) {name : String} {c : Cookie}
    (settable : Settable name c.value) : (jar.insert name c).Plain := by
  intro e there
  rcases mem_put there with rfl | there
  · exact settable
  · exact h e there

theorem Plain.takeIn (h : jar.Plain) (v : HeaderValue) : (takeIn now jar v).Plain := by
  unfold Jar.takeIn
  split
  · rename_i c read
    obtain ⟨attributes, spells, -⟩ := ofValue?_eq_some.mp read
    unfold apply
    split
    · exact h.erase c.name
    · exact h.insert spells.settable
  · exact h

theorem Plain.extract (h : jar.Plain) (headers : Headers) : (jar.extract headers now).Plain := by
  rw [extract_eq]
  generalize headers.values .setCookie = vs
  induction vs generalizing jar with
  | nil => exact h
  | cons v vs ih => exact ih (h.takeIn v)

theorem Plain.on (h : jar.Plain) {op : Operation} (unset : op.isSet = false) :
    (op.on jar).Plain := by
  cases op with
  | set name value => cases unset
  | remove name => exact h.erase name
  | clear => exact fun e there => absurd there List.not_mem_nil
  | extract headers now => exact h.extract headers

theorem Served.plain (h : jar.Served) : jar.Plain := by
  obtain ⟨ops, unset, rfl⟩ := h
  have run : ∀ {jar : Jar}, jar.Plain → (behind jar ops).Plain := by
    induction ops with
    | nil => exact id
    | cons op ops ih =>
        obtain ⟨first, others⟩ := List.forall_mem_cons.mp unset
        exact fun plain => ih others (plain.on first)
  exact run fun e there => absurd there List.not_mem_nil

/-! ## Reading cookies -/

/-- The parts of a text between the occurrences of `; `. -/
def parts : List Char → List (List Char)
  | [] => [[]]
  | ';' :: ' ' :: rest => [] :: parts rest
  | c :: rest =>
    match parts rest with
    | [] => [[c]]
    | p :: ps => (c :: p) :: ps

/-- The name and the value of each part, which are parted at the first `=`. -/
def readPairs (s : String) : List (Option (String × String)) :=
  (parts s.toList).map fun part =>
    (cut '=' part).map fun (name, value) => (String.ofList name, String.ofList value)

theorem parts_cons {c : Char} (other : c ≠ ';') (rest : List Char) :
    parts (c :: rest) =
      match parts rest with
      | [] => [[c]]
      | p :: ps => (c :: p) :: ps := by
  rw [parts]
  exact fun _ same => absurd same other

theorem parts_of_not_mem {part : List Char} (whole : ';' ∉ part) : parts part = [part] := by
  induction part with
  | nil => rfl
  | cons c cs ih =>
      obtain ⟨other, whole⟩ := List.ne_and_not_mem_of_not_mem_cons whole
      rw [parts_cons other.symm, ih whole]

theorem parts_append {part : List Char} (whole : ';' ∉ part) (rest : List Char) :
    parts (part ++ ';' :: ' ' :: rest) = part :: parts rest := by
  induction part with
  | nil => rw [List.nil_append, parts]
  | cons c cs ih =>
      obtain ⟨other, whole⟩ := List.ne_and_not_mem_of_not_mem_cons whole
      rw [List.cons_append, parts_cons other.symm, ih whole]

theorem parts_intercalate {ps : List (List Char)} (hne : ps ≠ []) (whole : ∀ p ∈ ps, ';' ∉ p) :
    parts ("; ".toList.intercalate ps) = ps := by
  induction ps with
  | nil => exact absurd rfl hne
  | cons p ps ih =>
      obtain ⟨here, later⟩ := List.forall_mem_cons.mp whole
      cases ps with
      | nil => simpa using parts_of_not_mem here
      | cons q qs =>
          rw [List.intercalate_cons_cons, List.append_assoc]
          exact (parts_append here _).trans (congrArg _ (ih (List.cons_ne_nil q qs) later))

/-! ## What is rendered -/

theorem Plain.settable_live (h : jar.Plain) {name value : String}
    (there : (name, value) ∈ jar.live now) : Settable name value := by
  obtain ⟨c, found, rfl, -⟩ := mem_live.mp there
  exact h (name, c) ((mem_entries jar name c).mpr found)

def pairText (pair : String × String) : String := pair.1 ++ "=" ++ pair.2

theorem toList_pairText (pair : String × String) :
    (pairText pair).toList = pair.1.toList ++ '=' :: pair.2.toList := by
  simp [pairText]

theorem render_of_live (hne : jar.live now ≠ []) :
    jar.render now = some (join "; " ((jar.live now).map pairText)) := by
  rw [render_eq, if_neg hne]
  rfl

theorem render_eq_none_iff : jar.render now = none ↔ jar.live now = [] := by
  rw [render_eq]
  split
  · rename_i hnil
    simp [hnil]
  · rename_i hne
    simp [hne]

theorem Plain.legible_render (h : jar.Plain) {s : String} (rendered : jar.render now = some s) :
    Legible s := by
  have hne : jar.live now ≠ [] := by
    intro hnone
    rw [render_eq_none_iff.mpr hnone] at rendered
    cases rendered
  rw [render_of_live hne] at rendered
  cases rendered
  refine Legible.join (by decide) fun part there => ?_
  obtain ⟨⟨name, value⟩, among, rfl⟩ := List.mem_map.mp there
  have settable := h.settable_live among
  exact (settable.legible_name.append (by decide)).append settable.legible_value

/-- What is rendered is read as the names and values that it was made of. -/
theorem Plain.readPairs_render (h : jar.Plain) {s : String} (rendered : jar.render now = some s) :
    readPairs s = (jar.live now).map some := by
  have live : jar.live now ≠ [] := by
    intro hnone
    rw [render_eq_none_iff.mpr hnone] at rendered
    cases rendered
  rw [render_of_live live] at rendered
  cases rendered
  have whole : ∀ part ∈ ((jar.live now).map pairText).map String.toList, ';' ∉ part := by
    intro part there
    obtain ⟨_, joined, rfl⟩ := List.mem_map.mp there
    obtain ⟨pair, among, rfl⟩ := List.mem_map.mp joined
    have settable := h.settable_live among
    rw [toList_pairText, List.mem_append, List.mem_cons]
    rintro (inName | same | inValue)
    · exact settable.whole_name inName
    · cases same
    · exact settable.whole_value inValue
  have split : parts (join "; " ((jar.live now).map pairText)).toList =
      ((jar.live now).map pairText).map String.toList := by
    rw [Text.join, String.toList_intercalate]
    exact parts_intercalate (by simpa using live) whole
  rw [readPairs, split, List.map_map, List.map_map]
  refine List.map_congr_left fun pair among => ?_
  rw [Function.comp_apply, Function.comp_apply, toList_pairText,
    cut_of_not_mem _ (h.settable_live among).no_equals]
  simp

theorem Plain.live_of_render {jar' : Jar} {now' : Instant} (h : jar.Plain) (h' : jar'.Plain)
    (same : jar.render now = jar'.render now') : jar.live now = jar'.live now' := by
  cases rendered : jar.render now with
  | none =>
      rw [rendered] at same
      rw [render_eq_none_iff.mp rendered, render_eq_none_iff.mp same.symm]
  | some s =>
      rw [rendered] at same
      have read := h.readPairs_render rendered
      rw [h'.readPairs_render same.symm] at read
      exact (List.map_injective_iff.mpr (fun _ _ => Option.some.inj) read).symm

end Jar

theorem Request.applyJarCookie_of_plain {jar : Jar} {now : Instant} (h : jar.Plain) (r : Request) :
    ∃ q, r.applyJarCookie (jar.render now) = .ok q := by
  unfold applyJarCookie
  split
  · exact ⟨r, rfl⟩
  · split
    · rename_i s rendered
      obtain ⟨v, written⟩ := HeaderValue.ofText_of_legible (h.legible_render rendered)
      rw [written]
      exact ⟨_, rfl⟩
    · exact ⟨_, rfl⟩

end HttpClient
