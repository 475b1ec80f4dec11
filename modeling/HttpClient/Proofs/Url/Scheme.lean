/-
# The scheme of a url

A text names the scheme of its url itself, in letters of either case, or leaves it to the base
(`read_scheme`).  The reader of a named scheme puts its letters into lower case and takes no
colon, so both hold of the scheme of every url that is read.
-/
import HttpClient.Proofs.Text.Letters
import HttpClient.Proofs.Url.Host

namespace HttpClient

open Text

namespace Url

variable {u : Url} {scheme : String} {cs rest : List Char}

theorem Kind.of_eq_file (h : Kind.of scheme = .file) : scheme = "file" := by
  unfold Kind.of at h
  split at h
  · assumption
  · split at h <;> cases h

theorem relativeTo_scheme {b : Url} (h : relativeTo b cs = .ok u) : u.scheme = b.scheme := by
  simp only [relativeTo] at h
  split at h
  · cases h
    rfl
  · cases h
    rfl
  · cases h
    rfl
  · split at h
    · split at h
      · split at h
        · exact (afterSlashes_ok h).1
        · exact (afterSlashes_ok h).1
      · cases h
        rfl
    · cases h
      rfl

theorem afterScheme_scheme {gaps : List Nat} {base : Option Url}
    (h : afterScheme gaps base scheme cs = .ok u) : u.scheme = scheme := by
  simp only [afterScheme] at h
  split at h
  · rename_i file
    rw [Kind.of_eq_file file]
    refine file_scheme (fun b same => ?_) h
    simpa using (Option.filter_eq_some_iff.mp same).2
  · split at h
    · rename_i b kept
      have same : b.scheme = scheme := by
        simpa using (Option.filter_eq_some_iff.mp kept).2
      split at h
      · rw [relativeTo_scheme h, same]
      · exact (afterSlashes_ok h).1
    · exact (afterSlashes_ok h).1
  · split at h
    · exact (afterSlashes_ok h).1
    · cases h
      rfl
    · cases h
      rfl

theorem read_scheme {base : Option Url} {s : String} (h : read base s = .ok u) :
    (∃ rest, readScheme (clean s).1 = some (u.scheme, rest)) ∨
      ∃ b, base = some b ∧ u.scheme = b.scheme := by
  simp only [read] at h
  split at h
  · rename_i scheme rest named
    rw [afterScheme_scheme h]
    exact .inl ⟨rest, named⟩
  · split at h
    · cases h
    · rename_i b
      refine .inr ⟨b, rfl, ?_⟩
      split at h
      · cases h
        rfl
      · split at h
        · cases h
        · split at h
          · rename_i file
            rw [file]
            exact file_scheme (fun b' same => by cases same; exact file) h
          · exact relativeTo_scheme h

/-! ## The letters of a scheme -/

theorem readScheme_eq (h : readScheme cs = some (scheme, rest)) :
    ∃ name, cs = name ++ ':' :: rest ∧ ':' ∉ name ∧ scheme = lower (String.ofList name) := by
  unfold readScheme at h
  split at h
  · rename_i c name rest' found
    split at h
    · cases h
      exact ⟨c :: name, cut_eq found, not_mem_of_cut found, rfl⟩
    · cases h
  · cases h

theorem readScheme_lower (h : readScheme cs = some (scheme, rest)) : lower scheme = scheme := by
  obtain ⟨name, -, -, rfl⟩ := readScheme_eq h
  exact lower_lower _

theorem readScheme_colon (h : readScheme cs = some (scheme, rest)) : ':' ∉ scheme.toList := by
  obtain ⟨name, -, free, rfl⟩ := readScheme_eq h
  intro colon
  rw [lower, String.toList_ofList, String.toList_ofList] at colon
  obtain ⟨x, there, same⟩ := List.mem_map.mp colon
  exact free (eq_of_toLower_eq rfl same ▸ there)

theorem parse_colon {s : String} (h : parse s = .ok u) : ':' ∉ u.scheme.toList := by
  rcases read_scheme h with ⟨rest, named⟩ | ⟨b, hnone, -⟩
  · exact readScheme_colon named
  · cases hnone

end Url

end HttpClient
