/-
# The texts of addresses

An IPv6 address is written with hexadecimal digits, colons and dots, and there is a colon in it:
without one there would be too few pieces.
-/
import HttpClient.Proofs.Text.Characters
import HttpClient.Proofs.Text.Numbers
import HttpClient.Url.Address
import Mathlib.Data.List.TakeWhile

namespace HttpClient

open Text

namespace Text

theorem exists_of_mapM {α β : Type} {f : α → Option β} {xs : List α} {ys : List β}
    (h : xs.mapM f = some ys) {x : α} (there : x ∈ xs) : ∃ y, f x = some y := by
  induction xs generalizing ys with
  | nil => cases there
  | cons first rest ih =>
      rw [List.mapM_cons] at h
      obtain ⟨y, read, h⟩ := Option.bind_eq_some_iff.mp h
      obtain ⟨others, found, -⟩ := Option.bind_eq_some_iff.mp h
      rcases List.mem_cons.mp there with rfl | later
      · exact ⟨y, read⟩
      · exact ih found later

end Text

namespace Url

/-! ## IPv6 -/

def inAddress (c : Char) : Bool := c = ':' || c = '.' || (Hex.value? c).isSome

theorem inAddress_of_isDigit {c : Char} (h : c.isDigit = true) : inAddress c = true := by
  simp [inAddress, Hex.value?, h]

theorem inAddress_of_ipv4Byte? {n : Nat} {cs : List Char} (h : ipv4Byte? cs = some n) :
    ∀ c ∈ cs, inAddress c = true := by
  unfold ipv4Byte? at h
  split at h
  · cases h
  · obtain ⟨value, -⟩ := Option.filter_eq_some_iff.mp h
    exact fun c there => inAddress_of_isDigit (isDigit_of_digits? value c there)

namespace Ipv6Draft

variable {d : Ipv6Draft} {ps : List Nat} {fuel : Nat} {cs : List Char}

theorem closeIpv4_chars (h : d.closeIpv4 cs = some ps) : ∀ c ∈ cs, inAddress c = true := by
  intro c there
  unfold closeIpv4 at h
  split at h
  · cases h
  · split at h
    · rename_i read
      by_cases dot : c = '.'
      · rw [dot]
        rfl
      · obtain ⟨part, among, inside⟩ :=
          exists_piece_of_mem (p := (· == '.')) there (by simpa using dot)
        obtain ⟨n, byte⟩ := exists_of_mapM read among
        exact inAddress_of_ipv4Byte? byte c inside
    · cases h

theorem read_chars (h : d.read fuel cs = some ps) : ∀ c ∈ cs, inAddress c = true := by
  induction fuel generalizing d cs with
  | zero =>
      cases cs with
      | nil => exact fun _ h => absurd h List.not_mem_nil
      | cons c cs => cases h
  | succ fuel ih =>
      cases cs with
      | nil => exact fun _ h => absurd h List.not_mem_nil
      | cons c cs =>
          simp only [read] at h
          split at h
          · cases h
          · split at h
            · rename_i colon
              split at h
              · cases h
              · refine List.forall_mem_cons.mpr ⟨?_, ih h⟩
                rw [colon]
                rfl
            · -- the digits in front are hexadecimal, and the rest is read on
              have hex : ∀ x ∈ ((c :: cs).take 4).takeWhile fun c => (Hex.value? c).isSome,
                  inAddress x = true := by
                intro x there
                simp [inAddress, List.mem_takeWhile_imp there]
              have front : ((c :: cs).take 4).takeWhile (fun c => (Hex.value? c).isSome) <+: c :: cs :=
                (List.takeWhile_prefix _).trans (List.take_prefix 4 _)
              have parts := List.prefix_iff_eq_append.mp front
              split at h
              · rename_i hnil
                rw [hnil, List.append_nil] at parts
                rw [← parts]
                exact hex
              · split at h
                · cases h
                · exact closeIpv4_chars h
              · cases h
              · rename_i rest _ behind
                rw [behind] at parts
                rw [← parts]
                exact List.forall_mem_append.mpr
                  ⟨hex, List.forall_mem_cons.mpr ⟨rfl, ih h⟩⟩
              · cases h

theorem read_colon (h : d.read fuel cs = some ps) (gapless : d.gap = none)
    (few : d.pieces.length + 2 < 8) : ':' ∈ cs := by
  cases fuel with
  | zero =>
      cases cs with
      | nil =>
          simp only [read, close, gapless] at h
          split at h
          · omega
          · cases h
      | cons c cs => cases h
  | succ fuel =>
      cases cs with
      | nil =>
          simp only [read, close, gapless] at h
          split at h
          · omega
          · cases h
      | cons c cs =>
          simp only [read] at h
          split at h
          · cases h
          · split at h
            · rename_i colon
              rw [colon]
              exact List.mem_cons_self
            · split at h
              · simp only [close, gapless, List.length_append, List.length_singleton] at h
                split at h
                · omega
                · cases h
              · split at h
                · cases h
                · simp only [closeIpv4, close, gapless] at h
                  split at h
                  · cases h
                  · split at h
                    · simp only [List.length_append, List.length_cons, List.length_nil] at h
                      split at h
                      · omega
                      · cases h
                    · cases h
              · cases h
              · rename_i behind
                exact List.mem_of_mem_drop (behind ▸ List.mem_cons_self)
              · cases h

end Ipv6Draft

theorem ipv6?_chars {cs : List Char} {ps : List Nat} (h : ipv6? cs = some ps) :
    ':' ∈ cs ∧ ∀ c ∈ cs, inAddress c = true := by
  unfold ipv6? at h
  split at h
  · rename_i rest found
    have colons : cs = ':' :: ':' :: rest := behind_eq found
    rw [colons]
    exact ⟨List.mem_cons_self, List.forall_mem_cons.mpr
      ⟨rfl, List.forall_mem_cons.mpr ⟨rfl, Ipv6Draft.read_chars h⟩⟩⟩
  · split at h
    · cases h
    · exact ⟨Ipv6Draft.read_colon h rfl (by decide), Ipv6Draft.read_chars h⟩

end Url

end HttpClient
