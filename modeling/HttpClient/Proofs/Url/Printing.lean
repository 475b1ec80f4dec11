/-
# Addresses are read as they are printed

However an address was written, it is printed in one way, and the reader finds it in what is
printed: an IPv4 address of 32 bits (`ipv4?_text`), and an IPv6 address of eight pieces of 16 bits
(`ipv6?_text`).  All addresses that are read are of these sizes.

A run of zero pieces is left out of an IPv6 address that is printed.  The reader puts in as many
zeros as there are pieces missing, so nothing is needed of the run but that it consists of zeros;
that it is the longest one plays no part.
-/
import HttpClient.Proofs.Url.Web
import Mathlib.Data.List.Basic
import Mathlib.Data.List.Induction
import Mathlib.Tactic.IntervalCases

namespace HttpClient

open Text

namespace Url

/-! ## Digits -/

theorem value?_digitChar : ∀ d < 16, Hex.value? (Nat.digitChar d) = some d := by decide

theorem digitsIn?_append (base : Nat) (cs : List Char) (c : Char) :
    digitsIn? base (cs ++ [c]) = (digitsIn? base cs).bind fun n =>
      ((Hex.value? c).filter (· < base)).map fun d => n * base + d := by
  rw [digitsIn?, List.foldl_append]
  rfl

theorem digitsIn?_toDigits {base : Nat} (low : 1 < base) (high : base ≤ 16) (n : Nat) :
    digitsIn? base (Nat.toDigits base n) = some n := by
  induction n using Nat.strongRecOn with
  | ind n ih =>
      rw [Nat.toDigits_eq_if low]
      split
      · rename_i small
        simp [digitsIn?, value?_digitChar n (by omega), small]
      · have less : n / base < n := Nat.div_lt_self (by omega) low
        have last : n % base < base := Nat.mod_lt n (by omega)
        rw [digitsIn?_append, ih _ less, value?_digitChar _ (by omega)]
        simp [last, Nat.div_add_mod']

theorem foldl_of_digitsIn? {ds : List Char} {n : Nat} (h : digitsIn? 16 ds = some n) :
    ds.foldl (fun n c => n * 16 + (Hex.value? c).getD 0) 0 = n := by
  induction ds using List.reverseRecOn generalizing n with
  | nil => exact Option.some.inj h
  | append_singleton ds c ih =>
      rw [digitsIn?_append] at h
      obtain ⟨m, front, h⟩ := Option.bind_eq_some_iff.mp h
      obtain ⟨d, value, rfl⟩ := Option.map_eq_some_iff.mp h
      obtain ⟨value, -⟩ := Option.filter_eq_some_iff.mp value
      simp [List.foldl_append, ih front, value]

theorem foldl_lt {α : Type} {base : Nat} {value : α → Nat} {ds : List α}
    (h : ∀ d ∈ ds, value d < base) (n : Nat) :
    ds.foldl (fun n d => n * base + value d) n < (n + 1) * base ^ ds.length := by
  induction ds generalizing n with
  | nil => simp
  | cons d ds ih =>
      obtain ⟨first, others⟩ := List.forall_mem_cons.mp h
      calc (d :: ds).foldl (fun n d => n * base + value d) n
          < (n * base + value d + 1) * base ^ ds.length := ih others _
        _ ≤ (n + 1) * base * base ^ ds.length :=
            Nat.mul_le_mul_right _ (by rw [Nat.succ_mul]; omega)
        _ = (n + 1) * base ^ (d :: ds).length := by
            rw [List.length_cons, Nat.pow_succ, Nat.mul_assoc, Nat.mul_comm base]

theorem toDigits_ne_nil (base n : Nat) : Nat.toDigits base n ≠ [] :=
  List.ne_nil_of_length_pos Nat.length_toDigits_pos

theorem head?_toDigits {n : Nat} (h : 0 < n) : (Nat.toDigits 10 n).head? ≠ some '0' := by
  induction n using Nat.strongRecOn with
  | ind n ih =>
      rw [Nat.toDigits_eq_if (by decide)]
      split
      · rename_i small
        have digits : ∀ d < 10, 0 < d → Nat.digitChar d ≠ '0' := by decide
        exact fun zero => digits n small h (Option.some.inj zero)
      · rw [List.head?_append_of_ne_nil _ (toDigits_ne_nil 10 _)]
        exact ih _ (by omega) (by omega)

/-! ## IPv4 -/

theorem ipv4Number?_toDigits (n : Nat) : ipv4Number? (Nat.toDigits 10 n) = some n := by
  rcases Nat.eq_zero_or_pos n with rfl | positive
  · rfl
  · have first := head?_toDigits positive
    have read := digitsIn?_toDigits (by decide) (by decide : 10 ≤ 16) n
    have noZero {ds : List Char} (zero : Nat.toDigits 10 n = '0' :: ds) : False := by
      rw [zero] at first
      exact first rfl
    -- a zero in front, which tells the other bases, is the first digit of no positive number
    unfold ipv4Number?
    split
    · rename_i hnil
      exact absurd hnil (toDigits_ne_nil 10 n)
    · rename_i zero
      exact (noZero zero).elim
    · rename_i zero
      exact (noZero zero).elim
    · rename_i zero
      exact (noZero zero).elim
    · rename_i zero
      exact (noZero zero).elim
    · exact read

theorem pieces_ipv4Text (n : Nat) : pieces '.' (ipv4Text n).toList =
    [n / 16777216 % 256, n / 65536 % 256, n / 256 % 256, n % 256].map (Nat.toDigits 10) := by
  have text : (ipv4Text n).toList = ['.'].intercalate
      ([n / 16777216 % 256, n / 65536 % 256, n / 256 % 256, n % 256].map (Nat.toDigits 10)) := by
    rw [ipv4Text_toList]
    simp [List.intercalate_cons_cons]
  rw [text]
  refine pieces_intercalate (fun part among dot => ?_) (by simp)
  obtain ⟨b, -, rfl⟩ := List.mem_map.mp among
  cases isDigit_toDigits b '.' dot

theorem endsInNumber_ipv4Text (n : Nat) : endsInNumber (ipv4Text n).toList = true := by
  have digits := isDigit_toDigits (n % 256)
  simp only [endsInNumber, pieces_ipv4Text, List.map_cons, List.map_nil]
  cases last : Nat.toDigits 10 (n % 256) with
  | nil => exact absurd last (toDigits_ne_nil 10 _)
  | cons d ds =>
      rw [last] at digits
      simpa using Or.inl (List.forall_mem_cons.mp digits)

theorem ipv4OfParts?_bytes {n : Nat} (h : n < 2 ^ 32) :
    ipv4OfParts? [n / 16777216 % 256, n / 65536 % 256, n / 256 % 256, n % 256] = some n := by
  have bytes (m : Nat) : m % 256 ≤ 255 := by omega
  have last : n % 256 < 256 := by omega
  simp only [ipv4OfParts?, List.reverse_cons, List.reverse_nil, List.nil_append, List.cons_append,
    List.length_cons, List.length_nil, List.all_cons, List.all_nil, bytes, List.foldl_cons,
    List.foldl_nil, Nat.shiftLeft_eq]
  simp [last]
  omega

theorem ipv4?_text {n : Nat} (h : n < 2 ^ 32) : ipv4? (ipv4Text n).toList = some n := by
  have value := ipv4Number?_toDigits (n % 256)
  simp only [ipv4?, pieces_ipv4Text, List.map_cons, List.map_nil, List.reverse_cons,
    List.reverse_nil, List.nil_append, List.cons_append]
  cases last : Nat.toDigits 10 (n % 256) with
  | nil => exact absurd last (toDigits_ne_nil 10 _)
  | cons d ds =>
      rw [last] at value
      simp [List.mapM_cons, ipv4Number?_toDigits, value, ipv4OfParts?_bytes h]

theorem ipv4OfParts?_lt {parts : List Nat} {n : Nat} (h : ipv4OfParts? parts = some n) :
    n < 2 ^ 32 := by
  simp only [ipv4OfParts?] at h
  split at h
  · cases h
  · rename_i last front _
    split at h
    · rename_i sizes
      simp only [Bool.and_eq_true, decide_eq_true_eq, List.all_eq_true] at sizes
      obtain ⟨⟨few, rest⟩, bytes⟩ := sizes
      cases h
      have whole : front.reverse.foldl (fun n b => n * 256 + b) 0 < (0 + 1) * 256 ^ _ :=
        foldl_lt (fun b there => Nat.lt_succ_of_le (bytes b there)) 0
      generalize front.reverse.foldl (fun n b => n * 256 + b) 0 = value at whole
      generalize front.reverse.length = k at few rest whole
      rw [Nat.shiftLeft_eq] at rest ⊢
      interval_cases k <;> omega
    · cases h

theorem ipv4?_lt {cs : List Char} {n : Nat} (h : ipv4? cs = some n) : n < 2 ^ 32 := by
  simp only [ipv4?, Option.ite_none_left_eq_some, Option.bind_eq_some_iff] at h
  obtain ⟨-, parts, -, value⟩ := h
  exact ipv4OfParts?_lt value

/-! ## IPv6 -/

def colonHex (ps : List Nat) : List Char := [':'].intercalate (ps.map (Nat.toDigits 16))

theorem toList_ipv6Pieces (ps : List Nat) : (ipv6Pieces ps).toList = colonHex ps := by
  rw [ipv6Pieces, join, String.toList_intercalate, List.map_map]
  congr 1
  refine List.map_congr_left fun p _ => ?_
  rw [Function.comp_apply, Hex.ofNat, String.toList_ofList]

theorem colonHex_cons (p q : Nat) (ps : List Nat) :
    colonHex (p :: q :: ps) = Nat.toDigits 16 p ++ ':' :: colonHex (q :: ps) := by
  rw [colonHex, List.map_cons, List.map_cons, List.intercalate_cons_cons, List.append_assoc]
  rfl

theorem exists_colonHex (p : Nat) (ps : List Nat) :
    ∃ rest, colonHex (p :: ps) = Nat.toDigits 16 p ++ rest := by
  cases ps with
  | nil => exact ⟨[], by simp [colonHex]⟩
  | cons q ps => exact ⟨_, colonHex_cons p q ps⟩

theorem colonHex_ne_nil {ps : List Nat} (h : ps ≠ []) : colonHex ps ≠ [] := by
  cases ps with
  | nil => exact absurd rfl h
  | cons p ps =>
      obtain ⟨rest, text⟩ := exists_colonHex p ps
      rw [text]
      exact List.append_ne_nil_of_left_ne_nil (toDigits_ne_nil 16 p) rest

theorem two_le_colonHex {ps : List Nat} (h : 2 ≤ ps.length) : 2 ≤ (colonHex ps).length := by
  match ps with
  | p :: q :: ps =>
      have written : 0 < (Nat.toDigits 16 p).length := Nat.length_toDigits_pos
      rw [colonHex_cons, List.length_append, List.length_cons]
      omega

theorem value?_toDigits (p : Nat) : ∀ c ∈ Nat.toDigits 16 p, (Hex.value? c).isSome = true := by
  intro c there
  obtain ⟨d, small, rfl⟩ := exists_of_mem_toDigits (by decide) there
  rw [value?_digitChar d small]
  rfl

theorem takeWhile_hex {ds rest : List Char} (digits : ∀ c ∈ ds, (Hex.value? c).isSome = true)
    (few : ds.length ≤ 4) (stop : ∀ c, rest.head? = some c → c = ':') :
    ((ds ++ rest).take 4).takeWhile (fun c => (Hex.value? c).isSome) = ds := by
  have hnil : (rest.take (4 - ds.length)).takeWhile (fun c => (Hex.value? c).isSome) = [] := by
    cases rest with
    | nil => simp
    | cons c cs =>
        rw [stop c rfl]
        cases 4 - ds.length <;> rfl
  rw [List.take_append, List.take_of_length_le few, List.takeWhile_append_of_pos digits, hnil,
    List.append_nil]

namespace Ipv6Draft

variable {d : Ipv6Draft} {p : Nat} {ps : List Nat} {rest : List Char}

/-- What the reader makes of the text behind a piece. -/
def behind (d : Ipv6Draft) (fuel : Nat) : List Char → Option (List Nat)
  | [] => d.close
  | [_] => none
  | _ :: rest => d.read fuel rest

theorem behind_cons (h : rest ≠ []) (fuel : Nat) (c : Char) :
    d.behind fuel (c :: rest) = d.read fuel rest := by
  cases rest with
  | nil => exact absurd rfl h
  | cons => rfl

theorem read_piece (room : d.pieces.length < 8) (small : p < 65536)
    (stop : ∀ c, rest.head? = some c → c = ':') (fuel : Nat) :
    d.read (fuel + 1) (Nat.toDigits 16 p ++ rest) =
      behind ⟨d.pieces ++ [p], d.gap⟩ fuel rest := by
  have few : (Nat.toDigits 16 p).length ≤ 4 :=
    (Nat.length_toDigits_le_iff (by decide) (by decide)).mpr small
  have taken := takeWhile_hex (value?_toDigits p) few stop
  have value := foldl_of_digitsIn? (digitsIn?_toDigits (by decide) (by decide) p)
  have digits := value?_toDigits p
  have hne := toDigits_ne_nil 16 p
  generalize Nat.toDigits 16 p = ds at taken value digits hne ⊢
  cases ds with
  | nil => exact absurd rfl hne
  | cons c cs =>
      have colon : c ≠ ':' := by
        rintro rfl
        cases digits ':' List.mem_cons_self
      rw [List.cons_append] at taken ⊢
      simp only [read, taken, value]
      rw [if_neg (by omega), if_neg colon]
      rw [show (c :: (cs ++ rest)).drop (c :: cs).length = rest by simp]
      cases rest with
      | nil => rfl
      | cons x xs =>
          cases stop x rfl
          cases xs with
          | nil => rfl
          | cons y ys => rfl

/-- Pieces are read one after the other; the fuel lasts for what is behind them. -/
theorem read_pieces (nonempty : ps ≠ []) (small : ∀ p ∈ ps, p < 65536)
    (room : d.pieces.length + ps.length ≤ 8) (rest : List Char)
    (stop : ∀ c, rest.head? = some c → c = ':') {fuel : Nat}
    (enough : (colonHex ps ++ rest).length ≤ fuel) :
    ∃ left, rest.length ≤ left + 1 ∧
      d.read fuel (colonHex ps ++ rest) = behind ⟨d.pieces ++ ps, d.gap⟩ left rest := by
  induction ps generalizing d fuel with
  | nil => exact absurd rfl nonempty
  | cons p ps ih =>
      obtain ⟨first, others⟩ := List.forall_mem_cons.mp small
      rw [List.length_cons] at room
      have hne : (colonHex (p :: ps) ++ rest).length ≠ 0 := fun hzero =>
        List.append_ne_nil_of_left_ne_nil (colonHex_ne_nil nonempty) _
          (List.eq_nil_of_length_eq_zero hzero)
      obtain ⟨fuel, rfl⟩ := Nat.exists_eq_succ_of_ne_zero (by omega : fuel ≠ 0)
      have written : 0 < (Nat.toDigits 16 p).length := Nat.length_toDigits_pos
      cases ps with
      | nil =>
          have alone : colonHex [p] = Nat.toDigits 16 p := by simp [colonHex]
          rw [alone, List.length_append] at enough
          rw [alone]
          exact ⟨fuel, by omega, read_piece (by omega) first stop fuel⟩
      | cons q ps =>
          rw [colonHex_cons, List.append_assoc, List.cons_append] at enough ⊢
          rw [List.length_append, List.length_cons] at enough
          have longer : (d.pieces ++ [p]).length + (q :: ps).length ≤ 8 := by
            rw [List.length_append, List.length_singleton]
            omega
          obtain ⟨left, lasts, read⟩ := ih (d := ⟨d.pieces ++ [p], d.gap⟩) (List.cons_ne_nil q ps)
            others longer (by omega : _ ≤ fuel)
          refine ⟨left, lasts, ?_⟩
          have more : colonHex (q :: ps) ++ rest ≠ [] :=
            List.append_ne_nil_of_left_ne_nil (colonHex_ne_nil (List.cons_ne_nil q ps)) _
          rw [read_piece (by omega) first (by rintro c ⟨⟩; rfl), behind_cons more, read,
            List.append_assoc]
          rfl

theorem read_colonHex (small : ∀ p ∈ ps, p < 65536) (room : d.pieces.length + ps.length ≤ 8)
    {fuel : Nat} (enough : (colonHex ps).length ≤ fuel) :
    d.read fuel (colonHex ps) = close ⟨d.pieces ++ ps, d.gap⟩ := by
  cases ps with
  | nil =>
      rw [List.append_nil]
      cases fuel <;> rfl
  | cons p ps =>
      rw [← List.append_nil (colonHex (p :: ps))] at enough ⊢
      obtain ⟨left, -, read⟩ := read_pieces (List.cons_ne_nil p ps) small room [] (by rintro c ⟨⟩)
        enough
      exact read

theorem read_colon_colon (room : d.pieces.length < 8) (gapless : d.gap = none) (fuel : Nat) :
    d.read (fuel + 1) (':' :: rest) =
      Ipv6Draft.read ⟨d.pieces ++ [0], some (d.pieces.length + 1)⟩ fuel rest := by
  rw [read, if_neg (by omega), if_pos rfl, gapless]
  rfl

theorem close_gap {front back : List Nat} {n : Nat} (two : 2 ≤ n)
    (eight : front.length + (n + back.length) = 8) :
    close ⟨front ++ [0] ++ back, some (front.length + 1)⟩ =
      some (front ++ (List.replicate n 0 ++ back)) := by
  obtain ⟨k, rfl⟩ := Nat.exists_eq_add_of_le' two
  have missing : 8 - (front ++ [0] ++ back).length = k + 1 := by
    simp only [List.length_append, List.length_singleton]
    omega
  have place : (front ++ [0]).length = front.length + 1 := by simp
  simp only [close, missing]
  rw [List.take_left' place, List.drop_left' place]
  simp [List.replicate_succ]

end Ipv6Draft

/-! ## Sizes -/

theorem forall_of_mapM {α β : Type} {f : α → Option β} {p : β → Prop}
    (each : ∀ x y, f x = some y → p y) {xs : List α} {ys : List β} (h : xs.mapM f = some ys) :
    ∀ y ∈ ys, p y := by
  induction xs generalizing ys with
  | nil =>
      cases h
      exact fun _ h => absurd h List.not_mem_nil
  | cons x xs ih =>
      rw [List.mapM_cons] at h
      obtain ⟨y, first, h⟩ := Option.bind_eq_some_iff.mp h
      obtain ⟨others, later, h⟩ := Option.bind_eq_some_iff.mp h
      cases h
      exact List.forall_mem_cons.mpr ⟨each x y first, ih later⟩

theorem value?_lt {c : Char} {d : Nat} (h : Hex.value? c = some d) : d < 16 := by
  unfold Hex.value? at h
  split at h
  · rename_i digit
    have range : 48 ≤ c.toNat ∧ c.toNat ≤ 57 := by
      simpa [Char.isDigit, UInt32.le_iff_toNat_le] using digit
    cases h
    omega
  · split at h
    · rename_i letter
      have range : 97 ≤ c.toNat ∧ c.toNat ≤ 102 := by
        simpa [Char.le_def, UInt32.le_iff_toNat_le] using letter
      cases h
      omega
    · split at h
      · rename_i letter
        have range : 65 ≤ c.toNat ∧ c.toNat ≤ 70 := by
          simpa [Char.le_def, UInt32.le_iff_toNat_le] using letter
        cases h
        omega
      · cases h

theorem foldl_hex_lt {ds : List Char} (few : ds.length ≤ 4) :
    ds.foldl (fun n c => n * 16 + (Hex.value? c).getD 0) 0 < 65536 := by
  have digit (c : Char) : (Hex.value? c).getD 0 < 16 := by
    cases value : Hex.value? c with
    | none => decide
    | some d => exact value?_lt value
  calc ds.foldl (fun n c => n * 16 + (Hex.value? c).getD 0) 0
      < (0 + 1) * 16 ^ ds.length := foldl_lt (fun c _ => digit c) 0
    _ ≤ 1 * 16 ^ 4 := Nat.mul_le_mul_left 1 (Nat.pow_le_pow_right (by decide) few)

namespace Ipv6Draft

variable {d : Ipv6Draft} {ps : List Nat} {fuel : Nat} {cs : List Char}

/-- There are no more pieces than eight, and they have 16 bits. -/
def Sized (d : Ipv6Draft) : Prop := d.pieces.length ≤ 8 ∧ ∀ p ∈ d.pieces, p < 65536

theorem Sized.close (sized : d.Sized) (h : d.close = some ps) :
    ps.length = 8 ∧ ∀ p ∈ ps, p < 65536 := by
  obtain ⟨few, small⟩ := sized
  unfold Ipv6Draft.close at h
  split at h
  · rename_i g _
    cases h
    refine ⟨?_, ?_⟩
    · simp only [List.length_append, List.length_take, List.length_replicate, List.length_drop]
      omega
    · refine List.forall_mem_append.mpr ⟨List.forall_mem_append.mpr ⟨?_, ?_⟩, ?_⟩
      · exact fun p there => small p (List.mem_of_mem_take there)
      · exact fun p there => by rw [List.eq_of_mem_replicate there]; decide
      · exact fun p there => small p (List.mem_of_mem_drop there)
  · split at h
    · rename_i eight
      cases h
      exact ⟨eight, small⟩
    · cases h

theorem Sized.more (sized : d.Sized) (room : d.pieces.length ≠ 8) {p : Nat} (small : p < 65536)
    (gap : Option Nat) : Sized ⟨d.pieces ++ [p], gap⟩ := by
  refine ⟨?_, List.forall_mem_append.mpr ⟨sized.2, List.forall_mem_singleton.mpr small⟩⟩
  have few := sized.1
  rw [List.length_append, List.length_singleton]
  omega

theorem ipv4Byte?_le {n : Nat} (h : ipv4Byte? cs = some n) : n ≤ 255 := by
  unfold ipv4Byte? at h
  split at h
  · cases h
  · exact of_decide_eq_true (Option.filter_eq_some_iff.mp h).2

theorem Sized.closeIpv4 (sized : d.Sized) (h : d.closeIpv4 cs = some ps) :
    ps.length = 8 ∧ ∀ p ∈ ps, p < 65536 := by
  unfold Ipv6Draft.closeIpv4 at h
  split at h
  · cases h
  · rename_i room
    split at h
    · rename_i a b c e read
      have bytes : ∀ n ∈ [a, b, c, e], n ≤ 255 := forall_of_mapM (fun _ _ => ipv4Byte?_le) read
      refine Sized.close ⟨?_, ?_⟩ h
      · rw [List.length_append, List.length_cons, List.length_singleton]
        omega
      · refine List.forall_mem_append.mpr ⟨sized.2, ?_⟩
        simp at bytes ⊢
        omega
    · cases h

theorem Sized.read (sized : d.Sized) (h : d.read fuel cs = some ps) :
    ps.length = 8 ∧ ∀ p ∈ ps, p < 65536 := by
  induction fuel generalizing d cs with
  | zero =>
      cases cs with
      | nil => exact sized.close h
      | cons c cs => cases h
  | succ fuel ih =>
      cases cs with
      | nil => exact sized.close h
      | cons c cs =>
          simp only [Ipv6Draft.read] at h
          split at h
          · cases h
          · rename_i room
            split at h
            · split at h
              · cases h
              · exact ih (sized.more room (by decide) _) h
            · have few : (((c :: cs).take 4).takeWhile fun c => (Hex.value? c).isSome).length ≤ 4 :=
                Nat.le_trans (List.takeWhile_prefix _).length_le (List.length_take_le 4 _)
              have piece := foldl_hex_lt few
              split at h
              · exact (sized.more room piece _).close h
              · split at h
                · cases h
                · exact sized.closeIpv4 h
              · cases h
              · exact ih (sized.more room piece _) h
              · cases h

end Ipv6Draft

theorem ipv6?_sizes {cs : List Char} {ps : List Nat} (h : ipv6? cs = some ps) :
    ps.length = 8 ∧ ∀ p ∈ ps, p < 65536 := by
  unfold ipv6? at h
  split at h
  · exact Ipv6Draft.Sized.read ⟨by simp, by simp⟩ h
  · split at h
    · cases h
    · exact Ipv6Draft.Sized.read ⟨by simp, by simp⟩ h

/-! ## Runs of zeros -/

theorem eq_of_le_leadingZeros {ps : List Nat} {n : Nat} (h : n ≤ leadingZeros ps) :
    ps = List.replicate n 0 ++ ps.drop n := by
  fun_induction leadingZeros ps generalizing n with
  | case1 ps ih =>
      cases n with
      | zero => rfl
      | succ n =>
          rw [List.replicate_succ, List.drop_succ_cons, List.cons_append, ← ih (by omega)]
  | case2 =>
      rw [Nat.le_zero.mp h]
      rfl

theorem longestZeros_le (ps : List Nat) :
    (longestZeros ps).2 ≤ leadingZeros (ps.drop (longestZeros ps).1) := by
  unfold longestZeros
  refine List.foldlRecOn (motive := fun best : Nat × Nat => best.2 ≤ leadingZeros (ps.drop best.1))
    _ _ (Nat.zero_le _) fun best kept i _ => ?_
  dsimp only
  split
  · exact Nat.le_refl _
  · exact kept

theorem longestZeros_spec (ps : List Nat) :
    ps = ps.take (longestZeros ps).1 ++ (List.replicate (longestZeros ps).2 0 ++
      ps.drop ((longestZeros ps).1 + (longestZeros ps).2)) := by
  rw [← List.drop_drop, ← eq_of_le_leadingZeros (longestZeros_le ps), List.take_append_drop]

/-! ## Printed IPv6 addresses -/

theorem ipv6?_of_head {cs : List Char} (first : cs.head? ≠ some ':') (two : 2 ≤ cs.length) :
    ipv6? cs = Ipv6Draft.read ⟨[], none⟩ cs.length cs := by
  unfold ipv6?
  split
  · rename_i found
    rw [behind_eq found] at first
    exact absurd rfl first
  · have long : ¬ cs.length < 2 := Nat.not_lt.mpr two
    exact if_neg (by simp [first, long])

theorem head?_colonHex {ps : List Nat} (h : ps ≠ []) (rest : List Char) :
    (colonHex ps ++ rest).head? ≠ some ':' := by
  rw [List.head?_append_of_ne_nil _ (colonHex_ne_nil h)]
  cases ps with
  | nil => exact absurd rfl h
  | cons p ps =>
      obtain ⟨rest, text⟩ := exists_colonHex p ps
      rw [text, List.head?_append_of_ne_nil _ (toDigits_ne_nil 16 p)]
      intro colon
      cases value?_toDigits p ':' (List.mem_of_mem_head? colon)

/-- Pieces with two colons between them are those of the address without the zeros. -/
theorem ipv6?_gap {front back : List Nat} {n : Nat} (two : 2 ≤ n)
    (eight : front.length + (n + back.length) = 8) (smallFront : ∀ p ∈ front, p < 65536)
    (smallBack : ∀ p ∈ back, p < 65536) :
    ipv6? (colonHex front ++ ':' :: ':' :: colonHex back) =
      some (front ++ (List.replicate n 0 ++ back)) := by
  cases front with
  | nil =>
      have closed := Ipv6Draft.close_gap two eight
      rw [List.length_nil] at eight
      have read : Ipv6Draft.read ⟨[0], some 1⟩ (colonHex back).length (colonHex back) =
          Ipv6Draft.close ⟨[0] ++ back, some 1⟩ :=
        Ipv6Draft.read_colonHex smallBack (by rw [List.length_singleton]; omega) (Nat.le_refl _)
      exact read.trans closed
  | cons p ps =>
      have nonempty := List.cons_ne_nil p ps
      generalize p :: ps = front at eight smallFront nonempty ⊢
      rw [ipv6?_of_head (head?_colonHex nonempty _) (by simp; omega)]
      obtain ⟨left, lasts, read⟩ := Ipv6Draft.read_pieces (d := ⟨[], none⟩) nonempty smallFront
        (by rw [List.length_nil]; omega) (':' :: ':' :: colonHex back) (by rintro c ⟨⟩; rfl)
        (Nat.le_refl _)
      rw [List.length_cons, List.length_cons] at lasts
      obtain ⟨left, rfl⟩ := Nat.exists_eq_succ_of_ne_zero (by omega : left ≠ 0)
      rw [read, Ipv6Draft.behind_cons (List.cons_ne_nil _ _), List.nil_append,
        Ipv6Draft.read_colon_colon (by dsimp only; omega) rfl,
        Ipv6Draft.read_colonHex smallBack (by simp; omega) (by omega)]
      exact Ipv6Draft.close_gap two eight

theorem ipv6?_text {ps : List Nat} (eight : ps.length = 8) (small : ∀ p ∈ ps, p < 65536) :
    ipv6? (ipv6Text ps).toList = some ps := by
  have zeros := longestZeros_spec ps
  unfold ipv6Text
  split
  rename_i start n found
  rw [found] at zeros
  dsimp only at zeros
  split
  · have nonempty : ps ≠ [] := List.ne_nil_of_length_pos (by omega)
    rw [toList_ipv6Pieces, ← List.append_nil (colonHex ps)]
    rw [ipv6?_of_head (head?_colonHex nonempty [])
      (by rw [List.append_nil]; exact two_le_colonHex (by omega))]
    rw [List.append_nil,
      Ipv6Draft.read_colonHex small (by rw [List.length_nil]; omega) (Nat.le_refl _)]
    exact if_pos eight
  · have text : (ipv6Pieces (ps.take start) ++ "::" ++ ipv6Pieces (ps.drop (start + n))).toList =
        colonHex (ps.take start) ++ ':' :: ':' :: colonHex (ps.drop (start + n)) := by
      simp [toList_ipv6Pieces]
    have lengths := congrArg List.length zeros
    rw [eight, List.length_append, List.length_append, List.length_replicate] at lengths
    rw [text, ipv6?_gap (by omega) lengths.symm (fun p there => small p (List.mem_of_mem_take there))
      (fun p there => small p (List.mem_of_mem_drop there)), ← zeros]

end Url

end HttpClient
