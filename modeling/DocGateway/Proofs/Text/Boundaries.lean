import DocGateway.Text.Utf8
import Mathlib.Algebra.Order.Ring.Nat
/-!
# Where a text can be cut

A character takes one byte to four, and by a byte alone can be told whether a character starts with
it or goes on with it. So the places between two characters are found without reading the characters
in front.

## Key results

- `utf8EncodeChar_eq_cons`: the first byte of a character, and the others
- `isBoundary_encode_iff`: a text can be cut between two characters, and nowhere else
-/

namespace DocGateway.Utf8

/-- The bytes of a text are those of its characters. -/
theorem utf8ByteSize_ofList (cs : List Char) :
    (String.ofList cs).utf8ByteSize = (cs.map Char.utf8Size).sum := by
  rw [← length_encode, encode_eq_flatMap, String.toList_ofList, List.length_flatMap]
  simp

/-- Whether a byte goes on with a character, which an earlier byte starts. -/
def isContinuation (b : UInt8) : Bool := 0x80 ≤ b ∧ b < 0xC0

/-- Whether bytes can be cut at an offset: at the start, in front of a byte that starts a character,
and at the end. -/
def isBoundary (bs : List UInt8) : Nat → Bool
  | 0 => true
  | i + 1 =>
    match bs[i + 1]? with
    | some b => !isContinuation b
    | none => i + 1 = bs.length

/-- `isContinuation` in numbers. -/
theorem isContinuation_ofNat_iff {n : Nat} :
    isContinuation (UInt8.ofNat n) = true ↔ 128 ≤ n % 256 ∧ n % 256 < 192 := by
  simp [isContinuation, UInt8.le_iff_toNat_le, UInt8.lt_iff_toNat_lt]

/-- `utf8EncodeChar` gives a first byte, and bytes behind it that go on with it. -/
theorem utf8EncodeChar_eq_cons (c : Char) :
    ∃ first rest, String.utf8EncodeChar c = first :: rest ∧ isContinuation first = false ∧
      rest.all isContinuation = true := by
  -- a single byte is below `128`, the first of several is `192` or more
  fun_cases String.utf8EncodeChar c
  all_goals
    refine ⟨_, _, rfl, ?_, ?_⟩
    · rw [Bool.eq_false_iff, ne_eq, isContinuation_ofNat_iff]
      omega
    · simp only [List.all_cons, List.all_nil, Bool.and_true, Bool.and_eq_true,
        isContinuation_ofNat_iff] <;> omega

/-- `isBoundary` holds of no place inside a character. -/
theorem isBoundary_of_lt {c : Char} {i : Nat} (hpos : 0 < i) (hlt : i < c.utf8Size)
    (bs : List UInt8) :
    isBoundary (String.utf8EncodeChar c ++ bs) i = false := by
  obtain ⟨first, rest, hc, -, hrest⟩ := utf8EncodeChar_eq_cons c
  obtain ⟨i, rfl⟩ := Nat.exists_eq_succ_of_ne_zero (Nat.ne_of_gt hpos)
  have hlen : i < rest.length := by
    rw [← String.length_utf8EncodeChar, hc, List.length_cons] at hlt
    omega
  have hbyte : (String.utf8EncodeChar c ++ bs)[i + 1]? = some rest[i] := by
    rw [hc, List.cons_append, List.getElem?_cons_succ, List.getElem?_append_left hlen,
      List.getElem?_eq_getElem hlen]
  -- all bytes of a character but the first continue it
  have hcontinues := List.all_eq_true.mp hrest rest[i] (List.getElem_mem hlen)
  simp [isBoundary, hbyte, hcontinues]

/-- `isBoundary` behind a character is as if nothing stood in front. -/
theorem isBoundary_add (c : Char) (cs : List Char) (i : Nat) :
    isBoundary (String.utf8EncodeChar c ++ cs.flatMap String.utf8EncodeChar) (c.utf8Size + i) =
      isBoundary (cs.flatMap String.utf8EncodeChar) i := by
  have hbyte : (String.utf8EncodeChar c ++ cs.flatMap String.utf8EncodeChar)[c.utf8Size + i]? =
      (cs.flatMap String.utf8EncodeChar)[i]? := by
    rw [List.getElem?_append_right (by simp), String.length_utf8EncodeChar, Nat.add_sub_cancel_left]
  obtain ⟨n, hn⟩ := Nat.exists_eq_succ_of_ne_zero (Nat.ne_of_gt c.utf8Size_pos)
  have hindex : c.utf8Size + i = n + i + 1 := by omega
  rw [hindex] at hbyte ⊢
  rw [isBoundary, hbyte]
  cases i with
  | zero =>
    -- what comes next is the first byte of a character, or the end
    cases cs with
    | nil => simp [isBoundary, hn]
    | cons d ds =>
      obtain ⟨first, rest, hd, hfirst, -⟩ := utf8EncodeChar_eq_cons d
      simp [isBoundary, hd, hfirst]
  | succ i =>
    rw [isBoundary]
    have hend : n + (i + 1) + 1 =
        (String.utf8EncodeChar c ++ cs.flatMap String.utf8EncodeChar).length ↔
        i + 1 = (cs.flatMap String.utf8EncodeChar).length := by
      rw [List.length_append, String.length_utf8EncodeChar]
      omega
    simp only [hend]

/-- `isBoundary` holds between two characters, at the start and at the end, and nowhere else. -/
theorem isBoundary_flatMap_iff {cs : List Char} {i : Nat} :
    isBoundary (cs.flatMap String.utf8EncodeChar) i = true ↔ ∃ front, front <+: cs ∧
      i = (front.map Char.utf8Size).sum := by
  -- by induction on the characters, with an offset at the start, inside the first one or behind it
  induction cs generalizing i with
  | nil => cases i <;> simp [isBoundary]
  | cons c cs ih =>
    rw [List.flatMap_cons]
    obtain rfl | hpos := Nat.eq_zero_or_pos i
    · simp only [isBoundary, true_iff]
      exact ⟨[], List.nil_prefix, rfl⟩
    obtain hlt | hge := Nat.lt_or_ge i c.utf8Size
    · rw [isBoundary_of_lt hpos hlt]
      simp only [Bool.false_eq_true, false_iff, not_exists, not_and]
      intro front hfront
      obtain rfl | ⟨ds, rfl, -⟩ := List.prefix_cons_iff.mp hfront
      · exact Nat.ne_of_gt hpos
      · rw [List.map_cons, List.sum_cons]
        omega
    · obtain ⟨i, rfl⟩ := Nat.exists_eq_add_of_le hge
      rw [isBoundary_add, ih]
      constructor
      · rintro ⟨front, hfront, rfl⟩
        exact ⟨c :: front, List.cons_prefix_cons.mpr ⟨rfl, hfront⟩, rfl⟩
      · rintro ⟨front, hfront, hi⟩
        obtain rfl | ⟨ds, rfl, hds⟩ := List.prefix_cons_iff.mp hfront
        · have := c.utf8Size_pos
          simp only [List.map_nil, List.sum_nil] at hi
          omega
        · rw [List.map_cons, List.sum_cons] at hi
          exact ⟨ds, hds, by omega⟩

/-- `isBoundary` holds where a text is cut into two texts. -/
theorem isBoundary_encode_iff {s : String} {i : Nat} :
    isBoundary (encode s) i = true ↔ ∃ p q, s = p ++ q ∧ i = (encode p).length := by
  rw [encode_eq_flatMap, isBoundary_flatMap_iff]
  constructor
  · rintro ⟨front, ⟨back, hs⟩, rfl⟩
    refine ⟨.ofList front, .ofList back, ?_, ?_⟩
    · rw [← String.ofList_append, hs, String.ofList_toList]
    · rw [length_encode, utf8ByteSize_ofList]
  · rintro ⟨p, q, rfl, rfl⟩
    refine ⟨p.toList, ⟨q.toList, String.toList_append.symm⟩, ?_⟩
    rw [length_encode, ← utf8ByteSize_ofList, String.ofList_toList]

end DocGateway.Utf8
