import DocGateway.Logging.Excerpt
import DocGateway.Proofs.Text.Boundaries
/-!
# Texts that are cut between characters

The bytes of a text that is too long are cut in place. From the limit a search goes back, byte by
byte, to where a character starts. The steps are written down here on bytes, with what can go wrong
in them: that the search goes back from the start, and that a character is cut in two. Neither
happens. What is left is the text that is built from characters otherwise: as many of the first
characters as there is room for.

## Key results

- `isLongestPrefix_fitting`: as many first characters as there is room for
- `searchBack_encode`: the search ends behind them
- `truncate_cuts`: every text, with every limit
-/

namespace DocGateway.Excerpt

/-! ### As many characters as there is room for -/

variable {limit : Nat} {cs : List Char}

/-- `fitting` keeps the first characters. -/
theorem fitting_prefix (limit : Nat) (cs : List Char) : fitting limit cs <+: cs := by
  fun_induction fitting limit cs with
  | case1 => exact List.nil_prefix
  | case2 limit c cs hfits ih => exact List.cons_prefix_cons.mpr ⟨rfl, ih⟩
  | case3 => exact List.nil_prefix

/-- `fitting` keeps no more bytes than the limit. -/
theorem sum_fitting_le : ((fitting limit cs).map Char.utf8Size).sum ≤ limit := by
  fun_induction fitting limit cs with
  | case1 => exact Nat.zero_le _
  | case2 limit c cs hfits ih =>
    rw [List.map_cons, List.sum_cons]
    omega
  | case3 => exact Nat.zero_le _

/-- `fitting` keeps all first characters for which there is room. -/
theorem prefix_fitting {front : List Char} (hfront : front <+: cs)
    (hroom : (front.map Char.utf8Size).sum ≤ limit) :
    front <+: fitting limit cs := by
  -- by induction on the characters: where one has room, the others share what is left
  fun_induction fitting limit cs generalizing front with
  | case1 => exact hfront
  | case2 limit c cs hfits ih =>
    obtain rfl | ⟨ds, rfl, hds⟩ := List.prefix_cons_iff.mp hfront
    · exact List.nil_prefix
    · rw [List.map_cons, List.sum_cons] at hroom
      exact List.cons_prefix_cons.mpr ⟨rfl, ih hds (by omega)⟩
  | case3 limit c cs hfits =>
    obtain rfl | ⟨ds, rfl, -⟩ := List.prefix_cons_iff.mp hfront
    · exact List.nil_prefix
    · -- the first character alone takes more than there is room for
      rw [List.map_cons, List.sum_cons] at hroom
      omega

/-- `fitting` leaves less than four bytes of room where it stops, as no character takes more. -/
theorem lt_sum_fitting_add (h : limit < (cs.map Char.utf8Size).sum) :
    limit < ((fitting limit cs).map Char.utf8Size).sum + 4 := by
  fun_induction fitting limit cs with
  | case1 => simp at h
  | case2 limit c cs hfits ih =>
    rw [List.map_cons, List.sum_cons] at h ⊢
    have := ih (by omega)
    omega
  | case3 limit c cs hfits =>
    have := c.utf8Size_le_four
    omega

/-- A text is one of the first parts of another, and no longer one has room within the limit. -/
structure IsLongestPrefix (s p : String) (limit : Nat) : Prop where
  isPrefix : ∃ q, s = p ++ q
  fits : (Utf8.encode p).length ≤ limit
  longest : ∀ p' q', s = p' ++ q' → (Utf8.encode p').length ≤ limit → ∃ r, p = p' ++ r

/-- `fitting` keeps the longest prefix within the limit. -/
theorem isLongestPrefix_fitting (s : String) (limit : Nat) :
    IsLongestPrefix s (.ofList (fitting limit s.toList)) limit where
  isPrefix := by
    obtain ⟨rest, hs⟩ := fitting_prefix limit s.toList
    refine ⟨.ofList rest, ?_⟩
    rw [← String.ofList_append, hs, String.ofList_toList]
  fits := by
    rw [Utf8.length_encode, Utf8.utf8ByteSize_ofList]
    exact sum_fitting_le
  longest := by
    rintro p' q' rfl hroom
    rw [Utf8.length_encode, ← String.ofList_toList (s := p'), Utf8.utf8ByteSize_ofList] at hroom
    -- a prefix of the text is one of its characters, and the longest of those that fit is taken
    have hfront : p'.toList <+: (p' ++ q').toList := ⟨q'.toList, String.toList_append.symm⟩
    obtain ⟨rest, hrest⟩ := prefix_fitting hfront hroom
    refine ⟨.ofList rest, ?_⟩
    rw [← hrest, String.ofList_append, String.ofList_toList]

/-- A place for a cut that is not past the limit is not past the longest prefix either. -/
theorem IsLongestPrefix.le_of_isBoundary {s p : String} (h : IsLongestPrefix s p limit) {i : Nat}
    (hi : i ≤ limit)
    (hboundary : Utf8.isBoundary (Utf8.encode s) i = true) : i ≤ (Utf8.encode p).length := by
  obtain ⟨p', q', hs, rfl⟩ := Utf8.isBoundary_encode_iff.mp hboundary
  obtain ⟨r, rfl⟩ := h.longest p' q' hs hi
  rw [Utf8.length_encode, Utf8.length_encode, String.utf8ByteSize_append]
  omega

/-! ### Cutting bytes in place -/

/-- Why bytes are not cut. -/
inductive CutFault where
  /-- The search for a place goes back from the start. -/
  | beforeStart
  /-- The place is inside a character. -/
  | insideCharacter
deriving DecidableEq, Repr, Inhabited

/-- The last place up to an offset where bytes can be cut, looked for byte by byte. -/
def searchBack (bs : List UInt8) (i : Nat) : Except CutFault Nat :=
  if Utf8.isBoundary bs i then .ok i
  else
    match i with
    | 0 => .error .beforeStart
    | i + 1 => searchBack bs i

/-- The bytes in front of a place. -/
def cutAt (bs : List UInt8) (place : Nat) : Except CutFault (List UInt8) :=
  if Utf8.isBoundary bs place then .ok (bs.take place) else .error .insideCharacter

/-- Cuts the bytes of a text down to a limit, where zero stands for none. -/
def truncateBytes (bs : List UInt8) (limit : Nat) : Except CutFault (List UInt8) :=
  if limit = 0 ∨ bs.length ≤ limit then .ok bs
  else do
    let place ← searchBack bs limit
    let kept ← cutAt bs place
    .ok (kept ++ Utf8.encode ellipsis)

/-- `searchBack` ends at the first place for a cut that it comes to. -/
theorem searchBack_eq {bs : List UInt8} {place i : Nat} (hplace : Utf8.isBoundary bs place = true)
    (hle : place ≤ i)
    (hlast : ∀ j ≤ i, Utf8.isBoundary bs j = true → j ≤ place) : searchBack bs i = .ok place := by
  induction i with
  | zero =>
    obtain rfl := Nat.le_zero.mp hle
    rw [searchBack, if_pos hplace]
  | succ i ih =>
    obtain rfl | hlt := Nat.eq_or_lt_of_le hle
    · rw [searchBack, if_pos hplace]
    · -- a later place would have to be the last one
      have hnot : ¬ Utf8.isBoundary bs (i + 1) = true := by
        intro h
        have := hlast (i + 1) (Nat.le_refl _) h
        omega
      rw [searchBack, if_neg hnot]
      exact ih (by omega) fun j hj h => hlast j (by omega) h

section

variable {s p : String}

/-- `isBoundary` holds at the end of the longest prefix. -/
theorem IsLongestPrefix.isBoundary (h : IsLongestPrefix s p limit) :
    Utf8.isBoundary (Utf8.encode s) (Utf8.encode p).length = true := by
  obtain ⟨q, hs⟩ := h.isPrefix
  exact Utf8.isBoundary_encode_iff.mpr ⟨p, q, hs, rfl⟩

/-- The bytes up to the end of the longest prefix are those of the prefix. -/
theorem IsLongestPrefix.take_encode (h : IsLongestPrefix s p limit) :
    (Utf8.encode s).take (Utf8.encode p).length = Utf8.encode p := by
  obtain ⟨q, rfl⟩ := h.isPrefix
  rw [Utf8.encode_append, List.take_left]

/-- `searchBack` from the limit ends at the end of the longest prefix. -/
theorem searchBack_encode (h : IsLongestPrefix s p limit) :
    searchBack (Utf8.encode s) limit = .ok (Utf8.encode p).length :=
  searchBack_eq h.isBoundary h.fits fun _ => h.le_of_isBoundary

/-- `truncateBytes` of a text that is too long is its longest prefix, with an ellipsis. -/
theorem truncateBytes_of_cut (hlimit : ¬(limit = 0 ∨ (Utf8.encode s).length ≤ limit))
    (h : IsLongestPrefix s p limit) :
    truncateBytes (Utf8.encode s) limit = .ok (Utf8.encode (p ++ ellipsis)) := by
  rw [truncateBytes, if_neg hlimit, searchBack_encode h, Utf8.encode_append]
  change (do
    let kept ← cutAt (Utf8.encode s) (Utf8.encode p).length
    .ok (kept ++ Utf8.encode ellipsis)) = _
  rw [cutAt, if_pos h.isBoundary, h.take_encode]
  rfl

end

/-- `truncateBytes`, which cuts the bytes of a text in place, never goes back from the start and
cuts no character in two, and it leaves the bytes of what `truncate` builds from characters. A text
within the limit, or without one, stays as it is. Any other is its longest prefix that has room
within the limit (`IsLongestPrefix`), and an ellipsis: `searchBack` ends behind that prefix, less
than four bytes below the limit, no other place for a cut lies between them, and the bytes in front
of it are a text again. -/
theorem truncate_cuts (s : String) (limit : Nat) :
    truncateBytes (Utf8.encode s) limit = .ok (Utf8.encode (truncate s limit)) ∧
    if limit = 0 ∨ (Utf8.encode s).length ≤ limit then truncate s limit = s
    else ∃ p, truncate s limit = p ++ "..." ∧ IsLongestPrefix s p limit ∧
      searchBack (Utf8.encode s) limit = .ok (Utf8.encode p).length ∧
      Utf8.isBoundary (Utf8.encode s) (Utf8.encode p).length = true ∧
      (∀ i ≤ limit, Utf8.isBoundary (Utf8.encode s) i = true → i ≤ (Utf8.encode p).length) ∧
      limit < (Utf8.encode p).length + 4 ∧
      Utf8.decode? ((Utf8.encode s).take (Utf8.encode p).length) = some p ∧
      (Utf8.encode (truncate s limit)).length ≤ limit + 3 := by
  have hlength : (Utf8.encode s).length = s.utf8ByteSize := Utf8.length_encode s
  split
  case isTrue hkept =>
    have hself : truncate s limit = s := by rw [truncate, if_pos (hlength ▸ hkept)]
    rw [hself]
    exact ⟨if_pos hkept, rfl⟩
  case isFalse hcut =>
    have hlongest := isLongestPrefix_fitting s limit
    have htruncate : truncate s limit = .ofList (fitting limit s.toList) ++ ellipsis := by
      rw [truncate, if_neg (hlength ▸ hcut)]
    have hnear : limit < (Utf8.encode (.ofList (fitting limit s.toList))).length + 4 := by
      rw [Utf8.length_encode, Utf8.utf8ByteSize_ofList]
      apply lt_sum_fitting_add
      rw [← Utf8.utf8ByteSize_ofList, String.ofList_toList]
      omega
    -- from here on only what is known of the prefix counts
    generalize String.ofList (fitting limit s.toList) = p at hlongest htruncate hnear
    have hroom : (Utf8.encode (p ++ ellipsis)).length ≤ limit + 3 := by
      have hellipsis : (Utf8.encode ellipsis).length = 3 := by decide
      rw [Utf8.encode_append, List.length_append, hellipsis]
      have := hlongest.fits
      omega
    have hdecode : Utf8.decode? ((Utf8.encode s).take (Utf8.encode p).length) = some p := by
      rw [hlongest.take_encode, Utf8.decode?_encode]
    rw [htruncate]
    exact ⟨truncateBytes_of_cut hcut hlongest, p, rfl, hlongest, searchBack_encode hlongest,
      hlongest.isBoundary,
      fun _ => hlongest.le_of_isBoundary, hnear, hdecode, hroom⟩

example : truncate "aé€😀" 9 = "aé€..." := by decide

end DocGateway.Excerpt
