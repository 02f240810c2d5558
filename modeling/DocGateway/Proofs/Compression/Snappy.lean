import DocGateway.Compression.Snappy
/-!
# Snappy blocks are read back

A block with copies is only written if it is read back, so that what is left is the block of one
literal: a number of seven bits a byte, a tag with the length of the literal, and its bytes.

## Key results

- `varint?_varint`: the number in front of a block
- `literal_eq_cons`: the tag and the length of a literal
- `decode?_encode`: blocks
-/

namespace DocGateway.Snappy

/-! ### The number in front -/

/-- `varint?` stops at a byte below 128. -/
private theorem varint?_last {n shift : Nat} (value : Nat) (rest : List UInt8) (hn : n < 128)
    (hshift : shift < 35) :
    varint? shift value (UInt8.ofNat n :: rest) = some (value + n <<< shift, rest) := by
  have htoNat : (UInt8.ofNat n).toNat = n :=
    UInt8.toNat_ofNat_of_lt' (by simp only [UInt8.size]; omega)
  have hlow : UInt8.ofNat n < 128 := by
    rw [UInt8.lt_iff_toNat_lt, htoNat]
    exact hn
  rw [varint?, if_neg (by omega)]
  simp only [htoNat, Nat.mod_eq_of_lt hn, if_pos hlow]

/-- `varint?` takes seven bits of any other byte, and goes on. -/
private theorem varint?_more {n shift : Nat} (value : Nat) (rest : List UInt8)
    (hshift : shift < 35) :
    varint? shift value (UInt8.ofNat (128 + n % 128) :: rest) =
      varint? (shift + 7) (value + (n % 128) <<< shift) rest := by
  have htoNat : (UInt8.ofNat (128 + n % 128)).toNat = 128 + n % 128 :=
    UInt8.toNat_ofNat_of_lt' (by simp only [UInt8.size]; omega)
  have hhigh : ¬ UInt8.ofNat (128 + n % 128) < 128 := by
    rw [UInt8.lt_iff_toNat_lt, htoNat]
    exact Nat.not_lt.mpr (Nat.le_add_right _ _)
  have hmod : (128 + n % 128) % 128 = n % 128 := by omega
  rw [varint?, if_neg (by omega)]
  simp only [htoNat, hmod, if_neg hhigh]

/-- `varint?` reads what `varint` writes. -/
theorem varint?_varint {n more shift : Nat} (value : Nat) (rest : List UInt8)
    (hn : n < 1 <<< (7 * (more + 1))) (hshift : shift + 7 * more < 35) :
    varint? shift value (varint n more ++ rest) = some (value + n <<< shift, rest) := by
  -- by induction on the bytes that may come behind: each takes seven bits off
  induction more generalizing n shift value with
  | zero => exact varint?_last value rest hn hshift
  | succ more ih =>
    rw [varint]
    split
    · rename_i hlow
      exact varint?_last value rest hlow (by omega)
    · have hdiv : n / 128 < 1 <<< (7 * (more + 1)) := by
        rw [Nat.one_shiftLeft, Nat.mul_succ, Nat.pow_add, Nat.mul_comm] at hn
        rw [Nat.one_shiftLeft]
        exact Nat.div_lt_of_lt_mul hn
      rw [List.cons_append, varint?_more value _ (by omega), ih _ hdiv (by omega)]
      -- the low seven bits and the others are the whole number
      have hsum : value + (n % 128) <<< shift + (n / 128) <<< (shift + 7) =
          value + n <<< shift := by
        simp only [Nat.shiftLeft_eq]
        calc value + n % 128 * 2 ^ shift + n / 128 * 2 ^ (shift + 7)
          _ = value + (n % 128 + 128 * (n / 128)) * 2 ^ shift := by
            rw [Nat.add_mul, Nat.pow_add, show 2 ^ 7 = 128 from rfl]; ac_rfl
          _ = value + n * 2 ^ shift := by rw [Nat.mod_add_div]
      rw [hsum]

/-- `preamble?` reads a number of 32 bits. -/
theorem preamble?_varint {n : Nat} (hn : n < UInt32.size) (rest : List UInt8) :
    preamble? (varint n 4 ++ rest) = some (n, rest) := by
  have hlt : n < 1 <<< (7 * (4 + 1)) := Nat.lt_trans hn (by decide)
  rw [preamble?, varint?_varint 0 rest hlt (by decide), Nat.zero_add, Nat.shiftLeft_zero]
  exact Option.filter_some_pos (by simpa using hn)

/-! ### Literals -/

/-- `literalLength?` reads a length that stands in bytes behind the tag. -/
private theorem literalLength?_wide {plain : List UInt8} {width : Nat} {tag : UInt8}
    (htag : tag.toNat = 4 * (59 + width)) (hw : 0 < width) (hlong : 60 ≤ plain.length - 1)
    (hfits : plain.length - 1 < 1 <<< (8 * width)) :
    literalLength? tag.toNat (LittleEndian.encode width (plain.length - 1) ++ plain) =
      some (plain.length, plain) := by
  have hlen := LittleEndian.length_encode width (plain.length - 1)
  have hquot : 4 * (59 + width) / 4 = 59 + width := by omega
  have hdiff : 59 + width - 59 = width := by omega
  -- four bytes are looked at, whatever the width, and there are as many
  have hfour : ¬ ((LittleEndian.encode width (plain.length - 1) ++ plain).take 4).length < 4 := by
    simp only [List.length_take, List.length_append, hlen]
    omega
  simp only [literalLength?, htag, hquot, if_neg (show ¬ 59 + width < 60 by omega), if_neg hfour,
    hdiff, List.take_left' hlen, List.drop_left' hlen, LittleEndian.decode_encode_of_lt hfits]
  rw [Nat.sub_add_cancel (by omega)]

/-- `literal` starts with a tag of its kind, from which `literalLength?` finds what follows. -/
theorem literal_eq_cons {plain : List UInt8} (hne : plain ≠ []) (hlt : plain.length < UInt32.size) :
    ∃ tag rest, literal plain = tag :: rest ∧ tag.toNat % 4 = 0 ∧
      literalLength? tag.toNat rest = some (plain.length, plain) := by
  have hpos := List.length_pos_iff.mpr hne
  simp only [literal]
  -- the length less one stands in the tag, or in one, two or four bytes behind it
  split
  · rename_i hshort
    have htag : (UInt8.ofNat (4 * (plain.length - 1))).toNat = 4 * (plain.length - 1) :=
      UInt8.toNat_ofNat_of_lt' (by simp only [UInt8.size]; omega)
    have hquot : 4 * (plain.length - 1) / 4 = plain.length - 1 := by omega
    refine ⟨_, _, rfl, by rw [htag]; omega, ?_⟩
    simp only [literalLength?, htag, hquot, if_pos hshort, Nat.sub_add_cancel hpos]
    rfl
  · rename_i hlong
    split
    · rename_i hfits
      have hbyte : LittleEndian.encode 1 (plain.length - 1) = [UInt8.ofNat (plain.length - 1)] := by
        rw [LittleEndian.encode, Nat.mod_eq_of_lt hfits]
        rfl
      have hlength : literalLength? (240 : UInt8).toNat
          (LittleEndian.encode 1 (plain.length - 1) ++ plain) = some (plain.length, plain) :=
        literalLength?_wide rfl Nat.one_pos (by omega) hfits
      rw [hbyte] at hlength
      exact ⟨240, _, rfl, rfl, hlength⟩
    · split
      · rename_i hfits
        exact ⟨244, _, rfl, rfl, literalLength?_wide (by rfl) (by decide) (by omega) hfits⟩
      · have hfits : plain.length - 1 < 1 <<< (8 * 4) := Nat.lt_of_le_of_lt (Nat.sub_le _ _) hlt
        exact ⟨252, _, rfl, rfl, literalLength?_wide (by rfl) (by decide) (by omega) hfits⟩

/-! ### Blocks -/

/-- `decode?` reads a block of one literal. -/
theorem decode?_encodeLiteral {plain : List UInt8} (hlt : plain.length < UInt32.size) :
    decode? (encodeLiteral plain) = some plain := by
  rw [encodeLiteral, decode?, preamble?_varint hlt]
  by_cases hne : plain = []
  · subst hne
    rfl
  · obtain ⟨tag, rest, heq, htag, hlength⟩ := literal_eq_cons hne hlt
    -- the literal is all of the block, so one step reads it to its end
    have hall := Slice.split?_append plain []
    rw [List.append_nil] at hall
    have helement : element? plain.length tag.toNat rest #[] =
        some ([], (#[] : Array UInt8) ++ plain) := by
      simp only [element?, htag, ↓reduceIte, hlength, hall, Option.bind_eq_bind, Option.bind_some]
      rw [if_neg (by simp)]
    rw [if_neg (by simpa using hne), heq]
    simp only [Option.bind_eq_bind, Option.bind_some, List.length_cons, elements?, helement]
    simp

/-- `decode?` reads a block that `encode` writes, with copies or as one literal. -/
theorem decode?_encode {plain : List UInt8} (hlt : plain.length < UInt32.size) :
    decode? (encode plain) = some plain := by
  simp only [encode]
  split
  · rename_i h
    exact h
  · exact decode?_encodeLiteral hlt

end DocGateway.Snappy
