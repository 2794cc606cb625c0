namespace WlanControl

/-!
# Words as octets

Numbers of two or four octets, as they stand in frames and in ring records.

* `littleEndian16`, `bigEndian16`, `littleEndian32` — a word as its octets;
* `word16`, `word32` — the word that octets stand for, given from the least significant one up;
* `word16At?` — the two octets at an offset of a list, if the list reaches that far.

Main statements: `word16_littleEndian16` and `word32_littleEndian32`, by which a word that was
taken apart is put together again, and `littleEndian16_word16` for the other direction.
-/

/-! ### Two octets -/

/-- The octets of a 16 bit word, least significant first. -/
def littleEndian16 (w : UInt16) : List UInt8 :=
  [UInt8.ofNat (w.toNat % 256), UInt8.ofNat (w.toNat / 256)]

/-- The octets of a 16 bit word, most significant first. -/
def bigEndian16 (w : UInt16) : List UInt8 :=
  [UInt8.ofNat (w.toNat / 256), UInt8.ofNat (w.toNat % 256)]

/-- The 16 bit word with the given low and high octet. -/
def word16 (low high : UInt8) : UInt16 :=
  UInt16.ofNat (low.toNat + 256 * high.toNat)

/-- The little endian word at `offset`, or none if the list ends before its second octet. -/
def word16At? (octets : List UInt8) (offset : Nat) : Option UInt16 :=
  match octets.drop offset with
  | low :: high :: _ => some (word16 low high)
  | _ => none

@[simp] theorem toNat_word16 (low high : UInt8) :
    (word16 low high).toNat = low.toNat + 256 * high.toNat := by
  have h₁ := low.toNat_lt
  have h₂ := high.toNat_lt
  rw [word16, UInt16.toNat_ofNat']
  omega

@[simp] theorem length_littleEndian16 (w : UInt16) : (littleEndian16 w).length = 2 := rfl

@[simp] theorem length_bigEndian16 (w : UInt16) : (bigEndian16 w).length = 2 := rfl

/-- A word is put together from its own low and high octet. -/
@[simp] theorem word16_split (w : UInt16) :
    word16 (UInt8.ofNat (w.toNat % 256)) (UInt8.ofNat (w.toNat / 256)) = w := by
  have h := w.toNat_lt
  apply UInt16.toNat_inj.mp
  rw [toNat_word16, UInt8.toNat_ofNat', UInt8.toNat_ofNat']
  omega

/-- Taking apart the word of two octets gives them back. -/
@[simp] theorem littleEndian16_word16 (low high : UInt8) :
    littleEndian16 (word16 low high) = [low, high] := by
  have h₁ := low.toNat_lt
  have h₂ := high.toNat_lt
  have low_eq : UInt8.ofNat ((word16 low high).toNat % 256) = low := by
    apply UInt8.toNat_inj.mp
    rw [toNat_word16, UInt8.toNat_ofNat']
    omega
  have high_eq : UInt8.ofNat ((word16 low high).toNat / 256) = high := by
    apply UInt8.toNat_inj.mp
    rw [toNat_word16, UInt8.toNat_ofNat']
    omega
  rw [littleEndian16, low_eq, high_eq]

/-- A word written at the start of a list is read back from there. -/
@[simp] theorem word16At?_littleEndian16 (w : UInt16) (rest : List UInt8) :
    word16At? (littleEndian16 w ++ rest) 0 = some w := by
  simp [word16At?, littleEndian16]

/-- A word is read exactly where two octets are left. -/
theorem word16At?_eq_none_iff (octets : List UInt8) (offset : Nat) :
    word16At? octets offset = none ↔ octets.length < offset + 2 := by
  have h : (octets.drop offset).length = octets.length - offset := List.length_drop
  unfold word16At?
  match hd : octets.drop offset with
  | [] => simp [hd] at h; simp; omega
  | [_] => simp [hd] at h; simp; omega
  | _ :: _ :: rest => simp [hd] at h; simp; omega

/-- Two octets stand at an offset that is not too near to the end. -/
theorem exists_drop_eq {octets : List UInt8} {offset : Nat} (h : offset + 2 ≤ octets.length) :
    ∃ low high rest, octets.drop offset = low :: high :: rest := by
  have hlength : (octets.drop offset).length = octets.length - offset := List.length_drop
  match hd : octets.drop offset with
  | [] => simp [hd] at hlength; omega
  | [_] => simp [hd] at hlength; omega
  | low :: high :: rest => exact ⟨low, high, rest, rfl⟩

theorem exists_word16At? {octets : List UInt8} {offset : Nat} (h : offset + 2 ≤ octets.length) :
    ∃ word, word16At? octets offset = some word := by
  obtain ⟨low, high, rest, hdrop⟩ := exists_drop_eq h
  unfold word16At?
  rw [hdrop]
  exact ⟨word16 low high, rfl⟩

/-- What stands behind a word does not change it. -/
theorem word16At?_append {octets : List UInt8} {offset : Nat} (h : offset + 2 ≤ octets.length)
    (rest : List UInt8) : word16At? (octets ++ rest) offset = word16At? octets offset := by
  obtain ⟨low, high, more, hdrop⟩ := exists_drop_eq h
  unfold word16At?
  rw [List.drop_append_of_le_length (by omega), hdrop]
  rfl

/-! ### Four octets -/

/-- The octets of a 32 bit word, least significant first. -/
def littleEndian32 (w : UInt32) : List UInt8 :=
  [UInt8.ofNat (w.toNat % 256), UInt8.ofNat (w.toNat / 256 % 256),
    UInt8.ofNat (w.toNat / 65536 % 256), UInt8.ofNat (w.toNat / 16777216)]

/-- The 32 bit word with the given octets, least significant first. -/
def word32 (b₀ b₁ b₂ b₃ : UInt8) : UInt32 :=
  UInt32.ofNat (b₀.toNat + 256 * b₁.toNat + 65536 * b₂.toNat + 16777216 * b₃.toNat)

@[simp] theorem length_littleEndian32 (w : UInt32) : (littleEndian32 w).length = 4 := rfl

/-- A word is put together from its own four octets. -/
@[simp] theorem word32_split (w : UInt32) :
    word32 (UInt8.ofNat (w.toNat % 256)) (UInt8.ofNat (w.toNat / 256 % 256))
      (UInt8.ofNat (w.toNat / 65536 % 256)) (UInt8.ofNat (w.toNat / 16777216)) = w := by
  have h := w.toNat_lt
  apply UInt32.toNat_inj.mp
  rw [word32, UInt32.toNat_ofNat', UInt8.toNat_ofNat', UInt8.toNat_ofNat', UInt8.toNat_ofNat',
    UInt8.toNat_ofNat']
  omega

/-! ### Hexadecimal text -/

/-- The lower case hexadecimal digit of a number below sixteen. -/
def hexDigit (n : Nat) : Char :=
  if n < 10 then Char.ofNat (48 + n) else Char.ofNat (87 + n)

/-- An octet as two lower case hexadecimal digits. -/
def hexOctet (octet : UInt8) : String :=
  String.ofList [hexDigit (octet.toNat / 16), hexDigit (octet.toNat % 16)]

/-- Octets as hexadecimal digits without anything between them. -/
def hexText (octets : List UInt8) : String := String.join (octets.map hexOctet)

end WlanControl
