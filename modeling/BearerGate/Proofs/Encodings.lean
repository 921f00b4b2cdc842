import BearerGate.Number.Power
import BearerGate.Text.Base64
import BearerGate.Text.Utf8
import Mathlib.Data.List.Basic

/-!
Written forms: reading bytes as a text and digits as bytes, against writing them. Main statements:
bytes are read as a text exactly if they are its UTF-8, and digits as bytes exactly if they are the
base64 of these, so each text and each byte list has one written form.
-/

set_option autoImplicit false
set_option relaxedAutoImplicit false

namespace BearerGate.Text

/-- Reading all elements of a list gives the elements that each of them gives. -/
theorem mapM_eq_some_iff {α β : Type} {read : α → Option β} {xs : List α} {ys : List β} :
    xs.mapM read = some ys ↔ xs.map read = ys.map some := by
  induction xs generalizing ys with
  | nil => cases ys <;> simp
  | cons x xs ih =>
    rw [List.mapM_cons, List.map_cons]
    cases read x with
    | none => cases ys <;> simp
    | some y =>
      cases ys with
      | nil => cases xs.mapM read <;> simp
      | cons y' ys =>
        rw [List.map_cons, List.cons.injEq, ← ih]
        cases xs.mapM read <;> simp

/-- If reading undoes writing and nothing else is read, all elements are read from what is written of
each. -/
theorem mapM_eq_some_iff_eq_map {α β : Type} {read : α → Option β} {write : β → α}
    (reads : ∀ x y, read x = some y ↔ x = write y) {xs : List α} {ys : List β} :
    xs.mapM read = some ys ↔ xs = ys.map write := by
  rw [mapM_eq_some_iff]
  induction xs generalizing ys with
  | nil => cases ys <;> simp
  | cons x xs ih =>
    cases ys with
    | nil => simp
    | cons y ys =>
      rw [List.map_cons, List.map_cons, List.map_cons, List.cons.injEq, List.cons.injEq, reads, ih]

private theorem eq_byte {b : UInt8} {n : Nat} (same : b.toNat = n) : UInt8.ofNat n = b := by
  rw [← same, UInt8.ofNat_toNat]

private theorem toNat_byte {n : Nat} (small : n < 256) : (UInt8.ofNat n).toNat = n := by
  rw [UInt8.toNat_ofNat']
  omega

namespace Utf8

/-- How many bytes follow a first byte, and between which bounds the second byte lies. -/
inductive Opens : Nat → Nat → Nat → Nat → Prop
  | two {b : Nat} (lower : 0xC2 ≤ b) (upper : b < 0xE0) : Opens b 1 0x80 0xBF
  | three {b low high : Nat} (lower : 0xE0 ≤ b) (upper : b < 0xF0)
    (shortest : low = if b = 0xE0 then 0xA0 else 0x80)
    (noSurrogate : high = if b = 0xED then 0x9F else 0xBF) : Opens b 2 low high
  | four {b low high : Nat} (lower : 0xF0 ≤ b) (upper : b < 0xF5)
    (shortest : low = if b = 0xF0 then 0x90 else 0x80)
    (inRange : high = if b = 0xF4 then 0x8F else 0xBF) : Opens b 3 low high

theorem leading_eq_some_iff {b missing low high : Nat} :
    leading b = some (missing, low, high) ↔ Opens b missing low high := by
  constructor
  · intro h
    unfold leading at h
    split_ifs at h <;> simp only [Option.some.injEq, Prod.mk.injEq] at h <;>
      obtain ⟨rfl, rfl, rfl⟩ := h
    · exact .two (by omega) (by omega)
    · exact .three (by omega) (by omega) (by simp [*]) (by simp [*])
    · exact .three (by omega) (by omega) (by simp [*]) (by simp [*])
    · exact .three (by omega) (by omega) (by simp [*]) (by simp [*])
    · exact .four (by omega) (by omega) (by simp [*]) (by simp [*])
    · exact .four (by omega) (by omega) (by simp [*]) (by rw [if_neg (by omega)])
    · exact .four (by omega) (by omega) (by simp [*]) (by simp [*])
  · rintro (⟨lower, upper⟩ | ⟨lower, upper, shortest, noSurrogate⟩ |
      ⟨lower, upper, shortest, inRange⟩)
    · rw [leading, if_neg (by omega), if_pos upper]
    · rw [leading, if_neg (by omega), if_neg (by omega)]
      subst shortest noSurrogate
      split_ifs <;> first | rfl | omega
    · rw [leading, if_neg (by omega), if_neg (by omega)]
      subst shortest inRange
      split_ifs <;> first | rfl | omega

theorem further_cons {missing low high bits : Nat} {b : UInt8} {rest : List UInt8}
    (lower : low ≤ b.toNat) (upper : b.toNat ≤ high) :
    further (missing + 1) low high bits (b :: rest) =
      ((further missing 0x80 0xBF (bits * 64 + b.toNat % 64) rest).1,
        (further missing 0x80 0xBF (bits * 64 + b.toNat % 64) rest).2 + 1) := by
  rw [further, if_pos ⟨lower, upper⟩]

theorem exists_of_further_eq_some {missing low high bits value : Nat} {rest : List UInt8}
    (read : (further (missing + 1) low high bits rest).1 = some value) :
    ∃ b tail, rest = b :: tail ∧ low ≤ b.toNat ∧ b.toNat ≤ high ∧
      (further missing 0x80 0xBF (bits * 64 + b.toNat % 64) tail).1 = some value ∧
      (further (missing + 1) low high bits rest).2 =
        (further missing 0x80 0xBF (bits * 64 + b.toNat % 64) tail).2 + 1 := by
  cases rest with
  | nil => cases read
  | cons b tail =>
    by_cases fits : low ≤ b.toNat ∧ b.toNat ≤ high
    · rw [further_cons fits.1 fits.2] at read ⊢
      exact ⟨b, tail, rfl, fits.1, fits.2, read, rfl⟩
    · rw [further, if_neg fits] at read
      cases read

theorem first_of_opens {b : UInt8} {rest : List UInt8} {missing low high : Nat}
    (opens : Opens b.toNat missing low high) :
    first b rest =
      ((further missing low high (b.toNat % (1 <<< (6 - missing))) rest).1.map Char.ofNat,
        (further missing low high (b.toNat % (1 <<< (6 - missing))) rest).2) := by
  have notShort : ¬ b.toNat < 0x80 := by cases opens <;> omega
  rw [first, if_neg notShort, leading_eq_some_iff.mpr opens]

section

variable {c : Char}

theorem encodeChar_one (short : c.toNat < 0x80) : encodeChar c = [UInt8.ofNat c.toNat] :=
  if_pos short

theorem encodeChar_two (lower : 0x80 ≤ c.toNat) (upper : c.toNat < 0x800) :
    encodeChar c = [UInt8.ofNat (0xC0 + c.toNat / 64), UInt8.ofNat (0x80 + c.toNat % 64)] := by
  unfold encodeChar
  rw [if_neg (by omega), if_pos upper]
  rfl

theorem encodeChar_three (lower : 0x800 ≤ c.toNat) (upper : c.toNat < 0x10000) :
    encodeChar c = [UInt8.ofNat (0xE0 + c.toNat / 4096), UInt8.ofNat (0x80 + c.toNat / 64 % 64),
      UInt8.ofNat (0x80 + c.toNat % 64)] := by
  unfold encodeChar
  rw [if_neg (by omega), if_neg (by omega), if_pos upper]
  rfl

theorem encodeChar_four (lower : 0x10000 ≤ c.toNat) :
    encodeChar c = [UInt8.ofNat (0xF0 + c.toNat / 262144),
      UInt8.ofNat (0x80 + c.toNat / 4096 % 64), UInt8.ofNat (0x80 + c.toNat / 64 % 64),
      UInt8.ofNat (0x80 + c.toNat % 64)] := by
  unfold encodeChar
  rw [if_neg (by omega), if_neg (by omega), if_neg (by omega)]
  rfl

end

theorem encode_of_ascii {cs : List Char} (ascii : ∀ c ∈ cs, c.toNat < 0x80) :
    encode cs = cs.map fun c => UInt8.ofNat c.toNat := by
  induction cs with
  | nil => rfl
  | cons c cs ih =>
    obtain ⟨here, rest⟩ := List.forall_mem_cons.mp ascii
    rw [encode, List.flatMap_cons, encodeChar_one here, List.map_cons]
    exact congrArg (UInt8.ofNat c.toNat :: ·) (ih rest)

private theorem isScalar (c : Char) : c.toNat < 0xD800 ∨ 0xDFFF < c.toNat ∧ c.toNat < 0x110000 :=
  c.valid

/-- The first character of what encodes it, whatever follows. -/
theorem first_encodeChar (c : Char) : ∃ b more, encodeChar c = b :: more ∧
    ∀ rest, first b (more ++ rest) = (some c, more.length) := by
  have scalar := isScalar c
  by_cases one : c.toNat < 0x80
  · refine ⟨_, _, encodeChar_one one, fun rest => ?_⟩
    rw [first, toNat_byte (by omega), if_pos one, Char.ofNat_toNat]
    rfl
  by_cases two : c.toNat < 0x800
  · refine ⟨_, _, encodeChar_two (by omega) two, fun rest => ?_⟩
    have lead := toNat_byte (n := 0xC0 + c.toNat / 64) (by omega)
    have last := toNat_byte (n := 0x80 + c.toNat % 64) (by omega)
    have opens : Opens (UInt8.ofNat (0xC0 + c.toNat / 64)).toNat 1 0x80 0xBF :=
      .two (by omega) (by omega)
    have value : (0xC0 + c.toNat / 64) % 32 * 64 + (0x80 + c.toNat % 64) % 64 = c.toNat := by
      omega
    rw [first_of_opens opens, List.cons_append, further_cons (by omega) (by omega), lead, last]
    change (some (Char.ofNat ((0xC0 + c.toNat / 64) % 32 * 64 + _)), _) = _
    rw [value, Char.ofNat_toNat]
    rfl
  by_cases three : c.toNat < 0x10000
  · refine ⟨_, _, encodeChar_three (by omega) three, fun rest => ?_⟩
    have lead := toNat_byte (n := 0xE0 + c.toNat / 4096) (by omega)
    have mid := toNat_byte (n := 0x80 + c.toNat / 64 % 64) (by omega)
    have last := toNat_byte (n := 0x80 + c.toNat % 64) (by omega)
    have opens := Opens.three (b := (UInt8.ofNat (0xE0 + c.toNat / 4096)).toNat)
      (by omega) (by omega) rfl rfl
    have value : ((0xE0 + c.toNat / 4096) % 16 * 64 + (0x80 + c.toNat / 64 % 64) % 64) * 64 +
        (0x80 + c.toNat % 64) % 64 = c.toNat := by
      omega
    rw [first_of_opens opens, List.cons_append,
      further_cons (by split <;> omega) (by split <;> omega), List.cons_append,
      further_cons (by omega) (by omega), lead, mid, last]
    change (some (Char.ofNat (((0xE0 + c.toNat / 4096) % 16 * 64 + _) * 64 + _)), _) = _
    rw [value, Char.ofNat_toNat]
    rfl
  · refine ⟨_, _, encodeChar_four (by omega), fun rest => ?_⟩
    have lead := toNat_byte (n := 0xF0 + c.toNat / 262144) (by omega)
    have upper := toNat_byte (n := 0x80 + c.toNat / 4096 % 64) (by omega)
    have mid := toNat_byte (n := 0x80 + c.toNat / 64 % 64) (by omega)
    have last := toNat_byte (n := 0x80 + c.toNat % 64) (by omega)
    have opens := Opens.four (b := (UInt8.ofNat (0xF0 + c.toNat / 262144)).toNat)
      (by omega) (by omega) rfl rfl
    have value : (((0xF0 + c.toNat / 262144) % 8 * 64 + (0x80 + c.toNat / 4096 % 64) % 64) * 64 +
        (0x80 + c.toNat / 64 % 64) % 64) * 64 + (0x80 + c.toNat % 64) % 64 = c.toNat := by
      omega
    rw [first_of_opens opens, List.cons_append,
      further_cons (by split <;> omega) (by split <;> omega), List.cons_append,
      further_cons (by omega) (by omega), List.cons_append,
      further_cons (by omega) (by omega), lead, upper, mid, last]
    change (some (Char.ofNat ((((0xF0 + c.toNat / 262144) % 8 * 64 + _) * 64 + _) * 64 + _)), _) = _
    rw [value, Char.ofNat_toNat]
    rfl

private theorem toNat_ofNat_char {n : Nat} (scalar : n < 0xD800 ∨ 0xDFFF < n ∧ n < 0x110000) :
    (Char.ofNat n).toNat = n := by
  have valid : n.isValidChar := scalar
  rw [Char.ofNat, dif_pos valid]
  rfl

theorem encodeChar_of_first {b : UInt8} {rest : List UInt8} {c : Char}
    (read : (first b rest).1 = some c) : encodeChar c = b :: rest.take (first b rest).2 := by
  by_cases one : b.toNat < 0x80
  · rw [first, if_pos one] at read ⊢
    obtain rfl := Option.some.inj read
    have same := toNat_ofNat_char (n := b.toNat) (by omega)
    rw [encodeChar_one (by omega), same, UInt8.ofNat_toNat]
    rfl
  cases opened : leading b.toNat with
  | none =>
    rw [first, if_neg one, opened] at read
    cases read
  | some bounds =>
    obtain ⟨missing, low, high⟩ := bounds
    have opens := leading_eq_some_iff.mp opened
    rw [first_of_opens opens] at read ⊢
    obtain ⟨value, found, rfl⟩ := Option.map_eq_some_iff.mp read
    dsimp only
    cases opens with
    | two lower upper =>
      obtain ⟨x, tail, rfl, xLower, xUpper, found, count⟩ := exists_of_further_eq_some found
      obtain rfl : b.toNat % 32 * 64 + x.toNat % 64 = value := Option.some.inj found
      have same := toNat_ofNat_char (n := b.toNat % 32 * 64 + x.toNat % 64) (by omega)
      rw [encodeChar_two (by omega) (by omega), same, count, eq_byte (b := b) (by omega),
        eq_byte (b := x) (by omega)]
      rfl
    | three lower upper shortest noSurrogate =>
      obtain ⟨x, tail, rfl, xLower, xUpper, found, count⟩ := exists_of_further_eq_some found
      obtain ⟨y, tail, rfl, yLower, yUpper, found, count'⟩ := exists_of_further_eq_some found
      obtain rfl : (b.toNat % 16 * 64 + x.toNat % 64) * 64 + y.toNat % 64 = value :=
        Option.some.inj found
      have bounds : 0x80 ≤ x.toNat ∧ x.toNat ≤ 0xBF ∧ (b.toNat = 0xE0 → 0xA0 ≤ x.toNat) ∧
          (b.toNat = 0xED → x.toNat ≤ 0x9F) := by
        subst shortest noSurrogate
        split_ifs at xLower xUpper <;> omega
      have same := toNat_ofNat_char
        (n := (b.toNat % 16 * 64 + x.toNat % 64) * 64 + y.toNat % 64) (by omega)
      rw [encodeChar_three (by omega) (by omega), same, count, count', eq_byte (b := b) (by omega),
        eq_byte (b := x) (by omega), eq_byte (b := y) (by omega)]
      rfl
    | four lower upper shortest inRange =>
      obtain ⟨x, tail, rfl, xLower, xUpper, found, count⟩ := exists_of_further_eq_some found
      obtain ⟨y, tail, rfl, yLower, yUpper, found, count'⟩ := exists_of_further_eq_some found
      obtain ⟨z, tail, rfl, zLower, zUpper, found, count''⟩ := exists_of_further_eq_some found
      obtain rfl : ((b.toNat % 8 * 64 + x.toNat % 64) * 64 + y.toNat % 64) * 64 + z.toNat % 64 =
        value := Option.some.inj found
      have bounds : 0x80 ≤ x.toNat ∧ x.toNat ≤ 0xBF ∧ (b.toNat = 0xF0 → 0x90 ≤ x.toNat) ∧
          (b.toNat = 0xF4 → x.toNat ≤ 0x8F) := by
        subst shortest inRange
        split_ifs at xLower xUpper <;> omega
      have same := toNat_ofNat_char
        (n := ((b.toNat % 8 * 64 + x.toNat % 64) * 64 + y.toNat % 64) * 64 + z.toNat % 64)
        (by omega)
      rw [encodeChar_four (by omega), same, count, count', count'', eq_byte (b := b) (by omega),
        eq_byte (b := x) (by omega), eq_byte (b := y) (by omega), eq_byte (b := z) (by omega)]
      rfl

theorem scan_length_append (more rest : List UInt8) :
    scan more.length (more ++ rest) = scan 0 rest := by
  induction more with
  | nil => rfl
  | cons b more ih => exact ih

theorem scan_encode (cs : List Char) : scan 0 (encode cs) = cs.map some := by
  induction cs with
  | nil => rfl
  | cons c cs ih =>
    obtain ⟨b, more, encoded, read⟩ := first_encodeChar c
    rw [encode, List.flatMap_cons, encoded, List.cons_append, scan, read, scan_length_append,
      List.map_cons]
    exact congrArg (some c :: ·) ih

theorem decodeLenient_encode (cs : List Char) : decodeLenient (encode cs) = cs := by
  rw [decodeLenient, scan_encode, List.map_map]
  exact List.map_id cs

theorem encode_of_scan {skip : Nat} {bytes : List UInt8} {cs : List Char}
    (read : scan skip bytes = cs.map some) : encode cs = bytes.drop skip := by
  -- Bytes that are passed over belong to the character before them.
  induction bytes generalizing skip cs with
  | nil =>
    obtain rfl : cs = [] := by
      cases cs with
      | nil => rfl
      | cons c cs => cases skip <;> cases read
    rw [List.drop_nil]
    rfl
  | cons b rest ih =>
    cases skip with
    | succ skip => exact ih read
    | zero =>
      cases cs with
      | nil => cases read
      | cons c cs =>
        obtain ⟨here, further⟩ := List.cons.inj read
        rw [encode, List.flatMap_cons, encodeChar_of_first here, List.cons_append]
        change b :: (_ ++ encode cs) = b :: rest
        rw [ih further, List.take_append_drop]

/-- Bytes are read strictly exactly if they are the UTF-8 of the characters. -/
theorem decode?_eq_some_iff {bytes : List UInt8} {cs : List Char} :
    decode? bytes = some cs ↔ encode cs = bytes := by
  rw [decode?, mapM_eq_some_iff, List.map_id]
  constructor
  · exact encode_of_scan
  · rintro rfl
    exact scan_encode cs

end Utf8

theorem ofUtf8?_eq_some_iff {bytes : List UInt8} {text : String} :
    ofUtf8? bytes = some text ↔ utf8 text = bytes := by
  rw [ofUtf8?, utf8, Option.map_eq_some_iff]
  constructor
  · rintro ⟨cs, read, rfl⟩
    rw [String.toList_ofList, Utf8.decode?_eq_some_iff.mp read]
  · intro encoded
    exact ⟨text.toList, Utf8.decode?_eq_some_iff.mpr encoded, String.ofList_toList⟩

theorem utf8_injective {text text' : String} (same : utf8 text = utf8 text') : text = text' := by
  have read : ofUtf8? (utf8 text') = some text := ofUtf8?_eq_some_iff.mpr same
  rw [ofUtf8?_eq_some_iff.mpr rfl] at read
  exact (Option.some.inj read).symm

namespace Base64

def Alphabet.digit (a : Alphabet) (value : Nat) : Char :=
  if value < 26 then Char.ofNat ('A'.toNat + value)
  else if value < 52 then Char.ofNat ('a'.toNat + (value - 26))
  else if value < 62 then Char.ofNat ('0'.toNat + (value - 52))
  else if value = 62 then a.digit62
  else a.digit63

def valuesOfBytes : List UInt8 → List Nat
  | [] => []
  | [x] => [x.toNat / 4, x.toNat % 4 * 16]
  | [x, y] => [x.toNat / 4, x.toNat % 4 * 16 + y.toNat / 16, y.toNat % 16 * 4]
  | x :: y :: z :: rest =>
    x.toNat / 4 :: (x.toNat % 4 * 16 + y.toNat / 16) :: (y.toNat % 16 * 4 + z.toNat / 64) ::
      z.toNat % 64 :: valuesOfBytes rest

def encodeUnpadded (a : Alphabet) (bytes : List UInt8) : List Char :=
  (valuesOfBytes bytes).map a.digit

end Base64

end BearerGate.Text
