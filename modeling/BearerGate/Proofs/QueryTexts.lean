import BearerGate.Http.Query
import BearerGate.Proofs.Encodings
import Mathlib.Data.List.Forall2

/-!
Queries as they are written: pieces between ampersands, each a name and perhaps a value behind an
equals sign, both of them texts with some of their bytes escaped. Main statements: the pairs of a
query are those that it writes, and a value is read if its name stands in the query once, an integer
if the value is one in decimal digits.
-/

set_option autoImplicit false
set_option relaxedAutoImplicit false

namespace BearerGate

namespace Http.Query

/-- A digit in one of its two forms, and what it counts. -/
def HexDigit (b : UInt8) (n : Nat) : Prop :=
  n < 16 ∧ (b.toNat = (Nat.digitChar n).toNat ∨ b.toNat = (Nat.digitChar n).toUpper.toNat)

def WritesByte (high low byte : UInt8) : Prop :=
  ∃ h l, HexDigit high h ∧ HexDigit low l ∧ byte.toNat = h * 16 + l

/-- The bytes that are written in a query, and those that they stand for. -/
inductive Percent : List UInt8 → List UInt8 → Prop
  | nil : Percent [] []
  | plain {b : UInt8} {written meant : List UInt8} (noEscape : b ≠ 0x25) (noPlus : b ≠ 0x2b)
    (rest : Percent written meant) : Percent (b :: written) (b :: meant)
  | blank {written meant : List UInt8} (rest : Percent written meant) :
    Percent (0x2b :: written) (0x20 :: meant)
  | escaped {high low byte : UInt8} {written meant : List UInt8}
    (digits : WritesByte high low byte) (rest : Percent written meant) :
    Percent (0x25 :: high :: low :: written) (byte :: meant)
  | stray {written meant : List UInt8}
    (noDigits : ∀ high low rest byte, written = high :: low :: rest → ¬ WritesByte high low byte)
    (rest : Percent written meant) : Percent (0x25 :: written) (0x25 :: meant)

theorem hexDigit?_eq_some_iff {b : UInt8} {n : Nat} :
    Json.hexDigit? (Char.ofNat b.toNat) = some n ↔ HexDigit b n := by
  have table : ∀ k < 256, ∀ n < 16, Json.hexDigit? (Char.ofNat k) = some n ↔
      k = (Nat.digitChar n).toNat ∨ k = (Nat.digitChar n).toUpper.toNat := by decide +kernel
  have small : ∀ k < 256, (Json.hexDigit? (Char.ofNat k)).all (· < 16) = true := by
    decide +kernel
  constructor
  · intro read
    have bounded := small b.toNat b.toNat_lt
    rw [read, Option.all_some, decide_eq_true_eq] at bounded
    exact ⟨bounded, (table b.toNat b.toNat_lt n bounded).mp read⟩
  · rintro ⟨bounded, written⟩
    exact (table b.toNat b.toNat_lt n bounded).mpr written

theorem hexByte?_eq_some_iff {high low byte : UInt8} :
    hexByte? high low = some byte ↔ WritesByte high low byte := by
  constructor
  · intro read
    obtain ⟨h, readHigh, read⟩ := Option.bind_eq_some_iff.mp read
    obtain ⟨l, readLow, same⟩ := Option.bind_eq_some_iff.mp read
    have isHigh := hexDigit?_eq_some_iff.mp readHigh
    have isLow := hexDigit?_eq_some_iff.mp readLow
    refine ⟨h, l, isHigh, isLow, ?_⟩
    have upper := isHigh.1
    have lower := isLow.1
    rw [← Option.some.inj same, UInt8.toNat_ofNat']
    omega
  · rintro ⟨h, l, isHigh, isLow, same⟩
    rw [hexByte?, hexDigit?_eq_some_iff.mpr isHigh, hexDigit?_eq_some_iff.mpr isLow]
    change some (UInt8.ofNat (h * 16 + l)) = some byte
    rw [← same, UInt8.ofNat_toNat]

theorem decodePercent_cons_of_ne {b : UInt8} (noEscape : b ≠ 0x25) (rest : List UInt8) :
    decodePercent (b :: rest) = (if b = 0x2b then 0x20 else b) :: decodePercent rest := by
  rcases rest with _ | ⟨high, _ | ⟨low, rest⟩⟩
  · rfl
  · rfl
  · rw [decodePercent, if_neg noEscape]
    split <;> rfl

theorem decodePercent_stray {written : List UInt8}
    (noDigits : ∀ high low rest byte, written = high :: low :: rest → ¬ WritesByte high low byte) :
    decodePercent (0x25 :: written) = 0x25 :: decodePercent written := by
  rcases written with _ | ⟨high, _ | ⟨low, rest⟩⟩
  · rfl
  · rfl
  · rw [decodePercent, if_pos rfl]
    cases read : hexByte? high low with
    | none => rfl
    | some byte => exact absurd (hexByte?_eq_some_iff.mp read) (noDigits high low rest byte rfl)

theorem decodePercent_eq_iff {written meant : List UInt8} :
    decodePercent written = meant ↔ Percent written meant := by
  constructor
  · rintro rfl
    fun_induction decodePercent written with
    | case1 => exact .nil
    | case2 high low rest byte read ih => exact .escaped (hexByte?_eq_some_iff.mp read) ih
    | case3 high low rest read ih =>
      refine .stray (fun high low rest byte same writes => ?_) ih
      cases same
      rw [hexByte?_eq_some_iff.mpr writes] at read
      cases read
    | case4 high low rest noEscape ih => exact .blank ih
    | case5 b high low rest noEscape noPlus ih => exact .plain noEscape noPlus ih
    | case6 b rest short ih =>
      by_cases plus : b = 0x2b
      · rw [if_pos plus, plus]
        exact .blank ih
      · rw [if_neg plus]
        by_cases escape : b = 0x25
        · subst escape
          exact .stray (fun high low rest byte same => absurd same (short high low rest)) ih
        · exact .plain escape plus ih
  · intro percent
    induction percent with
    | nil => rfl
    | plain noEscape noPlus _ ih => rw [decodePercent_cons_of_ne noEscape, if_neg noPlus, ih]
    | blank _ ih => rw [decodePercent_cons_of_ne (by decide), if_pos rfl, ih]
    | escaped digits _ ih =>
      rw [decodePercent, if_pos rfl, hexByte?_eq_some_iff.mpr digits]
      dsimp only
      rw [ih]
    | stray noDigits _ ih => rw [decodePercent_stray noDigits, ih]

/-- Characters write a text: its bytes, or bytes without a text whose faults are replaced in it. -/
inductive Spells (written : List Char) (text : String) : Prop
  | exact (meant : Percent (Text.Utf8.encode written) (Text.utf8 text))
  | replaced {bytes : List UInt8} (meant : Percent (Text.Utf8.encode written) bytes)
    (noText : ∀ text, Text.utf8 text ≠ bytes)
    (same : text = String.ofList (Text.Utf8.decodeLenient bytes))

/-- Characters write a name and a value; without an equals sign, the value is empty. -/
inductive SpellsPair : List Char → String × String → Prop
  | assigned {name value : List Char} {pair : String × String} (noMark : '=' ∉ name)
    (isName : Spells name pair.1) (isValue : Spells value pair.2) :
    SpellsPair (name ++ '=' :: value) pair
  | bare {name : List Char} {text : String} (noMark : '=' ∉ name) (isName : Spells name text) :
    SpellsPair name (text, "")

/-- A text writes pairs: each of its pieces between ampersands, unless empty, writes one of them. -/
def Writes (text : String) (q : Query) : Prop :=
  ∃ pieces : List (List Char), (∀ piece ∈ pieces, '&' ∉ piece) ∧
    text.toList = List.intercalate ['&'] pieces ∧
      List.Forall₂ SpellsPair (pieces.filter (· ≠ [])) q

theorem decode_eq_iff {written : List Char} {text : String} :
    decode written = text ↔ Spells written text := by
  constructor
  · rintro rfl
    have meant := decodePercent_eq_iff.mp (rfl : decodePercent (Text.Utf8.encode written) = _)
    by_cases isText : ∃ text, Text.utf8 text = decodePercent (Text.Utf8.encode written)
    · obtain ⟨text, encoded⟩ := isText
      have same : decode written = text := by
        rw [decode, ← encoded, Text.utf8, Text.Utf8.decodeLenient_encode, String.ofList_toList]
      rw [same]
      exact .exact (encoded ▸ meant)
    · exact .replaced meant (not_exists.mp isText) rfl
  · intro spells
    cases spells with
    | exact meant =>
      rw [decode, decodePercent_eq_iff.mpr meant, Text.utf8, Text.Utf8.decodeLenient_encode,
        String.ofList_toList]
    | replaced meant _ same => rw [decode, decodePercent_eq_iff.mpr meant, same]

theorem pair_eq_iff {written : List Char} {p : String × String} :
    pair written = p ↔ SpellsPair written p := by
  constructor
  · rintro rfl
    by_cases marked : '=' ∈ written
    · obtain ⟨name, value, rfl, absent⟩ := List.eq_append_cons_of_mem marked
      rw [pair, Text.cutAt_eq_some_iff.mpr ⟨rfl, absent⟩]
      exact .assigned absent (decode_eq_iff.mp rfl) (decode_eq_iff.mp rfl)
    · rw [pair, Text.cutAt_of_not_mem marked]
      exact .bare marked (decode_eq_iff.mp rfl)
  · intro spells
    cases spells with
    | assigned noMark isName isValue =>
      rw [pair, Text.cutAt_eq_some_iff.mpr ⟨rfl, noMark⟩]
      exact Prod.ext (decode_eq_iff.mpr isName) (decode_eq_iff.mpr isValue)
    | bare noMark isName =>
      rw [pair, Text.cutAt_of_not_mem noMark]
      exact Prod.ext (decode_eq_iff.mpr isName) rfl

theorem map_pair_eq_iff {pieces : List (List Char)} {q : Query} :
    pieces.map pair = q ↔ List.Forall₂ SpellsPair pieces q := by
  rw [← List.forall₂_eq_eq_eq, List.forall₂_map_left_iff]
  simp only [pair_eq_iff]

theorem ofText_eq_iff {text : String} {q : Query} : ofText text = q ↔ Writes text q := by
  rw [ofText, map_pair_eq_iff]
  have kept : (fun piece : List Char => !piece.isEmpty) = fun piece => decide (piece ≠ []) := by
    funext piece
    cases piece <;> rfl
  rw [kept]
  constructor
  · intro spelled
    refine ⟨Text.splitOnChar '&' text.toList, fun piece isPiece member => ?_,
      (Text.intercalate_splitOnChar '&' _).symm, spelled⟩
    exact (Text.mem_of_mem_splitOnChar isPiece member).2 rfl
  · rintro ⟨pieces, absent, whole, spelled⟩
    rw [whole]
    by_cases empty : pieces = []
    · subst empty
      exact spelled
    · rwa [Text.splitOnChar_intercalate empty absent]

/-- The value that a query gives to a name that stands in it once or not at all. -/
inductive Gives (q : Query) (name : String) : Option String → Prop
  | once {before after : Query} {value : String} (whole : q = before ++ (name, value) :: after)
    (alone : ∀ p ∈ before ++ after, p.1 ≠ name) : Gives q name (some value)
  | absent (unnamed : ∀ p ∈ q, p.1 ≠ name) : Gives q name none

/-- Decimal digits, perhaps after a sign, and the integer that they write. -/
inductive Literal : List Char → Int → Prop
  | plain {digits : List Char} (nonempty : digits ≠ []) (all : ∀ c ∈ digits, c.isDigit = true) :
    Literal digits (Nat.ofDigitChars 10 digits 0)
  | plus {digits : List Char} (nonempty : digits ≠ []) (all : ∀ c ∈ digits, c.isDigit = true) :
    Literal ('+' :: digits) (Nat.ofDigitChars 10 digits 0)
  | minus {digits : List Char} (nonempty : digits ≠ []) (all : ∀ c ∈ digits, c.isDigit = true) :
    Literal ('-' :: digits) (-Nat.ofDigitChars 10 digits 0)

inductive GivesInteger (q : Query) (name : String) : Option Int64 → Prop
  | once {value : String} {n : Int64} (given : Gives q name (some value))
    (literal : Literal value.toList n.toInt) : GivesInteger q name (some n)
  | absent (unnamed : Gives q name none) : GivesInteger q name none

theorem text?_eq_ok_iff {q : Query} {name : String} {value : Option String} :
    q.text? name = .ok value ↔ Gives q name value := by
  rw [text?]
  constructor
  · intro read
    split at read
    · rename_i none
      cases read
      refine .absent fun p member same => ?_
      exact List.filter_eq_nil_iff.mp none p member (beq_iff_eq.mpr same)
    · rename_i p one
      cases read
      obtain ⟨before, after, rfl, noneBefore, named, noneAfter⟩ := List.filter_eq_cons_iff.mp one
      obtain ⟨here, value⟩ := p
      obtain rfl := beq_iff_eq.mp named
      refine .once rfl fun p member same => ?_
      rcases List.mem_append.mp member with inBefore | inAfter
      · exact noneBefore p inBefore (beq_iff_eq.mpr same)
      · exact List.filter_eq_nil_iff.mp noneAfter p inAfter (beq_iff_eq.mpr same)
    · cases read
  · intro gives
    have unnamed {q : Query} (none : ∀ p ∈ q, p.1 ≠ name) :
        q.filter (fun p => p.1 == name) = [] :=
      List.filter_eq_nil_iff.mpr fun p member => by simpa using none p member
    cases gives with
    | once whole alone =>
      rw [List.forall_mem_append] at alone
      rw [whole, List.filter_append, unnamed alone.1, List.filter_cons, if_pos (beq_self_eq_true _),
        unnamed alone.2]
      rfl
    | absent none => rw [unnamed none]

theorem digitsValue_eq (cs : List Char) : Json.digitsValue cs = Nat.ofDigitChars 10 cs 0 := by
  rw [Json.digitsValue, Nat.ofDigitChars]
  congr
  funext n c
  rw [Nat.mul_comm, Json.digitValue]

theorem toInt_eq_iff {n : Int64} {value : Int} :
    n.toInt = value ↔ (-2 ^ 63 ≤ value ∧ value < 2 ^ 63) ∧ Int64.ofInt value = n := by
  constructor
  · rintro rfl
    exact ⟨⟨Int64.le_toInt n, Int64.toInt_lt n⟩, Int64.ofInt_toInt n⟩
  · rintro ⟨⟨lower, upper⟩, rfl⟩
    exact Int64.toInt_ofInt_of_le lower upper

theorem integerOf?_of_sign {cs digits : List Char} {negative : Bool}
    (sign : Json.readSign cs = (negative, digits)) {n : Int64} :
    integerOf? cs = some n ↔ digits ≠ [] ∧ (∀ c ∈ digits, c.isDigit = true) ∧
      n.toInt = if negative then -(Nat.ofDigitChars 10 digits 0 : Int)
        else Nat.ofDigitChars 10 digits 0 := by
  have refused : (digits.isEmpty || !digits.all Char.isDigit) = true ↔
      ¬ (digits ≠ [] ∧ ∀ c ∈ digits, c.isDigit = true) := by
    rw [Bool.or_eq_true, List.isEmpty_iff, Bool.not_eq_true', ← Bool.not_eq_true,
      List.all_eq_true, not_and_or, not_not]
  rw [integerOf?, sign, ← and_assoc]
  dsimp only
  rw [digitsValue_eq]
  by_cases isNumber : digits ≠ [] ∧ ∀ c ∈ digits, c.isDigit = true
  · rw [if_neg fun bad => refused.mp bad isNumber, and_iff_right isNumber,
      Option.ite_none_right_eq_some, Option.some.injEq, toInt_eq_iff]
  · rw [if_pos (refused.mpr isNumber)]
    exact iff_of_false nofun fun all => isNumber all.1

theorem readSign_cases (cs : List Char) :
    (∃ digits, cs = '+' :: digits ∧ Json.readSign cs = (false, digits)) ∨
      (∃ digits, cs = '-' :: digits ∧ Json.readSign cs = (true, digits)) ∨
        Json.readSign cs = (false, cs) := by
  unfold Json.readSign
  split
  · exact .inl ⟨_, rfl, rfl⟩
  · exact .inr (.inl ⟨_, rfl, rfl⟩)
  · exact .inr (.inr rfl)

theorem readSign_of_digits {digits : List Char} (all : ∀ c ∈ digits, c.isDigit = true) :
    Json.readSign digits = (false, digits) := by
  have noSign {c : Char} (member : c ∈ digits) : c ≠ '+' ∧ c ≠ '-' :=
    ⟨fun same => absurd (same ▸ all c member) (by decide),
      fun same => absurd (same ▸ all c member) (by decide)⟩
  rcases readSign_cases digits with ⟨_, rfl, _⟩ | ⟨_, rfl, _⟩ | whole
  · exact absurd rfl (noSign List.mem_cons_self).1
  · exact absurd rfl (noSign List.mem_cons_self).2
  · exact whole

theorem integerOf?_eq_some_iff {cs : List Char} {n : Int64} :
    integerOf? cs = some n ↔ Literal cs n.toInt := by
  constructor
  · intro read
    rcases readSign_cases cs with ⟨digits, rfl, sign⟩ | ⟨digits, rfl, sign⟩ | sign <;>
      obtain ⟨nonempty, all, value⟩ := (integerOf?_of_sign sign).mp read <;> rw [value]
    · exact .plus nonempty all
    · exact .minus nonempty all
    · exact .plain nonempty all
  · intro literal
    generalize value : n.toInt = i at literal
    cases literal with
    | plain nonempty all =>
      exact (integerOf?_of_sign (readSign_of_digits all)).mpr ⟨nonempty, all, value⟩
    | plus nonempty all => exact (integerOf?_of_sign rfl).mpr ⟨nonempty, all, value⟩
    | minus nonempty all => exact (integerOf?_of_sign rfl).mpr ⟨nonempty, all, value⟩

theorem integer?_eq_ok_iff {q : Query} {name : String} {value : Option Int64} :
    q.integer? name = .ok value ↔ GivesInteger q name value := by
  constructor
  · intro read
    cases given : q.text? name with
    | error e =>
      rw [integer?, given] at read
      cases read
    | ok text =>
      have gives := text?_eq_ok_iff.mp given
      simp only [integer?, given, bind, Except.bind] at read
      cases text with
      | none =>
        cases read
        exact .absent gives
      | some text =>
        dsimp only at read
        cases number : integerOf? text.toList with
        | none =>
          rw [number] at read
          cases read
        | some n =>
          rw [number] at read
          cases read
          exact .once gives (integerOf?_eq_some_iff.mp number)
  · intro gives
    cases gives with
    | once given literal =>
      simp only [integer?, text?_eq_ok_iff.mpr given, bind, Except.bind,
        integerOf?_eq_some_iff.mpr literal]
      rfl
    | absent unnamed =>
      simp only [integer?, text?_eq_ok_iff.mpr unnamed, bind, Except.bind]
      rfl

end Http.Query

end BearerGate
