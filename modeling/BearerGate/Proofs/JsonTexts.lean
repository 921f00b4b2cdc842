import BearerGate.Json.Parser
import BearerGate.Json.Printer
import BearerGate.Number.Power
import Mathlib.Data.List.Basic

/-!
JSON texts: what is printed, read again. A reader takes the first part of a text, so that what is
printed is followed here by whatever can stand behind a value. Main statement: the compact text of
a value without doubles, in which containers stand no deeper than a limit, is read as this value.
-/

set_option autoImplicit false
set_option relaxedAutoImplicit false

namespace BearerGate.Json

/-- What can stand behind a value: nothing, a comma or a closing bracket. -/
def Follows (rest : List Char) : Prop :=
  ∀ c, rest.head? = some c → c = ',' ∨ c = ']' ∨ c = '}'

/-- A text is read as a value, and what stands behind it is left. It begins at once, and not like
the end of a container. -/
structure ReadAs {α : Type} (reader : Reader α) (text : List Char) (value : α) : Prop where
  begins : ∃ c tail, text = c :: tail ∧ isGap c = false ∧ c ≠ ']' ∧ c ≠ '}'
  reads : ∀ rest, Follows rest → reader (text ++ rest) = some (value, rest)

theorem follows_nil : Follows [] := nofun

theorem follows_cons {c : Char} (ends : c = ',' ∨ c = ']' ∨ c = '}') (rest : List Char) :
    Follows (c :: rest) := by
  rintro _ ⟨⟩
  exact ends

theorem skipGap_cons {c : Char} (noGap : isGap c = false) (cs : List Char) :
    skipGap (c :: cs) = c :: cs := by
  rw [skipGap, List.dropWhile_cons, noGap, if_neg Bool.false_ne_true]

theorem ReadAs.skipGap_append {α : Type} {reader : Reader α} {text : List Char} {value : α}
    (read : ReadAs reader text value) (rest : List Char) :
    skipGap (text ++ rest) = text ++ rest := by
  obtain ⟨c, tail, rfl, noGap, _⟩ := read.begins
  exact skipGap_cons noGap _

/-! Strings. -/

theorem hexUnit?_hexChar : ∀ n < 32,
    hexUnit? '0' '0' (hexChar (n / 16)) (hexChar n) = some n := by
  decide

theorem length_escapeChar_pos (c : Char) : 0 < (escapeChar c).length := by
  unfold escapeChar
  split_ifs <;> exact Nat.succ_pos _

private def prepend (c : Char) (read : Option (List Char × List Char)) :
    Option (List Char × List Char) :=
  read.map fun r => (c :: r.1, r.2)

private theorem go_short {letter c : Char} (notU : letter ≠ 'u')
    (known : shortEscape? letter = some c) (fuel : Nat) (rest : List Char) :
    readString.go (fuel + 1) ('\\' :: letter :: rest) = prepend c (readString.go fuel rest) := by
  rw [readString.go, known, prepend]
  · cases readString.go fuel rest <;> rfl
  · intro _ _ _ _ _ isU
    exact absurd isU notU

private theorem go_control {c : Char} (control : c.toNat < 0x20) (fuel : Nat) (rest : List Char) :
    readString.go (fuel + 1)
        ('\\' :: 'u' :: '0' :: '0' :: hexChar (c.toNat / 16) :: hexChar c.toNat :: rest) =
      prepend c (readString.go fuel rest) := by
  rw [readString.go, hexUnit?_hexChar _ control]
  change (if _ then _ else if _ then _ else _) = _
  rw [if_neg (by omega), if_neg (by omega), Char.ofNat_toNat]
  cases readString.go fuel rest <;> rfl

private theorem go_plain {c : Char} (notQuote : c ≠ '"') (notBackslash : c ≠ '\\')
    (notControl : ¬ c.toNat < 0x20) (fuel : Nat) (rest : List Char) :
    readString.go (fuel + 1) (c :: rest) = prepend c (readString.go fuel rest) := by
  rw [readString.go, if_neg (not_or.mpr ⟨notControl, notBackslash⟩)]
  · cases readString.go fuel rest <;> rfl
  · exact notQuote
  · intro _ _ _ _ _ isBackslash
    exact absurd isBackslash notBackslash
  · intro _ _ isBackslash
    exact absurd isBackslash notBackslash

private theorem go_escapeChar (c : Char) (fuel : Nat) (rest : List Char) :
    readString.go (fuel + 1) (escapeChar c ++ rest) = prepend c (readString.go fuel rest) := by
  unfold escapeChar
  split_ifs with quote backslash backspace formFeed feed carriageReturn tab control
  · exact go_short (by decide) (by rw [quote]; rfl) fuel rest
  · exact go_short (by decide) (by rw [backslash]; rfl) fuel rest
  · exact go_short (by decide) (by rw [backspace]; rfl) fuel rest
  · exact go_short (by decide) (by rw [formFeed]; rfl) fuel rest
  · exact go_short (by decide) (by rw [feed]; rfl) fuel rest
  · exact go_short (by decide) (by rw [carriageReturn]; rfl) fuel rest
  · exact go_short (by decide) (by rw [tab]; rfl) fuel rest
  · exact go_control control fuel rest
  · exact go_plain quote backslash control fuel rest

private theorem go_escaped {fuel : Nat} {text : List Char} (enough : text.length < fuel)
    (rest : List Char) :
    readString.go fuel (text.flatMap escapeChar ++ '"' :: rest) = some (text, rest) := by
  induction text generalizing fuel with
  | nil =>
    obtain ⟨fuel, rfl⟩ := Nat.exists_eq_succ_of_ne_zero (Nat.ne_of_gt enough)
    rw [List.flatMap_nil, List.nil_append, readString.go]
  | cons c text ih =>
    obtain ⟨fuel, rfl⟩ := Nat.exists_eq_succ_of_ne_zero (Nat.ne_of_gt (Nat.zero_lt_of_lt enough))
    rw [List.flatMap_cons, List.append_assoc, go_escapeChar,
      ih (Nat.lt_of_succ_lt_succ enough)]
    rfl

private theorem length_le_escaped (text : List Char) :
    text.length ≤ (text.flatMap escapeChar).length := by
  induction text with
  | nil => exact Nat.le_refl 0
  | cons c text ih =>
    have := length_escapeChar_pos c
    rw [List.flatMap_cons, List.length_append, List.length_cons]
    omega

theorem readString_escaped (s : String) (rest : List Char) :
    readString (s.toList.flatMap escapeChar ++ '"' :: rest) = some (s, rest) := by
  have enough : s.toList.length < (s.toList.flatMap escapeChar ++ '"' :: rest).length := by
    have := length_le_escaped s.toList
    rw [List.length_append, List.length_cons]
    omega
  rw [readString, go_escaped enough, Option.map_some, String.ofList_toList]

theorem printString_append (s : String) (rest : List Char) :
    printString s ++ rest = '"' :: (s.toList.flatMap escapeChar ++ '"' :: rest) := by
  rw [printString, List.append_assoc, List.cons_append]
  rfl

/-! Numbers. -/

theorem le_ofDigitChars (cs : List Char) (n : Nat) : n ≤ Nat.ofDigitChars 10 cs n := by
  induction cs generalizing n with
  | nil => exact Nat.le_refl n
  | cons c cs ih =>
    rw [Nat.ofDigitChars_cons]
    exact Nat.le_trans (by omega) (ih _)

theorem appendDigits_of_lt {cs : List Char} {n : Nat} (small : Nat.ofDigitChars 10 cs n < 2 ^ 64) :
    appendDigits n cs = (Nat.ofDigitChars 10 cs n, cs.length) := by
  induction cs generalizing n with
  | nil => rfl
  | cons c cs ih =>
    have next : 10 * n + (c.toNat - '0'.toNat) = n * 10 + digitValue c := by
      rw [digitValue, Nat.mul_comm]
    rw [Nat.ofDigitChars_cons, next] at small ⊢
    have bound := le_ofDigitChars cs (n * 10 + digitValue c)
    simp only [appendDigits, if_pos (Nat.lt_of_le_of_lt bound small), ih small, List.length_cons]

theorem appendDigits_printNat {n : Nat} (small : n < 2 ^ 64) :
    appendDigits 0 (printNat n) = (n, (printNat n).length) := by
  have value : Nat.ofDigitChars 10 (printNat n) 0 = n := Nat.ofDigitChars_ten_toDigits
  rw [appendDigits_of_lt (by rwa [value]), value]

theorem isDigit_of_mem_printNat {n : Nat} {c : Char} (member : c ∈ printNat n) :
    c.isDigit = true :=
  Nat.isDigit_of_mem_toDigits (by decide) (by decide) member

theorem noDigit_of_follows {rest : List Char} (follows : Follows rest) {c : Char}
    (first : rest.head? = some c) : c.isDigit = false := by
  rcases follows c first with rfl | rfl | rfl <;> decide

theorem spanDigits_printNat (n : Nat) {rest : List Char} (follows : Follows rest) :
    spanDigits (printNat n ++ rest) = (printNat n, rest) := by
  have digits : ∀ c ∈ printNat n, c.isDigit = true := fun c => isDigit_of_mem_printNat
  rw [spanDigits, List.takeWhile_append_of_pos digits, List.dropWhile_append_of_pos digits]
  cases rest with
  | nil => rw [List.takeWhile_nil, List.dropWhile_nil, List.append_nil]
  | cons c rest =>
    have noDigit : ¬ c.isDigit = true := Bool.eq_false_iff.mp (noDigit_of_follows follows rfl)
    rw [List.takeWhile_cons_of_neg noDigit, List.dropWhile_cons_of_neg noDigit, List.append_nil]

theorem head_printNat {n : Nat} (positive : 0 < n) :
    ∃ c tail, printNat n = c :: tail ∧ c ≠ '0' := by
  induction n using Nat.strongRecOn with
  | ind n ih =>
    rw [printNat, Nat.toDigits_eq_if (by decide)]
    split
    · exact ⟨_, [], rfl, mt Nat.digitChar_eq_zero.mp (Nat.ne_of_gt positive)⟩
    · obtain ⟨c, tail, digits, notZero⟩ := ih (n / 10) (by omega) (by omega)
      rw [printNat] at digits
      exact ⟨c, _, by rw [digits, List.cons_append], notZero⟩

theorem readWhole_printNat (n : Nat) {rest : List Char} (follows : Follows rest) :
    readWhole (printNat n ++ rest) = some (printNat n, rest) := by
  rcases Nat.eq_zero_or_pos n with rfl | positive
  · rw [printNat, Nat.toDigits_zero]
    rfl
  · obtain ⟨c, tail, digits, notZero⟩ := head_printNat positive
    have span := spanDigits_printNat n follows
    rw [digits, List.cons_append] at span ⊢
    rw [readWhole, span]
    intro rest' starts
    exact notZero (List.cons.inj starts).1

theorem readFraction_of_follows {rest : List Char} (follows : Follows rest) :
    readFraction rest = some (none, rest) := by
  cases rest with
  | nil => rfl
  | cons c rest => rcases follows c rfl with rfl | rfl | rfl <;> rfl

theorem readExponent_of_follows {rest : List Char} (follows : Follows rest) :
    readExponent rest = some (none, rest) := by
  cases rest with
  | nil => rfl
  | cons c rest => rcases follows c rfl with rfl | rfl | rfl <;> rfl

theorem ofInt?_value (n : WordInt) : WordInt.ofInt? n.value = some n := by
  rw [WordInt.ofInt?, dif_pos ⟨n.lower, n.upper⟩]

theorem numberOfParts_printNat {negative : Bool} {m : Nat} {n : WordInt} (small : m < 2 ^ 64)
    (notMinusZero : negative = true → m ≠ 0)
    (value : n.value = if negative then -(m : Int) else m) :
    numberOfParts negative (printNat m) none none = some (.int n) := by
  have plain : (negative && m == 0) = false := by
    rw [Bool.and_eq_false_imp]
    exact fun isNegative => beq_eq_false_iff_ne.mpr (notMinusZero isNegative)
  simp only [numberOfParts, appendDigits_printNat small, bne_self_eq_false, Option.isSome_none,
    Bool.false_or, plain, Bool.false_eq_true, if_false, ← value, ofInt?_value]

theorem ne_of_isDigit {c d : Char} (digit : c.isDigit = true) (noDigit : d.isDigit = false) :
    c ≠ d := by
  rintro rfl
  rw [digit] at noDigit
  cases noDigit

theorem exists_printNat (n : Nat) : ∃ c tail, printNat n = c :: tail ∧ c.isDigit = true := by
  obtain ⟨c, tail, digits⟩ := List.exists_cons_of_ne_nil (Nat.toDigits_ne_nil : printNat n ≠ [])
  exact ⟨c, tail, digits, isDigit_of_mem_printNat (digits ▸ List.mem_cons_self)⟩

def readUnsigned (negative : Bool) : Reader Json := fun cs => do
  let (whole, cs) ← readWhole cs
  let (fraction, cs) ← readFraction cs
  let (exponent, cs) ← readExponent cs
  let number ← numberOfParts negative whole fraction exponent
  return (number, cs)

theorem readNumber_minus (cs : List Char) : readNumber ('-' :: cs) = readUnsigned true cs := rfl

theorem readNumber_of_ne {c : Char} (notMinus : c ≠ '-') (cs : List Char) :
    readNumber (c :: cs) = readUnsigned false (c :: cs) := by
  unfold readNumber
  split
  rename_i sign
  split at sign
  · rename_i tail signed
    exact absurd (List.cons.inj signed).1 notMinus
  · cases sign
    rfl

theorem readUnsigned_printNat {negative : Bool} {m : Nat} {n : WordInt} (small : m < 2 ^ 64)
    (notMinusZero : negative = true → m ≠ 0)
    (value : n.value = if negative then -(m : Int) else m) {rest : List Char}
    (follows : Follows rest) :
    readUnsigned negative (printNat m ++ rest) = some (.int n, rest) := by
  simp only [readUnsigned, readWhole_printNat m follows, readFraction_of_follows follows,
    readExponent_of_follows follows, numberOfParts_printNat small notMinusZero value,
    Option.bind_eq_bind, Option.bind_some]
  rfl

theorem readNumber_printInt (n : WordInt) {rest : List Char} (follows : Follows rest) :
    readNumber (printInt n.value ++ rest) = some (.int n, rest) := by
  have upper := n.upper
  have lower := n.lower
  have small : n.value.natAbs < 2 ^ 64 := by omega
  rw [printInt]
  by_cases negative : n.value < 0
  · have value : n.value = if true then -(n.value.natAbs : Int) else n.value.natAbs := by
      rw [if_pos rfl]
      omega
    rw [if_pos negative, List.cons_append, readNumber_minus]
    exact readUnsigned_printNat small (fun _ => by omega) value follows
  · have value : n.value = if false then -(n.value.natAbs : Int) else n.value.natAbs := by
      rw [if_neg Bool.false_ne_true]
      omega
    have unsigned := readUnsigned_printNat small (absurd · Bool.false_ne_true) value follows
    obtain ⟨c, digits, isNumber, digit⟩ := exists_printNat n.value.natAbs
    have notMinus : c ≠ '-' := ne_of_isDigit digit (by decide)
    rw [isNumber, List.cons_append] at unsigned
    rw [if_neg negative, isNumber, List.cons_append, readNumber_of_ne notMinus, unsigned]

theorem exists_printInt (n : Int) :
    ∃ c tail, printInt n = c :: tail ∧ (c = '-' ∨ c.isDigit = true) := by
  unfold printInt
  split
  · exact ⟨_, _, rfl, .inl rfl⟩
  · obtain ⟨c, tail, digits, digit⟩ := exists_printNat n.natAbs
    exact ⟨c, tail, digits, .inr digit⟩

/-! Containers. -/

section

variable {α : Type} {element : Reader α} {write : α → List Char} {closing : Char}

/-- What writes an element after another one, and the closing bracket after the last one, puts
commas between the elements. -/
theorem append_further {further : List α → List Char} (last : further [] = [closing])
    (next : ∀ x more, further (x :: more) = ',' :: (write x ++ further more)) (x : α)
    (more : List α) :
    write x ++ further more = [','].intercalate ((x :: more).map write) ++ [closing] := by
  induction more generalizing x with
  | nil => rw [last, List.map_singleton, List.intercalate_singleton]
  | cons y more ih =>
    rw [next, ih, List.map_cons, List.map_cons, List.map_cons, List.intercalate_cons_cons,
      List.append_assoc, List.append_assoc, List.singleton_append]

theorem readElements_written (closes : closing = ']' ∨ closing = '}') {x : α} {more : List α}
    (read : ∀ y ∈ x :: more, ReadAs element (write y) y) {fuel : Nat} (enough : more.length < fuel)
    (rest : List Char) :
    readElements element closing fuel
        ([','].intercalate ((x :: more).map write) ++ closing :: rest) =
      some (x :: more, rest) := by
  have notGap : isGap closing = false := by rcases closes with rfl | rfl <;> decide
  have notComma : closing ≠ ',' := by rcases closes with rfl | rfl <;> decide
  induction more generalizing x fuel with
  | nil =>
    obtain ⟨fuel, rfl⟩ := Nat.exists_eq_succ_of_ne_zero (Nat.ne_of_gt enough)
    have here := read x List.mem_cons_self
    rw [List.map_singleton, List.intercalate_singleton, readElements, here.skipGap_append,
      here.reads _ (follows_cons (.inr closes) rest)]
    simp only [Option.bind_eq_bind, Option.bind_some, skipGap_cons notGap, if_neg notComma, if_true]
  | cons y more ih =>
    obtain ⟨fuel, rfl⟩ := Nat.exists_eq_succ_of_ne_zero (Nat.ne_of_gt (Nat.zero_lt_of_lt enough))
    obtain ⟨here, later⟩ := List.forall_mem_cons.mp read
    have others := ih later (Nat.lt_of_succ_lt_succ enough)
    have noGap : isGap ',' = false := by decide
    rw [List.map_cons, List.map_cons, List.intercalate_cons_cons, ← List.map_cons,
      List.append_assoc, List.append_assoc, List.singleton_append, readElements,
      here.skipGap_append, here.reads _ (follows_cons (.inl rfl) _)]
    simp only [Option.bind_eq_bind, Option.bind_some, skipGap_cons noGap, if_true, others]
    rfl

theorem exists_intercalate_cons (text : List Char) (texts : List (List Char)) :
    ∃ tail, [','].intercalate (text :: texts) = text ++ tail := by
  cases texts with
  | nil => exact ⟨[], by rw [List.intercalate_singleton, List.append_nil]⟩
  | cons next texts => exact ⟨_, by rw [List.intercalate_cons_cons, List.append_assoc]⟩

theorem length_le_intercalate {texts : List (List Char)} (nonempty : ∀ text ∈ texts, text ≠ []) :
    texts.length ≤ ([','].intercalate texts).length := by
  induction texts with
  | nil => exact Nat.le_refl 0
  | cons text texts ih =>
    obtain ⟨here, later⟩ := List.forall_mem_cons.mp nonempty
    have positive := List.length_pos_of_ne_nil here
    cases texts with
    | nil =>
      rw [List.intercalate_singleton]
      exact positive
    | cons next texts =>
      have others := ih later
      rw [List.intercalate_cons_cons, List.length_append, List.length_append,
        List.length_singleton, List.length_cons]
      omega

theorem readContainer_written (closes : closing = ']' ∨ closing = '}') {xs : List α}
    (read : ∀ y ∈ xs, ReadAs element (write y) y) (rest : List Char) :
    readContainer element closing ([','].intercalate (xs.map write) ++ closing :: rest) =
      some (xs, rest) := by
  cases xs with
  | nil =>
    have notGap : isGap closing = false := by rcases closes with rfl | rfl <;> decide
    rw [List.map_nil, List.intercalate_nil, List.nil_append]
    simp only [readContainer, skipGap_cons notGap, if_true]
  | cons x more =>
    have nonempty : ∀ text ∈ (x :: more).map write, text ≠ [] := by
      intro text member
      obtain ⟨y, isElement, rfl⟩ := List.mem_map.mp member
      obtain ⟨c, tail, written, _⟩ := (read y isElement).begins
      rw [written]
      exact List.cons_ne_nil c tail
    -- The fuel is the length of the text, and no element is written as nothing.
    have size := length_le_intercalate nonempty
    have elements (fuel : Nat) (enough : more.length < fuel) :=
      readElements_written closes read enough rest
    obtain ⟨c, tail, written, notGap, notBracket, notBrace⟩ :=
      (read x List.mem_cons_self).begins
    obtain ⟨others, text⟩ := exists_intercalate_cons (write x) (more.map write)
    rw [List.map_cons, text, written] at size elements ⊢
    have notClosing : c ≠ closing := by
      rcases closes with rfl | rfl
      · exact notBracket
      · exact notBrace
    simp only [List.cons_append, List.length_cons, List.length_map] at size elements ⊢
    simp only [readContainer, skipGap_cons notGap, if_neg notClosing]
    apply elements
    rw [List.length_append, List.length_cons]
    omega

end

/-! Values. -/

/-- Values without doubles in which containers stand at most `depth` deep in each other. -/
inductive Within : Nat → Json → Prop
  | null (depth : Nat) : Within depth .null
  | bool (depth : Nat) (b : Bool) : Within depth (.bool b)
  | int (depth : Nat) (n : WordInt) : Within depth (.int n)
  | string (depth : Nat) (s : String) : Within depth (.string s)
  | array {depth : Nat} {items : List Json} (each : ∀ item ∈ items, Within depth item) :
    Within (depth + 1) (.array items)
  | object {depth : Nat} {members : List (String × Json)}
    (each : ∀ m ∈ members, Within depth m.2) : Within (depth + 1) (.object members)

def printMember (m : String × Json) : List Char := printString m.1 ++ ':' :: print m.2

theorem print_array (items : List Json) :
    print (.array items) = '[' :: ([','].intercalate (items.map print) ++ [']']) := by
  have further (item : Json) (rest : List Json) :
      printItems (item :: rest) = ',' :: (print item ++ printItems rest) := by
    rw [printItems, List.cons_append]
  cases items with
  | nil => rfl
  | cons item rest => rw [print, List.cons_append, append_further (by rw [printItems]) further]

theorem print_object (members : List (String × Json)) :
    print (.object members) = '{' :: ([','].intercalate (members.map printMember) ++ ['}']) := by
  have further (m : String × Json) (rest : List (String × Json)) :
      printMembers (m :: rest) = ',' :: (printMember m ++ printMembers rest) := by
    rw [printMembers, printMember, List.cons_append, List.cons_append]
  cases members with
  | nil => rfl
  | cons m rest =>
    rw [← append_further (by rw [printMembers]) further, print, printMember, List.cons_append,
      List.cons_append]

theorem readAs_member {value : Reader Json} {m : String × Json}
    (read : ReadAs value (print m.2) m.2) : ReadAs (readMember value) (printMember m) m where
  begins := ⟨'"', _, rfl, by decide, by decide, by decide⟩
  reads rest follows := by
    have colon : isGap ':' = false := by decide
    rw [printMember, List.append_assoc, printString_append, List.cons_append, readMember,
      readString_escaped]
    simp only [Option.bind_eq_bind, Option.bind_some, skipGap_cons colon, read.skipGap_append,
      read.reads rest follows]
    rfl

theorem readValue_scalar {c : Char} (notBracket : c ≠ '[') (notBrace : c ≠ '{') (depth : Nat)
    (cs : List Char) : readValue depth (c :: cs) = readScalar (c :: cs) := by
  cases depth with
  | zero | succ =>
    rw [readValue]
    · exact fun _ starts => notBracket (List.cons.inj starts).1
    · exact fun _ starts => notBrace (List.cons.inj starts).1

theorem ne_of_sign_or_digit {c d : Char} (number : c = '-' ∨ c.isDigit = true)
    (notSign : d ≠ '-') (noDigit : d.isDigit = false) : c ≠ d := by
  rcases number with rfl | digit
  · exact notSign.symm
  · exact ne_of_isDigit digit noDigit

theorem isGap_of_sign_or_digit {c : Char} (number : c = '-' ∨ c.isDigit = true) :
    isGap c = false := by
  have ne {d : Char} := ne_of_sign_or_digit (d := d) number
  rw [isGap, beq_eq_false_iff_ne.mpr (ne (by decide) (by decide)),
    beq_eq_false_iff_ne.mpr (ne (by decide) (by decide)),
    beq_eq_false_iff_ne.mpr (ne (by decide) (by decide)),
    beq_eq_false_iff_ne.mpr (ne (by decide) (by decide))]
  rfl

theorem readValue_number {c : Char} (number : c = '-' ∨ c.isDigit = true) (depth : Nat)
    (cs : List Char) : readValue depth (c :: cs) = readNumber (c :: cs) := by
  have other {d : Char} {rest : List Char} (notSign : d ≠ '-') (noDigit : d.isDigit = false)
      (starts : c :: cs = d :: rest) : False :=
    ne_of_sign_or_digit number notSign noDigit (List.cons.inj starts).1
  rw [readValue_scalar (ne_of_sign_or_digit number (by decide) (by decide))
    (ne_of_sign_or_digit number (by decide) (by decide)), readScalar]
  all_goals exact fun _ => other (by decide) (by decide)

theorem readAs_int (depth : Nat) (n : WordInt) :
    ReadAs (readValue depth) (print (.int n)) (.int n) := by
  obtain ⟨c, tail, text, number⟩ := exists_printInt n.value
  refine ⟨⟨c, tail, by rw [print, text], isGap_of_sign_or_digit number,
    ne_of_sign_or_digit number (by decide) (by decide),
    ne_of_sign_or_digit number (by decide) (by decide)⟩, fun rest follows => ?_⟩
  have read := readNumber_printInt n follows
  rw [text, List.cons_append] at read
  rw [print, text, List.cons_append, readValue_number number, read]

/-- The compact text of a value is read as this value. -/
theorem readAs_print {depth : Nat} {value : Json} (within : Within depth value) :
    ReadAs (readValue depth) (print value) value := by
  -- By induction on the depth left: a container hands one level less to the reader of its content.
  induction within with
  | null depth =>
    refine ⟨⟨'n', _, rfl, by decide, by decide, by decide⟩, fun rest _ => ?_⟩
    exact readValue_scalar (by decide) (by decide) depth _
  | bool depth b =>
    cases b with
    | false =>
      refine ⟨⟨'f', _, rfl, by decide, by decide, by decide⟩, fun rest _ => ?_⟩
      exact readValue_scalar (by decide) (by decide) depth _
    | true =>
      refine ⟨⟨'t', _, rfl, by decide, by decide, by decide⟩, fun rest _ => ?_⟩
      exact readValue_scalar (by decide) (by decide) depth _
  | int depth n => exact readAs_int depth n
  | string depth s =>
    refine ⟨⟨'"', _, rfl, by decide, by decide, by decide⟩, fun rest _ => ?_⟩
    rw [print, printString_append, readValue_scalar (by decide) (by decide), readScalar,
      readString_escaped, Option.map_some]
  | array each ih =>
    refine ⟨⟨'[', _, print_array _, by decide, by decide, by decide⟩, fun rest _ => ?_⟩
    rw [print_array, List.cons_append, List.append_assoc, List.singleton_append, readValue,
      readContainer_written (.inl rfl) ih, Option.map_some]
  | object each ih =>
    refine ⟨⟨'{', _, print_object _, by decide, by decide, by decide⟩, fun rest _ => ?_⟩
    have members := readContainer_written (.inr rfl) fun m member => readAs_member (ih m member)
    rw [print_object, List.cons_append, List.append_assoc, List.singleton_append, readValue,
      members, Option.map_some]

theorem parseAsWritten_print {depth : Nat} {value : Json} (within : Within depth value) :
    parseAsWritten depth (print value) = some value := by
  have read := readAs_print within
  have start := read.skipGap_append []
  have whole := read.reads [] follows_nil
  rw [List.append_nil] at start whole
  rw [parseAsWritten, start, whole]
  rfl

/-- The compact text of a value is a JSON text of this value, its members brought into order. -/
theorem parse?_compact {value : Json} (within : Within depthLimit value) :
    parse? (compact value) = some value.ordered := by
  rw [parse?, compact, String.toList_ofList, parseAsWritten_print within, Option.map_some]

end BearerGate.Json
