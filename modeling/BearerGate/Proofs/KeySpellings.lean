import BearerGate.Key.Armor
import BearerGate.Proofs.Encodings
import Mathlib.Data.List.Forall2

/-!
Spellings of a key: the same base64 text cut into lines in one way or another, with its plus signs
or with spaces in their places, bare or between two lines with a label. Main statement: `normalize`
brings all of them to one text, which holds each character of the base64 in its place.
-/

set_option autoImplicit false
set_option relaxedAutoImplicit false

namespace BearerGate.Text

inductive LineEnd
  | feed
  | returnAndFeed

def LineEnd.chars : LineEnd → List Char
  | feed => ['\n']
  | returnAndFeed => ['\r', '\n']

/-- A text is written in lines that are each ended in some way, except that the last one may be
left open. -/
inductive WrittenIn : List (List Char) → List Char → Prop
  | nothing : WrittenIn [] []
  | unended (line : List Char) : WrittenIn [line] line
  | ended {parts : List (List Char)} {text : List Char} (line : List Char) (ending : LineEnd)
    (rest : WrittenIn parts text) : WrittenIn (line :: parts) (line ++ ending.chars ++ text)

/-- A list is cut into rows of a width; only the last one may be shorter, and none is empty. -/
structure FillsRows {α : Type} (width : Nat) (xs : List α) (rows : List (List α)) : Prop where
  whole : rows.flatten = xs
  full : ∀ row ∈ rows.dropLast, row.length = width
  bounds : ∀ row ∈ rows, 0 < row.length ∧ row.length ≤ width

section

variable {β : Type} {gather : List Char → List β}

theorem flatMap_lines (empty : gather [] = []) (text : List Char) :
    (lines text).flatMap gather = (splitOnChar '\n' text).flatMap gather := by
  rw [lines]
  split
  · rename_i last
    obtain ⟨front, whole⟩ := List.getLast?_eq_some_iff.mp last
    rw [whole, List.dropLast_concat, List.flatMap_append, List.flatMap_singleton, empty,
      List.append_nil]
  · rfl

/-- What is gathered line by line, without regard to a carriage return at the end of a line, is
gathered from the lines in which the text is written. -/
theorem WrittenIn.flatMap_lines (empty : gather [] = [])
    (atReturn : ∀ line, gather (line ++ ['\r']) = gather line) {parts : List (List Char)}
    {text : List Char} (written : WrittenIn parts text) (noFeed : ∀ part ∈ parts, '\n' ∉ part) :
    (lines text).flatMap gather = parts.flatMap gather := by
  rw [Text.flatMap_lines empty]
  induction written with
  | nothing => simp [splitOnChar, empty]
  | unended line => rw [splitOnChar_of_not_mem (noFeed line (List.mem_singleton_self line))]
  | @ended parts text line ending rest ih =>
    obtain ⟨lineFree, restFree⟩ := List.forall_mem_cons.mp noFeed
    cases ending with
    | feed =>
      have cut : splitOnChar '\n' (line ++ LineEnd.feed.chars ++ text) =
          line :: splitOnChar '\n' text := by
        rw [List.append_assoc]
        exact splitOnChar_append lineFree text
      rw [cut, List.flatMap_cons, List.flatMap_cons, ih restFree]
    | returnAndFeed =>
      have free : '\n' ∉ line ++ ['\r'] := by
        rw [List.mem_append, List.mem_singleton, not_or]
        exact ⟨lineFree, by decide⟩
      have cut : splitOnChar '\n' (line ++ LineEnd.returnAndFeed.chars ++ text) =
          (line ++ ['\r']) :: splitOnChar '\n' text := by
        rw [← splitOnChar_append free text, List.append_assoc, List.append_assoc]
        rfl
      rw [cut, List.flatMap_cons, List.flatMap_cons, atReturn, ih restFree]

end

section

variable {α β : Type}

private theorem chunks_go_map (f : α → β) (size fuel : Nat) (xs : List α) :
    chunks.go size fuel (xs.map f) = (chunks.go size fuel xs).map (List.map f) := by
  induction fuel generalizing xs with
  | zero => rfl
  | succ fuel ih =>
    cases xs with
    | nil => rfl
    | cons x rest =>
      change ((x :: rest).map f).take size :: chunks.go size fuel (((x :: rest).map f).drop size) =
        ((x :: rest).take size :: chunks.go size fuel ((x :: rest).drop size)).map (List.map f)
      rw [← List.map_take, ← List.map_drop, ih, List.map_cons]

theorem chunks_map (f : α → β) (size : Nat) (xs : List α) :
    chunks size (xs.map f) = (chunks size xs).map (List.map f) := by
  rw [chunks, List.length_map, chunks_go_map, chunks]

theorem FillsRows.cons {width : Nat} {row : List α} {xs : List α} {rows : List (List α)}
    (fills : FillsRows width xs rows) (nonempty : 0 < row.length) (fits : row.length ≤ width)
    (full : xs ≠ [] → row.length = width) : FillsRows width (row ++ xs) (row :: rows) where
  whole := by rw [List.flatten_cons, fills.whole]
  full := by
    cases rows with
    | nil => nofun
    | cons next rows =>
      have follows : xs ≠ [] := by
        rintro rfl
        have none := List.flatten_eq_nil_iff.mp fills.whole next List.mem_cons_self
        have := (fills.bounds next List.mem_cons_self).1
        rw [none] at this
        exact absurd this (Nat.lt_irrefl 0)
      rw [List.dropLast_cons_cons]
      exact List.forall_mem_cons.mpr ⟨full follows, fills.full⟩
  bounds := List.forall_mem_cons.mpr ⟨⟨nonempty, fits⟩, fills.bounds⟩

private theorem fillsRows_go {width : Nat} (positive : 0 < width) {fuel : Nat} {xs : List α}
    (enough : xs.length ≤ fuel) : FillsRows width xs (chunks.go width fuel xs) := by
  -- Each row takes at least one element, so that fuel for every element does not run out.
  induction fuel generalizing xs with
  | zero =>
    obtain rfl := List.eq_nil_of_length_eq_zero (Nat.le_zero.mp enough)
    exact ⟨rfl, nofun, nofun⟩
  | succ fuel ih =>
    cases xs with
    | nil => exact ⟨rfl, nofun, nofun⟩
    | cons x rest =>
      rw [List.length_cons] at enough
      have shorter : ((x :: rest).drop width).length ≤ fuel := by
        rw [List.length_drop, List.length_cons]
        omega
      have size : ((x :: rest).take width).length = min width (rest.length + 1) :=
        List.length_take
      have fills : FillsRows width ((x :: rest).take width ++ (x :: rest).drop width)
          (chunks.go width (fuel + 1) (x :: rest)) := by
        apply (ih shorter).cons
        · omega
        · omega
        · intro more
          have : 0 < ((x :: rest).drop width).length := List.length_pos_of_ne_nil more
          rw [List.length_drop, List.length_cons] at this
          omega
      rw [List.take_append_drop] at fills
      exact fills

theorem fillsRows_chunks {width : Nat} (positive : 0 < width) (xs : List α) :
    FillsRows width xs (chunks width xs) :=
  fillsRows_go positive (Nat.le_refl xs.length)

end

end BearerGate.Text

namespace BearerGate.Key

open BearerGate.Text

def openingLine (label : List Char) : List Char := beginMark ++ label ++ dashes

def closingLine (label : List Char) : List Char := endMark ++ label ++ dashes

/-- A body between the two lines that bear its label. -/
def armoredLines (label : List Char) (body : List (List Char)) : List (List Char) :=
  openingLine label :: body ++ [closingLine label]

theorem armor_eq (label : List Char) (rows : List (List Char)) :
    armor label rows = (armoredLines label rows).flatMap (· ++ ['\n']) := by
  simp [armor, armoredLines, openingLine, closingLine]

def isBodyChar (c : Char) : Bool :=
  ('A' ≤ c && c ≤ 'Z') || ('a' ≤ c && c ≤ 'z') || ('0' ≤ c && c ≤ '9') || c == '+' || c == '/' ||
    c == '='

/-- A text is a body in which spaces have taken the places of plus signs, all or some or none. -/
def Spells (text body : List Char) : Prop :=
  List.Forall₂ (fun c d => c = d ∨ c = ' ' ∧ d = '+') text body

theorem ascii_of_isBodyChar {c : Char} (known : isBodyChar c = true) : c.toNat < 0x80 := by
  simp only [isBodyChar, Bool.or_eq_true, Bool.and_eq_true, decide_eq_true_eq, beq_iff_eq] at known
  rcases known with ((((upper | lower) | digit) | rfl) | rfl) | rfl
  · have : c.toNat ≤ 90 := upper.2
    omega
  · have : c.toNat ≤ 122 := lower.2
    omega
  · have : c.toNat ≤ 57 := digit.2
    omega
  all_goals decide

private theorem notBlank_of_ascii : ∀ n < 128, isBodyChar (Char.ofNat n) = true →
    isBlank (Char.ofNat n) = false := by
  decide

theorem notBlank_of_isBodyChar {c : Char} (known : isBodyChar c = true) : isBlank c = false := by
  have notBlank := notBlank_of_ascii c.toNat (ascii_of_isBodyChar known)
  rw [Char.ofNat_toNat] at notBlank
  exact notBlank known

/-! The lines that open and close a key, and those of which its body is made. -/

theorem not_mem_marked {c : Char} {mark label : List Char} (notInMark : c ∉ mark)
    (notInLabel : c ∉ label) (notDash : c ≠ '-') : c ∉ mark ++ label ++ dashes := by
  rw [List.mem_append, List.mem_append, not_or, not_or]
  refine ⟨⟨notInMark, notInLabel⟩, fun member => notDash ?_⟩
  exact List.eq_of_mem_replicate (show c ∈ List.replicate 5 '-' from member)

theorem trimChars_marked {mark : List Char} (opens : mark.head? = some '-') (label : List Char) :
    trimChars (mark ++ label ++ dashes) = mark ++ label ++ dashes := by
  have notBlank : isBlank '-' = false := by decide
  apply trimChars_of_ends
  · intro c first
    rw [List.append_assoc, List.head?_append, opens] at first
    cases first
    exact notBlank
  · intro c last
    rw [List.getLast?_append] at last
    cases last
    exact notBlank

theorem labelOf?_openingLine (label : List Char) : labelOf? (openingLine label) = some label := by
  rw [labelOf?, openingLine, trimChars_marked rfl, List.append_assoc, dropLeading?_append,
    Option.bind_some, dropClosing?_append]

theorem labelOf?_closingLine (label : List Char) : labelOf? (closingLine label) = none := by
  rw [labelOf?, closingLine, trimChars_marked rfl]
  rfl

theorem isEndLine_closingLine (label : List Char) : isEndLine (closingLine label) = true := by
  have atOnce : (closingLine label).dropWhile isBlank = closingLine label := rfl
  rw [isEndLine, atOnce, closingLine, List.append_assoc, dropLeading?_append]
  rfl

theorem labelOf?_return (line : List Char) : labelOf? (line ++ ['\r']) = labelOf? line := by
  rw [labelOf?, trimChars_concat (by decide), labelOf?]

theorem isEndLine_return (line : List Char) : isEndLine (line ++ ['\r']) = isEndLine line := by
  have blank : isBlank '\r' = true := by decide
  rw [isEndLine, isEndLine]
  rcases dropWhile_concat blank line with ⟨left, right⟩ | same
  · rw [left, right]
  · rw [same, isSome_dropLeading?_concat (by decide)]

def bodyOfLine (line : List Char) : List Char :=
  if (labelOf? line).isNone && !isEndLine line then dropLastWhile (· == '\r') line else []

theorem bodyOfLines_eq_flatMap (lines : List (List Char)) :
    bodyOfLines lines = lines.flatMap bodyOfLine := by
  induction lines with
  | nil => rfl
  | cons line lines ih =>
    rw [bodyOfLines] at ih ⊢
    rw [List.flatMap_cons, ← ih, List.filter_cons, bodyOfLine]
    split
    · rw [List.flatMap_cons]
    · rfl

theorem bodyOfLine_return (line : List Char) : bodyOfLine (line ++ ['\r']) = bodyOfLine line := by
  rw [bodyOfLine, labelOf?_return, isEndLine_return, dropLastWhile_concat (by decide), bodyOfLine]

theorem labelOf?_of_absent {c : Char} (marked : c ∈ beginMark) {line : List Char}
    (absent : c ∉ line) : labelOf? line = none := by
  have trimmed : c ∉ trimChars line := fun member => absent (mem_of_mem_trimChars member)
  rw [labelOf?, dropLeading?_of_not_mem marked trimmed, Option.bind_none]

theorem bodyOfLine_of_absent {c : Char} (marked : c ∈ beginMark ∧ c ∈ endMark) {line : List Char}
    (absent : c ∉ line) (noReturn : '\r' ∉ line) : bodyOfLine line = line := by
  have unblanked : c ∉ line.dropWhile isBlank :=
    fun member => absent ((List.dropWhile_sublist isBlank).subset member)
  have notEnd : isEndLine line = false := by
    rw [isEndLine, dropLeading?_of_not_mem marked.2 unblanked, Option.isSome_none]
  rw [bodyOfLine, labelOf?_of_absent marked.1 absent, notEnd]
  apply dropLastWhile_of_last
  intro d last
  rw [beq_eq_false_iff_ne]
  rintro rfl
  exact noReturn (List.mem_of_getLast? last)

theorem bodyOfLine_openingLine (label : List Char) : bodyOfLine (openingLine label) = [] := by
  rw [bodyOfLine, labelOf?_openingLine]
  rfl

theorem bodyOfLine_closingLine (label : List Char) : bodyOfLine (closingLine label) = [] := by
  rw [bodyOfLine, isEndLine_closingLine, Bool.not_true, Bool.and_false, if_neg Bool.false_ne_true]

/-- The normal form depends on the lines alone in which a key is written. -/
theorem normalizeChars_of_writtenIn {parts : List (List Char)} {text : List Char}
    (written : WrittenIn parts text) (noFeed : ∀ part ∈ parts, '\n' ∉ part) :
    normalizeChars text =
      armor (labelOfLines parts) (bodyLines (restoreBody (parts.flatMap bodyOfLine))) := by
  have labels : (lines text).filterMap labelOf? = parts.filterMap labelOf? := by
    rw [List.filterMap_eq_flatMap_toList, List.filterMap_eq_flatMap_toList]
    exact written.flatMap_lines rfl (fun line => by rw [labelOf?_return]) noFeed
  have bodies : bodyOfLines (lines text) = parts.flatMap bodyOfLine := by
    rw [bodyOfLines_eq_flatMap]
    exact written.flatMap_lines rfl bodyOfLine_return noFeed
  simp only [normalizeChars, labelOfLines, labels, bodies]

/-! The text of the body. -/

theorem bodyLines_of_ascii {body : List Char} (ascii : ∀ c ∈ body, c.toNat < 0x80) :
    bodyLines body = chunks 64 body := by
  rw [bodyLines, Utf8.encode_of_ascii ascii, chunks_map, List.map_map]
  refine (List.map_congr_left fun row member => ?_).trans (List.map_id _)
  have inBody : ∀ c ∈ row, c.toNat < 0x80 := by
    intro c here
    apply ascii
    rw [← (fillsRows_chunks (by decide : 0 < 64) body).whole]
    exact List.mem_flatten_of_mem member here
  change Utf8.decodeLenient (row.map fun c => UInt8.ofNat c.toNat) = row
  rw [← Utf8.encode_of_ascii inBody, Utf8.decodeLenient_encode]

theorem bodyLines_eq_chunks {body : List Char} (known : ∀ c ∈ body, isBodyChar c = true) :
    bodyLines body = chunks 64 body :=
  bodyLines_of_ascii fun c member => ascii_of_isBodyChar (known c member)

def restored (c : Char) : Char := if c = ' ' then '+' else c

theorem restored_of_ne {c : Char} (notSpace : c ≠ ' ') : restored c = c := if_neg notSpace

namespace Spells

variable {text body : List Char} (known : ∀ c ∈ body, isBodyChar c = true)
  (spells : Spells text body)

include known spells

theorem map_restored : text.map restored = body := by
  unfold Spells at spells
  induction spells with
  | nil => rfl
  | @cons c d text body here rest ih =>
    obtain ⟨knownHere, knownRest⟩ := List.forall_mem_cons.mp known
    rw [List.map_cons, ih knownRest]
    rcases here with rfl | ⟨rfl, rfl⟩
    · have notSpace : c ≠ ' ' := by
        rintro rfl
        exact absurd knownHere (by decide)
      rw [restored_of_ne notSpace]
    · rfl

theorem isBodyChar_restored {c : Char} (member : c ∈ text) : isBodyChar (restored c) = true := by
  apply known
  rw [← spells.map_restored known]
  exact List.mem_map_of_mem member

theorem ne_of_mem {c d : Char} (member : c ∈ text) (foreign : isBodyChar d = false)
    (notSpace : d ≠ ' ') : c ≠ d := by
  rintro rfl
  have := spells.isBodyChar_restored known member
  rw [restored_of_ne notSpace, foreign] at this
  cases this

theorem notBlank_of_mem {c : Char} (member : c ∈ text) (noPlus : restored c ≠ '+') :
    isBlank c = false := by
  have notSpace : c ≠ ' ' := by
    rintro rfl
    exact noPlus rfl
  have plain := spells.isBodyChar_restored known member
  rw [restored_of_ne notSpace] at plain
  exact notBlank_of_isBodyChar plain

/-- Trimming takes nothing from a spelling if no plus sign stands at an end of the body. -/
theorem trimChars_eq (first : body.head? ≠ some '+') (last : body.getLast? ≠ some '+') :
    trimChars text = text := by
  have same := spells.map_restored known
  apply trimChars_of_ends
  · intro c here
    apply spells.notBlank_of_mem known (List.mem_of_head? here)
    intro plus
    apply first
    rw [← same, List.head?_map, here, Option.map_some, plus]
  · intro c here
    apply spells.notBlank_of_mem known (List.mem_of_getLast? here)
    intro plus
    apply last
    rw [← same, List.getLast?_map, here, Option.map_some, plus]

theorem restoreBody_eq (first : body.head? ≠ some '+') (last : body.getLast? ≠ some '+') :
    restoreBody text = body := by
  rw [restoreBody, spells.trimChars_eq known first last]
  change (text.map restored).filter _ = body
  rw [spells.map_restored known, List.filter_eq_self]
  intro c member
  rw [notBlank_of_isBodyChar (known c member)]
  rfl

end Spells

section

variable {parts : List (List Char)}

theorem flatMap_bodyOfLine_of_absent {c : Char} (marked : c ∈ beginMark ∧ c ∈ endMark)
    (absent : ∀ part ∈ parts, c ∉ part) (noReturn : ∀ part ∈ parts, '\r' ∉ part) :
    parts.flatMap bodyOfLine = parts.flatten := by
  rw [List.flatMap_def]
  congr 1
  refine (List.map_congr_left fun part member => ?_).trans (List.map_id _)
  exact bodyOfLine_of_absent marked (absent part member) (noReturn part member)

theorem flatMap_bodyOfLine (noHyphen : ∀ part ∈ parts, '-' ∉ part)
    (noReturn : ∀ part ∈ parts, '\r' ∉ part) : parts.flatMap bodyOfLine = parts.flatten :=
  flatMap_bodyOfLine_of_absent (by decide) noHyphen noReturn

theorem filterMap_labelOf?_of_absent {c : Char} (marked : c ∈ beginMark)
    (absent : ∀ part ∈ parts, c ∉ part) : parts.filterMap labelOf? = [] := by
  rw [List.filterMap_eq_nil_iff]
  exact fun part member => labelOf?_of_absent marked (absent part member)

theorem labelOfLines_bare (noHyphen : ∀ part ∈ parts, '-' ∉ part) :
    labelOfLines parts = defaultLabel := by
  rw [labelOfLines, filterMap_labelOf?_of_absent (by decide) noHyphen]
  rfl

theorem labelOfLines_armored_of_absent {c : Char} (marked : c ∈ beginMark) (label : List Char)
    (absent : ∀ part ∈ parts, c ∉ part) : labelOfLines (armoredLines label parts) = label := by
  rw [labelOfLines, armoredLines, List.filterMap_append, List.filterMap_cons,
    labelOf?_openingLine, filterMap_labelOf?_of_absent marked absent, List.filterMap_cons,
    labelOf?_closingLine]
  rfl

theorem labelOfLines_armored (label : List Char) (noHyphen : ∀ part ∈ parts, '-' ∉ part) :
    labelOfLines (armoredLines label parts) = label :=
  labelOfLines_armored_of_absent (by decide) label noHyphen

theorem flatMap_bodyOfLine_armored (label : List Char) :
    (armoredLines label parts).flatMap bodyOfLine = parts.flatMap bodyOfLine := by
  rw [armoredLines, List.flatMap_append, List.flatMap_cons, bodyOfLine_openingLine,
    List.flatMap_singleton, bodyOfLine_closingLine, List.nil_append, List.append_nil]

end

/-- A body that neither begins nor ends in a plus sign is cut into rows of 64 in one way for all its
spellings: in however many lines they are, with either line end, and with spaces for plus signs or
not. Bare they get the default label, and armored they keep theirs. -/
theorem spellings_normalized {body : List Char} (known : ∀ c ∈ body, isBodyChar c = true)
    (first : body.head? ≠ some '+') (last : body.getLast? ≠ some '+') :
    ∃ rows, FillsRows 64 body rows ∧
      ∀ parts : List (List Char), Spells parts.flatten body →
        (∀ text : String, WrittenIn parts text.toList →
          (normalize text).toList = (armoredLines defaultLabel rows).flatMap (· ++ ['\n'])) ∧
        ∀ label : List Char, '\n' ∉ label →
          ∀ text : String, WrittenIn (armoredLines label parts) text.toList →
            (normalize text).toList = (armoredLines label rows).flatMap (· ++ ['\n']) := by
  refine ⟨chunks 64 body, fillsRows_chunks (by decide) body, fun parts spells => ?_⟩
  have absent (d : Char) (foreign : isBodyChar d = false) (notSpace : d ≠ ' ') :
      ∀ part ∈ parts, d ∉ part := by
    intro part inParts member
    exact spells.ne_of_mem known (List.mem_flatten_of_mem inParts member) foreign notSpace rfl
  have noHyphen := absent '-' (by decide) (by decide)
  have noReturn := absent '\r' (by decide) (by decide)
  have noFeed := absent '\n' (by decide) (by decide)
  have content : bodyLines (restoreBody (parts.flatMap bodyOfLine)) = chunks 64 body := by
    rw [flatMap_bodyOfLine noHyphen noReturn, spells.restoreBody_eq known first last,
      bodyLines_eq_chunks known]
  constructor
  · intro text written
    rw [normalize, String.toList_ofList, normalizeChars_of_writtenIn written noFeed, content,
      labelOfLines_bare noHyphen, armor_eq]
  · intro label noFeedLabel text written
    have noFeedAll : ∀ part ∈ armoredLines label parts, '\n' ∉ part := by
      intro part member
      rw [armoredLines, List.mem_append, List.mem_cons, List.mem_singleton] at member
      rcases member with (rfl | inParts) | rfl
      · exact not_mem_marked (by decide) noFeedLabel (by decide)
      · exact noFeed part inParts
      · exact not_mem_marked (by decide) noFeedLabel (by decide)
    rw [normalize, String.toList_ofList, normalizeChars_of_writtenIn written noFeedAll,
      flatMap_bodyOfLine_armored, content, labelOfLines_armored label noHyphen, armor_eq]

/-- A key with a space for its plus sign and a blank line in it, and the same key armored. -/
theorem two_spellings_normalized :
    ∃ rows, FillsRows 64 "AB+C".toList rows ∧
      (normalize "AB\r\n\n C").toList =
        (armoredLines defaultLabel rows).flatMap (· ++ ['\n']) ∧
      (normalize "-----BEGIN KEY-----\r\nAB+\nC\r\n-----END KEY-----\n").toList =
        (armoredLines "KEY".toList rows).flatMap (· ++ ['\n']) := by
  have known : ∀ c ∈ "AB+C".toList, isBodyChar c = true := List.all_eq_true.mp rfl
  have mangled : Spells ["AB".toList, [], " C".toList].flatten "AB+C".toList :=
    .cons (.inl rfl) (.cons (.inl rfl) (.cons (.inr ⟨rfl, rfl⟩) (.cons (.inl rfl) .nil)))
  have kept : Spells ["AB+".toList, "C".toList].flatten "AB+C".toList :=
    .cons (.inl rfl) (.cons (.inl rfl) (.cons (.inl rfl) (.cons (.inl rfl) .nil)))
  have bare : WrittenIn ["AB".toList, [], " C".toList] "AB\r\n\n C".toList :=
    .ended _ .returnAndFeed (.ended _ .feed (.unended _))
  have wrapped : WrittenIn (armoredLines "KEY".toList ["AB+".toList, "C".toList])
      "-----BEGIN KEY-----\r\nAB+\nC\r\n-----END KEY-----\n".toList :=
    .ended _ .returnAndFeed (.ended _ .feed (.ended _ .returnAndFeed (.ended _ .feed .nothing)))
  obtain ⟨rows, fills, same⟩ := spellings_normalized known (by decide) (by decide)
  exact ⟨rows, fills, (same _ mangled).1 _ bare, (same _ kept).2 _ (by decide) _ wrapped⟩

end BearerGate.Key
