import BearerGate.Proofs.KeySpellings
import Mathlib.Data.List.TakeWhile

/-!
Normalized keys. The text that `normalize` gives is read again line by line, and none of its rows
can be taken for a line that opens or closes a key, because those have a space in them and rows have
none. Main statement: of whatever ASCII text a key is made, a second `normalize` changes nothing,
and between the two outer lines there are full rows of 64 characters and a last one.
-/

set_option autoImplicit false
set_option relaxedAutoImplicit false

namespace BearerGate

namespace Text

theorem writtenIn_ended (parts : List (List Char)) :
    WrittenIn parts (parts.flatMap (· ++ ['\n'])) := by
  induction parts with
  | nil => exact .nothing
  | cons part parts ih => exact .ended part .feed ih

section

variable {p drops : Char → Bool} (excludes : ∀ c, drops c = true → p c = false)

include excludes

theorem filter_dropWhile (cs : List Char) : (cs.dropWhile drops).filter p = cs.filter p := by
  have gone : (cs.takeWhile drops).filter p = [] := by
    rw [List.filter_eq_nil_iff]
    intro c member
    rw [excludes c (List.mem_takeWhile_imp member)]
    exact Bool.false_ne_true
  calc (cs.dropWhile drops).filter p
      = (cs.takeWhile drops).filter p ++ (cs.dropWhile drops).filter p := by
        rw [gone, List.nil_append]
    _ = cs.filter p := by rw [← List.filter_append, List.takeWhile_append_dropWhile]

theorem filter_dropLastWhile (cs : List Char) :
    (dropLastWhile drops cs).filter p = cs.filter p := by
  rw [dropLastWhile, List.filter_reverse, filter_dropWhile excludes, List.filter_reverse,
    List.reverse_reverse]

end

end Text

namespace Key

open BearerGate.Text

/-- The characters of a body that are neither put there for others nor taken away. -/
def isLasting (c : Char) : Bool := !isBlank c && c != '+'

/-- A body that is read again as it was written. -/
structure Settled (body : List Char) : Prop where
  ascii : ∀ c ∈ body, c.toNat < 0x80
  noBlank : ∀ c ∈ body, isBlank c = false

theorem mem_of_labelOf? {line label : List Char} (found : labelOf? line = some label) {c : Char}
    (member : c ∈ label) : c ∈ line := by
  obtain ⟨rest, opened, closed⟩ := Option.bind_eq_some_iff.mp found
  apply mem_of_mem_trimChars
  rw [dropLeading?_eq_some_iff.mp opened, dropClosing?_eq_some_iff.mp closed]
  exact List.mem_append_right _ (List.mem_append_left _ member)

theorem noFeed_labelOfLines (text : List Char) : '\n' ∉ labelOfLines (lines text) := by
  intro member
  rw [labelOfLines] at member
  cases last : ((lines text).filterMap labelOf?).getLast? with
  | none =>
    rw [last] at member
    exact absurd member (by decide)
  | some label =>
    rw [last, Option.getD_some] at member
    obtain ⟨line, inLines, found⟩ := List.mem_filterMap.mp (List.mem_of_getLast? last)
    exact (mem_of_mem_lines inLines (mem_of_labelOf? found member)).2 rfl

theorem mem_of_mem_bodyOfLines {c : Char} {text : List Char}
    (member : c ∈ bodyOfLines (lines text)) : c ∈ text := by
  rw [bodyOfLines, List.mem_flatMap] at member
  obtain ⟨line, kept, inLine⟩ := member
  exact (mem_of_mem_lines (List.mem_of_mem_filter kept) (mem_of_mem_dropLastWhile inLine)).1

theorem settled_restoreBody {cs : List Char} (ascii : ∀ c ∈ cs, c.toNat < 0x80) :
    Settled (restoreBody cs) where
  ascii := by
    intro c member
    obtain ⟨d, inTrimmed, rfl⟩ := List.mem_map.mp (List.mem_of_mem_filter member)
    split
    · decide
    · exact ascii d (mem_of_mem_trimChars inTrimmed)
  noBlank := by
    intro c member
    simpa using List.of_mem_filter member

theorem filter_isLasting_restoreBody (cs : List Char) :
    (restoreBody cs).filter isLasting = cs.filter isLasting := by
  have blankGone (c : Char) (blank : isBlank c = true) : isLasting c = false := by
    rw [isLasting, blank]
    rfl
  have restoredAgree (cs : List Char) :
      ((cs.map restored).filter fun c => !isBlank c).filter isLasting = cs.filter isLasting := by
    induction cs with
    | nil => rfl
    | cons c cs ih =>
      rw [List.map_cons]
      by_cases space : c = ' '
      · subst space
        exact ih
      · rw [restored_of_ne space, List.filter_filter, List.filter_cons, List.filter_cons,
          ← List.filter_filter, ih]
        cases blank : isBlank c <;> simp [isLasting, blank]
  have trimmed : (trimChars cs).filter isLasting = cs.filter isLasting := by
    rw [trimChars, filter_dropLastWhile blankGone, filter_dropWhile blankGone]
  exact (restoredAgree (trimChars cs)).trans trimmed

section

variable {body : List Char}

theorem Settled.restoreBody_eq (settled : Settled body) : restoreBody body = body := by
  have trimmed : trimChars body = body := trimChars_of_ends
    (fun c first => settled.noBlank c (List.mem_of_head? first))
    (fun c last => settled.noBlank c (List.mem_of_getLast? last))
  have kept : body.map restored = body := by
    refine (List.map_congr_left fun c member => restored_of_ne ?_).trans (List.map_id _)
    rintro rfl
    exact absurd (settled.noBlank ' ' member) (by decide)
  rw [restoreBody, trimmed]
  change (body.map restored).filter _ = body
  rw [kept, List.filter_eq_self]
  intro c member
  rw [settled.noBlank c member]
  rfl

theorem Settled.noBlank_row (settled : Settled body) {row : List Char}
    (inRows : row ∈ chunks 64 body) {c : Char} (member : c ∈ row) : isBlank c = false := by
  apply settled.noBlank
  rw [← (fillsRows_chunks (by decide : 0 < 64) body).whole]
  exact List.mem_flatten_of_mem inRows member

theorem Settled.absent (settled : Settled body) {c : Char} (blank : isBlank c = true) :
    ∀ row ∈ chunks 64 body, c ∉ row := by
  intro row inRows member
  rw [settled.noBlank_row inRows member] at blank
  cases blank

theorem Settled.noFeed (settled : Settled body) {label : List Char} (noFeed : '\n' ∉ label) :
    ∀ line ∈ armoredLines label (chunks 64 body), '\n' ∉ line := by
  intro line member
  rw [armoredLines, List.mem_append, List.mem_cons, List.mem_singleton] at member
  rcases member with (rfl | inRows) | rfl
  · exact not_mem_marked (by decide) noFeed (by decide)
  · exact settled.absent (by decide) line inRows
  · exact not_mem_marked (by decide) noFeed (by decide)

theorem Settled.normalizeChars_armor (settled : Settled body) {label : List Char}
    (noFeed : '\n' ∉ label) :
    normalizeChars (armor label (chunks 64 body)) = armor label (chunks 64 body) := by
  have noSpace : ∀ row ∈ chunks 64 body, ' ' ∉ row := settled.absent (by decide)
  have noReturn : ∀ row ∈ chunks 64 body, '\r' ∉ row := settled.absent (by decide)
  have gathered : (chunks 64 body).flatMap bodyOfLine = body := by
    rw [flatMap_bodyOfLine_of_absent (by decide) noSpace noReturn,
      (fillsRows_chunks (by decide : 0 < 64) body).whole]
  have written : WrittenIn (armoredLines label (chunks 64 body))
      (armor label (chunks 64 body)) := by
    rw [armor_eq]
    exact writtenIn_ended _
  rw [normalizeChars_of_writtenIn written (settled.noFeed noFeed), flatMap_bodyOfLine_armored,
    gathered, settled.restoreBody_eq, bodyLines_of_ascii settled.ascii,
    labelOfLines_armored_of_absent (by decide) label noSpace]

end

theorem normalizeChars_of_ascii {text : List Char} (ascii : ∀ c ∈ text, c.toNat < 0x80) :
    ∃ body, Settled body ∧ body.filter isLasting = (bodyOfLines (lines text)).filter isLasting ∧
      normalizeChars text = armor (labelOfLines (lines text)) (chunks 64 body) := by
  have settled : Settled (restoreBody (bodyOfLines (lines text))) :=
    settled_restoreBody fun c member => ascii c (mem_of_mem_bodyOfLines member)
  refine ⟨_, settled, filter_isLasting_restoreBody _, ?_⟩
  rw [normalizeChars, bodyLines_of_ascii settled.ascii]

/-- Whatever lines an ASCII text has, normalizing it twice is normalizing it once. What it gives is
the last label around rows of 64 characters, of which the last one may be shorter, and no row has a
blank in it; apart from plus signs, the characters of the body that are no blanks are there in their
order. -/
theorem normalize_settles {key : String} (ascii : ∀ c ∈ key.toList, c.toNat < 0x80) :
    normalize (normalize key) = normalize key ∧
    ∃ rows, lines (normalize key).toList = armoredLines (labelOfLines (lines key.toList)) rows ∧
      FillsRows 64 rows.flatten rows ∧ (∀ row ∈ rows, ∀ c ∈ row, isBlank c = false) ∧
      rows.flatten.filter isLasting = (bodyOfLines (lines key.toList)).filter isLasting := by
  obtain ⟨body, settled, lasting, once⟩ := normalizeChars_of_ascii ascii
  have noFeed := noFeed_labelOfLines key.toList
  have fills := fillsRows_chunks (by decide : 0 < 64) body
  constructor
  · rw [normalize, normalize, String.toList_ofList, once, settled.normalizeChars_armor noFeed]
  · refine ⟨chunks 64 body, ?_, ?_, fun row inRows c => settled.noBlank_row inRows, ?_⟩
    · rw [normalize, String.toList_ofList, once, armor_eq, lines_ended (settled.noFeed noFeed)]
    · rw [fills.whole]
      exact fills
    · rw [fills.whole, lasting]

private def garbledKey : String :=
  "\t-- x\r\n-----BEGIN A-----\n-----END\nab c\x0b\r\n -----BEGIN  B ----- \n -----END \n--"

/-- A key with two opening lines, a closing line without its space and hyphens in its body. -/
theorem garbled_key_settled :
    normalize garbledKey = "-----BEGIN  B -----\n--+x-----ENDab+c--\n-----END  B -----\n" ∧
    normalize (normalize garbledKey) = normalize garbledKey ∧
    ∃ rows, lines (normalize garbledKey).toList = armoredLines " B ".toList rows ∧
      FillsRows 64 rows.flatten rows := by
  have label : labelOfLines (lines garbledKey.toList) = " B ".toList := by decide
  have ascii : (garbledKey.toList.all fun c => decide (c.toNat < 0x80)) = true := by decide
  obtain ⟨settles, rows, cut, fills, _⟩ := normalize_settles fun c member =>
    of_decide_eq_true (List.all_eq_true.mp ascii c member)
  rw [label] at cut
  exact ⟨by decide, settles, rows, cut, fills⟩

end Key

end BearerGate
