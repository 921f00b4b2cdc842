import BearerGate.Text.Blank
import Mathlib.Data.List.DropRight

/-!
Trimming: a text is blanks alone, or it is blanks around a text that begins and ends otherwise, and
that one is what trimming leaves.
-/

set_option autoImplicit false
set_option relaxedAutoImplicit false

namespace BearerGate.Text

theorem isBlank_toLower (c : Char) : isBlank c.toLower = isBlank c := by
  by_cases ascii : c.toNat < 128
  · have table : ∀ n < 128, isBlank (Char.ofNat n).toLower = isBlank (Char.ofNat n) := by decide
    have same := table c.toNat ascii
    rwa [Char.ofNat_toNat] at same
  · have notUpper : ¬ (c.val ≥ 'A'.val ∧ c.val ≤ 'Z'.val) := fun upper =>
      ascii (Nat.lt_of_le_of_lt (UInt32.le_iff_toNat_le.mp upper.2) (by decide))
    have same : c.toLower = c := dif_neg notUpper
    rw [same]

/-- A text of blanks alone, or an empty one. -/
def Blank (text : String) : Prop := ∀ c ∈ text.toList, isBlank c = true

/-- A text that begins and ends with characters that are not blank. -/
def Bare (text : String) : Prop :=
  (∃ c, text.toList.head? = some c ∧ isBlank c = false) ∧
    ∃ c, text.toList.getLast? = some c ∧ isBlank c = false

/-- A text is another one, bare, with blanks around it. -/
def Pads (text core : String) : Prop :=
  Bare core ∧ ∃ before after, Blank before ∧ Blank after ∧ text = before ++ core ++ after

theorem Bare.pads {text : String} (bare : Bare text) : Pads text text := by
  refine ⟨bare, "", "", nofun, nofun, ?_⟩
  rw [String.empty_append, String.append_empty]

theorem trimChars_append {after : List Char} (blank : ∀ c ∈ after, isBlank c = true)
    (cs : List Char) : trimChars (cs ++ after) = trimChars cs := by
  induction after using List.reverseRecOn with
  | nil => rw [List.append_nil]
  | append_singleton after c ih =>
    rw [List.forall_mem_append, List.forall_mem_singleton] at blank
    rw [← List.append_assoc, trimChars_concat blank.2, ih blank.1]

theorem trim_of_pads {text core : String} (pads : Pads text core) : trim text = core := by
  obtain ⟨⟨⟨first, isFirst, firstStays⟩, last, isLast, lastStays⟩, before, after, blankBefore,
    blankAfter, rfl⟩ := pads
  have ends : trimChars core.toList = core.toList := by
    apply trimChars_of_ends
    · intro c here
      rwa [← Option.some.inj (isFirst.symm.trans here)]
    · intro c here
      rwa [← Option.some.inj (isLast.symm.trans here)]
  rw [trim, String.toList_append, String.toList_append, trimChars_append blankAfter, trimChars,
    List.dropWhile_append_of_pos blankBefore, ← trimChars, ends, String.ofList_toList]

theorem trim_eq_empty_iff {text : String} : trim text = "" ↔ Blank text := by
  have same : trimChars text.toList = (text.toList.dropWhile isBlank).rdropWhile isBlank := rfl
  rw [trim, ← String.toList_inj, String.toList_ofList, same, String.toList_empty,
    List.rdropWhile_eq_nil_iff]
  constructor
  · intro blankLeft c member
    rw [← List.takeWhile_append_dropWhile (p := isBlank) (l := text.toList)] at member
    rcases List.mem_append.mp member with gone | left
    · exact List.mem_takeWhile_imp gone
    · exact blankLeft c left
  · intro blank c member
    exact blank c ((List.dropWhile_sublist isBlank).subset member)

theorem pads_trim {text : String} (notBlank : ¬ Blank text) : Pads text (trim text) := by
  have same : (trim text).toList = (text.toList.dropWhile isBlank).rdropWhile isBlank :=
    String.toList_ofList
  have nonempty : (text.toList.dropWhile isBlank).rdropWhile isBlank ≠ [] := by
    rw [← same, ne_eq, String.toList_eq_nil_iff]
    exact mt trim_eq_empty_iff.mp notBlank
  refine ⟨⟨?_, ?_⟩, String.ofList (text.toList.takeWhile isBlank),
    String.ofList ((text.toList.dropWhile isBlank).rtakeWhile isBlank), ?_, ?_, ?_⟩
  · obtain ⟨c, rest, cut⟩ := List.exists_cons_of_ne_nil nonempty
    obtain ⟨gone, whole⟩ := List.rdropWhile_prefix isBlank (text.toList.dropWhile isBlank)
    have stays := List.head?_dropWhile_not isBlank text.toList
    rw [← whole, cut] at stays
    exact ⟨c, by rw [same, cut, List.head?_cons], stays⟩
  · rw [same]
    exact ⟨_, List.getLast?_eq_some_getLast nonempty,
      Bool.eq_false_iff.mpr (List.rdropWhile_last_not isBlank _ nonempty)⟩
  · intro c member
    rw [String.toList_ofList] at member
    exact List.mem_takeWhile_imp member
  · intro c member
    rw [String.toList_ofList] at member
    exact List.mem_rtakeWhile_imp member
  · rw [← String.toList_inj, String.toList_append, String.toList_append, same,
      String.toList_ofList, String.toList_ofList, List.append_assoc,
      List.rdropWhile_append_rtakeWhile, List.takeWhile_append_dropWhile]

/-- A bare text is left of every text that is not blank, and of no other one. -/
theorem pads_iff {text core : String} : Pads text core ↔ trim text = core ∧ core ≠ "" := by
  constructor
  · intro pads
    refine ⟨trim_of_pads pads, ?_⟩
    rintro rfl
    obtain ⟨⟨⟨c, here, _⟩, _⟩, _⟩ := pads
    cases here
  · rintro ⟨rfl, nonempty⟩
    exact pads_trim (mt trim_eq_empty_iff.mpr nonempty)

theorem Pads.not_blank {text core : String} (pads : Pads text core) : ¬ Blank text := by
  obtain ⟨trimmed, nonempty⟩ := pads_iff.mp pads
  rw [← trim_eq_empty_iff, trimmed]
  exact nonempty

end BearerGate.Text
