import BearerGate.Proofs.LiftAndLower
import BearerGate.Proofs.RoleDerivation

/-!
Hints: a value can be lifted with a hint at the kind of values that its claim carries. Only the hint
of a set of texts does anything, and that to a text or a list of texts alone, which it makes a set;
a null in the list leaves a list. Main statement: with a hint and without one a value is absent
alike and read as a set alike, so that a hint changes the form of what is lifted and no text in it.
-/

set_option autoImplicit false
set_option relaxedAutoImplicit false

namespace BearerGate

open Claim (Kind)

namespace Json

/-- A value is a text, or a list of texts among which nulls may stand. -/
inductive OfTexts : Json → Prop
  | text (s : String) : OfTexts (.string s)
  | list {items : List Json} (texts : ∀ item ∈ items, item = .null ∨ item.isString = true) :
    OfTexts (.array items)

/-- A value is a text, or a list of texts and of nothing else. -/
inductive OnlyTexts : Json → Prop
  | text (s : String) : OnlyTexts (.string s)
  | list {items : List Json} (texts : ∀ item ∈ items, item.isString = true) :
    OnlyTexts (.array items)

theorem ofTexts_array_iff {items : List Json} :
    (Json.array items).OfTexts ↔ ∀ item ∈ items, item = .null ∨ item.isString = true := by
  constructor
  · rintro ⟨⟩
    assumption
  · exact .list

theorem onlyTexts_array_iff {items : List Json} :
    (Json.array items).OnlyTexts ↔ items.all isString = true := by
  rw [List.all_eq_true]
  constructor
  · rintro ⟨⟩
    assumption
  · exact .list

theorem OnlyTexts.ofTexts {v : Json} (only : v.OnlyTexts) : v.OfTexts := by
  cases only with
  | text s => exact .text s
  | list texts => exact .list fun item member => .inr (texts item member)

end Json

namespace Claim.Data

def view (d : Option Data) : Option TextSet := d.bind textSet?

theorem isSome_view_list_iff {items : List Json} :
    (view (some (.list (liftItems items)))).isSome = true ↔ (Json.array items).OfTexts := by
  rw [Json.ofTexts_array_iff, view, Option.bind_some, textSet?]
  by_cases allTexts : ∀ item ∈ items, item = .null ∨ item.isString = true
  · rw [mapM_string?_liftItems allTexts]
    exact iff_of_true rfl allTexts
  · have failing := allTexts
    simp only [not_forall, not_or] at failing
    obtain ⟨item, member, notNull, notText⟩ := failing
    rw [mapM_string?_liftItems_eq_none member notNull (Bool.eq_false_iff.mpr notText)]
    exact iff_of_false Bool.false_ne_true allTexts

theorem isSome_view_lift_iff {v : Json} : (view (lift v)).isSome = true ↔ v.OfTexts := by
  cases v with
  | string s => exact iff_of_true rfl (.text s)
  | array items => exact isSome_view_list_iff
  | int n =>
    have unread : (view (lift (.int n))).isSome = false := by
      rw [lift]
      cases n.toInt64? <;> rfl
    rw [unread]
    exact iff_of_false Bool.false_ne_true (by rintro ⟨⟩)
  | null => exact iff_of_false Bool.false_ne_true (by rintro ⟨⟩)
  | bool b => exact iff_of_false Bool.false_ne_true (by rintro ⟨⟩)
  | double d => exact iff_of_false Bool.false_ne_true (by rintro ⟨⟩)
  | object members => exact iff_of_false Bool.false_ne_true (by rintro ⟨⟩)

theorem lift_ne_stringSet (v : Json) (s : TextSet) : lift v ≠ some (.stringSet s) := by
  intro lifted
  cases v with
  | int n =>
    rw [lift, Option.some.injEq] at lifted
    split at lifted <;> cases lifted
  | _ => cases lifted

theorem ofJson_stringSet_cases (v : Json) :
    (v.OnlyTexts ∧ ∃ s, ofJson (some .stringSet) v = some (.stringSet s)) ∨
      (¬ v.OnlyTexts ∧ ofJson (some .stringSet) v = lift v) := by
  cases v with
  | string s => exact .inl ⟨.text s, _, rfl⟩
  | array items =>
    rw [Json.onlyTexts_array_iff, ofJson]
    by_cases allTexts : items.all Json.isString = true
    · rw [if_pos allTexts]
      exact .inl ⟨allTexts, _, rfl⟩
    · rw [if_neg allTexts]
      exact .inr ⟨allTexts, rfl⟩
  | null => exact .inr ⟨by rintro ⟨⟩, rfl⟩
  | bool b => exact .inr ⟨by rintro ⟨⟩, rfl⟩
  | int n => exact .inr ⟨by rintro ⟨⟩, rfl⟩
  | double d => exact .inr ⟨by rintro ⟨⟩, rfl⟩
  | object members => exact .inr ⟨by rintro ⟨⟩, rfl⟩

/-- A hint makes a set of a text or of a list of texts alone, if it is that of a set, and otherwise
does nothing. -/
theorem ofJson_cases (hint : Kind) (v : Json) :
    ((hint = .stringSet ∧ v.OnlyTexts) ∧ ∃ s, ofJson (some hint) v = some (.stringSet s)) ∨
      (¬ (hint = .stringSet ∧ v.OnlyTexts) ∧ ofJson (some hint) v = lift v) := by
  by_cases isSet : hint = .stringSet
  · subst isSet
    rcases ofJson_stringSet_cases v with ⟨only, lifted⟩ | ⟨notOnly, same⟩
    · exact .inl ⟨⟨rfl, only⟩, lifted⟩
    · exact .inr ⟨fun both => notOnly both.2, same⟩
  · refine .inr ⟨fun both => isSet both.1, ofJson_of_ne fun both => isSet ?_⟩
    exact Option.some.inj both

theorem ofJson_ne_lift_iff {hint : Kind} {v : Json} :
    ofJson (some hint) v ≠ lift v ↔ hint = .stringSet ∧ v.OnlyTexts := by
  rcases ofJson_cases hint v with ⟨both, s, lifted⟩ | ⟨notBoth, same⟩
  · rw [lifted]
    exact iff_of_true (lift_ne_stringSet v s).symm both
  · exact iff_of_false (not_not_intro same) notBoth

theorem ofJson_eq_none_iff {hint : Kind} {v : Json} : ofJson (some hint) v = none ↔ v = .null := by
  rcases ofJson_cases hint v with ⟨⟨_, only⟩, s, lifted⟩ | ⟨_, same⟩
  · rw [lifted]
    refine iff_of_false nofun fun isNull => ?_
    rw [isNull] at only
    cases only
  · rw [same]
    exact lift_eq_none_iff

theorem isSome_view_ofJson_iff {hint : Kind} {v : Json} :
    (view (ofJson (some hint) v)).isSome = true ↔ v.OfTexts := by
  rcases ofJson_cases hint v with ⟨⟨_, only⟩, s, lifted⟩ | ⟨_, same⟩
  · rw [lifted]
    exact iff_of_true rfl only.ofTexts
  · rw [same]
    exact isSome_view_lift_iff

theorem mem_view_ofJson_iff {hint : Option Kind} {v : Json} {text : String} :
    (∃ s, view (ofJson hint v) = some s ∧ text ∈ s) ↔ v.Names text := by
  have members : text ∈ (view (ofJson hint v)).getD TextSet.empty ↔ v.Names text :=
    mem_texts_ofJson_iff
  rw [← members]
  cases view (ofJson hint v) with
  | none => simp
  | some s => simp

theorem eq_of_isSome_of_mem {x y : Option TextSet} (exist : x.isSome = true ↔ y.isSome = true)
    (same : ∀ text, (∃ s, x = some s ∧ text ∈ s) ↔ ∃ s, y = some s ∧ text ∈ s) : x = y := by
  cases x with
  | none =>
    cases y with
    | none => rfl
    | some t => cases exist.mpr rfl
  | some s =>
    cases y with
    | none => cases exist.mp rfl
    | some t =>
      refine congrArg some (TextSet.ext fun text => ?_)
      simpa using same text

/-- Whatever the kind of a hint, it makes no value absent or present, and the texts that a value is
read as are the same with the hint and without: those that the value names, if it is a text or a
list of texts with or without nulls. What is lifted differs exactly if the hint is that of a set
and the value a text or a list of texts alone. -/
theorem hint_changes_form_alone (hint : Kind) (v : Json) :
    (ofJson (some hint) v = none ↔ ofJson none v = none) ∧
    (ofJson (some hint) v ≠ ofJson none v ↔ hint = .stringSet ∧ v.OnlyTexts) ∧
    view (ofJson (some hint) v) = view (ofJson none v) ∧
    ((view (ofJson none v)).isSome = true ↔ v.OfTexts) ∧
    ∀ text, (∃ s, view (ofJson none v) = some s ∧ text ∈ s) ↔ v.Names text := by
  have unhinted : ofJson none v = lift v := ofJson_of_ne nofun
  refine ⟨?_, ?_, ?_, ?_, fun text => mem_view_ofJson_iff⟩
  · rw [unhinted, ofJson_eq_none_iff, lift_eq_none_iff]
  · rw [unhinted]
    exact ofJson_ne_lift_iff
  · refine eq_of_isSome_of_mem ?_ fun text => mem_view_ofJson_iff.trans mem_view_ofJson_iff.symm
    rw [unhinted]
    exact isSome_view_ofJson_iff.trans isSome_view_lift_iff.symm
  · rw [unhinted]
    exact isSome_view_lift_iff

example : ofJson (some .stringSet) (.array [.string "a", .null]) = some (.list [.string "a"]) ∧
    view (some (.list [.string "a"])) = view (ofJson (some .stringSet) (.string "a")) :=
  ⟨rfl, rfl⟩

end Claim.Data

end BearerGate
