import BearerGate.Proofs.InjectionTypes

/-!
Optional values: what a plain type and an option of it make of one value. A plain type takes off all
optional wrappers before it finds that a value is missing, an option takes off one. Main statement:
an option accepts exactly the missing values that the plain type rejects unless such a value stands
under an optional wrapper, which nothing that is produced for a type with a shape has.
-/

set_option autoImplicit false
set_option relaxedAutoImplicit false

namespace BearerGate.Injection

open Claim (Data)

namespace Injected

/-- There is no value, under any number of optional wrappers. -/
inductive Missing : Injected → Prop
  | null : Missing .null
  | empty : Missing .empty
  | present {inner : Injected} (missing : Missing inner) : Missing (.present inner)

/-- A missing value stands under an optional wrapper that says that there is one. -/
def Buried (v : Injected) : Prop := ∃ inner, v = .present inner ∧ inner.Missing

theorem missing_present_iff {inner : Injected} : (present inner).Missing ↔ inner.Missing := by
  constructor
  · rintro ⟨⟩
    assumption
  · exact .present

theorem Buried.missing {v : Injected} (buried : v.Buried) : v.Missing := by
  obtain ⟨inner, rfl, missing⟩ := buried
  exact .present missing

end Injected

open Injected (missing_present_iff)

section

variable {α : Type} {expected : String} {read : Data → Option α} {v : Injected}

theorem claimData_eq_absent_iff : claimData expected v = .error .absent ↔ v.Missing := by
  induction v with
  | null => exact ⟨fun _ => .null, fun _ => rfl⟩
  | empty => exact ⟨fun _ => .empty, fun _ => rfl⟩
  | present inner ih => exact ih.trans missing_present_iff.symm
  | claim data => exact ⟨nofun, nofun⟩
  | json value => exact ⟨nofun, nofun⟩
  | claimValue name inner => exact ⟨nofun, nofun⟩
  | provider p => exact ⟨nofun, nofun⟩

theorem plainOf_of_error {cause : InjectError} (failed : claimData expected v = .error cause) :
    plainOf expected read v = .error cause := by
  rw [plainOf, failed]
  rfl

theorem plainOf_of_ok {data : Data} (found : claimData expected v = .ok data) :
    plainOf expected read v = (read data).elim (mismatch expected (.claim data)) Except.ok := by
  rw [plainOf, found]
  simp only [Except.bind]
  cases read data <;> rfl

theorem plainOf_eq_absent_iff : plainOf expected read v = .error .absent ↔ v.Missing := by
  cases found : claimData expected v with
  | error cause =>
    rw [plainOf_of_error found, Except.error.injEq, ← claimData_eq_absent_iff, found,
      Except.error.injEq]
  | ok data =>
    have present : ¬ v.Missing := by
      intro missing
      rw [claimData_eq_absent_iff.mpr missing] at found
      cases found
    rw [plainOf_of_ok found]
    refine ⟨fun absent => ?_, fun missing => absurd missing present⟩
    cases isRead : read data with
    | none => rw [isRead] at absent; cases absent
    | some a => rw [isRead] at absent; cases absent

end

/-- Types that receive claim data look at the data in a value and at nothing else in it. -/
theorem exists_plainOf {α : Type} [Injectable α] {type : ValueType}
    (receives : Receives α (.value type)) : ∃ (expected : String) (read : Data → Option α),
      ∀ v : Injected, ofInjected v = plainOf expected read v := by
  have whole (v : Injected) : claimData "claim" v = plainOf "claim" some v := by
    cases found : claimData "claim" v with
    | error cause => exact (plainOf_of_error found).symm
    | ok data => rw [plainOf_of_ok found]; rfl
  cases receives with
  | string => exact ⟨_, _, fun _ => rfl⟩
  | long => exact ⟨_, _, fun _ => rfl⟩
  | double => exact ⟨_, _, fun _ => rfl⟩
  | boolean => exact ⟨_, _, fun _ => rfl⟩
  | stringSet => exact ⟨_, _, fun _ => rfl⟩
  | collected collect =>
    refine ⟨"Set<String>", fun data => data.textSet?.map fun texts => collect texts.toList, ?_⟩
    intro v
    change (plainOf "Set<String>" Data.textSet? v).map _ = _
    cases found : claimData "Set<String>" v with
    | error cause =>
      rw [plainOf_of_error found, plainOf_of_error found]
      rfl
    | ok data =>
      rw [plainOf_of_ok found, plainOf_of_ok found]
      cases data.textSet? <;> rfl
  | jsonObject => exact ⟨_, _, whole⟩
  | any => exact ⟨_, _, whole⟩

/-- An option accepts exactly the missing value that the type rejects, has the same values, and
rejects a value of another type as the type does. -/
structure OptionAgrees (α : Type) [Injectable α] (v : Injected) : Prop where
  none_iff : (ofInjected v : Except InjectError (Option α)) = .ok none ↔
    (ofInjected v : Except InjectError α) = .error .absent
  some_iff (a : α) : (ofInjected v : Except InjectError (Option α)) = .ok (some a) ↔
    ofInjected v = .ok a
  mismatch (expected found : String) :
    (ofInjected v : Except InjectError α) = .error (.typeMismatch expected found) →
      (ofInjected v : Except InjectError (Option α)) = .error (.typeMismatch expected found)

section

variable {α : Type} {x : Except InjectError α}

theorem map_some_ne_none : x.map some ≠ .ok none := by
  cases x <;> nofun

theorem map_some_eq_ok_iff {a : α} : x.map some = .ok (some a) ↔ x = .ok a := by
  cases x <;> simp [Except.map]

theorem map_some_eq_error_iff {cause : InjectError} :
    x.map some = .error cause ↔ x = .error cause := by
  cases x <;> simp [Except.map]

end

section

variable {α : Type} [Injectable α] {type : ValueType} {v : Injected}

theorem ofInjected_eq_absent_iff (receives : Receives α (.value type)) :
    (ofInjected v : Except InjectError α) = .error .absent ↔ v.Missing := by
  obtain ⟨expected, read, isPlain⟩ := exists_plainOf receives
  rw [isPlain]
  exact plainOf_eq_absent_iff

theorem ofInjected_present (receives : Receives α (.value type)) (inner : Injected) :
    (ofInjected (.present inner) : Except InjectError α) = ofInjected inner := by
  obtain ⟨expected, read, isPlain⟩ := exists_plainOf receives
  rw [isPlain, isPlain]
  rfl

theorem option_cases (receives : Receives α (.value type)) (v : Injected) :
    v.Missing ∧ ¬ v.Buried ∧ (ofInjected v : Except InjectError (Option α)) = .ok none ∨
    v.Buried ∧ (ofInjected v : Except InjectError (Option α)) = .error .absent ∨
    ¬ v.Missing ∧ (ofInjected v : Except InjectError (Option α)) = (ofInjected v).map some := by
  cases v with
  | null => exact .inl ⟨.null, nofun, rfl⟩
  | empty => exact .inl ⟨.empty, nofun, rfl⟩
  | present inner =>
    have peeled : (ofInjected (.present inner) : Except InjectError (Option α)) =
        (ofInjected inner).map some := rfl
    by_cases missing : inner.Missing
    · refine .inr (.inl ⟨⟨inner, rfl, missing⟩, ?_⟩)
      rw [peeled, (ofInjected_eq_absent_iff receives).mpr missing]
      rfl
    · refine .inr (.inr ⟨fun both => missing (missing_present_iff.mp both), ?_⟩)
      rw [peeled, ofInjected_present receives inner]
  | claim data => exact .inr (.inr ⟨nofun, rfl⟩)
  | json value => exact .inr (.inr ⟨nofun, rfl⟩)
  | claimValue name inner => exact .inr (.inr ⟨nofun, rfl⟩)
  | provider p => exact .inr (.inr ⟨nofun, rfl⟩)

theorem option_eq_absent_iff (receives : Receives α (.value type)) :
    (ofInjected v : Except InjectError (Option α)) = .error .absent ↔ v.Buried := by
  rcases option_cases receives v with
    ⟨_, notBuried, accepted⟩ | ⟨buried, rejected⟩ | ⟨present, same⟩
  · rw [accepted]
    exact ⟨nofun, fun buried => absurd buried notBuried⟩
  · exact ⟨fun _ => buried, fun _ => rejected⟩
  · rw [same, map_some_eq_error_iff, ofInjected_eq_absent_iff receives]
    exact ⟨fun missing => absurd missing present, Injected.Buried.missing⟩

theorem optionAgrees_iff (receives : Receives α (.value type)) :
    OptionAgrees α v ↔ ¬ v.Buried := by
  have absentIff := ofInjected_eq_absent_iff (v := v) receives
  rcases option_cases receives v with
    ⟨missing, notBuried, accepted⟩ | ⟨buried, rejected⟩ | ⟨present, same⟩
  · have absent := absentIff.mpr missing
    refine iff_of_true ⟨?_, fun a => ?_, fun expected found failed => ?_⟩ notBuried
    · exact iff_of_true accepted absent
    · rw [accepted, absent]
      exact ⟨nofun, nofun⟩
    · rw [absent] at failed
      cases failed
  · refine iff_of_false (fun agrees => ?_) (not_not_intro buried)
    have accepted := agrees.none_iff.mpr (absentIff.mpr buried.missing)
    rw [rejected] at accepted
    cases accepted
  · refine iff_of_true ⟨?_, fun a => ?_, fun expected found failed => ?_⟩
      (fun buried => present buried.missing)
    · rw [same, absentIff]
      exact iff_of_false map_some_ne_none present
    · rw [same, map_some_eq_ok_iff]
    · rw [same, map_some_eq_error_iff, failed]

end

section

variable {plain : DeclaredType} {v : Injected}

theorem Delivers.eq_null_of_missing (delivers : Delivers plain v) (missing : v.Missing) :
    v = .null := by
  cases delivers with
  | missing => rfl
  | claim carries => cases missing
  | json admits => cases missing

theorem Delivers.not_buried (delivers : Delivers plain v) : ¬ v.Buried := by
  rintro ⟨inner, rfl, _⟩
  cases delivers

end

section

variable {name : String} {token : Option Token}

theorem produce_optional_eq_present_iff {inner : DeclaredType} {v : Injected} :
    produce name token (.optional inner) = .present v ↔
      produce name token inner = v ∧ v ≠ .null := by
  rw [produce]
  split
  · rename_i isNull
    rw [isNull]
    constructor
    · intro same
      cases same
    · rintro ⟨same, notNull⟩
      exact absurd same.symm notNull
  · rename_i notNull
    rw [Injected.present.injEq]
    exact ⟨fun same => ⟨same, same ▸ notNull⟩, And.left⟩

theorem produce_optional_ne_null {inner : DeclaredType} :
    produce name token (.optional inner) ≠ .null := by
  intro isNull
  rw [produce] at isNull
  split at isNull <;> cases isNull

theorem missing_produce_optional_iff {inner : DeclaredType} :
    (produce name token (.optional inner)).Missing ↔ (produce name token inner).Missing := by
  rw [produce]
  split
  · rename_i isNull
    rw [isNull]
    exact iff_of_true .empty .null
  · exact missing_present_iff

theorem exists_optional_of_missing {declared : DeclaredType}
    (missing : (produce name token declared).Missing)
    (notNull : produce name token declared ≠ .null) :
    ∃ inner, declared = .optional inner ∧ (produce name token inner).Missing := by
  cases declared with
  | value type => exact absurd ((delivers_produce rfl name token).eq_null_of_missing missing) notNull
  | json type => exact absurd ((delivers_produce rfl name token).eq_null_of_missing missing) notNull
  | optional inner => exact ⟨inner, rfl, missing_produce_optional_iff.mp missing⟩
  | claimValue inner => cases missing
  | provider inner => cases missing

/-- A missing value is buried only for an optional type of an optional type. -/
theorem buried_produce_iff {declared : DeclaredType} : (produce name token declared).Buried ↔
    ∃ inner, declared = .optional (.optional inner) ∧ (produce name token inner).Missing := by
  constructor
  · intro buried
    cases declared with
    | optional outer =>
      obtain ⟨v, produced, missing⟩ := buried
      obtain ⟨rfl, notNull⟩ := produce_optional_eq_present_iff.mp produced
      obtain ⟨inner, same, within⟩ := exists_optional_of_missing missing notNull
      exact ⟨inner, congrArg _ same, within⟩
    | value type => exact absurd buried (delivers_produce rfl name token).not_buried
    | json type => exact absurd buried (delivers_produce rfl name token).not_buried
    | claimValue inner =>
      obtain ⟨v, produced, _⟩ := buried
      cases produced
    | provider inner =>
      obtain ⟨v, produced, _⟩ := buried
      cases produced
  · rintro ⟨inner, rfl, missing⟩
    refine ⟨produce name token (.optional inner), ?_, missing_produce_optional_iff.mpr missing⟩
    exact produce_optional_eq_present_iff.mpr ⟨rfl, produce_optional_ne_null⟩

end

/-- Of all values, an option disagrees with its plain type on buried ones alone: these both of them
reject as missing. A provider that is asked for an option rejects its claim as missing exactly if it
was made for an optional type of an optional type and there is no value, which is a type without a
shape. -/
theorem option_agrees_unless_buried {α : Type} [Injectable α] {type : ValueType}
    (receives : Receives α (.value type)) :
    (∀ v, OptionAgrees α v ↔ ¬ v.Buried) ∧
    (∀ v : Injected, v.Buried ↔
      (ofInjected v : Except InjectError (Option α)) = .error .absent) ∧
    (∀ v : Injected, v.Missing ↔ (ofInjected v : Except InjectError α) = .error .absent) ∧
    ∀ (name : String) (declared : DeclaredType) (slot : Slot),
      ((Provider.getAs ⟨name, declared⟩ (Option α) slot).1 = .error .absent ↔
        ∃ inner, declared = .optional (.optional inner) ∧
          (produce name (Holder.current slot).1 inner).Missing) ∧
      (declared.classify.isSome = true →
        (Provider.getAs ⟨name, declared⟩ (Option α) slot).1 ≠ .error .absent) := by
  have asked (name : String) (declared : DeclaredType) (slot : Slot) :
      (Provider.getAs ⟨name, declared⟩ (Option α) slot).1 = .error .absent ↔
        ∃ inner, declared = .optional (.optional inner) ∧
          (produce name (Holder.current slot).1 inner).Missing :=
    (option_eq_absent_iff receives).trans buried_produce_iff
  refine ⟨fun v => optionAgrees_iff receives, fun v => (option_eq_absent_iff receives).symm,
    fun v => (ofInjected_eq_absent_iff receives).symm, fun name declared slot =>
      ⟨asked name declared slot, fun shaped absent => ?_⟩⟩
  obtain ⟨inner, rfl, _⟩ := (asked name declared slot).mp absent
  cases shaped

private def optionalText : DeclaredType := .optional (.value .string)

theorem absent_text_accepted_once_optional :
    Receives String (.value .string) ∧ OptionAgrees String .empty ∧
    (Provider.getAs ⟨"x", optionalText⟩ (Option String) none).1 ≠ .error .absent ∧
    (Provider.getAs ⟨"x", .optional optionalText⟩ (Option String) none).1 = .error .absent := by
  obtain ⟨agrees, _, _, asked⟩ := option_agrees_unless_buried .string
  refine ⟨.string, (agrees .empty).mpr nofun, (asked "x" optionalText none).2 rfl, ?_⟩
  exact (asked "x" (.optional optionalText) none).1.mpr ⟨.value .string, rfl, .null⟩

/-- Under two optional wrappers, a missing text is rejected as an option of a text too. -/
theorem buried_absence_rejected :
    (ofInjected (.present .empty) : Except InjectError String) = .error .absent ∧
    (ofInjected (.present .empty) : Except InjectError (Option String)) = .error .absent ∧
    ¬ OptionAgrees String (.present .empty) ∧
    (Provider.getAs ⟨"x", .optional (.optional (.value .string))⟩ (Option String) none).1 =
      .error .absent := by
  refine ⟨rfl, rfl, fun agrees => ?_, rfl⟩
  have accepted : Except.error InjectError.absent = Except.ok (none : Option String) :=
    agrees.none_iff.mpr rfl
  cases accepted

end BearerGate.Injection
