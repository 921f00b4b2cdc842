import BearerGate.Claim.Lift
import BearerGate.Proofs.IntegerDoubles

/-!
Lifting and lowering, one after the other. Lifting loses nulls and the last bits of integers beyond
the signed 64 bits, lowering loses doubles that are no numbers and what makes a set a set. Main
statement: up to these each undoes the other, at every depth, and the hint of a set of texts brings
a set back as it was.
-/

set_option autoImplicit false
set_option relaxedAutoImplicit false

namespace BearerGate

def WordInt.nearestDouble (n : WordInt) : FiniteDouble where
  value := Double.ofInt n.value
  finite := by
    refine Double.isFinite_ofInt ?_
    by_cases zero : n.value.natAbs = 0
    · rw [zero]
      decide
    · have lower := n.lower
      have upper := n.upper
      have less : n.value.natAbs.log2 < 64 := (Nat.log2_lt zero).mpr (by omega)
      omega

namespace Json

mutual

/-- The value without its nulls, where integers beyond the signed 64 bits are doubles. -/
def prune : Json → Json
  | .int n => if n.value < 2 ^ 63 then .int n else .double n.nearestDouble
  | .array items => .array (pruneItems items)
  | .object members => .object (pruneMembers members)
  | value => value

def pruneItems : List Json → List Json
  | [] => []
  | .null :: rest => pruneItems rest
  | item :: rest => prune item :: pruneItems rest

def pruneMembers : List (String × Json) → List (String × Json)
  | [] => []
  | (_, .null) :: rest => pruneMembers rest
  | (name, value) :: rest => (name, prune value) :: pruneMembers rest

end

theorem pruneItems_cons {item : Json} (notNull : item ≠ .null) (rest : List Json) :
    pruneItems (item :: rest) = prune item :: pruneItems rest := by
  cases item <;> first | rfl | exact absurd rfl notNull

theorem pruneMembers_cons {value : Json} (notNull : value ≠ .null) (name : String)
    (rest : List (String × Json)) :
    pruneMembers ((name, value) :: rest) = (name, prune value) :: pruneMembers rest := by
  cases value <;> first | rfl | exact absurd rfl notNull

end Json

namespace Claim.Data

def isNoNumber : Data → Bool
  | .double d => !d.isFinite
  | _ => false

mutual

/-- The value with lists for sets of texts, and without the doubles in it that are no numbers. -/
def plain : Data → Data
  | .stringSet s => .list (s.toList.map .string)
  | .list items => .list (plainItems items)
  | .object fields => .object (plainFields fields)
  | d => d

def plainItems : List Data → List Data
  | [] => []
  | item :: rest => if item.isNoNumber then plainItems rest else plain item :: plainItems rest

def plainFields : List (String × Data) → List (String × Data)
  | [] => []
  | (name, value) :: rest =>
    if value.isNoNumber then plainFields rest else (name, plain value) :: plainFields rest

end

theorem lift_eq_none_iff {v : Json} : lift v = none ↔ v = .null := by
  cases v <;> simp [lift]

theorem lower_double (x : FiniteDouble) : lower (.double x.value) = some (.double x) := by
  rw [lower, FiniteDouble.ofDouble?, dif_pos x.finite]
  rfl

theorem lower_eq_none_iff {d : Data} : lower d = none ↔ d.isNoNumber = true := by
  cases d with
  | double x =>
    rw [lower, Option.map_eq_none_iff, FiniteDouble.ofDouble?, isNoNumber]
    split
    · rename_i finite
      simp [finite]
    · rename_i notFinite
      simp [notFinite]
  | string | long | boolean | stringSet | list | object => simp [lower, isNoNumber]

theorem lower_cases (d : Data) :
    (lower d = none ∧ d.isNoNumber = true) ∨ ∃ j, lower d = some j ∧ ¬ d.isNoNumber = true := by
  cases lowered : lower d with
  | none => exact .inl ⟨rfl, lower_eq_none_iff.mp lowered⟩
  | some j =>
    refine .inr ⟨j, rfl, fun noNumber => ?_⟩
    rw [lower_eq_none_iff.mpr noNumber] at lowered
    cases lowered

theorem lower_lift_int (n : WordInt) :
    (lift (.int n)).bind lower = some (Json.prune (.int n)) := by
  rw [lift, Json.prune, WordInt.toInt64?]
  by_cases small : n.value < 2 ^ 63
  · rw [if_pos small, if_pos small, Option.bind_some, lower]
    have same : WordInt.ofInt64 (Int64.ofInt n.value) = n := by
      obtain ⟨value, lower, upper⟩ := n
      have kept : (Int64.ofInt value).toInt = value := Int64.toInt_ofInt_of_le lower small
      simp only [WordInt.ofInt64, kept]
    rw [same]
  · have same : Double.ofInt n.value = n.nearestDouble.value := rfl
    rw [if_neg small, if_neg small, Option.bind_some, same]
    exact lower_double n.nearestDouble

theorem lift_ofInt64 (n : Int64) : lift (.int (WordInt.ofInt64 n)) = some (.long n) := by
  have small : (WordInt.ofInt64 n).value < 2 ^ 63 := Int64.toInt_lt n
  rw [lift, WordInt.toInt64?, if_pos small]
  have same : Int64.ofInt (WordInt.ofInt64 n).value = n := Int64.ofInt_toInt n
  rw [same]

mutual

theorem lower_lift : ∀ v : Json, v ≠ .null → (lift v).bind lower = some v.prune
  | .null, notNull => absurd rfl notNull
  | .bool _, _ | .string _, _ => rfl
  | .int n, _ => lower_lift_int n
  | .double x, _ => lower_double x
  | .array items, _ => congrArg (some ∘ Json.array) (lowerItems_liftItems items)
  | .object members, _ => congrArg (some ∘ Json.object) (lowerFields_liftMembers members)

theorem lowerItems_liftItems : ∀ items : List Json,
    lowerItems (liftItems items) = Json.pruneItems items
  | [] => rfl
  | item :: rest => by
    have later := lowerItems_liftItems rest
    by_cases isNull : item = .null
    · rw [isNull]
      exact later
    · obtain ⟨d, lifted, lowered⟩ := Option.bind_eq_some_iff.mp (lower_lift item isNull)
      -- What is lifted can be lowered again, so that nothing more is dropped on the way back.
      rw [Json.pruneItems_cons isNull, liftItems, lifted, ← later]
      dsimp only
      rw [lowerItems, lowered]

theorem lowerFields_liftMembers : ∀ members : List (String × Json),
    lowerFields (liftMembers members) = Json.pruneMembers members
  | [] => rfl
  | (name, value) :: rest => by
    have later := lowerFields_liftMembers rest
    by_cases isNull : value = .null
    · rw [isNull]
      exact later
    · obtain ⟨d, lifted, lowered⟩ := Option.bind_eq_some_iff.mp (lower_lift value isNull)
      rw [Json.pruneMembers_cons isNull, liftMembers, lifted, ← later]
      dsimp only
      rw [lowerFields, lowered]

end

theorem lift_of_lower_double {x : Double} {j : Json} (lowered : lower (.double x) = some j) :
    lift j = some (.double x) := by
  obtain ⟨y, found, rfl⟩ := Option.map_eq_some_iff.mp lowered
  rw [FiniteDouble.ofDouble?, Option.dite_none_right_eq_some] at found
  obtain ⟨_, same⟩ := found
  cases same
  rfl

theorem liftItems_strings (texts : List String) :
    liftItems (texts.map .string) = texts.map .string := by
  induction texts with
  | nil => rfl
  | cons text rest ih => exact congrArg (Data.string text :: ·) ih

mutual

theorem lift_lower : ∀ (d : Data) (j : Json), lower d = some j → lift j = some d.plain
  | .string _, _, rfl | .boolean _, _, rfl => rfl
  | .long n, _, rfl => lift_ofInt64 n
  | .double _, _, lowered => lift_of_lower_double lowered
  | .stringSet s, _, rfl => congrArg (some ∘ Data.list) (liftItems_strings s.toList)
  | .list items, _, rfl => congrArg (some ∘ Data.list) (liftItems_lowerItems items)
  | .object fields, _, rfl => congrArg (some ∘ Data.object) (liftMembers_lowerFields fields)

theorem liftItems_lowerItems : ∀ items : List Data,
    liftItems (lowerItems items) = plainItems items
  | [] => rfl
  | item :: rest => by
    have later := liftItems_lowerItems rest
    rcases lower_cases item with ⟨lowered, noNumber⟩ | ⟨j, lowered, isNumber⟩
    · rw [lowerItems, lowered, plainItems, if_pos noNumber]
      exact later
    · rw [lowerItems, lowered, plainItems, if_neg isNumber, ← later]
      dsimp only
      rw [liftItems, lift_lower item j lowered]

theorem liftMembers_lowerFields : ∀ fields : List (String × Data),
    liftMembers (lowerFields fields) = plainFields fields
  | [] => rfl
  | (name, value) :: rest => by
    have later := liftMembers_lowerFields rest
    rcases lower_cases value with ⟨lowered, noNumber⟩ | ⟨j, lowered, isNumber⟩
    · rw [lowerFields, lowered, plainFields, if_pos noNumber]
      exact later
    · rw [lowerFields, lowered, plainFields, if_neg isNumber, ← later]
      dsimp only
      rw [liftMembers, lift_lower value j lowered]

end

theorem ofJson_lower_stringSet (s : TextSet) :
    (lower (.stringSet s)).bind (ofJson (some .stringSet)) = some (.stringSet s) := by
  have allTexts : (s.toList.map Json.string).all Json.isString = true := by
    rw [List.all_map, List.all_eq_true]
    exact fun _ _ => rfl
  have texts : (s.toList.map Json.string).filterMap Json.string? = s.toList := by
    rw [List.filterMap_map]
    exact List.filterMap_some
  have same : TextSet.ofList s.toList = s := TextSet.ext fun a => by
    rw [TextSet.mem_ofList, TextSet.mem_def]
  rw [lower, Option.bind_some, ofJson, if_pos allTexts, texts, same]

/-- Lifting and lowering undo each other, up to what each of them loses. -/
theorem lift_lower_inverse :
    (∀ v : Json, (ofJson none v = none ↔ v = .null) ∧
      (v ≠ .null → (ofJson none v).bind lower = some v.prune)) ∧
    (∀ n : WordInt, 2 ^ 63 ≤ n.value → ∃ k, Double.IsNearest n.value.natAbs 2048 k ∧
      n.nearestDouble.value.Denotes ((2048 * k : Nat) : Int)) ∧
    (∀ d : Data, (lower d = none ↔ ∃ x : Double, d = .double x ∧ x.isFinite = false) ∧
      ∀ j, lower d = some j → ofJson none j = some d.plain) ∧
    ∀ s : TextSet,
      (lower (.stringSet s)).bind (ofJson (some .stringSet)) = some (.stringSet s) := by
  have unhinted (v : Json) : ofJson none v = lift v := ofJson_of_ne nofun
  have noNumber (d : Data) :
      d.isNoNumber = true ↔ ∃ x : Double, d = .double x ∧ x.isFinite = false := by
    cases d <;> simp [isNoNumber]
  simp only [unhinted]
  exact ⟨fun v => ⟨lift_eq_none_iff, lower_lift v⟩, fun n => Double.exists_denotes_wide,
    fun d => ⟨lower_eq_none_iff.trans (noNumber d), lift_lower d⟩, ofJson_lower_stringSet⟩

private def withNulls : Json :=
  .object [("a", .array [.null, .bool true, .object [("b", .null)]]), ("c", .null)]

private def withSet : Data :=
  .list [.stringSet (TextSet.ofList ["b", "a"]), .double ⟨0x7FF8000000000000⟩, .long 1]

private def greatest : WordInt := ⟨2 ^ 64 - 1, by decide, by decide⟩

theorem nulls_and_sets_lost :
    (ofJson none withNulls).bind lower =
      some (.object [("a", .array [.bool true, .object []])]) ∧
    (∃ j, lower withSet = some j ∧
      ofJson none j = some (.list [.list [.string "a", .string "b"], .long 1])) ∧
    ∃ k, Double.IsNearest greatest.value.natAbs 2048 k ∧
      greatest.nearestDouble.value.Denotes ((2048 * k : Nat) : Int) := by
  obtain ⟨lifted, wide, lowered, _⟩ := lift_lower_inverse
  exact ⟨(lifted withNulls).2 nofun, ⟨_, rfl, (lowered withSet).2 _ rfl⟩,
    wide greatest (by decide)⟩

end Claim.Data

end BearerGate
