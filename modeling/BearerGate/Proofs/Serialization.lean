import BearerGate.Claim.Printer
import BearerGate.Proofs.JsonTexts
import BearerGate.Proofs.LiftAndLower

/-!
Writing claim data. The text of claim data is written straight from it, without the JSON value that
it is lowered to. Main statement: the text is that of the lowered value all the same, so that it is
read as this value, and lifting what was read gives the claim data with lists for sets.
-/

set_option autoImplicit false
set_option relaxedAutoImplicit false

namespace BearerGate

namespace Claim.Data

mutual

/-- How deep containers stand in each other in the value. -/
def depth : Data → Nat
  | .stringSet _ => 1
  | .list items => itemsDepth items + 1
  | .object fields => fieldsDepth fields + 1
  | _ => 0

def itemsDepth : List Data → Nat
  | [] => 0
  | item :: rest => max (depth item) (itemsDepth rest)

def fieldsDepth : List (String × Data) → Nat
  | [] => 0
  | (_, value) :: rest => max (depth value) (fieldsDepth rest)

end

/-! Without doubles everything is lowered. -/

theorem exists_lower {d : Data} (noDouble : d.hasDouble = false) : ∃ j, lower d = some j := by
  cases d with
  | double => cases noDouble
  | string | long | boolean | stringSet | list | object => exact ⟨_, rfl⟩

theorem exists_lowerItems_cons {item : Data} {rest : List Data}
    (noDouble : itemsHaveDouble (item :: rest) = false) :
    ∃ j, lower item = some j ∧ lowerItems (item :: rest) = j :: lowerItems rest ∧
      item.hasDouble = false ∧ itemsHaveDouble rest = false := by
  obtain ⟨here, later⟩ := Bool.or_eq_false_iff.mp noDouble
  obtain ⟨j, lowered⟩ := exists_lower here
  exact ⟨j, lowered, by rw [lowerItems, lowered], here, later⟩

theorem exists_lowerFields_cons {name : String} {value : Data} {rest : List (String × Data)}
    (noDouble : fieldsHaveDouble ((name, value) :: rest) = false) :
    ∃ j, lower value = some j ∧
      lowerFields ((name, value) :: rest) = (name, j) :: lowerFields rest ∧
      value.hasDouble = false ∧ fieldsHaveDouble rest = false := by
  obtain ⟨here, later⟩ := Bool.or_eq_false_iff.mp noDouble
  obtain ⟨j, lowered⟩ := exists_lower here
  exact ⟨j, lowered, by rw [lowerFields, lowered], here, later⟩

/-! The text. -/

theorem printItems_texts (texts : List String) :
    Json.printItems (texts.map .string) = printTexts texts := by
  induction texts with
  | nil => rfl
  | cons text rest ih => rw [List.map_cons, Json.printItems, Json.print, ih, printTexts]

theorem print_stringSet (s : TextSet) :
    (Json.array (s.toList.map .string)).print = (stringSet s).print := by
  rw [print]
  cases s.toList with
  | nil => rfl
  | cons text rest => rw [List.map_cons, Json.print, Json.print, printItems_texts]

mutual

theorem print_of_lower : ∀ (d : Data) (j : Json), d.hasDouble = false → lower d = some j →
    j.print = d.print
  | .string _, _, _, rfl | .long _, _, _, rfl => rfl
  | .boolean true, _, _, rfl | .boolean false, _, _, rfl => rfl
  | .stringSet s, _, _, rfl => print_stringSet s
  | .list [], _, _, rfl | .object [], _, _, rfl => rfl
  | .list (item :: rest), _, noDouble, rfl => by
    obtain ⟨j, lowered, split, here, later⟩ := exists_lowerItems_cons noDouble
    rw [split, Json.print, print_of_lower item j here lowered,
      printItems_lowerItems rest later, print]
  | .object ((name, value) :: rest), _, noDouble, rfl => by
    obtain ⟨j, lowered, split, here, later⟩ := exists_lowerFields_cons noDouble
    rw [split, Json.print, print_of_lower value j here lowered,
      printMembers_lowerFields rest later, print]

theorem printItems_lowerItems : ∀ items : List Data, itemsHaveDouble items = false →
    Json.printItems (lowerItems items) = printItems items
  | [], _ => rfl
  | item :: rest, noDouble => by
    obtain ⟨j, lowered, split, here, later⟩ := exists_lowerItems_cons noDouble
    rw [split, Json.printItems, print_of_lower item j here lowered,
      printItems_lowerItems rest later, printItems]

theorem printMembers_lowerFields : ∀ fields : List (String × Data),
    fieldsHaveDouble fields = false → Json.printMembers (lowerFields fields) = printFields fields
  | [], _ => rfl
  | (name, value) :: rest, noDouble => by
    obtain ⟨j, lowered, split, here, later⟩ := exists_lowerFields_cons noDouble
    rw [split, Json.printMembers, print_of_lower value j here lowered,
      printMembers_lowerFields rest later, printFields]

end

/-! The depth. -/

mutual

theorem within_of_lower : ∀ (d : Data) (n : Nat) (j : Json), d.hasDouble = false → d.depth ≤ n →
    lower d = some j → Json.Within n j
  | .string s, n, _, _, _, rfl => .string n s
  | .long m, n, _, _, _, rfl => .int n _
  | .boolean b, n, _, _, _, rfl => .bool n b
  | .stringSet s, n + 1, _, _, _, rfl => .array fun item member => by
    obtain ⟨text, _, rfl⟩ := List.mem_map.mp member
    exact .string n text
  | .list items, n + 1, _, noDouble, nested, rfl =>
    .array (within_lowerItems items n noDouble (Nat.le_of_succ_le_succ nested))
  | .object fields, n + 1, _, noDouble, nested, rfl =>
    .object (within_lowerFields fields n noDouble (Nat.le_of_succ_le_succ nested))

theorem within_lowerItems : ∀ (items : List Data) (n : Nat), itemsHaveDouble items = false →
    itemsDepth items ≤ n → ∀ v ∈ lowerItems items, Json.Within n v
  | [], _, _, _ => nofun
  | item :: rest, n, noDouble, nested => by
    obtain ⟨j, lowered, split, here, later⟩ := exists_lowerItems_cons noDouble
    obtain ⟨low, lowRest⟩ := Nat.max_le.mp nested
    rw [split]
    exact List.forall_mem_cons.mpr
      ⟨within_of_lower item n j here low lowered, within_lowerItems rest n later lowRest⟩

theorem within_lowerFields : ∀ (fields : List (String × Data)) (n : Nat),
    fieldsHaveDouble fields = false → fieldsDepth fields ≤ n →
    ∀ m ∈ lowerFields fields, Json.Within n m.2
  | [], _, _, _ => nofun
  | (name, value) :: rest, n, noDouble, nested => by
    obtain ⟨j, lowered, split, here, later⟩ := exists_lowerFields_cons noDouble
    obtain ⟨low, lowRest⟩ := Nat.max_le.mp nested
    rw [split]
    exact List.forall_mem_cons.mpr
      ⟨within_of_lower value n j here low lowered, within_lowerFields rest n later lowRest⟩

end

/-! The order of the fields. -/

theorem names_lowerFields : ∀ fields : List (String × Data), fieldsHaveDouble fields = false →
    (lowerFields fields).map (·.1) = fields.map (·.1)
  | [], _ => rfl
  | (name, value) :: rest, noDouble => by
    obtain ⟨j, _, split, _, later⟩ := exists_lowerFields_cons noDouble
    rw [split, List.map_cons, List.map_cons, names_lowerFields rest later]

mutual

theorem ordered_of_lower : ∀ (d : Data) (j : Json), d.hasDouble = false → d.Ordered →
    lower d = some j → j.ordered = j
  | .string _, _, _, _, rfl | .long _, _, _, _, rfl | .boolean _, _, _, _, rfl => rfl
  | .stringSet s, _, _, _, rfl => congrArg Json.array (Json.orderedItems_map_string s.toList)
  | .list items, _, noDouble, inOrder, rfl =>
    congrArg Json.array (orderedItems_lowerItems items noDouble inOrder)
  | .object fields, _, noDouble, ⟨ascending, inOrder⟩, rfl =>
    congrArg Json.object (Json.orderedMembers_of_ascending
      (ordered_lowerFields fields noDouble inOrder)
      (names_lowerFields fields noDouble ▸ ascending) nofun)

theorem orderedItems_lowerItems : ∀ items : List Data, itemsHaveDouble items = false →
    ItemsOrdered items → Json.orderedItems (lowerItems items) = lowerItems items
  | [], _, _ => rfl
  | item :: rest, noDouble, ⟨inOrder, restInOrder⟩ => by
    obtain ⟨j, lowered, split, here, later⟩ := exists_lowerItems_cons noDouble
    rw [split, Json.orderedItems, ordered_of_lower item j here inOrder lowered,
      orderedItems_lowerItems rest later restInOrder]

theorem ordered_lowerFields : ∀ fields : List (String × Data), fieldsHaveDouble fields = false →
    FieldsOrdered fields → ∀ m ∈ lowerFields fields, m.2.ordered = m.2
  | [], _, _ => nofun
  | (name, value) :: rest, noDouble, ⟨inOrder, restInOrder⟩ => by
    obtain ⟨j, lowered, split, here, later⟩ := exists_lowerFields_cons noDouble
    rw [split]
    exact List.forall_mem_cons.mpr ⟨ordered_of_lower value j here inOrder lowered,
      ordered_lowerFields rest later restInOrder⟩

end

/-- Claim data without doubles is written as the text of the value to which it is lowered. The text
is read as this value, and what is lifted from it is the claim data with lists for its sets. -/
theorem serialization_read_back {d : Data} (noDouble : d.hasDouble = false) (inOrder : d.Ordered)
    (nested : d.depth ≤ 127) :
    ∃ text j, d.compact? = some text ∧ lower d = some j ∧ Json.parse? text = some j ∧
      ofJson none j = some d.plain := by
  obtain ⟨j, lowered⟩ := exists_lower noDouble
  have within : Json.Within Json.depthLimit j := within_of_lower d 127 j noDouble nested lowered
  have written : d.compact? = some j.compact := by
    rw [compact?, noDouble, if_neg Bool.false_ne_true, Json.compact,
      print_of_lower d j noDouble lowered]
  have parsed : Json.parse? j.compact = some j := by
    rw [Json.parse?_compact within, ordered_of_lower d j noDouble inOrder lowered]
  have unhinted : ofJson none j = lift j := ofJson_of_ne (Option.some_ne_none _).symm
  exact ⟨j.compact, j, written, lowered, parsed, unhinted.trans (lift_lower d j lowered)⟩

/-- Empty containers, a set, the least and the greatest integer, and texts in which characters are
escaped. -/
private def mixedClaims : Data :=
  .object [("", .list []), ("\"\\", .string "\x01\n/é"),
    ("k", .list [.long Int64.minValue, .long Int64.maxValue, .boolean false, .object []]),
    ("ü", .stringSet (TextSet.ofList ["b", "a"]))]

private def mixedText : String :=
  "\x7b\"\":[],\"\\\"\\\\\":\"\\u0001\\n/é\"," ++
    "\"k\":[-9223372036854775808,9223372036854775807,false,\x7b\x7d],\"ü\":[\"a\",\"b\"]\x7d"

theorem mixed_claims_read_back :
    ∃ j, lower mixedClaims = some j ∧ mixedClaims.compact? = some mixedText ∧
      Json.parse? mixedText = some j ∧
      ofJson none j = some (.object [("", .list []), ("\"\\", .string "\x01\n/é"),
        ("k", .list [.long Int64.minValue, .long Int64.maxValue, .boolean false, .object []]),
        ("ü", .list [.string "a", .string "b"])]) := by
  have inOrder : mixedClaims.Ordered := by
    refine ⟨by decide, ?_⟩
    simp only [FieldsOrdered, ItemsOrdered, Ordered, List.map_nil, List.Pairwise.nil, and_self]
  have known : mixedClaims.compact? = some mixedText := rfl
  obtain ⟨text, j, written, lowered, parsed, lifted⟩ :=
    serialization_read_back (d := mixedClaims) rfl inOrder (by decide)
  cases written.symm.trans known
  exact ⟨j, lowered, known, parsed, lifted⟩

end Claim.Data

end BearerGate
