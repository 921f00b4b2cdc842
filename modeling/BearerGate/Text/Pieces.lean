/-!
Pieces of a text: removing a known beginning or end, cutting at a character, and lines.
-/

set_option autoImplicit false
set_option relaxedAutoImplicit false

namespace BearerGate.Text

def dropLeading? : List Char → List Char → Option (List Char)
  | [], cs => some cs
  | _ :: _, [] => none
  | a :: as, c :: cs => if a = c then dropLeading? as cs else none

def dropClosing? (tail cs : List Char) : Option (List Char) :=
  (dropLeading? tail.reverse cs.reverse).map List.reverse

/-- Cut at every occurrence of a character; there is always at least one part. -/
def splitOnChar (sep : Char) : List Char → List (List Char)
  | [] => [[]]
  | c :: cs =>
    if c = sep then [] :: splitOnChar sep cs
    else match splitOnChar sep cs with
      | [] => [[c]]
      | part :: parts => (c :: part) :: parts

/-- Cut at the first occurrence of a character: what stands before it, and what follows it if it
occurs. -/
def cutAt (sep : Char) : List Char → List Char × Option (List Char)
  | [] => ([], none)
  | c :: cs =>
    if c = sep then ([], some cs) else (c :: (cutAt sep cs).1, (cutAt sep cs).2)

def cutAtLast? (sep : Char) (cs : List Char) : Option (List Char × List Char) :=
  match cutAt sep cs.reverse with
  | (after, some before) => some (before.reverse, after.reverse)
  | (_, none) => none

/-- The lines of a text without their line feeds; a final line feed opens no further line. -/
def lines (cs : List Char) : List (List Char) :=
  if (splitOnChar '\n' cs).getLast? = some [] then (splitOnChar '\n' cs).dropLast
  else splitOnChar '\n' cs

def lowerAscii (s : String) : String :=
  String.ofList (s.toList.map Char.toLower)

/-- Chunks of `size` elements; only the last one may be shorter. -/
def chunks {α : Type} (size : Nat) (xs : List α) : List (List α) :=
  go xs.length xs
where
  go : Nat → List α → List (List α)
    | 0, _ => []
    | _ + 1, [] => []
    | fuel + 1, x :: rest => (x :: rest).take size :: go fuel ((x :: rest).drop size)

theorem dropLeading?_append (as cs : List Char) : dropLeading? as (as ++ cs) = some cs := by
  induction as with
  | nil => rfl
  | cons a as ih => simp [dropLeading?, ih]

theorem dropLeading?_eq_some_iff {as cs rest : List Char} :
    dropLeading? as cs = some rest ↔ cs = as ++ rest := by
  constructor
  · intro found
    induction as generalizing cs with
    | nil => exact Option.some.inj found
    | cons a as ih =>
      cases cs with
      | nil => cases found
      | cons c cs =>
        rw [dropLeading?] at found
        obtain ⟨rfl, later⟩ := Option.ite_none_right_eq_some.mp found
        rw [ih later, List.cons_append]
  · rintro rfl
    exact dropLeading?_append as rest

theorem dropLeading?_of_not_mem {as cs : List Char} {c : Char} (held : c ∈ as) (absent : c ∉ cs) :
    dropLeading? as cs = none := by
  cases found : dropLeading? as cs with
  | none => rfl
  | some rest =>
    rw [dropLeading?_eq_some_iff.mp found] at absent
    exact absurd (List.mem_append_left rest held) absent

theorem isSome_dropLeading?_concat {as : List Char} {c : Char} (absent : c ∉ as)
    (cs : List Char) : (dropLeading? as (cs ++ [c])).isSome = (dropLeading? as cs).isSome := by
  rw [Bool.eq_iff_iff, Option.isSome_iff_exists, Option.isSome_iff_exists]
  simp only [dropLeading?_eq_some_iff]
  constructor
  · rintro ⟨rest, same⟩
    rcases List.eq_nil_or_concat rest with rfl | ⟨rest, d, rfl⟩
    · rw [List.append_nil] at same
      exact absurd (same ▸ List.mem_append_right cs (List.mem_singleton_self c)) absent
    · rw [List.concat_eq_append, ← List.append_assoc] at same
      exact ⟨rest, (List.append_inj' same rfl).1⟩
  · rintro ⟨rest, rfl⟩
    exact ⟨rest ++ [c], List.append_assoc as rest [c]⟩

theorem dropClosing?_append (cs tail : List Char) : dropClosing? tail (cs ++ tail) = some cs := by
  rw [dropClosing?, List.reverse_append, dropLeading?_append, Option.map_some, List.reverse_reverse]

theorem dropClosing?_eq_some_iff {tail cs before : List Char} :
    dropClosing? tail cs = some before ↔ cs = before ++ tail := by
  constructor
  · intro found
    obtain ⟨rest, reversed, rfl⟩ := Option.map_eq_some_iff.mp found
    rw [← List.reverse_inj, dropLeading?_eq_some_iff.mp reversed, List.reverse_append,
      List.reverse_reverse]
  · rintro rfl
    exact dropClosing?_append before tail

theorem splitOnChar_ne_nil (sep : Char) (cs : List Char) : splitOnChar sep cs ≠ [] := by
  cases cs with
  | nil => simp [splitOnChar]
  | cons c cs =>
    simp only [splitOnChar]
    split
    · simp
    · split <;> simp

theorem splitOnChar_of_not_mem {sep : Char} {part : List Char} (absent : sep ∉ part) :
    splitOnChar sep part = [part] := by
  induction part with
  | nil => rfl
  | cons c part ih =>
    rw [List.mem_cons, not_or] at absent
    rw [splitOnChar, if_neg (Ne.symm absent.1), ih absent.2]

theorem splitOnChar_append {sep : Char} {part : List Char} (absent : sep ∉ part)
    (rest : List Char) : splitOnChar sep (part ++ sep :: rest) = part :: splitOnChar sep rest := by
  induction part with
  | nil => rw [List.nil_append, splitOnChar, if_pos rfl]
  | cons c part ih =>
    rw [List.mem_cons, not_or] at absent
    rw [List.cons_append, splitOnChar, if_neg (Ne.symm absent.1), ih absent.2]

theorem splitOnChar_intercalate {sep : Char} {parts : List (List Char)} (nonempty : parts ≠ [])
    (absent : ∀ part ∈ parts, sep ∉ part) :
    splitOnChar sep (List.intercalate [sep] parts) = parts := by
  induction parts with
  | nil => exact absurd rfl nonempty
  | cons part parts ih =>
    obtain ⟨here, further⟩ := List.forall_mem_cons.mp absent
    cases parts with
    | nil => rw [List.intercalate_singleton, splitOnChar_of_not_mem here]
    | cons next parts =>
      rw [List.intercalate_cons_cons, List.append_assoc, List.singleton_append,
        splitOnChar_append here, ih (List.cons_ne_nil _ _) further]

theorem intercalate_splitOnChar (sep : Char) (cs : List Char) :
    List.intercalate [sep] (splitOnChar sep cs) = cs := by
  induction cs with
  | nil => rfl
  | cons c cs ih =>
    obtain ⟨part, parts, cut⟩ := List.exists_cons_of_ne_nil (splitOnChar_ne_nil sep cs)
    rw [cut] at ih
    rw [splitOnChar, cut]
    split
    · rename_i same
      rw [List.intercalate_cons_cons, ih, same]
      rfl
    · dsimp only
      rw [← ih]
      cases parts with
      | nil => rw [List.intercalate_singleton, List.intercalate_singleton]
      | cons next parts =>
        rw [List.intercalate_cons_cons, List.intercalate_cons_cons]
        rfl

theorem mem_of_mem_splitOnChar {sep c : Char} {part cs : List Char}
    (inParts : part ∈ splitOnChar sep cs) (member : c ∈ part) : c ∈ cs ∧ c ≠ sep := by
  induction cs generalizing part with
  | nil =>
    rw [splitOnChar, List.mem_singleton] at inParts
    subst inParts
    cases member
  | cons d cs ih =>
    rw [splitOnChar] at inParts
    split at inParts
    · rcases List.mem_cons.mp inParts with rfl | later
      · cases member
      · exact (ih later member).imp_left (List.mem_cons_of_mem d)
    · rename_i notSep
      split at inParts
      · rename_i none
        exact absurd none (splitOnChar_ne_nil sep cs)
      · rename_i first rest whole
        rcases List.mem_cons.mp inParts with rfl | later
        · rcases List.mem_cons.mp member with rfl | inFirst
          · exact ⟨List.mem_cons_self, notSep⟩
          · have inSplit : first ∈ splitOnChar sep cs := whole ▸ List.mem_cons_self
            exact (ih inSplit inFirst).imp_left (List.mem_cons_of_mem d)
        · have inSplit : part ∈ splitOnChar sep cs := whole ▸ List.mem_cons_of_mem first later
          exact (ih inSplit member).imp_left (List.mem_cons_of_mem d)

theorem mem_of_mem_lines {c : Char} {line cs : List Char} (inLines : line ∈ lines cs)
    (member : c ∈ line) : c ∈ cs ∧ c ≠ '\n' := by
  apply mem_of_mem_splitOnChar _ member
  rw [lines] at inLines
  split at inLines
  · exact (List.dropLast_sublist _).subset inLines
  · exact inLines

theorem lines_ended {parts : List (List Char)} (noFeed : ∀ part ∈ parts, '\n' ∉ part) :
    lines (parts.flatMap (· ++ ['\n'])) = parts := by
  have cut : splitOnChar '\n' (parts.flatMap (· ++ ['\n'])) = parts ++ [[]] := by
    induction parts with
    | nil => rfl
    | cons part parts ih =>
      obtain ⟨here, further⟩ := List.forall_mem_cons.mp noFeed
      rw [List.flatMap_cons, List.append_assoc, List.singleton_append, splitOnChar_append here,
        ih further, List.cons_append]
  rw [lines, cut, if_pos (List.getLast?_concat ..), List.dropLast_concat]

theorem cutAt_of_not_mem {sep : Char} {cs : List Char} (absent : sep ∉ cs) :
    cutAt sep cs = (cs, none) := by
  induction cs with
  | nil => rfl
  | cons c cs ih =>
    rw [List.mem_cons, not_or] at absent
    rw [cutAt, if_neg (Ne.symm absent.1), ih absent.2]

theorem cutAt_eq_some_iff {sep : Char} {cs before after : List Char} :
    cutAt sep cs = (before, some after) ↔ cs = before ++ sep :: after ∧ sep ∉ before := by
  induction cs generalizing before with
  | nil => simp [cutAt]
  | cons c cs ih =>
    rw [cutAt]
    by_cases here : c = sep
    · subst here
      rw [if_pos rfl]
      constructor
      · intro same
        cases same
        exact ⟨rfl, List.not_mem_nil⟩
      · rintro ⟨same, absent⟩
        cases before with
        | nil => rw [(List.cons.inj same).2]
        | cons b before =>
          obtain ⟨rfl, _⟩ := List.cons.inj same
          exact absurd List.mem_cons_self absent
    · rw [if_neg here]
      constructor
      · intro same
        obtain ⟨rfl, found⟩ := Prod.mk.inj same
        obtain ⟨rest, absent⟩ := ih.mp (Prod.ext rfl found)
        refine ⟨congrArg (c :: ·) rest, fun member => ?_⟩
        rcases List.mem_cons.mp member with same | member
        · exact here same.symm
        · exact absent member
      · rintro ⟨same, absent⟩
        cases before with
        | nil => exact absurd (List.cons.inj same).1 here
        | cons b before =>
          obtain ⟨rfl, rest⟩ := List.cons.inj same
          rw [ih.mpr ⟨rest, fun member => absent (List.mem_cons_of_mem _ member)⟩]

end BearerGate.Text
