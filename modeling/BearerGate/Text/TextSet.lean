/-!
Sets of texts, listed in the order of their code points. Main statements: a set has exactly the
members it was built from, and two sets with the same members are equal.
-/

set_option autoImplicit false
set_option relaxedAutoImplicit false

namespace BearerGate

structure TextSet where
  toList : List String
  sorted : toList.Pairwise (· < ·)
  deriving DecidableEq

namespace TextSet

/-- Put a text at its place in an ordered list, unless it is there already. -/
def place (a : String) : List String → List String
  | [] => [a]
  | b :: rest => if a < b then a :: b :: rest else if a = b then b :: rest else b :: place a rest

theorem mem_place {a x : String} {xs : List String} : x ∈ place a xs ↔ x = a ∨ x ∈ xs := by
  induction xs with
  | nil => simp [place]
  | cons b rest ih =>
    simp only [place]
    split
    · simp
    · split
      · rename_i equal
        simp [equal]
      · simp only [List.mem_cons, ih]
        constructor
        · rintro (h | h | h) <;> simp [h]
        · rintro (h | h | h) <;> simp [h]

theorem place_sorted {a : String} {xs : List String} (h : xs.Pairwise (· < ·)) :
    (place a xs).Pairwise (· < ·) := by
  induction xs with
  | nil => simp [place]
  | cons b rest ih =>
    rw [List.pairwise_cons] at h
    simp only [place]
    split
    · rename_i less
      refine List.pairwise_cons.mpr ⟨?_, List.pairwise_cons.mpr h⟩
      intro x member
      rcases List.mem_cons.mp member with rfl | member
      · exact less
      · exact String.lt_trans less (h.1 x member)
    · split
      · exact List.pairwise_cons.mpr h
      · rename_i notLess ne
        refine List.pairwise_cons.mpr ⟨?_, ih h.2⟩
        intro x member
        rcases mem_place.mp member with rfl | member
        · exact Std.lt_of_le_of_ne (String.not_lt.mp notLess) (Ne.symm ne)
        · exact h.1 x member

def empty : TextSet := ⟨[], List.Pairwise.nil⟩

def insert (s : TextSet) (a : String) : TextSet := ⟨place a s.toList, place_sorted s.sorted⟩

def ofList (xs : List String) : TextSet := xs.foldl insert empty

def singleton (a : String) : TextSet := empty.insert a

def union (s t : TextSet) : TextSet := t.toList.foldl insert s

def contains (s : TextSet) (a : String) : Bool := s.toList.contains a

instance : Membership String TextSet := ⟨fun s a => a ∈ s.toList⟩

theorem mem_def {s : TextSet} {a : String} : a ∈ s ↔ a ∈ s.toList := Iff.rfl

instance (a : String) (s : TextSet) : Decidable (a ∈ s) :=
  inferInstanceAs (Decidable (a ∈ s.toList))

@[simp] theorem contains_iff {s : TextSet} {a : String} : s.contains a = true ↔ a ∈ s := by
  simp [contains, mem_def]

@[simp] theorem not_mem_empty {a : String} : ¬ a ∈ empty := by simp [mem_def, empty]

@[simp] theorem mem_insert {s : TextSet} {a x : String} : x ∈ s.insert a ↔ x = a ∨ x ∈ s :=
  mem_place

theorem mem_foldl_insert {s : TextSet} {x : String} (xs : List String) :
    x ∈ xs.foldl insert s ↔ x ∈ xs ∨ x ∈ s := by
  induction xs generalizing s with
  | nil => simp
  | cons a rest ih =>
    rw [List.foldl_cons, ih, mem_insert, List.mem_cons]
    constructor
    · rintro (h | h | h) <;> simp [h]
    · rintro ((h | h) | h) <;> simp [h]

@[simp] theorem mem_ofList {xs : List String} {x : String} : x ∈ ofList xs ↔ x ∈ xs := by
  simp [ofList, mem_foldl_insert]

@[simp] theorem mem_singleton {a x : String} : x ∈ singleton a ↔ x = a := by
  simp [singleton]

@[simp] theorem mem_union {s t : TextSet} {x : String} : x ∈ s.union t ↔ x ∈ s ∨ x ∈ t := by
  rw [union, mem_foldl_insert, ← mem_def]
  exact Or.comm

private theorem eq_of_sorted {xs ys : List String} (hx : xs.Pairwise (· < ·))
    (hy : ys.Pairwise (· < ·)) (same : ∀ a, a ∈ xs ↔ a ∈ ys) : xs = ys := by
  induction xs generalizing ys with
  | nil =>
    cases ys with
    | nil => rfl
    | cons b ys => simpa using same b
  | cons a xs ih =>
    cases ys with
    | nil => simpa using same a
    | cons b ys =>
      rw [List.pairwise_cons] at hx hy
      have head : a = b := by
        rcases List.mem_cons.mp ((same a).mp List.mem_cons_self) with h | inTail
        · exact h
        · rcases List.mem_cons.mp ((same b).mpr List.mem_cons_self) with h | inTail'
          · exact h.symm
          · exact absurd (String.lt_trans (hx.1 b inTail') (hy.1 a inTail)) (String.lt_irrefl a)
      subst head
      refine congrArg (a :: ·) (ih hx.2 hy.2 fun x => ?_)
      constructor
      · intro member
        rcases List.mem_cons.mp ((same x).mp (List.mem_cons_of_mem a member)) with rfl | h
        · exact absurd (hx.1 x member) (String.lt_irrefl x)
        · exact h
      · intro member
        rcases List.mem_cons.mp ((same x).mpr (List.mem_cons_of_mem a member)) with rfl | h
        · exact absurd (hy.1 x member) (String.lt_irrefl x)
        · exact h

/-- Two sets with the same members are the same set. -/
theorem ext {s t : TextSet} (same : ∀ a, a ∈ s ↔ a ∈ t) : s = t := by
  obtain ⟨xs, hx⟩ := s
  obtain ⟨ys, hy⟩ := t
  simpa using eq_of_sorted hx hy same

theorem insert_of_mem {s : TextSet} {a : String} (member : a ∈ s) : s.insert a = s := by
  refine ext fun x => ?_
  rw [mem_insert]
  exact or_iff_right_of_imp fun same => same ▸ member

end TextSet

end BearerGate
