import BearerGate.Text.TextSet

/-!
Tables from texts to values, listed in the order of the code points of their keys. Main statements:
what a look-up gives after each operation.
-/

set_option autoImplicit false
set_option relaxedAutoImplicit false

namespace BearerGate

structure TextMap (α : Type) where
  entries : List (String × α)
  sorted : entries.Pairwise (fun a b => a.1 < b.1)

namespace TextMap

variable {α β : Type}

instance [DecidableEq α] : DecidableEq (TextMap α) := fun m n =>
  decidable_of_iff (m.entries = n.entries) (by cases m; cases n; simp)

/-- Set a key in an ordered list, replacing the value that it had. -/
def place (key : String) (value : α) : List (String × α) → List (String × α)
  | [] => [(key, value)]
  | e :: rest =>
    if key < e.1 then (key, value) :: e :: rest
    else if key = e.1 then (key, value) :: rest
    else e :: place key value rest

theorem mem_of_mem_place {key : String} {value : α} {es : List (String × α)} {x : String × α}
    (member : x ∈ place key value es) : x = (key, value) ∨ x ∈ es := by
  induction es with
  | nil => exact .inl (List.mem_singleton.mp member)
  | cons e rest ih =>
    rw [place] at member
    split at member
    · exact List.mem_cons.mp member
    · split at member
      · exact (List.mem_cons.mp member).imp_right (List.mem_cons_of_mem e)
      · rcases List.mem_cons.mp member with rfl | later
        · exact .inr List.mem_cons_self
        · exact (ih later).imp_right (List.mem_cons_of_mem e)

theorem place_sorted {key : String} {value : α} {es : List (String × α)}
    (h : es.Pairwise (fun a b => a.1 < b.1)) :
    (place key value es).Pairwise (fun a b => a.1 < b.1) := by
  induction es with
  | nil => simp [place]
  | cons e rest ih =>
    rw [List.pairwise_cons] at h
    simp only [place]
    split
    · rename_i less
      refine List.pairwise_cons.mpr ⟨?_, List.pairwise_cons.mpr h⟩
      intro x member
      rcases List.mem_cons.mp member with rfl | member
      · exact less
      · exact String.lt_trans less (h.1 x member)
    · split
      · rename_i same
        exact List.pairwise_cons.mpr ⟨fun x member => same ▸ h.1 x member, h.2⟩
      · rename_i notLess ne
        refine List.pairwise_cons.mpr ⟨?_, ih h.2⟩
        intro x member
        rcases mem_of_mem_place member with rfl | member
        · exact Std.lt_of_le_of_ne (String.not_lt.mp notLess) (Ne.symm ne)
        · exact h.1 x member

theorem place_last {key : String} (value : α) {es : List (String × α)}
    (before : ∀ e ∈ es, e.1 < key) : place key value es = es ++ [(key, value)] := by
  induction es with
  | nil => rfl
  | cons e rest ih =>
    obtain ⟨less, others⟩ := List.forall_mem_cons.mp before
    have notBefore : ¬ key < e.1 :=
      fun greater => String.lt_irrefl _ (String.lt_trans less greater)
    have other : key ≠ e.1 := fun same => String.lt_irrefl _ (same ▸ less)
    rw [place, if_neg notBefore, if_neg other, ih others, List.cons_append]

def empty : TextMap α := ⟨[], List.Pairwise.nil⟩

def insert (m : TextMap α) (key : String) (value : α) : TextMap α :=
  ⟨place key value m.entries, place_sorted m.sorted⟩

/-- The table of a list of pairs; of pairs with one key the last one counts. -/
def ofList (es : List (String × α)) : TextMap α :=
  es.foldl (fun m e => m.insert e.1 e.2) empty

def find? (m : TextMap α) (key : String) : Option α := m.entries.lookup key

def contains (m : TextMap α) (key : String) : Bool := (m.find? key).isSome

def keys (m : TextMap α) : List String := m.entries.map (·.1)

def erase (m : TextMap α) (key : String) : TextMap α :=
  ⟨m.entries.filter (fun e => e.1 != key), m.sorted.sublist List.filter_sublist⟩

/-- Rework each entry, dropping those without a result. -/
def filterMap (f : String → α → Option β) (m : TextMap α) : TextMap β where
  entries := m.entries.filterMap (fun e => (f e.1 e.2).map (e.1, ·))
  sorted := by
    refine m.sorted.filterMap _ ?_
    intro a b less x hx y hy
    obtain ⟨_, _, rfl⟩ := Option.map_eq_some_iff.mp hx
    obtain ⟨_, _, rfl⟩ := Option.map_eq_some_iff.mp hy
    exact less

def map (f : α → β) (m : TextMap α) : TextMap β where
  entries := m.entries.map (fun e => (e.1, f e.2))
  sorted := List.pairwise_map.mpr m.sorted

def keySet (m : TextMap α) : TextSet where
  toList := m.keys
  sorted := List.pairwise_map.mpr m.sorted

@[simp] theorem find?_empty (key : String) : (empty : TextMap α).find? key = none := rfl

theorem lookup_cons (key : String) (e : String × α) (rest : List (String × α)) :
    (e :: rest).lookup key = if e.1 = key then some e.2 else rest.lookup key := by
  rw [List.lookup_cons]
  by_cases same : e.1 = key
  · rw [if_pos same, beq_iff_eq.mpr same.symm]
  · rw [if_neg same, beq_eq_false_iff_ne.mpr (Ne.symm same)]

private theorem lookup_place (key other : String) (value : α) (es : List (String × α)) :
    (place key value es).lookup other = if key = other then some value else es.lookup other := by
  induction es with
  | nil => rw [place, lookup_cons]
  | cons e rest ih =>
    simp only [place]
    split
    · rw [lookup_cons]
    · split
      · rename_i same
        simp only [lookup_cons, ← same]
        split <;> rfl
      · rename_i ne
        simp only [lookup_cons, ih]
        split
        · rename_i same
          simp [← same, ne]
        · rfl

@[simp] theorem find?_insert (m : TextMap α) (key other : String) (value : α) :
    (m.insert key value).find? other = if key = other then some value else m.find? other :=
  lookup_place key other value m.entries

theorem lookup_filter_ne (key other : String) (es : List (String × α)) :
    (es.filter (fun e => e.1 != key)).lookup other =
      if key = other then none else es.lookup other := by
  induction es with
  | nil => simp
  | cons e rest ih =>
    rw [List.filter_cons]
    by_cases same : e.1 = key
    · simp only [same, bne_self_eq_false, Bool.false_eq_true, if_false, ih, lookup_cons]
      split <;> rfl
    · simp only [bne_iff_ne, ne_eq, same, not_false_eq_true, if_true, lookup_cons, ih]
      split
      · rename_i equal
        simp [← equal, Ne.symm same]
      · rfl

@[simp] theorem find?_erase (m : TextMap α) (key other : String) :
    (m.erase key).find? other = if key = other then none else m.find? other :=
  lookup_filter_ne key other m.entries

theorem lookup_eq_find? (key : String) (es : List (String × α)) :
    es.lookup key = (es.find? (·.1 == key)).map (·.2) := by
  induction es with
  | nil => rfl
  | cons e rest ih => by_cases same : e.1 = key <;> simp [lookup_cons, same, ih]

private theorem lookup_filterMap (f : String → α → Option β) (key : String)
    {es : List (String × α)} (sorted : es.Pairwise (fun a b => a.1 < b.1)) :
    (es.filterMap (fun e => (f e.1 e.2).map (e.1, ·))).lookup key =
      (es.lookup key).bind (f key) := by
  induction es with
  | nil => rfl
  | cons e rest ih =>
    rw [List.pairwise_cons] at sorted
    rw [List.filterMap_cons]
    by_cases same : e.1 = key
    · subst same
      cases image : f e.1 e.2 with
      | some w => simp [lookup_cons, image]
      | none =>
        simp only [Option.map_none, lookup_cons, if_true, Option.bind_some, image]
        refine List.lookup_eq_none_iff.mpr fun e' member => bne_iff_ne.mpr fun equal => ?_
        obtain ⟨e'', member', found⟩ := List.mem_filterMap.mp member
        obtain ⟨_, _, rfl⟩ := Option.map_eq_some_iff.mp found
        have less := sorted.1 e'' member'
        rw [equal] at less
        exact String.lt_irrefl _ less
    · cases f e.1 e.2 <;> simp [lookup_cons, same, ih sorted.2]

@[simp] theorem find?_filterMap (f : String → α → Option β) (m : TextMap α) (key : String) :
    (m.filterMap f).find? key = (m.find? key).bind (f key) :=
  lookup_filterMap f key m.sorted

private theorem find?_foldl_insert {key : String} {es : List (String × α)}
    (others : ∀ e ∈ es, e.1 ≠ key) (m : TextMap α) :
    (es.foldl (fun m e => m.insert e.1 e.2) m).find? key = m.find? key := by
  induction es generalizing m with
  | nil => rfl
  | cons e rest ih =>
    rw [List.foldl_cons, ih fun e' member => others e' (List.mem_cons_of_mem e member), find?_insert,
      if_neg (others e List.mem_cons_self)]

/-- Of pairs among which a key stands at most once the table has the value that they give to it. -/
theorem find?_ofList {key : String} {es : List (String × α)}
    (once : (es.filter fun e => e.1 == key).length ≤ 1) :
    (ofList es).find? key = es.lookup key := by
  suffices started : ∀ m : TextMap α, m.find? key = none →
      (es.foldl (fun m e => m.insert e.1 e.2) m).find? key = es.lookup key from
    started empty (find?_empty key)
  induction es with
  | nil => exact fun m fresh => fresh
  | cons e rest ih =>
    intro m fresh
    rw [List.foldl_cons, lookup_cons]
    by_cases here : e.1 = key
    · have noMore : ∀ e' ∈ rest, e'.1 ≠ key := by
        intro e' member same
        have kept : e' ∈ rest.filter fun e => e.1 == key :=
          List.mem_filter.mpr ⟨member, beq_iff_eq.mpr same⟩
        have none : (rest.filter fun e => e.1 == key).length = 0 := by
          rw [List.filter_cons, if_pos (beq_iff_eq.mpr here), List.length_cons] at once
          omega
        rw [List.length_eq_zero_iff.mp none] at kept
        cases kept
      rw [find?_foldl_insert noMore, find?_insert, if_pos here, if_pos here]
    · have later : (rest.filter fun e => e.1 == key).length ≤ 1 := by
        rwa [List.filter_cons, if_neg (by simpa using here)] at once
      have stillFresh : (m.insert e.1 e.2).find? key = none := by
        rw [find?_insert, if_neg here, fresh]
      rw [ih later _ stillFresh, if_neg here]

theorem mem_keys_iff {m : TextMap α} {key : String} :
    key ∈ m.keys ↔ (m.find? key).isSome = true := by
  obtain ⟨es, sorted⟩ := m
  simp only [keys, find?]
  clear sorted
  induction es with
  | nil => simp
  | cons e rest ih =>
    simp only [List.map_cons, List.mem_cons, ih, lookup_cons]
    by_cases same : e.1 = key
    · simp [same]
    · simp [same, Ne.symm same]

end TextMap

end BearerGate
