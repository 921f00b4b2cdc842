import BearerGate.Settings.Load
import Mathlib.Data.List.Induction
import Mathlib.Data.List.Nodup

/-!
Trees of settings. A path leads through tables to a value; a tree decides a path if it has a value
there, or on the way to it something that is no table. Main statements: of two merged trees the
later one is read wherever it decides the path, and the earlier one elsewhere; and in the trees of
documents and of environment variables no table has a name twice.
-/

set_option autoImplicit false
set_option relaxedAutoImplicit false

namespace BearerGate

namespace TextMap

variable {α : Type}

private theorem mem_of_mem_foldl_insert {es : List (String × α)} {m : TextMap α}
    {x : String × α} (member : x ∈ (es.foldl (fun m e => m.insert e.1 e.2) m).entries) :
    x ∈ m.entries ∨ x ∈ es := by
  induction es generalizing m with
  | nil => exact .inl member
  | cons e rest ih =>
    rcases ih member with here | later
    · rcases mem_of_mem_place here with rfl | before
      · exact .inr List.mem_cons_self
      · exact .inl before
    · exact .inr (List.mem_cons_of_mem e later)

theorem mem_of_mem_ofList {es : List (String × α)} {x : String × α}
    (member : x ∈ (ofList es).entries) : x ∈ es :=
  (mem_of_mem_foldl_insert member).resolve_left List.not_mem_nil

theorem nodup_keys (m : TextMap α) : m.keys.Nodup := by
  refine List.pairwise_map.mpr (m.sorted.imp ?_)
  intro a b less same
  rw [same] at less
  exact String.lt_irrefl _ less

end TextMap

namespace Settings

section

variable {α : Type} {name other : String} {value : α} {entries : List (String × α)}

theorem lookup_cons_of_ne (ne : name ≠ other) :
    ((other, value) :: entries).lookup name = entries.lookup name := by
  rw [List.lookup_cons, beq_false_of_ne ne]

theorem lookup_filter_of_ne (ne : name ≠ other) :
    (entries.filter fun e => e.1 != other).lookup name = entries.lookup name := by
  rw [TextMap.lookup_filter_ne, if_neg (Ne.symm ne)]

theorem mem_of_lookup_eq_some (found : entries.lookup name = some value) :
    (name, value) ∈ entries := by
  obtain ⟨before, after, rfl, _⟩ := List.lookup_eq_some_iff.mp found
  exact List.mem_append_right before List.mem_cons_self

theorem lookup_eq_none_iff_not_mem : entries.lookup name = none ↔ name ∉ entries.map (·.1) := by
  rw [List.lookup_eq_none_iff, List.mem_map]
  constructor
  · rintro differs ⟨e, member, rfl⟩
    exact bne_iff_ne.mp (differs e member) rfl
  · intro absent e member
    rw [bne_iff_ne]
    rintro rfl
    exact absent ⟨e, member, rfl⟩

theorem isSome_lookup_iff :
    (entries.lookup name).isSome = true ↔ ∃ value, (name, value) ∈ entries := by
  rw [← Option.ne_none_iff_isSome, ne_eq, lookup_eq_none_iff_not_mem, not_not, List.mem_map]
  constructor
  · rintro ⟨e, member, rfl⟩
    exact ⟨e.2, member⟩
  · rintro ⟨value, member⟩
    exact ⟨_, member, rfl⟩

theorem lookup_of_mem (distinct : (entries.map (·.1)).Nodup) (member : (name, value) ∈ entries) :
    entries.lookup name = some value := by
  cases found : entries.lookup name with
  | none => exact absurd (List.mem_map_of_mem member) (lookup_eq_none_iff_not_mem.mp found)
  | some other =>
    have same := List.inj_on_of_nodup_map distinct (mem_of_lookup_eq_some found) member rfl
    rw [(Prod.mk.inj same).2]

end

namespace Tree

def isTable : Tree → Bool
  | .table _ => true
  | _ => false

/-- The value at the end of a path through tables. -/
def at? : List String → Tree → Option Tree
  | [], t => some t
  | name :: path, .table entries => (entries.lookup name).bind (at? path)
  | _ :: _, _ => none

/-- Whether a tree has a value at the end of a path, or before it one that is no table. -/
def decides : List String → Tree → Bool
  | [], _ => true
  | name :: path, .table entries => (entries.lookup name).any (decides path)
  | _ :: _, _ => true

/-- A value as it is, unless it is a table. -/
def leaf (t : Tree) : Option Tree := if t.isTable then none else some t

section

variable {t earlier later : Tree}

theorem exists_table (isTable : t.isTable = true) : ∃ entries, t = .table entries := by
  cases t with
  | table entries => exact ⟨entries, rfl⟩
  | null | bool _ | integer _ | fraction | text _ | list _ => cases isTable

theorem merge_of_earlier_leaf (noTable : earlier.isTable = false) :
    earlier.merge later = later := by
  cases earlier with
  | table _ => cases noTable
  | null | bool _ | integer _ | fraction | text _ | list _ => rw [merge]; nofun

theorem merge_of_later_leaf (noTable : later.isTable = false) : earlier.merge later = later := by
  cases later with
  | table _ => cases noTable
  | null | bool _ | integer _ | fraction | text _ | list _ => rw [merge]; nofun

theorem isTable_merge (earlier later : Tree) :
    (earlier.merge later).isTable = later.isTable := by
  cases kind' : later.isTable with
  | false => rw [merge_of_later_leaf kind', kind']
  | true =>
    cases kind : earlier.isTable with
    | false => rw [merge_of_earlier_leaf kind, kind']
    | true =>
      obtain ⟨entries, rfl⟩ := exists_table kind
      obtain ⟨entries', rfl⟩ := exists_table kind'
      rw [merge, isTable]

theorem at?_cons_of_leaf (noTable : t.isTable = false) (name : String) (path : List String) :
    t.at? (name :: path) = none := by
  cases t with
  | table _ => cases noTable
  | null | bool _ | integer _ | fraction | text _ | list _ => rfl

theorem decides_of_leaf (noTable : t.isTable = false) (path : List String) :
    t.decides path = true := by
  cases path with
  | nil => rfl
  | cons name path =>
    cases t with
    | table _ => cases noTable
    | null | bool _ | integer _ | fraction | text _ | list _ => rfl

end

theorem at?_of_not_decides {path : List String} {t : Tree} (undecided : t.decides path = false) :
    t.at? path = none := by
  induction path generalizing t with
  | nil => cases undecided
  | cons name path ih =>
    cases kind : t.isTable with
    | false => exact at?_cons_of_leaf kind name path
    | true =>
      obtain ⟨entries, rfl⟩ := exists_table kind
      rw [decides] at undecided
      rw [at?]
      cases found : entries.lookup name with
      | none => rfl
      | some value =>
        rw [found, Option.any_some] at undecided
        exact ih undecided

theorem lookup_mergeEntries (name : String) (earlier later : List (String × Tree)) :
    (mergeEntries earlier later).lookup name =
      Option.merge merge (earlier.lookup name) (later.lookup name) := by
  induction earlier generalizing later with
  | nil => rw [mergeEntries, List.lookup_nil, Option.merge_none_left]
  | cons e earlier ih =>
    obtain ⟨here, value⟩ := e
    rw [mergeEntries]
    cases found : later.lookup here with
    | some value' =>
      by_cases same : name = here
      · subst same
        simp only [List.lookup_cons_self, found, Option.merge_some_some]
      · simp only [lookup_cons_of_ne same, ih, lookup_filter_of_ne same]
    | none =>
      by_cases same : name = here
      · subst same
        simp only [List.lookup_cons_self, found, Option.merge_none_right]
      · simp only [lookup_cons_of_ne same, ih]

/-- What is read of two merged trees by a reader that reads no tables: that of the later tree where
it decides the path, and else that of the earlier one. -/
theorem map_at?_merge {α : Type} {read : Tree → Option α}
    (noTables : ∀ entries, read (.table entries) = none) (path : List String)
    (earlier later : Tree) :
    ((earlier.merge later).at? path).map read =
      ((if later.decides path then later else earlier).at? path).map read := by
  -- Merging goes down as long as both trees are tables, and so does the induction on the path.
  induction path generalizing earlier later with
  | nil =>
    rw [decides, if_pos rfl, at?, at?, Option.map_some, Option.map_some]
    cases kind : later.isTable with
    | false => rw [merge_of_later_leaf kind]
    | true =>
      obtain ⟨merged, same⟩ := exists_table ((isTable_merge earlier later).trans kind)
      obtain ⟨entries, rfl⟩ := exists_table kind
      rw [same, noTables, noTables]
  | cons name path ih =>
    cases kind' : later.isTable with
    | false => rw [merge_of_later_leaf kind', decides_of_leaf kind', if_pos rfl]
    | true =>
      cases kind : earlier.isTable with
      | false =>
        rw [merge_of_earlier_leaf kind]
        split
        · rfl
        · rename_i undecided
          rw [at?_of_not_decides (Bool.eq_false_iff.mpr undecided), at?_cons_of_leaf kind]
      | true =>
        obtain ⟨entries, rfl⟩ := exists_table kind
        obtain ⟨entries', rfl⟩ := exists_table kind'
        rw [merge, at?, lookup_mergeEntries, decides]
        cases found : entries.lookup name with
        | none =>
          rw [Option.merge_none_left]
          split
          · rw [at?]
          · rename_i undecided
            have none' : (Tree.table entries').at? (name :: path) = none :=
              at?_of_not_decides (Bool.eq_false_iff.mpr undecided)
            rw [at?] at none'
            rw [none', at?, found, Option.bind_none]
        | some value =>
          cases found' : entries'.lookup name with
          | none =>
            rw [Option.merge_none_right, Option.any_none, if_neg Bool.false_ne_true, at?, found]
          | some value' =>
            rw [Option.merge_some_some, Option.bind_some, Option.any_some, ih]
            split
            · rw [at?, found', Option.bind_some]
            · rw [at?, found, Option.bind_some]

/-- What stands in a table below a name is read in the last one of the merged trees that decides
the path. -/
theorem map_at?_foldl_merge {α : Type} {read : Tree → Option α}
    (noTables : ∀ entries, read (.table entries) = none) (name : String) (path : List String)
    (trees : List Tree) :
    ((trees.foldl merge (.table [])).at? (name :: path)).map read =
      ((trees.reverse.find? (decides (name :: path))).bind (at? (name :: path))).map read := by
  induction trees using List.reverseRecOn with
  | nil => rfl
  | append_singleton trees t ih =>
    rw [List.foldl_concat, List.reverse_concat, List.find?_cons, map_at?_merge noTables]
    cases t.decides (name :: path) with
    | true => rw [if_pos rfl, Option.bind_some]
    | false => rw [if_neg Bool.false_ne_true, ih]

/-- No table in a tree has two entries with one name. -/
inductive Distinct : Tree → Prop
  | leaf {t : Tree} (noTable : t.isTable = false) : Distinct t
  | table {entries : List (String × Tree)} (names : (entries.map (·.1)).Nodup)
    (values : ∀ e ∈ entries, Distinct e.2) : Distinct (.table entries)

theorem Distinct.names {entries : List (String × Tree)} (distinct : Distinct (.table entries)) :
    (entries.map (·.1)).Nodup := by
  cases distinct with
  | leaf noTable => cases noTable
  | table names _ => exact names

theorem Distinct.values {entries : List (String × Tree)} (distinct : Distinct (.table entries)) :
    ∀ e ∈ entries, Distinct e.2 := by
  cases distinct with
  | leaf noTable => cases noTable
  | table _ values => exact values

theorem mem_mergeEntries {e : String × Tree} {earlier later : List (String × Tree)}
    (member : e ∈ mergeEntries earlier later) : e ∈ earlier ∨ e ∈ later ∨
      ∃ value value', (e.1, value) ∈ earlier ∧ (e.1, value') ∈ later ∧
        e.2 = value.merge value' := by
  induction earlier generalizing later with
  | nil =>
    rw [mergeEntries] at member
    exact .inr (.inl member)
  | cons first earlier ih =>
    obtain ⟨here, value⟩ := first
    rw [mergeEntries] at member
    have further {rest : List (String × Tree)} (inRest : ∀ e ∈ rest, e ∈ later)
        (member : e ∈ mergeEntries earlier rest) : e ∈ (here, value) :: earlier ∨ e ∈ later ∨
          ∃ v v', (e.1, v) ∈ (here, value) :: earlier ∧ (e.1, v') ∈ later ∧ e.2 = v.merge v' := by
      rcases ih member with inEarlier | inLater | ⟨v, v', inEarlier, inLater, same⟩
      · exact .inl (List.mem_cons_of_mem _ inEarlier)
      · exact .inr (.inl (inRest e inLater))
      · exact .inr (.inr ⟨v, v', List.mem_cons_of_mem _ inEarlier, inRest _ inLater, same⟩)
    cases found : later.lookup here with
    | some value' =>
      rw [found] at member
      rcases List.mem_cons.mp member with rfl | member
      · exact .inr (.inr ⟨value, value', List.mem_cons_self, mem_of_lookup_eq_some found, rfl⟩)
      · exact further (fun e kept => List.mem_of_mem_filter kept) member
    | none =>
      rw [found] at member
      rcases List.mem_cons.mp member with rfl | member
      · exact .inl List.mem_cons_self
      · exact further (fun _ kept => kept) member

theorem nodup_mergeEntries {earlier later : List (String × Tree)}
    (names : (earlier.map (·.1)).Nodup) (names' : (later.map (·.1)).Nodup) :
    ((mergeEntries earlier later).map (·.1)).Nodup := by
  have found_of_mem {entries : List (String × Tree)} {name : String}
      (member : name ∈ entries.map (·.1)) : entries.lookup name ≠ none :=
    fun none => lookup_eq_none_iff_not_mem.mp none member
  induction earlier generalizing later with
  | nil => rwa [mergeEntries]
  | cons first earlier ih =>
    obtain ⟨here, value⟩ := first
    rw [List.map_cons, List.nodup_cons] at names
    have gone := lookup_eq_none_iff_not_mem.mpr names.1
    rw [mergeEntries]
    cases found : later.lookup here with
    | some value' =>
      have kept : ((later.filter fun e => e.1 != here).map (·.1)).Nodup :=
        names'.sublist (List.filter_sublist.map _)
      have gone' : (later.filter fun e => e.1 != here).lookup here = none := by
        rw [lookup_eq_none_iff_not_mem, List.mem_map]
        rintro ⟨e, member, rfl⟩
        exact bne_iff_ne.mp (List.mem_filter.mp member).2 rfl
      refine List.nodup_cons.mpr ⟨fun member => found_of_mem member ?_, ih names.2 kept⟩
      rw [lookup_mergeEntries, gone, gone', Option.merge_none_left]
    | none =>
      refine List.nodup_cons.mpr ⟨fun member => found_of_mem member ?_, ih names.2 names'⟩
      rw [lookup_mergeEntries, gone, found, Option.merge_none_left]

theorem Distinct.merge {earlier later : Tree} (distinct : Distinct earlier)
    (distinct' : Distinct later) : Distinct (earlier.merge later) := by
  induction distinct generalizing later with
  | leaf noTable => rwa [merge_of_earlier_leaf noTable]
  | table names values ih =>
    cases distinct' with
    | leaf noTable =>
      rw [merge_of_later_leaf noTable]
      exact .leaf noTable
    | table names' values' =>
      rw [Tree.merge]
      refine .table (nodup_mergeEntries names names') fun e member => ?_
      rcases mem_mergeEntries member with inEarlier | inLater | ⟨v, v', inEarlier, inLater, same⟩
      · exact values e inEarlier
      · exact values' e inLater
      · rw [same]
        exact ih _ inEarlier (values' _ inLater)

theorem distinct_ofEntries {entries : List (String × Tree)}
    (values : ∀ e ∈ entries, Distinct e.2) : Distinct (ofEntries entries) := by
  refine .table ?_ fun e member => values e (TextMap.mem_of_mem_ofList member)
  exact TextMap.nodup_keys _

end Tree

open Settings.Tree (Distinct isTable distinct_ofEntries)

/-- A tree that a source of settings as a whole can be: a table, and no table in it has two entries
with one name. -/
structure IsSource (t : Tree) : Prop where
  isTable : t.isTable = true
  distinct : Distinct t

theorem IsSource.empty : IsSource (.table []) := ⟨rfl, .table .nil nofun⟩

theorem IsSource.merge {earlier later : Tree} (source : IsSource earlier)
    (source' : IsSource later) : IsSource (earlier.merge later) :=
  ⟨(Tree.isTable_merge earlier later).trans source'.isTable,
    source.distinct.merge source'.distinct⟩

namespace Yaml

theorem isTable_ofPlain (text : List Char) : (ofPlain text).isTable = false := by
  unfold ofPlain
  split
  · rfl
  · split
    · rfl
    · rfl
    · split <;> rfl

theorem isTable_of_ofKind? {kind : String} {text : List Char} {t : Tree}
    (read : ofKind? kind text = some t) : t.isTable = false := by
  unfold ofKind? at read
  split at read
  · obtain ⟨_, same⟩ := Option.ite_none_right_eq_some.mp read
    cases same
    rfl
  · obtain ⟨b, _, rfl⟩ := Option.map_eq_some_iff.mp read
    rfl
  · obtain ⟨n, _, rfl⟩ := Option.map_eq_some_iff.mp read
    rfl
  · obtain ⟨_, same⟩ := Option.ite_none_right_eq_some.mp read
    cases same
    rfl
  · cases read
    rfl

namespace Node

mutual

theorem distinct_of_toTree? : ∀ {node : Node} {t : Tree}, node.toTree? = some t → Distinct t
  | .alias name, t, read => by
    rw [toTree?] at read
    cases read
  | .scalar p plain text, t, read => by
    rw [toTree?] at read
    split at read
    · cases read
      split
      · exact .leaf (isTable_ofPlain text)
      · exact .leaf rfl
    · exact .leaf (isTable_of_ofKind? read)
    · cases read
    · cases read
      exact .leaf rfl
  | .list p items, t, read => by
    rw [toTree?] at read
    obtain ⟨_, read⟩ := Option.ite_none_left_eq_some.mp read
    obtain ⟨trees, _, rfl⟩ := Option.map_eq_some_iff.mp read
    exact .leaf rfl
  | .table p entries, t, read => by
    rw [toTree?] at read
    obtain ⟨_, read⟩ := Option.ite_none_left_eq_some.mp read
    obtain ⟨trees, readEntries, rfl⟩ := Option.map_eq_some_iff.mp read
    exact distinct_ofEntries (distinct_of_entryTrees? readEntries)

theorem distinct_of_entryTrees? : ∀ {entries : List (Node × Node)} {trees : List (String × Tree)},
    entryTrees? entries = some trees → ∀ e ∈ trees, Distinct e.2
  | [], trees, read => by
    cases read
    nofun
  | (key, value) :: rest, trees, read => by
    rw [entryTrees?] at read
    obtain ⟨name, _, read⟩ := Option.bind_eq_some_iff.mp read
    obtain ⟨t, readValue, read⟩ := Option.bind_eq_some_iff.mp read
    obtain ⟨further, readRest, same⟩ := Option.bind_eq_some_iff.mp read
    cases same
    exact List.forall_mem_cons.mpr
      ⟨distinct_of_toTree? readValue, distinct_of_entryTrees? readRest⟩

end

end Node

theorem isSource_of_parse? {text : String} {t : Tree} (read : parse? text = some t) :
    IsSource t := by
  rw [parse?] at read
  obtain ⟨_, read⟩ := Option.ite_none_left_eq_some.mp read
  obtain ⟨⟨node, last⟩, _, read⟩ := Option.bind_eq_some_iff.mp read
  obtain ⟨_, read⟩ := Option.ite_none_right_eq_some.mp read
  obtain ⟨⟨plain, anchors⟩, _, read⟩ := Option.bind_eq_some_iff.mp read
  dsimp only at read
  split at read
  · obtain ⟨trees, readEntries, rfl⟩ := Option.map_eq_some_iff.mp read
    exact ⟨rfl, distinct_ofEntries (Node.distinct_of_entryTrees? readEntries)⟩
  · cases read
    exact .empty
  · cases read

end Yaml

end Settings

end BearerGate
