import BearerGate.Proofs.SettingTrees
import BearerGate.Proofs.Trimming

/-!
Trees of environment variables. A variable says one thing, at the path that its name spells; of
several that decide a path the one listed last counts. Main statements: which path a name spells,
and what stands at a path in the tree of all variables.
-/

set_option autoImplicit false
set_option relaxedAutoImplicit false

namespace BearerGate

namespace Settings

open Settings.Tree

namespace Variable

/-- A text that can be a part of a path in a name: it holds nothing that ends a part. -/
structure Part (cs : List Char) : Prop where
  noPoint : '.' ∉ cs
  separate : ¬ ['_', '_'] <:+: cs

theorem Part.cons {c : Char} {cs : List Char} (isPart : Part cs) (noPoint : c ≠ '.')
    (notHere : ¬ ['_', '_'] <+: c :: cs) : Part (c :: cs) where
  noPoint := List.not_mem_cons_of_ne_of_not_mem noPoint.symm isPart.noPoint
  separate := by
    rw [List.infix_cons_iff, not_or]
    exact ⟨notHere, isPart.separate⟩

theorem Part.separate_concat_point {cs : List Char} (isPart : Part cs) :
    ¬ ['_', '_'] <:+: cs ++ ['.'] := by
  rw [List.infix_concat_iff, not_or]
  refine ⟨fun ends => ?_, isPart.separate⟩
  have last := List.IsSuffix.getLast ends (List.cons_ne_nil _ _)
  rw [List.getLast_concat] at last
  exact absurd last (by decide)

/-- The parts that a name spells, with a point or two underscores behind each but the last. What is
before two underscores must not run into them. -/
inductive Spells : List Char → List (List Char) → Prop
  | last {part : List Char} (isPart : Part part) : Spells part [part]
  | point {part rest : List Char} {parts : List (List Char)} (isPart : Part part)
    (further : Spells rest parts) : Spells (part ++ '.' :: rest) (part :: parts)
  | underscores {part rest : List Char} {parts : List (List Char)} (isPart : Part (part ++ ['_']))
    (further : Spells rest parts) : Spells (part ++ '_' :: '_' :: rest) (part :: parts)

theorem pointed_cons {c : Char} {cs : List Char} (separate : ¬ ['_', '_'] <+: c :: cs) :
    pointed (c :: cs) = c :: pointed cs := by
  rw [pointed]
  rintro rest rfl rfl
  exact separate ⟨rest, rfl⟩

theorem pointed_of_separate {cs : List Char} (separate : ¬ ['_', '_'] <:+: cs) :
    pointed cs = cs := by
  induction cs with
  | nil => rfl
  | cons c cs ih =>
    rw [pointed_cons fun here => separate here.isInfix,
      ih fun later => separate (later.trans (List.suffix_cons c cs).isInfix)]

theorem pointed_append {part : List Char} {c : Char} (separate : ¬ ['_', '_'] <:+: part ++ [c])
    (rest : List Char) : pointed (part ++ c :: rest) = part ++ pointed (c :: rest) := by
  induction part with
  | nil => rw [List.nil_append, List.nil_append]
  | cons d part ih =>
    have notHere : ¬ ['_', '_'] <+: d :: (part ++ c :: rest) := by
      intro here
      have cut : d :: part ++ [c] <+: d :: (part ++ c :: rest) := ⟨rest, by simp⟩
      refine separate (List.prefix_of_prefix_length_le here cut ?_).isInfix
      simp
    rw [List.cons_append, pointed_cons notHere, ih, List.cons_append]
    exact fun later => separate (later.trans (List.suffix_cons d _).isInfix)

theorem Spells.cut {cs : List Char} {parts : List (List Char)} (spells : Spells cs parts) :
    Text.splitOnChar '.' (pointed cs) = parts := by
  induction spells with
  | last isPart =>
    rw [pointed_of_separate isPart.separate, Text.splitOnChar_of_not_mem isPart.noPoint]
  | point isPart _ ih =>
    rw [pointed_append isPart.separate_concat_point, pointed_cons (by simp),
      Text.splitOnChar_append isPart.noPoint, ih]
  | underscores isPart _ ih =>
    have noPoint : '.' ∉ _ := fun member => isPart.noPoint (List.mem_append_left _ member)
    rw [pointed_append isPart.separate, pointed, Text.splitOnChar_append noPoint, ih]

theorem Spells.cons {c : Char} {cs part : List Char} {parts : List (List Char)}
    (spells : Spells cs (part :: parts)) (noPoint : c ≠ '.') (notHere : ¬ ['_', '_'] <+: c :: cs) :
    Spells (c :: cs) ((c :: part) :: parts) := by
  cases spells with
  | last isPart => exact .last (isPart.cons noPoint notHere)
  | @point _ rest _ isPart further =>
    have within : c :: part <+: c :: (part ++ '.' :: rest) := ⟨'.' :: rest, rfl⟩
    exact .point (isPart.cons noPoint fun here => notHere (here.trans within)) further
  | @underscores _ rest _ isPart further =>
    have within : c :: (part ++ ['_']) <+: c :: (part ++ '_' :: '_' :: rest) :=
      ⟨'_' :: rest, by simp⟩
    exact @Spells.underscores (c :: _) rest _
      (isPart.cons noPoint fun here => notHere (here.trans within)) further

theorem spells_cut (cs : List Char) : Spells cs (Text.splitOnChar '.' (pointed cs)) := by
  fun_induction pointed cs with
  | case1 rest ih =>
    rw [Text.splitOnChar, if_pos rfl]
    exact @Spells.underscores [] rest _ ⟨by decide, by decide⟩ ih
  | case2 c cs notPair ih =>
    rw [Text.splitOnChar]
    by_cases point : c = '.'
    · rw [if_pos point, point]
      exact @Spells.point [] cs _ ⟨by decide, by decide⟩ ih
    · obtain ⟨part, parts, cut⟩ := List.exists_cons_of_ne_nil
        (Text.splitOnChar_ne_nil '.' (pointed cs))
      rw [if_neg point, cut]
      refine (cut ▸ ih).cons point ?_
      rintro ⟨rest, same⟩
      cases same
      exact notPair rest rfl rfl
  | case3 => exact .last ⟨List.not_mem_nil, by decide⟩

theorem spells_iff {cs : List Char} {parts : List (List Char)} :
    Spells cs parts ↔ Text.splitOnChar '.' (pointed cs) = parts :=
  ⟨Spells.cut, fun same => same ▸ spells_cut cs⟩

/-- The path that the name of a variable is for. The name is in letters of any case; blanks around
all of it, and between the mark and the path, do not count. -/
inductive Names (name : String) (path : List String) : Prop
  | intro {whole rest spelled : String} (isWhole : Text.Pads name whole)
    (marked : Text.lowerAscii whole = "mpjwt_" ++ rest) (isSpelled : Text.Pads rest spelled)
    (spells : Spells spelled.toList (path.map String.toList)) (filled : ∀ part ∈ path, part ≠ "")

theorem lowerAscii_eq_iff {whole rest : String} : Text.lowerAscii whole = "mpjwt_" ++ rest ↔
    whole.toList.map Char.toLower = mark ++ rest.toList := by
  rw [Text.lowerAscii, ← String.toList_inj, String.toList_ofList, String.toList_append]
  rfl

theorem spells_path_iff {cs : List Char} {path : List String} :
    (Spells cs (path.map String.toList) ∧ ∀ part ∈ path, part ≠ "") ↔
      (Text.splitOnChar '.' (pointed cs)).any List.isEmpty = false ∧
        (Text.splitOnChar '.' (pointed cs)).map String.ofList = path := by
  rw [spells_iff]
  constructor
  · rintro ⟨same, filled⟩
    simpa [same] using filled
  · rintro ⟨filled, rfl⟩
    simpa using filled

theorem path?_eq_some_iff {name : String} {path : List String} :
    path? name = some path ↔ Names name path := by
  have trimmed (text : String) : Text.trimChars text.toList = (Text.trim text).toList := by
    rw [Text.trim, String.toList_ofList]
  rw [path?, trimmed]
  constructor
  · intro isPath
    split at isPath
    · cases isPath
    · rename_i rest found
      obtain ⟨noneEmpty, same⟩ := Option.ite_none_left_eq_some.mp isPath
      obtain ⟨spells, filled⟩ :=
        spells_path_iff.mpr ⟨Bool.eq_false_iff.mpr noneEmpty, Option.some.inj same⟩
      rw [Text.dropLeading?_eq_some_iff, ← String.toList_ofList (l := rest)] at found
      rw [← String.toList_ofList (l := rest), trimmed] at spells
      refine ⟨Text.pads_iff.mpr ⟨rfl, ?_⟩, lowerAscii_eq_iff.mpr found,
        Text.pads_iff.mpr ⟨rfl, ?_⟩, spells, filled⟩
      · intro empty
        rw [empty] at found
        cases found
      -- A path spelled by nothing has one part, an empty one.
      · intro empty
        rw [empty] at spells
        have single : [[]] = path.map String.toList := spells.cut
        have member : [] ∈ path.map String.toList := single ▸ List.mem_singleton_self _
        obtain ⟨part, isPart, same⟩ := List.mem_map.mp member
        exact filled part isPart (String.toList_eq_nil_iff.mp same)
  · rintro ⟨isWhole, marked, isSpelled, spells, filled⟩
    obtain ⟨rfl, _⟩ := Text.pads_iff.mp isWhole
    obtain ⟨rfl, _⟩ := Text.pads_iff.mp isSpelled
    obtain ⟨noneEmpty, same⟩ := spells_path_iff.mp ⟨spells, filled⟩
    rw [lowerAscii_eq_iff.mp marked, Text.dropLeading?_append]
    dsimp only
    rw [trimmed, if_neg (Bool.eq_false_iff.mp noneEmpty), same]

theorem Names.ne_nil {name : String} {path : List String} (names : Names name path) :
    path ≠ [] := by
  obtain ⟨_, _, _, spells, _⟩ := names
  rintro rfl
  exact Text.splitOnChar_ne_nil _ _ spells.cut

/-- A name in letters of any case, without blanks at its ends. -/
theorem Names.of_lower {name spelled : String} {path : List String} (bare : Text.Bare spelled)
    (lower : Text.lowerAscii name = "mpjwt_" ++ spelled)
    (spells : Spells spelled.toList (path.map String.toList)) (filled : ∀ part ∈ path, part ≠ "") :
    Names name path := by
  have lower' := lowerAscii_eq_iff.mp lower
  have bareAt {found : Option Char} {c : Char} (isEnd : found.map Char.toLower = some c)
      (notBlank : Text.isBlank c = false) : ∃ d, found = some d ∧ Text.isBlank d = false := by
    obtain ⟨d, isFound, rfl⟩ := Option.map_eq_some_iff.mp isEnd
    rw [Text.isBlank_toLower] at notBlank
    exact ⟨d, isFound, notBlank⟩
  obtain ⟨last, isLast, notBlank⟩ := bare.2
  have whole : Text.Bare name := by
    refine ⟨bareAt (c := 'm') ?_ (by decide), bareAt ?_ notBlank⟩
    · rw [← List.head?_map, lower']
      rfl
    · rw [← List.getLast?_map, lower', List.getLast?_append, isLast, Option.some_or]
  exact ⟨whole.pads, lower, bare.pads, spells, filled⟩

theorem isTable_ofBare (cs : List Char) : (ofBare cs).isTable = false := by
  unfold ofBare
  split
  · rfl
  · split <;> rfl

mutual

theorem distinct_of_readValue : ∀ {fuel : Nat} {cs rest : List Char} {t : Tree},
    readValue fuel cs = some (t, rest) → Distinct t
  | 0, _, _, _, read => by
    rw [readValue] at read
    cases read
  | fuel + 1, cs, rest, t, read => by
    rw [readValue] at read
    obtain ⟨⟨t, rest⟩, readToken, same⟩ := Option.map_eq_some_iff.mp read
    cases same
    exact distinct_of_readToken readToken

theorem distinct_of_readToken : ∀ {fuel : Nat} {cs rest : List Char} {t : Tree},
    readToken fuel cs = some (t, rest) → Distinct t
  | 0, _, _, _, read => by
    rw [readToken] at read
    cases read
  -- Only what begins with a brace is a table; all the rest are leaves.
  | fuel + 1, cs, rest, t, read => by
    unfold readToken at read
    split at read
    · cases read
    · cases read
      exact .leaf rfl
    · cases read
      exact .leaf rfl
    · rename_i same
      cases same
      obtain ⟨⟨entries, rest⟩, readEntries, same⟩ := Option.map_eq_some_iff.mp read
      cases same
      exact distinct_ofEntries (distinct_of_readEntries readEntries)
    · obtain ⟨⟨items, rest⟩, _, same⟩ := Option.map_eq_some_iff.mp read
      cases same
      exact .leaf rfl
    · obtain ⟨⟨text, rest⟩, _, same⟩ := Option.map_eq_some_iff.mp read
      cases same
      exact .leaf rfl
    · cases read
      exact .leaf rfl
    · cases read
    · cases read
      exact .leaf (isTable_ofBare _)

theorem distinct_of_readEntries : ∀ {fuel : Nat} {cs rest : List Char}
    {entries : List (String × Tree)}, readEntries fuel cs = some (entries, rest) →
      ∀ e ∈ entries, Distinct e.2
  | 0, _, _, _, read => by
    rw [readEntries] at read
    cases read
  | fuel + 1, cs, rest, entries, read => by
    unfold readEntries at read
    split at read
    · cases read
    · cases read
      nofun
    · rename_i same _
      cases same
      obtain ⟨⟨name, afterName⟩, _, read⟩ := Option.bind_eq_some_iff.mp read
      dsimp only at read
      split at read
      · obtain ⟨⟨value, afterValue⟩, readValue, read⟩ := Option.bind_eq_some_iff.mp read
        dsimp only at read
        have isValue := distinct_of_readValue readValue
        split at read
        · obtain ⟨⟨further, rest⟩, readFurther, same⟩ := Option.bind_eq_some_iff.mp read
          cases same
          exact List.forall_mem_cons.mpr ⟨isValue, distinct_of_readEntries readFurther⟩
        · cases read
          exact List.forall_mem_singleton.mpr isValue
        · cases read
      · cases read

end

theorem distinct_value (text : String) : Distinct (value text) := by
  unfold value
  split
  · rename_i tree read
    exact distinct_of_readValue read
  · exact .leaf rfl

theorem distinct_nest {value : Tree} (distinct : Distinct value) (path : List String) :
    Distinct (nest value path) := by
  induction path with
  | nil => exact distinct
  | cons name path ih => exact .table (List.nodup_singleton name) (List.forall_mem_singleton.mpr ih)

/-- What a variable says, if its name is one of a setting. -/
def tree? (v : String × String) : Option Tree := (path? v.1).map (nest (value v.2))

theorem tree?_eq_some_iff {v : String × String} {t : Tree} :
    tree? v = some t ↔ ∃ path, Names v.1 path ∧ nest (value v.2) path = t := by
  simp only [tree?, Option.map_eq_some_iff, path?_eq_some_iff]

theorem isSource_of_tree? {v : String × String} {t : Tree} (isTree : tree? v = some t) :
    IsSource t := by
  obtain ⟨path, names, rfl⟩ := tree?_eq_some_iff.mp isTree
  obtain ⟨name, path, rfl⟩ := List.exists_cons_of_ne_nil names.ne_nil
  exact ⟨rfl, distinct_nest (distinct_value v.2) (name :: path)⟩

/-- Whether a variable decides what stands at a path. -/
def decides (path : List String) (v : String × String) : Bool :=
  (tree? v).any (Tree.decides path)

/-- What a variable says at a path, a table without its entries: what its value has at the rest of
the path behind the one that it names, or that there is a table on the way to the one that it
names. -/
inductive Puts (v : String × String) (path : List String) : Option (Option Tree) → Prop
  | reaches {named further : List String} (names : Names v.1 named)
    (whole : path = named ++ further) (decides : (value v.2).decides further = true) :
    Puts v path (((value v.2).at? further).map leaf)
  | passes {named further : List String} {name : String} (names : Names v.1 named)
    (whole : named = path ++ name :: further) : Puts v path (some none)

theorem at?_nest (value : Tree) (named further : List String) :
    (nest value named).at? (named ++ further) = value.at? further := by
  induction named with
  | nil => rfl
  | cons name named ih =>
    rw [nest, List.cons_append, at?, List.lookup_cons_self, Option.bind_some, ih]

theorem decides_nest (value : Tree) (named further : List String) :
    (nest value named).decides (named ++ further) = value.decides further := by
  induction named with
  | nil => rfl
  | cons name named ih =>
    rw [nest, List.cons_append, Tree.decides, List.lookup_cons_self, Option.any_some, ih]

theorem at?_nest_further (value : Tree) (path further : List String) :
    (nest value (path ++ further)).at? path = some (nest value further) := by
  induction path with
  | nil => rfl
  | cons name path ih =>
    rw [List.cons_append, nest, at?, List.lookup_cons_self, Option.bind_some, ih]

theorem decides_nest_further (value : Tree) (path further : List String) :
    (nest value (path ++ further)).decides path = true := by
  induction path with
  | nil => rfl
  | cons name path ih =>
    rw [List.cons_append, nest, Tree.decides, List.lookup_cons_self, Option.any_some, ih]

/-- A variable has a part only in paths that begin the one it names, or begin with it. -/
theorem prefix_of_decides_nest {value : Tree} {named path : List String}
    (decides : (nest value named).decides path = true) : named <+: path ∨ path <+: named := by
  induction named generalizing path with
  | nil => exact .inl (List.nil_prefix)
  | cons name named ih =>
    cases path with
    | nil => exact .inr List.nil_prefix
    | cons here path =>
      by_cases same : here = name
      · subst same
        rw [nest, Tree.decides, List.lookup_cons_self, Option.any_some] at decides
        rw [List.prefix_cons_inj, List.prefix_cons_inj]
        exact ih decides
      · rw [nest, Tree.decides, lookup_cons_of_ne same] at decides
        cases decides

theorem puts_iff {v : String × String} {path : List String} {seen : Option (Option Tree)} :
    Puts v path seen ↔
      decides path v = true ∧ ((tree? v).bind (at? path)).map leaf = seen := by
  constructor
  · intro puts
    cases puts with
    | reaches names whole valueDecides =>
      rw [decides, tree?_eq_some_iff.mpr ⟨_, names, rfl⟩, Option.any_some, Option.bind_some, whole,
        decides_nest, at?_nest]
      exact ⟨valueDecides, rfl⟩
    | passes names whole =>
      rw [decides, tree?_eq_some_iff.mpr ⟨_, names, rfl⟩, Option.any_some, Option.bind_some, whole,
        decides_nest_further, at?_nest_further]
      exact ⟨rfl, rfl⟩
  · rintro ⟨isDecided, rfl⟩
    rw [decides, Option.any_eq_true] at isDecided
    obtain ⟨t, isTree, treeDecides⟩ := isDecided
    rw [isTree, Option.bind_some]
    obtain ⟨named, names, rfl⟩ := tree?_eq_some_iff.mp isTree
    rcases prefix_of_decides_nest treeDecides with ⟨further, rfl⟩ | ⟨further, rfl⟩
    · rw [decides_nest] at treeDecides
      rw [at?_nest]
      exact .reaches names rfl treeDecides
    · cases further with
      | nil =>
        rw [at?_nest_further]
        exact @Puts.reaches v path (path ++ []) [] names (by simp) rfl
      | cons name further =>
        rw [at?_nest_further]
        exact .passes names rfl

theorem exists_puts_iff {v : String × String} {path : List String} :
    (∃ seen, Puts v path seen) ↔ decides path v = true := by
  simp only [puts_iff, exists_and_left, exists_eq', and_true]

theorem decides_singleton_iff {name : String} {v : String × String} :
    decides [name] v = true ↔ ∃ path, Names v.1 (name :: path) := by
  rw [decides, Option.any_eq_true]
  constructor
  · rintro ⟨t, isTree, decides⟩
    obtain ⟨named, names, rfl⟩ := tree?_eq_some_iff.mp isTree
    obtain ⟨here, path, rfl⟩ := List.exists_cons_of_ne_nil names.ne_nil
    rcases prefix_of_decides_nest decides with begins | begins
    · rw [List.cons_prefix_cons, List.prefix_nil] at begins
      exact ⟨path, begins.1 ▸ names⟩
    · rw [List.cons_prefix_cons] at begins
      exact ⟨path, begins.1 ▸ names⟩
  · rintro ⟨path, names⟩
    exact ⟨_, tree?_eq_some_iff.mpr ⟨_, names, rfl⟩,
      decides_nest_further (value v.2) [name] path⟩

end Variable

theorem ofEnvironment_eq_foldl (environment : Environment) :
    ofEnvironment environment =
      (environment.filterMap Variable.tree?).foldl merge (.table []) := by
  rw [List.foldl_filterMap, ofEnvironment]
  congr
  funext tree v
  rw [Variable.tree?]
  cases Variable.path? v.1 <;> rfl

/-- What environment variables tell about a path: what the last one listed says of those that say
anything about it. -/
inductive Tells (environment : Environment) (path : List String) : Option (Option Tree) → Prop
  | last {before after : Environment} {v : String × String} {seen : Option (Option Tree)}
    (listed : environment = before ++ v :: after) (puts : Variable.Puts v path seen)
    (noneAfter : ∀ w ∈ after, ¬ ∃ seen, Variable.Puts w path seen) :
    Tells environment path seen
  | nothing (unput : ∀ v ∈ environment, ¬ ∃ seen, Variable.Puts v path seen) :
    Tells environment path none

theorem tells_ofEnvironment (environment : Environment) (name : String) (path : List String) :
    Tells environment (name :: path)
      (((ofEnvironment environment).at? (name :: path)).map leaf) := by
  rw [ofEnvironment_eq_foldl, map_at?_foldl_merge fun _ => rfl, ← List.filterMap_reverse,
    List.find?_filterMap, Option.bind_assoc]
  change Tells _ _ (((environment.reverse.find? (Variable.decides (name :: path))).bind
    fun v => (Variable.tree? v).bind (at? (name :: path))).map leaf)
  cases found : environment.reverse.find? (Variable.decides (name :: path)) with
  | none =>
    refine .nothing fun v member => ?_
    rw [Variable.exists_puts_iff]
    exact List.find?_eq_none.mp found v (List.mem_reverse.mpr member)
  | some v =>
    obtain ⟨decides, later, earlier, cut, noLater⟩ := List.find?_eq_some_iff_append.mp found
    rw [List.reverse_eq_iff, List.reverse_append, List.reverse_cons, List.append_assoc,
      List.singleton_append] at cut
    rw [Option.bind_some]
    refine .last cut (Variable.puts_iff.mpr ⟨decides, rfl⟩) fun w member => ?_
    rw [Variable.exists_puts_iff, Bool.not_eq_true, ← Bool.not_eq_true']
    exact noLater w (List.mem_reverse.mp member)

theorem isSome_at?_ofEnvironment_iff {environment : Environment} {name : String} :
    ((ofEnvironment environment).at? [name]).isSome = true ↔
      ∃ v ∈ environment, ∃ path, Variable.Names v.1 (name :: path) := by
  have tells := tells_ofEnvironment environment name []
  rw [← Option.isSome_map (f := leaf)]
  generalize ((ofEnvironment environment).at? [name]).map leaf = seen at tells
  cases tells with
  | @last before after v _ listed puts _ =>
    have member : v ∈ environment := listed ▸ List.mem_append_right before List.mem_cons_self
    obtain ⟨decides, rfl⟩ := Variable.puts_iff.mp puts
    obtain ⟨path, names⟩ := Variable.decides_singleton_iff.mp decides
    refine iff_of_true ?_ ⟨v, member, path, names⟩
    rw [Variable.tree?_eq_some_iff.mpr ⟨_, names, rfl⟩, Option.bind_some, Option.isSome_map]
    exact congrArg Option.isSome (Variable.at?_nest_further (Variable.value v.2) [name] path)
  | nothing unput =>
    refine iff_of_false Bool.false_ne_true ?_
    rintro ⟨v, member, path, names⟩
    exact unput v member
      (Variable.exists_puts_iff.mpr (Variable.decides_singleton_iff.mpr ⟨path, names⟩))

theorem isSource_ofEnvironment (environment : Environment) :
    IsSource (ofEnvironment environment) := by
  suffices merged : ∀ (trees : List Tree), (∀ t ∈ trees, IsSource t) →
      IsSource (trees.foldl merge (.table [])) by
    rw [ofEnvironment_eq_foldl]
    apply merged
    intro t member
    obtain ⟨v, _, isTree⟩ := List.mem_filterMap.mp member
    exact Variable.isSource_of_tree? isTree
  intro trees sources
  induction trees using List.reverseRecOn with
  | nil => exact .empty
  | append_singleton trees t ih =>
    rw [List.forall_mem_append, List.forall_mem_singleton] at sources
    rw [List.foldl_concat]
    exact (ih sources.1).merge sources.2

end Settings

end BearerGate
