import BearerGate.Proofs.SettingFields
import BearerGate.Proofs.VariableTrees

/-!
Layers of settings: defaults, a file, environment variables. Main statement: loading gives exactly
the settings in which each field has the value of the last layer that has one, and the table of role
mappings is layered group by group; any other key makes it fail.
-/

set_option autoImplicit false
set_option relaxedAutoImplicit false

namespace BearerGate

namespace Settings

open Settings.Tree

namespace Tree

theorem at?_singleton (name : String) (entries : List (String × Tree)) :
    (Tree.table entries).at? [name] = entries.lookup name := by
  rw [at?]
  cases entries.lookup name <;> rfl

/-- The value at a path in the later of two trees if it has one there, and else that in the earlier
one. -/
def layered (earlier later : Tree) (path : List String) : Option Tree :=
  (later.at? path).or (earlier.at? path)

theorem map_at?_merge_eq_layered {α : Type} {read : Tree → Option α}
    (noTables : ∀ entries, read (.table entries) = none) {path : List String} {earlier later : Tree}
    (direct : later.decides path = (later.at? path).isSome) :
    ((earlier.merge later).at? path).map read = (layered earlier later path).map read := by
  rw [map_at?_merge noTables, direct, layered]
  cases found : later.at? path with
  | none => rfl
  | some t => rw [Option.isSome_some, if_pos rfl, found, Option.some_or]

theorem decides_eq_isSome_at? {t : Tree} (isTable : t.isTable = true) (name : String) :
    t.decides [name] = (t.at? [name]).isSome := by
  obtain ⟨entries, rfl⟩ := exists_table isTable
  rw [at?_singleton, decides]
  cases entries.lookup name <;> rfl

/-- A path into a table of a table is decided by a value at its end. -/
theorem decides_eq_isSome_at?_further {t : Tree} {name : String} (isTable : t.isTable = true)
    (tables : ∀ value, t.at? [name] = some value → value.isTable = true) (further : String) :
    t.decides [name, further] = (t.at? [name, further]).isSome := by
  obtain ⟨entries, rfl⟩ := exists_table isTable
  rw [at?_singleton] at tables
  rw [at?, decides]
  cases found : entries.lookup name with
  | none => rfl
  | some value =>
    rw [Option.any_some, Option.bind_some]
    exact decides_eq_isSome_at? (tables value found) further

end Tree

/-- The tree that a document gives: an empty table if there is no path to one, or else what the text
of the file at the path means. -/
inductive Documents (files : Files) : Option String → Tree → Prop
  | noPath : Documents files none (.table [])
  | file {path text : String} {tree : Tree} (content : files path = some (Text.utf8 text))
    (parsed : Yaml.parse? text = some tree) : Documents files (some path) tree

/-- The settings that a file and environment variables give, by what stands at each path in either:
no other key than that of a field, each field but one as it is written in the environment, or else
in the file, or else by default, and of the table of role mappings each group so. -/
structure Layers (file environment : Tree) (s : Settings) : Prop where
  known : ∀ name, (environment.at? [name]).isSome = true ∨ (file.at? [name]).isSome = true →
    ∃ f : Field, f.name = name
  given : ∀ f : Field, f ≠ .roleMappings → ∀ t, layered file environment [f.name] = some t →
    t = f.tree (f.get s)
  byDefault : ∀ f : Field, f ≠ .roleMappings → layered file environment [f.name] = none →
    f.get s = f.fallback
  table : ∀ t, layered file environment [Field.roleMappings.name] = some t → t.isTable = true
  groups : ∀ group, layered file environment [Field.roleMappings.name, group] =
    (s.roleMappings.find? group).map textsTree

theorem takenFrom_roleMappings_iff {found : Option Tree} {s : Settings}
    (distinct : ∀ t, found = some t → Distinct t) :
    Field.roleMappings.TakenFrom found default s ↔ (∀ t, found = some t → t.isTable = true) ∧
      ∀ group, (found.bind (at? [group])).map textsSetting =
        (s.roleMappings.find? group).map some := by
  cases found with
  | none =>
    constructor
    · intro same
      change s.roleMappings = TextMap.empty at same
      constructor
      · intro t found
        cases found
      · intro group
        rw [same]
        rfl
    · rintro ⟨_, same⟩
      refine TextMap.ext_find? fun group => ?_
      exact Option.map_eq_none_iff.mp (same group).symm
  | some t =>
    rw [Field.TakenFrom]
    cases kind : t.isTable with
    | false =>
      refine iff_of_false (fun read => ?_) fun all => ?_
      · change tableSetting t = some _ at read
        rw [tableSetting_of_leaf kind] at read
        cases read
      · have isTable := all.1 t rfl
        rw [kind] at isTable
        cases isTable
    | true =>
      obtain ⟨entries, rfl⟩ := exists_table kind
      have only : ∀ t, some (Tree.table entries) = some t → t.isTable = true := by
        rintro t same
        cases same
        rfl
      rw [and_iff_right only]
      simp only [Option.bind_some, at?_singleton]
      exact tableSetting_eq_some_iff (distinct _ rfl).names

theorem isTable_of_same_leaf {found found' : Option Tree}
    (same : found.map leaf = found'.map leaf) (tables : ∀ t, found = some t → t.isTable = true) :
    ∀ t, found' = some t → t.isTable = true := by
  rintro t rfl
  obtain ⟨t', isFound, same⟩ := Option.map_eq_some_iff.mp same
  rw [leaf, if_pos (tables t' isFound)] at same
  by_contra noTable
  rw [leaf, if_neg noTable] at same
  cases same

section

variable {file environment : Tree} {merged : List (String × Tree)}

theorem known_iff (source : IsSource file) (source' : IsSource environment)
    (isMerged : file.merge environment = .table merged) :
    (∀ e ∈ merged, ∃ f : Field, f.name = e.1) ↔
      ∀ name, (environment.at? [name]).isSome = true ∨ (file.at? [name]).isSome = true →
        ∃ f : Field, f.name = name := by
  obtain ⟨entries, rfl⟩ := exists_table source.isTable
  obtain ⟨entries', rfl⟩ := exists_table source'.isTable
  rw [merge] at isMerged
  cases isMerged
  have inEither (name : String) : (∃ t, (name, t) ∈ mergeEntries entries entries') ↔
      (entries'.lookup name).isSome = true ∨ (entries.lookup name).isSome = true := by
    rw [← isSome_lookup_iff, lookup_mergeEntries, Option.isSome_merge, Bool.or_eq_true, or_comm]
  simp only [at?_singleton, ← inEither]
  constructor
  · rintro known name ⟨t, member⟩
    exact known _ member
  · rintro known ⟨name, t⟩ member
    exact known name ⟨t, member⟩

theorem map_lookup_merged {α : Type} {read : Tree → Option α}
    (noTables : ∀ entries, read (.table entries) = none) (source' : IsSource environment)
    (isMerged : file.merge environment = .table merged) (name : String) :
    (merged.lookup name).map read = (layered file environment [name]).map read := by
  rw [← at?_singleton, ← isMerged]
  exact map_at?_merge_eq_layered noTables (decides_eq_isSome_at? source'.isTable name)

theorem map_lookup_merged_further (source' : IsSource environment)
    (isMerged : file.merge environment = .table merged) {name : String}
    (tables : ∀ t, layered file environment [name] = some t → t.isTable = true) (group : String) :
    ((merged.lookup name).bind (at? [group])).map textsSetting =
      (layered file environment [name, group]).map textsSetting := by
  have same : (merged.lookup name).bind (at? [group]) =
      (file.merge environment).at? [name, group] := by
    rw [isMerged, at?]
  rw [same]
  refine map_at?_merge_eq_layered (fun _ => rfl)
    (decides_eq_isSome_at?_further source'.isTable (fun t found => tables t ?_) group)
  rw [layered, found, Option.some_or]

theorem ofTree?_merge_eq_some_iff {s : Settings} (source : IsSource file)
    (source' : IsSource environment) :
    ofTree? (file.merge environment) = some s ↔ Layers file environment s := by
  obtain ⟨merged, isMerged⟩ := exists_table (source.merge source').isTable
  have distinct : Distinct (.table merged) := isMerged ▸ (source.merge source').distinct
  have values (t : Tree) (found : merged.lookup Field.roleMappings.name = some t) : Distinct t :=
    distinct.values _ (mem_of_lookup_eq_some found)
  -- All fields but the role mappings read no tables, so that they are read in one layer alone. Of
  -- the role mappings it is the groups that are; of the table itself only that it is one.
  have noTables (entries : List (String × Tree)) : leaf (.table entries) = none := rfl
  have sameLeaf := map_lookup_merged noTables source' isMerged Field.roleMappings.name
  have same {f : Field} (ne : f ≠ .roleMappings) : f.TakenFrom (merged.lookup f.name) default s ↔
      (∀ t, layered file environment [f.name] = some t → t = f.tree (f.get s)) ∧
        (layered file environment [f.name] = none → f.get s = f.fallback) :=
    (Field.TakenFrom.congr (map_lookup_merged (Field.read_table ne) source' isMerged f.name)).trans
      (Field.takenFrom_default_iff ne)
  rw [isMerged, ofTree?, foldlM_apply_eq_some_iff distinct.names,
    known_iff source source' isMerged]
  constructor
  · rintro ⟨known, taken⟩
    obtain ⟨tables, groups⟩ := (takenFrom_roleMappings_iff values).mp (taken .roleMappings)
    have tables' := isTable_of_same_leaf sameLeaf tables
    refine ⟨known, fun f ne => ((same ne).mp (taken f)).1, fun f ne => ((same ne).mp (taken f)).2,
      tables', fun group => ?_⟩
    rw [← map_textsSetting_eq_iff, ← map_lookup_merged_further source' isMerged tables' group,
      groups group]
  · intro layers
    have tables := isTable_of_same_leaf sameLeaf.symm layers.table
    refine ⟨layers.known, fun f => ?_⟩
    by_cases mappings : f = .roleMappings
    · subst mappings
      refine (takenFrom_roleMappings_iff values).mpr ⟨tables, fun group => ?_⟩
      rw [map_lookup_merged_further source' isMerged layers.table group, map_textsSetting_eq_iff,
        layers.groups group]
    · exact (same mappings).mpr ⟨layers.given f mappings, layers.byDefault f mappings⟩

end

variable {files : Files} {path : Option String} {environment : Environment} {s : Settings}

theorem fileTree_eq_ok_iff {file : Tree} :
    fileTree files path = .ok file ↔ Documents files path file := by
  constructor
  · intro read
    cases path with
    | none =>
      cases read
      exact .noPath
    | some p =>
      rw [fileTree] at read
      split at read
      · cases read
      · rename_i content isContent
        split at read
        · rename_i tree parsed
          cases read
          obtain ⟨text, isText, parsed⟩ := Option.bind_eq_some_iff.mp parsed
          rw [← Text.ofUtf8?_eq_some_iff.mp isText] at isContent
          exact .file isContent parsed
        · cases read
  · intro documents
    cases documents with
    | noPath => rfl
    | file content parsed =>
      simp only [fileTree, content, Text.ofUtf8?_eq_some_iff.mpr rfl, Option.bind_some, parsed]

theorem Documents.isSource {file : Tree} (isFile : Documents files path file) : IsSource file := by
  cases isFile with
  | noPath => exact .empty
  | file _ parsed => exact Yaml.isSource_of_parse? parsed

theorem load_of_documents {file : Tree} (isFile : Documents files path file) :
    load files path environment =
      (ofTree? (file.merge (ofEnvironment environment))).elim (.error .malformed) .ok := by
  rw [load, fileTree_eq_ok_iff.mpr isFile]
  dsimp only [bind, Except.bind]
  cases ofTree? (file.merge (ofEnvironment environment)) <;> rfl

theorem load_eq_ok_iff : load files path environment = .ok s ↔
    ∃ file, Documents files path file ∧ Layers file (ofEnvironment environment) s := by
  simp only [← fileTree_eq_ok_iff]
  cases isFile : fileTree files path with
  | error e =>
    rw [load, isFile]
    refine iff_of_false (fun same => ?_) ?_
    · cases same
    · rintro ⟨_, same, _⟩
      cases same
  | ok file =>
    have documents := fileTree_eq_ok_iff.mp isFile
    simp only [Except.ok.injEq, exists_eq_left']
    rw [load_of_documents documents, ← ofTree?_merge_eq_some_iff documents.isSource
      (isSource_ofEnvironment environment)]
    cases ofTree? (file.merge (ofEnvironment environment)) with
    | none => exact iff_of_false (fun same => by cases same) fun same => by cases same
    | some settings => rw [Option.elim_some, Except.ok.injEq, Option.some.injEq]

theorem load_of_missing {p : String} (missing : files p = none) :
    load files (some p) environment = .error (.missingFile p) := by
  rw [load, fileTree, missing]
  rfl

theorem load_of_unknown {file : Tree} {name : String} (isFile : Documents files path file)
    (unknown : ¬ ∃ f : Field, f.name = name)
    (holds : ((ofEnvironment environment).at? [name]).isSome = true ∨
      (file.at? [name]).isSome = true) :
    load files path environment = .error .malformed := by
  rw [load_of_documents isFile]
  cases isSettings : ofTree? (file.merge (ofEnvironment environment)) with
  | none => rfl
  | some s =>
    have layers := (ofTree?_merge_eq_some_iff isFile.isSource
      (isSource_ofEnvironment environment)).mp isSettings
    exact absurd (layers.known name holds) unknown

theorem names_of_field {f : Field} {name : String}
    (lower : Text.lowerAscii name = "mpjwt_" ++ f.name) : Variable.Names name [f.name] := by
  have isPart : Variable.Part f.name.toList := by
    cases f <;> exact ⟨by decide, by decide +kernel⟩
  have bare : Text.Bare f.name := by
    cases f <;> exact ⟨⟨_, rfl, by decide⟩, _, rfl, by decide⟩
  refine .of_lower bare lower (.last isPart) (List.forall_mem_singleton.mpr ?_)
  cases f <;> decide

theorem names_of_group {name group : String} (isPart : Variable.Part group.toList)
    (bareEnd : ∃ c, group.toList.getLast? = some c ∧ Text.isBlank c = false)
    (lower : Text.lowerAscii name = "mpjwt_role_mappings__" ++ group) :
    Variable.Names name [Field.roleMappings.name, group] := by
  have isTable : Variable.Part ("role_mappings".toList ++ ['_']) :=
    ⟨by decide, by decide +kernel⟩
  have spelled : ("role_mappings__" ++ group).toList =
      "role_mappings".toList ++ '_' :: '_' :: group.toList := by
    rw [String.toList_append]
    rfl
  obtain ⟨c, isLast, notBlank⟩ := bareEnd
  have bare : Text.Bare ("role_mappings__" ++ group) := by
    refine ⟨⟨'r', ?_, by decide⟩, c, ?_, notBlank⟩
    · rw [spelled]
      rfl
    · rw [String.toList_append, List.getLast?_append, isLast, Option.some_or]
  have lower' : Text.lowerAscii name = "mpjwt_" ++ ("role_mappings__" ++ group) := by
    rw [lower, ← String.append_assoc]
    rfl
  refine .of_lower bare lower' (spelled ▸ .underscores isTable (.last isPart)) ?_
  rw [List.forall_mem_cons, List.forall_mem_singleton]
  refine ⟨by decide, ?_⟩
  rintro rfl
  cases isLast

/-- Loading succeeds with the settings that the layers give, and with no others. What stands in the
layer of the environment is what its variables tell, and a variable is about a setting, or about one
group of the role mappings, if its name spells so after the mark. A key of either layer that is no
setting makes loading fail, and so does a path at which there is no file, whatever the environment
holds. -/
theorem load_layered (files : Files) (path : Option String) (environment : Environment) :
    (∀ s, load files path environment = .ok s ↔
      ∃ file, Documents files path file ∧ Layers file (ofEnvironment environment) s) ∧
    (∀ name further, Tells environment (name :: further)
      (((ofEnvironment environment).at? (name :: further)).map leaf)) ∧
    (∀ (f : Field) name, Text.lowerAscii name = "mpjwt_" ++ f.name →
      Variable.Names name [f.name]) ∧
    (∀ group name, Variable.Part group.toList →
      (∃ c, group.toList.getLast? = some c ∧ Text.isBlank c = false) →
      Text.lowerAscii name = "mpjwt_role_mappings__" ++ group →
      Variable.Names name [Field.roleMappings.name, group]) ∧
    (∀ file key, Documents files path file → (¬ ∃ f : Field, f.name = key) →
      (∃ v ∈ environment, ∃ further, Variable.Names v.1 (key :: further)) ∨
        (file.at? [key]).isSome = true →
      load files path environment = .error .malformed) ∧
    (∀ p, path = some p → files p = none →
      load files path environment = .error (.missingFile p)) := by
  refine ⟨fun s => load_eq_ok_iff, fun name further => tells_ofEnvironment environment name further,
    fun f name lower => names_of_field lower,
    fun group name isPart bareEnd lower => names_of_group isPart bareEnd lower, ?_, ?_⟩
  · intro file key isFile unknown holds
    rw [← isSome_at?_ofEnvironment_iff] at holds
    exact load_of_unknown isFile unknown holds
  · rintro p rfl missing
    exact load_of_missing missing

private def layeredFiles : Files := fun path =>
  if path = "app.yaml" then
    some (Text.utf8 ("issuer: inner\npublic_routes: [/a, /b]\nrequire_auth_by_default: true\n" ++
      "role_mappings:\n  dev: [coder]\n  ops: [root]\n"))
  else none

private def layeredVariables : Environment :=
  [("PATH", "/bin"), ("MPJWT_ROLE_MAPPINGS__OPS", "[admin]"), ("mpjwt_public_routes", "[/d]"),
    ("MPJWT_PUBLIC_ROUTES", "[/c]"), ("MPJWT_REQUIRE_AUTH_BY_DEFAULT", "false"),
    ("MPJWT_EXP_GRACE_PERIOD_SECS", "5")]

/-- The file has the issuer and one group, the environment the other group and the rest; of its two
lists of routes the one that is listed last counts. -/
private def layeredSettings : Settings :=
  { default with
    issuer := some "inner"
    grace := 5
    requireAuth := false
    publicRoutes := ["/c"]
    roleMappings := .ofList [("dev", ["coder"]), ("ops", ["admin"])] }

theorem layers_of_file_and_variables :
    (∃ file, Documents layeredFiles (some "app.yaml") file ∧
      Layers file (ofEnvironment layeredVariables) layeredSettings) ∧
    Variable.Names "MPJWT_ROLE_MAPPINGS__OPS" ["role_mappings", "ops"] ∧
    load layeredFiles (some "app.yaml") (("MPJWT_ROLES", "[]") :: layeredVariables) =
      .error .malformed ∧
    load layeredFiles (some "none.yaml") layeredVariables = .error (.missingFile "none.yaml") := by
  obtain ⟨given, _, _, groups, _, _⟩ :=
    load_layered layeredFiles (some "app.yaml") layeredVariables
  obtain ⟨_, _, _, _, unknown, _⟩ :=
    load_layered layeredFiles (some "app.yaml") (("MPJWT_ROLES", "[]") :: layeredVariables)
  obtain ⟨_, _, _, _, _, missing⟩ :=
    load_layered layeredFiles (some "none.yaml") layeredVariables
  obtain ⟨file, isFile, layers⟩ := (given layeredSettings).mp (by decide +kernel)
  have aboutRoles : Variable.Names "MPJWT_ROLES" ["roles"] :=
    Variable.path?_eq_some_iff.mp (by decide +kernel)
  refine ⟨⟨file, isFile, layers⟩,
    groups "ops" _ ⟨by decide, by decide +kernel⟩ ⟨'s', rfl, by decide⟩ (by decide),
    unknown file "roles" isFile ?_ (.inl ⟨_, List.mem_cons_self, [], aboutRoles⟩),
    missing _ rfl (by decide)⟩
  rintro ⟨f, same⟩
  cases f <;> exact absurd same (by decide)

end Settings

end BearerGate
