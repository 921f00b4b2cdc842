import BearerGate.Proofs.Encodings
import BearerGate.Proofs.SettingTrees

/-!
Fields of the settings, each with its key in a source and with what of a tree it takes. Main
statements: which settings a table gives, field by field, and which role mappings, group by group.
-/

set_option autoImplicit false
set_option relaxedAutoImplicit false

namespace BearerGate

namespace TextMap

variable {α : Type}

theorem find?_ofList_of_nodup {es : List (String × α)} (distinct : (es.map (·.1)).Nodup)
    (key : String) : (ofList es).find? key = es.lookup key := by
  apply find?_ofList
  rw [← List.countP_eq_length_filter]
  have once := List.nodup_iff_count_le_one.mp distinct key
  rwa [List.count_eq_countP, List.countP_map] at once

theorem mem_entries_iff {m : TextMap α} {key : String} {value : α} :
    (key, value) ∈ m.entries ↔ m.find? key = some value := by
  rw [find?]
  exact ⟨Settings.lookup_of_mem m.nodup_keys, Settings.mem_of_lookup_eq_some⟩

theorem ext_find? {m m' : TextMap α} (same : ∀ key, m.find? key = m'.find? key) : m = m' := by
  have entries : m.entries = m'.entries := by
    refine List.Perm.eq_of_pairwise ?_ m.sorted m'.sorted ?_
    · intro a b _ _ less more
      exact absurd (String.lt_trans less more) (String.lt_irrefl _)
    · refine (List.perm_ext_iff_of_nodup (.of_map _ m.nodup_keys) (.of_map _ m'.nodup_keys)).mpr ?_
      rintro ⟨key, value⟩
      rw [mem_entries_iff, mem_entries_iff, same]
  cases m
  cases m'
  cases entries
  rfl

end TextMap

namespace Settings

open Settings.Tree

def textTree (text : Option String) : Tree := text.elim .null .text

def textsTree (texts : List String) : Tree := .list (texts.map .text)

theorem textSetting_eq_some_iff {t : Tree} {text : Option String} :
    textSetting t = some text ↔ t = textTree text := by
  cases t <;> cases text <;> simp [textSetting, textTree, eq_comm]

theorem boolSetting_eq_some_iff {t : Tree} {b : Bool} : boolSetting t = some b ↔ t = .bool b := by
  cases t <;> simp [boolSetting]

theorem secondsSetting_eq_some_iff {t : Tree} {n : UInt64} :
    secondsSetting t = some n ↔ t = .integer n.toNat := by
  constructor
  · intro read
    cases t with
    | integer i =>
      obtain ⟨⟨lower, upper⟩, same⟩ := Option.ite_none_right_eq_some.mp read
      rw [← Option.some.inj same, UInt64.toNat_ofNat', Tree.integer.injEq]
      omega
    | null | bool _ | fraction | text _ | list _ | table _ => cases read
  · rintro rfl
    have upper := n.toNat_lt
    rw [secondsSetting, if_pos (by omega), Int.toNat_natCast, UInt64.ofNat_toNat]

theorem plainText_eq_some_iff (t : Tree) (text : String) :
    plainText t = some text ↔ t = .text text := by
  cases t <;> simp [plainText]

theorem textsSetting_eq_some_iff {t : Tree} {texts : List String} :
    textsSetting t = some texts ↔ t = textsTree texts := by
  cases t with
  | list items =>
    rw [textsSetting, textsTree, Tree.list.injEq]
    exact Text.mapM_eq_some_iff_eq_map plainText_eq_some_iff
  | null | bool _ | integer _ | fraction | text _ | table _ => exact iff_of_false nofun nofun

inductive Field
  | issuer
  | issuerFile
  | signerKey
  | signerKeyFile
  | grace
  | requireAuth
  | publicRoutes
  | roleMappings
  deriving DecidableEq

namespace Field

/-- The key of a field in a source of settings. -/
def name : Field → String
  | issuer => "issuer"
  | issuerFile => "issuer_file"
  | signerKey => "signer_public_key"
  | signerKeyFile => "signer_public_key_file"
  | grace => "exp_grace_period_secs"
  | requireAuth => "require_auth_by_default"
  | publicRoutes => "public_routes"
  | roleMappings => "role_mappings"

abbrev Value : Field → Type
  | issuer | issuerFile | signerKey | signerKeyFile => Option String
  | grace => UInt64
  | requireAuth => Bool
  | publicRoutes => List String
  | roleMappings => TextMap (List String)

def get : (f : Field) → Settings → f.Value
  | issuer, s => s.issuer
  | issuerFile, s => s.issuerFile
  | signerKey, s => s.signerKey
  | signerKeyFile, s => s.signerKeyFile
  | grace, s => s.grace
  | requireAuth, s => s.requireAuth
  | publicRoutes, s => s.publicRoutes
  | roleMappings, s => s.roleMappings

def set : (f : Field) → f.Value → Settings → Settings
  | issuer, v, s => { s with issuer := v }
  | issuerFile, v, s => { s with issuerFile := v }
  | signerKey, v, s => { s with signerKey := v }
  | signerKeyFile, v, s => { s with signerKeyFile := v }
  | grace, v, s => { s with grace := v }
  | requireAuth, v, s => { s with requireAuth := v }
  | publicRoutes, v, s => { s with publicRoutes := v }
  | roleMappings, v, s => { s with roleMappings := v }

/-- The value that a field has if no source says anything about it. -/
def fallback : (f : Field) → f.Value
  | issuer | issuerFile | signerKey | signerKeyFile => none
  | grace => 60
  | requireAuth => true
  | publicRoutes => []
  | roleMappings => TextMap.empty

/-- How a source writes a value of a field. -/
def tree : (f : Field) → f.Value → Tree
  | issuer, v | issuerFile, v | signerKey, v | signerKeyFile, v => textTree v
  | grace, n => .integer n.toNat
  | requireAuth, b => .bool b
  | publicRoutes, texts => textsTree texts
  | roleMappings, m => .table (m.entries.map fun e => (e.1, textsTree e.2))

def read : (f : Field) → Tree → Option f.Value
  | issuer | issuerFile | signerKey | signerKeyFile => textSetting
  | grace => secondsSetting
  | requireAuth => boolSetting
  | publicRoutes => textsSetting
  | roleMappings => tableSetting

variable {f g : Field} {s s' start : Settings}

theorem get_set (f : Field) (v : f.Value) (s : Settings) : f.get (f.set v s) = v := by
  cases f <;> rfl

theorem get_set_of_ne (ne : g ≠ f) (v : f.Value) (s : Settings) :
    g.get (f.set v s) = g.get s := by
  cases f <;> cases g <;> first | rfl | exact absurd rfl ne

theorem eq_of_get (same : ∀ f : Field, f.get s = f.get s') : s = s' := by
  cases s
  cases s'
  congr
  exacts [same issuer, same issuerFile, same signerKey, same signerKeyFile, same grace,
    same requireAuth, same publicRoutes, same roleMappings]

theorem name_injective (same : f.name = g.name) : f = g := by
  cases f <;> cases g <;> first | rfl | exact absurd same (by decide)

theorem apply_name (f : Field) (s : Settings) (t : Tree) :
    s.apply f.name t = (f.read t).map (f.set · s) := by
  cases f <;> rfl

theorem apply_of_unknown {name : String} (unknown : ¬ ∃ f : Field, f.name = name) (s : Settings)
    (t : Tree) : s.apply name t = none := by
  unfold apply
  split
  · exact absurd ⟨issuer, rfl⟩ unknown
  · exact absurd ⟨issuerFile, rfl⟩ unknown
  · exact absurd ⟨signerKey, rfl⟩ unknown
  · exact absurd ⟨signerKeyFile, rfl⟩ unknown
  · exact absurd ⟨grace, rfl⟩ unknown
  · exact absurd ⟨requireAuth, rfl⟩ unknown
  · exact absurd ⟨publicRoutes, rfl⟩ unknown
  · exact absurd ⟨roleMappings, rfl⟩ unknown
  · rfl

theorem read_eq_some_iff (ne : f ≠ roleMappings) {t : Tree} {v : f.Value} :
    f.read t = some v ↔ t = f.tree v := by
  cases f with
  | roleMappings => exact absurd rfl ne
  | issuer | issuerFile | signerKey | signerKeyFile => exact textSetting_eq_some_iff
  | grace => exact secondsSetting_eq_some_iff
  | requireAuth => exact boolSetting_eq_some_iff
  | publicRoutes => exact textsSetting_eq_some_iff

theorem read_table (ne : f ≠ roleMappings) (entries : List (String × Tree)) :
    f.read (.table entries) = none := by
  cases f <;> first | rfl | exact absurd rfl ne

theorem get_default (f : Field) : f.get default = f.fallback := by
  cases f <;> rfl

/-- The value of a field is the one that a tree stands for, or if there is none, that of other
settings. -/
def TakenFrom (f : Field) (found : Option Tree) (fallback s : Settings) : Prop :=
  match found with
  | some t => f.read t = some (f.get s)
  | none => f.get s = f.get fallback

theorem TakenFrom.congr {found found' : Option Tree}
    (same : found.map f.read = found'.map f.read) :
    f.TakenFrom found start s ↔ f.TakenFrom found' start s := by
  cases found with
  | none =>
    rw [Option.map_eq_none_iff.mp same.symm]
  | some t =>
    obtain ⟨t', rfl, read⟩ := Option.map_eq_some_iff.mp same.symm
    rw [TakenFrom, TakenFrom, read]

theorem takenFrom_default_iff (ne : f ≠ roleMappings) {found : Option Tree} :
    f.TakenFrom found default s ↔ (∀ t, found = some t → t = f.tree (f.get s)) ∧
      (found = none → f.get s = f.fallback) := by
  cases found with
  | none => simp [TakenFrom, get_default]
  | some t => simp [TakenFrom, read_eq_some_iff ne]

/-- A field that an entry has set is taken from that entry if no further one is about it. -/
theorem takenFrom_cons {t : Tree} {v : f.Value} {entries : List (String × Tree)}
    (read : f.read t = some v) (gone : f.name ∉ entries.map (·.1)) (g : Field) :
    g.TakenFrom (entries.lookup g.name) (f.set v start) s ↔
      g.TakenFrom (((f.name, t) :: entries).lookup g.name) start s := by
  by_cases same : g = f
  · subst same
    rw [lookup_eq_none_iff_not_mem.mpr gone, List.lookup_cons_self, TakenFrom, TakenFrom, get_set,
      read, Option.some.injEq, eq_comm]
  · rw [lookup_cons_of_ne fun names => same (name_injective names)]
    unfold TakenFrom
    rw [get_set_of_ne same]

end Field

/-- Entries with names of their own change settings field by field. -/
theorem foldlM_apply_eq_some_iff {entries : List (String × Tree)}
    (distinct : (entries.map (·.1)).Nodup) {start s : Settings} :
    entries.foldlM (fun s e => s.apply e.1 e.2) start = some s ↔
      (∀ e ∈ entries, ∃ f : Field, f.name = e.1) ∧
        ∀ f : Field, f.TakenFrom (entries.lookup f.name) start s := by
  induction entries generalizing start with
  | nil =>
    rw [List.foldlM_nil]
    constructor
    · intro same
      cases same
      exact ⟨fun e member => absurd member List.not_mem_nil, fun f => rfl⟩
    · rintro ⟨_, same⟩
      exact congrArg some (Field.eq_of_get fun f => (same f).symm)
  | cons e entries ih =>
    obtain ⟨name, t⟩ := e
    obtain ⟨gone, further⟩ := List.nodup_cons.mp distinct
    rw [List.foldlM_cons, List.forall_mem_cons]
    by_cases known : ∃ f : Field, f.name = name
    · obtain ⟨f, rfl⟩ := known
      rw [Field.apply_name]
      cases read : f.read t with
      | none =>
        refine iff_of_false (fun same => ?_) fun all => ?_
        · cases same
        · have taken := all.2 f
          rw [List.lookup_cons_self, Field.TakenFrom, read] at taken
          cases taken
      | some v =>
        change entries.foldlM (fun s e => s.apply e.1 e.2) (f.set v start) = some s ↔ _
        rw [ih further]
        refine and_congr (and_iff_right ⟨f, rfl⟩).symm (forall_congr' fun g => ?_)
        exact Field.takenFrom_cons read gone g
    · rw [Field.apply_of_unknown known]
      refine iff_of_false (fun same => ?_) fun all => known all.1.1
      cases same

section

variable {α : Type} {read : Tree → Option α} {entries : List (String × Tree)}
  {pairs : List (String × α)}

theorem exists_of_mapM_cons {e : String × Tree}
    (readAll : (e :: entries).mapM (fun e => (read e.2).map (e.1, ·)) = some pairs) :
    ∃ value further, read e.2 = some value ∧
      entries.mapM (fun e => (read e.2).map (e.1, ·)) = some further ∧
        pairs = (e.1, value) :: further := by
  rw [List.mapM_cons] at readAll
  obtain ⟨pair, readHere, readAll⟩ := Option.bind_eq_some_iff.mp readAll
  obtain ⟨further, readFurther, same⟩ := Option.bind_eq_some_iff.mp readAll
  obtain ⟨value, readValue, rfl⟩ := Option.map_eq_some_iff.mp readHere
  exact ⟨value, further, readValue, readFurther, (Option.some.inj same).symm⟩

theorem names_of_mapM
    (readAll : entries.mapM (fun e => (read e.2).map (e.1, ·)) = some pairs) :
    pairs.map (·.1) = entries.map (·.1) := by
  induction entries generalizing pairs with
  | nil =>
    cases readAll
    rfl
  | cons e entries ih =>
    obtain ⟨value, further, _, readFurther, rfl⟩ := exists_of_mapM_cons readAll
    rw [List.map_cons, List.map_cons, ih readFurther]

theorem lookup_of_mapM
    (readAll : entries.mapM (fun e => (read e.2).map (e.1, ·)) = some pairs) (name : String) :
    (entries.lookup name).map read = (pairs.lookup name).map some := by
  induction entries generalizing pairs with
  | nil =>
    cases readAll
    rfl
  | cons e entries ih =>
    obtain ⟨here, t⟩ := e
    obtain ⟨value, further, readHere, readFurther, rfl⟩ := exists_of_mapM_cons readAll
    by_cases same : name = here
    · subst same
      rw [List.lookup_cons_self, List.lookup_cons_self, Option.map_some, Option.map_some, readHere]
    · rw [lookup_cons_of_ne same, lookup_cons_of_ne same, ih readFurther]

theorem exists_mapM (readable : ∀ e ∈ entries, (read e.2).isSome = true) :
    ∃ pairs, entries.mapM (fun e => (read e.2).map (e.1, ·)) = some pairs := by
  induction entries with
  | nil => exact ⟨[], rfl⟩
  | cons e entries ih =>
    obtain ⟨here, further⟩ := List.forall_mem_cons.mp readable
    obtain ⟨value, readHere⟩ := Option.isSome_iff_exists.mp here
    obtain ⟨pairs, readFurther⟩ := ih further
    refine ⟨(e.1, value) :: pairs, ?_⟩
    rw [List.mapM_cons, readHere, readFurther]
    rfl

end

theorem map_textsSetting_eq_iff {found : Option Tree} {texts : Option (List String)} :
    found.map textsSetting = texts.map some ↔ found = texts.map textsTree := by
  cases found <;> cases texts <;> simp [textsSetting_eq_some_iff]

theorem tableSetting_of_leaf {t : Tree} (noTable : t.isTable = false) : tableSetting t = none := by
  cases t with
  | table _ => cases noTable
  | null | bool _ | integer _ | fraction | text _ | list _ => rfl

theorem tableSetting_eq_some_iff {entries : List (String × Tree)}
    (distinct : (entries.map (·.1)).Nodup) {m : TextMap (List String)} :
    tableSetting (.table entries) = some m ↔
      ∀ group, (entries.lookup group).map textsSetting = (m.find? group).map some := by
  have found {m : TextMap (List String)} (read : tableSetting (.table entries) = some m)
      (group : String) : (entries.lookup group).map textsSetting = (m.find? group).map some := by
    obtain ⟨pairs, readAll, rfl⟩ := Option.map_eq_some_iff.mp read
    rw [TextMap.find?_ofList_of_nodup (names_of_mapM readAll ▸ distinct), lookup_of_mapM readAll]
  refine ⟨found, fun same => ?_⟩
  have readable : ∀ e ∈ entries, (textsSetting e.2).isSome = true := by
    rintro ⟨group, t⟩ member
    have here := same group
    rw [lookup_of_mem distinct member, Option.map_some] at here
    obtain ⟨texts, _, read⟩ := Option.map_eq_some_iff.mp here.symm
    exact Option.isSome_iff_exists.mpr ⟨texts, read.symm⟩
  obtain ⟨pairs, readAll⟩ := exists_mapM readable
  have read : tableSetting (.table entries) = some (TextMap.ofList pairs) := by
    rw [tableSetting, readAll, Option.map_some]
  rw [read, Option.some.injEq]
  refine TextMap.ext_find? fun group => ?_
  exact Option.map_injective (fun _ _ => Option.some.inj)
    ((found read group).symm.trans (same group))

end Settings

end BearerGate
