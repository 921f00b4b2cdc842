import BearerGate.Injection.Collector
import Mathlib.Data.List.Lex
import Mathlib.Data.Prod.Lex
import Mathlib.Data.String.Basic

/-!
Sites and the declarations in them: declarations that can be served, the order of keys, and sites
that hold exactly the declarations of a list, each under its key. Main statement: placing one more
declaration among such sites gives the sites of the list with this declaration at its end.
-/

set_option autoImplicit false
set_option relaxedAutoImplicit false

namespace BearerGate.Injection

open Claim (Standard)

theorem Binding.standardClaim?_eq_ofName? {b : Binding} {claim : String}
    (named : b.claimName? = some claim) : b.standardClaim? = Standard.ofName? claim := by
  obtain ⟨standard, literal⟩ := b
  cases standard with
  | some c =>
    cases named
    exact (Standard.ofName?_name c).symm
  | none =>
    simp only [claimName?] at named
    split at named
    · cases named
    · cases named
      rfl

namespace Point

def key? (p : Point) : Option Key :=
  p.binding.claimName?.bind fun claim =>
    p.type.classify.map fun classified => ⟨claim, classified.shape, p.type⟩

/-- A declaration that can be served: it names a claim, its type has a shape and can be given the
standard claim of this name, and it takes no snapshot into a component that outlives the request. -/
structure Servable (p : Point) : Prop where
  named : ∃ claim, p.binding.claimName? = some claim
  shaped : ∃ classified, p.type.classify = some classified
  fits : ∀ c, p.binding.standardClaim? = some c → p.type.accepts c.kind = true
  inScope : ∀ classified, p.type.classify = some classified →
    classified.shape.isSnapshot = true → p.scope.outlivesRequest = false

theorem key?_eq_some_iff {p : Point} {key : Key} :
    p.key? = some key ↔ p.binding.claimName? = some key.claim ∧
      p.type.classify.map (·.shape) = some key.shape ∧ p.type = key.type := by
  obtain ⟨claim, shape, type⟩ := key
  simp only [key?, Option.bind_eq_some_iff, Option.map_eq_some_iff, Key.mk.injEq]
  constructor
  · rintro ⟨_, named, classified, shaped, rfl, rfl, rfl⟩
    exact ⟨named, ⟨classified, shaped, rfl⟩, rfl⟩
  · rintro ⟨named, ⟨classified, shaped, rfl⟩, rfl⟩
    exact ⟨claim, named, classified, shaped, rfl, rfl, rfl⟩

theorem misfit?_eq_none_iff {p : Point} :
    p.misfit? = none ↔ ∀ c, p.binding.standardClaim? = some c → p.type.accepts c.kind = true := by
  simp [misfit?, Option.filter_eq_none_iff]

theorem check_eq_ok_iff {p : Point} {key : Key} :
    p.check = .ok key ↔ p.Servable ∧ p.key? = some key := by
  simp only [check, key?]
  cases named : p.binding.claimName? with
  | none => exact ⟨nofun, fun asks => nomatch asks.2⟩
  | some claim =>
    cases shaped : p.type.classify with
    | none => exact ⟨nofun, fun asks => nomatch asks.2⟩
    | some classified =>
      cases misfit : p.misfit? with
      | some kind =>
        refine ⟨nofun, fun asks => ?_⟩
        rw [misfit?_eq_none_iff.mpr asks.1.fits] at misfit
        cases misfit
      | none =>
        by_cases kept : (classified.shape.isSnapshot && p.scope.outlivesRequest) = true
        · refine ⟨fun passed => by simp [kept] at passed, fun asks => ?_⟩
          obtain ⟨snapshot, outlives⟩ := Bool.and_eq_true_iff.mp kept
          rw [asks.1.inScope classified shaped snapshot] at outlives
          cases outlives
        · have inScope : classified.shape.isSnapshot = true → p.scope.outlivesRequest = false := by
            simpa using kept
          have servable : p.Servable :=
            { named := ⟨claim, named⟩
              shaped := ⟨classified, shaped⟩
              fits := misfit?_eq_none_iff.mp misfit
              inScope := fun other same => Option.some.inj (shaped.symm.trans same) ▸ inScope }
          simp [kept, servable]

theorem servable_iff_check {p : Point} : p.Servable ↔ ∃ key, p.check = .ok key := by
  refine ⟨fun servable => ?_, fun ⟨_, passed⟩ => (check_eq_ok_iff.mp passed).1⟩
  obtain ⟨claim, named⟩ := servable.named
  obtain ⟨classified, shaped⟩ := servable.shaped
  have asks : p.key? = some ⟨claim, classified.shape, p.type⟩ := by
    rw [key?, named, shaped]
    rfl
  exact ⟨_, check_eq_ok_iff.mpr ⟨servable, asks⟩⟩

end Point

theorem Shape.rank_injective : Function.Injective Shape.rank := by
  intro a b
  cases a <;> cases b <;> simp [rank]

theorem ValueType.rank_injective : Function.Injective ValueType.rank := by
  intro a b
  cases a <;> cases b <;> simp [rank]

theorem JsonType.rank_injective : Function.Injective JsonType.rank := by
  intro a b
  cases a <;> cases b <;> simp [rank]

/-- No two types are written in the same numbers: the first number says which constructor it is. -/
theorem DeclaredType.code_injective : Function.Injective DeclaredType.code := by
  intro a b same
  induction a generalizing b with
  | value type =>
    cases b <;> simp [code] at same
    rw [ValueType.rank_injective same]
  | json type =>
    cases b <;> simp [code] at same
    rw [JsonType.rank_injective same]
  | optional inner ih =>
    cases b <;> simp [code] at same
    rw [ih same]
  | claimValue inner ih =>
    cases b <;> simp [code] at same
    rw [ih same]
  | provider inner ih =>
    cases b <;> simp [code] at same
    rw [ih same]

namespace Key

/-- A key as a text and numbers, which are compared one after the other. -/
def rank (k : Key) : String ×ₗ Nat ×ₗ List Nat :=
  toLex (k.claim, toLex (k.shape.rank, k.type.code))

theorem rank_injective : Function.Injective rank := by
  intro a b same
  obtain ⟨claim, shape, type⟩ := a
  obtain ⟨claim', shape', type'⟩ := b
  simp only [rank, EmbeddingLike.apply_eq_iff_eq, Prod.mk.injEq] at same
  obtain ⟨rfl, sameShape, sameType⟩ := same
  rw [Shape.rank_injective sameShape, DeclaredType.code_injective sameType]

theorem before_iff {a b : Key} : a.before b = true ↔ a.rank < b.rank := by
  simp only [before, rank, Prod.Lex.toLex_lt_toLex, Bool.or_eq_true, Bool.and_eq_true,
    beq_iff_eq, decide_eq_true_eq]
  rw [Shape.rank_injective.eq_iff]

theorem ne_of_before {a b : Key} (before : a.before b = true) : a ≠ b := by
  rintro rfl
  exact lt_irrefl _ (before_iff.mp before)

theorem before_trans {a b c : Key} (ab : a.before b = true) (bc : b.before c = true) :
    a.before c = true :=
  before_iff.mpr ((before_iff.mp ab).trans (before_iff.mp bc))

theorem before_of_not_before {a b : Key} (ne : a ≠ b) (notBefore : ¬ b.before a = true) :
    a.before b = true := by
  rw [before_iff] at notBefore ⊢
  exact lt_of_le_of_ne (not_lt.mp notBefore) (rank_injective.ne ne)

end Key

def Ascending (sites : List Site) : Prop :=
  sites.Pairwise fun s t => s.key.before t.key = true

def siteAt? (key : Key) (sites : List Site) : Option Site := sites.find? (·.key == key)

theorem siteAt?_cons (key : Key) (s : Site) (rest : List Site) :
    siteAt? key (s :: rest) = if s.key = key then some s else siteAt? key rest := by
  by_cases here : s.key = key <;> simp [siteAt?, here]

theorem siteAt?_eq_none {key : Key} {sites : List Site} (others : ∀ s ∈ sites, s.key ≠ key) :
    siteAt? key sites = none := by
  simpa [siteAt?] using others

theorem mem_of_siteAt?_eq_some {key : Key} {sites : List Site} {s : Site}
    (found : siteAt? key sites = some s) : s ∈ sites ∧ s.key = key :=
  ⟨List.mem_of_find?_eq_some found, by simpa using List.find?_some found⟩

namespace Ascending

variable {sites : List Site}

theorem keys_ne {s : Site} {rest : List Site} (ascending : Ascending (s :: rest)) :
    ∀ t ∈ rest, t.key ≠ s.key :=
  fun t member => (Key.ne_of_before ((List.pairwise_cons.mp ascending).1 t member)).symm

theorem nodup_keys (ascending : Ascending sites) : (sites.map (·.key)).Nodup :=
  List.pairwise_map.mpr (ascending.imp Key.ne_of_before)

theorem mem_iff_siteAt? (ascending : Ascending sites) {s : Site} :
    s ∈ sites ↔ siteAt? s.key sites = some s := by
  refine ⟨fun member => ?_, fun found => (mem_of_siteAt?_eq_some found).1⟩
  induction sites with
  | nil => cases member
  | cons t rest ih =>
    rw [siteAt?_cons]
    rcases List.mem_cons.mp member with rfl | later
    · rw [if_pos rfl]
    · rw [if_neg (ascending.keys_ne s later).symm]
      exact ih (List.pairwise_cons.mp ascending).2 later

end Ascending

namespace Collector

variable {key : Key} {standard : Option Standard} {p : Point} {sites : List Site}

theorem key_of_mem_place {s : Site} (member : s ∈ place key standard p sites) :
    s.key = key ∨ ∃ t ∈ sites, t.key = s.key := by
  induction sites with
  | nil =>
    rw [place, List.mem_singleton] at member
    exact .inl (congrArg Site.key member)
  | cons t rest ih =>
    rw [place] at member
    split at member
    · rename_i here
      rcases List.mem_cons.mp member with rfl | later
      · exact .inl here
      · exact .inr ⟨s, List.mem_cons_of_mem t later, rfl⟩
    · split at member
      · rcases List.mem_cons.mp member with rfl | later
        · exact .inl rfl
        · exact .inr ⟨s, later, rfl⟩
      · rcases List.mem_cons.mp member with rfl | later
        · exact .inr ⟨s, List.mem_cons_self, rfl⟩
        · exact (ih later).imp id fun ⟨u, inRest, same⟩ => ⟨u, List.mem_cons_of_mem t inRest, same⟩

theorem ascending_place (ascending : Ascending sites) :
    Ascending (place key standard p sites) := by
  induction sites with
  | nil => exact List.pairwise_singleton _ _
  | cons s rest ih =>
    obtain ⟨first, later⟩ := List.pairwise_cons.mp ascending
    rw [place]
    split
    · exact List.pairwise_cons.mpr ⟨first, later⟩
    · rename_i elsewhere
      split
      · rename_i before
        refine List.pairwise_cons.mpr ⟨?_, ascending⟩
        intro t member
        rcases List.mem_cons.mp member with rfl | member
        · exact before
        · exact Key.before_trans before (first t member)
      · rename_i notBefore
        refine List.pairwise_cons.mpr ⟨?_, ih later⟩
        intro t member
        -- What comes behind is a site that was there, or the new one.
        rcases key_of_mem_place member with same | ⟨u, inRest, same⟩
        · exact same ▸ Key.before_of_not_before elsewhere notBefore
        · exact same ▸ first u inRest

/-- Placing a declaration changes the site of its key alone, which is made if there is none. -/
theorem siteAt?_place (ascending : Ascending sites) (other : Key) :
    siteAt? other (place key standard p sites) =
      if key = other then
        let site := (siteAt? key sites).getD ⟨key, standard, []⟩
        some { site with points := site.points ++ [p] }
      else siteAt? other sites := by
  induction sites with
  | nil =>
    rw [place, siteAt?_cons]
    rfl
  | cons s rest ih =>
    obtain ⟨first, later⟩ := List.pairwise_cons.mp ascending
    rw [place]
    split
    · rename_i here
      simp only [siteAt?_cons, if_pos here]
      subst here
      split <;> rfl
    · rename_i elsewhere
      split
      · rename_i before
        -- The key stands before all that is left, so that there is no site of it yet.
        have fresh : siteAt? key (s :: rest) = none := by
          refine siteAt?_eq_none fun t member => ?_
          rcases List.mem_cons.mp member with rfl | member
          · exact elsewhere
          · exact (Key.ne_of_before (Key.before_trans before (first t member))).symm
        rw [siteAt?_cons, fresh]
        rfl
      · rw [siteAt?_cons, siteAt?_cons, ih later, siteAt?_cons, if_neg elsewhere]
        by_cases here : key = other
        · rw [if_pos here, if_pos here, if_neg (here ▸ elsewhere)]
        · rw [if_neg here, if_neg here]

theorem points_place :
    ((place key standard p sites).flatMap (·.points)).Perm (sites.flatMap (·.points) ++ [p]) := by
  induction sites with
  | nil => exact List.Perm.refl _
  | cons s rest ih =>
    rw [place]
    split
    · simp only [List.flatMap_cons, List.append_assoc]
      exact List.perm_append_comm.append_left s.points
    · split
      · exact List.perm_append_comm
      · simp only [List.flatMap_cons, List.append_assoc]
        exact ih.append_left s.points

end Collector

/-- The site of a key that holds all declarations of a list that ask for it, if there are any. -/
def siteOf? (points : List Point) (key : Key) : Option Site :=
  match points.filter (·.key? == some key) with
  | [] => none
  | asking => some ⟨key, Standard.ofName? key.claim, asking⟩

/-- Sites in order that hold exactly the declarations of a list, each under its key. -/
structure Groups (sites : List Site) (points : List Point) : Prop where
  ascending : Ascending sites
  siteAt?_eq : ∀ key, siteAt? key sites = siteOf? points key
  points_perm : (sites.flatMap (·.points)).Perm points

theorem siteOf?_append (points : List Point) (p : Point) (key : Key) :
    siteOf? (points ++ [p]) key =
      if p.key? = some key then
        some ⟨key, Standard.ofName? key.claim, points.filter (·.key? == some key) ++ [p]⟩
      else siteOf? points key := by
  unfold siteOf?
  rw [List.filter_append]
  by_cases asks : p.key? = some key
  · rw [if_pos asks, List.filter_cons, if_pos (beq_iff_eq.mpr asks)]
    cases points.filter (·.key? == some key) <;> rfl
  · rw [if_neg asks, List.filter_cons, if_neg (by simpa using asks), List.filter_nil,
      List.append_nil]

theorem siteOf?_eq_some_iff {points : List Point} {key : Key} {s : Site} :
    siteOf? points key = some s ↔
      s = ⟨key, Standard.ofName? key.claim, points.filter (·.key? == some key)⟩ ∧
        ∃ p ∈ points, p.key? = some key := by
  have asked : (∃ p ∈ points, p.key? = some key) ↔ points.filter (·.key? == some key) ≠ [] := by
    simp [List.filter_eq_nil_iff]
  rw [asked, siteOf?]
  cases points.filter (·.key? == some key) with
  | nil => simp
  | cons p rest => simp [eq_comm]

theorem groups_nil : Groups [] [] := ⟨List.Pairwise.nil, fun _ => rfl, List.Perm.refl _⟩

namespace Groups

variable {sites : List Site} {points : List Point}

theorem place (groups : Groups sites points) {p : Point} {key : Key} {standard : Option Standard}
    (asks : p.key? = some key) (named : standard = Standard.ofName? key.claim) :
    Groups (Collector.place key standard p sites) (points ++ [p]) := by
  subst named
  refine ⟨Collector.ascending_place groups.ascending, fun other => ?_,
    Collector.points_place.trans (groups.points_perm.append_right [p])⟩
  rw [Collector.siteAt?_place groups.ascending, siteOf?_append, groups.siteAt?_eq,
    groups.siteAt?_eq]
  by_cases here : key = other
  · subst here
    rw [if_pos rfl, if_pos asks, siteOf?]
    cases points.filter (·.key? == some key) <;> rfl
  · rw [if_neg here, if_neg fun asksOther => here (Option.some.inj (asks.symm.trans asksOther))]

/-- The sites are those of the keys that are asked for, and each holds what asks for its key. -/
theorem mem_iff (groups : Groups sites points) {s : Site} :
    s ∈ sites ↔
      s = ⟨s.key, Standard.ofName? s.key.claim, points.filter (·.key? == some s.key)⟩ ∧
        ∃ p ∈ points, p.key? = some s.key := by
  rw [groups.ascending.mem_iff_siteAt?, groups.siteAt?_eq, siteOf?_eq_some_iff]

theorem mem_keys_iff (groups : Groups sites points) {key : Key} :
    key ∈ sites.map (·.key) ↔ ∃ p ∈ points, p.key? = some key := by
  refine ⟨fun member => ?_, fun asked => ?_⟩
  · obtain ⟨s, isSite, rfl⟩ := List.mem_map.mp member
    exact (groups.mem_iff.mp isSite).2
  · have isSite : ⟨key, Standard.ofName? key.claim, points.filter (·.key? == some key)⟩ ∈ sites :=
      groups.mem_iff.mpr ⟨rfl, asked⟩
    exact List.mem_map.mpr ⟨_, isSite, rfl⟩

theorem points_eq (groups : Groups sites points) {s : Site} (isSite : s ∈ sites) :
    s.points = points.filter (·.key? == some s.key) :=
  congrArg Site.points (groups.mem_iff.mp isSite).1

theorem standard_eq (groups : Groups sites points) {s : Site} (isSite : s ∈ sites) :
    s.standard = Standard.ofName? s.key.claim :=
  congrArg Site.standard (groups.mem_iff.mp isSite).1

theorem mem_points_iff (groups : Groups sites points) {s : Site} (isSite : s ∈ sites) {p : Point} :
    p ∈ s.points ↔ p ∈ points ∧ p.key? = some s.key := by
  rw [groups.points_eq isSite, List.mem_filter, beq_iff_eq]

theorem points_ne_nil (groups : Groups sites points) {s : Site} (isSite : s ∈ sites) :
    s.points ≠ [] := by
  obtain ⟨p, member, asks⟩ := (groups.mem_iff.mp isSite).2
  exact List.ne_nil_of_mem ((groups.mem_points_iff isSite).mpr ⟨member, asks⟩)

theorem locations_perm (groups : Groups sites points) :
    (sites.flatMap Site.locations).Perm (points.map (·.location)) := by
  have flattened : sites.flatMap Site.locations = (sites.flatMap (·.points)).map (·.location) :=
    List.map_flatMap.symm
  rw [flattened]
  exact groups.points_perm.map _

end Groups

end BearerGate.Injection
