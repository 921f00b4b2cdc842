import BearerGate.Proofs.Bootstrap
import Mathlib.Data.List.Forall2

/-!
Bootstrap in any order: the same declarations come in another order. Main statement: they are
accepted or refused alike, their sites are the same but for the order within each, and what a place
is given is the same.
-/

set_option autoImplicit false
set_option relaxedAutoImplicit false

namespace BearerGate.Injection

/-- Sites of one key and one standard claim that hold the same declarations, in whatever order. -/
structure Site.SameUpToOrder (s t : Site) : Prop where
  key_eq : s.key = t.key
  standard_eq : s.standard = t.standard
  points_perm : s.points.Perm t.points

namespace Groups

variable {sites sites' : List Site} {points others : List Point}

theorem keys_eq_of_perm (groups : Groups sites points) (groups' : Groups sites' others)
    (order : points.Perm others) : sites.map (·.key) = sites'.map (·.key) := by
  have sameKeys : (sites.map (·.key)).Perm (sites'.map (·.key)) := by
    rw [List.perm_ext_iff_of_nodup groups.ascending.nodup_keys groups'.ascending.nodup_keys]
    intro key
    rw [groups.mem_keys_iff, groups'.mem_keys_iff]
    simp only [order.mem_iff]
  have ascending {sites : List Site} (ascending : Ascending sites) :
      (sites.map (·.key)).Pairwise fun a b => a.before b = true :=
    List.pairwise_map.mpr ascending
  -- A list in strict order is settled by its elements.
  refine sameKeys.eq_of_pairwise ?_ (ascending groups.ascending) (ascending groups'.ascending)
  intro a b _ _ ab ba
  exact absurd rfl (Key.ne_of_before (Key.before_trans ab ba))

theorem forall₂_of_perm (groups : Groups sites points) (groups' : Groups sites' others)
    (order : points.Perm others) : List.Forall₂ Site.SameUpToOrder sites sites' := by
  have sameKeys : List.Forall₂ (fun s t : Site => s.key = t.key) sites sites' := by
    have equal := List.forall₂_eq_eq_eq ▸ groups.keys_eq_of_perm groups' order
    exact List.forall₂_map_left_iff.mp (List.forall₂_map_right_iff.mp equal)
  -- Sites that stand beside one another have one key, which settles all else in them.
  rw [List.forall₂_iff_zip] at sameKeys ⊢
  refine ⟨sameKeys.1, fun {s t} paired => ?_⟩
  have key := sameKeys.2 paired
  obtain ⟨isSite, isSite'⟩ := List.of_mem_zip paired
  refine ⟨key, ?_, ?_⟩
  · rw [groups.standard_eq isSite, groups'.standard_eq isSite', key]
  · rw [groups.points_eq isSite, groups'.points_eq isSite', key]
    exact order.filter _

end Groups

/-- Declarations in two orders are accepted or refused alike, namely exactly if each can be served
and no two have one location. If they are accepted, their sites stand in the same order of keys and
hold the same declarations, and the two registries give every place the same for every token. -/
theorem bootstrap_of_perm {points others : List Point} (order : points.Perm others) :
    ((∃ sites, collect points = .ok sites) ↔
      (∀ p ∈ points, p.Servable) ∧ (points.map (·.location)).Nodup) ∧
    ((∃ sites, collect points = .ok sites) ↔ ∃ sites, collect others = .ok sites) ∧
    (∀ sites sites', collect points = .ok sites → collect others = .ok sites' →
      List.Forall₂ Site.SameUpToOrder sites sites') ∧
    ((∃ r, bootstrap points = .ok r) ↔ ∃ r, bootstrap others = .ok r) ∧
    ∀ r r', bootstrap points = .ok r → bootstrap others = .ok r' →
      ∀ location token, r.injectFrom location token = r'.injectFrom location token := by
  have alike : (∃ sites, collect points = .ok sites) ↔ ∃ sites, collect others = .ok sites := by
    rw [exists_collect_iff, exists_collect_iff]
    simp only [order.mem_iff, (order.map _).nodup_iff]
  refine ⟨exists_collect_iff, alike, ?_, ?_, ?_⟩
  · intro sites sites' done done'
    obtain ⟨c, collected, rfl⟩ := collected_of_collect done
    obtain ⟨c', collected', rfl⟩ := collected_of_collect done'
    exact collected.groups.forall₂_of_perm collected'.groups order
  · rw [exists_bootstrap_iff, exists_bootstrap_iff, alike]
  · intro r r' done done' location token
    obtain ⟨c, bootstrapped⟩ := bootstrapped_of_bootstrap done
    obtain ⟨c', bootstrapped'⟩ := bootstrapped_of_bootstrap done'
    by_cases declared : location ∈ points.map (·.location)
    · obtain ⟨p, member, rfl⟩ := List.mem_map.mp declared
      obtain ⟨claim, named, given⟩ := bootstrapped.injectFrom_of_mem member token
      obtain ⟨claim', named', given'⟩ :=
        bootstrapped'.injectFrom_of_mem (order.mem_iff.mp member) token
      rw [given, given', Option.some.inj (named.symm.trans named')]
    · have undeclared' : location ∉ others.map (·.location) :=
        fun declared' => declared ((order.map _).mem_iff.mpr declared')
      rw [(bootstrapped.injectFrom_eq_unknownSite_iff location token).mpr declared,
        (bootstrapped'.injectFrom_eq_unknownSite_iff location token).mpr undeclared']

private def inOneOrder : List Point :=
  [⟨"A", ⟨some .sub, ""⟩, .value .string, .request⟩,
    ⟨"B", ⟨none, "iss"⟩, .value .any, .request⟩, ⟨"C", ⟨none, "sub"⟩, .value .string, .request⟩]

/-- Backwards, the two declarations of one site stand in it in the other order, and each place is
given the same. -/
theorem same_places_backwards :
    inOneOrder.Perm inOneOrder.reverse ∧
    ∃ sites sites', collect inOneOrder = .ok sites ∧ collect inOneOrder.reverse = .ok sites' ∧
      sites ≠ sites' ∧ List.Forall₂ Site.SameUpToOrder sites sites' ∧
      ∃ r r', bootstrap inOneOrder = .ok r ∧ bootstrap inOneOrder.reverse = .ok r' ∧
        ∀ location token, r.injectFrom location token = r'.injectFrom location token := by
  have order : inOneOrder.Perm inOneOrder.reverse := (List.reverse_perm _).symm
  obtain ⟨-, -, sites, -, registries⟩ := bootstrap_of_perm order
  exact ⟨order, _, _, rfl, rfl, by decide +kernel, sites _ _ rfl rfl, _, _, rfl, rfl,
    registries _ _ rfl rfl⟩

end BearerGate.Injection
