import BearerGate.Proofs.SiteGroups
import Mathlib.Data.List.Nodup

/-!
Runs of a collector: declarations that are recorded one after the other, some accepted and some
refused, in any order. Main statement: a refused declaration leaves no trace, and the sites of the
collector hold exactly the accepted ones, each under what it asks for.
-/

set_option autoImplicit false
set_option relaxedAutoImplicit false

namespace BearerGate.Injection

open Claim (Standard)

/-- A collector that holds exactly the declarations of a list, all of which can be served, and whose
taken locations are theirs. -/
structure Collected (c : Collector) (points : List Point) : Prop where
  groups : Groups c.sites points
  servable : ∀ p ∈ points, p.Servable
  mem_locations_iff : ∀ location, location ∈ c.locations ↔ location ∈ points.map (·.location)
  distinct : (points.map (·.location)).Nodup

theorem collected_empty : Collected .empty [] where
  groups := groups_nil
  servable := nofun
  mem_locations_iff location := by simp [Collector.empty]
  distinct := List.nodup_nil

namespace Collector

theorem record_eq_ok_iff {p : Point} {c c' : Collector} :
    (record p).perform c = (.ok (), c') ↔
      ∃ key, p.check = .ok key ∧ p.location ∉ c.locations ∧
        c' = ⟨place key p.binding.standardClaim? p c.sites, c.locations.insert p.location⟩ := by
  rw [record_perform]
  cases p.check with
  | error e => simp
  | ok key => by_cases taken : p.location ∈ c.locations <;> simp [taken, eq_comm]

theorem record_atomic (p : Point) : (record p).Atomic := by
  intro c e c' refused
  rw [record_perform] at refused
  cases checked : p.check with
  | error e' =>
    rw [checked] at refused
    exact (congrArg Prod.snd refused).symm
  | ok key =>
    simp only [checked] at refused
    split at refused
    · exact (congrArg Prod.snd refused).symm
    · cases congrArg Prod.fst refused

end Collector

open Collector (record record_perform record_eq_ok_iff record_atomic)

namespace Collected

variable {c c' : Collector} {points : List Point} {p : Point}

theorem record (collected : Collected c points)
    (accepted : (Collector.record p).perform c = (.ok (), c')) : Collected c' (points ++ [p]) := by
  obtain ⟨key, passed, free, rfl⟩ := record_eq_ok_iff.mp accepted
  obtain ⟨servable, asks⟩ := Point.check_eq_ok_iff.mp passed
  have named := (Point.key?_eq_some_iff.mp asks).1
  refine ⟨collected.groups.place asks (Binding.standardClaim?_eq_ofName? named), ?_, ?_, ?_⟩
  · intro q member
    rcases List.mem_append.mp member with earlier | now
    · exact collected.servable q earlier
    · exact List.mem_singleton.mp now ▸ servable
  · intro location
    rw [TextSet.mem_insert, collected.mem_locations_iff, List.map_append, List.mem_append,
      List.map_singleton, List.mem_singleton, or_comm]
  · rw [collected.mem_locations_iff] at free
    rw [List.map_append, List.map_singleton]
    exact List.Nodup.append collected.distinct (List.nodup_singleton _)
      (List.disjoint_singleton.mpr free)

theorem of_run (points : List Point) :
    Collected (Attempt.each Collector.record points .empty).2
      (Attempt.accepted points (Attempt.each Collector.record points .empty).1) :=
  Attempt.each_induction Collected record_atomic
    (fun _ _ _ _ _ collected accepted => collected.record accepted) points collected_empty

/-- A declaration is accepted exactly if it can be served and its location is not that of one that
was accepted. -/
theorem record_isOk_iff (collected : Collected c points) :
    ((Collector.record p).perform c).1 = .ok () ↔
      p.Servable ∧ p.location ∉ points.map (·.location) := by
  rw [← collected.mem_locations_iff, Point.servable_iff_check, record_perform]
  cases p.check with
  | error e => simp
  | ok key => by_cases taken : p.location ∈ c.locations <;> simp [taken]

theorem nodup (collected : Collected c points) : points.Nodup :=
  List.Nodup.of_map _ collected.distinct

theorem count_eq_one (collected : Collected c points) (member : p ∈ points) :
    (c.sites.flatMap (·.points)).count p = 1 := by
  rw [collected.groups.points_perm.count_eq]
  exact List.count_eq_one_of_mem collected.nodup member

theorem exists_site (collected : Collected c points) (member : p ∈ points) :
    ∃ s ∈ c.sites, p ∈ s.points ∧ p.key? = some s.key := by
  have held : p ∈ c.sites.flatMap (·.points) := collected.groups.points_perm.mem_iff.mpr member
  obtain ⟨s, isSite, inSite⟩ := List.mem_flatMap.mp held
  exact ⟨s, isSite, inSite, ((collected.groups.mem_points_iff isSite).mp inSite).2⟩

end Collected

/-- After any run, whatever was refused in it: a refused declaration has left no trace, so that the
accepted ones alone give the same sites. The sites ascend in their keys, none is empty, and each has
the standard claim of its name. Each accepted declaration stands in one place, in the site of what
it asks for, in the order in which it was accepted there. No location is there twice, and what is
recorded fits its standard claim and is no snapshot in a component that outlives the request. -/
theorem sites_of_run (points : List Point) :
    let run := Attempt.each record points Collector.empty
    let kept := Attempt.accepted points run.1
    (∀ p c e c', (record p).perform c = (.error e, c') → c' = c) ∧
    Attempt.each record kept Collector.empty = (run.1.filter (·.isOk), run.2) ∧
    (∀ p, ((record p).perform run.2).1 = .ok () ↔
      p.Servable ∧ p.location ∉ run.2.sites.flatMap Site.locations) ∧
    (run.2.sites.Pairwise fun s t => s.key.before t.key = true) ∧
    (∀ s ∈ run.2.sites, s.points ≠ [] ∧ s.standard = Standard.ofName? s.key.claim ∧
      s.points = kept.filter fun p => p.key? == some s.key) ∧
    (∀ p ∈ kept, (run.2.sites.flatMap (·.points)).count p = 1 ∧
      ∃ s ∈ run.2.sites, p ∈ s.points ∧ p.binding.claimName? = some s.key.claim ∧
        p.type.classify.map (·.shape) = some s.key.shape ∧ p.type = s.key.type) ∧
    (run.2.sites.flatMap Site.locations).Nodup ∧
    ∀ s ∈ run.2.sites, ∀ p ∈ s.points,
      (∀ c, p.binding.standardClaim? = some c → p.type.accepts c.kind = true) ∧
      ¬ (s.key.shape.isSnapshot = true ∧ p.scope.outlivesRequest = true) := by
  intro run kept
  have collected : Collected run.2 kept := Collected.of_run points
  have groups := collected.groups
  refine ⟨fun p => record_atomic p, Attempt.each_accepted record_atomic points .empty, ?_,
    groups.ascending, ?_, ?_, ?_, ?_⟩
  · intro p
    rw [collected.record_isOk_iff, groups.locations_perm.mem_iff]
  · intro s isSite
    exact ⟨groups.points_ne_nil isSite, groups.standard_eq isSite, groups.points_eq isSite⟩
  · intro p member
    obtain ⟨s, isSite, inSite, asks⟩ := collected.exists_site member
    exact ⟨collected.count_eq_one member, s, isSite, inSite, Point.key?_eq_some_iff.mp asks⟩
  · exact groups.locations_perm.nodup_iff.mpr collected.distinct
  · intro s isSite p inSite
    obtain ⟨member, asks⟩ := (groups.mem_points_iff isSite).mp inSite
    have servable := collected.servable p member
    refine ⟨servable.fits, fun ⟨snapshot, outlives⟩ => ?_⟩
    obtain ⟨classified, shaped, shape⟩ :=
      Option.map_eq_some_iff.mp (Point.key?_eq_some_iff.mp asks).2.1
    rw [servable.inScope classified shaped (shape ▸ snapshot)] at outlives
    cases outlives

private def issuer (location : String) (scope : Scope) : Point :=
  ⟨location, ⟨some .iss, ""⟩, .value .string, scope⟩

private def subjectAt (location : String) : Point :=
  ⟨location, ⟨none, "sub"⟩, .value .string, .request⟩

/-- A snapshot is refused to a component of the application and its location is not taken by that,
and of two declarations of one location the second is refused. -/
theorem issuer_kept_at_free_location :
    let points := [issuer "A" .application, subjectAt "B", issuer "A" .request, subjectAt "A"]
    let run := Attempt.each record points Collector.empty
    run.1.map (·.isOk) = [false, true, true, false] ∧
    Attempt.accepted points run.1 = [subjectAt "B", issuer "A" .request] ∧
    run.2.sites.map (·.points) = [[issuer "A" .request], [subjectAt "B"]] ∧
    Attempt.each record (Attempt.accepted points run.1) Collector.empty =
      (run.1.filter (·.isOk), run.2) ∧
    (run.2.sites.flatMap (·.points)).count (issuer "A" .request) = 1 ∧
    (run.2.sites.flatMap Site.locations).Nodup := by
  intro points run
  obtain ⟨-, again, -, -, -, once, distinct, -⟩ := sites_of_run points
  have kept : issuer "A" .request ∈ Attempt.accepted points run.1 := by decide +kernel
  exact ⟨by decide +kernel, by decide +kernel, by decide +kernel, again, (once _ kept).1, distinct⟩

end BearerGate.Injection
