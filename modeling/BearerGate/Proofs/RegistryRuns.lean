import BearerGate.Injection.Registry
import Mathlib.Data.List.Nodup

/-!
Runs of a registry: sites that are entered one after the other, some accepted and some refused, in
any order, whichever collectors they come from. Main statement: a refused site changes nothing, a
place once mapped keeps its producer, and each place that is mapped has one, which carries the key
of the place.
-/

set_option autoImplicit false
set_option relaxedAutoImplicit false

namespace BearerGate.Injection

/-- A registry that serves a list of sites: one producer for each, in their order and numbered, and
for each place the key of the site that has it. -/
structure Serves (r : Registry) (sites : List Site) : Prop where
  keys_eq : r.producers.map (·.key) = sites.map (·.key)
  numbers_eq : r.producers.map (·.number) = List.range sites.length
  distinct : (sites.map (·.key)).Nodup
  key?_eq_some_iff : ∀ location key,
    r.key? location = some key ↔ ∃ s ∈ sites, location ∈ s.locations ∧ s.key = key

theorem serves_empty : Serves .empty [] where
  keys_eq := rfl
  numbers_eq := rfl
  distinct := List.nodup_nil
  key?_eq_some_iff location key := by simp [Registry.empty, Registry.key?]

namespace Registry

/-- What is there in a registry is there unchanged in another. -/
structure Extends (r r' : Registry) : Prop where
  key? : ∀ location key, r.key? location = some key → r'.key? location = some key
  producer? : ∀ key p, r.producer? key = some p → r'.producer? key = some p

theorem mem_of_producerFor? {r : Registry} {location : String} {p : Producer}
    (found : r.producerFor? location = some p) : p ∈ r.producers := by
  obtain ⟨key, -, held⟩ := Option.bind_eq_some_iff.mp found
  exact List.mem_of_find?_eq_some held

theorem enter_eq_ok_iff {site : Site} {r r' : Registry} {p : Producer} :
    (enter site).perform r = (.ok p, r') ↔
      r.producer? site.key = none ∧ (∀ location ∈ site.locations, r.key? location = none) ∧
        p = ⟨r.size, site.key⟩ ∧ r' = r.extended site := by
  have allFree : (∀ location ∈ site.locations, r.key? location = none) ↔
      (site.locations.find? fun location => (r.key? location).isSome) = none := by
    simp [List.find?_eq_none]
  rw [enter_perform, allFree]
  cases r.producer? site.key with
  | some _ => simp
  | none =>
    cases site.locations.find? fun location => (r.key? location).isSome with
    | some _ => simp
    | none => simp [eq_comm]

/-- A refused site is refused for its key or for one of its places, and changes nothing. -/
theorem enter_refused {site : Site} {r r' : Registry} {e : DeclarationError}
    (refused : (enter site).perform r = (.error e, r')) :
    r' = r ∧ ((r.producer? site.key).isSome = true ∧
        e = .duplicateProducer site.key.claim site.key.type ∨
      ∃ location ∈ site.locations, (r.key? location).isSome = true ∧
        e = .duplicateSite location) := by
  rw [enter_perform] at refused
  split at refused
  · rename_i held
    cases refused
    exact ⟨rfl, .inl ⟨held, rfl⟩⟩
  · split at refused
    · rename_i location taken
      cases refused
      have mapped : (r.key? location).isSome = true := by simpa using List.find?_some taken
      exact ⟨rfl, .inr ⟨location, List.mem_of_find?_eq_some taken, mapped, rfl⟩⟩
    · cases refused

theorem enter_atomic (site : Site) : (enter site).Atomic :=
  fun _ _ _ refused => (enter_refused refused).1

namespace Extends

variable {r r' r'' : Registry}

theorem refl (r : Registry) : r.Extends r := ⟨fun _ _ => id, fun _ _ => id⟩

theorem trans (first : r.Extends r') (second : r'.Extends r'') : r.Extends r'' :=
  ⟨fun location key mapped => second.key? location key (first.key? location key mapped),
    fun key p held => second.producer? key p (first.producer? key p held)⟩

theorem producerFor? (extended : r.Extends r') {location : String} {p : Producer}
    (found : r.producerFor? location = some p) : r'.producerFor? location = some p := by
  obtain ⟨key, mapped, held⟩ := Option.bind_eq_some_iff.mp found
  exact Option.bind_eq_some_iff.mpr
    ⟨key, extended.key? location key mapped, extended.producer? key p held⟩

end Extends

theorem extends_enter (site : Site) (r : Registry) :
    r.Extends ((enter site).perform r).2 := by
  rcases outcome : (enter site).perform r with ⟨answer, r'⟩
  cases answer with
  | error e => exact enter_atomic site r e r' outcome ▸ Extends.refl r
  | ok p =>
    obtain ⟨newKey, newPlaces, -, rfl⟩ := enter_eq_ok_iff.mp outcome
    refine ⟨fun location key mapped => ?_, fun key p held => ?_⟩
    · rw [key?_extended, if_neg fun member => ?_]
      · exact mapped
      · rw [newPlaces location member] at mapped
        cases mapped
    · rw [producer?_extended, if_neg ?_]
      · exact held
      · rintro rfl
        rw [newKey] at held
        cases held

theorem extends_run (sites : List Site) (r : Registry) :
    r.Extends (Attempt.each enter sites r).2 :=
  Attempt.each_invariant r.Extends
    (fun site r' extended => extended.trans (extends_enter site r')) sites (Extends.refl r)

end Registry

open Registry (enter enter_eq_ok_iff enter_refused enter_atomic extends_run)

namespace Serves

variable {r r' : Registry} {sites : List Site} {site : Site} {p : Producer}

theorem size_eq (serves : Serves r sites) : r.size = sites.length := by
  have lengths := congrArg List.length serves.keys_eq
  rwa [List.length_map, List.length_map] at lengths

theorem producer?_eq_none_iff (serves : Serves r sites) {key : Key} :
    r.producer? key = none ↔ key ∉ sites.map (·.key) := by
  rw [← serves.keys_eq]
  simp [Registry.producer?]

theorem enter (serves : Serves r sites)
    (accepted : (Registry.enter site).perform r = (.ok p, r')) : Serves r' (sites ++ [site]) := by
  obtain ⟨newKey, newPlaces, -, rfl⟩ := enter_eq_ok_iff.mp accepted
  have fresh := serves.producer?_eq_none_iff.mp newKey
  have appended : (r.extended site).producers = r.producers ++ [⟨r.size, site.key⟩] := by
    rw [Registry.producers_extended, assign_eq_append]
    rw [← serves.keys_eq] at fresh
    exact fun q member same => fresh (List.mem_map.mpr ⟨q, member, same⟩)
  refine ⟨?_, ?_, ?_, fun location key => ?_⟩
  · rw [appended, List.map_append, serves.keys_eq, List.map_append]
    rfl
  · rw [appended, List.map_append, serves.numbers_eq, List.length_append, List.length_singleton,
      List.range_succ, serves.size_eq]
    rfl
  · rw [List.map_append]
    exact List.Nodup.append serves.distinct (List.nodup_singleton _)
      (List.disjoint_singleton.mpr fresh)
  · rw [Registry.key?_extended]
    by_cases member : location ∈ site.locations
    · -- Its places were free, so that no earlier site has any of them.
      have free : ∀ s ∈ sites, location ∈ s.locations → s.key ≠ key := by
        intro s isSite inSite same
        have mapped := (serves.key?_eq_some_iff location key).mpr ⟨s, isSite, inSite, same⟩
        rw [newPlaces location member] at mapped
        cases mapped
      rw [if_pos member, Option.some.injEq]
      refine ⟨fun same => ⟨site, List.mem_append_right _ List.mem_cons_self, member, same⟩, ?_⟩
      rintro ⟨s, isSite, inSite, same⟩
      rcases List.mem_append.mp isSite with earlier | now
      · exact absurd same (free s earlier inSite)
      · rwa [List.mem_singleton.mp now] at same
    · rw [if_neg member, serves.key?_eq_some_iff]
      simp [or_and_right, exists_or, member]

theorem of_run (sites : List Site) :
    Serves (Attempt.each Registry.enter sites .empty).2
      (Attempt.accepted sites (Attempt.each Registry.enter sites .empty).1) :=
  Attempt.each_induction Serves enter_atomic
    (fun _ _ _ _ _ serves accepted => serves.enter accepted) sites serves_empty

theorem number_eq_iff_key_eq (serves : Serves r sites) {a b : Producer} (isA : a ∈ r.producers)
    (isB : b ∈ r.producers) : a.number = b.number ↔ a.key = b.key := by
  have numbers : (r.producers.map (·.number)).Nodup := serves.numbers_eq ▸ List.nodup_range
  have keys : (r.producers.map (·.key)).Nodup := serves.keys_eq ▸ serves.distinct
  exact ⟨fun same => congrArg _ (List.inj_on_of_nodup_map numbers isA isB same),
    fun same => congrArg _ (List.inj_on_of_nodup_map keys isA isB same)⟩

theorem producerFor?_of_key? (serves : Serves r sites) {location : String} {key : Key}
    (mapped : r.key? location = some key) :
    ∃ p, r.producerFor? location = some p ∧ r.producer? key = some p ∧ p.key = key := by
  obtain ⟨s, isSite, -, rfl⟩ := (serves.key?_eq_some_iff location key).mp mapped
  obtain ⟨p, held⟩ := Option.ne_none_iff_exists'.mp fun none =>
    serves.producer?_eq_none_iff.mp none (List.mem_map.mpr ⟨s, isSite, rfl⟩)
  refine ⟨p, ?_, held, by simpa using List.find?_some held⟩
  rw [Registry.producerFor?, mapped]
  exact held

theorem producerFor?_isSome_iff (serves : Serves r sites) (location : String) :
    (r.producerFor? location).isSome = true ↔ (r.key? location).isSome = true := by
  cases mapped : r.key? location with
  | none => simp [Registry.producerFor?, mapped]
  | some key =>
    obtain ⟨p, found, -⟩ := serves.producerFor?_of_key? mapped
    simp [found]

end Serves

/-- After any run, whatever was refused in it: a refused site, be it for the last of its places, has
changed nothing. Each mapped place has a producer, which carries the key of the place, and no other
place has one. Whatever is entered later, the places keep their keys and the keys their producers.
There are as many producers as sites were accepted, and a further one is accepted exactly if its key
has no producer and none of its places is mapped; then it has both, and all else is as it was. -/
theorem places_of_run (sites : List Site) :
    let run := Attempt.each enter sites Registry.empty
    let r := run.2
    (∀ site before after e, (enter site).perform before = (.error e, after) → after = before ∧
      ((before.producer? site.key).isSome = true ∧
          e = .duplicateProducer site.key.claim site.key.type ∨
        ∃ location ∈ site.locations, (before.key? location).isSome = true ∧
          e = .duplicateSite location)) ∧
    (∀ location key, r.key? location = some key →
      ∃ p, r.producerFor? location = some p ∧ r.producer? key = some p ∧ p.key = key) ∧
    (∀ location, (r.producerFor? location).isSome = true ↔ (r.key? location).isSome = true) ∧
    (∀ later, let r' := (Attempt.each enter later r).2
      (∀ location key, r.key? location = some key → r'.key? location = some key) ∧
      (∀ key p, r.producer? key = some p → r'.producer? key = some p) ∧
      ∀ location p, r.producerFor? location = some p → r'.producerFor? location = some p) ∧
    r.size = run.1.countP (·.isOk) ∧
    (∀ site, (((enter site).perform r).1.isOk = true ↔
      r.producer? site.key = none ∧ ∀ location ∈ site.locations, r.key? location = none)) ∧
    ∀ site p r', (enter site).perform r = (.ok p, r') →
      (∀ key, r'.producer? key = if key = site.key then some p else r.producer? key) ∧
      ∀ location, r'.key? location =
        if location ∈ site.locations then some site.key else r.key? location := by
  intro run r
  have serves : Serves r (Attempt.accepted sites run.1) := Serves.of_run sites
  refine ⟨fun site before after e => enter_refused,
    fun location key => serves.producerFor?_of_key?, serves.producerFor?_isSome_iff,
    fun later => ?_, ?_, fun site => ?_, fun site p r' accepted => ?_⟩
  · have kept := extends_run later r
    exact ⟨kept.key?, kept.producer?, fun location p => kept.producerFor?⟩
  · rw [serves.size_eq]
    exact Attempt.length_accepted enter_atomic sites .empty
  · rw [Attempt.isOk_perform_iff]
    simp only [enter_eq_ok_iff]
    exact ⟨fun ⟨_, _, newKey, newPlaces, _, _⟩ => ⟨newKey, newPlaces⟩,
      fun ⟨newKey, newPlaces⟩ => ⟨_, _, newKey, newPlaces, rfl, rfl⟩⟩
  · obtain ⟨-, -, rfl, rfl⟩ := enter_eq_ok_iff.mp accepted
    refine ⟨fun key => ?_, r.key?_extended site⟩
    rw [Registry.producer?_extended]
    simp only [eq_comm]

private def textSite (claim : String) (locations : List String) : Site where
  key := ⟨claim, .raw, .value .string⟩
  standard := Claim.Standard.ofName? claim
  points := locations.map fun location =>
    ⟨location, ⟨none, claim⟩, .value .string, .request⟩

/-- A site is refused for the last of its places, which leaves the other ones free for a site of the
same key, and a key is refused a second producer. -/
theorem place_free_after_refusal :
    let sites := [textSite "iss" ["A", "B"], textSite "sub" ["C", "B"], textSite "iss" ["D"],
      textSite "sub" ["C"]]
    let run := Attempt.each enter sites Registry.empty
    run.1.map (·.isOk) = [true, false, false, true] ∧
    run.2.key? "B" = some (textSite "iss" []).key ∧
    run.2.key? "C" = some (textSite "sub" []).key ∧
    run.2.key? "D" = none ∧
    (∃ p, run.2.producerFor? "C" = some p ∧ p.key = (textSite "sub" []).key) ∧
    run.2.size = run.1.countP (·.isOk) ∧
    ∀ location, (run.2.producerFor? location).isSome = true ↔
      (run.2.key? location).isSome = true := by
  intro sites run
  obtain ⟨-, carried, mapped, -, size, -⟩ := places_of_run sites
  have placeC : run.2.key? "C" = some (textSite "sub" []).key := by decide +kernel
  obtain ⟨p, found, -, key⟩ := carried "C" _ placeC
  exact ⟨by decide +kernel, by decide +kernel, placeC, by decide +kernel, ⟨p, found, key⟩, size,
    mapped⟩

end BearerGate.Injection
