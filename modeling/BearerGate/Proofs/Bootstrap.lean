import BearerGate.Proofs.CollectorRuns
import BearerGate.Proofs.RegistryRuns
import Mathlib.Data.List.Dedup

/-!
Bootstrap: declarations are collected, and the sites are registered. Main statement: nothing fails
once the declarations are collected, and each declared place is given what it asks for.
-/

set_option autoImplicit false
set_option relaxedAutoImplicit false

namespace BearerGate.Injection

theorem collect_eq_map (points : List Point) :
    collect points = (Attempt.all Collector.record points .empty).map (·.sites) :=
  rfl

theorem ofSites_eq_all (sites : List Site) :
    Registry.ofSites sites = Attempt.all Registry.enter sites .empty :=
  rfl

namespace Collected

variable {c : Collector} {earlier points : List Point}

theorem exists_all_iff (collected : Collected c earlier) :
    (∃ c', Attempt.all Collector.record points c = .ok c') ↔
      (∀ p ∈ points, p.Servable) ∧ ((earlier ++ points).map (·.location)).Nodup := by
  induction points generalizing c earlier with
  | nil =>
    rw [List.append_nil]
    exact ⟨fun _ => ⟨nofun, collected.distinct⟩, fun _ => ⟨c, rfl⟩⟩
  | cons p rest ih =>
    have accepts := collected.record_isOk_iff (p := p)
    rw [Attempt.all_cons]
    rcases outcome : (Collector.record p).perform c with ⟨answer, next⟩
    rw [outcome] at accepts
    cases answer with
    | error e =>
      -- It was refused, but the right side says that it can be served at a location of its own.
      refine ⟨nofun, fun ⟨servable, distinct⟩ => ?_⟩
      have fresh : p.location ∉ earlier.map (·.location) := by
        rw [List.map_append, List.map_cons] at distinct
        intro taken
        exact List.disjoint_of_nodup_append distinct taken List.mem_cons_self
      nomatch accepts.mpr ⟨servable p List.mem_cons_self, fresh⟩
    | ok result =>
      have servable := (accepts.mp rfl).1
      refine (ih (collected.record outcome)).trans ?_
      rw [List.append_assoc, List.singleton_append, List.forall_mem_cons]
      exact and_congr_left fun _ => (and_iff_right servable).symm

end Collected

theorem collect_eq_ok_iff {points : List Point} {sites : List Site} :
    collect points = .ok sites ↔
      ∃ c, Attempt.all Collector.record points .empty = .ok c ∧ c.sites = sites := by
  rw [collect_eq_map]
  cases Attempt.all Collector.record points .empty <;> simp [Except.map]

theorem collect_eq_error_iff {points : List Point} {e : DeclarationError} :
    collect points = .error e ↔ Attempt.all Collector.record points .empty = .error e := by
  rw [collect_eq_map]
  cases Attempt.all Collector.record points .empty <;> simp [Except.map]

/-- Collecting succeeds exactly if all declarations can be served and no two have one location. -/
theorem exists_collect_iff {points : List Point} :
    (∃ sites, collect points = .ok sites) ↔
      (∀ p ∈ points, p.Servable) ∧ (points.map (·.location)).Nodup := by
  refine Iff.trans ?_ collected_empty.exists_all_iff
  simp only [collect_eq_ok_iff]
  exact ⟨fun ⟨_, c, done, _⟩ => ⟨c, done⟩, fun ⟨c, done⟩ => ⟨_, c, done, rfl⟩⟩

theorem collected_of_collect {points : List Point} {sites : List Site}
    (done : collect points = .ok sites) : ∃ c, Collected c points ∧ c.sites = sites := by
  obtain ⟨c, accepted, same⟩ := collect_eq_ok_iff.mp done
  exact ⟨c, Attempt.all_induction Collected
    (fun _ _ _ _ _ collected accepted => collected.record accepted) collected_empty accepted, same⟩

theorem Point.check_ne_duplicateProducer (p : Point) (claim : String) (type : DeclaredType) :
    p.check ≠ .error (.duplicateProducer claim type) := by
  unfold check
  repeat' split
  all_goals nofun

theorem collect_ne_duplicateProducer (points : List Point) (claim : String) (type : DeclaredType) :
    collect points ≠ .error (.duplicateProducer claim type) := by
  intro refused
  obtain ⟨p, -, c, answer⟩ := Attempt.refused_of_all_eq_error (collect_eq_error_iff.mp refused)
  rw [Collector.record_perform] at answer
  cases checked : p.check with
  | error e =>
    rw [checked] at answer
    cases answer
    exact p.check_ne_duplicateProducer claim type checked
  | ok key =>
    simp only [checked] at answer
    split at answer <;> cases answer

namespace Serves

theorem exists_all {r : Registry} {earlier sites : List Site} (serves : Serves r earlier)
    (keys : ((earlier ++ sites).map (·.key)).Nodup)
    (locations : ((earlier ++ sites).flatMap Site.locations).Nodup) :
    ∃ r', Attempt.all Registry.enter sites r = .ok r' := by
  induction sites generalizing r earlier with
  | nil => exact ⟨r, rfl⟩
  | cons s rest ih =>
    have newKey : r.producer? s.key = none := by
      rw [List.map_append, List.map_cons] at keys
      exact serves.producer?_eq_none_iff.mpr fun taken =>
        List.disjoint_of_nodup_append keys taken List.mem_cons_self
    have newPlaces : ∀ location ∈ s.locations, r.key? location = none := by
      intro location member
      refine Option.eq_none_iff_forall_ne_some.mpr fun key mapped => ?_
      obtain ⟨t, isSite, inSite, -⟩ := (serves.key?_eq_some_iff location key).mp mapped
      rw [List.flatMap_append] at locations
      exact List.disjoint_of_nodup_append locations
        (List.mem_flatMap.mpr ⟨t, isSite, inSite⟩)
        (List.mem_flatMap.mpr ⟨s, List.mem_cons_self, member⟩)
    have accepted := Registry.enter_eq_ok_iff.mpr ⟨newKey, newPlaces, rfl, rfl⟩
    rw [Attempt.all_cons, accepted]
    refine ih (serves.enter accepted) ?_ ?_
    · rwa [List.append_assoc]
    · rwa [List.append_assoc]

theorem of_ofSites {r : Registry} {sites : List Site} (done : Registry.ofSites sites = .ok r) :
    Serves r sites := by
  rw [ofSites_eq_all] at done
  exact Attempt.all_induction Serves
    (fun _ _ _ _ _ serves accepted => serves.enter accepted) serves_empty done

end Serves

theorem exists_ofSites_of_collected {c : Collector} {points : List Point}
    (collected : Collected c points) : ∃ r, Registry.ofSites c.sites = .ok r := by
  rw [ofSites_eq_all]
  refine serves_empty.exists_all ?_ ?_
  · exact collected.groups.ascending.nodup_keys
  · exact collected.groups.locations_perm.nodup_iff.mpr collected.distinct

theorem bootstrap_eq_error_iff {points : List Point} {e : DeclarationError} :
    bootstrap points = .error e ↔ collect points = .error e := by
  rw [bootstrap]
  cases done : collect points with
  | error e' => simp [Except.bind]
  | ok sites =>
    obtain ⟨c, collected, rfl⟩ := collected_of_collect done
    obtain ⟨r, registered⟩ := exists_ofSites_of_collected collected
    simp [Except.bind, registered]

theorem exists_bootstrap_iff {points : List Point} :
    (∃ r, bootstrap points = .ok r) ↔ ∃ sites, collect points = .ok sites := by
  rw [bootstrap]
  cases done : collect points with
  | error e => simp [Except.bind]
  | ok sites =>
    obtain ⟨c, collected, rfl⟩ := collected_of_collect done
    obtain ⟨r, registered⟩ := exists_ofSites_of_collected collected
    simp [Except.bind, registered]

/-- A registry that serves the sites of a collector, which hold exactly some declarations. -/
structure Bootstrapped (r : Registry) (c : Collector) (points : List Point) : Prop where
  collected : Collected c points
  serves : Serves r c.sites

theorem bootstrapped_of_bootstrap {r : Registry} {points : List Point}
    (done : bootstrap points = .ok r) : ∃ c, Bootstrapped r c points := by
  rw [bootstrap] at done
  cases collects : collect points with
  | error e =>
    rw [collects] at done
    cases done
  | ok sites =>
    obtain ⟨c, collected, rfl⟩ := collected_of_collect collects
    rw [collects] at done
    exact ⟨c, collected, Serves.of_ofSites done⟩

namespace Bootstrapped

variable {r : Registry} {c : Collector} {points : List Point} {p : Point} {location : String}

theorem keys_perm (bootstrapped : Bootstrapped r c points) :
    (r.producers.map (·.key)).Perm (points.filterMap Point.key?).dedup := by
  obtain ⟨collected, serves⟩ := bootstrapped
  rw [serves.keys_eq, List.perm_ext_iff_of_nodup serves.distinct (List.nodup_dedup _)]
  intro key
  rw [collected.groups.mem_keys_iff, List.mem_dedup, List.mem_filterMap]

theorem producerFor?_of_mem (bootstrapped : Bootstrapped r c points) (member : p ∈ points) :
    ∃ producer, r.producerFor? p.location = some producer ∧ p.key? = some producer.key := by
  obtain ⟨collected, serves⟩ := bootstrapped
  obtain ⟨s, isSite, inSite, asks⟩ := collected.exists_site member
  have mapped : r.key? p.location = some s.key :=
    (serves.key?_eq_some_iff _ _).mpr ⟨s, isSite, List.mem_map.mpr ⟨p, inSite, rfl⟩, rfl⟩
  obtain ⟨producer, found, -, carries⟩ := serves.producerFor?_of_key? mapped
  exact ⟨producer, found, asks.trans (congrArg some carries.symm)⟩

theorem producerFor?_eq_none (bootstrapped : Bootstrapped r c points)
    (undeclared : location ∉ points.map (·.location)) : r.producerFor? location = none := by
  obtain ⟨collected, serves⟩ := bootstrapped
  have unmapped : r.key? location = none := by
    refine Option.eq_none_iff_forall_ne_some.mpr fun key mapped => undeclared ?_
    obtain ⟨s, isSite, inSite, -⟩ := (serves.key?_eq_some_iff location key).mp mapped
    exact collected.groups.locations_perm.mem_iff.mp (List.mem_flatMap.mpr ⟨s, isSite, inSite⟩)
  rw [Registry.producerFor?, unmapped]
  rfl

theorem injectFrom_of_mem (bootstrapped : Bootstrapped r c points) (member : p ∈ points)
    (token : Option Token) :
    ∃ claim, p.binding.claimName? = some claim ∧
      r.injectFrom p.location token = .ok (produce claim token p.type) := by
  obtain ⟨producer, found, asks⟩ := bootstrapped.producerFor?_of_mem member
  obtain ⟨named, -, type⟩ := Point.key?_eq_some_iff.mp asks
  refine ⟨producer.key.claim, named, ?_⟩
  rw [Registry.injectFrom, found, type]
  rfl

theorem injectFrom_eq_unknownSite_iff (bootstrapped : Bootstrapped r c points)
    (location : String) (token : Option Token) :
    r.injectFrom location token = .error (.unknownSite location) ↔
      location ∉ points.map (·.location) := by
  refine ⟨fun unknown declared => ?_, fun undeclared => ?_⟩
  · obtain ⟨p, member, rfl⟩ := List.mem_map.mp declared
    obtain ⟨claim, -, given⟩ := bootstrapped.injectFrom_of_mem member token
    rw [given] at unknown
    cases unknown
  · rw [Registry.injectFrom, bootstrapped.producerFor?_eq_none undeclared]

theorem number_eq_iff (bootstrapped : Bootstrapped r c points) {q : Point} {a b : Producer}
    (isP : p ∈ points) (isQ : q ∈ points) (foundA : r.producerFor? p.location = some a)
    (foundB : r.producerFor? q.location = some b) : a.number = b.number ↔ p.key? = q.key? := by
  obtain ⟨_, foundP, asksP⟩ := bootstrapped.producerFor?_of_mem isP
  obtain ⟨_, foundQ, asksQ⟩ := bootstrapped.producerFor?_of_mem isQ
  obtain rfl := Option.some.inj (foundA.symm.trans foundP)
  obtain rfl := Option.some.inj (foundB.symm.trans foundQ)
  rw [asksP, asksQ, Option.some.injEq]
  exact bootstrapped.serves.number_eq_iff_key_eq (Registry.mem_of_producerFor? foundA)
    (Registry.mem_of_producerFor? foundB)

end Bootstrapped

/-- Once the declarations are collected nothing fails, and the registry has one producer for each
key that is asked for. Each declared place has the producer of what it asks for, two places the same
one exactly if they ask for the same, and is given its claim as the declared type; no other place is
known. -/
theorem declared_places_served (points : List Point) :
    ((∃ r, bootstrap points = .ok r) ↔ ∃ sites, collect points = .ok sites) ∧
    (∀ e, bootstrap points = .error e ↔ collect points = .error e) ∧
    (∀ claim type, bootstrap points ≠ .error (.duplicateProducer claim type)) ∧
    ∀ r, bootstrap points = .ok r →
      (r.producers.map (·.key)).Perm (points.filterMap Point.key?).dedup ∧
      (∀ p ∈ points, ∃ producer, r.producerFor? p.location = some producer ∧
        p.key? = some producer.key) ∧
      (∀ p ∈ points, ∀ q ∈ points, ∀ a b, r.producerFor? p.location = some a →
        r.producerFor? q.location = some b → (a.number = b.number ↔ p.key? = q.key?)) ∧
      (∀ location token, r.injectFrom location token = .error (.unknownSite location) ↔
        location ∉ points.map (·.location)) ∧
      ∀ p ∈ points, ∀ token, ∃ claim, p.binding.claimName? = some claim ∧
        r.injectFrom p.location token = .ok (produce claim token p.type) := by
  refine ⟨exists_bootstrap_iff, fun e => bootstrap_eq_error_iff, fun claim type refused =>
    collect_ne_duplicateProducer points claim type (bootstrap_eq_error_iff.mp refused), ?_⟩
  intro r done
  obtain ⟨c, bootstrapped⟩ := bootstrapped_of_bootstrap done
  exact ⟨bootstrapped.keys_perm, fun p member => bootstrapped.producerFor?_of_mem member,
    fun p isP q isQ a b => bootstrapped.number_eq_iff isP isQ,
    bootstrapped.injectFrom_eq_unknownSite_iff,
    fun p member token => bootstrapped.injectFrom_of_mem member token⟩

private def placesDeclared : List Point :=
  [⟨"A", ⟨some .iss, ""⟩, .value .string, .request⟩, ⟨"C", ⟨none, "n"⟩, .value .long, .request⟩,
    ⟨"B", ⟨none, "iss"⟩, .value .string, .dependent⟩]

private def issuedByI : Token := Token.ofPayload "t" (TextMap.ofList [("iss", .string "i")])

/-- A claim that is named in two ways at two places has one producer for both. -/
theorem issuer_shared_by_two_places :
    ∃ r, bootstrap placesDeclared = .ok r ∧
      (∀ a b, r.producerFor? "A" = some a → r.producerFor? "B" = some b → a.number = b.number) ∧
      (∀ a c, r.producerFor? "A" = some a → r.producerFor? "C" = some c → a.number ≠ c.number) ∧
      r.injectFrom "B" (some issuedByI) = .ok (.claim (.string "i")) ∧
      r.injectFrom "D" none = .error (.unknownSite "D") := by
  obtain ⟨isOk, -, -, served⟩ := declared_places_served placesDeclared
  have collects : ∃ sites, collect placesDeclared = .ok sites := ⟨_, rfl⟩
  obtain ⟨r, done⟩ := isOk.mpr collects
  obtain ⟨-, -, shared, unknown, given⟩ := served r done
  have isA : placesDeclared[0] ∈ placesDeclared := List.getElem_mem _
  have isC : placesDeclared[1] ∈ placesDeclared := List.getElem_mem _
  have isB : placesDeclared[2] ∈ placesDeclared := List.getElem_mem _
  refine ⟨r, done, fun a b foundA foundB => ?_, fun a c foundA foundC => ?_, ?_, ?_⟩
  · exact (shared _ isA _ isB a b foundA foundB).mpr rfl
  · exact (shared _ isA _ isC a c foundA foundC).not.mpr (by decide)
  · obtain ⟨claim, named, value⟩ := given _ isB (some issuedByI)
    cases named
    exact value
  · exact (unknown "D" none).mpr (by decide)

end BearerGate.Injection
