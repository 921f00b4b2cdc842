import BearerGate.Auth.Policy
import BearerGate.Proofs.PathLanguage

/-!
The public paths of a policy, against what each of its routes makes public alone. Main statement: a
path needs a caller exactly if each route that would make it public alone is overtaken by another
one of the list. The order of the routes does not count, further routes make no path public that
they would not make public alone, and where no text follows a name the public paths are the union.
-/

set_option autoImplicit false
set_option relaxedAutoImplicit false

namespace BearerGate

namespace Route

/-- Somewhere the text of a segment goes on behind a name. -/
def GoesOnBehindName (p : List Piece) : Prop :=
  ∃ front tail, p = front ++ .parameter :: tail ∧ segmentRest tail ≠ [] ∧ segmentRest tail ≠ ['/']

theorem GoesOnBehindName.append {p : List Piece} (goesOn : GoesOnBehindName p)
    (front : List Piece) : GoesOnBehindName (front ++ p) := by
  obtain ⟨between, tail, rfl, isText⟩ := goesOn
  exact ⟨front ++ between, tail, (List.append_assoc ..).symm, isText⟩

theorem Overtakes.ne {q p : List Piece} {path : List Char} (overtakes : Overtakes q p path) :
    q ≠ p := by
  induction overtakes with
  | here less =>
    rintro ⟨⟩
    exact Nat.lt_irrefl _ less
  | literal later ih | parameter _ _ later ih =>
    rintro ⟨⟩
    exact ih rfl

theorem matchesAny_singleton_iff {p : List Piece} {path : List Char}
    (wellFormed : isWellFormed false p = true) : matchesAny [p] path = true ↔ Fits p path := by
  rw [matchesAny_iff (List.forall_mem_singleton.mpr wellFormed)]
  constructor
  · rintro ⟨q, member, fits, _⟩
    exact List.mem_singleton.mp member ▸ fits
  · intro fits
    refine ⟨p, List.mem_singleton_self p, fits, ?_⟩
    exact List.forall_mem_singleton.mpr fun overtakes => overtakes.ne rfl

theorem isWellFormed_of_literal {named : Bool} {c : Char} {tail : List Piece}
    (wellFormed : isWellFormed named (.literal c :: tail) = true) :
    ∃ named, isWellFormed named tail = true :=
  ⟨_, wellFormed⟩

theorem isWellFormed_of_parameter {named : Bool} {tail : List Piece}
    (wellFormed : isWellFormed named (.parameter :: tail) = true) :
    isWellFormed true tail = true := by
  cases named with
  | false => exact wellFormed
  | true => cases wellFormed

theorem not_endsWith_both {path : List Char} (ends : EndsWith path []) :
    ¬ EndsWith path ['/'] := by
  rintro ⟨name, _, _, segment⟩
  obtain ⟨whole, _, within, same⟩ := ends
  rw [List.append_nil] at same
  rw [← same, segment] at within
  exact within (List.mem_append_right name (List.mem_singleton_self _))

theorem goesOnBehindName_of_overtakes {named : Bool} {q p : List Piece} {path : List Char}
    (wellFormed : isWellFormed named p = true) (fits : Fits p path)
    (overtakes : Overtakes q p path) : GoesOnBehindName q := by
  -- On the number of pieces: behind a name the fit goes on with what is left of a whole ending.
  induction length : p.length using Nat.strongRecOn generalizing named q p path with
  | ind n ih =>
    cases p with
    | nil => exact absurd rfl overtakes.ne_nil
    | cons first tail =>
      rw [List.length_cons] at length
      cases first with
      | rest => cases overtakes
      | literal c =>
        cases overtakes with
        | @literal _ q _ path overtakes =>
          cases fits with
          | literal fits =>
            obtain ⟨named, wellFormed⟩ := isWellFormed_of_literal wellFormed
            have goesOn := ih tail.length (by omega) wellFormed fits overtakes rfl
            exact goesOn.append [.literal c]
      | parameter =>
        have named := isWellFormed_of_parameter wellFormed
        obtain ⟨ends, later⟩ := (fits_parameter_iff named).mp fits
        obtain ⟨q, rfl⟩ : ∃ t, q = .parameter :: t := by
          cases overtakes <;> exact ⟨_, rfl⟩
        rcases (overtakes_parameter_iff named).mp overtakes with
          ⟨less, endsLonger⟩ | ⟨same, _, overtakes⟩
        · refine ⟨[], q, rfl, List.ne_nil_of_length_pos (by omega), fun slash => ?_⟩
          rw [slash] at less endsLonger
          have empty := List.length_eq_zero_iff.mp (Nat.lt_one_iff.mp less)
          exact not_endsWith_both (empty ▸ ends) endsLonger
        · have shorter : (beyondEnding tail).length < n := by
            rw [beyondEnding, List.length_drop]
            omega
          have goesOn := ih _ shorter (isWellFormed_beyondEnding named) later overtakes rfl
          have inTail := goesOn.append ((segmentRest q).map .literal)
          rw [ending_append_beyond] at inTail
          exact inTail.append [.parameter]

theorem Table.eq_of_patterns {t t' : Table} (same : t.patterns = t'.patterns) : t = t' := by
  cases t
  cases same
  rfl

theorem Table.insert?_eq_some_iff {t t' : Table} {q : Pattern} :
    t.insert? q = some t' ↔
      (∀ p ∈ t.patterns, p.clashes q = false) ∧ t'.patterns = t.patterns ++ [q] := by
  rw [Table.insert?]
  split
  · rename_i free
    rw [List.all_eq_true] at free
    have free : ∀ p ∈ t.patterns, p.clashes q = false := fun p member => by
      simpa using free p member
    rw [Option.some.injEq]
    constructor
    · rintro rfl
      exact ⟨free, rfl⟩
    · rintro ⟨_, same⟩
      exact (Table.eq_of_patterns same).symm
  · rename_i clash
    constructor
    · rintro ⟨⟩
    · rintro ⟨free, _⟩
      exact absurd (List.all_eq_true.mpr fun p member => by simpa using free p member) clash

end Route

namespace Policy

theorem addRoute_eq_ok_iff {t t' : Route.Table} {text : String} :
    addRoute t text = .ok t' ↔ ∃ q, Route.Pattern.ofText? text = some q ∧
      (∀ p ∈ t.patterns, p.clashes q = false) ∧ t'.patterns = t.patterns ++ [q] := by
  have inserts : addRoute t text = .ok t' ↔
      (Route.Pattern.ofText? text).bind t.insert? = some t' := by
    rw [addRoute]
    cases (Route.Pattern.ofText? text).bind t.insert? <;> simp
  rw [inserts, Option.bind_eq_some_iff]
  exact exists_congr fun q => and_congr_right fun _ => Route.Table.insert?_eq_some_iff

theorem foldlM_addRoute_eq_ok_iff {t t' : Route.Table} {routes : List String} :
    routes.foldlM addRoute t = .ok t' ↔ ∃ ps, routes.map Route.Pattern.ofText? = ps.map some ∧
      t'.patterns = t.patterns ++ ps := by
  induction routes generalizing t with
  | nil =>
    constructor
    · rintro ⟨⟩
      exact ⟨[], rfl, (List.append_nil _).symm⟩
    · rintro ⟨ps, reads, same⟩
      rw [List.map_eq_nil_iff.mp reads.symm, List.append_nil] at same
      exact congrArg _ (Route.Table.eq_of_patterns same).symm
  | cons route rest ih =>
    have first : (route :: rest).foldlM addRoute t = .ok t' ↔
        ∃ u, addRoute t route = .ok u ∧ rest.foldlM addRoute u = .ok t' := by
      rw [List.foldlM_cons]
      cases addRoute t route <;> simp [bind, Except.bind]
    simp only [first, addRoute_eq_ok_iff, ih]
    constructor
    · rintro ⟨u, ⟨q, read, _, added⟩, ps, reads, same⟩
      rw [added, List.append_assoc] at same
      exact ⟨q :: ps, by rw [List.map_cons, List.map_cons, read, reads], same⟩
    · rintro ⟨ps, reads, same⟩
      cases ps with
      | nil => cases reads
      | cons q ps =>
        obtain ⟨read, reads⟩ := List.cons.inj reads
        -- That nothing clashes need not be asked: the table at the end has all these patterns.
        have whole : t'.patterns = (t.patterns ++ [q]) ++ ps := by
          rw [same, List.append_assoc, List.singleton_append]
        have compatible := (List.pairwise_append.mp (whole ▸ t'.compatible)).1
        have free : ∀ p ∈ t.patterns, p.clashes q = false := fun p member =>
          (List.pairwise_append.mp compatible).2.2 p member q (List.mem_singleton_self q)
        exact ⟨⟨_, compatible⟩, ⟨q, read, free, rfl⟩, ps, reads, whole⟩

theorem ofRoutes_eq_ok_iff {require : Bool} {routes : List String} {policy : Policy} :
    ofRoutes require routes = .ok policy ↔ policy.requireAuth = require ∧
      routes.map Route.Pattern.ofText? = policy.publicRoutes.patterns.map some := by
  have folded : ofRoutes require routes = .ok policy ↔ policy.requireAuth = require ∧
      routes.foldlM addRoute .empty = .ok policy.publicRoutes := by
    rw [ofRoutes]
    cases policy
    cases routes.foldlM addRoute .empty <;> simp [Except.map, eq_comm]
  rw [folded, foldlM_addRoute_eq_ok_iff]
  refine and_congr_right fun _ => ?_
  constructor
  · rintro ⟨ps, reads, same⟩
    rw [reads, same]
    rfl
  · intro reads
    exact ⟨_, reads, rfl⟩

/-- A route makes a path public if it is the only one. -/
def PublicAlone (route path : String) : Prop :=
  ∃ single, ofRoutes true [route] = .ok single ∧ single.resolve path = .none

/-- On a path one route overtakes another. -/
def Overtakes (other route path : String) : Prop :=
  ∃ q p, Route.Pattern.ofText? other = some q ∧ Route.Pattern.ofText? route = some p ∧
    Route.Overtakes q.pieces p.pieces path.toList

/-- Somewhere in a route the text of a segment goes on behind a name. -/
def GoesOnBehindName (route : String) : Prop :=
  ∃ p, Route.Pattern.ofText? route = some p ∧ Route.GoesOnBehindName p.pieces

theorem resolve_eq_none_iff (policy : Policy) (path : String) :
    policy.resolve path = .none ↔ (policy.requireAuth = true → policy.isPublic path = true) := by
  rw [resolve]
  cases policy.requireAuth <;> cases policy.isPublic path <;> decide

theorem resolve_eq_required_iff (policy : Policy) (path : String) :
    policy.resolve path = .required ↔
      policy.requireAuth = true ∧ ¬ policy.isPublic path = true := by
  rw [resolve]
  cases policy.requireAuth <;> cases policy.isPublic path <;> decide

theorem isPublic_iff (policy : Policy) (path : String) :
    policy.isPublic path = true ↔ ∃ p ∈ policy.publicRoutes.patterns,
      Route.Prevails (policy.publicRoutes.patterns.map (·.pieces)) p.pieces path.toList := by
  have wellFormed : ∀ p ∈ policy.publicRoutes.patterns.map (·.pieces),
      Route.isWellFormed false p = true := by
    rw [List.forall_mem_map]
    exact fun p _ => p.wellFormed
  rw [isPublic, Route.Table.matchesPath, Route.matchesAny_iff wellFormed]
  simp only [List.mem_map, exists_exists_and_eq_and]

theorem ofRoutes_singleton_iff {route : String} {p : Route.Pattern}
    (read : Route.Pattern.ofText? route = some p) (single : Policy) :
    ofRoutes true [route] = .ok single ↔
      single.requireAuth = true ∧ single.publicRoutes.patterns = [p] := by
  rw [ofRoutes_eq_ok_iff, List.map_singleton, read]
  refine and_congr_right fun _ => ?_
  rw [← List.map_singleton, List.map_inj_right fun _ _ => Option.some.inj, eq_comm]

theorem exists_single {route : String} {p : Route.Pattern}
    (read : Route.Pattern.ofText? route = some p) :
    ∃ single, ofRoutes true [route] = .ok single :=
  ⟨⟨true, ⟨[p], List.pairwise_singleton _ p⟩⟩, (ofRoutes_singleton_iff read _).mpr ⟨rfl, rfl⟩⟩

theorem publicAlone_iff {route : String} {p : Route.Pattern}
    (read : Route.Pattern.ofText? route = some p) (path : String) :
    PublicAlone route path ↔ Route.Fits p.pieces path.toList := by
  have isPublic {single : Policy} (only : single.publicRoutes.patterns = [p]) :
      single.isPublic path = true ↔ Route.Fits p.pieces path.toList := by
    rw [Policy.isPublic, Route.Table.matchesPath, only]
    exact Route.matchesAny_singleton_iff p.wellFormed
  constructor
  · rintro ⟨single, accepts, none⟩
    obtain ⟨requires, only⟩ := (ofRoutes_singleton_iff read single).mp accepts
    exact (isPublic only).mp ((resolve_eq_none_iff single path).mp none requires)
  · intro fits
    obtain ⟨single, accepts⟩ := exists_single read
    obtain ⟨_, only⟩ := (ofRoutes_singleton_iff read single).mp accepts
    exact ⟨single, accepts, (resolve_eq_none_iff single path).mpr fun _ => (isPublic only).mpr fits⟩

section Accepted

variable {require : Bool} {routes : List String} {policy : Policy}

theorem mem_patterns_iff (accepted : ofRoutes require routes = .ok policy) {p : Route.Pattern} :
    p ∈ policy.publicRoutes.patterns ↔ ∃ route ∈ routes, Route.Pattern.ofText? route = some p := by
  rw [← List.mem_map, (ofRoutes_eq_ok_iff.mp accepted).2, List.mem_map]
  simp

theorem exists_pattern (accepted : ofRoutes require routes = .ok policy) {route : String}
    (member : route ∈ routes) : ∃ p, Route.Pattern.ofText? route = some p := by
  have read := List.mem_map_of_mem (f := Route.Pattern.ofText?) member
  rw [(ofRoutes_eq_ok_iff.mp accepted).2] at read
  obtain ⟨p, _, same⟩ := List.mem_map.mp read
  exact ⟨p, same.symm⟩

/-- A path is public if a route makes it public that no other route overtakes. -/
theorem isPublic_iff_of_accepted (accepted : ofRoutes require routes = .ok policy)
    (path : String) : policy.isPublic path = true ↔
      ∃ route ∈ routes, PublicAlone route path ∧
        ∀ other ∈ routes, ¬ Overtakes other route path := by
  rw [isPublic_iff]
  have free {route : String} {p : Route.Pattern} (read : Route.Pattern.ofText? route = some p) :
      (∀ other ∈ routes, ¬ Overtakes other route path) ↔
        ∀ q ∈ policy.publicRoutes.patterns.map (·.pieces),
          ¬ Route.Overtakes q p.pieces path.toList := by
    rw [List.forall_mem_map]
    constructor
    · intro free q member overtakes
      obtain ⟨other, isRoute, readOther⟩ := (mem_patterns_iff accepted).mp member
      exact free other isRoute ⟨q, p, readOther, read, overtakes⟩
    · rintro free other member ⟨q, p', readOther, read', overtakes⟩
      obtain rfl := Option.some.inj (read.symm.trans read')
      exact free q ((mem_patterns_iff accepted).mpr ⟨other, member, readOther⟩) overtakes
  constructor
  · rintro ⟨p, member, fits, prevails⟩
    obtain ⟨route, isRoute, read⟩ := (mem_patterns_iff accepted).mp member
    exact ⟨route, isRoute, (publicAlone_iff read path).mpr fits, (free read).mpr prevails⟩
  · rintro ⟨route, member, alone, prevails⟩
    obtain ⟨p, read⟩ := exists_pattern accepted member
    exact ⟨p, (mem_patterns_iff accepted).mpr ⟨route, member, read⟩,
      (publicAlone_iff read path).mp alone, (free read).mp prevails⟩

theorem resolve_eq_required_iff_of_accepted (accepted : ofRoutes require routes = .ok policy)
    (path : String) : policy.resolve path = .required ↔ require = true ∧
      ∀ route ∈ routes, PublicAlone route path → ∃ other ∈ routes, Overtakes other route path := by
  rw [resolve_eq_required_iff, (ofRoutes_eq_ok_iff.mp accepted).1,
    isPublic_iff_of_accepted accepted]
  simp only [not_exists, not_and, not_forall, Classical.not_not, exists_prop]

theorem resolve_eq_of_mem_iff {routes' : List String} {policy' : Policy}
    (accepted : ofRoutes require routes = .ok policy)
    (accepted' : ofRoutes require routes' = .ok policy')
    (same : ∀ route, route ∈ routes' ↔ route ∈ routes) : policy'.resolve = policy.resolve := by
  funext path
  have sameRequired : policy'.resolve path = .required ↔ policy.resolve path = .required := by
    rw [resolve_eq_required_iff_of_accepted accepted, resolve_eq_required_iff_of_accepted accepted']
    simp only [same]
  cases decision : policy.resolve path with
  | required => exact sameRequired.mpr decision
  | none =>
    cases decision' : policy'.resolve path with
    | none => rfl
    | required => exact (sameRequired.mp decision').symm.trans decision

/-- Where no name is followed by more of its segment, the public paths are the union. -/
theorem resolve_eq_required_iff_of_plain (accepted : ofRoutes require routes = .ok policy)
    (plain : ∀ route ∈ routes, ¬ GoesOnBehindName route) (path : String) :
    policy.resolve path = .required ↔
      require = true ∧ ∀ route ∈ routes, ¬ PublicAlone route path := by
  rw [resolve_eq_required_iff_of_accepted accepted]
  refine and_congr_right fun _ => forall₂_congr fun route member => imp_congr_right fun alone => ?_
  rw [iff_false]
  rintro ⟨other, isRoute, q, p, readOther, read, overtakes⟩
  have fits := (publicAlone_iff read path).mp alone
  have goesOn := Route.goesOnBehindName_of_overtakes p.wellFormed fits overtakes
  exact plain other isRoute ⟨q, readOther, goesOn⟩

theorem accepted_of_append {added : List String} {longer : Policy}
    (accepted : ofRoutes require (routes ++ added) = .ok longer) :
    ∃ only, ofRoutes require added = .ok only := by
  obtain ⟨_, reads⟩ := ofRoutes_eq_ok_iff.mp accepted
  rw [List.map_append, eq_comm, List.map_eq_append_iff] at reads
  obtain ⟨_, later, split, _, reads⟩ := reads
  have compatible := longer.publicRoutes.compatible
  rw [split, List.pairwise_append] at compatible
  exact ⟨⟨require, later, compatible.2.1⟩, ofRoutes_eq_ok_iff.mpr ⟨rfl, reads.symm⟩⟩

theorem isPublic_append {added : List String} {longer only : Policy}
    (accepted : ofRoutes require routes = .ok policy)
    (acceptedOnly : ofRoutes require added = .ok only)
    (acceptedLonger : ofRoutes require (routes ++ added) = .ok longer) (path : String) :
    (longer.isPublic path = true → policy.isPublic path = true ∨ only.isPublic path = true) ∧
    (policy.isPublic path = true → longer.isPublic path = true ∨
      ∃ other ∈ added, ∃ route ∈ routes, PublicAlone route path ∧ Overtakes other route path) := by
  rw [isPublic_iff_of_accepted accepted, isPublic_iff_of_accepted acceptedOnly,
    isPublic_iff_of_accepted acceptedLonger]
  constructor
  · rintro ⟨route, member, alone, free⟩
    rcases List.mem_append.mp member with before | after
    · exact .inl ⟨route, before, alone, fun other m => free other (List.mem_append_left _ m)⟩
    · exact .inr ⟨route, after, alone, fun other m => free other (List.mem_append_right _ m)⟩
  · rintro ⟨route, member, alone, free⟩
    by_cases overtaken : ∃ other ∈ added, Overtakes other route path
    · obtain ⟨other, isAdded, overtakes⟩ := overtaken
      exact .inr ⟨other, isAdded, route, member, alone, overtakes⟩
    · refine .inl ⟨route, List.mem_append_left _ member, alone, fun other isRoute overtakes => ?_⟩
      rcases List.mem_append.mp isRoute with before | after
      · exact free other before overtakes
      · exact overtaken ⟨other, after, overtakes⟩

/-- Further routes make no path public but those that are public with them alone, and take a public
path away only where they overtake. -/
theorem resolve_append {added : List String} {longer only : Policy}
    (accepted : ofRoutes require routes = .ok policy)
    (acceptedOnly : ofRoutes require added = .ok only)
    (acceptedLonger : ofRoutes require (routes ++ added) = .ok longer) (path : String) :
    (longer.resolve path = .none → policy.resolve path = .none ∨ only.resolve path = .none) ∧
    (policy.resolve path = .none → longer.resolve path = .none ∨
      ∃ other ∈ added, ∃ route ∈ routes, PublicAlone route path ∧ Overtakes other route path) := by
  have isPublic := isPublic_append accepted acceptedOnly acceptedLonger path
  simp only [resolve_eq_none_iff, (ofRoutes_eq_ok_iff.mp accepted).1,
    (ofRoutes_eq_ok_iff.mp acceptedOnly).1, (ofRoutes_eq_ok_iff.mp acceptedLonger).1]
  cases require with
  | false => exact ⟨fun _ => .inl nofun, fun _ => .inl nofun⟩
  | true => simpa only [true_imp_iff] using isPublic

end Accepted

private theorem exists_of_resolves {require : Bool} {routes : List String} {path : String}
    {answer : Requirement}
    (resolves : (ofRoutes require routes).toOption.map (·.resolve path) = some answer) :
    ∃ policy, ofRoutes require routes = .ok policy ∧ policy.resolve path = answer := by
  cases accepted : ofRoutes require routes with
  | error => rw [accepted] at resolves; cases resolves
  | ok policy =>
    rw [accepted] at resolves
    exact ⟨policy, rfl, Option.some.inj resolves⟩

private theorem not_goesOnBehindName {route : String}
    (nameless : (Route.Pattern.ofText? route).all fun p => !p.pieces.contains .parameter) :
    ¬ GoesOnBehindName route := by
  rintro ⟨p, read, front, tail, pieces, _⟩
  rw [read, Option.all_some, pieces] at nameless
  simp at nameless

/-- The decisions of a policy, against those of its routes alone. -/
theorem resolve_of_accepted {require : Bool} {routes : List String} {policy : Policy}
    (accepted : ofRoutes require routes = .ok policy) :
    (∀ route ∈ routes, ∃ single, ofRoutes true [route] = .ok single) ∧
    (∀ path, policy.resolve path = .required ↔ require = true ∧
      ∀ route ∈ routes, PublicAlone route path → ∃ other ∈ routes, Overtakes other route path) ∧
    ((∀ route ∈ routes, ¬ GoesOnBehindName route) → ∀ path, policy.resolve path = .required ↔
      require = true ∧ ∀ route ∈ routes, ¬ PublicAlone route path) ∧
    (∀ routes' policy', routes'.Perm routes → ofRoutes require routes' = .ok policy' →
      policy'.resolve = policy.resolve) ∧
    ∀ added longer, ofRoutes require (routes ++ added) = .ok longer →
      ∃ only, ofRoutes require added = .ok only ∧ ∀ path,
        (longer.resolve path = .none →
          policy.resolve path = .none ∨ only.resolve path = .none) ∧
        (policy.resolve path = .none → longer.resolve path = .none ∨
          ∃ other ∈ added, ∃ route ∈ routes,
            PublicAlone route path ∧ Overtakes other route path) := by
  refine ⟨fun route member => ?_, resolve_eq_required_iff_of_accepted accepted,
    resolve_eq_required_iff_of_plain accepted, fun routes' policy' perm accepted' => ?_,
    fun added longer acceptedLonger => ?_⟩
  · obtain ⟨p, read⟩ := exists_pattern accepted member
    exact exists_single read
  · exact resolve_eq_of_mem_iff accepted accepted' fun route => perm.mem_iff
  · obtain ⟨only, acceptedOnly⟩ := accepted_of_append acceptedLonger
    exact ⟨only, acceptedOnly, resolve_append accepted acceptedOnly acceptedLonger⟩

theorem static_routes_decide :
    ∃ policy, ofRoutes true ["/endp/health", "/static/{*path}"] = .ok policy ∧
      policy.resolve "/static/css/site.css" = .none ∧
      ∀ path, policy.resolve path = .required ↔
        ∀ route ∈ ["/endp/health", "/static/{*path}"], ¬ PublicAlone route path := by
  obtain ⟨policy, accepted, none⟩ :
      ∃ policy, ofRoutes true ["/endp/health", "/static/{*path}"] = .ok policy ∧
        policy.resolve "/static/css/site.css" = .none := exists_of_resolves (by decide +kernel)
  have plain : ∀ route ∈ ["/endp/health", "/static/{*path}"], ¬ GoesOnBehindName route := by
    rw [List.forall_mem_cons, List.forall_mem_singleton]
    exact ⟨not_goesOnBehindName (by decide +kernel), not_goesOnBehindName (by decide +kernel)⟩
  have union := (resolve_of_accepted accepted).2.2.1 plain
  exact ⟨policy, accepted, none, fun path => (union path).trans (and_iff_right rfl)⟩

/-- A path that is public with the first of two routes is not with both. -/
theorem public_path_taken_away :
    ∃ single both, ofRoutes true ["/{name}.gz/info"] = .ok single ∧
      ofRoutes true ["/{name}.gz/info", "/{name}.tar.gz/list"] = .ok both ∧
      single.resolve "/a.tar.gz/info" = .none ∧ both.resolve "/a.tar.gz/info" = .required := by
  obtain ⟨single, acceptedSingle, none⟩ : ∃ single, ofRoutes true ["/{name}.gz/info"] = .ok single ∧
      single.resolve "/a.tar.gz/info" = .none := exists_of_resolves (by decide +kernel)
  obtain ⟨both, acceptedBoth, required⟩ :
      ∃ both, ofRoutes true ["/{name}.gz/info", "/{name}.tar.gz/list"] = .ok both ∧
        both.resolve "/a.tar.gz/info" = .required := exists_of_resolves (by decide +kernel)
  exact ⟨single, both, acceptedSingle, acceptedBoth, none, required⟩

end Policy

end BearerGate
