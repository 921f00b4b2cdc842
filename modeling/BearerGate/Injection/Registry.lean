import BearerGate.Injection.Collector
import BearerGate.Injection.Conversion

/-!
Registries: the producers of claims, one for each registered site, and the places that they serve.
Registering a site either adds its producer and all its places or changes nothing.
-/

set_option autoImplicit false
set_option relaxedAutoImplicit false

namespace BearerGate.Injection

/-- What serves a site. The number tells the producers of a registry apart. -/
structure Producer where
  number : Nat
  key : Key
  deriving DecidableEq, Repr

def Producer.produce (p : Producer) (token : Option Token) : Injected :=
  Injection.produce p.key.claim token p.key.type

def Producer.produceCurrent (p : Producer) : Held Injected := do
  return p.produce (← Holder.current)

/-- Put an entry in the place of the first one with its key, or else at the end. -/
def assign {α κ : Type} [DecidableEq κ] (key : α → κ) (entry : α) : List α → List α
  | [] => [entry]
  | e :: rest => if key e = key entry then entry :: rest else e :: assign key entry rest

theorem find?_assign {α κ : Type} [DecidableEq κ] (key : α → κ) (entry : α) (k : κ)
    (entries : List α) :
    (assign key entry entries).find? (key · == k) =
      if key entry = k then some entry else entries.find? (key · == k) := by
  induction entries with
  | nil => by_cases same : key entry = k <;> simp [assign, same]
  | cons e rest ih =>
    rw [assign]
    split
    · rename_i here
      by_cases same : key entry = k <;> simp [here, same]
    · rename_i elsewhere
      rw [List.find?_cons, ih, List.find?_cons]
      by_cases same : key entry = k
      · rw [if_pos same, if_pos same, beq_false_of_ne (same ▸ elsewhere)]
      · rw [if_neg same, if_neg same]

theorem assign_eq_append {α κ : Type} [DecidableEq κ] {key : α → κ} {entry : α} {entries : List α}
    (fresh : ∀ e ∈ entries, key e ≠ key entry) : assign key entry entries = entries ++ [entry] := by
  induction entries with
  | nil => rfl
  | cons e rest ih =>
    rw [assign, if_neg (fresh e List.mem_cons_self),
      ih fun e' member => fresh e' (List.mem_cons_of_mem e member), List.cons_append]

/-- Producers in the order of their registration, and the key of each place. -/
structure Registry where
  producers : List Producer
  places : List (String × Key)

namespace Registry

def empty : Registry := ⟨[], []⟩

def size (r : Registry) : Nat := r.producers.length

def producer? (r : Registry) (key : Key) : Option Producer :=
  r.producers.find? fun p => p.key == key

def key? (r : Registry) (location : String) : Option Key := r.places.lookup location

def producerFor? (r : Registry) (location : String) : Option Producer :=
  (r.key? location).bind r.producer?

def assignProducer (r : Registry) (producer : Producer) : Registry :=
  { r with producers := assign (·.key) producer r.producers }

def assignPlace (r : Registry) (key : Key) (location : String) : Registry :=
  { r with places := assign (·.1) (location, key) r.places }

/-- Enter the producer of a site and map the places of the site to it, unless there is a producer
for its key, or one of its places is mapped already. -/
def enter (site : Site) : Attempt DeclarationError Registry Producer := do
  let r ← get
  if (r.producer? site.key).isSome then
    throw (.duplicateProducer site.key.claim site.key.type)
  else match site.locations.find? fun location => (r.key? location).isSome with
    | some location => throw (.duplicateSite location)
    | none =>
      let producer : Producer := ⟨r.size, site.key⟩
      modify (·.assignProducer producer)
      site.locations.forM fun location => modify (·.assignPlace site.key location)
      return producer

/-- The registry with the producer and the places of a site, whatever was there for them. -/
def extended (r : Registry) (site : Site) : Registry :=
  site.locations.foldl (fun r location => r.assignPlace site.key location)
    (r.assignProducer ⟨r.size, site.key⟩)

/-- What entering a site answers and leaves: only one that is accepted leaves a trace. -/
theorem enter_perform (site : Site) (r : Registry) :
    (enter site).perform r =
      if (r.producer? site.key).isSome then
        (.error (.duplicateProducer site.key.claim site.key.type), r)
      else match site.locations.find? fun location => (r.key? location).isSome with
        | some location => (.error (.duplicateSite location), r)
        | none => (.ok ⟨r.size, site.key⟩, r.extended site) := by
  rw [enter, Attempt.perform_bind]
  change (if (r.producer? site.key).isSome then _ else _ : Attempt _ _ _).perform r = _
  split
  · rfl
  · split
    · rfl
    · rw [Attempt.perform_bind]
      change ((site.locations.forM _ : Attempt _ _ _) >>= _).perform _ = _
      rw [Attempt.perform_bind, Attempt.perform_forM_modify
        fun (location : String) (r : Registry) => r.assignPlace site.key location]
      rfl

theorem producers_extended (r : Registry) (site : Site) :
    (r.extended site).producers = assign (·.key) ⟨r.size, site.key⟩ r.producers := by
  have kept (locations : List String) (r : Registry) :
      (locations.foldl (fun r location => r.assignPlace site.key location) r).producers =
        r.producers := by
    induction locations generalizing r with
    | nil => rfl
    | cons location rest ih => exact ih _
  exact kept site.locations _

theorem producer?_extended (r : Registry) (site : Site) (key : Key) :
    (r.extended site).producer? key =
      if site.key = key then some ⟨r.size, site.key⟩ else r.producer? key := by
  rw [producer?, producers_extended, find?_assign]
  rfl

theorem key?_assignPlace (r : Registry) (key : Key) (location other : String) :
    (r.assignPlace key location).key? other =
      if location = other then some key else r.key? other := by
  simp only [key?, assignPlace, TextMap.lookup_eq_find?, find?_assign]
  split <;> rfl

theorem key?_extended (r : Registry) (site : Site) (location : String) :
    (r.extended site).key? location =
      if location ∈ site.locations then some site.key else r.key? location := by
  have mapped (locations : List String) (r : Registry) :
      (locations.foldl (fun r location => r.assignPlace site.key location) r).key? location =
        if location ∈ locations then some site.key else r.key? location := by
    induction locations generalizing r with
    | nil => rfl
    | cons first rest ih =>
      rw [List.foldl_cons, ih, key?_assignPlace]
      by_cases here : first = location
      · simp [here]
      · simp [here, Ne.symm here]
  exact mapped site.locations _

def register (r : Registry) (site : Site) : Except DeclarationError (Producer × Registry) :=
  (enter site).settle r

def ofSites (sites : List Site) : Except DeclarationError Registry :=
  sites.foldlM (fun r site => (r.register site).map (·.2)) empty

def injectFrom (r : Registry) (location : String) (token : Option Token) :
    Except InjectError Injected :=
  match r.producerFor? location with
  | some p => .ok (p.produce token)
  | none => .error (.unknownSite location)

def inject (r : Registry) (location : String) : Held (Except InjectError Injected) := do
  return r.injectFrom location (← Holder.current)

def injectAs (r : Registry) (α : Type) [Injectable α] (location : String) :
    Held (Except InjectError α) := do
  return (← r.inject location).bind ofInjected

end Registry

def bootstrap (points : List Point) : Except DeclarationError Registry :=
  (collect points).bind Registry.ofSites

end BearerGate.Injection
