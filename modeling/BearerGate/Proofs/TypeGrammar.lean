import BearerGate.Proofs.DeliveryShapes

/-!
The grammar of declared types. A type has a shape if it is a base form or a provider of one. Main
statement: classifying accepts these types and no others, however deeply wrappers are nested, and
none of them has more than three; among them the snapshots are those without a wrapper that names
the claim.
-/

set_option autoImplicit false
set_option relaxedAutoImplicit false

namespace BearerGate.Injection

namespace DeclaredType

/-- The types that have a shape, with the shape and the type that it delivers: base forms and
providers of base forms. -/
inductive Form : DeclaredType → Classified → Prop
  | base {declared : DeclaredType} {c : Classified} (form : BaseForm declared c) : Form declared c
  | provider {inner : DeclaredType} {c : Classified} (form : BaseForm inner c) :
    Form (.provider inner) ⟨.provider, inner⟩

inductive Wraps : DeclaredType → DeclaredType → Prop
  | optional (inner : DeclaredType) : Wraps (.optional inner) inner
  | claimValue (inner : DeclaredType) : Wraps (.claimValue inner) inner
  | provider (inner : DeclaredType) : Wraps (.provider inner) inner

/-- The types whose outermost wrapper names the claim: named values and providers. -/
inductive NamesClaim : DeclaredType → Prop
  | claimValue (inner : DeclaredType) : NamesClaim (.claimValue inner)
  | provider (inner : DeclaredType) : NamesClaim (.provider inner)

theorem classifyBase_of_baseForm {declared : DeclaredType} {c : Classified}
    (form : BaseForm declared c) : classifyBase declared = some c := by
  cases form with
  | value type => rfl
  | json type => rfl
  | optional isPlain => rw [classifyBase, if_pos isPlain]
  | @claimValue plain isPlain =>
    cases plain with
    | value type => rfl
    | json type => rfl
    | optional _ | claimValue _ | provider _ => cases isPlain
  | optionalClaimValue isPlain => rw [classifyBase, if_pos isPlain]

theorem classify_of_baseForm {declared : DeclaredType} {c : Classified}
    (form : BaseForm declared c) : declared.classify = some c := by
  have classified := classifyBase_of_baseForm form
  cases form <;> exact classified

theorem classify_eq_some_iff {declared : DeclaredType} {c : Classified} :
    declared.classify = some c ↔ Form declared c := by
  constructor
  · intro classified
    rcases baseForm_or_provider_of_classify classified with form | ⟨inner, base, rfl, form, rfl⟩
    · exact .base form
    · exact .provider form
  · intro form
    cases form with
    | base form => exact classify_of_baseForm form
    | provider form =>
      rw [classify, classifyBase_of_baseForm form]
      rfl

section

variable {plain declared part : DeclaredType} {c : Classified}

theorem wrappers_of_isPlain (isPlain : plain.isPlain = true) : plain.wrappers = 0 := by
  cases plain with
  | value type => rfl
  | json type => rfl
  | optional _ | claimValue _ | provider _ => cases isPlain

theorem wrappers_le_of_baseForm (form : BaseForm declared c) : declared.wrappers ≤ 2 := by
  cases form with
  | value type => exact Nat.zero_le 2
  | json type => exact Nat.zero_le 2
  | optional isPlain | claimValue isPlain | optionalClaimValue isPlain =>
    simp only [wrappers, wrappers_of_isPlain isPlain]
    decide

theorem wrappers_le_of_form (form : Form declared c) : declared.wrappers ≤ 3 := by
  cases form with
  | base form => exact Nat.le_succ_of_le (wrappers_le_of_baseForm form)
  | provider form => exact Nat.succ_le_succ (wrappers_le_of_baseForm form)

theorem eq_of_reaches_of_isPlain (isPlain : plain.isPlain = true)
    (reaches : Relation.ReflTransGen Wraps plain part) : part = plain := by
  cases reaches.cases_head with
  | inl same => exact same.symm
  | inr further =>
    obtain ⟨inner, step, _⟩ := further
    cases step <;> cases isPlain

theorem not_namesClaim_of_isPlain (isPlain : plain.isPlain = true) : ¬ NamesClaim plain := by
  intro names
  cases names <;> cases isPlain

theorem not_namesClaim_of_optional (isPlain : plain.isPlain = true)
    (reaches : Relation.ReflTransGen Wraps (.optional plain) part) : ¬ NamesClaim part := by
  cases reaches.cases_head with
  | inl same =>
    subst same
    nofun
  | inr further =>
    obtain ⟨inner, step, later⟩ := further
    cases step
    rw [eq_of_reaches_of_isPlain isPlain later]
    exact not_namesClaim_of_isPlain isPlain

theorem isSnapshot_iff (form : Form declared c) : c.shape.isSnapshot = true ↔
    ∀ part, Relation.ReflTransGen Wraps declared part → ¬ NamesClaim part := by
  have named (names : NamesClaim declared) :
      ¬ ∀ part, Relation.ReflTransGen Wraps declared part → ¬ NamesClaim part :=
    fun unnamed => unnamed declared .refl names
  have plain (isPlain : declared.isPlain = true) :
      ∀ part, Relation.ReflTransGen Wraps declared part → ¬ NamesClaim part := by
    intro part reaches
    rw [eq_of_reaches_of_isPlain isPlain reaches]
    exact not_namesClaim_of_isPlain isPlain
  cases form with
  | base form =>
    cases form with
    | value type => exact iff_of_true rfl (plain rfl)
    | json type => exact iff_of_true rfl (plain rfl)
    | optional isPlain =>
      exact iff_of_true rfl fun part reaches => not_namesClaim_of_optional isPlain reaches
    | claimValue isPlain => exact iff_of_false nofun (named (.claimValue _))
    | optionalClaimValue isPlain => exact iff_of_false nofun (named (.claimValue _))
  | provider form => exact iff_of_false nofun (named (.provider _))

end

/-- A type is classified exactly if it is a base form or a provider of one, with the shape of that
form. Such a type has at most three wrappers, and its shape is a snapshot exactly if there is
neither a named value nor a provider in it. -/
theorem classified_iff_form (declared : DeclaredType) :
    (∀ c, declared.classify = some c ↔ Form declared c) ∧
    ∀ c, declared.classify = some c →
      declared.wrappers ≤ 3 ∧
      (c.shape.isSnapshot = true ↔
        ∀ part, Relation.ReflTransGen Wraps declared part → ¬ NamesClaim part) := by
  refine ⟨fun c => classify_eq_some_iff, fun c classified => ?_⟩
  have form := classify_eq_some_iff.mp classified
  exact ⟨wrappers_le_of_form form, isSnapshot_iff form⟩

/-- The deepest forms have three wrappers and are no snapshots. No second named value can be put
around a named value. -/
theorem deepest_form_classified :
    (DeclaredType.provider (.claimValue (.optional (.json .array)))).classify =
      some ⟨.provider, .claimValue (.optional (.json .array))⟩ ∧
    (DeclaredType.provider (.claimValue (.optional (.json .array)))).wrappers ≤ 3 ∧
    ∀ c, (DeclaredType.claimValue (.claimValue (.json .array))).classify ≠ some c := by
  obtain ⟨forms, bounds⟩ :=
    classified_iff_form (.provider (.claimValue (.optional (.json .array))))
  have classified := (forms _).mpr (.provider (.optionalClaimValue rfl))
  refine ⟨classified, (bounds _ classified).1, fun c doubled => ?_⟩
  cases ((classified_iff_form _).1 c).mp doubled with
  | base form =>
    cases form with
    | claimValue isPlain => cases isPlain

end DeclaredType

end BearerGate.Injection
