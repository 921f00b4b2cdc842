import BearerGate.Proofs.SignatureFirst
import Mathlib.Algebra.Order.Round
import Mathlib.Data.Rat.Floor
import Mathlib.Tactic.FieldSimp

/-!
The times at which a token is accepted. A date is a rational number, whole or not, in whatever form
the payload writes it, and counts to the nearest second. Main statement: a token is accepted exactly
if it is signed, names the issuer, and no date that its payload gives is unreadable or lies on the
wrong side of the clock by more than the grace period, none of the arithmetic leaving its words.
-/

set_option autoImplicit false
set_option relaxedAutoImplicit false

namespace BearerGate

namespace Double

def toRat (d : Double) : ℚ :=
  (if d.isNegative then -d.magnitude else d.magnitude : ℚ) / (2 ^ 1074 : Nat)

theorem units_pos : (0 : ℚ) < (2 ^ 1074 : Nat) := Nat.cast_pos.mpr (Nat.two_pow_pos 1074)

theorem toRat_eq {d : Double} (notNegative : d.isNegative = false ∨ d.magnitude = 0) :
    d.toRat = (d.magnitude : ℚ) / (2 ^ 1074 : Nat) := by
  obtain positive | zero := notNegative
  · rw [toRat, positive, if_neg Bool.false_ne_true]
  · rw [toRat, zero, Nat.cast_zero, neg_zero, ite_self]

theorem toRat_nonneg_iff {d : Double} :
    0 ≤ d.toRat ↔ d.isNegative = false ∨ d.magnitude = 0 := by
  constructor
  · intro notBelow
    by_cases negative : d.isNegative = true
    · rw [toRat, if_pos negative, le_div_iff₀ units_pos, zero_mul, neg_nonneg] at notBelow
      have zero : d.magnitude ≤ 0 := Nat.cast_le.mp (notBelow.trans_eq Nat.cast_zero.symm)
      exact .inr (Nat.le_zero.mp zero)
    · exact .inl (Bool.not_eq_true _ ▸ negative)
  · intro notNegative
    rw [toRat_eq notNegative]
    exact div_nonneg (Nat.cast_nonneg _) units_pos.le

theorem toRat_lt_iff {d : Double} (notNegative : d.isNegative = false ∨ d.magnitude = 0)
    (bound : Nat) : d.toRat < bound ↔ d.magnitude < bound * 2 ^ 1074 := by
  rw [toRat_eq notNegative, div_lt_iff₀ units_pos, ← Nat.cast_mul, Nat.cast_lt]

theorem round_div_twice (n : Nat) {half : Nat} (pos : 0 < half) :
    round ((n : ℚ) / (2 * half : Nat)) = ((n + half) / (2 * half) : Nat) := by
  have shifted : (n : ℚ) / (2 * half : Nat) + 1 / 2 = (n + half : Nat) / (2 * half : Nat) := by
    have nonzero : (half : ℚ) ≠ 0 := (Nat.cast_pos.mpr pos).ne'
    push_cast
    field_simp
  rw [round_eq, shifted, Rat.floor_natCast_div_natCast, Int.natCast_div]

theorem round_toRat {d : Double} (notNegative : d.isNegative = false ∨ d.magnitude = 0) :
    round d.toRat = d.roundHalfUp := by
  have twice : 2 ^ 1074 = 2 * 2 ^ 1073 := by decide +kernel
  rw [toRat_eq notNegative, roundHalfUp, twice, round_div_twice _ (Nat.two_pow_pos 1073)]

end Double

def Json.rational? : Json → Option ℚ
  | .int n => some n.value
  | .double d => some d.value.toRat
  | _ => none

namespace Jwt

/-- A value gives a date: a number from zero to 2^64, to the nearest second, a half going up. -/
def Dates (value : Json) (second : Int) : Prop :=
  ∃ q, value.rational? = some q ∧ 0 ≤ q ∧ q < (2 ^ 64 : Nat) ∧ round q = second

theorem seconds?_eq_some_iff {value : Json} {s : Nat} :
    seconds? value = some s ↔ Dates value s := by
  cases value with
  | int n =>
    have below : (n.value : ℚ) < (2 ^ 64 : Nat) := by
      have upper := n.upper
      exact_mod_cast upper
    simp only [seconds?, Option.ite_none_right_eq_some, Option.some.injEq, Dates, Json.rational?,
      exists_eq_left', Int.cast_nonneg_iff, below, true_and, round_intCast]
    constructor
    · rintro ⟨notNegative, rfl⟩
      exact ⟨notNegative, (Int.toNat_of_nonneg notNegative).symm⟩
    · rintro ⟨notNegative, same⟩
      exact ⟨notNegative, by rw [same, Int.toNat_natCast]⟩
  | double d =>
    simp only [seconds?, Option.ite_none_right_eq_some, Option.some.injEq, Dates, Json.rational?,
      exists_eq_left', Double.toRat_nonneg_iff]
    constructor
    · rintro ⟨⟨notNegative, below⟩, rfl⟩
      have below := (Double.toRat_lt_iff notNegative (2 ^ 64)).mpr below
      exact ⟨notNegative, below, Double.round_toRat notNegative⟩
    · rintro ⟨notNegative, below, same⟩
      rw [Double.toRat_lt_iff notNegative] at below
      rw [Double.round_toRat notNegative, Nat.cast_inj] at same
      exact ⟨⟨notNegative, below⟩, same⟩
  | null | bool _ | string _ | array _ | object _ => simp [seconds?, Dates, Json.rational?]

theorem Dates.exists_seconds {value : Json} {second : Int} (dates : Dates value second) :
    ∃ s : Nat, second = s ∧ seconds? value = some s := by
  obtain ⟨q, isNumber, notNegative, below, nearest⟩ := dates
  have notBelow : 0 ≤ second := by
    rw [← nearest, round_eq, Int.floor_nonneg]
    exact add_nonneg notNegative one_half_pos.le
  refine ⟨second.toNat, (Int.toNat_of_nonneg notBelow).symm, seconds?_eq_some_iff.mpr ?_⟩
  exact ⟨q, isNumber, notNegative, below, nearest.trans (Int.toNat_of_nonneg notBelow).symm⟩

section Once

variable {name : String} {members : List (String × Json)}

theorem lookup_eq_some_iff_mem (once : atMostOnce name members = true) {value : Json} :
    members.lookup name = some value ↔ (name, value) ∈ members := by
  induction members with
  | nil => simp
  | cons m rest ih =>
    obtain ⟨other, given⟩ := m
    rw [atMostOnce, decide_eq_true_eq, List.filter_cons] at once
    by_cases same : name = other
    · subst same
      rw [if_pos (beq_self_eq_true name), List.length_cons] at once
      have alone : (rest.filter fun m => m.1 == name) = [] :=
        List.length_eq_zero_iff.mp (by omega)
      have absent : (name, value) ∉ rest := by
        intro further
        exact List.filter_eq_nil_iff.mp alone _ further (beq_self_eq_true name)
      rw [List.lookup_cons_self, List.mem_cons, or_iff_left absent, Prod.mk.injEq, Option.some.injEq,
        eq_comm, and_iff_right rfl]
    · have differs : (name == other) = false := beq_eq_false_iff_ne.mpr same
      rw [if_neg (fun named => same (beq_iff_eq.mp named).symm)] at once
      have elsewhere : (name, value) ≠ (other, given) := fun both => same (Prod.mk.inj both).1
      rw [List.lookup_cons, differs, List.mem_cons, or_iff_right elsewhere]
      exact ih (decide_eq_true once)

theorem readClaim_eq_value_iff_mem {α : Type} {read : Json → Option α} {a : α}
    (once : atMostOnce name members = true) :
    readClaim read name members = .value a ↔
      (∃ value, (name, value) ∈ members) ∧
        ∀ value, (name, value) ∈ members → read value = some a := by
  simp only [readClaim_eq_value_iff, ← lookup_eq_some_iff_mem once]
  constructor
  · rintro ⟨value, found, isRead⟩
    refine ⟨⟨value, found⟩, fun other foundOther => ?_⟩
    rwa [← Option.some.inj (found.symm.trans foundOther)]
  · rintro ⟨⟨value, found⟩, isRead⟩
    exact ⟨value, found, isRead value found⟩

theorem readClaim_not_unreadable_iff {α : Type} {read : Json → Option α}
    (once : atMostOnce name members = true) :
    readClaim read name members ≠ .unreadable ↔
      ∀ value, (name, value) ∈ members → ∃ a, read value = some a := by
  simp only [readClaim, ← lookup_eq_some_iff_mem once]
  cases members.lookup name with
  | none => simp
  | some value => cases isRead : read value <;> simp [isRead]

end Once

theorem checkNotBefore_eq_ok_iff {now grace : UInt64} {start : Reading Nat} :
    checkNotBefore now grace start = .ok () ↔ ∀ second, start = .value second →
      now.toNat + grace.toNat < 2 ^ 64 ∧ second ≤ now.toNat + grace.toNat := by
  cases start with
  | absent => simp [checkNotBefore]
  | unreadable => simp [checkNotBefore]
  | value second =>
    simp only [checkNotBefore, Reading.value.injEq, forall_eq']
    split
    · rename_i overflow
      exact ⟨nofun, fun both => absurd both.1 (Nat.not_lt.mpr overflow)⟩
    · rename_i fits
      split
      · rename_i early
        exact ⟨nofun, fun both => absurd early (Nat.not_lt.mpr both.2)⟩
      · rename_i begun
        exact ⟨fun _ => ⟨Nat.not_le.mp fits, Nat.not_lt.mp begun⟩, fun _ => rfl⟩

/-- The dates that members give allow a time, within a grace period. -/
structure InTime (now grace : UInt64) (members : List (String × Json)) : Prop where
  expires : ∃ value, ("exp", value) ∈ members
  notExpired : ∀ value, ("exp", value) ∈ members →
    ∃ last, Dates value last ∧ (now.toNat : Int) - grace.toNat ≤ last
  begun : ∀ value, ("nbf", value) ∈ members →
    ∃ first, Dates value first ∧ first ≤ (now.toNat : Int) + grace.toNat

/-- Neither end of the grace period around a time leaves its word, as far as it is computed. -/
structure WithinClock (now grace : UInt64) (members : List (String × Json)) : Prop where
  lower : grace ≤ now
  upper : ∀ value, ("nbf", value) ∈ members → now.toNat + grace.toNat < 2 ^ 64

def NamesIssuer (issuer : String) (members : List (String × Json)) : Prop :=
  ∃ value issuers, ("iss", value) ∈ members ∧ issuers? value = some issuers ∧ issuer ∈ issuers

theorem checkClaims_iff_inTime {now : UInt64} {context : AuthContext}
    {members : List (String × Json)}
    (once : ∀ name ∈ readNames, atMostOnce name members = true) :
    checkClaims now context members = .ok () ↔
      InTime now context.grace members ∧ WithinClock now context.grace members ∧
        NamesIssuer context.issuer members := by
  have expOnce : atMostOnce "exp" members = true := once "exp" (by decide)
  have nbfOnce : atMostOnce "nbf" members = true := once "nbf" (by decide)
  have issOnce : atMostOnce "iss" members = true := once "iss" (by decide)
  rw [checkClaims_eq_ok_iff]
  constructor
  · rintro ⟨expiry, issuers, dated, named, readable, inTime, begun, issued⟩
    obtain ⟨expires, isExpiry⟩ := (readClaim_eq_value_iff_mem expOnce).mp dated
    obtain ⟨⟨issuer, givenIssuer⟩, isIssuers⟩ := (readClaim_eq_value_iff_mem issOnce).mp named
    obtain ⟨lower, late⟩ := checkExpiry_eq_ok_iff.mp inTime
    have started : ∀ value, ("nbf", value) ∈ members → ∃ first, seconds? value = some first ∧
        now.toNat + context.grace.toNat < 2 ^ 64 ∧
          first ≤ now.toNat + context.grace.toNat := by
      intro value given
      obtain ⟨first, isFirst⟩ := (readClaim_not_unreadable_iff nbfOnce).mp readable value given
      have found := (lookup_eq_some_iff_mem nbfOnce).mpr given
      have start := readClaim_eq_value_iff.mpr ⟨value, found, isFirst⟩
      exact ⟨first, isFirst, checkNotBefore_eq_ok_iff.mp begun first start⟩
    refine ⟨⟨expires, ?_, ?_⟩, ⟨lower, ?_⟩, issuer, issuers, givenIssuer,
      isIssuers issuer givenIssuer, issued⟩
    · intro value given
      refine ⟨expiry, seconds?_eq_some_iff.mp (isExpiry value given), ?_⟩
      omega
    · intro value given
      obtain ⟨first, isFirst, _, early⟩ := started value given
      refine ⟨first, seconds?_eq_some_iff.mp isFirst, ?_⟩
      omega
    · intro value given
      obtain ⟨_, _, fits, _⟩ := started value given
      exact fits
  · rintro ⟨⟨⟨exp, givenExp⟩, notExpired, begun⟩, ⟨lower, upper⟩, iss, issuers, givenIss, isIssuers,
      issued⟩
    obtain ⟨_, dates, late⟩ := notExpired exp givenExp
    obtain ⟨expiry, rfl, isExpiry⟩ := dates.exists_seconds
    have foundExp := (lookup_eq_some_iff_mem expOnce).mpr givenExp
    have foundIss := (lookup_eq_some_iff_mem issOnce).mpr givenIss
    refine ⟨expiry, issuers, readClaim_eq_value_iff.mpr ⟨exp, foundExp, isExpiry⟩,
      readClaim_eq_value_iff.mpr ⟨iss, foundIss, isIssuers⟩, ?_, ?_, ?_, issued⟩
    · rw [readClaim_not_unreadable_iff nbfOnce]
      intro value given
      obtain ⟨_, dates, _⟩ := begun value given
      obtain ⟨first, _, isFirst⟩ := dates.exists_seconds
      exact ⟨first, isFirst⟩
    · refine checkExpiry_eq_ok_iff.mpr ⟨lower, ?_⟩
      omega
    · rw [checkNotBefore_eq_ok_iff]
      intro second start
      obtain ⟨⟨value, given⟩, isSecond⟩ := (readClaim_eq_value_iff_mem nbfOnce).mp start
      obtain ⟨_, dates, early⟩ := begun value given
      obtain ⟨first, rfl, isFirst⟩ := dates.exists_seconds
      have same : second = first := Option.some.inj ((isSecond value given).symm.trans isFirst)
      refine ⟨upper value given, ?_⟩
      omega

/-- A token is accepted exactly if it is signed, its dates allow the time within the grace period,
and it names the issuer, as long as the clock is within its words. -/
theorem accepted_iff_inTime (now : UInt64) (context : AuthContext) (token : String) :
    (∃ t, rs256 now context token = .ok t) ↔
      ∃ members, signedMembers context.key token.toList = .ok members ∧
        InTime now context.grace members ∧ WithinClock now context.grace members ∧
        NamesIssuer context.issuer members := by
  constructor
  · rintro ⟨t, accepted⟩
    obtain ⟨members, signed, checked, _⟩ := rs256_eq_ok_iff.mp accepted
    have once : ∀ name ∈ readNames, atMostOnce name members = true := fun _ =>
      atMostOnce_of_signed signed
    exact ⟨members, signed, (checkClaims_iff_inTime once).mp checked⟩
  · rintro ⟨members, signed, inTime⟩
    have once : ∀ name ∈ readNames, atMostOnce name members = true := fun _ =>
      atMostOnce_of_signed signed
    exact ⟨_, rs256_eq_ok_iff.mpr ⟨members, signed, (checkClaims_iff_inTime once).mpr inTime, rfl⟩⟩

/-- With dates that are half a second off, a token is accepted at both ends of the grace period, and
no longer one second later. -/
theorem windowToken_inTime_until_expired :
    (∃ members, signedMembers windowContext.key windowToken.toList = .ok members ∧
      InTime 1700000060 60 members ∧ WithinClock 1700000060 60 members ∧
      NamesIssuer "i" members) ∧
    ¬ ∃ members, signedMembers windowContext.key windowToken.toList = .ok members ∧
      InTime 1700000061 60 members ∧ WithinClock 1700000061 60 members ∧
      NamesIssuer "i" members := by
  obtain ⟨accepted, expired⟩ := windowToken_accepted_then_expired
  constructor
  · exact (accepted_iff_inTime 1700000060 windowContext windowToken).mp accepted
  · intro inTime
    obtain ⟨t, late⟩ := (accepted_iff_inTime 1700000061 windowContext windowToken).mpr inTime
    rw [expired] at late
    cases late

end Jwt

end BearerGate
