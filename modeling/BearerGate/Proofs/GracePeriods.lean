import BearerGate.Proofs.TimeWindow

/-!
Longer grace periods: two verdicts on one token at one time, under a shorter and a longer grace
period. As the period grows, a token that has expired may come to be not valid yet, then its dates
have no more part in the verdict, and at last the clock leaves its words. Main statement: what is
accepted under a grace period is accepted alike under a longer one, exactly as far as the clock
stays within its words; beyond, the validator breaks off.
-/

set_option autoImplicit false
set_option relaxedAutoImplicit false

namespace BearerGate

/-- The place of a rejection among the verdicts on a token as the grace period grows. -/
def Rejection.phase : Rejection → Nat
  | .fault .expired => 0
  | .fault .notYetValid => 1
  | .fault _ => 2
  | .crash => 3

theorem Rejection.eq_expired_of_phase {r : Rejection} (first : r.phase = 0) :
    r = .fault .expired := by
  unfold phase at first
  split at first
  · rfl
  all_goals omega

theorem Rejection.eq_crash_of_lt_phase {r : Rejection} (last : 2 < r.phase) : r = .crash := by
  unfold phase at last
  split at last
  case h_4 => rfl
  all_goals omega

namespace Jwt

def phase {α : Type} : Except Rejection α → Nat
  | .error rejection => rejection.phase
  | .ok _ => 2

/-- A verdict stays as it is or gives way to one of a later phase. -/
def Advances {α : Type} (v w : Except Rejection α) : Prop := w = v ∨ phase v < phase w

namespace Advances

variable {α β : Type}

theorem refl (v : Except Rejection α) : Advances v v := .inl rfl

theorem of_expired (w : Except Rejection α) : Advances (.error (.fault .expired)) w := by
  cases w with
  | ok a => exact .inr (by show 0 < 2; omega)
  | error rejection =>
    by_cases first : rejection.phase = 0
    · exact .inl (congrArg Except.error (Rejection.eq_expired_of_phase first))
    · exact .inr (Nat.pos_of_ne_zero first)

theorem to_crash (v : Except Rejection α) : Advances v (.error .crash) := by
  cases v with
  | ok a => exact .inr (by show 2 < 3; omega)
  | error rejection =>
    by_cases last : 2 < rejection.phase
    · exact .inl (congrArg Except.error (Rejection.eq_crash_of_lt_phase last).symm)
    · exact .inr (by show rejection.phase < 3; omega)

theorem eq_or_crash {v w : Except Rejection α} (advances : Advances v w) (late : 2 ≤ phase v) :
    w = v ∨ w = .error .crash := by
  rcases advances with same | later
  · exact .inl same
  · have last : 2 < phase w := by omega
    cases w with
    | ok a => exact absurd last (Nat.lt_irrefl 2)
    | error rejection =>
      exact .inr (congrArg Except.error (Rejection.eq_crash_of_lt_phase last))

/-- Checks that advance, made one after the other, advance, as long as what gives way to a value
gives way to what follows the value too. -/
theorem bind {x x' : Except Rejection α} {f f' : α → Except Rejection β} (first : Advances x x')
    (next : ∀ a, Advances (f a) (f' a))
    (kept : ∀ rejection a, x = .error rejection → x' = .ok a →
      Advances (.error rejection) (f' a)) :
    Advances (x >>= f) (x' >>= f') := by
  cases x with
  | ok a =>
    rcases first.eq_or_crash (Nat.le_refl 2) with rfl | rfl
    · exact next a
    · exact to_crash _
  | error rejection =>
    cases x' with
    | ok a => exact kept rejection a rfl rfl
    | error rejection' =>
      rcases first with same | later
      · cases same
        exact refl _
      · exact .inr later

theorem bind_same {x : Except Rejection α} {f f' : α → Except Rejection β}
    (next : ∀ a, Advances (f a) (f' a)) : Advances (x >>= f) (x >>= f') := by
  cases x with
  | ok a => exact next a
  | error rejection => exact refl _

end Advances

section

variable {now grace grace' : UInt64}

theorem advances_checkExpiry (longer : grace ≤ grace') (expiry : Nat) :
    Advances (checkExpiry now grace expiry) (checkExpiry now grace' expiry) := by
  rw [UInt64.le_iff_toNat_le] at longer
  by_cases early : now < grace'
  · have crash : checkExpiry now grace' expiry = .error .crash := if_pos early
    rw [crash]
    exact .to_crash _
  · have within : ¬ now < grace := by
      rw [UInt64.lt_iff_toNat_lt] at early ⊢
      omega
    rw [checkExpiry, if_neg within]
    by_cases expired : expiry < now.toNat - grace.toNat
    · rw [if_pos expired]
      exact .of_expired _
    · have inTime : ¬ expiry < now.toNat - grace'.toNat := by omega
      rw [if_neg expired, checkExpiry, if_neg early, if_neg inTime]
      exact .refl _

theorem expired_of_checkExpiry (longer : grace ≤ grace') {expiry : Nat} {rejection : Rejection}
    (failed : checkExpiry now grace expiry = .error rejection)
    (passed : checkExpiry now grace' expiry = .ok ()) : rejection = .fault .expired := by
  have lower : grace' ≤ now := (checkExpiry_eq_ok_iff.mp passed).1
  have within : ¬ now < grace := UInt64.not_lt.mpr (UInt64.le_trans longer lower)
  rw [checkExpiry, if_neg within] at failed
  split at failed <;> cases failed
  rfl

theorem advances_checkNotBefore (longer : grace ≤ grace') (start : Reading Nat) :
    Advances (checkNotBefore now grace start) (checkNotBefore now grace' start) := by
  rw [UInt64.le_iff_toNat_le] at longer
  cases start with
  | absent => exact .refl _
  | unreadable => exact .refl _
  | value first =>
    by_cases overflow : 2 ^ 64 ≤ now.toNat + grace'.toNat
    · have crash : checkNotBefore now grace' (.value first) = .error .crash := if_pos overflow
      rw [crash]
      exact .to_crash _
    · have fits : ¬ 2 ^ 64 ≤ now.toNat + grace.toNat := by omega
      simp only [checkNotBefore, if_neg fits, if_neg overflow]
      by_cases early : now.toNat + grace'.toNat < first
      · have early' : now.toNat + grace.toNat < first := by omega
        rw [if_pos early, if_pos early']
        exact .refl _
      · rw [if_neg early]
        split
        · exact .inr (by show 1 < 2; omega)
        · exact .refl _

theorem notYetValid_of_checkNotBefore (longer : grace ≤ grace') {start : Reading Nat}
    {rejection : Rejection} (failed : checkNotBefore now grace start = .error rejection)
    (passed : checkNotBefore now grace' start = .ok ()) : rejection = .fault .notYetValid := by
  rw [UInt64.le_iff_toNat_le] at longer
  cases start with
  | absent => cases failed
  | unreadable => cases failed
  | value first =>
    obtain ⟨fits', _⟩ := checkNotBefore_eq_ok_iff.mp passed first rfl
    have fits : ¬ 2 ^ 64 ≤ now.toNat + grace.toNat := by omega
    simp only [checkNotBefore, if_neg fits] at failed
    split at failed <;> cases failed
    rfl

theorem advances_checkClaims (now : UInt64) (context : AuthContext) (longer : grace ≤ grace')
    (members : List (String × Json)) :
    Advances (checkClaims now { context with grace := grace } members)
      (checkClaims now { context with grace := grace' } members) := by
  refine .bind_same fun expiry => .bind_same fun issuers => ?_
  dsimp only
  split
  · exact .refl _
  · refine .bind (advances_checkExpiry longer expiry) (fun _ => ?_) ?_
    · refine .bind (advances_checkNotBefore longer _) (fun _ => .refl _) ?_
      intro rejection _ failed passed
      obtain rfl := notYetValid_of_checkNotBefore longer failed passed
      -- Only the issuer is looked at after the dates.
      split
      · exact .inr (by show 1 < 2; omega)
      · exact .inr (by show 1 < 2; omega)
    · intro rejection _ failed passed
      obtain rfl := expired_of_checkExpiry longer failed passed
      exact .of_expired _

/-- The verdict on a token advances as the grace period grows. -/
theorem advances_rs256 (now : UInt64) (context : AuthContext) (longer : grace ≤ grace')
    (token : String) :
    Advances (rs256 now { context with grace := grace } token)
      (rs256 now { context with grace := grace' } token) := by
  refine .bind_same fun members => .bind (advances_checkClaims now context longer members)
    (fun _ => .refl _) ?_
  intro rejection _ failed passed
  rcases advances_checkClaims now context longer members with same | later
  · rw [failed, passed] at same
    cases same
  · rw [failed, passed] at later
    exact .inr later

theorem InTime.longer (longer : grace ≤ grace') {members : List (String × Json)}
    (inTime : InTime now grace members) : InTime now grace' members := by
  rw [UInt64.le_iff_toNat_le] at longer
  obtain ⟨expires, notExpired, begun⟩ := inTime
  refine ⟨expires, ?_, ?_⟩
  · intro value given
    obtain ⟨last, dates, late⟩ := notExpired value given
    exact ⟨last, dates, by omega⟩
  · intro value given
    obtain ⟨first, dates, early⟩ := begun value given
    exact ⟨first, dates, by omega⟩

theorem needed_ne_crash {α : Type} (name : String) (reading : Reading α) :
    needed name reading ≠ .error .crash := by
  cases reading <;> nofun

theorem checkExpiry_ne_crash (lower : grace ≤ now) (expiry : Nat) :
    checkExpiry now grace expiry ≠ .error .crash := by
  intro crashed
  rw [checkExpiry, if_neg (UInt64.not_lt.mpr lower)] at crashed
  split at crashed <;> cases crashed

theorem checkNotBefore_ne_crash {start : Reading Nat}
    (fits : ∀ first, start = .value first → now.toNat + grace.toNat < 2 ^ 64) :
    checkNotBefore now grace start ≠ .error .crash := by
  intro crashed
  cases start with
  | absent => cases crashed
  | unreadable => cases crashed
  | value first =>
    have within : ¬ 2 ^ 64 ≤ now.toNat + grace.toNat := Nat.not_le.mpr (fits first rfl)
    simp only [checkNotBefore, if_neg within] at crashed
    split at crashed <;> cases crashed

theorem checkClaims_ne_crash {context : AuthContext} {members : List (String × Json)}
    (nbfOnce : atMostOnce "nbf" members = true)
    (within : WithinClock now context.grace members) :
    checkClaims now context members ≠ .error .crash := by
  intro crashed
  have fits : ∀ first, readClaim seconds? "nbf" members = .value first →
      now.toNat + context.grace.toNat < 2 ^ 64 := by
    intro first start
    obtain ⟨⟨value, given⟩, _⟩ := (readClaim_eq_value_iff_mem nbfOnce).mp start
    exact within.upper value given
  simp only [checkClaims, bind_eq_error_iff, refuse_if_eq_error_iff, pure_if_eq_error_iff]
    at crashed
  -- one case for each check, in the order in which they are made
  rcases crashed with missing | ⟨_, _, missing | ⟨_, _, ⟨_, cause⟩ | ⟨_, dated | ⟨_, _, begun |
    ⟨_, _, _, cause⟩⟩⟩⟩⟩
  · exact needed_ne_crash _ _ missing
  · exact needed_ne_crash _ _ missing
  · cases cause
  · exact checkExpiry_ne_crash within.lower _ dated
  · exact checkNotBefore_ne_crash fits begun
  · cases cause

theorem exists_members_of_crash {context : AuthContext} {token : String}
    (crashed : rs256 now context token = .error .crash) :
    ∃ members, signedMembers context.key token.toList = .ok members ∧
      ¬ WithinClock now context.grace members := by
  rw [rs256, bind_eq_error_iff] at crashed
  rcases crashed with failed | ⟨members, signed, crashed⟩
  · exact absurd .clockOverflow (not_ofClaims_of_signedMembers failed)
  · refine ⟨members, signed, fun within => ?_⟩
    have nbfOnce : atMostOnce "nbf" members = true := atMostOnce_of_signed signed (by decide)
    rcases bind_eq_error_iff.mp crashed with checked | ⟨_, _, done⟩
    · exact checkClaims_ne_crash nbfOnce within checked
    · cases done

/-- What is accepted under a grace period comes, under a longer one, to the same token or to the end
of the clock, by whether the clock stays within its words. -/
theorem rs256_of_accepted (context : AuthContext) (longer : grace ≤ grace') {token : String}
    {t : Token}
    (accepted : rs256 now { context with grace := grace } token = .ok t) :
    ∃ members, signedMembers context.key token.toList = .ok members ∧
      (WithinClock now grace' members →
        rs256 now { context with grace := grace' } token = .ok t) ∧
      (¬ WithinClock now grace' members →
        rs256 now { context with grace := grace' } token = .error .crash) := by
  obtain ⟨members, signed, checked, rfl⟩ := rs256_eq_ok_iff.mp accepted
  have once : ∀ name ∈ readNames, atMostOnce name members = true := fun _ =>
    atMostOnce_of_signed signed
  obtain ⟨inTime, _, issued⟩ := (checkClaims_iff_inTime once).mp checked
  refine ⟨members, signed, fun within => ?_, fun beyond => ?_⟩
  · refine rs256_eq_ok_iff.mpr ⟨members, signed, ?_, rfl⟩
    exact (checkClaims_iff_inTime once).mpr ⟨inTime.longer longer, within, issued⟩
  · have advances := advances_rs256 now context longer token
    rw [accepted] at advances
    rcases advances.eq_or_crash (Nat.le_refl 2) with same | crash
    · obtain ⟨members', signed', checked', _⟩ := rs256_eq_ok_iff.mp same
      obtain rfl := Except.ok.inj (signed.symm.trans signed')
      exact absurd ((checkClaims_iff_inTime once).mp checked').2.1 beyond
    · exact crash

end

/-- A token that is accepted under a grace period is accepted as the same token under a longer one
exactly as far as the clock stays within its words, and beyond that the validator breaks off, then
under all longer periods too. Where it finds the token expired or not yet valid under the longer
period, the token is not accepted under the shorter one. -/
theorem accepted_under_longer_grace (now : UInt64) (context : AuthContext) (token : String)
    {grace grace' : UInt64} (longer : grace ≤ grace') :
    (∀ t, rs256 now { context with grace := grace } token = .ok t →
      ∃ members, signedMembers context.key token.toList = .ok members ∧
        (WithinClock now grace' members →
          rs256 now { context with grace := grace' } token = .ok t) ∧
        (¬ WithinClock now grace' members →
          rs256 now { context with grace := grace' } token = .error .crash)) ∧
    (rs256 now { context with grace := grace' } token = .error (.fault .expired) ∨
        rs256 now { context with grace := grace' } token = .error (.fault .notYetValid) →
      ∀ t, rs256 now { context with grace := grace } token ≠ .ok t) ∧
    (rs256 now { context with grace := grace } token = .error .crash →
      (∃ members, signedMembers context.key token.toList = .ok members ∧
        ¬ WithinClock now grace members) ∧
      rs256 now { context with grace := grace' } token = .error .crash) := by
  have advances := advances_rs256 now context longer token
  refine ⟨fun t accepted => rs256_of_accepted context longer accepted, ?_, ?_⟩
  · intro outOfTime t accepted
    have early : phase (rs256 now { context with grace := grace' } token) < 2 := by
      rcases outOfTime with expired | early
      · rw [expired]
        decide
      · rw [early]
        decide
    rw [accepted] at advances
    rcases advances with same | later
    · rw [same] at early
      exact absurd early (Nat.lt_irrefl 2)
    · exact absurd early (Nat.lt_asymm later)
  · intro crashed
    refine ⟨exists_members_of_crash crashed, ?_⟩
    rw [crashed] at advances
    rcases advances.eq_or_crash (show 2 ≤ 3 by omega) with same | crash
    · exact same
    · exact crash

/-- A second more of grace leaves an accepted token accepted, as the same token. -/
theorem windowToken_accepted_a_second_longer :
    (60 : UInt64) ≤ 61 ∧ ∃ t,
      rs256 1700000060 { windowContext with grace := 60 } windowToken = .ok t ∧
      rs256 1700000060 { windowContext with grace := 61 } windowToken = .ok t := by
  obtain ⟨⟨t, accepted⟩, _⟩ := windowToken_accepted_then_expired
  have longer : (60 : UInt64) ≤ 61 := by decide
  obtain ⟨_, _, within, _⟩ :=
    (accepted_under_longer_grace 1700000060 windowContext windowToken longer).1 t accepted
  exact ⟨longer, t, accepted, within ⟨by decide, fun _ _ => by decide⟩⟩

/-- Under the longest grace period there is, a token that is accepted under a minute of grace is not
even rejected. -/
theorem longest_grace_breaks_off :
    (60 : UInt64) ≤ 18446744073709551615 ∧
    (∃ t, rs256 1700000060 { windowContext with grace := 60 } windowToken = .ok t) ∧
    rs256 1700000060 { windowContext with grace := 18446744073709551615 } windowToken =
      .error .crash := by
  obtain ⟨⟨t, accepted⟩, _⟩ := windowToken_accepted_then_expired
  have longer : (60 : UInt64) ≤ 18446744073709551615 := by decide
  obtain ⟨_, _, _, beyond⟩ := rs256_of_accepted windowContext longer accepted
  have early : ¬ (18446744073709551615 : UInt64) ≤ 1700000060 := by decide
  exact ⟨longer, ⟨t, accepted⟩, beyond fun within => early within.lower⟩

end Jwt

end BearerGate
