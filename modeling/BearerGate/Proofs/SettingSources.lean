import BearerGate.Auth.Context
import BearerGate.Proofs.Encodings
import BearerGate.Proofs.Trimming

/-!
Sources of settings: issuer and key are each given inline or in a file, and each of these can be
blank, a file also unreadable. Main statement: which value is taken, that a value given inline makes
the files indifferent, and that of all that is wrong the first thing in a fixed order is reported,
everything about the issuer before anything about the key.
-/

set_option autoImplicit false
set_option relaxedAutoImplicit false

namespace BearerGate

namespace Settings

variable {files : Files} {inline file : Option String}

/-- The value that is given for a setting, inline or in a file. -/
inductive Given (files : Files) (inline file : Option String) (value : String) : Prop
  | inline {text : String} (isInline : inline = some text) (pads : Text.Pads text value) :
    Given files inline file value
  | inFile {path text : String} (noInline : ∀ text, inline = some text → Text.Blank text)
    (isFile : file = some path) (content : files path = some (Text.utf8 text))
    (pads : Text.Pads text value) : Given files inline file value

/-- No value is given for a setting: what is inline is blank, and so is its file, if it has one. -/
inductive Missing (files : Files) (inline file : Option String) : Prop
  | noFile (noInline : ∀ text, inline = some text → Text.Blank text) (noFile : file = none) :
    Missing files inline file
  | inFile {path text : String} (noInline : ∀ text, inline = some text → Text.Blank text)
    (isFile : file = some path) (content : files path = some (Text.utf8 text))
    (blank : Text.Blank text) : Missing files inline file

/-- The value of a setting is looked for in a file that does not exist or is no text. -/
structure Unreadable (files : Files) (inline file : Option String) (path : String) : Prop where
  noInline : ∀ text, inline = some text → Text.Blank text
  isFile : file = some path
  noText : ∀ text, files path ≠ some (Text.utf8 text)

theorem Given.bare {value : String} (given : Given files inline file value) : Text.Bare value := by
  cases given with
  | inline _ pads => exact pads.1
  | inFile _ _ _ pads => exact pads.1

theorem nonBlank?_eq_some_iff {text value : String} :
    nonBlank? text = some value ↔ Text.Pads text value := by
  rw [nonBlank?, Option.ite_none_left_eq_some, Option.some.injEq, Text.pads_iff]
  constructor
  · rintro ⟨nonempty, rfl⟩
    exact ⟨rfl, nonempty⟩
  · rintro ⟨rfl, nonempty⟩
    exact ⟨nonempty, rfl⟩

theorem nonBlank?_eq_none_iff {text : String} : nonBlank? text = none ↔ Text.Blank text := by
  rw [nonBlank?, ← Text.trim_eq_empty_iff]
  simp

theorem bind_nonBlank?_eq_none_iff :
    inline.bind nonBlank? = none ↔ ∀ text, inline = some text → Text.Blank text := by
  rw [Option.bind_eq_none_iff]
  simp only [nonBlank?_eq_none_iff]

theorem readText_of_content {path text : String} (content : files path = some (Text.utf8 text)) :
    readText files path = .ok text := by
  rw [readText, content, Option.bind_some, Text.ofUtf8?_eq_some_iff.mpr rfl]

theorem readText_of_noText {path : String}
    (noText : ∀ text, files path ≠ some (Text.utf8 text)) :
    readText files path = .error (.unreadable path) := by
  rw [readText]
  cases read : (files path).bind Text.ofUtf8? with
  | none => rfl
  | some text =>
    obtain ⟨bytes, content, isText⟩ := Option.bind_eq_some_iff.mp read
    rw [← Text.ofUtf8?_eq_some_iff.mp isText] at content
    exact absurd content (noText text)

theorem resolveValue_of_file {path : String}
    (noInline : ∀ text, inline = some text → Text.Blank text) (isFile : file = some path) :
    resolveValue files inline file = (readText files path).map nonBlank? := by
  unfold resolveValue
  rw [bind_nonBlank?_eq_none_iff.mpr noInline, isFile]

theorem resolveValue_of_given {value : String} (given : Given files inline file value) :
    resolveValue files inline file = .ok (some value) := by
  cases given with
  | inline isInline pads =>
    unfold resolveValue
    rw [isInline, Option.bind_some, nonBlank?_eq_some_iff.mpr pads]
  | inFile noInline isFile content pads =>
    rw [resolveValue_of_file noInline isFile, readText_of_content content, Except.map,
      nonBlank?_eq_some_iff.mpr pads]

theorem resolveValue_of_missing (missing : Missing files inline file) :
    resolveValue files inline file = .ok none := by
  cases missing with
  | noFile noInline noFile =>
    unfold resolveValue
    rw [bind_nonBlank?_eq_none_iff.mpr noInline, noFile]
  | inFile noInline isFile content blank =>
    rw [resolveValue_of_file noInline isFile, readText_of_content content, Except.map,
      nonBlank?_eq_none_iff.mpr blank]

theorem resolveValue_of_unreadable {path : String}
    (unreadable : Unreadable files inline file path) :
    resolveValue files inline file = .error (.unreadable path) := by
  rw [resolveValue_of_file unreadable.noInline unreadable.isFile,
    readText_of_noText unreadable.noText]
  rfl

/-- A setting has one of three states. -/
theorem given_or_missing_or_unreadable (files : Files) (inline file : Option String) :
    (∃ value, Given files inline file value) ∨ Missing files inline file ∨
      ∃ path, Unreadable files inline file path := by
  cases taken : inline.bind nonBlank? with
  | some value =>
    obtain ⟨text, isInline, kept⟩ := Option.bind_eq_some_iff.mp taken
    exact .inl ⟨value, .inline isInline (nonBlank?_eq_some_iff.mp kept)⟩
  | none =>
    have noInline := bind_nonBlank?_eq_none_iff.mp taken
    cases isFile : file with
    | none => exact .inr (.inl (.noFile noInline rfl))
    | some path =>
      by_cases readable : ∃ text, files path = some (Text.utf8 text)
      · obtain ⟨text, content⟩ := readable
        by_cases blank : Text.Blank text
        · exact .inr (.inl (.inFile noInline rfl content blank))
        · exact .inl ⟨_, .inFile noInline rfl content (Text.pads_trim blank)⟩
      · exact .inr (.inr ⟨path, noInline, rfl, not_exists.mp readable⟩)

theorem Given.not_missing {value : String} (given : Given files inline file value) :
    ¬ Missing files inline file := by
  intro missing
  cases (resolveValue_of_given given).symm.trans (resolveValue_of_missing missing)

theorem Given.not_unreadable {value path : String} (given : Given files inline file value) :
    ¬ Unreadable files inline file path := by
  intro unreadable
  cases (resolveValue_of_given given).symm.trans (resolveValue_of_unreadable unreadable)

theorem Missing.not_unreadable {path : String} (missing : Missing files inline file) :
    ¬ Unreadable files inline file path := by
  intro unreadable
  cases (resolveValue_of_missing missing).symm.trans (resolveValue_of_unreadable unreadable)

theorem Given.unique {value value' : String} (given : Given files inline file value)
    (given' : Given files inline file value') : value = value' := by
  cases (resolveValue_of_given given).symm.trans (resolveValue_of_given given')
  rfl

/-- Something that is wrong with settings, with its place in the order in which things are
reported. -/
inductive Problem (files : Files) (s : Settings) : Nat → SettingsError → Prop
  | issuerUnreadable {path : String}
    (unreadable : Unreadable files s.issuer s.issuerFile path) :
    Problem files s 0 (.unreadable path)
  | issuerMissing (missing : Missing files s.issuer s.issuerFile) :
    Problem files s 1 .missingIssuer
  | keyUnreadable {path : String}
    (unreadable : Unreadable files s.signerKey s.signerKeyFile path) :
    Problem files s 2 (.unreadable path)
  | keyMissing (missing : Missing files s.signerKey s.signerKeyFile) :
    Problem files s 3 .missingSignerKey
  | keyInvalid {key : String} (given : Given files s.signerKey s.signerKeyFile key)
    (invalid : Key.rsaKey? key = none) : Problem files s 4 .invalidSignerKey

structure FirstProblem (files : Files) (s : Settings) (place : Nat) (e : SettingsError) : Prop where
  problem : Problem files s place e
  first : ∀ place' e', Problem files s place' e' → place ≤ place'

/-- The context that settings give. -/
structure Context (files : Files) (s : Settings) (key : String) (c : AuthContext) : Prop where
  issuer : Given files s.issuer s.issuerFile c.issuer
  keyText : Given files s.signerKey s.signerKeyFile key
  key : Key.rsaKey? key = some c.key
  grace : c.grace = s.grace

section

variable {files : Files} {s : Settings}

theorem Problem.eq_of_same_place {place : Nat} {e e' : SettingsError}
    (problem : Problem files s place e) (problem' : Problem files s place e') : e = e' := by
  cases problem with
  | issuerUnreadable unreadable =>
    obtain ⟨unreadable'⟩ := problem'
    rw [Option.some.inj (unreadable.isFile.symm.trans unreadable'.isFile)]
  | issuerMissing missing =>
    cases problem'
    rfl
  | keyUnreadable unreadable =>
    cases problem' with
    | keyUnreadable unreadable' =>
      rw [Option.some.inj (unreadable.isFile.symm.trans unreadable'.isFile)]
  | keyMissing missing =>
    cases problem'
    rfl
  | keyInvalid given invalid =>
    cases problem'
    rfl

theorem FirstProblem.unique {place place' : Nat} {e e' : SettingsError}
    (first : FirstProblem files s place e) (first' : FirstProblem files s place' e') : e = e' := by
  obtain rfl : place = place' :=
    Nat.le_antisymm (first.first _ _ first'.problem) (first'.first _ _ first.problem)
  exact first.problem.eq_of_same_place first'.problem

theorem Problem.two_le {issuer : String} (given : Given files s.issuer s.issuerFile issuer)
    {place : Nat} {e : SettingsError} (problem : Problem files s place e) : 2 ≤ place := by
  cases problem with
  | issuerUnreadable unreadable => exact absurd unreadable given.not_unreadable
  | issuerMissing missing => exact absurd missing given.not_missing
  | keyUnreadable | keyMissing | keyInvalid => decide

theorem firstProblem_issuerUnreadable {path : String}
    (unreadable : Unreadable files s.issuer s.issuerFile path) :
    FirstProblem files s 0 (.unreadable path) :=
  ⟨.issuerUnreadable unreadable, fun _ _ _ => Nat.zero_le _⟩

theorem firstProblem_issuerMissing (missing : Missing files s.issuer s.issuerFile) :
    FirstProblem files s 1 .missingIssuer := by
  refine ⟨.issuerMissing missing, fun place e problem => ?_⟩
  cases problem with
  | issuerUnreadable unreadable => exact absurd unreadable missing.not_unreadable
  | issuerMissing | keyUnreadable | keyMissing | keyInvalid => decide

theorem firstProblem_keyUnreadable {issuer path : String}
    (given : Given files s.issuer s.issuerFile issuer)
    (unreadable : Unreadable files s.signerKey s.signerKeyFile path) :
    FirstProblem files s 2 (.unreadable path) :=
  ⟨.keyUnreadable unreadable, fun _ _ problem => problem.two_le given⟩

theorem firstProblem_keyMissing {issuer : String}
    (given : Given files s.issuer s.issuerFile issuer)
    (missing : Missing files s.signerKey s.signerKeyFile) :
    FirstProblem files s 3 .missingSignerKey := by
  refine ⟨.keyMissing missing, fun place e problem => ?_⟩
  have onlyKey := problem.two_le given
  cases problem with
  | issuerUnreadable | issuerMissing => omega
  | keyUnreadable unreadable => exact absurd unreadable missing.not_unreadable
  | keyMissing | keyInvalid => decide

theorem not_problem_of_context {key : String} {c : AuthContext} (context : Context files s key c)
    {place : Nat} {e : SettingsError} : ¬ Problem files s place e := by
  intro problem
  have onlyKey := problem.two_le context.issuer
  cases problem with
  | issuerUnreadable | issuerMissing => omega
  | keyUnreadable unreadable => exact context.keyText.not_unreadable unreadable
  | keyMissing missing => exact context.keyText.not_missing missing
  | keyInvalid given invalid =>
    rw [given.unique context.keyText, context.key] at invalid
    cases invalid

theorem firstProblem_keyInvalid {issuer key : String}
    (given : Given files s.issuer s.issuerFile issuer)
    (keyGiven : Given files s.signerKey s.signerKeyFile key) (invalid : Key.rsaKey? key = none) :
    FirstProblem files s 4 .invalidSignerKey := by
  refine ⟨.keyInvalid keyGiven invalid, fun place e problem => ?_⟩
  have onlyKey := problem.two_le given
  cases problem with
  | issuerUnreadable | issuerMissing => omega
  | keyUnreadable unreadable => exact absurd unreadable keyGiven.not_unreadable
  | keyMissing missing => exact absurd missing keyGiven.not_missing
  | keyInvalid => decide

theorem ofSettings_of_given {issuer key : String}
    (given : Given files s.issuer s.issuerFile issuer)
    (keyGiven : Given files s.signerKey s.signerKeyFile key) :
    AuthContext.ofSettings files s = AuthContext.ofKey issuer key s.grace := by
  simp only [AuthContext.ofSettings, resolveValue_of_given given, resolveValue_of_given keyGiven,
    requireValue, bind, Except.bind]

/-- What comes of settings, by the states of issuer and key. -/
theorem problem_or_context (files : Files) (s : Settings) :
    (∃ place e, AuthContext.ofSettings files s = .error e ∧ FirstProblem files s place e) ∨
      ∃ key c, AuthContext.ofSettings files s = .ok c ∧ Context files s key c := by
  rcases given_or_missing_or_unreadable files s.issuer s.issuerFile with
    ⟨issuer, given⟩ | missing | ⟨path, unreadable⟩
  · rcases given_or_missing_or_unreadable files s.signerKey s.signerKeyFile with
      ⟨key, keyGiven⟩ | missing | ⟨path, unreadable⟩
    · rw [ofSettings_of_given given keyGiven]
      unfold AuthContext.ofKey
      cases isKey : Key.rsaKey? key with
      | none => exact .inl ⟨4, _, rfl, firstProblem_keyInvalid given keyGiven isKey⟩
      | some bytes =>
        exact .inr ⟨key, ⟨issuer, bytes, s.grace⟩, rfl, given, keyGiven, isKey, rfl⟩
    · refine .inl ⟨3, .missingSignerKey, ?_, firstProblem_keyMissing given missing⟩
      unfold AuthContext.ofSettings
      rw [resolveValue_of_given given, resolveValue_of_missing missing]
      rfl
    · refine .inl ⟨2, .unreadable path, ?_, firstProblem_keyUnreadable given unreadable⟩
      unfold AuthContext.ofSettings
      rw [resolveValue_of_given given, resolveValue_of_unreadable unreadable]
      rfl
  · refine .inl ⟨1, .missingIssuer, ?_, firstProblem_issuerMissing missing⟩
    unfold AuthContext.ofSettings
    rw [resolveValue_of_missing missing]
    rfl
  · refine .inl ⟨0, .unreadable path, ?_, firstProblem_issuerUnreadable unreadable⟩
    unfold AuthContext.ofSettings
    rw [resolveValue_of_unreadable unreadable]
    rfl

theorem Context.unique {key key' : String} {c c' : AuthContext} (context : Context files s key c)
    (context' : Context files s key' c') : c = c' := by
  obtain ⟨issuer, bytes, grace⟩ := c
  obtain ⟨issuer', bytes', grace'⟩ := c'
  obtain rfl : issuer = issuer' := context.issuer.unique context'.issuer
  obtain rfl : key = key' := context.keyText.unique context'.keyText
  obtain rfl : bytes = bytes' := Option.some.inj (context.key.symm.trans context'.key)
  obtain rfl : grace = grace' := context.grace.trans context'.grace.symm
  rfl

theorem ofSettings_eq_error_iff {e : SettingsError} :
    AuthContext.ofSettings files s = .error e ↔ ∃ place, FirstProblem files s place e := by
  rcases problem_or_context files s with ⟨place, e', failed, first⟩ | ⟨key, c, given, context⟩
  · rw [failed, Except.error.injEq]
    constructor
    · rintro rfl
      exact ⟨place, first⟩
    · rintro ⟨place', first'⟩
      exact first.unique first'
  · rw [given]
    refine iff_of_false nofun ?_
    rintro ⟨place, first⟩
    exact not_problem_of_context context first.problem

theorem ofSettings_eq_ok_iff {c : AuthContext} :
    AuthContext.ofSettings files s = .ok c ↔ ∃ key, Context files s key c := by
  rcases problem_or_context files s with ⟨place, e, failed, first⟩ | ⟨key, c', given, context⟩
  · rw [failed]
    refine iff_of_false nofun ?_
    rintro ⟨key, context⟩
    exact not_problem_of_context context first.problem
  · rw [given, Except.ok.injEq]
    constructor
    · rintro rfl
      exact ⟨key, context⟩
    · rintro ⟨key', context'⟩
      exact context.unique context'

/-- As long as no issuer is given, it is what is wrong with the issuer that is reported. -/
theorem issuer_reported (noIssuer : ∀ issuer, ¬ Given files s.issuer s.issuerFile issuer) :
    AuthContext.ofSettings files s = .error .missingIssuer ∨
      ∃ path, s.issuerFile = some path ∧
        AuthContext.ofSettings files s = .error (.unreadable path) := by
  rcases given_or_missing_or_unreadable files s.issuer s.issuerFile with
    ⟨issuer, given⟩ | missing | ⟨path, unreadable⟩
  · exact absurd given (noIssuer issuer)
  · exact .inl (ofSettings_eq_error_iff.mpr ⟨1, firstProblem_issuerMissing missing⟩)
  · exact .inr ⟨path, unreadable.isFile,
      ofSettings_eq_error_iff.mpr ⟨0, firstProblem_issuerUnreadable unreadable⟩⟩

theorem ofSettings_of_inline {issuer key : String} (isIssuer : s.issuer = some issuer)
    (isKey : s.signerKey = some key) (issuerNotBlank : ¬ Text.Blank issuer)
    (keyNotBlank : ¬ Text.Blank key) (files' : Files) :
    AuthContext.ofSettings files' s = AuthContext.ofSettings files s := by
  have issuerTaken (files : Files) : resolveValue files s.issuer s.issuerFile = _ :=
    resolveValue_of_given (.inline isIssuer (Text.pads_trim issuerNotBlank))
  have keyTaken (files : Files) : resolveValue files s.signerKey s.signerKeyFile = _ :=
    resolveValue_of_given (.inline isKey (Text.pads_trim keyNotBlank))
  simp only [AuthContext.ofSettings, issuerTaken, keyTaken]

end

/-- Settings that cannot be used are refused for the first thing that is wrong with them, and
others give the issuer and the key that are given inline or else in files, without the blanks
around them. Before an issuer is given nothing is said about the key, and the files have no part
if both values are given inline. -/
theorem first_problem_reported (files : Files) (s : Settings) :
    (∀ e, AuthContext.ofSettings files s = .error e ↔ ∃ place, FirstProblem files s place e) ∧
    (∀ c, AuthContext.ofSettings files s = .ok c ↔ ∃ key, Context files s key c) ∧
    (∀ key c, Context files s key c → Text.Bare c.issuer ∧ Text.Bare key) ∧
    ((∀ issuer, ¬ Given files s.issuer s.issuerFile issuer) →
      AuthContext.ofSettings files s = .error .missingIssuer ∨
        ∃ path, s.issuerFile = some path ∧
          AuthContext.ofSettings files s = .error (.unreadable path)) ∧
    ∀ issuer key, s.issuer = some issuer → s.signerKey = some key → ¬ Text.Blank issuer →
      ¬ Text.Blank key → ∀ files', AuthContext.ofSettings files' s =
        AuthContext.ofSettings files s := by
  refine ⟨fun e => ofSettings_eq_error_iff, fun c => ofSettings_eq_ok_iff, ?_,
    issuer_reported, fun issuer key => ofSettings_of_inline⟩
  intro key c context
  exact ⟨context.issuer.bare, context.keyText.bare⟩

private def noFiles : Files := fun _ => none

private def keyText : String := "-----BEGIN RSA PUBLIC KEY-----\nBQA=\n-----END RSA PUBLIC KEY-----"

private def inlineSettings : Settings :=
  { Settings.default with
    issuer := some " i\n"
    issuerFile := some "absent"
    signerKey := some keyText
    signerKeyFile := some "absent" }

private def keylessSettings : Settings :=
  { Settings.default with
    issuer := some " "
    issuerFile := some "absent" }

theorem inline_taken_and_absent_file_reported :
    (Context noFiles inlineSettings keyText ⟨"i", [0x05, 0x00], 60⟩ ∧ Text.Bare "i" ∧
      ¬ Text.Blank " i\n" ∧ ¬ Text.Blank keyText ∧
      ∀ files, AuthContext.ofSettings files inlineSettings = .ok ⟨"i", [0x05, 0x00], 60⟩) ∧
    (∀ issuer, ¬ Given noFiles keylessSettings.issuer keylessSettings.issuerFile issuer) ∧
    (AuthContext.ofSettings noFiles keylessSettings = .error .missingIssuer ∨
      ∃ path, keylessSettings.issuerFile = some path ∧
        AuthContext.ofSettings noFiles keylessSettings = .error (.unreadable path)) := by
  obtain ⟨_, accepted, bare, _, shielded⟩ := first_problem_reported noFiles inlineSettings
  obtain ⟨_, _, _, issuerFirst, _⟩ := first_problem_reported noFiles keylessSettings
  have issuerPads : Text.Pads " i\n" "i" := Text.pads_iff.mpr ⟨by decide +kernel, by decide⟩
  have keyPads : Text.Pads keyText keyText := Text.pads_iff.mpr ⟨by decide +kernel, by decide⟩
  have context : Context noFiles inlineSettings keyText ⟨"i", [0x05, 0x00], 60⟩ :=
    ⟨.inline rfl issuerPads, .inline rfl keyPads, by decide +kernel, rfl⟩
  have blank : Text.Blank " " := Text.trim_eq_empty_iff.mp (by decide +kernel)
  have unreadable : Unreadable noFiles (some " ") (some "absent") "absent" :=
    ⟨fun text isInline => Option.some.inj isInline ▸ blank, rfl, nofun⟩
  have noIssuer (issuer : String) :
      ¬ Given noFiles keylessSettings.issuer keylessSettings.issuerFile issuer :=
    fun given => given.not_unreadable unreadable
  refine ⟨⟨context, (bare _ _ context).1, issuerPads.not_blank, keyPads.not_blank,
    fun files => ?_⟩, noIssuer, issuerFirst noIssuer⟩
  exact (shielded _ _ rfl rfl issuerPads.not_blank keyPads.not_blank files).trans
    ((accepted _).mpr ⟨keyText, context⟩)

end Settings

end BearerGate
