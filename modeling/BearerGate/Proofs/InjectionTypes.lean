import BearerGate.Injection.Conversion

/-!
Types of injected values: what is produced for a declared type against what receives it. Producing
follows the wrappers of the declared type, classifying names its shape, and converting takes the
value apart again, each by its own cases. Main statement: for every type that has a shape the value
has the form that this shape announces, and the types that match receive it without a mismatch.
-/

set_option autoImplicit false
set_option relaxedAutoImplicit false

namespace BearerGate.Injection

open Claim (Data)

inductive ValueType.Carries : ValueType → Data → Prop
  | string (s : String) : Carries .string (.string s)
  | long (n : Int64) : Carries .long (.long n)
  | double (d : Double) : Carries .double (.double d)
  | boolean (b : Bool) : Carries .boolean (.boolean b)
  | stringSet (s : TextSet) : Carries .stringSet (.stringSet s)
  | jsonObject (fields : List (String × Data)) : Carries .jsonObject (.object fields)
  | any (data : Data) : Carries .any data

theorem carries_of_coerce {data coerced : Data} {type : ValueType}
    (result : coerce data type = some coerced) : type.Carries coerced := by
  unfold coerce at result
  split at result
  case h_1 => exact .any coerced
  case h_2 =>
    cases result
    exact .string _
  case h_3 =>
    cases result
    exact .long _
  case h_4 =>
    cases result
    exact .double _
  case h_5 =>
    obtain ⟨d, _, rfl⟩ := Option.map_eq_some_iff.mp result
    exact .double d
  case h_6 =>
    cases result
    exact .boolean _
  case h_7 =>
    obtain ⟨s, _, rfl⟩ := Option.map_eq_some_iff.mp result
    exact .stringSet s
  case h_8 =>
    cases result
    exact .jsonObject _
  case h_9 => cases result

inductive Delivers : DeclaredType → Injected → Prop
  | missing (plain : DeclaredType) : Delivers plain .null
  | claim {type : ValueType} {data : Data} (carries : type.Carries data) :
    Delivers (.value type) (.claim data)
  | json {type : JsonType} {value : Json} (admits : type.admits value = true) :
    Delivers (.json type) (.json value)

theorem delivers_produce {plain : DeclaredType} (isPlain : plain.isPlain = true) (name : String)
    (token : Option Token) : Delivers plain (produce name token plain) := by
  cases plain with
  | value type =>
    rw [produce_value_eq_elim]
    cases result : (token.bind (·.claim? name)).bind (coerce · type) with
    | none => exact .missing _
    | some data =>
      obtain ⟨_, _, coerced⟩ := Option.bind_eq_some_iff.mp result
      exact .claim (carries_of_coerce coerced)
  | json type =>
    rw [produce_json_eq_elim]
    cases result : ((token.bind (·.claim? name)).bind Data.lower).filter type.admits with
    | none => exact .missing _
    | some value => exact .json (Option.filter_eq_some_iff.mp result).2
  | optional _ | claimValue _ | provider _ => cases isPlain

namespace DeclaredType

/-- The types without providers that have a shape, with the shape and the plain type in it. -/
inductive BaseForm : DeclaredType → Classified → Prop
  | value (type : ValueType) : BaseForm (.value type) ⟨.raw, .value type⟩
  | json (type : JsonType) : BaseForm (.json type) ⟨.json, .json type⟩
  | optional {plain : DeclaredType} (isPlain : plain.isPlain = true) :
    BaseForm (.optional plain) ⟨.optional, plain⟩
  | claimValue {plain : DeclaredType} (isPlain : plain.isPlain = true) :
    BaseForm (.claimValue plain) ⟨.claimValue, plain⟩
  | optionalClaimValue {plain : DeclaredType} (isPlain : plain.isPlain = true) :
    BaseForm (.claimValue (.optional plain)) ⟨.optionalClaimValue, plain⟩

theorem baseForm_of_classifyBase {declared : DeclaredType} {c : Classified}
    (classified : classifyBase declared = some c) : BaseForm declared c := by
  unfold classifyBase at classified
  split at classified
  case h_1 =>
    cases classified
    exact .value _
  case h_2 =>
    cases classified
    exact .json _
  case h_3 =>
    obtain ⟨isPlain, same⟩ := Option.ite_none_right_eq_some.mp classified
    cases same
    exact .optional isPlain
  case h_4 =>
    obtain ⟨isPlain, same⟩ := Option.ite_none_right_eq_some.mp classified
    cases same
    exact .optionalClaimValue isPlain
  case h_5 =>
    obtain ⟨isPlain, same⟩ := Option.ite_none_right_eq_some.mp classified
    cases same
    exact .claimValue isPlain
  case h_6 => cases classified

theorem baseForm_or_provider_of_classify {declared : DeclaredType} {c : Classified}
    (classified : declared.classify = some c) :
    BaseForm declared c ∨ ∃ inner base, declared = .provider inner ∧ BaseForm inner base ∧
      c = ⟨.provider, inner⟩ := by
  unfold classify at classified
  split at classified
  · obtain ⟨base, inBase, same⟩ := Option.map_eq_some_iff.mp classified
    exact .inr ⟨_, base, rfl, baseForm_of_classifyBase inBase, same.symm⟩
  · exact .inl (baseForm_of_classifyBase classified)

end DeclaredType

open DeclaredType (BaseForm)

/-- The values that a classification announces for a claim. Under an optional value there is none
that is missing. -/
inductive Classified.Announces (name : String) : Classified → Injected → Prop
  | raw {type : ValueType} {v : Injected} (delivers : Delivers (.value type) v) :
    Announces name ⟨.raw, .value type⟩ v
  | json {type : JsonType} {v : Injected} (delivers : Delivers (.json type) v) :
    Announces name ⟨.json, .json type⟩ v
  | empty {plain : DeclaredType} : Announces name ⟨.optional, plain⟩ .empty
  | present {plain : DeclaredType} {v : Injected} (delivers : Delivers plain v) (ne : v ≠ .null) :
    Announces name ⟨.optional, plain⟩ (.present v)
  | claimValue {plain : DeclaredType} {v : Injected} (delivers : Delivers plain v) :
    Announces name ⟨.claimValue, plain⟩ (.claimValue name v)
  | optionalClaimValue {plain : DeclaredType} {v : Injected}
    (optional : Announces name ⟨.optional, plain⟩ v) :
    Announces name ⟨.optionalClaimValue, plain⟩ (.claimValue name v)
  | provider (inner : DeclaredType) :
    Announces name ⟨.provider, inner⟩ (.provider ⟨name, inner⟩)

theorem announces_optional {plain : DeclaredType} (isPlain : plain.isPlain = true) (name : String)
    (token : Option Token) :
    (⟨.optional, plain⟩ : Classified).Announces name (produce name token (.optional plain)) := by
  have delivers := delivers_produce isPlain name token
  rw [produce]
  split
  · exact .empty
  · rename_i notNull
    exact .present delivers notNull

theorem announces_produce_of_baseForm {declared : DeclaredType} {c : Classified}
    (form : BaseForm declared c) (name : String) (token : Option Token) :
    c.Announces name (produce name token declared) := by
  cases form with
  | value type => exact .raw (delivers_produce rfl name token)
  | json type => exact .json (delivers_produce rfl name token)
  | optional isPlain => exact announces_optional isPlain name token
  | claimValue isPlain => exact .claimValue (delivers_produce isPlain name token)
  | optionalClaimValue isPlain =>
    exact .optionalClaimValue (announces_optional isPlain name token)

/-- The types that receive the values of a plain type. -/
inductive Receives : (α : Type) → [Injectable α] → DeclaredType → Prop
  | string : Receives String (.value .string)
  | long : Receives Int64 (.value .long)
  | double : Receives Double (.value .double)
  | boolean : Receives Bool (.value .boolean)
  | stringSet : Receives TextSet (.value .stringSet)
  | collected {σ : Type} (collect : List String → σ) :
    @Receives σ (.collecting collect) (.value .stringSet)
  | jsonObject : Receives Data (.value .jsonObject)
  | any : Receives Data (.value .any)
  | json (type : JsonType) : Receives Json (.json type)

theorem exists_receives {plain : DeclaredType} (isPlain : plain.isPlain = true) :
    ∃ (α : Type) (_ : Injectable α), Receives α plain := by
  cases plain with
  | value type =>
    cases type with
    | string => exact ⟨_, _, .string⟩
    | long => exact ⟨_, _, .long⟩
    | double => exact ⟨_, _, .double⟩
    | boolean => exact ⟨_, _, .boolean⟩
    | stringSet => exact ⟨_, _, .stringSet⟩
    | jsonObject => exact ⟨_, _, .jsonObject⟩
    | any => exact ⟨_, _, .any⟩
  | json type => exact ⟨_, _, .json type⟩
  | optional _ | claimValue _ | provider _ => cases isPlain

/-- A type reads a value: an option of the type always has a reading, which is empty exactly if the
value is missing, and the type itself has the same one, unless it is empty. -/
def Reads (α : Type) [Injectable α] (v : Injected) : Prop :=
  ∃ read : Option α, ofInjected v = .ok read ∧ (read = none ↔ v = .null) ∧
    (ofInjected v : Except InjectError α) = read.elim (.error .absent) .ok

section

variable {α : Type} [Injectable α] {plain : DeclaredType} {name : String} {v : Injected}

theorem Delivers.reads (delivers : Delivers plain v) (receives : Receives α plain) : Reads α v := by
  -- Data that another type carries than the one received is left out by its index.
  cases delivers with
  | missing => cases receives <;> exact ⟨none, rfl, by simp, rfl⟩
  | claim carries => cases receives <;> cases carries <;> exact ⟨some _, rfl, by simp, rfl⟩
  | json _ =>
    cases receives
    exact ⟨some _, rfl, by simp, rfl⟩

theorem Classified.Announces.option_ok
    (announces : (⟨.optional, plain⟩ : Classified).Announces name v)
    (receives : Receives α plain) : ∃ read : Option α, ofInjected v = .ok read := by
  cases announces with
  | empty => exact ⟨none, rfl⟩
  | present delivers ne =>
    obtain ⟨read, _, noneIff, received⟩ := delivers.reads receives
    cases read with
    | none => exact absurd (noneIff.mp rfl) ne
    | some a => exact ⟨some a, congrArg (Except.map some) received⟩

theorem named_ok {read : α} (received : ofInjected v = .ok read) :
    ofInjected (.claimValue name v) = .ok (⟨name, read⟩ : Named α) :=
  congrArg (Except.map fun read => (⟨name, read⟩ : Named α)) received

end

/-- What a place that declares a type receives of a claim: of a plain type, its value or nothing; of
an optional one, its value if there is one; of a named one, this with the name of the claim; and of
a provider, a handle on the claim that gives all this in each request. -/
def Received (name : String) : DeclaredType → Injected → Prop
  | .optional inner, v =>
    ∀ (α : Type) [Injectable α], Receives α inner.leaf → ∃ read : Option α, ofInjected v = .ok read
  | .claimValue inner, v =>
    ∀ (α : Type) [Injectable α], Receives α inner.leaf →
      ∃ read : Option α, ofInjected v = .ok (⟨name, read⟩ : Named (Option α))
  | .provider inner, v =>
    ofInjected v = .ok (⟨name, inner⟩ : Provider) ∧
      ∀ slot : Slot, Received name inner (Provider.get ⟨name, inner⟩ slot).1
  | plain, v => ∀ (α : Type) [Injectable α], Receives α plain → Reads α v

theorem received_of_baseForm {declared : DeclaredType} {c : Classified}
    (form : BaseForm declared c) (name : String) (token : Option Token) :
    Received name declared (produce name token declared) := by
  have announces := announces_produce_of_baseForm form name token
  cases form with
  | value type =>
    intro α _ receives
    exact (delivers_produce rfl name token).reads receives
  | json type =>
    intro α _ receives
    exact (delivers_produce rfl name token).reads receives
  | optional isPlain =>
    intro α _ receives
    rw [DeclaredType.leaf_of_isPlain isPlain] at receives
    exact announces.option_ok receives
  | claimValue isPlain =>
    intro α _ receives
    rw [DeclaredType.leaf_of_isPlain isPlain] at receives
    obtain ⟨read, received, _⟩ := (delivers_produce isPlain name token).reads receives
    exact ⟨read, named_ok received⟩
  | optionalClaimValue isPlain =>
    intro α _ receives
    rw [DeclaredType.leaf, DeclaredType.leaf_of_isPlain isPlain] at receives
    obtain ⟨read, received⟩ := (announces_optional isPlain name token).option_ok receives
    exact ⟨read, named_ok received⟩

/-- For a type that has a shape, the value of a claim has the form that the shape announces, and
whatever matches the type receives it, the values that a provider gives in any slot included. Each
type has something that matches it. -/
theorem produced_announced_and_received {declared : DeclaredType} {c : Classified}
    (classified : declared.classify = some c) (name : String) (token : Option Token) :
    c.Announces name (produce name token declared) ∧
    Received name declared (produce name token declared) ∧
    ∃ (α : Type) (_ : Injectable α), Receives α declared.leaf := by
  have matching := exists_receives (DeclaredType.isPlain_leaf declared)
  rcases DeclaredType.baseForm_or_provider_of_classify classified with
    form | ⟨inner, base, rfl, form, rfl⟩
  · exact ⟨announces_produce_of_baseForm form name token, received_of_baseForm form name token,
      matching⟩
  · exact ⟨.provider inner, ⟨rfl, fun slot => received_of_baseForm form name slot.join⟩, matching⟩

private def optionalLong : DeclaredType := .claimValue (.optional (.value .long))

private def sevenSlot : Slot :=
  some (some (Token.ofPayload "t" (TextMap.ofList [("n", .int ⟨7, by omega, by omega⟩)])))

theorem provider_of_optional_long_received :
    (DeclaredType.provider optionalLong).classify = some ⟨.provider, optionalLong⟩ ∧
    ofInjected (produce "n" none (.provider optionalLong)) = .ok (⟨"n", optionalLong⟩ : Provider) ∧
    (∃ read, ofInjected (Provider.get ⟨"n", optionalLong⟩ none).1 =
      .ok (⟨"n", read⟩ : Named (Option Int64))) ∧
    ofInjected (Provider.get ⟨"n", optionalLong⟩ sevenSlot).1 =
      .ok (⟨"n", some 7⟩ : Named (Option Int64)) := by
  have classified : (DeclaredType.provider optionalLong).classify =
      some ⟨.provider, optionalLong⟩ := rfl
  obtain ⟨_, ⟨received, inSlots⟩, _⟩ := produced_announced_and_received classified "n" none
  exact ⟨classified, received, inSlots none Int64 .long, by rfl⟩

end BearerGate.Injection
