import BearerGate.Route.Table
import Mathlib.Logic.Basic

/-!
The paths that patterns stand for, against the look-up, which follows all patterns of a table at
once. Main statement: the look-up finds exactly the paths that a pattern fits without being
overtaken in the table. A pattern is overtaken at a name if another one goes on there with a longer
text that ends the same segment: the look-up follows that one alone from there on.
-/

set_option autoImplicit false
set_option relaxedAutoImplicit false

namespace BearerGate.Route

/-- A path fits pieces that are read one after the other, each for itself. -/
inductive Fits : List Piece → List Char → Prop
  | nil : Fits [] []
  | literal {c : Char} {tail : List Piece} {path : List Char} (later : Fits tail path) :
    Fits (.literal c :: tail) (c :: path)
  | parameter {name path : List Char} {tail : List Piece} (ne : name ≠ []) (within : '/' ∉ name)
    (later : Fits tail path) : Fits (.parameter :: tail) (name ++ path)
  | rest {path : List Char} (ne : path ≠ []) : Fits [.rest] path

/-- The first segment of a path has an ending, and before it something for a name. -/
def EndsWith (path ending : List Char) : Prop :=
  ∃ name, name ≠ [] ∧ '/' ∉ name ∧ firstSegment path = name ++ ending

/-- On a path the first pieces overtake the second: as far as both are the same the path goes along,
up to a name behind which the first have a longer text that ends the segment. -/
inductive Overtakes : List Piece → List Piece → List Char → Prop
  | here {longer tail : List Piece} {path : List Char}
    (less : (segmentRest tail).length < (segmentRest longer).length)
    (ends : EndsWith path (segmentRest longer)) :
    Overtakes (.parameter :: longer) (.parameter :: tail) path
  | literal {c : Char} {q p : List Piece} {path : List Char} (later : Overtakes q p path) :
    Overtakes (.literal c :: q) (.literal c :: p) (c :: path)
  | parameter {name path : List Char} {q p : List Piece} (ne : name ≠ []) (within : '/' ∉ name)
    (later : Overtakes q p path) : Overtakes (.parameter :: q) (.parameter :: p) (name ++ path)

def beyondSegment (path : List Char) : List Char := path.drop (firstSegment path).length

def beyondEnding (pieces : List Piece) : List Piece := pieces.drop (segmentRest pieces).length

theorem firstSegment_of_not_mem {path : List Char} (within : '/' ∉ path) :
    firstSegment path = path := by
  induction path with
  | nil => rfl
  | cons c rest ih =>
    rw [List.mem_cons, not_or] at within
    rw [firstSegment, if_neg (Ne.symm within.1), ih within.2]

theorem beyondSegment_of_not_mem {path : List Char} (within : '/' ∉ path) :
    beyondSegment path = [] := by
  rw [beyondSegment, firstSegment_of_not_mem within, List.drop_length]

theorem firstSegment_append {text : List Char} (within : '/' ∉ text) (rest : List Char) :
    firstSegment (text ++ '/' :: rest) = text ++ ['/'] := by
  induction text with
  | nil => rfl
  | cons c tail ih =>
    rw [List.mem_cons, not_or] at within
    rw [List.cons_append, firstSegment, if_neg (Ne.symm within.1), ih within.2, List.cons_append]

theorem beyondSegment_append {text : List Char} (within : '/' ∉ text) (rest : List Char) :
    beyondSegment (text ++ '/' :: rest) = rest := by
  rw [beyondSegment, firstSegment_append within, List.append_cons text '/' rest]
  exact List.drop_left

theorem firstSegment_append_beyond (path : List Char) :
    firstSegment path ++ beyondSegment path = path := by
  by_cases slash : '/' ∈ path
  · obtain ⟨text, rest, rfl, within⟩ := List.eq_append_cons_of_mem slash
    rw [firstSegment_append within, beyondSegment_append within, ← List.append_cons]
  · rw [firstSegment_of_not_mem slash, beyondSegment_of_not_mem slash, List.append_nil]

theorem segmentRest_literal {c : Char} (ne : c ≠ '/') (tail : List Piece) :
    segmentRest (.literal c :: tail) = c :: segmentRest tail :=
  if_neg ne

theorem beyondEnding_literal {c : Char} (ne : c ≠ '/') (tail : List Piece) :
    beyondEnding (.literal c :: tail) = beyondEnding tail := by
  rw [beyondEnding, segmentRest_literal ne, List.length_cons, List.drop_succ_cons, beyondEnding]

theorem isWellFormed_literal {c : Char} (ne : c ≠ '/') (tail : List Piece) :
    isWellFormed true (.literal c :: tail) = isWellFormed true tail := by
  rw [isWellFormed, bne_iff_ne.mpr ne, Bool.and_self]

theorem ending_append_beyond (pieces : List Piece) :
    (segmentRest pieces).map .literal ++ beyondEnding pieces = pieces := by
  induction pieces with
  | nil => rfl
  | cons first tail ih =>
    cases first with
    | parameter | rest => rfl
    | literal c =>
      by_cases slash : c = '/'
      · subst slash
        rfl
      · rw [segmentRest_literal slash, beyondEnding_literal slash, List.map_cons, List.cons_append,
          ih]

theorem ending_of_isWellFormed {tail : List Piece} (wellFormed : isWellFormed true tail = true) :
    (∃ text, '/' ∉ text ∧ segmentRest tail = text ++ ['/'] ∧
      isWellFormed false (beyondEnding tail) = true) ∨
    ('/' ∉ segmentRest tail ∧ beyondEnding tail = []) := by
  induction tail with
  | nil => exact .inr ⟨List.not_mem_nil, rfl⟩
  | cons first tail ih =>
    cases first with
    | parameter | rest => cases wellFormed
    | literal c =>
      by_cases slash : c = '/'
      · subst slash
        exact .inl ⟨[], List.not_mem_nil, rfl, wellFormed⟩
      · have outside {text : List Char} (within : '/' ∉ text) : '/' ∉ c :: text := by
          rw [List.mem_cons, not_or]
          exact ⟨Ne.symm slash, within⟩
        rw [isWellFormed_literal slash] at wellFormed
        rw [segmentRest_literal slash, beyondEnding_literal slash]
        rcases ih wellFormed with ⟨text, within, ends, left⟩ | ⟨within, left⟩
        · exact .inl ⟨c :: text, outside within, congrArg (c :: ·) ends, left⟩
        · exact .inr ⟨outside within, left⟩

theorem isWellFormed_beyondEnding {tail : List Piece}
    (wellFormed : isWellFormed true tail = true) :
    isWellFormed false (beyondEnding tail) = true := by
  rcases ending_of_isWellFormed wellFormed with ⟨_, _, _, left⟩ | ⟨_, left⟩
  · exact left
  · rw [left]
    rfl

theorem segment_of_name {name : List Char} {tail : List Piece} {path : List Char}
    (within : '/' ∉ name) (wellFormed : isWellFormed true tail = true)
    (last : beyondEnding tail = [] → path = []) :
    firstSegment (name ++ (segmentRest tail ++ path)) = name ++ segmentRest tail ∧
      beyondSegment (name ++ (segmentRest tail ++ path)) = path := by
  rcases ending_of_isWellFormed wellFormed with ⟨text, noSlash, ends, _⟩ | ⟨noSlash, left⟩
  · have within' : '/' ∉ name ++ text := by
      rw [List.mem_append, not_or]
      exact ⟨within, noSlash⟩
    have shape : name ++ (segmentRest tail ++ path) = (name ++ text) ++ '/' :: path := by
      rw [ends, List.append_assoc, List.append_assoc, List.singleton_append]
    rw [shape, firstSegment_append within', beyondSegment_append within', ends, List.append_assoc]
    exact ⟨rfl, rfl⟩
  · have within' : '/' ∉ name ++ segmentRest tail := by
      rw [List.mem_append, not_or]
      exact ⟨within, noSlash⟩
    rw [last left, List.append_nil, firstSegment_of_not_mem within',
      beyondSegment_of_not_mem within']
    exact ⟨rfl, rfl⟩

theorem fits_nil_iff {path : List Char} : Fits [] path ↔ path = [] := by
  constructor
  · rintro ⟨⟩
    rfl
  · rintro rfl
    exact .nil

theorem fits_literals_iff {ending : List Char} {pieces : List Piece} {path : List Char} :
    Fits (ending.map .literal ++ pieces) path ↔
      ∃ later, path = ending ++ later ∧ Fits pieces later := by
  induction ending generalizing path with
  | nil => simp
  | cons c ending ih =>
    rw [List.map_cons, List.cons_append]
    constructor
    · intro fits
      cases fits with
      | literal fits =>
        obtain ⟨later, rfl, beyond⟩ := ih.mp fits
        exact ⟨later, rfl, beyond⟩
    · rintro ⟨later, rfl, fits⟩
      exact .literal (ih.mpr ⟨later, rfl, fits⟩)

theorem fits_ending_iff {pieces : List Piece} {path : List Char} :
    Fits pieces path ↔
      ∃ later, path = segmentRest pieces ++ later ∧ Fits (beyondEnding pieces) later := by
  have split : Fits ((segmentRest pieces).map .literal ++ beyondEnding pieces) path ↔ _ :=
    fits_literals_iff
  rwa [ending_append_beyond] at split

theorem fits_parameter_iff {tail : List Piece} {path : List Char}
    (wellFormed : isWellFormed true tail = true) :
    Fits (.parameter :: tail) path ↔
      EndsWith path (segmentRest tail) ∧ Fits (beyondEnding tail) (beyondSegment path) := by
  constructor
  · intro fits
    cases fits with
    | parameter ne within fits =>
      obtain ⟨later, rfl, beyond⟩ := fits_ending_iff.mp fits
      obtain ⟨segment, left⟩ := segment_of_name within wellFormed
        fun done => fits_nil_iff.mp (done ▸ beyond)
      rw [left]
      exact ⟨⟨_, ne, within, segment⟩, beyond⟩
  · rintro ⟨⟨name, ne, within, segment⟩, fits⟩
    have whole := firstSegment_append_beyond path
    rw [segment, List.append_assoc] at whole
    rw [← whole]
    exact .parameter ne within (fits_ending_iff.mpr ⟨_, rfl, fits⟩)

theorem overtakes_ending {q p : List Piece} {path : List Char}
    (wellFormed : isWellFormed true p = true) (overtakes : Overtakes q p path) :
    segmentRest q = segmentRest p ∧ ∃ later, path = segmentRest p ++ later ∧
      Overtakes (beyondEnding q) (beyondEnding p) later := by
  induction overtakes with
  | here less ends => cases wellFormed
  | parameter ne within later ih => cases wellFormed
  | @literal c q p path later ih =>
    by_cases slash : c = '/'
    · subst slash
      exact ⟨rfl, path, rfl, later⟩
    · rw [isWellFormed_literal slash] at wellFormed
      obtain ⟨same, after, rfl, beyond⟩ := ih wellFormed
      rw [segmentRest_literal slash, segmentRest_literal slash, beyondEnding_literal slash,
        beyondEnding_literal slash, same]
      exact ⟨rfl, after, rfl, beyond⟩

theorem Overtakes.ne_nil {q p : List Piece} {path : List Char} (overtakes : Overtakes q p path) :
    p ≠ [] := by
  cases overtakes <;> exact List.cons_ne_nil _ _

theorem overtakes_literals (ending : List Char) {q p : List Piece} {path : List Char}
    (overtakes : Overtakes q p path) :
    Overtakes (ending.map .literal ++ q) (ending.map .literal ++ p) (ending ++ path) := by
  induction ending with
  | nil => exact overtakes
  | cons c ending ih => exact .literal ih

/-- At a name pieces are overtaken by a longer ending there, or behind the one that they have. -/
theorem overtakes_parameter_iff {q p : List Piece} {path : List Char}
    (wellFormed : isWellFormed true p = true) :
    Overtakes (.parameter :: q) (.parameter :: p) path ↔
      ((segmentRest p).length < (segmentRest q).length ∧ EndsWith path (segmentRest q)) ∨
      (segmentRest q = segmentRest p ∧ EndsWith path (segmentRest p) ∧
        Overtakes (beyondEnding q) (beyondEnding p) (beyondSegment path)) := by
  constructor
  · intro overtakes
    cases overtakes with
    | here less ends => exact .inl ⟨less, ends⟩
    | parameter ne within later =>
      obtain ⟨same, after, rfl, beyond⟩ := overtakes_ending wellFormed later
      obtain ⟨segment, left⟩ := segment_of_name within wellFormed
        fun done => absurd done beyond.ne_nil
      rw [left]
      exact .inr ⟨same, ⟨_, ne, within, segment⟩, beyond⟩
  · rintro (⟨less, ends⟩ | ⟨same, ⟨name, ne, within, segment⟩, overtakes⟩)
    · exact .here less ends
    · have whole := firstSegment_append_beyond path
      rw [segment, List.append_assoc] at whole
      have later := overtakes_literals (segmentRest p) overtakes
      rw [ending_append_beyond, ← same, ending_append_beyond, same] at later
      rw [← whole]
      exact .parameter ne within later

theorem foldl_longer (best : List Char) (texts : List (List Char)) :
    ∃ e, texts.foldl longer (some best) = some e ∧ e ∈ best :: texts ∧
      ∀ text ∈ best :: texts, text.length ≤ e.length := by
  induction texts generalizing best with
  | nil => exact ⟨best, rfl, List.mem_cons_self, by simp⟩
  | cons text rest ih =>
    rw [List.foldl_cons, longer]
    split
    · rename_i less
      obtain ⟨e, found, member, longest⟩ := ih text
      refine ⟨e, found, List.mem_cons_of_mem best member, ?_⟩
      have atLeast := longest text List.mem_cons_self
      rw [List.forall_mem_cons]
      exact ⟨by omega, longest⟩
    · rename_i notLess
      obtain ⟨e, found, member, longest⟩ := ih best
      rw [List.forall_mem_cons] at longest
      refine ⟨e, found, ?_, ?_⟩
      · rcases List.mem_cons.mp member with same | later
        · exact same ▸ List.mem_cons_self
        · exact List.mem_cons_of_mem best (List.mem_cons_of_mem text later)
      · rw [List.forall_mem_cons, List.forall_mem_cons]
        exact ⟨longest.1, by omega, longest.2⟩

theorem slash_not_mem_of_firstSegment {path name ending : List Char} (ne : ending ≠ [])
    (segment : firstSegment path = name ++ ending) : '/' ∉ name := by
  by_cases slash : '/' ∈ path
  · obtain ⟨text, rest, rfl, within⟩ := List.eq_append_cons_of_mem slash
    obtain ⟨front, last, rfl⟩ := (List.eq_nil_or_concat ending).resolve_left ne
    rw [firstSegment_append within, List.concat_eq_append, ← List.append_assoc] at segment
    obtain ⟨same, _⟩ := List.append_inj' segment rfl
    rw [same, List.mem_append, not_or] at within
    exact within.1
  · rw [firstSegment_of_not_mem slash] at segment
    rw [segment, List.mem_append, not_or] at slash
    exact slash.1

theorem endsWith_iff {path ending : List Char} (ne : ending ≠ []) :
    EndsWith path ending ↔
      ending.length < (firstSegment path).length ∧ ending <:+ firstSegment path := by
  constructor
  · rintro ⟨name, nameNe, _, segment⟩
    have positive := List.length_pos_iff.mpr nameNe
    rw [segment, List.length_append]
    exact ⟨by omega, List.suffix_append name ending⟩
  · rintro ⟨less, name, segment⟩
    refine ⟨name, ?_, slash_not_mem_of_firstSegment ne segment.symm, segment.symm⟩
    rintro rfl
    rw [← segment, List.nil_append] at less
    exact absurd less (Nat.lt_irrefl _)

/-- The ending that the look-up takes is one of the longest with which the segment ends, if there is
one that is not empty. -/
theorem closing?_cases (path : List Char) (ends : List (List Char)) :
    (closing? (firstSegment path) ends = none ∧ ∀ e ∈ ends, EndsWith path e → e = []) ∨
    ∃ e, closing? (firstSegment path) ends = some e ∧ e ∈ ends ∧ e ≠ [] ∧ EndsWith path e ∧
      ∀ e' ∈ ends, EndsWith path e' → e'.length ≤ e.length := by
  have kept (e : List Char) : e ∈ ends.filter (fun e => !e.isEmpty &&
      e.length < (firstSegment path).length &&
      e.reverse.isPrefixOf (firstSegment path).reverse) ↔
        e ∈ ends ∧ e ≠ [] ∧ EndsWith path e := by
    rw [List.mem_filter]
    refine and_congr_right fun _ => ?_
    by_cases empty : e = []
    · simp [empty]
    · simp [empty, endsWith_iff empty]
  rw [closing?]
  cases fitting : ends.filter _ with
  | nil =>
    refine .inl ⟨rfl, fun e member endsWith => Classical.byContradiction fun ne => ?_⟩
    have inFitting := (kept e).mpr ⟨member, ne, endsWith⟩
    rw [fitting] at inFitting
    cases inFitting
  | cons first others =>
    rw [fitting] at kept
    obtain ⟨e, found, member, longest⟩ := foldl_longer first others
    obtain ⟨inEnds, ne, endsWith⟩ := (kept e).mp member
    refine .inr ⟨e, found, inEnds, ne, endsWith, fun e' member' endsWith' => ?_⟩
    by_cases empty : e' = []
    · rw [empty]
      exact Nat.zero_le _
    · exact longest e' ((kept e').mpr ⟨member', empty, endsWith'⟩)

theorem eq_of_endsWith {path e e' : List Char} (endsWith : EndsWith path e)
    (endsWith' : EndsWith path e') (same : e.length = e'.length) : e = e' := by
  obtain ⟨name, _, _, segment⟩ := endsWith
  obtain ⟨name', _, _, segment'⟩ := endsWith'
  exact (List.append_inj' (segment.symm.trans segment') same).2

theorem mem_following {piece : Piece} {ps : List (List Piece)} {tail : List Piece} :
    tail ∈ following piece ps ↔ piece :: tail ∈ ps := by
  rw [following, List.mem_filterMap]
  constructor
  · rintro ⟨pieces, member, found⟩
    cases pieces with
    | nil => cases found
    | cons first others =>
      obtain ⟨rfl, same⟩ := Option.ite_none_right_eq_some.mp found
      cases same
      exact member
  · intro member
    exact ⟨piece :: tail, member, if_pos rfl⟩

/-- Among some lists of pieces, these fit a path and are not overtaken. -/
def Prevails (ps : List (List Piece)) (p : List Piece) (path : List Char) : Prop :=
  Fits p path ∧ ∀ q ∈ ps, ¬ Overtakes q p path

theorem getLast?_firstSegment_ne_iff {path : List Char} :
    (firstSegment path).getLast? ≠ some '/' ↔ '/' ∉ path := by
  refine not_congr ⟨fun last => ?_, fun slash => ?_⟩
  · have member := List.mem_of_getLast? last
    rw [← firstSegment_append_beyond path]
    exact List.mem_append_left _ member
  · obtain ⟨text, rest, rfl, within⟩ := List.eq_append_cons_of_mem slash
    rw [firstSegment_append within, List.getLast?_concat]

section LookUp

variable {ps : List (List Piece)} {c : Char} {path : List Char}

theorem prevails_literal_iff {p : List Piece} :
    Prevails ps (.literal c :: p) (c :: path) ↔ Prevails (following (.literal c) ps) p path := by
  constructor
  · rintro ⟨fits, free⟩
    cases fits with
    | literal later =>
      refine ⟨later, fun q member overtakes => ?_⟩
      exact free _ (mem_following.mp member) (.literal overtakes)
  · rintro ⟨fits, free⟩
    refine ⟨.literal fits, fun q member overtakes => ?_⟩
    cases overtakes with
    | literal later => exact free _ (mem_following.mpr member) later

theorem prevails_rest {tail : List Piece} (wellFormed : isWellFormed false (.rest :: tail) = true) :
    Prevails ps (.rest :: tail) (c :: path) := by
  obtain rfl : tail = [] := List.isEmpty_iff.mp wellFormed
  refine ⟨.rest (List.cons_ne_nil c path), fun q _ overtakes => ?_⟩
  cases overtakes

theorem not_endsWith_slash {ending rest : List Char} : ¬ EndsWith ('/' :: rest) ending := by
  rintro ⟨name, ne, within, segment⟩
  cases name with
  | nil => exact ne rfl
  | cons first others =>
    obtain ⟨rfl, _⟩ := List.cons.inj segment
    exact within List.mem_cons_self

theorem prevails_parameter_iff {ending : List Char} {tail : List Piece}
    (wellFormed : ∀ t ∈ following .parameter ps, isWellFormed true t = true)
    (member : tail ∈ following .parameter ps)
    (taken : ending ∈ (following .parameter ps).map segmentRest) (endsWith : EndsWith path ending)
    (longest : ∀ e ∈ (following .parameter ps).map segmentRest, EndsWith path e →
      e.length ≤ ending.length) :
    Prevails ps (.parameter :: tail) path ↔ segmentRest tail = ending ∧
      Prevails (((following .parameter ps).filter (segmentRest · = ending)).map
        (·.drop ending.length)) (beyondEnding tail) (beyondSegment path) := by
  have named := wellFormed tail member
  constructor
  · rintro ⟨fits, free⟩
    obtain ⟨ends, later⟩ := (fits_parameter_iff named).mp fits
    have ending_eq : segmentRest tail = ending := by
      -- A longer ending than that of the pattern would overtake it here.
      refine eq_of_endsWith ends endsWith (Nat.le_antisymm ?_ ?_)
      · exact longest _ (List.mem_map_of_mem member) ends
      · obtain ⟨other, isTail, rfl⟩ := List.mem_map.mp taken
        exact Nat.le_of_not_lt fun less =>
          free _ (mem_following.mp isTail) (.here less endsWith)
    refine ⟨ending_eq, later, fun q isLeft overtakes => ?_⟩
    obtain ⟨other, kept, rfl⟩ := List.mem_map.mp isLeft
    obtain ⟨isTail, same⟩ := List.mem_filter.mp kept
    have same : segmentRest other = ending := of_decide_eq_true same
    refine free _ (mem_following.mp isTail) ((overtakes_parameter_iff named).mpr (.inr ?_))
    rw [← same] at overtakes
    exact ⟨same.trans ending_eq.symm, ends, overtakes⟩
  · rintro ⟨rfl, later, free⟩
    refine ⟨(fits_parameter_iff named).mpr ⟨endsWith, later⟩, fun q isPiece overtakes => ?_⟩
    cases q with
    | nil => cases overtakes
    | cons first other =>
      obtain rfl : first = .parameter := by cases overtakes <;> rfl
      have isTail := mem_following.mpr isPiece
      rcases (overtakes_parameter_iff named).mp overtakes with
        ⟨less, ends⟩ | ⟨same, _, overtakes⟩
      · exact absurd (longest _ (List.mem_map_of_mem isTail) ends) (Nat.not_le_of_lt less)
      · refine free _ (List.mem_map.mpr ⟨other, List.mem_filter.mpr ⟨isTail, ?_⟩, rfl⟩) ?_
        · exact decide_eq_true same
        · rwa [← same]

theorem prevails_last_iff {tail : List Piece}
    (wellFormed : ∀ t ∈ following .parameter ps, isWellFormed true t = true)
    (member : tail ∈ following .parameter ps)
    (noEnding : ∀ e ∈ (following .parameter ps).map segmentRest, EndsWith path e → e = []) :
    Prevails ps (.parameter :: tail) path ↔ tail = [] ∧ path ≠ [] ∧ '/' ∉ path := by
  have named := wellFormed tail member
  constructor
  · rintro ⟨fits, _⟩
    obtain ⟨ends, later⟩ := (fits_parameter_iff named).mp fits
    have empty := noEnding _ (List.mem_map_of_mem member) ends
    have done : beyondEnding tail = [] := by
      rcases ending_of_isWellFormed named with ⟨text, _, slash, _⟩ | ⟨_, left⟩
      · rw [empty] at slash
        exact absurd slash.symm (List.append_ne_nil_of_right_ne_nil text (List.cons_ne_nil _ _))
      · exact left
    have split := ending_append_beyond tail
    rw [empty, done] at split
    rw [done, fits_nil_iff] at later
    obtain ⟨name, ne, within, segment⟩ := ends
    have whole := firstSegment_append_beyond path
    rw [later, segment, empty, List.append_nil, List.append_nil] at whole
    exact ⟨split.symm, whole ▸ ne, whole ▸ within⟩
  · rintro ⟨rfl, ne, within⟩
    have segment := firstSegment_of_not_mem within
    refine ⟨?_, fun q isPiece overtakes => ?_⟩
    · have fits := Fits.parameter ne within .nil
      rwa [List.append_nil] at fits
    · cases q with
      | nil => cases overtakes
      | cons first other =>
        obtain rfl : first = .parameter := by cases overtakes <;> rfl
        rcases (overtakes_parameter_iff named).mp overtakes with
          ⟨less, ends⟩ | ⟨_, _, overtakes⟩
        · have empty := noEnding _ (List.mem_map_of_mem (mem_following.mpr isPiece)) ends
          rw [empty] at less
          cases less
        · exact absurd rfl overtakes.ne_nil

def afterName (tails : List (List Piece)) (path : List Char) : Bool :=
  match closing? (firstSegment path) (tails.map segmentRest) with
  | some ending =>
    matchesAny ((tails.filter (segmentRest · = ending)).map (·.drop ending.length))
      (beyondSegment path)
  | none => (firstSegment path).getLast? != some '/' && tails.contains []

theorem matchesAny_cons :
    matchesAny ps (c :: path) = (matchesAny (following (.literal c) ps) path ||
      !(following .rest ps).isEmpty ||
        (c != '/' && afterName (following .parameter ps) (c :: path))) := by
  have positive : firstSegment (c :: path) ≠ [] := by
    rw [firstSegment]
    split <;> exact List.cons_ne_nil _ _
  have beyond : path.drop ((firstSegment (c :: path)).length - 1) = beyondSegment (c :: path) := by
    obtain ⟨n, length⟩ := Nat.exists_eq_succ_of_ne_zero (mt List.length_eq_zero_iff.mp positive)
    rw [beyondSegment, length]
    rfl
  rewrite [matchesAny, afterName, ← beyond]
  rfl

theorem prevails_afterName_iff
    (wellFormed : ∀ t ∈ following .parameter ps, isWellFormed true t = true)
    (smaller : ∀ qs : List (List Piece), (∀ q ∈ qs, isWellFormed false q = true) →
      (matchesAny qs (beyondSegment (c :: path)) = true ↔
        ∃ q ∈ qs, Prevails qs q (beyondSegment (c :: path)))) :
    (c != '/' && afterName (following .parameter ps) (c :: path)) = true ↔
      ∃ t ∈ following .parameter ps, Prevails ps (.parameter :: t) (c :: path) := by
  have noSlash {t : List Piece} (member : t ∈ following .parameter ps)
      (prevails : Prevails ps (.parameter :: t) (c :: path)) : c ≠ '/' := by
    rintro rfl
    exact not_endsWith_slash ((fits_parameter_iff (wellFormed t member)).mp prevails.1).1
  rw [Bool.and_eq_true, bne_iff_ne, afterName]
  rcases closing?_cases (c :: path) ((following .parameter ps).map segmentRest) with
    ⟨found, noEnding⟩ | ⟨ending, found, taken, _, endsWith, longest⟩
  · rw [found]
    dsimp only
    rw [Bool.and_eq_true, bne_iff_ne, getLast?_firstSegment_ne_iff, List.contains_iff_mem]
    constructor
    · rintro ⟨_, within, isTail⟩
      exact ⟨[], isTail, (prevails_last_iff wellFormed isTail noEnding).mpr
        ⟨rfl, List.cons_ne_nil c path, within⟩⟩
    · rintro ⟨t, isTail, prevails⟩
      obtain ⟨rfl, _, within⟩ := (prevails_last_iff wellFormed isTail noEnding).mp prevails
      exact ⟨noSlash isTail prevails, within, isTail⟩
  · rw [found]
    dsimp only
    have kept (t : List Piece) : t ∈ (following .parameter ps).filter (segmentRest · = ending) ↔
        t ∈ following .parameter ps ∧ segmentRest t = ending := by
      rw [List.mem_filter, decide_eq_true_iff]
    have inner : ∀ q ∈ ((following .parameter ps).filter (segmentRest · = ending)).map
        (·.drop ending.length), isWellFormed false q = true := by
      intro q member
      obtain ⟨t, isKept, rfl⟩ := List.mem_map.mp member
      obtain ⟨isTail, rfl⟩ := (kept t).mp isKept
      exact isWellFormed_beyondEnding (wellFormed t isTail)
    rw [smaller _ inner]
    constructor
    · rintro ⟨_, q, member, prevails⟩
      obtain ⟨t, isKept, rfl⟩ := List.mem_map.mp member
      obtain ⟨isTail, same⟩ := (kept t).mp isKept
      refine ⟨t, isTail, (prevails_parameter_iff wellFormed isTail taken endsWith longest).mpr
        ⟨same, ?_⟩⟩
      rwa [beyondEnding, same]
    · rintro ⟨t, isTail, prevails⟩
      obtain ⟨same, later⟩ :=
        (prevails_parameter_iff wellFormed isTail taken endsWith longest).mp prevails
      have isLeft := List.mem_map_of_mem (f := (·.drop ending.length)) ((kept t).mpr ⟨isTail, same⟩)
      refine ⟨noSlash isTail prevails, _, isLeft, ?_⟩
      rwa [beyondEnding, same] at later

theorem fits_empty_iff {p : List Piece} : Fits p [] ↔ p = [] := by
  constructor
  · intro fits
    generalize same : ([] : List Char) = path at fits
    cases fits with
    | nil => rfl
    | literal => cases same
    | parameter ne => exact absurd (List.append_eq_nil_iff.mp same.symm).1 ne
    | rest ne => exact absurd same.symm ne
  · rintro rfl
    exact .nil

/-- The look-up finds a path exactly if a pattern of the table prevails on it. -/
theorem matchesAny_iff (wellFormed : ∀ p ∈ ps, isWellFormed false p = true) :
    matchesAny ps path = true ↔ ∃ p ∈ ps, Prevails ps p path := by
  -- On the length of the path: the look-up goes on behind a character or behind a whole segment.
  induction length : path.length using Nat.strongRecOn generalizing ps path with
  | ind n ih =>
    cases path with
    | nil =>
      rw [matchesAny, List.contains_iff_mem]
      constructor
      · intro member
        exact ⟨[], member, .nil, fun q _ overtakes => absurd rfl overtakes.ne_nil⟩
      · rintro ⟨p, member, fits, _⟩
        exact fits_empty_iff.mp fits ▸ member
    | cons c path =>
      have shorter : path.length < n := by
        rw [← length]
        exact Nat.lt_succ_self _
      have beyond : (beyondSegment (c :: path)).length < n := by
        have whole := congrArg List.length (firstSegment_append_beyond (c :: path))
        rw [List.length_append, length] at whole
        have positive : 0 < (firstSegment (c :: path)).length := by
          rw [firstSegment]
          split <;> exact Nat.zero_lt_succ _
        omega
      have literals := ih _ shorter
        (fun t member => wellFormed (.literal c :: t) (mem_following.mp member)) rfl
      have names := prevails_afterName_iff
        (fun t member => wellFormed (.parameter :: t) (mem_following.mp member))
        fun qs wellFormed => ih _ beyond wellFormed rfl
      rw [matchesAny_cons, Bool.or_eq_true, Bool.or_eq_true, names, literals, Bool.not_eq_true',
        List.isEmpty_eq_false_iff_exists_mem]
      constructor
      · rintro ((⟨t, member, prevails⟩ | ⟨t, member⟩) | ⟨t, member, prevails⟩)
        · exact ⟨_, mem_following.mp member, prevails_literal_iff.mpr prevails⟩
        · have isRest := mem_following.mp member
          exact ⟨_, isRest, prevails_rest (wellFormed _ isRest)⟩
        · exact ⟨_, mem_following.mp member, prevails⟩
      · rintro ⟨p, member, prevails⟩
        cases p with
        | nil => cases prevails.1
        | cons first tail =>
          have isTail := mem_following.mpr member
          cases first with
          | literal c' =>
            obtain rfl : c' = c := by
              cases prevails.1
              rfl
            exact .inl (.inl ⟨tail, isTail, prevails_literal_iff.mp prevails⟩)
          | parameter => exact .inr ⟨tail, isTail, prevails⟩
          | rest => exact .inl (.inr ⟨tail, isTail⟩)

end LookUp

end BearerGate.Route
