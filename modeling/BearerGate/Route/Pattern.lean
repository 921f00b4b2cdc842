import BearerGate.Json.Basic

/-!
Patterns of paths. A name in braces stands for a part of one segment that is not empty, a name after
a star for all the rest of the path, which is not empty either. A doubled brace stands for itself. A
segment has at most one of both, and a rest stands last.
-/

set_option autoImplicit false
set_option relaxedAutoImplicit false

namespace BearerGate.Route

/-- A piece of a pattern. Names do not count. -/
inductive Piece
  | literal (c : Char)
  | parameter
  | rest
  deriving DecidableEq, Repr

/-- Whether a rest stands last only, and a segment has one name at most; `named` tells whether the
segment that is being read has one already. -/
def isWellFormed : Bool → List Piece → Bool
  | _, [] => true
  | named, .literal c :: tail => isWellFormed (named && c != '/') tail
  | false, .parameter :: tail => isWellFormed true tail
  | false, .rest :: tail => tail.isEmpty
  | true, _ :: _ => false

structure Pattern where
  pieces : List Piece
  wellFormed : isWellFormed false pieces = true
  deriving DecidableEq

namespace Pattern

inductive Mark
  | plain (c : Char)
  | brace (c : Char)

def Mark.char : Mark → Char
  | .plain c => c
  | .brace c => c

def marks : List Char → List Mark
  | '{' :: '{' :: rest => .brace '{' :: marks rest
  | '}' :: '}' :: rest => .brace '}' :: marks rest
  | c :: rest => .plain c :: marks rest
  | [] => []

/-- Where a reader stands: between names, just after an opening brace, or in a name; a name is bare
as long as it has only a star. -/
inductive Place
  | text
  | opened
  | name (piece : Piece) (bare : Bool)

/-- The pieces that marks write. The first character of a name may be any but a closing brace; a
star or a slash is no further one. -/
def readPieces : Place → List Mark → Option (List Piece)
  | .text, [] => some []
  | _, [] => none
  | .text, .plain '{' :: tail => readPieces .opened tail
  | .text, .plain '}' :: _ => none
  | .text, m :: tail => (readPieces .text tail).map (.literal m.char :: ·)
  | .opened, m :: tail =>
    if m.char = '}' then none
    else if m.char = '*' then readPieces (.name .rest true) tail
    else readPieces (.name .parameter false) tail
  | .name piece bare, .plain '}' :: tail =>
    if bare then none else (readPieces .text tail).map (piece :: ·)
  | .name piece _, m :: tail =>
    if m.char = '*' ∨ m.char = '/' then none else readPieces (.name piece false) tail

def ofText? (text : String) : Option Pattern :=
  match readPieces .text (marks text.toList) with
  | some pieces =>
    if h : isWellFormed false pieces = true then some ⟨pieces, h⟩ else none
  | none => none

end Pattern

/-- A segment with a name in it: what stands before the name and after it. -/
structure NamedSegment where
  before : List Char
  kind : Piece
  after : List Char
  deriving DecidableEq, Repr

def spanLiterals : List Piece → List Char × List Piece
  | .literal c :: tail => (c :: (spanLiterals tail).1, (spanLiterals tail).2)
  | pieces => ([], pieces)

def namedSegment? (segment : List Piece) : Option NamedSegment :=
  match (spanLiterals segment).2 with
  | [] => none
  | kind :: tail => some ⟨(spanLiterals segment).1, kind, (spanLiterals tail).1⟩

def segments : List Piece → List (List Piece)
  | [] => [[]]
  | piece :: tail =>
    if piece = .literal '/' then [] :: segments tail
    else match segments tail with
      | [] => [[piece]]
      | segment :: more => (piece :: segment) :: more

namespace NamedSegment

def isWhole (s : NamedSegment) : Bool := s.before.isEmpty && s.after.isEmpty

/-- Whether a later segment cannot stand beside an earlier one in the same place. Two names that are
less than their segments go together if both have only text before them, or both only text after
them; a rest does not go with a name in its own place, nor behind a text beside a name with text
after it. -/
def clashes (earlier later : NamedSegment) : Bool :=
  match earlier.kind, later.kind with
  | .parameter, .parameter =>
    !earlier.isWhole && !later.isWhole && earlier != later &&
      !(earlier.after.isEmpty && later.after.isEmpty) &&
      !(earlier.before.isEmpty && later.before.isEmpty)
  | .parameter, .rest =>
    earlier.before == later.before || (!earlier.after.isEmpty && !later.before.isEmpty)
  | .rest, .parameter => earlier.before == later.before
  | _, _ => false

end NamedSegment

/-- Whether a later list of segments cannot stand beside an earlier one: it is the same, or their
first different segments clash. -/
def segmentsClash : List (List Piece) → List (List Piece) → Bool
  | [], [] => true
  | s :: earlier, t :: later =>
    if s = t then segmentsClash earlier later
    else match namedSegment? s, namedSegment? t with
      | some a, some b => a.clashes b
      | _, _ => false
  | _, _ => false

def Pattern.clashes (earlier later : Pattern) : Bool :=
  segmentsClash (segments earlier.pieces) (segments later.pieces)

end BearerGate.Route
