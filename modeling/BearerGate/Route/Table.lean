import BearerGate.Route.Pattern

/-!
Tables of routes: patterns that can stand beside each other, and whether a path matches one of them.
The look-up follows all patterns at once, character by character. Literal characters come before
names; a name takes as much of its segment as leaves the longest text that a pattern wants after it.
-/

set_option autoImplicit false
set_option relaxedAutoImplicit false

namespace BearerGate.Route

def following (piece : Piece) (ps : List (List Piece)) : List (List Piece) :=
  ps.filterMap fun
    | first :: tail => if first = piece then some tail else none
    | [] => none

/-- The literal characters at the beginning of pieces, up to the end of the segment and with the
slash that ends it. -/
def segmentRest : List Piece → List Char
  | .literal c :: tail => if c = '/' then ['/'] else c :: segmentRest tail
  | _ => []

def firstSegment : List Char → List Char
  | [] => []
  | c :: rest => if c = '/' then ['/'] else c :: firstSegment rest

/-- The longer of two texts, the earlier one of equals. -/
def longer : Option (List Char) → List Char → Option (List Char)
  | none, e => some e
  | some best, e => if best.length < e.length then some e else some best

/-- The longest of the texts that can follow a name in a segment and leave something for it. -/
def closing? (segment : List Char) (ends : List (List Char)) : Option (List Char) :=
  (ends.filter fun e =>
    !e.isEmpty && e.length < segment.length && e.reverse.isPrefixOf segment.reverse).foldl
    longer none

def matchesAny (ps : List (List Piece)) : List Char → Bool
  | [] => ps.contains []
  | c :: rest =>
    matchesAny (following (.literal c) ps) rest ||
      !(following .rest ps).isEmpty ||
      (let tails := following .parameter ps
       let segment := firstSegment (c :: rest)
       c != '/' &&
        match closing? segment (tails.map segmentRest) with
        | some ending =>
          matchesAny ((tails.filter fun t => segmentRest t = ending).map (·.drop ending.length))
            (rest.drop (segment.length - 1))
        | none => segment.getLast? != some '/' && tails.contains [])
termination_by path => path.length
decreasing_by
  · simp
  · simp only [List.length_drop, List.length_cons]
    omega

/-- Patterns that can stand beside each other. -/
structure Table where
  patterns : List Pattern
  compatible : patterns.Pairwise (fun p q => p.clashes q = false)

namespace Table

def empty : Table := ⟨[], List.Pairwise.nil⟩

def insert? (t : Table) (q : Pattern) : Option Table :=
  if h : t.patterns.all (fun p => !p.clashes q) = true then
    some ⟨t.patterns ++ [q], by
      rw [List.pairwise_append]
      refine ⟨t.compatible, by simp, ?_⟩
      intro p member r last
      rw [List.mem_singleton] at last
      subst last
      simpa using List.all_eq_true.mp h p member⟩
  else none

def matchesPath (t : Table) (path : List Char) : Bool :=
  matchesAny (t.patterns.map Pattern.pieces) path

end Table

end BearerGate.Route
