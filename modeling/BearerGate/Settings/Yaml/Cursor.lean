/-!
Places in a YAML document: what is left of it, the column at which that begins, and whether a list
or a table may begin there. Blanks, comments and line breaks between the tokens are skipped; where a
list or a table may begin, tabs are no blanks, because they would count as indentation.
-/

set_option autoImplicit false
set_option relaxedAutoImplicit false

namespace BearerGate.Settings.Yaml

/-- A place in a document. It is fresh after the indentation of a line or the mark of an item. -/
structure Cursor where
  column : Nat
  fresh : Bool
  rest : List Char

def isBlank (c : Char) : Bool := c == ' ' || c == '\t'

def isBreak (c : Char) : Bool := c == '\n' || c == '\u2028' || c == '\u2029'

def atGap : List Char → Bool
  | [] => true
  | c :: _ => isBlank c || isBreak c

def beginsMarker : List Char → Bool
  | '-' :: '-' :: '-' :: rest => atGap rest
  | '.' :: '.' :: '.' :: rest => atGap rest
  | _ => false

/-- The first token of a text that begins at a column. Within brackets a line break makes no place
fresh. -/
def firstToken (bracketed : Bool) : (comment fresh : Bool) → Nat → List Char → Cursor
  | _, fresh, column, [] => ⟨column, fresh, []⟩
  | comment, fresh, column, c :: rest =>
    if isBreak c then firstToken bracketed false (fresh || !bracketed) 0 rest
    else if comment || c == ' ' || (c == '\t' && (bracketed || !fresh)) then
      firstToken bracketed comment fresh (column + 1) rest
    else if c == '#' then firstToken bracketed true fresh (column + 1) rest
    else ⟨column, fresh, c :: rest⟩

namespace Cursor

def seek (bracketed : Bool) (c : Cursor) : Cursor :=
  firstToken bracketed false c.fresh c.column c.rest

def readUntil (c : Cursor) (rest : List Char) : List Char :=
  c.rest.take (c.rest.length - rest.length)

/-- The place at which less of the document is left, after something was read. -/
def movedTo (c : Cursor) (rest : List Char) : Cursor :=
  let text := c.readUntil rest
  let lastLine := text.reverse.takeWhile (!isBreak ·)
  ⟨if text.any isBreak then lastLine.length else c.column + text.length, false, rest⟩

def afterMark (c : Cursor) : Cursor := ⟨c.column + 1, true, c.rest.drop 1⟩

def next (c : Cursor) : Cursor := ⟨c.column + 1, false, c.rest.drop 1⟩

def atMarker (c : Cursor) : Bool := c.column == 0 && beginsMarker c.rest

def atEnd (c : Cursor) : Bool := c.rest.isEmpty || c.atMarker

def atLone (mark : Char) (c : Cursor) : Bool :=
  match c.rest with
  | d :: rest => d == mark && atGap rest
  | [] => false

end Cursor

end BearerGate.Settings.Yaml
