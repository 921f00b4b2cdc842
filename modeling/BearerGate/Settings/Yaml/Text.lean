import BearerGate.Json.Parser
import BearerGate.Settings.Yaml.Cursor

/-!
Texts in YAML documents: plain ones, quoted ones, and blocks of lines. A line break in a plain or
quoted text, with the blanks around it, stands for a space, and each further one for itself.
-/

set_option autoImplicit false
set_option relaxedAutoImplicit false

namespace BearerGate.Settings.Yaml

def isBracketMark (c : Char) : Bool :=
  c == ',' || c == '[' || c == ']' || c == '{' || c == '}'

def endsPlain (bracketed : Bool) : List Char → Bool
  | [] => true
  | c :: rest =>
    isBreak c || (bracketed && isBracketMark c) || (c == ':' && atGap rest)

def plainLine (bracketed : Bool) : List Char → List Char × List Char
  | [] => ([], [])
  | c :: rest =>
    let next := rest.dropWhile isBlank
    if endsPlain bracketed (c :: rest) then ([], c :: rest)
    else if isBlank c && (endsPlain bracketed next || next.head? == some '#') then ([], c :: rest)
    else
      let (text, rest) := plainLine bracketed rest
      (c :: text, rest)

def startsPlain (bracketed : Bool) : List Char → Bool
  | [] => false
  | c :: rest =>
    if c == '-' then !atGap rest
    else if c == '?' || c == ':' then !bracketed && !atGap rest
    else !(isBlank c || isBreak c || isBracketMark c || "#&*!|>'\"%@`".toList.contains c)

/-- What the line breaks in a text stand for: the first of them for a space if it is alone, and for
nothing if it is not. -/
def foldedBreaks : List Char → List Char
  | ['\n'] => [' ']
  | '\n' :: rest => rest
  | breaks => breaks

/-- Whether a tab stands at a column less than `floor` in the indentation of a line; the column is
known after the first line break only. -/
def hasShallowTab (floor : Nat) : Option Nat → List Char → Bool
  | _, [] => false
  | none, c :: rest => hasShallowTab floor (if isBreak c then some 0 else none) rest
  | some column, c :: rest =>
    if isBreak c then hasShallowTab floor (some 0) rest
    else (c == '\t' && column < floor) || hasShallowTab floor (some (column + 1)) rest

/-- The blanks and line breaks before the next line of a plain text, and the place after them; none
if the indentation of a line is not of spaces. -/
def plainGap? (floor : Nat) (c : Cursor) : Option (List Char × Cursor) :=
  let gap := c.rest.takeWhile fun d => isBlank d || isBreak d
  let next := c.movedTo (c.rest.dropWhile fun d => isBlank d || isBreak d)
  if hasShallowTab floor none gap then none else some (gap, { next with fresh := gap.any isBreak })

/-- The further lines of a plain text, and the place of the token after it. Outside of brackets they
are not indented less than `floor`. -/
def plainLines? (bracketed : Bool) (floor : Nat) : Nat → Cursor → Option (List Char × Cursor)
  | 0, _ => none
  | fuel + 1, c => do
    let (gap, next) ← plainGap? floor c
    if !gap.any isBreak || next.atEnd || (!bracketed && next.column < floor) ||
        next.rest.head? == some '#' || endsPlain bracketed next.rest then
      return ([], next)
    else
      let (text, rest) := plainLine bracketed next.rest
      let (more, last) ← plainLines? bracketed floor fuel (next.movedTo rest)
      return (foldedBreaks (gap.filter isBreak) ++ text ++ more, last)

def hasStrayColon : List Char → Bool
  | ':' :: c :: rest => isBracketMark c || c == '?' || hasStrayColon (c :: rest)
  | _ :: rest => hasStrayColon rest
  | [] => false

/-- A plain text, and the place of the token after it. In brackets no colon in it stands before a
mark. -/
def readPlain? (bracketed : Bool) (floor : Nat) (c : Cursor) : Option (List Char × Cursor) := do
  let (text, rest) := plainLine bracketed c.rest
  let (more, last) ← plainLines? bracketed floor (c.rest.length + 1) (c.movedTo rest)
  if bracketed && hasStrayColon (c.readUntil last.rest ++ last.rest.take 1) then none
  else return (text ++ more, last)

/-- A character of a quoted text: as it stands there, escaped, or a line break that is taken
away. -/
inductive Quoted
  | bare (c : Char)
  | escaped (c : Char)
  | joint

/-- The text of quoted characters, with its line breaks folded; `gap` holds the blanks and breaks
that were just read, and `joined` tells whether they follow a break that is taken away. -/
def foldQuoted (joined : Bool) (gap : List Char) : List Quoted → List Char
  | [] => close
  | .bare c :: rest =>
    if isBlank c || isBreak c then foldQuoted joined (gap ++ [c]) rest
    else close ++ c :: foldQuoted false [] rest
  | .escaped c :: rest => close ++ c :: foldQuoted false [] rest
  | .joint :: rest => close ++ foldQuoted true [] rest
where
  close : List Char :=
    if joined then gap.filter isBreak
    else if gap.any isBreak then foldedBreaks (gap.filter isBreak)
    else gap

/-- The characters of a text between single quotes, and what follows it; a doubled quote stands for
itself. No line of it separates documents. -/
def readSingle? : List Char → Option (List Quoted × List Char)
  | [] => none
  | '\'' :: '\'' :: rest => (readSingle? rest).map fun r => (.escaped '\'' :: r.1, r.2)
  | '\'' :: rest => some ([], rest)
  | c :: rest =>
    if isBreak c && beginsMarker rest then none
    else (readSingle? rest).map fun r => (.bare c :: r.1, r.2)

def escape? : Char → Option Char
  | '0' => some '\x00'
  | 'a' => some '\x07'
  | 'b' => some '\x08'
  | 't' => some '\t'
  | '\t' => some '\t'
  | 'n' => some '\n'
  | 'v' => some '\x0b'
  | 'f' => some '\x0c'
  | 'r' => some '\r'
  | 'e' => some '\x1b'
  | ' ' => some ' '
  | '"' => some '"'
  | '/' => some '/'
  | '\\' => some '\\'
  | 'N' => some '\u0085'
  | '_' => some '\u00a0'
  | 'L' => some '\u2028'
  | 'P' => some '\u2029'
  | _ => none

def escapeDigits? : Char → Option Nat
  | 'x' => some 2
  | 'u' => some 4
  | 'U' => some 8
  | _ => none

def charOf? (n : Nat) : Option Char := if n.isValidChar then some (Char.ofNat n) else none

/-- The characters of a text between double quotes, and what follows it. A backslash at the end of a
line takes the break away. No line of it separates documents. -/
def readDouble? : Nat → List Char → Option (List Quoted × List Char)
  | 0, _ => none
  | _ + 1, [] => none
  | _ + 1, '"' :: rest => some ([], rest)
  | fuel + 1, '\\' :: c :: rest =>
    if isBreak c then
      if beginsMarker rest then none
      else (readDouble? fuel rest).map fun r => (.joint :: r.1, r.2)
    else match escapeDigits? c with
      | some count => do
        let digits := rest.take count
        if digits.length < count then none
        else
          let n ← digits.foldlM (fun n d => (Json.hexDigit? d).map (n * 16 + ·)) 0
          let char ← charOf? n
          let (text, rest) ← readDouble? fuel (rest.drop count)
          return (.escaped char :: text, rest)
      | none => do
        let char ← escape? c
        let (text, rest) ← readDouble? fuel rest
        return (.escaped char :: text, rest)
  | fuel + 1, c :: rest =>
    if c = '\\' || (isBreak c && beginsMarker rest) then none
    else (readDouble? fuel rest).map fun r => (.bare c :: r.1, r.2)

def readQuoted? (c : Cursor) : Option (List Char × Cursor) := do
  let (text, rest) ← match c.rest with
    | '\'' :: rest => readSingle? rest
    | '"' :: rest => readDouble? (rest.length + 1) rest
    | _ => none
  return (foldQuoted false [] text, c.movedTo rest)

/-- What the first line of a block of lines says: whether its breaks fold, which of the breaks at
its end count, and how far it is indented. -/
structure BlockHeader where
  folds : Bool
  keeps : Bool
  strips : Bool
  indent : Option Nat

def readBlockMarks? : BlockHeader → List Char → Option (BlockHeader × List Char)
  | h, [] => some (h, [])
  | h, c :: rest =>
    if c = '+' ∨ c = '-' then
      if h.keeps || h.strips then none
      else readBlockMarks? { h with keeps := c = '+', strips := c = '-' } rest
    else if '1' ≤ c ∧ c ≤ '9' then
      if h.indent.isSome then none
      else readBlockMarks? { h with indent := some (c.toNat - '0'.toNat) } rest
    else some (h, c :: rest)

def restOfLine? (cs : List Char) : Option (List Char) :=
  match cs.dropWhile isBlank with
  | [] => some []
  | c :: rest =>
    if isBreak c then some rest
    else if c = '#' then some ((rest.dropWhile (!isBreak ·)).drop 1)
    else none

structure BlockLine where
  text : List Char
  ending : List Char

def indentOf (line : List Char) : Nat := (line.takeWhile (· == ' ')).length

def blockLines (indent : Nat) : Nat → List Char → List BlockLine × List Char
  | 0, cs => ([], cs)
  | fuel + 1, cs =>
    let line := cs.takeWhile (!isBreak ·)
    let rest := cs.dropWhile (!isBreak ·)
    if cs.isEmpty || (indentOf line < indent && indentOf line < line.length) then ([], cs)
    else
      let (lines, last) := blockLines indent fuel (rest.drop 1)
      (⟨line.drop indent, rest.take 1⟩ :: lines, last)

/-- The column of the first token in lines, or the greater one up to which spaces stand in a line
before it; none if a tab comes first. -/
def firstIndent? : Nat → List Char → Option Nat
  | 0, _ => none
  | fuel + 1, cs =>
    let line := cs.takeWhile (!isBreak ·)
    let here := indentOf line
    if (line.drop here).head? = some '\t' then none
    else if here < line.length then some here
    else match cs.dropWhile (!isBreak ·) with
      | [] => some here
      | _ :: rest => (firstIndent? fuel rest).map (max here)

/-- What is known about the lines of a block before the next one: the text so far, whether its last
line began with a blank, the break after that line, and those of the empty lines after it. -/
structure BlockText where
  text : List Char
  blankFirst : Bool
  ending : List Char
  breaks : List Char

def BlockText.add (folds : Bool) (b : BlockText) (line : BlockLine) : BlockText :=
  match line.text with
  | [] => { b with breaks := b.breaks ++ line.ending }
  | c :: _ =>
    -- Between two lines that begin with no blank a single break folds.
    let joint :=
      if folds && b.ending == ['\n'] && !b.blankFirst && !isBlank c then
        if b.breaks.isEmpty then [' '] else []
      else b.ending
    ⟨b.text ++ joint ++ b.breaks ++ line.text, isBlank c, line.ending, []⟩

def blockText (h : BlockHeader) (lines : List BlockLine) : List Char :=
  let b := lines.foldl (BlockText.add h.folds) ⟨[], false, [], []⟩
  b.text ++ (if h.strips then [] else b.ending) ++ (if h.keeps then b.breaks else [])

def readBlockText? (floor : Nat) (c : Cursor) : Option (List Char × Cursor) := do
  let folds ← match c.rest with
    | '|' :: _ => some false
    | '>' :: _ => some true
    | _ => none
  let (h, rest) ← readBlockMarks? ⟨folds, false, false, none⟩ (c.rest.drop 1)
  let rest ← restOfLine? rest
  let indent ← match h.indent with
    | some more => some (floor - 1 + more)
    | none => (firstIndent? (rest.length + 1) rest).map fun n => max n (max floor 1)
  let (lines, last) := blockLines indent (rest.length + 1) rest
  return (blockText h lines, ⟨0, true, last⟩)

end BearerGate.Settings.Yaml
