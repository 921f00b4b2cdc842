import BearerGate.Settings.Yaml.Node
import BearerGate.Settings.Yaml.Text

/-!
YAML documents: lists and tables by indentation or in brackets. A key is one node on one line, or
stands after a question mark, and a text holds one document at most. Main statement: the table of
settings that a text stands for. Handles for tags cannot be declared.
-/

set_option autoImplicit false
set_option relaxedAutoImplicit false

namespace BearerGate.Settings.Yaml

def isNameChar (c : Char) : Bool := c.isAlphanum || c == '_' || c == '-'

def isTagChar (c : Char) : Bool := isNameChar c || ";/?:@&=+$.!~*'()%".toList.contains c

def isFullTagChar (c : Char) : Bool := isTagChar c || c == ',' || c == '[' || c == ']'

def readName? (cs : List Char) : Option (String × List Char) :=
  let name := cs.takeWhile isNameChar
  let rest := cs.dropWhile isNameChar
  let ends := atGap rest || rest.head?.any "?:,]\x7d%@`".toList.contains
  if name.isEmpty || !ends then none else some (String.ofList name, rest)

def readTag? : List Char → Option (Tag × List Char)
  | '<' :: cs =>
    let text := cs.takeWhile isFullTagChar
    match text, cs.dropWhile isFullTagChar with
    | [], _ => none
    | '!' :: _, '>' :: rest => some (.own, rest)
    | _ :: _, '>' :: rest => some (.unknown, rest)
    | _, _ => none
  | '!' :: cs =>
    let name := cs.takeWhile isTagChar
    if name.isEmpty then none else some (.kind (String.ofList name), cs.dropWhile isTagChar)
  | cs =>
    if (cs.dropWhile isNameChar).head? = some '!' then none
    else some (.own, cs.dropWhile isTagChar)

/-- The properties of a node after one more of them was read, and the place after it. -/
def readProperty? (bracketed : Bool) (p : Properties) (c : Cursor) :
    Option (Properties × Cursor) :=
  match c.rest with
  | '&' :: cs => do
    let (name, rest) ← readName? cs
    if p.anchor.isSome then none else return ({ p with anchor := some name }, c.movedTo rest)
  | '!' :: cs => do
    let (tag, rest) ← readTag? cs
    let ends := atGap rest || (bracketed && rest.head? == some ',')
    if p.tag.isSome || !ends then none else return ({ p with tag := some tag }, c.movedTo rest)
  | _ => none

def readAlias? (c : Cursor) : Option (Node × Cursor) :=
  match c.rest with
  | '*' :: cs => (readName? cs).map fun r => (.alias r.1, c.movedTo r.2)
  | _ => none

def readScalar? (bracketed : Bool) (floor : Nat) (p : Properties) (c : Cursor) :
    Option (Node × Cursor) := do
  if c.rest.head? = some '"' ∨ c.rest.head? = some '\'' then
    let (text, last) ← readQuoted? c
    return (.scalar p false text, last)
  else if startsPlain bracketed c.rest then
    let (text, last) ← readPlain? bracketed floor c
    return (.scalar p true text, last)
  else none

def Node.absent (p : Properties) : Node := .scalar p true []

/-- Whether a text can be a key or before the colon of one: it is of one line and not too long. -/
def fitsKey (cs : List Char) : Bool := !cs.any isBreak && cs.length ≤ 1024

def endsBracketed (c : Cursor) : Bool :=
  c.rest.head?.any fun d => d == ',' || d == ']' || d == '}' || d == ':'

mutual

def readBracketed : Nat → Nat → Properties → Cursor → Option (Node × Cursor)
  | 0, _, _, _ => none
  | fuel + 1, floor, p, c => do
    if c.atMarker then none
    else if !p.isNone && endsBracketed c then return (.absent p, c)
    else match c.rest.head? with
      | some '[' =>
        let (items, last) ← readItems fuel floor (c.next.seek true)
        return (.list p items, last)
      | some '{' =>
        let (entries, last) ← readEntries fuel floor (c.next.seek true)
        return (.table p entries, last)
      | some '*' =>
        let (node, last) ← readAlias? c
        if p.isNone then return (node, last) else none
      | some '&' | some '!' =>
        let (p, last) ← readProperty? true p c
        readBracketed fuel floor p (last.seek true)
      | _ => readScalar? true floor p c

def readBracketedValue : Nat → Nat → Cursor → Option (Node × Cursor)
  | 0, _, _ => none
  | fuel + 1, floor, c =>
    if c.rest.head? = some ':' then none
    else if endsBracketed c then some (.absent .none, c)
    else readBracketed fuel floor .none c

/-- A node in brackets, the value after it if it is a key, and the token after them. What stands
after a question mark is a key of any length. -/
def readPair : Nat → Nat → Cursor → Option (Node × Option Node × Cursor)
  | 0, _, _ => none
  | fuel + 1, floor, c => do
    let marked := c.rest.head? == some '?'
    let start := if marked then c.next.seek true else c
    let (node, last) ←
      if marked && endsBracketed start then some (.absent .none, start)
      else readBracketed fuel floor .none start
    let next := last.seek true
    if next.rest.head? = some ':' then
      if marked || fitsKey (c.readUntil next.rest) then
        let (value, last) ← readBracketedValue fuel floor (next.next.seek true)
        return (node, some value, last.seek true)
      else none
    else return (node, if marked then some (.absent .none) else none, next)

/-- The items of a list in brackets, from one of them or the closing bracket on, and the place after
that. An item may be a table of one entry without brackets. -/
def readItems : Nat → Nat → Cursor → Option (List Node × Cursor)
  | 0, _, _ => none
  | fuel + 1, floor, c =>
    if c.rest.head? = some ']' then some ([], c.next)
    else do
      let (node, value?, last) ← readPair fuel floor c
      let item := match value? with
        | some value => .table .none [(node, value)]
        | none => node
      match last.rest.head? with
      | some ',' =>
        let (items, last) ← readItems fuel floor (last.next.seek true)
        return (item :: items, last)
      | some ']' => return ([item], last.next)
      | _ => none

/-- The entries of a table in brackets, from one of them or the closing brace on, and the place
after that. A key may stand alone. -/
def readEntries : Nat → Nat → Cursor → Option (List (Node × Node) × Cursor)
  | 0, _, _ => none
  | fuel + 1, floor, c =>
    if c.rest.head? = some '}' then some ([], c.next)
    else do
      let (key, value?, last) ← readPair fuel floor c
      let entry := (key, value?.getD (.absent .none))
      match last.rest.head? with
      | some ',' =>
        let (entries, last) ← readEntries fuel floor (last.next.seek true)
        return (entry :: entries, last)
      | some '}' => return ([entry], last.next)
      | _ => none

end

/-- The properties at a place, at most `count` of them, and the next place on the line. -/
def readProperties : Nat → Properties → Cursor → Properties × Cursor
  | 0, p, c => (p, c)
  | count + 1, p, c => match readProperty? false p c with
    | some (p, last) => readProperties count p (last.movedTo (last.rest.dropWhile isBlank))
    | none => (p, c)

def readKey? (c : Cursor) : Option (Node × Cursor) := do
  let (p, start) := readProperties 2 .none c
  let (key, rest) ←
    match start.rest.head? with
    | some '*' => if p.isNone then (readAlias? start).map fun r => (r.1, r.2.rest) else none
    | some '"' | some '\'' => (readQuoted? start).map fun r => (.scalar p false r.1, r.2.rest)
    | _ =>
      if startsPlain false start.rest then
        let (text, rest) := plainLine false start.rest
        some (.scalar p true text, rest)
      else none
  let last := c.movedTo (rest.dropWhile isBlank)
  if last.atLone ':' && fitsKey (c.readUntil last.rest) then return (key, last.next) else none

def Cursor.atDash (c : Cursor) : Bool := c.atLone '-'

mutual

/-- A node with the properties before it, and the token after it. It begins at no column less than
`floor`, or `dashFloor` if it is a list by indentation; otherwise there is none. -/
def readNode : Nat → Properties → (floor dashFloor : Nat) → Cursor → Option (Node × Cursor)
  | 0, _, _, _, _ => none
  | fuel + 1, p, floor, dashFloor, c => do
    if c.atEnd || c.column < (if c.atDash then dashFloor else floor) then return (.absent p, c)
    else if c.atDash then
      let (items, last) ← readDashes fuel c.column c
      if c.fresh then return (.list p items, last) else none
    else if c.atLone '?' || (readKey? c).isSome then
      let (entries, last) ← readKeys fuel c.column c
      if c.fresh then return (.table p entries, last) else none
    else match c.rest.head? with
      | some '&' | some '!' =>
        let (p, last) ← readProperty? false p c
        readNode fuel p floor dashFloor (last.seek false)
      | some '*' =>
        let (node, last) ← readAlias? c
        if p.isNone then return (node, last.seek false) else none
      | some '|' | some '>' =>
        let (text, last) ← readBlockText? floor c
        return (.scalar p false text, last.seek false)
      | some '[' | some '{' =>
        let (node, last) ← readBracketed fuel floor p c
        return (node, last.seek false)
      | _ =>
        let (node, last) ← readScalar? false floor p c
        return (node, last.seek false)

def readDashes : Nat → Nat → Cursor → Option (List Node × Cursor)
  | 0, _, _ => none
  | fuel + 1, column, c => do
    let (item, next) ← readNode fuel .none (column + 1) (column + 1) (c.afterMark.seek false)
    if next.fresh && next.column = column && next.atDash && !next.atEnd then
      let (items, last) ← readDashes fuel column next
      return (item :: items, last)
    else return ([item], next)

/-- An entry at a column, and the token after it. A list that is its value may stand at the column
of the key. -/
def readEntry : Nat → Nat → Cursor → Option ((Node × Node) × Cursor)
  | 0, _, _ => none
  | fuel + 1, column, c => do
    if c.atLone '?' then
      let (key, next) ← readNode fuel .none (column + 1) column (c.afterMark.seek false)
      if next.fresh && next.column = column && next.atLone ':' then
        let (value, last) ← readNode fuel .none (column + 1) column (next.afterMark.seek false)
        return ((key, value), last)
      else return ((key, .absent .none), next)
    else
      let (key, after) ← readKey? c
      let (value, last) ← readNode fuel .none (column + 1) column (after.seek false)
      return ((key, value), last)

def readKeys : Nat → Nat → Cursor → Option (List (Node × Node) × Cursor)
  | 0, _, _ => none
  | fuel + 1, column, c => do
    let (entry, next) ← readEntry fuel column c
    if next.atEnd || next.column < column then return ([entry], next)
    else if next.fresh && next.column = column then
      let (entries, last) ← readKeys fuel column next
      return (entry :: entries, last)
    else none

end

def readDigits? (cs : List Char) : Option (List Char × List Char) :=
  let digits := cs.takeWhile Char.isDigit
  if digits.isEmpty || 9 < digits.length then none
  else some (digits.dropWhile (· == '0'), cs.dropWhile Char.isDigit)

/-- What follows a line that names the version of the format, 1.1 or 1.2. -/
def restOfVersion? : List Char → Option (List Char)
  | '%' :: 'Y' :: 'A' :: 'M' :: 'L' :: cs => do
    if !cs.head?.any isBlank then none
    else
      let (major, rest) ← readDigits? (cs.dropWhile isBlank)
      match rest with
      | '.' :: rest =>
        let (minor, rest) ← readDigits? rest
        if major = ['1'] ∧ (minor = ['1'] ∨ minor = ['2']) then restOfLine? rest else none
      | _ => none
  | _ => none

def readOpened (fuel : Nat) (c : Cursor) : Option (Node × Cursor) :=
  match c.atMarker, c.rest with
  | true, '-' :: '-' :: '-' :: rest => readNode fuel .none 0 0 ((c.movedTo rest).seek false)
  | _, _ => none

/-- The node of the first document, and what is left. A document that names its version is opened
by a line. -/
def readDocument (fuel : Nat) (c : Cursor) : Option (Node × Cursor) :=
  if c.column = 0 ∧ c.rest.head? = some '%' then
    match restOfVersion? c.rest with
    | some rest => readOpened fuel (Cursor.seek false ⟨0, true, rest⟩)
    | none => none
  else if c.atMarker then readOpened fuel c
  else readNode fuel .none 0 0 c

def isFinished : Nat → Cursor → Bool
  | 0, _ => false
  | fuel + 1, c =>
    match c.rest with
    | [] => true
    | '.' :: rest =>
      c.atMarker && isFinished fuel (Cursor.seek false ⟨3, false, rest.drop 2⟩)
    | _ => false

def isPrintable (c : Char) : Bool :=
  c == '\t' || c == '\n' || c == '\r' || (' ' ≤ c && c ≤ '~') || c == '\u0085' ||
    ('\u00a0' ≤ c && c != '\ufffe' && c != '\uffff')

/-- A text with a line feed for every line break that is kept as none of its own, and without the
mark of the byte order. -/
def withLineFeeds : List Char → List Char
  | '\ufeff' :: rest => breaks rest
  | cs => breaks cs
where
  breaks : List Char → List Char
    | '\r' :: '\n' :: rest => '\n' :: breaks rest
    | '\r' :: rest => '\n' :: breaks rest
    | '\u0085' :: rest => '\n' :: breaks rest
    | c :: rest => c :: breaks rest
    | [] => []

def parse? (text : String) : Option Tree := do
  let cs := withLineFeeds text.toList
  if !cs.all isPrintable then none
  else
    let (node, last) ← readDocument (4 * cs.length + 4) (Cursor.seek false ⟨0, true, cs⟩)
    if isFinished (cs.length + 1) last then node.toTable? else none

end BearerGate.Settings.Yaml
