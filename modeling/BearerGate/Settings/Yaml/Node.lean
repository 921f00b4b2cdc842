import BearerGate.Settings.Yaml.Scalar

/-!
Nodes: what a YAML document says before its aliases are followed and its tags are heeded. An alias
stands for the last node before it that has its anchor; a node cannot hold an alias of itself.
-/

set_option autoImplicit false
set_option relaxedAutoImplicit false

namespace BearerGate.Settings.Yaml

/-- What the tag of a node says: a kind of the core schema, a meaning of its own that no setting
has, or nothing that is known. -/
inductive Tag
  | kind (name : String)
  | own
  | unknown

structure Properties where
  anchor : Option String
  tag : Option Tag

namespace Properties

def none : Properties := ⟨.none, .none⟩

def isNone (p : Properties) : Bool := p.anchor.isNone && p.tag.isNone

def isOwn (p : Properties) : Bool :=
  match p.tag with
  | some .own => true
  | _ => false

end Properties

inductive Node
  | alias (name : String)
  | scalar (properties : Properties) (plain : Bool) (text : List Char)
  | list (properties : Properties) (items : List Node)
  | table (properties : Properties) (entries : List (Node × Node))

/-- The nodes that have an anchor, by its name, the last one first. A node that is not yet complete
is not known. -/
abbrev Anchors := List (String × Option Node)

namespace Anchors

def opening (anchors : Anchors) (p : Properties) : Anchors :=
  match p.anchor with
  | some name => (name, none) :: anchors
  | none => anchors

/-- The anchors after a node was read. One of its parts may have taken its name. -/
def closing (anchors : Anchors) (p : Properties) (node : Node) : Anchors :=
  match p.anchor with
  | some name => match anchors.lookup name with
    | some none => (name, some node) :: anchors
    | _ => anchors
  | none => anchors

end Anchors

namespace Node

mutual

/-- A node without aliases, and the anchors after it. -/
def follow? : Node → Anchors → Option (Node × Anchors)
  | .alias name, anchors => (anchors.lookup name).join.map (·, anchors)
  | .scalar p plain text, anchors =>
    let node := .scalar p plain text
    some (node, (anchors.opening p).closing p node)
  | .list p items, anchors => do
    let (items, anchors) ← followItems? items (anchors.opening p)
    return (.list p items, anchors.closing p (.list p items))
  | .table p entries, anchors => do
    let (entries, anchors) ← followEntries? entries (anchors.opening p)
    return (.table p entries, anchors.closing p (.table p entries))

def followItems? : List Node → Anchors → Option (List Node × Anchors)
  | [], anchors => some ([], anchors)
  | item :: rest, anchors => do
    let (item, anchors) ← follow? item anchors
    let (rest, anchors) ← followItems? rest anchors
    return (item :: rest, anchors)

def followEntries? : List (Node × Node) → Anchors → Option (List (Node × Node) × Anchors)
  | [], anchors => some ([], anchors)
  | (key, value) :: rest, anchors => do
    let (key, anchors) ← follow? key anchors
    let (value, anchors) ← follow? value anchors
    let (rest, anchors) ← followEntries? rest anchors
    return ((key, value) :: rest, anchors)

end

/-- The text of a scalar that is the key of an entry; its tag does not count. -/
def keyText? : Node → Option String
  | .scalar _ _ text => some (String.ofList text)
  | _ => none

mutual

def toTree? : Node → Option Tree
  | .alias _ => none
  | .scalar p plain text => match p.tag with
    | none => some (if plain then ofPlain text else .text (String.ofList text))
    | some (.kind name) => ofKind? name text
    | some .own => none
    | some .unknown => some (.text (String.ofList text))
  | .list p items => if p.isOwn then none else (itemTrees? items).map .list
  | .table p entries => if p.isOwn then none else (entryTrees? entries).map Tree.ofEntries

def itemTrees? : List Node → Option (List Tree)
  | [] => some []
  | item :: rest => do return (← toTree? item) :: (← itemTrees? rest)

def entryTrees? : List (Node × Node) → Option (List (String × Tree))
  | [] => some []
  | (key, value) :: rest => do
    let name ← keyText? key
    let tree ← toTree? value
    return (name, tree) :: (← entryTrees? rest)

end

/-- The table of settings that a document stands for: no text at all is the empty one, and a tag
does not count. -/
def toTable? (node : Node) : Option Tree := do
  match (← node.follow? []).1 with
  | .table _ entries => (entryTrees? entries).map Tree.ofEntries
  | .scalar _ true [] => return .table []
  | _ => none

end Node

end BearerGate.Settings.Yaml
