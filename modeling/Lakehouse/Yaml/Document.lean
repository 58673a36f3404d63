import Lakehouse.Yaml.Anchors

/-!
# YAML documents

The value of a YAML text. A text is refused when it is no YAML, when it holds a second document, when a
map has equal keys, when a scalar does not fit its tag, or when it unfolds too far: collections may be
nested up to a limit, counted through aliases, and aliases may be followed a limited number of times for
each event of the document.

- `YamlValue.read?`: the value of a text.
-/

namespace Lakehouse

namespace Yaml

/-- How deep collections may be nested. -/
def nestingLimit : Nat := 128

/-- How often aliases may be followed, for each event of the document. -/
def followLimit : Nat := 100

/-- The number of aliases followed so far is the state of unfolding. -/
abbrev Unfolding := StateT Nat Option

namespace Linked

/-- The node that an alias stands for; any other node stands for itself. -/
def follow (l : Linked) (node : Node Nat) : Unfolding (Node Nat) := do
  match node with
  | .alias n =>
    let followed ← get
    if followLimit * l.events ≤ followed then failure
    else
      set (followed + 1)
      match l.target? n with
      | some node => return node
      | none => failure
  | _ => return node

/-- A value under what its tag asks for. -/
def underTag (tag : Option Tag) (v : YamlValue) : YamlValue :=
  match tag with
  | some (.named name) => .tagged name v
  | _ => v

/-- A scalar with its tag, if it has one. -/
def scalarValue? (tag : Option Tag) (plain : Bool) (text : String) : Option YamlValue :=
  match tag with
  | some t => t.scalar? plain text
  | none => untaggedScalar? plain text

/-- The value of a node, within which collections may still be nested so deep. -/
def valueOf (l : Linked) (depth : Nat) (node : Node Nat) : Unfolding YamlValue := do
  match ← l.follow node with
  | .alias _ => failure
  | .scalar p plain text =>
    match scalarValue? p.tag plain text with
    | some v => return v
    | none => failure
  | .sequence p items =>
    match depth with
    | 0 => failure
    | depth + 1 =>
      let values ← items.mapM (l.valueOf depth)
      return underTag p.tag (.list values)
  | .mapping p entries =>
    match depth with
    | 0 => failure
    | depth + 1 =>
      let add (read : List (YamlValue × YamlValue)) (entry : Node Nat × Node Nat) :
          Unfolding (List (YamlValue × YamlValue)) := do
        let key ← l.valueOf depth entry.1
        if YamlValue.hasKey read key then failure
        else return (key, ← l.valueOf depth entry.2) :: read
      let values ← entries.foldlM add []
      return underTag p.tag (.map values.reverse)

end Linked

end Yaml

/-- The value of a YAML text; a text without a document is null. -/
def YamlValue.read? (s : String) : Option YamlValue :=
  match ((Yaml.tokens? s).bind Yaml.Node.ofTokens?).bind Yaml.Node.link? with
  | some l => ((l.valueOf Yaml.nestingLimit l.root).run 0).map (·.1)
  | none => none

end Lakehouse
