import Lakehouse.Yaml.Node

/-!
# Anchors

An alias stands for the node whose anchor it names. Anchors are numbered in the order of the text, by
how many different names are known by then; an alias takes the number that its name has at that place.
A name that is given again takes a new number, which the next new name then takes over from it, so that
a number means the last node that took it.

- `Yaml.Linked`: a node whose aliases refer to numbers, with the nodes that have numbers.
- `Yaml.Node.link?`: the aliases of a node resolved.
-/

namespace Lakehouse

namespace Yaml

/-- The numbers of the names known so far, each name once. -/
abbrev KnownNames := List (String × Nat)

/-- A name given to a node: it takes the next number. -/
def KnownNames.give (names : KnownNames) (name : String) : KnownNames :=
  (name, names.length) :: names.filter fun e => e.1 != name

/-- Nodes with their numbers, in the order of the text. -/
abbrev Numbered := List (Nat × Node Nat)

/-- The names known after a node with properties begins, and the node's number, if it has one. -/
def Properties.introduce (p : Properties) (names : KnownNames) : KnownNames × Option Nat :=
  match p.anchor with
  | some name => (names.give name, some names.length)
  | none => (names, none)

/-- A node in front of those inside it, under its number. -/
def numbered (number : Option Nat) (node : Node Nat) (inside : Numbered) : Numbered :=
  match number with
  | some n => (n, node) :: inside
  | none => inside

namespace Node

mutual

/-- Aliases resolved, with the names known before the node: the node, the names known after it, and the
nodes with numbers in it. An unknown name is refused. -/
def linkFrom? (names : KnownNames) : Node String → Option (Node Nat × KnownNames × Numbered)
  | .alias name => (names.lookup name).map fun n => (.alias n, names, [])
  | .scalar p plain text =>
    let (names, number) := p.introduce names
    let node := .scalar p plain text
    some (node, names, numbered number node [])
  | .sequence p items =>
    let (names, number) := p.introduce names
    match linkItems? names items with
    | some (items, names, inside) =>
      let node := .sequence p items
      some (node, names, numbered number node inside)
    | none => none
  | .mapping p entries =>
    let (names, number) := p.introduce names
    match linkEntries? names entries with
    | some (entries, names, inside) =>
      let node := .mapping p entries
      some (node, names, numbered number node inside)
    | none => none

/-- Items in order. -/
def linkItems? (names : KnownNames) :
    List (Node String) → Option (List (Node Nat) × KnownNames × Numbered)
  | [] => some ([], names, [])
  | node :: rest =>
    match linkFrom? names node with
    | none => none
    | some (node, names, inside) =>
      match linkItems? names rest with
      | some (rest, names, more) => some (node :: rest, names, inside ++ more)
      | none => none

/-- Entries in order, the key of each before its value. -/
def linkEntries? (names : KnownNames) :
    List (Node String × Node String) → Option (List (Node Nat × Node Nat) × KnownNames × Numbered)
  | [] => some ([], names, [])
  | (key, value) :: rest =>
    match linkFrom? names key with
    | none => none
    | some (key, names, inKey) =>
      match linkFrom? names value with
      | none => none
      | some (value, names, inValue) =>
        match linkEntries? names rest with
        | some (rest, names, more) => some ((key, value) :: rest, names, inKey ++ inValue ++ more)
        | none => none

end

mutual

/-- How many events a node takes to be told: one for a scalar or an alias, and for a collection one at
each end. -/
def eventCount {ρ : Type} : Node ρ → Nat
  | .alias _ => 1
  | .scalar .. => 1
  | .sequence _ items => 2 + itemsEventCount items
  | .mapping _ entries => 2 + entriesEventCount entries

/-- The events of items. -/
def itemsEventCount {ρ : Type} : List (Node ρ) → Nat
  | [] => 0
  | node :: rest => node.eventCount + itemsEventCount rest

/-- The events of entries. -/
def entriesEventCount {ρ : Type} : List (Node ρ × Node ρ) → Nat
  | [] => 0
  | (key, value) :: rest => key.eventCount + value.eventCount + entriesEventCount rest

end

end Node

/-- A node whose aliases refer to numbers. -/
structure Linked where
  root : Node Nat
  /-- How many events the node takes to be told. -/
  events : Nat
  targets : Numbered

/-- The last node that took a number. -/
def Linked.target? (l : Linked) (n : Nat) : Option (Node Nat) :=
  l.targets.reverse.lookup n

/-- The aliases of a node resolved. -/
def Node.link? (node : Node String) : Option Linked :=
  (node.linkFrom? []).map fun r => ⟨r.1, node.eventCount, r.2.2⟩

end Yaml

end Lakehouse
