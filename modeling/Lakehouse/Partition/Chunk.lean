import Lakehouse.Failure
import Lakehouse.Text.Token

/-!
# Partition predicates and chunks

An external catalog is told which partitions to act on by an expression of limited length. A long list
of predicates is cut into chunks, each of which makes one expression.

- `partitionPredicate`: the predicate that selects one partition.
- `PredicateChunk.pack`: the chunks of a list of predicates, each filled as far as the limit allows.
- `applyChunks`: acting on one chunk after another, up to the first that fails. What is left can be
  tried again.
-/

namespace Lakehouse

/-- A literal between single quotes: a quote inside it is written twice. -/
def sqlLiteral (value : String) : String :=
  "'" ++ Text.replaceChar value (Char.ofNat 39) "''" ++ "'"

/-- The predicate that selects one partition by the values of its columns. -/
def partitionPredicate (values : List (String × String)) : String :=
  "(" ++ Text.joinWith " AND " (values.map fun v => v.1 ++ "=" ++ sqlLiteral v.2) ++ ")"

/-- What stands between the predicates of an expression. -/
def predicateSeparator : String := " OR "

/-- The longest expression that the partition interface of an external catalog accepts. -/
def longestExpression : Nat := 2048

/-- The predicates of one call. -/
structure PredicateChunk where
  predicates : List String
  deriving DecidableEq, Repr

namespace PredicateChunk

/-- The predicates as one expression. -/
def expression (c : PredicateChunk) : String :=
  Text.joinWith predicateSeparator c.predicates

/-- The length of the expression in characters. -/
def length (c : PredicateChunk) : Nat :=
  c.expression.length

/-- There is nothing to act on. -/
def isEmpty (c : PredicateChunk) : Bool :=
  c.predicates.isEmpty

/-- A predicate that no chunk can hold. -/
def oversized (limit index : Nat) (predicate : String) : Failure :=
  { kind := .chunking
    message := s!"predicate {index} is {predicate.length} characters, longer than the {limit} " ++
      s!"character limit: {predicate}" }

/-- The first predicate longer than a limit, with its index. -/
def firstOversized? (limit : Nat) (index : Nat) : List String → Option (Nat × String)
  | [] => none
  | p :: rest => if limit < p.length then some (index, p) else firstOversized? limit (index + 1) rest

/-- Packs predicates behind an open chunk, whose predicates are given last first and whose expression
has `length` characters. A chunk is closed when the next predicate would make it too long. -/
def packFrom (limit : Nat) (opened : List String) (length : Nat) : List String → List PredicateChunk
  | [] => [⟨opened.reverse⟩]
  | p :: rest =>
    let longer := length + predicateSeparator.length + p.length
    if limit < longer then ⟨opened.reverse⟩ :: packFrom limit [p] p.length rest
    else packFrom limit (p :: opened) longer rest

/-- The chunks of a list of predicates, in order. -/
def pack (limit : Nat) (predicates : List String) : Answer (List PredicateChunk) :=
  match firstOversized? limit 0 predicates with
  | some (index, p) => .error (oversized limit index p)
  | none =>
    match predicates with
    | [] => .ok []
    | p :: rest => .ok (packFrom limit [p] p.length rest)

end PredicateChunk

/-- A run over chunks that stopped at one that failed. -/
structure PartialRun where
  /-- How many chunks were acted on. -/
  completed : Nat
  /-- The chunk that failed and those after it. -/
  remaining : List PredicateChunk
  failure : Failure

/-- Acts on chunks in order, up to the first that fails, with `completed` chunks done before. The
action may depend on a state `σ` that it changes. The answer is the number of chunks acted on. -/
def applyFrom {σ : Type} (act : PredicateChunk → σ → Answer Unit × σ) (completed : Nat) :
    List PredicateChunk → σ → Except PartialRun Nat × σ
  | [], s => (.ok completed, s)
  | c :: rest, s =>
    match act c s with
    | (.ok (), s) => applyFrom act (completed + 1) rest s
    | (.error failure, s) => (.error ⟨completed, c :: rest, failure⟩, s)

/-- Acts on chunks in order, up to the first that fails. -/
def applyChunks {σ : Type} (act : PredicateChunk → σ → Answer Unit × σ)
    (chunks : List PredicateChunk) (s : σ) : Except PartialRun Nat × σ :=
  applyFrom act 0 chunks s

end Lakehouse
