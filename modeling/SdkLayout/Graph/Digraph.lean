import SdkLayout.Distinct

/-!
# Directed graphs and their components

A graph is a list of nodes with a list of edges. Two nodes belong to the same *component* if each
is reached from the other. A component is a *sink* if no edge leaves it.

Reachability is gathered from a start node: every step takes a node off the list of those not
visited yet, so the search ends without any bound of its own.
-/

namespace SdkLayout

/-- A directed graph. -/
structure Digraph (α : Type) where
  nodes : List α
  edges : List (α × α)

namespace Digraph

variable {α : Type} [DecidableEq α]

/-- The ends of the edges that start at a node. -/
def successors (g : Digraph α) (a : α) : List α :=
  (g.edges.filter fun e => decide (e.1 = a)).map Prod.snd

/-- The nodes of `unvisited` that are reached from the pending ones through unvisited nodes. -/
def gather (next : α → List α) (unvisited pending : List α) : List α :=
  match pending with
  | [] => []
  | a :: rest =>
    if _new : a ∈ unvisited then a :: gather next (unvisited.erase a) (next a ++ rest)
    else gather next unvisited rest
termination_by (unvisited.length, pending.length)
decreasing_by
  -- A new node is visited once and for all; an old one is only dropped from the pending ones.
  · have hl := List.length_erase_of_mem _new
    have hp := List.length_pos_of_mem _new
    exact Prod.Lex.left _ _ (by omega)
  · exact Prod.Lex.right _ (by simp)

/-- The nodes reached from a node, itself included. -/
def reached (g : Digraph α) (a : α) : List α :=
  gather g.successors g.nodes [a]

/-- Every node with the nodes reached from it. -/
def reachedTable (g : Digraph α) : List (α × List α) :=
  g.nodes.map fun a => (a, g.reached a)

/-- The nodes that reach the node of a row and are reached from it. -/
def componentOfRow (table : List (α × List α)) (row : α × List α) : List α :=
  (table.filter fun other => row.2.contains other.1 && other.2.contains row.1).map Prod.fst

/-- The strongly connected components, each in the order of the nodes and ordered by its first
node. -/
def components (g : Digraph α) : List (List α) :=
  let table := g.reachedTable
  distinct (table.map (componentOfRow table))

/-- Whether every edge that starts in a set of nodes also ends in it. -/
def isSink (g : Digraph α) (component : List α) : Bool :=
  g.edges.all fun e => !component.contains e.1 || component.contains e.2

/-- The components that no edge leaves. -/
def sinks (g : Digraph α) : List (List α) :=
  g.components.filter g.isSink

end Digraph

end SdkLayout
