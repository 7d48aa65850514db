import PageGrid.Xml.Address

/-!
# Node sets

A set of nodes is the list of their addresses in document order without repetition. `NodeSet.ofList`
brings any list into that form by ordered insertion; a list that is in the form already stays as it
is, which costs one comparison per node.
-/

namespace PageGrid.NodeSet

open Xml (Address)

/-- Inserts an address into a list in document order, unless it is there already. -/
def insert (a : Address) : List Address → List Address
  | [] => [a]
  | b :: bs =>
    if a.before b then a :: b :: bs
    else if a = b then b :: bs
    else b :: insert a bs

/-- The addresses of a list in document order without repetition. -/
def ofList (as : List Address) : List Address := as.foldr insert []

/-- The nodes of two lists in document order without repetition. -/
def union (as bs : List Address) : List Address := ofList (as ++ bs)

end PageGrid.NodeSet
