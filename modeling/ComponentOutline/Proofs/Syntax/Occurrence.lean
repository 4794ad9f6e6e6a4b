import ComponentOutline.Syntax.Node

/-!
# Places in a tree

A place is a node of a tree together with the nodes around it.  The places of a tree
that named children lead to are listed in pre-order, and those with no barrier around
them are the places that a walk reaches which does not go into barriers.  The same
places are found by not going into barriers in the first place.
-/

namespace ComponentOutline

/-- A node together with the nodes around it, the nearest first. -/
structure Occurrence where
  ancestors : List Node
  node : Node

/-- Whether no barrier is around a place. -/
def Occurrence.isFree (barrier : Node → Bool) (place : Occurrence) : Bool :=
  !place.ancestors.any barrier

namespace Node

mutual

/-- The places of a tree inside of given nodes, each before the places inside of it. -/
def occurrences (around : List Node) : Node → List Occurrence
  | .mk label children =>
      ⟨around, .mk label children⟩ ::
        occurrencesIn (.mk label children :: around) children

/-- The places of the named trees of a forest inside of given nodes. -/
def occurrencesIn (around : List Node) : List Node → List Occurrence
  | [] => []
  | node :: rest =>
      (if node.named then occurrences around node else []) ++ occurrencesIn around rest

end

/-- The places of a tree with no barrier around them, in pre-order. -/
def reached (barrier : Node → Bool) (root : Node) : List Occurrence :=
  (occurrences [] root).filter (Occurrence.isFree barrier)

/-- The places strictly inside of a node with no barrier between it and them, in
pre-order. -/
def reachedBelow (barrier : Node → Bool) (node : Node) : List Occurrence :=
  (occurrencesIn [] node.children).filter (Occurrence.isFree barrier)

mutual

/-- The places of a tree that are found by not going into barriers. -/
def exposed (barrier : Node → Bool) (around : List Node) : Node → List Occurrence
  | .mk label children =>
      ⟨around, .mk label children⟩ ::
        if barrier (.mk label children) then []
        else exposedIn barrier (.mk label children :: around) children

/-- The places of a forest that are found by not going into barriers. -/
def exposedIn (barrier : Node → Bool) (around : List Node) : List Node → List Occurrence
  | [] => []
  | node :: rest =>
      (if node.named then exposed barrier around node else []) ++
        exposedIn barrier around rest

end

/-- What is at a barrier is reached, and nothing behind it. -/
theorem exposed_of_barrier
    {barrier : Node → Bool}
    {node : Node}
    (barred : barrier node = true)
    (around : List Node) :
    exposed barrier around node = [⟨around, node⟩] := by
  cases node with
  | mk label children => simp [exposed, barred]

theorem exposed_of_open
    {barrier : Node → Bool}
    {node : Node}
    (unbarred : barrier node = false)
    (around : List Node) :
    exposed barrier around node =
      ⟨around, node⟩ :: exposedIn barrier (node :: around) node.children := by
  cases node with
  | mk label children => simp [exposed, unbarred]

mutual

/-- Inside of a barrier no place is free. -/
theorem filter_occurrences_of_barred
    {barrier : Node → Bool}
    {around : List Node}
    (barred : around.any barrier = true) :
    (node : Node) →
      (occurrences around node).filter (Occurrence.isFree barrier) = []
  | .mk label children => by
      have inside : (Node.mk label children :: around).any barrier = true := by
        simp [barred]
      have others := filter_occurrencesIn_of_barred inside children
      rw [occurrences, List.filter_cons, others]
      simp [Occurrence.isFree, barred]

/-- Behind a barrier no place is free. -/
theorem filter_occurrencesIn_of_barred
    {barrier : Node → Bool}
    {around : List Node}
    (barred : around.any barrier = true) :
    (nodes : List Node) →
      (occurrencesIn around nodes).filter (Occurrence.isFree barrier) = []
  | [] => rfl
  | node :: rest => by
      have first := filter_occurrences_of_barred barred node
      have others := filter_occurrencesIn_of_barred barred rest
      rw [occurrencesIn, List.filter_append, others]
      split
      · rw [first, List.append_nil]
      · rfl

end

mutual

/-- Outside of barriers the free places are those found by not going into barriers. -/
theorem filter_occurrences_of_free
    {barrier : Node → Bool}
    {around : List Node}
    (free : around.any barrier = false) :
    (node : Node) →
      (occurrences around node).filter (Occurrence.isFree barrier) =
        exposed barrier around node
  | .mk label children => by
      have here : Occurrence.isFree barrier ⟨around, .mk label children⟩ = true := by
        simp [Occurrence.isFree, free]
      rw [occurrences, exposed, List.filter_cons_of_pos here]
      congr 1
      split
      · next barred =>
          apply filter_occurrencesIn_of_barred
          simp [barred]
      · next unbarred =>
          have inside : (Node.mk label children :: around).any barrier = false := by
            simp only [List.any_cons, free, Bool.or_false]
            simpa using unbarred
          exact filter_occurrencesIn_of_free inside children

/-- In front of any barrier, the free places are those that are exposed. -/
theorem filter_occurrencesIn_of_free
    {barrier : Node → Bool}
    {around : List Node}
    (free : around.any barrier = false) :
    (nodes : List Node) →
      (occurrencesIn around nodes).filter (Occurrence.isFree barrier) =
        exposedIn barrier around nodes
  | [] => rfl
  | node :: rest => by
      have first := filter_occurrences_of_free free node
      have others := filter_occurrencesIn_of_free free rest
      rw [occurrencesIn, exposedIn, List.filter_append, others]
      split
      · rw [first]
      · rfl

end

/-- The reached places are found by not going into barriers. -/
theorem reached_eq_exposed (barrier : Node → Bool) (root : Node) :
    root.reached barrier = exposed barrier [] root :=
  filter_occurrences_of_free rfl root

theorem reachedBelow_eq_exposedIn (barrier : Node → Bool) (node : Node) :
    node.reachedBelow barrier = exposedIn barrier [] node.children :=
  filter_occurrencesIn_of_free rfl node.children

theorem mem_exposedIn
    {barrier : Node → Bool}
    {node : Node}
    {nodes : List Node}
    (isMember : node ∈ nodes)
    (named : node.named = true)
    (around : List Node) :
    ⟨around, node⟩ ∈ exposedIn barrier around nodes := by
  induction nodes with
  | nil => cases isMember
  | cons first rest inductionHypothesis =>
      rw [exposedIn, List.mem_append]
      obtain rfl | isLater := List.mem_cons.mp isMember
      · rw [if_pos named]
        cases node with
        | mk label children => exact .inl List.mem_cons_self
      · exact .inr (inductionHypothesis isLater)

/-- The named children of a node that is no barrier are reached. -/
theorem mem_reached_of_mem_namedChildren
    {barrier : Node → Bool}
    {root child : Node}
    (unbarred : barrier root = false)
    (isChild : child ∈ root.namedChildren) :
    ⟨[root], child⟩ ∈ root.reached barrier := by
  obtain ⟨isAny, named⟩ := List.mem_filter.mp isChild
  rw [reached_eq_exposed, exposed_of_open unbarred]
  exact List.mem_cons_of_mem _ (mem_exposedIn isAny named [root])

mutual

/-- The places that are found by not going into barriers are in pre-order. -/
theorem exposed_sublist (barrier : Node → Bool) (around : List Node) :
    (node : Node) →
      ((exposed barrier around node).map Occurrence.node).Sublist node.preorder
  | .mk label children => by
      rw [exposed, preorder, List.map_cons]
      apply List.Sublist.cons_cons
      split
      · exact List.nil_sublist _
      · exact exposedIn_sublist barrier _ children

/-- Places are reached in the order of the tree. -/
theorem exposedIn_sublist (barrier : Node → Bool) (around : List Node) :
    (nodes : List Node) →
      ((exposedIn barrier around nodes).map Occurrence.node).Sublist (preorderAll nodes)
  | [] => List.Sublist.slnil
  | node :: rest => by
      rw [exposedIn, preorderAll, List.map_append]
      apply List.Sublist.append
      · split
        · exact exposed_sublist barrier around node
        · exact List.nil_sublist _
      · exact exposedIn_sublist barrier around rest

end

theorem reached_sublist (barrier : Node → Bool) (root : Node) :
    ((root.reached barrier).map Occurrence.node).Sublist root.preorder := by
  rw [reached_eq_exposed]
  exact exposed_sublist barrier [] root

/-- A named node with a text, for small trees that are written out. -/
def ofText (kind : String) (field : Option String) (text : String) (children : List Node) :
    Node :=
  .mk
    { index := 0
      kind := kind
      named := true
      field := field
      missing := false
      row := 0
      column := 0
      bytes := text.toUTF8.data.toList }
    children

/-- A node in the first line of a source, from a column on. -/
def inLine
    (column : Nat)
    (named : Bool)
    (kind : String)
    (field : Option String)
    (text : String)
    (children : List Node) :
    Node :=
  .mk
    { index := 0
      kind := kind
      named := named
      field := field
      missing := false
      row := 0
      column := column
      bytes := text.toUTF8.data.toList }
    children

/-- A token of such a tree. -/
def token (text : String) : Node :=
  .mk
    { index := 0
      kind := text
      named := false
      field := none
      missing := false
      row := 0
      column := 0
      bytes := text.toUTF8.data.toList }
    []

end Node
end ComponentOutline
