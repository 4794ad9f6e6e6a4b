import ComponentOutline.Proofs.Literal.Equations
import ComponentOutline.Proofs.Markup.Readable

/-!
# The literal grammar

Which expressions are literal is a matter of their kinds and fields at any depth, and once
of a value: a sign stands only in front of a number.  The grammar says it without an order.
Beside it stand the demands that an evaluation makes of single nodes, in the order in which
it makes them, and an expression is in the grammar exactly if all of them are met.
-/

namespace ComponentOutline
namespace Literal

/-! ## Literal expressions -/

/-- A string without references to characters. -/
structure IsLiteralString (node : Node) : Prop where
  kind : node.kind = "string"
  plain : ∀ child ∈ node.namedChildren, child.kind ≠ "html_character_reference"

/-- A name, a string or a number as the key of a member. -/
inductive IsLiteralKey (key : Node) : Prop
  | name (kind : key.kind = "property_identifier")
  | string (isString : IsLiteralString key)
  | number (kind : key.kind = "number")

mutual

/-- A literal expression. -/
inductive IsLiteral : Node → Prop
  | object {node : Node}
      (kind : node.kind = "object")
      (members : ∀ member ∈ node.contents, IsLiteralMember member) :
      IsLiteral node
  | array {node : Node}
      (kind : node.kind = "array")
      (items : ∀ item ∈ node.contents, IsLiteral item) :
      IsLiteral node
  | string {node : Node}
      (isString : IsLiteralString node) :
      IsLiteral node
  | plain {node : Node}
      (kind : node.kind ∈ ["number", "true", "false", "null", "undefined"]) :
      IsLiteral node
  | name {node : Node} {name : String}
      (kind : node.kind = "identifier")
      (read : node.text = .ok name)
      (constant : name ∈ ["undefined", "NaN", "Infinity"]) :
      IsLiteral node
  | signed {node operator argument : Node} {sign : String} {number : Number}
      (kind : node.kind = "unary_expression")
      (operated : node.child? "operator" = some operator)
      (read : operator.text = .ok sign)
      (isSign : sign ∈ ["+", "-"])
      (held : node.child? "argument" = some argument)
      (literal : IsLiteral argument)
      (value : evaluate argument = .ok (.number number)) :
      IsLiteral node
  | wrapped {node inner : Node}
      (wraps : isWrapper node.kind = true)
      (first : node.contents.head? = some inner)
      (literal : IsLiteral inner) :
      IsLiteral node

/-- A literal key with a literal value. -/
inductive IsLiteralMember : Node → Prop
  | pair {member key value : Node}
      (kind : member.kind = "pair")
      (keyed : member.child? "key" = some key)
      (isKey : IsLiteralKey key)
      (held : member.child? "value" = some value)
      (literal : IsLiteral value) :
      IsLiteralMember member

end

/-! ## Demands -/

/-- What a node is evaluated as. -/
inductive Role where
  /-- An expression of its own. -/
  | expression
  /-- A member of an object. -/
  | member
  /-- The key of a member. -/
  | key
  /-- A part of a string. -/
  | part
  /-- The sign in front of an operand that has its value. -/
  | sign

/-- The demand that a node can stand in a role, whatever is inside of it. -/
structure Demand where
  role : Role
  node : Node

/-- A complaint unless a condition holds. -/
def complainUnless (condition : Bool) (reason : String) : Option String :=
  if condition then none else some reason

/-- There is nothing to complain about exactly if the condition holds. -/
@[simp] theorem complainUnless_eq_none_iff (condition : Bool) (reason : String) :
    complainUnless condition reason = none ↔ condition = true := by
  cases condition with
  | false => simp [complainUnless]
  | true => simp [complainUnless]

/-- What is wrong with a name as an expression. -/
def nameComplaint? (node : Node) : Option String :=
  match node.text with
  | .ok name =>
      complainUnless (["undefined", "NaN", "Infinity"].contains name)
        s!"reference to binding '{name}'"
  | .error _ => none

/-- What is wrong with the operator of a signed expression. -/
def operatorComplaint? (node : Node) : Option String :=
  match node.child? "operator", node.child? "argument" with
  | some operator, some _ =>
      match operator.text with
      | .ok sign =>
          complainUnless (["+", "-"].contains sign) "only numeric sign operators are literal"
      | .error _ => none
  | _, _ => some "only numeric sign operators are literal"

/-- What is wrong with an expression that has no parts to evaluate. -/
def atomComplaint? (node : Node) : Option String :=
  match node.kind with
  | "string" | "number" | "true" | "false" | "null" | "undefined" => none
  | "identifier" => nameComplaint? node
  | "template_string" => some "template strings are not literal"
  | _ => some "expression is not literal data"

/-- What is wrong with an expression itself. -/
def expressionComplaint? (node : Node) : Option String :=
  if node.kind == "object" || node.kind == "array" then none
  else if node.kind == "unary_expression" then operatorComplaint? node
  else if isWrapper node.kind then
    complainUnless (!node.contents.isEmpty) "empty expression"
  else atomComplaint? node

/-- What is wrong with a member itself. -/
def memberComplaint? (member : Node) : Option String :=
  if member.kind == "pair" then
    complainUnless ((member.child? "key").isSome && (member.child? "value").isSome)
      "incomplete property"
  else some "only key/value pairs are literal"

/-- What is wrong with a key itself. -/
def keyComplaint? (key : Node) : Option String :=
  complainUnless (["property_identifier", "string", "number"].contains key.kind)
    "only identifier, string and number keys are literal"

/-- What is wrong with a part of a string. -/
def partComplaint? (part : Node) : Option String :=
  complainUnless (part.kind != "html_character_reference")
    "character references are not supported in state"

/-- What is wrong with a sign in front of its operand. -/
def signComplaint? (node : Node) : Option String :=
  match (node.child? "argument").map evaluate with
  | some (.ok (.number _)) => none
  | _ => some "sign operators only apply to numbers"

namespace Demand

/-- The reason why a demand is not met. -/
def complaint? : Demand → Option String
  | ⟨.expression, node⟩ => expressionComplaint? node
  | ⟨.member, node⟩ => memberComplaint? node
  | ⟨.key, node⟩ => keyComplaint? node
  | ⟨.part, node⟩ => partComplaint? node
  | ⟨.sign, node⟩ => signComplaint? node

/-- The failure of an evaluation that comes to a demand that is not met. -/
def failure? (demand : Demand) : Option Failure :=
  demand.complaint?.map demand.node.reject

end Demand

/-- The demands on the parts of a string. -/
def partDemands (children : List Node) : List Demand :=
  (children.filter Node.named).map fun part => ⟨.part, part⟩

mutual

/-- The demands on a node in a role and on what is inside of it, in the order of
evaluation: a node comes before what it holds, but a value comes before its key and an
operand before its sign. -/
def demands : Role → Node → List Demand
  | role, .mk label children =>
      let node := Node.mk label children
      ⟨role, node⟩ ::
        match role with
        | .expression =>
            if label.kind == "object" then demandsEach .member children
            else if label.kind == "array" then demandsEach .expression children
            else if label.kind == "unary_expression" then
              demandsUnder .expression "argument" children ++ [⟨.sign, node⟩]
            else if isWrapper label.kind then demandsFirst children
            else if label.kind == "string" then partDemands children
            else []
        | .member =>
            demandsUnder .expression "value" children ++ demandsUnder .key "key" children
        | .key => if label.kind == "string" then partDemands children else []
        | .part => []
        | .sign => []

/-- The demands on the contents of a node. -/
def demandsEach (role : Role) : List Node → List Demand
  | [] => []
  | child :: rest =>
      if !child.named || child.isComment then demandsEach role rest
      else demands role child ++ demandsEach role rest

/-- The demands on the first of the contents of a node. -/
def demandsFirst : List Node → List Demand
  | [] => []
  | child :: rest =>
      if !child.named || child.isComment then demandsFirst rest
      else demands .expression child

/-- The demands on the child under a field. -/
def demandsUnder (role : Role) (field : String) : List Node → List Demand
  | [] => []
  | child :: rest =>
      if child.label.field == some field then demands role child
      else demandsUnder role field rest

end

/-! ## Demands by contents and fields -/

/-- The demands on each child are those on its contents, as punctuation and comments make none. -/
theorem demandsEach_eq (role : Role) (label : Label) (children : List Node) :
    demandsEach role children = (Node.mk label children).contents.flatMap (demands role) := by
  induction children with
  | nil => simp [demandsEach, Node.contents_eq]
  | cons child rest inductionHypothesis =>
      rw [demandsEach, Node.contents_cons, inductionHypothesis]
      split
      · rfl
      · rfl

theorem demandsFirst_eq (label : Label) (children : List Node) :
    demandsFirst children =
      (Node.mk label children).contents.head?.elim [] (demands .expression) := by
  induction children with
  | nil => simp [demandsFirst, Node.contents_eq]
  | cons child rest inductionHypothesis =>
      rw [demandsFirst, Node.contents_cons, inductionHypothesis]
      split
      · rfl
      · rfl

theorem demandsUnder_eq
    (role : Role)
    (field : String)
    (label : Label)
    (children : List Node) :
    demandsUnder role field children =
      ((Node.mk label children).child? field).elim [] (demands role) := by
  induction children with
  | nil => simp [demandsUnder, Node.child?]
  | cons child rest inductionHypothesis =>
      rw [demandsUnder, Node.child?_cons, inductionHypothesis]
      split
      · rfl
      · rfl

/-- What an expression demands, by its kind: first of itself, then of what is evaluated inside. -/
theorem demands_expression (node : Node) :
    demands .expression node =
      ⟨.expression, node⟩ ::
        if node.kind == "object" then node.contents.flatMap (demands .member)
        else if node.kind == "array" then node.contents.flatMap (demands .expression)
        else if node.kind == "unary_expression" then
          (node.child? "argument").elim [] (demands .expression) ++ [⟨.sign, node⟩]
        else if isWrapper node.kind then node.contents.head?.elim [] (demands .expression)
        else if node.kind == "string" then partDemands node.children
        else [] := by
  cases node with
  | mk label children =>
      rw [demands, demandsEach_eq _ label, demandsEach_eq _ label, demandsFirst_eq label,
        demandsUnder_eq _ _ label]
      rfl

/-- A member demands to be one; then its value is looked at before its key. -/
theorem demands_member (node : Node) :
    demands .member node =
      ⟨.member, node⟩ ::
        ((node.child? "value").elim [] (demands .expression) ++
          (node.child? "key").elim [] (demands .key)) := by
  cases node with
  | mk label children => rw [demands, demandsUnder_eq _ _ label, demandsUnder_eq _ _ label]

/-- A key demands to be one; a string also demands that its parts can be read. -/
theorem demands_key (node : Node) :
    demands .key node =
      ⟨.key, node⟩ :: if node.kind == "string" then partDemands node.children else [] := by
  cases node with
  | mk label children =>
      rw [demands]
      rfl

/-! ## The grammar by demands -/

/-- No demand gives a reason to complain. -/
def Met (demands : List Demand) : Prop :=
  ∀ demand ∈ demands, demand.complaint? = none

@[simp] theorem met_nil : Met [] := nofun

@[simp] theorem met_cons (demand : Demand) (rest : List Demand) :
    Met (demand :: rest) ↔ demand.complaint? = none ∧ Met rest :=
  List.forall_mem_cons

@[simp] theorem met_append (front back : List Demand) :
    Met (front ++ back) ↔ Met front ∧ Met back :=
  List.forall_mem_append

/-- The demands on nodes are met exactly if those on each node are. -/
@[simp] theorem met_flatMap (nodes : List Node) (inside : Node → List Demand) :
    Met (nodes.flatMap inside) ↔ ∀ node ∈ nodes, Met (inside node) := by
  simp only [Met, List.mem_flatMap]
  constructor
  · intro met node isNode demand isInside
    exact met demand ⟨node, isNode, isInside⟩
  · rintro met demand ⟨node, isNode, isInside⟩
    exact met node isNode demand isInside

/-- The parts of a string are readable exactly if none of them is a reference to a character. -/
theorem met_partDemands (node : Node) :
    Met (partDemands node.children) ↔
      ∀ child ∈ node.namedChildren, child.kind ≠ "html_character_reference" := by
  unfold Met partDemands Node.namedChildren
  rw [List.forall_mem_map]
  simp [Demand.complaint?, partComplaint?]

section

variable {node : Node}

/-- A key is literal exactly if its demands are met. -/
theorem isLiteralKey_iff : IsLiteralKey node ↔ Met (demands .key node) := by
  rw [demands_key, met_cons]
  constructor
  · rintro (kind | ⟨kind, plain⟩ | kind)
    · simp [Demand.complaint?, keyComplaint?, kind]
    · simpa [Demand.complaint?, keyComplaint?, kind, met_partDemands] using plain
    · simp [Demand.complaint?, keyComplaint?, kind]
  · rintro ⟨usable, parts⟩
    have kinds : node.kind = "property_identifier" ∨ node.kind = "string" ∨
        node.kind = "number" := by
      simpa [Demand.complaint?, keyComplaint?] using usable
    obtain kind | kind | kind := kinds
    · exact .name kind
    · rw [if_pos (by simpa using kind)] at parts
      exact .string ⟨kind, (met_partDemands node).mp parts⟩
    · exact .number kind

/-- A member is a pair with both fields. -/
theorem memberComplaint?_eq_none_iff :
    memberComplaint? node = none ↔
      node.kind = "pair" ∧
        ∃ key value, node.child? "key" = some key ∧ node.child? "value" = some value := by
  unfold memberComplaint?
  split
  · next kind =>
      simp [eq_of_beq kind, Option.isSome_iff_exists]
  · next other =>
      have noPair : node.kind ≠ "pair" := by simpa using other
      simp [noPair]

/-- A signed number has a plus or a minus and something after it. -/
theorem operatorComplaint?_eq_none_iff (readable : node.IsReadable) :
    operatorComplaint? node = none ↔
      ∃ operator argument sign,
        node.child? "operator" = some operator ∧ node.child? "argument" = some argument ∧
          operator.text = .ok sign ∧ sign ∈ ["+", "-"] := by
  unfold operatorComplaint?
  cases operated : node.child? "operator" with
  | none => simp
  | some operator =>
      obtain ⟨sign, read⟩ := (readable.of_child? operated).here
      cases node.child? "argument" with
      | none => simp
      | some argument => simp [read]

/-- Of all names, three stand for a value. -/
theorem nameComplaint?_eq_none_iff (readable : node.IsReadable) :
    nameComplaint? node = none ↔
      ∃ name, node.text = .ok name ∧ name ∈ ["undefined", "NaN", "Infinity"] := by
  obtain ⟨name, read⟩ := readable.here
  simp [nameComplaint?, read]

/-- The atoms of the grammar are strings, constants and the three names. -/
theorem atomComplaint?_eq_none_iff (readable : node.IsReadable) :
    atomComplaint? node = none ↔
      node.kind = "string" ∨
        node.kind ∈ ["number", "true", "false", "null", "undefined"] ∨
          node.kind = "identifier" ∧
            ∃ name, node.text = .ok name ∧ name ∈ ["undefined", "NaN", "Infinity"] := by
  rw [← nameComplaint?_eq_none_iff readable]
  unfold atomComplaint?
  split
  all_goals simp_all

/-- A sign is in order exactly in front of a number. -/
theorem signComplaint?_eq_none_iff :
    signComplaint? node = none ↔
      ∃ argument number,
        node.child? "argument" = some argument ∧ evaluate argument = .ok (.number number) := by
  unfold signComplaint?
  cases node.child? "argument" with
  | none => simp
  | some argument =>
      simp only [Option.map_some, Option.some.injEq, exists_and_left, exists_eq_left']
      cases evaluate argument with
      | error failure => simp
      | ok value =>
          cases value with
          | number number => simp
          | _ => simp

/-- What the grammar says of a node says the same as the demands on it, in the role of an
expression and in that of a member. -/
structure FollowsDemands (node : Node) : Prop where
  expression : IsLiteral node ↔ Met (demands .expression node)
  member : IsLiteralMember node ↔ Met (demands .member node)

/-- A member is literal exactly if its demands are met, provided that this holds of its value. -/
theorem isLiteralMember_iff
    (value : ∀ child, node.child? "value" = some child → FollowsDemands child) :
    IsLiteralMember node ↔ Met (demands .member node) := by
  rw [demands_member, met_cons, met_append]
  change _ ↔ memberComplaint? node = none ∧ _
  rw [memberComplaint?_eq_none_iff]
  constructor
  · rintro ⟨kind, keyed, isKey, held, literal⟩
    rw [keyed, held]
    exact ⟨⟨kind, _, _, rfl, rfl⟩, (value _ held).expression.mp literal,
      isLiteralKey_iff.mp isKey⟩
  · rintro ⟨⟨kind, key, child, keyed, held⟩, valueMet, keyMet⟩
    rw [held] at valueMet
    rw [keyed] at keyMet
    exact .pair kind keyed (isLiteralKey_iff.mpr keyMet) held
      ((value child held).expression.mpr valueMet)

/-- In an expression of the grammar all demands are met. -/
theorem IsLiteral.met
    (literal : IsLiteral node)
    (readable : node.IsReadable)
    (below : ∀ child ∈ node.children, FollowsDemands child) :
    Met (demands .expression node) := by
  have content : ∀ child ∈ node.contents, FollowsDemands child := fun child isContent =>
    below child (Node.mem_children_of_mem_contents isContent)
  rw [demands_expression, met_cons]
  change expressionComplaint? node = none ∧ _
  unfold expressionComplaint?
  cases literal with
  | object kind members =>
      simp only [kind, beq_self_eq_true, Bool.true_or, if_true, met_flatMap, true_and]
      exact fun member isContent => (content member isContent).member.mp (members member isContent)
  | array kind items =>
      simp only [kind, String.reduceBEq, Bool.false_or, if_true, met_flatMap, true_and,
        Bool.false_eq_true, if_false]
      exact fun item isContent => (content item isContent).expression.mp (items item isContent)
  | string isString =>
      have plain := (met_partDemands node).mpr isString.plain
      simp [isString.kind, isWrapper, atomComplaint?, plain]
  | plain kind =>
      simp only [List.mem_cons, List.not_mem_nil, or_false] at kind
      obtain kind | kind | kind | kind | kind := kind
      all_goals simp [kind, isWrapper, atomComplaint?]
  | name kind read constant =>
      have noComplaint := (nameComplaint?_eq_none_iff readable).mpr ⟨_, read, constant⟩
      simp [kind, isWrapper, atomComplaint?, noComplaint]
  | signed kind operated read isSign held literal value =>
      have operator := (operatorComplaint?_eq_none_iff readable).mpr
        ⟨_, _, _, operated, held, read, isSign⟩
      have sign : Demand.complaint? ⟨.sign, node⟩ = none :=
        signComplaint?_eq_none_iff.mpr ⟨_, _, held, value⟩
      have argument := (below _ (List.mem_of_find?_eq_some held)).expression.mp literal
      simp [kind, operator, held, argument, sign]
  | wrapped wraps first literal =>
      have inner := (content _ (List.mem_of_mem_head? first)).expression.mp literal
      have occupied : node.contents ≠ [] := by
        rintro empty
        rw [empty] at first
        cases first
      obtain kind | kind | kind := kind_of_isWrapper wraps
      all_goals simp [kind, isWrapper, occupied, first, inner]

/-- An expression is in the grammar if all demands are met. -/
theorem isLiteral_of_met
    (readable : node.IsReadable)
    (below : ∀ child ∈ node.children, FollowsDemands child)
    (met : Met (demands .expression node)) :
    IsLiteral node := by
  have content : ∀ child ∈ node.contents, FollowsDemands child := fun child isContent =>
    below child (Node.mem_children_of_mem_contents isContent)
  rw [demands_expression, met_cons] at met
  change expressionComplaint? node = none ∧ _ at met
  obtain ⟨noComplaint, inside⟩ := met
  unfold expressionComplaint? at noComplaint
  split at inside
  · next isObject =>
      rw [met_flatMap] at inside
      refine .object (eq_of_beq isObject) fun member isContent => ?_
      exact (content member isContent).member.mpr (inside member isContent)
  next noObject =>
  split at inside
  · next isArray =>
      rw [met_flatMap] at inside
      refine .array (eq_of_beq isArray) fun item isContent => ?_
      exact (content item isContent).expression.mpr (inside item isContent)
  next noArray =>
  rw [if_neg (by simp [noObject, noArray])] at noComplaint
  split at inside
  · next isSigned =>
      rw [if_pos isSigned] at noComplaint
      obtain ⟨operator, argument, sign, operated, held, read, isSign⟩ :=
        (operatorComplaint?_eq_none_iff readable).mp noComplaint
      rw [held, met_append, met_cons] at inside
      obtain ⟨argumentMet, signMet, -⟩ := inside
      obtain ⟨_, number, heldToo, value⟩ := signComplaint?_eq_none_iff.mp signMet
      obtain rfl := Option.some.inj (held.symm.trans heldToo)
      exact .signed (eq_of_beq isSigned) operated read isSign held
        ((below argument (List.mem_of_find?_eq_some held)).expression.mpr argumentMet) value
  next noSign =>
  rw [if_neg noSign] at noComplaint
  split at inside
  · next wraps =>
      rw [if_pos wraps] at noComplaint
      cases first : node.contents.head? with
      | none => simp [List.head?_eq_none_iff.mp first] at noComplaint
      | some inner =>
          rw [first] at inside
          exact .wrapped wraps first
            ((content inner (List.mem_of_mem_head? first)).expression.mpr inside)
  next noWrapper =>
  rw [if_neg noWrapper] at noComplaint
  obtain isString | isPlain | ⟨isName, name, read, constant⟩ :=
    (atomComplaint?_eq_none_iff readable).mp noComplaint
  · rw [if_pos (by simpa using isString)] at inside
    exact .string ⟨isString, (met_partDemands node).mp inside⟩
  · exact .plain isPlain
  · exact .name isName read constant

end

/-- A node is literal exactly if its demands are met, by induction over the tree. -/
theorem followsDemands (node : Node) : node.IsReadable → FollowsDemands node := by
  induction node using Node.induction with
  | step label children inductionHypothesis =>
      intro readable
      have below : ∀ child ∈ children, FollowsDemands child := fun child isChild =>
        inductionHypothesis child isChild (readable.of_mem_children isChild)
      refine ⟨⟨?_, ?_⟩, ?_⟩
      · exact fun literal => literal.met readable below
      · exact isLiteral_of_met readable below
      · exact isLiteralMember_iff fun child held =>
          below child (List.mem_of_find?_eq_some held)

end Literal
end ComponentOutline
