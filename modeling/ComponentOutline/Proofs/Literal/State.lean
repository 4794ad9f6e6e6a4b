import Mathlib.Data.List.Forall2
import ComponentOutline.Effect
import ComponentOutline.Proofs.Literal.Equations
import ComponentOutline.Proofs.Value.Entries

/-!
# The state and the value of an initializer

A state is read from the object inside of the wrappers of an initializer, and the value of
the initializer goes through the wrappers as well.  A state is the record that the value is,
and its entries are the pairs of the object as a map.  The two ways through the wrappers
part where a comment comes first: a value passes over it, and a state is refused there.
-/

namespace ComponentOutline
namespace Literal

variable {node : Node}

/-! ## The members of an object -/

/-- A member of an object gives a pair of its key and its value. -/
structure Gives (member : Node) (pair : Text × Value) : Prop where
  kind : member.kind = "pair"
  key : ∃ key, member.child? "key" = some key ∧ propertyKey key = .ok pair.1
  value : ∃ child, member.child? "value" = some child ∧ evaluate child = .ok pair.2

/-- A member that can be added gives a name and a value, which take their place in the record. -/
theorem gives_of_addMember
    {member : Node}
    {entries later : List (Text × Value)}
    (added : addMember entries member = .ok later) :
    ∃ pair, Gives member pair ∧ later = Entries.insert pair.1 pair.2 entries := by
  unfold addMember at added
  split at added
  · cases added
  · next kind =>
      split at added
      · next key child keyed held =>
          obtain ⟨value, evaluated, added⟩ := Effect.ok_of_except_bind added
          obtain ⟨name, named, added⟩ := Effect.ok_of_except_bind added
          cases added
          exact ⟨(name, value), ⟨by simpa using kind, ⟨key, keyed, named⟩,
            ⟨child, held, evaluated⟩⟩, rfl⟩
      · cases added

/-- Members that are read one after the other write their pairs one after the other. -/
theorem gives_of_foldlM
    {members : List Node}
    {entries later : List (Text × Value)}
    (read : members.foldlM addMember entries = .ok later) :
    ∃ pairs, List.Forall₂ Gives members pairs ∧ later = Entries.insertAll pairs entries := by
  induction members generalizing entries with
  | nil =>
      cases read
      exact ⟨[], .nil, rfl⟩
  | cons member rest inductionHypothesis =>
      rw [List.foldlM_cons] at read
      obtain ⟨middle, added, others⟩ := Effect.ok_of_except_bind read
      obtain ⟨pair, gives, rfl⟩ := gives_of_addMember added
      obtain ⟨pairs, givesAll, rfl⟩ := inductionHypothesis others
      exact ⟨pair :: pairs, .cons gives givesAll, rfl⟩

/-! ## Through the wrappers -/

theorem unwrap_of_plain (plain : isWrapper node.kind = false) : unwrap node = node := by
  rw [unwrap_eq, plain]
  rfl

theorem unwrap_of_wrapper
    {first : Node}
    (wraps : isWrapper node.kind = true)
    (found : node.namedChildren.head? = some first) :
    unwrap node = unwrap first := by
  rw [unwrap_eq, if_pos wraps, found]
  rfl

/-- A comment is no wrapper. -/
theorem unwrap_of_isComment (comment : node.isComment = true) : unwrap node = node := by
  have kind : node.kind = "comment" := by simpa [Node.isComment] using comment
  exact unwrap_of_plain (by rw [kind]; rfl)

/-- Where no comment comes first, the first named child is the first of the contents. -/
theorem head?_contents
    {first : Node}
    (found : node.namedChildren.head? = some first)
    (noComment : first.isComment = false) :
    node.contents.head? = some first := by
  obtain ⟨rest, named⟩ := List.head?_eq_some_iff.mp found
  rw [Node.contents, named, List.filter_cons, if_pos (by simp [noComment])]
  rfl

/-- An object inside of wrappers has the value of the whole. -/
theorem evaluate_unwrap (node : Node) :
    (unwrap node).kind = "object" → evaluate node = evaluate (unwrap node) := by
  induction node using Node.induction with
  | step label children inductionHypothesis =>
      intro isObject
      cases wraps : isWrapper (Node.mk label children).kind with
      | false => rw [unwrap_of_plain wraps]
      | true =>
          cases found : (Node.mk label children).namedChildren.head? with
          | none =>
              have same : unwrap (.mk label children) = .mk label children := by
                rw [unwrap_eq, if_pos wraps, found]
                rfl
              rw [same]
          | some first =>
              have isChild : first ∈ children :=
                (List.mem_filter.mp (List.mem_of_mem_head? found)).1
              rw [unwrap_of_wrapper wraps found] at isObject ⊢
              have noComment : first.isComment = false := by
                by_contra comment
                rw [Bool.not_eq_false] at comment
                rw [unwrap_of_isComment comment] at isObject
                simp [Node.isComment, isObject] at comment
              rw [evaluate_of_wrapper wraps, head?_contents found noComment]
              exact inductionHypothesis first isChild isObject

/-! ## A state as a map -/

/-- Whenever a state is read, it is the record that the initializer has as its value.  The
names of the entries are distinct and in the order of the first pairs of the object, each
entry has the value of the last pair with its name, and an outline with this state gives the
same record back. -/
theorem state_is_ordered_record
    {state : List StateEntry}
    (returned : componentState node = .ok state) :
    evaluate node = .ok (.record (state.map fun entry => (entry.name, entry.value))) ∧
      (state.map StateEntry.name).Nodup ∧
      (∃ pairs : List (Text × Value),
        (unwrap node).kind = "object" ∧ List.Forall₂ Gives (unwrap node).contents pairs ∧
          state.map StateEntry.name = (pairs.map Prod.fst).eraseDups ∧
          ∀ entry ∈ state,
            (pairs.filter fun pair => pair.1 == entry.name).getLast?.map Prod.snd =
              some entry.value) ∧
      ∀ descriptor : Descriptor, descriptor.state = state →
        descriptor.stateRecord =
          .record (state.map fun entry => (entry.name, entry.value)) := by
  obtain ⟨entries, read, rfl⟩ := Effect.ok_of_except_map returned
  rw [stateEntries_eq] at read
  split at read
  · next isObject =>
      have isObject := eq_of_beq isObject
      have evaluated : evaluate node = .ok (.record entries) := by
        rw [evaluate_unwrap node isObject, evaluate_of_object isObject, read]
        rfl
      obtain ⟨pairs, gives, written⟩ := gives_of_foldlM read
      have distinct : (entries.map Prod.fst).Nodup := written ▸ Entries.nodup_insertAll pairs
      have back : ((entries.map fun entry => (⟨entry.1, entry.2⟩ : StateEntry)).map
          fun entry => (entry.name, entry.value)) = entries := by
        simp [Function.comp_def]
      have names : ((entries.map fun entry => (⟨entry.1, entry.2⟩ : StateEntry)).map
          StateEntry.name) = entries.map Prod.fst := by
        simp [Function.comp_def]
      rw [back, names]
      refine ⟨evaluated, distinct, ⟨pairs, isObject, gives, ?_, ?_⟩, ?_⟩
      · rw [written, Entries.map_fst_insertAll]
      · intro entry isEntry
        obtain ⟨pair, isPair, rfl⟩ := List.mem_map.mp isEntry
        rw [← Entries.get?_insertAll, ← written]
        exact Entries.get?_of_mem distinct isPair
      · intro descriptor carries
        rw [Descriptor.stateRecord, carries, back, Entries.insertAll_of_nodup distinct]
  · cases read

/-- The tree of the object with the members `a: null`, `b: true` and `'a': false`, in
brackets. -/
def repeatedKey : Node :=
  .inLine 0 true "parenthesized_expression" none "(\x7ba: null, b: true, 'a': false\x7d)" [
    .inLine 0 false "(" none "(" [],
    .inLine 1 true "object" none "\x7ba: null, b: true, 'a': false\x7d" [
      .inLine 1 false "\x7b" none "\x7b" [],
      .inLine 2 true "pair" none "a: null" [
        .inLine 2 true "property_identifier" (some "key") "a" [],
        .inLine 3 false ":" none ":" [],
        .inLine 5 true "null" (some "value") "null" []],
      .inLine 9 false "," none "," [],
      .inLine 11 true "pair" none "b: true" [
        .inLine 11 true "property_identifier" (some "key") "b" [],
        .inLine 12 false ":" none ":" [],
        .inLine 14 true "true" (some "value") "true" []],
      .inLine 18 false "," none "," [],
      .inLine 20 true "pair" none "'a': false" [
        .inLine 20 true "string" (some "key") "'a'" [
          .inLine 20 false "'" none "'" [],
          .inLine 21 true "string_fragment" none "a" [],
          .inLine 22 false "'" none "'" []],
        .inLine 23 false ":" none ":" [],
        .inLine 25 true "false" (some "value") "false" []],
      .inLine 30 false "\x7d" none "\x7d" []],
    .inLine 31 false ")" none ")" []]

/-- The key `a` keeps its first place and has its last value. -/
theorem state_is_ordered_record_repeatedKey :
    componentState repeatedKey =
        .ok [⟨.ofString "a", .bool false⟩, ⟨.ofString "b", .bool true⟩] ∧
      evaluate repeatedKey =
        .ok (.record [(.ofString "a", .bool false), (.ofString "b", .bool true)]) ∧
      (Descriptor.empty.withState
          [⟨.ofString "a", .bool false⟩, ⟨.ofString "b", .bool true⟩]).stateRecord =
        .record [(.ofString "a", .bool false), (.ofString "b", .bool true)] := by
  have returned : componentState repeatedKey =
      .ok [⟨.ofString "a", .bool false⟩, ⟨.ofString "b", .bool true⟩] := rfl
  obtain ⟨evaluated, -, -, carried⟩ := state_is_ordered_record returned
  exact ⟨returned, evaluated, carried _ rfl⟩

/-! ## Comments inside of the wrappers -/

/-- Around an expression there is a wrapper with a comment as its first named child. -/
inductive OpensWithComment : Node → Prop
  | here {node comment : Node}
      (wraps : isWrapper node.kind = true)
      (first : node.namedChildren.head? = some comment)
      (isComment : comment.isComment = true) :
      OpensWithComment node
  | inside {node inner : Node}
      (wraps : isWrapper node.kind = true)
      (first : node.contents.head? = some inner)
      (opens : OpensWithComment inner) :
      OpensWithComment node

theorem exists_head?_namedChildren
    {inner : Node}
    (first : node.contents.head? = some inner) :
    ∃ child, node.namedChildren.head? = some child := by
  cases found : node.namedChildren.head? with
  | none =>
      rw [Node.contents, List.head?_eq_none_iff.mp found] at first
      cases first
  | some child => exact ⟨child, rfl⟩

/-- If a comment comes first in a wrapper, then the comment is all that is left. -/
theorem OpensWithComment.isComment_unwrap (opens : OpensWithComment node) :
    (unwrap node).isComment = true := by
  induction opens with
  | here wraps first isComment =>
      rwa [unwrap_of_wrapper wraps first, unwrap_of_isComment isComment]
  | inside wraps first opens inductionHypothesis =>
      obtain ⟨child, found⟩ := exists_head?_namedChildren first
      rw [unwrap_of_wrapper wraps found]
      cases comment : child.isComment with
      | true => rwa [unwrap_of_isComment comment]
      | false =>
          rw [head?_contents found comment] at first
          rwa [Option.some.inj first]

/-- No constant is a record. -/
theorem constant?_ne_record (name : String) (entries : List (Text × Value)) :
    constant? name ≠ some (.record entries) := by
  unfold constant?
  split
  · nofun
  · split
    · nofun
    · split
      · nofun
      · nofun

/-- No atom is a record. -/
theorem evaluateAtom_ne_record (node : Node) (entries : List (Text × Value)) :
    evaluateAtom node ≠ .ok (.record entries) := by
  intro evaluated
  unfold evaluateAtom at evaluated
  split at evaluated
  · obtain ⟨text, -, isText⟩ := Effect.ok_of_except_map evaluated
    cases isText
  · obtain ⟨text, -, read⟩ := Effect.ok_of_except_bind evaluated
    obtain ⟨number, -, isNumber⟩ := Effect.ok_of_except_bind read
    cases isNumber
  · cases evaluated
  · cases evaluated
  · cases evaluated
  · cases evaluated
  · obtain ⟨name, -, named⟩ := Effect.ok_of_except_bind evaluated
    split at named
    · next value found =>
        cases named
        exact constant?_ne_record name entries found
    · cases named
  · cases evaluated
  · cases evaluated

/-- Only objects have records as their values, and what is wrapped around them. -/
theorem isObject_or_isWrapper_of_record
    {entries : List (Text × Value)}
    (evaluated : evaluate node = .ok (.record entries)) :
    node.kind = "object" ∨ isWrapper node.kind = true := by
  rw [evaluate_eq] at evaluated
  split at evaluated
  · next isObject => exact .inl (eq_of_beq isObject)
  split at evaluated
  · obtain ⟨values, -, isList⟩ := Effect.ok_of_except_map evaluated
    cases isList
  split at evaluated
  · obtain ⟨sign, -, signed⟩ := Effect.ok_of_except_bind evaluated
    obtain ⟨value, -, applied⟩ := Effect.ok_of_except_bind signed
    cases value with
    | number number => cases applied
    | _ => cases applied
  split at evaluated
  · next wraps => exact .inr wraps
  · exact absurd evaluated (evaluateAtom_ne_record node entries)

/-- Where no comment comes first, a record is read as a state. -/
theorem stateEntries_of_record (node : Node) (entries : List (Text × Value)) :
    evaluate node = .ok (.record entries) → ¬ OpensWithComment node →
      stateEntries node = .ok entries := by
  induction node using Node.induction with
  | step label children inductionHypothesis =>
      intro evaluated plain
      obtain isObject | wraps := isObject_or_isWrapper_of_record evaluated
      · rw [evaluate_of_object isObject] at evaluated
        obtain ⟨read, folded, isRecord⟩ := Effect.ok_of_except_map evaluated
        cases isRecord
        have same : unwrap (.mk label children) = .mk label children :=
          unwrap_of_plain (by rw [isObject]; rfl)
        rw [stateEntries_eq, same, if_pos (by simp [isObject]), folded]
      · rw [evaluate_of_wrapper wraps] at evaluated
        cases first : (Node.mk label children).contents.head? with
        | none =>
            rw [first] at evaluated
            cases evaluated
        | some inner =>
            rw [first] at evaluated
            obtain ⟨child, found⟩ := exists_head?_namedChildren first
            have noComment : child.isComment = false := by
              by_contra comment
              rw [Bool.not_eq_false] at comment
              exact plain (.here wraps found comment)
            obtain rfl : child = inner :=
              Option.some.inj ((head?_contents found noComment).symm.trans first)
            have isChild : child ∈ children :=
              Node.mem_children_of_mem_contents (List.mem_of_mem_head? first)
            unfold stateEntries
            rw [unwrap_of_wrapper wraps found]
            exact inductionHypothesis child isChild evaluated
              fun opens => plain (.inside wraps first opens)

/-- An initializer with a record as its value has the entries of the record as its state,
unless a comment comes first in one of its wrappers.  Then it has no state: the comment is
rejected as an initializer. -/
theorem state_of_record_unless_opens_with_comment
    {entries : List (Text × Value)}
    (evaluated : evaluate node = .ok (.record entries)) :
    (¬ OpensWithComment node →
        componentState node = .ok (entries.map fun entry => ⟨entry.1, entry.2⟩)) ∧
      (OpensWithComment node →
        ∃ comment : Node, comment.isComment = true ∧
          componentState node =
            .error (comment.reject "state initializer must be an object literal")) := by
  constructor
  · intro plain
    rw [componentState, stateEntries_of_record node entries evaluated plain]
    rfl
  · intro opens
    have isComment := opens.isComment_unwrap
    have noObject : ¬ ((unwrap node).kind == "object") = true := by
      have kind : (unwrap node).kind = "comment" := by simpa [Node.isComment] using isComment
      simp [kind]
    refine ⟨unwrap node, isComment, ?_⟩
    rw [componentState, stateEntries_eq, if_neg noObject]
    rfl

/-- The tree of an object with the member `open: false`, in brackets and behind a comment. -/
def commentedRecord : Node :=
  .inLine 0 true "parenthesized_expression" none "(/* shut */ \x7bopen: false\x7d)" [
    .inLine 0 false "(" none "(" [],
    .inLine 1 true "comment" none "/* shut */" [],
    .inLine 12 true "object" none "\x7bopen: false\x7d" [
      .inLine 12 false "\x7b" none "\x7b" [],
      .inLine 13 true "pair" none "open: false" [
        .inLine 13 true "property_identifier" (some "key") "open" [],
        .inLine 17 false ":" none ":" [],
        .inLine 19 true "false" (some "value") "false" []],
      .inLine 24 false "\x7d" none "\x7d" []],
    .inLine 25 false ")" none ")" []]

theorem evaluate_commentedRecord :
    evaluate commentedRecord = .ok (.record [(.ofString "open", .bool false)]) := rfl

/-- Brackets alone do not matter, but with a comment in them the state is refused. -/
theorem state_of_record_unless_opens_with_comment_brackets :
    componentState repeatedKey =
        .ok [⟨.ofString "a", .bool false⟩, ⟨.ofString "b", .bool true⟩] ∧
      ∃ comment : Node, comment.isComment = true ∧
        componentState commentedRecord =
          .error (comment.reject "state initializer must be an object literal") := by
  have plain : ¬ OpensWithComment repeatedKey :=
    fun opens => absurd opens.isComment_unwrap (by decide)
  have evaluated : evaluate repeatedKey =
      .ok (.record [(.ofString "a", .bool false), (.ofString "b", .bool true)]) := rfl
  obtain ⟨accepted, -⟩ := state_of_record_unless_opens_with_comment evaluated
  obtain ⟨-, refused⟩ := state_of_record_unless_opens_with_comment evaluate_commentedRecord
  exact ⟨accepted plain, refused (.here rfl rfl rfl)⟩

/-- Not every initializer with a record as its value has a state. -/
theorem not_forall_record_has_state :
    ¬ ∀ (node : Node) (entries : List (Text × Value)),
      evaluate node = .ok (.record entries) → ∃ state, componentState node = .ok state := by
  intro always
  obtain ⟨state, returned⟩ := always commentedRecord _ evaluate_commentedRecord
  have refused : componentState commentedRecord =
      .error (.fault (.unevaluable "comment" "state initializer must be an object literal"
        1 1)) := rfl
  rw [refused] at returned
  cases returned

end Literal
end ComponentOutline
