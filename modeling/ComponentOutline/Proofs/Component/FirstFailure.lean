import ComponentOutline.Component.Extract
import ComponentOutline.Proofs.Component.ClassFailure
import ComponentOutline.Proofs.Component.FactoryFailure

/-!
# How an extraction fails

An extraction by either pattern returns an outline exactly if none of the nodes that its
search comes to fails, and otherwise it fails as the first of them does.
-/

namespace ComponentOutline
namespace Extraction

/-- A search that fails is reported and fails still. -/
theorem byPattern_ends
    (settings : Settings)
    (pattern : Pattern)
    (root : Node)
    (log : Log) :
    ((byPattern settings pattern root log).1.map fun _ => ()) =
      (pattern.search settings root (.start log)).1 := by
  have outlined : outline (pattern.search settings root) log =
      ((pattern.search settings root (.start log)).1.map
          fun _ => (pattern.search settings root (.start log)).2.descriptor,
        (pattern.search settings root (.start log)).2.log) := rfl
  cases ended : (pattern.search settings root (.start log)).1 with
  | ok value =>
      rw [ended] at outlined
      have returned : byPattern settings pattern root log = _ :=
        Effect.tryCatch_apply_of_ok _ outlined
      rw [returned]
      rfl
  | error failure =>
      rw [ended] at outlined
      have reported : byPattern settings pattern root log =
          (do
            Logged.write (failureRecord pattern failure)
            throw failure : Logged Descriptor)
            (pattern.search settings root (.start log)).2.log :=
        Effect.tryCatch_apply_of_error _ outlined
      rw [reported]
      rfl

section

variable
  {settings : Settings}
  {calls : FactoryOptions}
  {classes : ClassOptions}
  {root : Node}

/-- The pattern of factory calls ends at the first failure among the places that it reaches. -/
theorem factoryCall_endsAtFirst
    (callOptions : FactoryOptions.ofValues .null .null settings = .ok calls)
    (readable : root.IsReadable)
    (log : Log) :
    EndsAtFirst (Factory.failure? calls) (root.reached Markup.isElement)
      (byPattern settings .factoryCall root log).1 := by
  apply endsAtFirst_of_result
  rw [byPattern_ends, Pattern.search, callOptions,
    Effect.bind_apply_of_ok _ (Extracting.ofExcept_apply _ _)]
  exact Factory.extract_ends readable calls log

/-- The pattern of classes ends at the first failure among its stops. -/
theorem classDeclaration_endsAtFirst
    (classOptions : ClassOptions.ofValue .null settings = .ok classes)
    (readable : root.IsReadable)
    (log : Log) :
    EndsAtFirst (Class.failure? classes)
      (Class.stops classes.bases (root.reached Class.isBarrier))
      (byPattern settings .classDeclaration root log).1 := by
  apply endsAtFirst_of_result
  rw [byPattern_ends, Pattern.search, classOptions,
    Effect.bind_apply_of_ok _ (Extracting.ofExcept_apply _ _)]
  exact Class.extract_ends readable classes log

/-- With usable settings and a tree that can be read, an extraction by either pattern
returns exactly if no node that it comes to fails, and otherwise it fails as the first of
them does.  The nodes that it comes to are in pre-order. -/
theorem byPattern_ends_at_first_failure
    (callOptions : FactoryOptions.ofValues .null .null settings = .ok calls)
    (classOptions : ClassOptions.ofValue .null settings = .ok classes)
    (readable : root.IsReadable)
    (log : Log) :
    (EndsAtFirst (Factory.failure? calls) (root.reached Markup.isElement)
        (byPattern settings .factoryCall root log).1 ∧
      EndsAtFirst (Class.failure? classes)
        (Class.stops classes.bases (root.reached Class.isBarrier))
        (byPattern settings .classDeclaration root log).1) ∧
    ((root.reached Markup.isElement).map Occurrence.node).Sublist root.preorder ∧
      ((Class.stops classes.bases (root.reached Class.isBarrier)).map
        Class.Stop.node).Sublist root.preorder := by
  refine ⟨⟨?_, ?_⟩, ?_, ?_⟩
  · exact factoryCall_endsAtFirst callOptions readable log
  · exact classDeclaration_endsAtFirst classOptions readable log
  · exact root.reached_sublist Markup.isElement
  · exact Class.stops_sublist classes.bases root

end

theorem ofValues_default :
    FactoryOptions.ofValues .null .null .default =
      .ok ⟨[Text.ofString "createClass", Text.ofString "createReactClass"],
        .string "getInitialState"⟩ := rfl

theorem ofValue_default :
    ClassOptions.ofValue .null .default =
      .ok ⟨[Text.ofString "Component", Text.ofString "PureComponent"]⟩ := rfl

/-- The tree of `class A extends {state = s}`, in which the base is not there. -/
def damagedTree : Node :=
  .ofText "class_declaration" none "class A extends {state = s}" [
    .ofText "identifier" (some "name") "A" [],
    .ofText "class_heritage" none "extends" [
      .ofText "extends_clause" none "extends" []],
    .ofText "class_body" (some "body") "{state = s}" [
      .ofText "public_field_definition" none "state = s" [
        .ofText "property_identifier" (some "name") "state" [],
        .ofText "identifier" (some "value") "s" []]]]

/-- A tree that one pattern gets through, while the other one ends at the heritage of a class. -/
theorem byPattern_ends_at_first_failure_damagedTree :
    (∃ descriptor, (byPattern .default .factoryCall damagedTree []).1 = .ok descriptor) ∧
      (byPattern .default .classDeclaration damagedTree []).1 =
        .error (.fault (.malformedNode "extends_clause" "value" 1)) := by
  have readable : damagedTree.IsReadable := by decide +kernel
  obtain ⟨⟨byCall, byClass⟩, -⟩ :=
    byPattern_ends_at_first_failure ofValues_default ofValue_default readable []
  constructor
  · exact byCall.returns_iff.mpr (firstFailure?_eq_none_iff.mp rfl)
  · exact (byClass.fails_iff _).mpr (firstFailure?_eq_some_iff.mp rfl)

end Extraction
end ComponentOutline
