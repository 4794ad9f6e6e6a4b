import ComponentOutline.Component.Class
import ComponentOutline.Component.Detect
import ComponentOutline.Component.Factory

/-!
# Extraction

An extraction either gives the complete outline of a component or fails, and a
failure leaves a record in the log.  Without a pattern the one that the program most
likely uses is tried first, and the other one if that finds no name.
-/

namespace ComponentOutline

namespace Pattern

/-- The name under which an extraction reports its failures. -/
def task : Pattern → String
  | .factoryCall => "extract_factory_component"
  | .classDeclaration => "extract_class_component"

/-- Walks a tree for a component of this pattern, with the options of the settings. -/
def search (settings : Settings) (root : Node) : Pattern → Extracting Unit
  | .factoryCall => do
      let options ← Extracting.ofExcept (FactoryOptions.ofValues .null .null settings)
      Factory.extract options root
  | .classDeclaration => do
      let options ← Extracting.ofExcept (ClassOptions.ofValue .null settings)
      Class.extract options root

end Pattern

namespace Extraction

/-- The outline that a walk puts together, its log appended to the one before. -/
def outline (walk : Extracting Unit) : Logged Descriptor :=
  fun log =>
    let (result, progress) := walk (Progress.start log)
    (result.map fun _ => progress.descriptor, progress.log)

/-- The record of a failed extraction. -/
def failureRecord (pattern : Pattern) (failure : Failure) : LogRecord :=
  let message :=
    match failure with
    | .fault _ => pattern.task ++ " failed: " ++ failure.message
    | other => "Unexpected error during " ++ pattern.task ++ ": " ++ other.message
  { level := .error, writer := .faults, message := message }

/-- Extracts the component that a tree declares by a pattern. -/
def byPattern (settings : Settings) (pattern : Pattern) (root : Node) : Logged Descriptor :=
  tryCatch (outline (pattern.search settings root)) fun failure => do
    Logged.write (failureRecord pattern failure)
    throw failure

/-- The record of falling back on the other pattern. -/
def fallbackRecord (detected : Pattern) : LogRecord :=
  { level := .debug
    writer := .outline
    message := "No " ++ detected.name ++ " component found, trying the " ++
      detected.other.name ++ " pattern" }

/-- Extracts the component that a tree declares by either pattern. -/
def byEither (settings : Settings) (root : Node) : Logged Descriptor := do
  let detected := root.detectPattern
  let descriptor ← byPattern settings detected root
  if descriptor.name != "" then return descriptor
  Logged.write (fallbackRecord detected)
  let fallback ← byPattern settings detected.other root
  return if fallback.name != "" then fallback else descriptor

end Extraction
end ComponentOutline
