import ComponentOutline.Parsing.Reader

/-!
# What becomes of a source

Reading a source fetches its tree and then judges it.  Which tree is fetched depends on the
cache of the reader, and how the cache changes depends on nothing else; the verdict depends
on the tree alone, on the grammar and on whether the reader is strict.
-/

namespace ComponentOutline

namespace Reader

/-- What the tree of a source is kept under. -/
def keyOf (grammar : Dialect) (code : String) : SourceKey :=
  ⟨Digest.ofString code, code, grammar⟩

/-- The tree that a reader fetches for a source. -/
def treeOf (grammars : Grammars) (grammar : Dialect) (code : String) (reader : Reader) : Node :=
  (reader.cache.get? (keyOf grammar code)).getD (grammars grammar code)

/-- A reader after it fetched the tree of a source. -/
def fetched (grammars : Grammars) (grammar : Dialect) (code : String) (reader : Reader) :
    Reader :=
  match reader.cache.get? (keyOf grammar code) with
  | some tree => { reader with cache := reader.cache.touch (keyOf grammar code) tree }
  | none =>
      { reader with
        prepared :=
          if reader.prepared.contains grammar then reader.prepared
          else grammar :: reader.prepared
        cache := reader.cache.store (keyOf grammar code) (grammars grammar code) }

@[simp] theorem fetched_dialect
    (grammars : Grammars) (grammar : Dialect) (code : String) (reader : Reader) :
    (reader.fetched grammars grammar code).dialect = reader.dialect := by
  unfold fetched
  split
  · rfl
  · rfl

@[simp] theorem fetched_strict
    (grammars : Grammars) (grammar : Dialect) (code : String) (reader : Reader) :
    (reader.fetched grammars grammar code).strict = reader.strict := by
  unfold fetched
  split
  · rfl
  · rfl

end Reader

namespace Reading

/-- Fetching gives the tree of the source and never fails. -/
theorem fetch_apply
    (grammars : Grammars)
    (grammar : Dialect)
    (code : String)
    (reader : Reader)
    (log : Log) :
    ∃ later,
      fetch grammars grammar code (reader, log) =
        (.ok (reader.treeOf grammars grammar code),
          (reader.fetched grammars grammar code, later)) := by
  unfold fetch Reader.treeOf Reader.fetched
  rw [Effect.bind_apply_of_ok _ (Effect.get_apply _)]
  change ∃ later, (match reader.cache.get? (Reader.keyOf grammar code) with
    | some tree => _
    | none => _ : Reading Node) (reader, log) = _
  cases reader.cache.get? (Reader.keyOf grammar code) with
  | some tree => exact ⟨log, rfl⟩
  | none =>
      cases reader.prepared.contains grammar with
      | true => exact ⟨log, rfl⟩
      | false => exact ⟨log ++ [Reader.preparedRecord grammar], rfl⟩

/-- The failure of a tree with a defect: it names the first one. -/
def refusal (grammar : Dialect) (root : Node) : Failure :=
  match root.firstDefect? with
  | some defect =>
      match defect.readText with
      | .ok text =>
          .fault (.invalidSyntax grammar.name (some (cut snippetLength text)) defect.line
            defect.column)
      | .error failure => failure
  | none => .fault (.invalidSyntax grammar.name none root.line root.column)

/-- What becomes of a tree: a strict reader refuses one with a defect, and every reader
refuses one without statements. -/
def verdict (strict : Bool) (grammar : Dialect) (root : Node) : Except Failure Node :=
  if strict && root.hasDefect then .error (refusal grammar root)
  else if root.statements.isEmpty then .error (.fault .emptyProgram)
  else .ok root

/-- A tree is refused for its first defect, and only the log changes. -/
theorem refuseDefect_apply (grammar : Dialect) (root : Node) (reader : Reader) (log : Log) :
    ∃ later,
      refuseDefect grammar root (reader, log) =
        (.error (refusal grammar root), (reader, later)) := by
  unfold refuseDefect refusal
  cases root.firstDefect? with
  | none => exact ⟨_, rfl⟩
  | some defect =>
      simp only [Option.getD_some]
      cases defect.readText with
      | ok text => exact ⟨_, rfl⟩
      | error failure => exact ⟨_, rfl⟩

/-- Reading what is no source fails and leaves the reader alone. -/
theorem parse_apply_of_error
    {code : Value}
    {failure : Failure}
    (noSource : sourceText code = .error failure)
    (grammars : Grammars)
    (markup : Value)
    (state : Reader × Log) :
    parse grammars code markup state = (.error failure, state) := by
  rw [parse, noSource]
  rfl

/-- Reading a source fetches its tree and judges it. -/
theorem parse_apply_of_ok
    {code : Value}
    {text : String}
    (isSource : sourceText code = .ok text)
    (grammars : Grammars)
    (markup : Value)
    (reader : Reader)
    (log : Log) :
    ∃ later,
      parse grammars code markup (reader, log) =
        (verdict reader.strict.isTruthy (reader.dialect.grammar markup)
            (reader.treeOf grammars (reader.dialect.grammar markup) text),
          (reader.fetched grammars (reader.dialect.grammar markup) text, later)) := by
  obtain ⟨between, fetches⟩ :=
    fetch_apply grammars (reader.dialect.grammar markup) text reader log
  rw [parse, isSource, Effect.bind_apply_of_ok _ (Effect.ofExcept_apply _ _),
    Effect.bind_apply_of_ok _ (Effect.get_apply _), Effect.bind_apply_of_ok _ fetches]
  generalize reader.treeOf grammars (reader.dialect.grammar markup) text = root
  generalize reader.fetched grammars (reader.dialect.grammar markup) text = after
  unfold verdict
  split
  · obtain ⟨later, refused⟩ :=
      refuseDefect_apply (reader.dialect.grammar markup) root after between
    exact ⟨later, Effect.bind_apply_of_error _ refused⟩
  · split
    · exact ⟨between, rfl⟩
    · exact ⟨_, rfl⟩

end Reading
end ComponentOutline
