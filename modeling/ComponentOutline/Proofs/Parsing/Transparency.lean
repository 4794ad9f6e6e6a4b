import ComponentOutline.Proofs.Parsing.Verdict
import ComponentOutline.Proofs.Syntax.Occurrence

/-!
# Reading with a cache

A cache is faithful if every result in it is the one that belongs to its key.  The trees in
the cache of a reader belong to the texts and grammars that they are kept under; the digests
of the texts take no part in this, so that two sources with the same digest cannot be taken
for each other.  Every step of reading keeps the cache faithful, whatever is dropped from it,
so reading one source after the other gives what a reader without a cache gives for each.
-/

namespace ComponentOutline

namespace RecentCache

variable {κ α : Type} {results : κ → α} {cache : RecentCache κ α}

/-- Every result in a cache is the one that belongs to its key. -/
def IsFaithful (results : κ → α) (cache : RecentCache κ α) : Prop :=
  ∀ entry ∈ cache.entries, entry.2 = results entry.1

theorem isFaithful_empty (results : κ → α) (capacity : Option Nat) :
    (empty capacity : RecentCache κ α).IsFaithful results := by
  intro entry isEntry
  cases isEntry

/-- What a faithful cache keeps is the result of its key. -/
theorem IsFaithful.eq_of_get?
    [BEq κ]
    [LawfulBEq κ]
    {key : κ}
    {result : α}
    (faithful : cache.IsFaithful results)
    (kept : cache.get? key = some result) :
    result = results key := by
  obtain ⟨entry, found, rfl⟩ := Option.map_eq_some_iff.mp kept
  have isKey := List.find?_some found
  rw [← eq_of_beq isKey]
  exact faithful entry (List.mem_of_find?_eq_some found)

/-- Using an entry again keeps a cache faithful. -/
theorem IsFaithful.touch
    [BEq κ]
    (faithful : cache.IsFaithful results)
    (key : κ) :
    (cache.touch key (results key)).IsFaithful results := by
  intro entry isEntry
  obtain rfl | isOther := List.mem_cons.mp isEntry
  · rfl
  · exact faithful entry (List.mem_filter.mp isOther).1

/-- Dropping results keeps a cache faithful. -/
theorem mem_of_mem_restrict
    {capacity : Option Nat}
    {entries : List (κ × α)}
    {entry : κ × α}
    (isKept : entry ∈ restrict capacity entries) :
    entry ∈ entries := by
  cases capacity with
  | none => exact isKept
  | some bound => exact List.mem_of_mem_take isKept

theorem IsFaithful.store
    (faithful : cache.IsFaithful results)
    (key : κ) :
    (cache.store key (results key)).IsFaithful results := by
  intro entry isEntry
  obtain rfl | isOther := List.mem_cons.mp (mem_of_mem_restrict isEntry)
  · rfl
  · exact faithful entry isOther

end RecentCache

namespace Reader

variable {grammars : Grammars} {dialect : Dialect} {strict : Value} {reader : Reader}

/-- A reader is of a dialect, as strict as a value says, and keeps nothing but the trees of
the texts and grammars that they are kept under. -/
structure Serves
    (grammars : Grammars)
    (dialect : Dialect)
    (strict : Value)
    (reader : Reader) : Prop where
  dialect_eq : reader.dialect = dialect
  strict_eq : reader.strict = strict
  isFaithful : reader.cache.IsFaithful fun key => grammars key.grammar key.code

/-- A reader that serves grammars gives their trees, whether they were kept or not. -/
theorem Serves.treeOf_eq
    (serves : reader.Serves grammars dialect strict)
    (grammar : Dialect)
    (code : String) :
    reader.treeOf grammars grammar code = grammars grammar code := by
  unfold treeOf
  cases kept : reader.cache.get? (keyOf grammar code) with
  | none => rfl
  | some tree => exact serves.isFaithful.eq_of_get? kept

theorem Serves.fetched
    (serves : reader.Serves grammars dialect strict)
    (grammar : Dialect)
    (code : String) :
    (reader.fetched grammars grammar code).Serves grammars dialect strict := by
  refine ⟨?_, ?_, ?_⟩
  · rw [fetched_dialect, serves.dialect_eq]
  · rw [fetched_strict, serves.strict_eq]
  · unfold Reader.fetched
    cases kept : reader.cache.get? (keyOf grammar code) with
    | none => exact serves.isFaithful.store (keyOf grammar code)
    | some tree =>
        have belongs := serves.isFaithful.eq_of_get? kept
        subst belongs
        exact serves.isFaithful.touch (keyOf grammar code)

end Reader

namespace Reading

/-- What reading a source gives, by the grammars alone. -/
def reading
    (grammars : Grammars)
    (dialect : Dialect)
    (strict : Value)
    (code markup : Value) : Except Failure Node := do
  let text ← sourceText code
  verdict strict.isTruthy (dialect.grammar markup) (grammars (dialect.grammar markup) text)

/-- One reading gives what the grammars give, and the reader goes on to do so. -/
theorem parse_of_serves
    {grammars : Grammars}
    {dialect : Dialect}
    {strict : Value}
    {reader : Reader}
    (serves : reader.Serves grammars dialect strict)
    (code markup : Value)
    (log : Log) :
    (parse grammars code markup (reader, log)).1 = reading grammars dialect strict code markup ∧
      (parse grammars code markup (reader, log)).2.1.Serves grammars dialect strict := by
  unfold reading
  cases isSource : sourceText code with
  | error failure =>
      rw [parse_apply_of_error isSource]
      exact ⟨rfl, serves⟩
  | ok text =>
      obtain ⟨later, parsed⟩ := parse_apply_of_ok isSource grammars markup reader log
      rw [parsed, serves.treeOf_eq, serves.dialect_eq, serves.strict_eq]
      exact ⟨rfl, serves.fetched _ text⟩

/-- What a reader gives for sources that it reads one after the other.  Each comes with
whether markup is forced on or off for it, and a failure does not end the series. -/
def parseAll (grammars : Grammars) : Reader → List (Value × Value) → List (Except Failure Node)
  | _, [] => []
  | reader, call :: rest =>
      let outcome := parse grammars call.1 call.2 (reader, [])
      outcome.1 :: parseAll grammars outcome.2.1 rest

/-- All calls to such a reader are answered as if each of them stood alone. -/
theorem parseAll_of_serves
    {grammars : Grammars}
    {dialect : Dialect}
    {strict : Value}
    {reader : Reader}
    (serves : reader.Serves grammars dialect strict)
    (calls : List (Value × Value)) :
    parseAll grammars reader calls =
      calls.map fun call => reading grammars dialect strict call.1 call.2 := by
  induction calls generalizing reader with
  | nil => rfl
  | cons call rest inductionHypothesis =>
      obtain ⟨given, servesStill⟩ := parse_of_serves serves call.1 call.2 []
      rw [parseAll, List.map_cons, given, inductionHypothesis servesStill]

end Reading

namespace Reader

/-- The settings without a cache. -/
def uncached (settings : Settings) : Settings :=
  settings.assign "parsing" "cache_size" (.int 0)

/-- A new reader has read nothing yet, and with the same arguments there is one without a
cache. -/
theorem create_ok
    {dialect strict : Value}
    {settings : Settings}
    {reader : Reader}
    (created : create dialect strict settings = .ok reader) :
    reader.cache.entries = [] ∧
      create dialect strict (uncached settings) =
        .ok { reader with cache := .empty (some 0) } := by
  unfold create at created
  obtain ⟨chosen, isDialect, created⟩ := Effect.ok_of_except_bind created
  obtain ⟨capacity, _, created⟩ := Effect.ok_of_except_bind created
  cases created
  refine ⟨rfl, ?_⟩
  have sameDialect :
      (uncached settings).lookup "parsing" "dialect" (.string "tsx") =
        settings.lookup "parsing" "dialect" (.string "tsx") :=
    Settings.lookup_assign_of_ne (.inr (by decide)) _ _ _
  have sameStrictness :
      (uncached settings).lookup "parsing" "strict" (.bool true) =
        settings.lookup "parsing" "strict" (.bool true) :=
    Settings.lookup_assign_of_ne (.inr (by decide)) _ _ _
  have noCache :
      (uncached settings).lookup "parsing" "cache_size" (.int 128) = .int 0 :=
    Settings.lookup_assign_self _ _ _ _ _
  simp only [create, sameDialect, sameStrictness, noCache, isDialect]
  rfl

end Reader

namespace Reading

/-- Whatever a reader was created with and whatever it has read before, it gives for each
source what a new reader gives that has no cache. -/
theorem parseAll_eq_uncached
    {dialect strict : Value}
    {settings : Settings}
    {reader : Reader}
    (created : Reader.create dialect strict settings = .ok reader)
    (grammars : Grammars)
    (calls : List (Value × Value)) :
    ∃ uncached,
      Reader.create dialect strict (Reader.uncached settings) = .ok uncached ∧
        parseAll grammars reader calls =
          calls.map fun call => (parse grammars call.1 call.2 (uncached, [])).1 := by
  obtain ⟨empty, createdToo⟩ := Reader.create_ok created
  have serves : reader.Serves grammars reader.dialect reader.strict := by
    refine ⟨rfl, rfl, ?_⟩
    rw [RecentCache.IsFaithful, empty]
    exact fun entry isEntry => nomatch isEntry
  have servesToo :
      Reader.Serves grammars reader.dialect reader.strict
        { reader with cache := .empty (some 0) } :=
    ⟨rfl, rfl, RecentCache.isFaithful_empty _ _⟩
  refine ⟨_, createdToo, ?_⟩
  rw [parseAll_of_serves serves]
  apply List.map_congr_left
  intro call _
  exact (parse_of_serves servesToo call.1 call.2 []).1.symm

/-- The tree of `a;`. -/
def statementTree : Node :=
  .ofText "program" none "a;" [
    .ofText "expression_statement" none "a;" [
      .ofText "identifier" none "a" [],
      .token ";"]]

/-- The same source twice with what is no source between, and once without markup. -/
def repeatedCalls : List (Value × Value) :=
  [(.string "a;", .null), (.int 1, .null), (.string "a;", .null), (.string "a;", .bool false)]

/-- A reader that keeps trees answers repeated calls as they were answered at first. -/
theorem parseAll_eq_uncached_repeatedCalls :
    ∃ reader,
      Reader.create .null .null .default = .ok reader ∧
        parseAll (fun _ _ => statementTree) reader repeatedCalls =
          [.ok statementTree, .error (.fault (.invalidType "code" (.int 1) "str")),
            .ok statementTree, .ok statementTree] := by
  have created :
      Reader.create .null .null .default =
        .ok ⟨.tsx, .bool true, [], .empty (some 128)⟩ := by
    rfl
  obtain ⟨uncached, createdToo, same⟩ :=
    parseAll_eq_uncached created (fun _ _ => statementTree) repeatedCalls
  have withoutCache :
      Reader.create .null .null (Reader.uncached .default) =
        .ok ⟨.tsx, .bool true, [], .empty (some 0)⟩ := by
    rfl
  cases withoutCache.symm.trans createdToo
  exact ⟨_, created, same⟩

end Reading
end ComponentOutline
