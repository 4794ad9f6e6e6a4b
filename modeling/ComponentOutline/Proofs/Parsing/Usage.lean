import ComponentOutline.Proofs.Parsing.Recency
import ComponentOutline.Proofs.Parsing.Verdict
import ComponentOutline.Proofs.Syntax.Occurrence

/-!
# When a reader parses

A reader asks its cache for every source that is text, by the text and the grammar, and a
grammar parses it if the cache does not have it.  Whether it does depends only on the texts
and grammars that were asked for before: a use of the same text and grammar is remembered
until as many others were used as the cache can hold.  A source that is refused counts like
any other.
-/

namespace ComponentOutline

namespace RecentCache

variable {κ ι : Type} [DecidableEq κ] [DecidableEq ι]

theorem card_toFinset_map
    {name : κ → ι}
    (injective : Function.Injective name)
    (keys : List κ) :
    (keys.map name).toFinset.card = keys.toFinset.card := by
  rw [List.card_toFinset, List.card_toFinset, List.dedup_map_of_injective injective,
    List.length_map]

/-- Different names for the keys make no difference. -/
theorem isRecent_map_iff
    {name : κ → ι}
    (injective : Function.Injective name)
    {capacity : Option Nat}
    {history : List κ}
    {key : κ} :
    IsRecent capacity (history.map name) (name key) ↔ IsRecent capacity history key := by
  constructor
  · rintro ⟨before, since, split, notSince, fits⟩
    obtain ⟨before, rest, rfl, rfl, mapped⟩ := List.map_eq_append_iff.mp split
    obtain ⟨again, since, rfl, same, rfl⟩ := List.map_eq_cons_iff.mp mapped
    obtain rfl := injective same
    refine ⟨before, since, rfl, fun isMember => notSince (List.mem_map_of_mem isMember), ?_⟩
    intro bound isBound
    rw [← card_toFinset_map injective]
    exact fits bound isBound
  · rintro ⟨before, since, rfl, notSince, fits⟩
    refine ⟨before.map name, since.map name, by simp, ?_, ?_⟩
    · rwa [List.mem_map_of_injective injective]
    · intro bound isBound
      rw [card_toFinset_map injective]
      exact fits bound isBound

end RecentCache

namespace Reading

variable {grammars : Grammars} {reader : Reader}

/-- The text and the grammar that a call asks for; what is no text asks for nothing. -/
def request? (dialect : Dialect) (call : Value × Value) : Option (String × Dialect) :=
  match sourceText call.1 with
  | .ok text => some (text, dialect.grammar call.2)
  | .error _ => none

/-- The texts and grammars that calls ask for. -/
def requests (dialect : Dialect) (calls : List (Value × Value)) : List (String × Dialect) :=
  calls.filterMap (request? dialect)

/-- A reader after one more call, which may have failed. -/
def afterCall (grammars : Grammars) (reader : Reader) (call : Value × Value) : Reader :=
  (parse grammars call.1 call.2 (reader, [])).2.1

/-- A reader after calls, of which any may have failed. -/
def afterCalls (grammars : Grammars) (reader : Reader) (calls : List (Value × Value)) : Reader :=
  calls.foldl (afterCall grammars) reader

/-- A call is counted as a hit, and no grammar is asked for a tree. -/
structure IsHit (grammars : Grammars) (reader : Reader) (call : Value × Value) : Prop where
  hits_eq : (afterCall grammars reader call).cache.hits = reader.cache.hits + 1
  misses_eq : (afterCall grammars reader call).cache.misses = reader.cache.misses
  unasked : ∀ others log,
    parse others call.1 call.2 (reader, log) = parse grammars call.1 call.2 (reader, log)

/-- A call for a text is counted as a miss, and what becomes of it is up to the tree that the
grammar gives for the text. -/
structure IsMiss
    (grammars : Grammars)
    (reader : Reader)
    (call : Value × Value)
    (request : String × Dialect) : Prop where
  hits_eq : (afterCall grammars reader call).cache.hits = reader.cache.hits
  misses_eq : (afterCall grammars reader call).cache.misses = reader.cache.misses + 1
  asked : ∀ (others : Grammars) log,
    (parse others call.1 call.2 (reader, log)).1 =
      verdict reader.strict.isTruthy request.2 (others request.2 request.1)

/-- What a reader keeps and has counted after calls for given texts and grammars, and what it
will do on the next call. -/
structure Accounts
    (grammars : Grammars)
    (dialect : Dialect)
    (capacity : Option Nat)
    (history : List (String × Dialect))
    (reader : Reader) : Prop where
  counted : reader.cache.hits + reader.cache.misses = history.length
  size_eq : reader.cache.size = RecentCache.capped capacity history.toFinset.card
  hit_iff : ∀ call request, request? dialect call = some request →
    (IsHit grammars reader call ↔ RecentCache.IsRecent capacity history request)
  miss_iff : ∀ call request, request? dialect call = some request →
    (IsMiss grammars reader call request ↔ ¬ RecentCache.IsRecent capacity history request)
  /-- Where nothing fits, no call is a hit. -/
  hit_of_zero : capacity = some 0 → ∀ call, ¬ IsHit grammars reader call
  /-- Where everything fits, a call is a hit as soon as its text and grammar were used. -/
  hit_of_none : capacity = none → ∀ call request, request? dialect call = some request →
    (IsHit grammars reader call ↔ request ∈ history)
  /-- A call for what is no text is not counted. -/
  passed : ∀ call, request? dialect call = none → afterCall grammars reader call = reader

/-! ## One call -/

/-- What the tree of a text is kept under. -/
def requestKey (request : String × Dialect) : SourceKey :=
  Reader.keyOf request.2 request.1

/-- Different requests have different keys, as the key holds the code and the grammar. -/
theorem requestKey_injective : Function.Injective requestKey := by
  rintro ⟨text, grammar⟩ ⟨text', grammar'⟩ same
  injection same with _ sameText sameGrammar
  exact Prod.ext sameText sameGrammar

/-- A request asks for the tree of a text in one grammar. -/
theorem request?_eq_some
    {dialect : Dialect}
    {call : Value × Value}
    {request : String × Dialect}
    (asks : request? dialect call = some request) :
    sourceText call.1 = .ok request.1 ∧ dialect.grammar call.2 = request.2 := by
  unfold request? at asks
  split at asks
  · next text isSource =>
      cases asks
      exact ⟨isSource, rfl⟩
  · cases asks

theorem afterCall_of_request
    {call : Value × Value}
    {request : String × Dialect}
    (asks : request? reader.dialect call = some request) :
    afterCall grammars reader call = reader.fetched grammars request.2 request.1 := by
  obtain ⟨isSource, isGrammar⟩ := request?_eq_some asks
  obtain ⟨later, parsed⟩ := parse_apply_of_ok isSource grammars call.2 reader []
  rw [afterCall, parsed, isGrammar]

theorem afterCall_of_none
    {call : Value × Value}
    (asksNothing : request? reader.dialect call = none) :
    afterCall grammars reader call = reader := by
  unfold request? at asksNothing
  split at asksNothing
  · cases asksNothing
  · next failure noSource => rw [afterCall, parse_apply_of_error noSource]

/-- A tree that is kept is fetched without a grammar. -/
theorem fetch_of_kept
    {grammar : Dialect}
    {text : String}
    {tree : Node}
    (kept : reader.cache.get? (Reader.keyOf grammar text) = some tree)
    (grammars : Grammars)
    (log : Log) :
    fetch grammars grammar text (reader, log) =
      (.ok tree,
        { reader with cache := reader.cache.touch (Reader.keyOf grammar text) tree }, log) := by
  unfold fetch
  unfold Reader.keyOf at kept
  rw [Effect.bind_apply_of_ok _ (Effect.get_apply _)]
  simp only [kept]
  rfl

theorem isHit_of_kept
    {call : Value × Value}
    {request : String × Dialect}
    {tree : Node}
    (asks : request? reader.dialect call = some request)
    (kept : reader.cache.get? (requestKey request) = some tree) :
    IsHit grammars reader call := by
  have after : afterCall grammars reader call =
      { reader with cache := reader.cache.touch (requestKey request) tree } := by
    rw [afterCall_of_request asks, Reader.fetched, ← requestKey, kept]
  refine ⟨by rw [after]; rfl, by rw [after]; rfl, fun others log => ?_⟩
  obtain ⟨isSource, isGrammar⟩ := request?_eq_some asks
  have fetched : ∀ others, fetch others (reader.dialect.grammar call.2) request.1 (reader, log) =
      (.ok tree,
        { reader with cache := reader.cache.touch (requestKey request) tree }, log) := by
    rw [isGrammar]
    exact fun others => fetch_of_kept kept others log
  rw [parse, parse, isSource, Effect.bind_apply_of_ok _ (Effect.ofExcept_apply _ _),
    Effect.bind_apply_of_ok _ (Effect.get_apply _), Effect.bind_apply_of_ok _ (fetched others),
    Effect.bind_apply_of_ok _ (Effect.ofExcept_apply _ _),
    Effect.bind_apply_of_ok _ (Effect.get_apply _), Effect.bind_apply_of_ok _ (fetched grammars)]

theorem isMiss_of_not_kept
    {call : Value × Value}
    {request : String × Dialect}
    (asks : request? reader.dialect call = some request)
    (notKept : reader.cache.get? (requestKey request) = none) :
    IsMiss grammars reader call request := by
  have after : (afterCall grammars reader call).cache =
      reader.cache.store (requestKey request) (grammars request.2 request.1) := by
    rw [afterCall_of_request asks, Reader.fetched, ← requestKey, notKept]
  refine ⟨by rw [after]; rfl, by rw [after]; rfl, fun others log => ?_⟩
  obtain ⟨isSource, isGrammar⟩ := request?_eq_some asks
  obtain ⟨later, parsed⟩ := parse_apply_of_ok isSource others call.2 reader log
  rw [parsed, isGrammar, Reader.treeOf]
  change verdict _ _ ((reader.cache.get? (requestKey request)).getD _) = _
  rw [notKept]
  rfl

theorem IsHit.not_isMiss
    {call : Value × Value}
    {request : String × Dialect}
    (hit : IsHit grammars reader call) :
    ¬ IsMiss grammars reader call request := by
  intro miss
  have more := hit.hits_eq
  rw [miss.hits_eq] at more
  omega

/-! ## All calls -/

/-- The cache of a reader of a dialect follows the history of what was asked for. -/
structure Tracks
    (dialect : Dialect)
    (capacity : Option Nat)
    (history : List (String × Dialect))
    (reader : Reader) : Prop where
  dialect_eq : reader.dialect = dialect
  capacity_eq : reader.cache.capacity = capacity
  follows : reader.cache.Follows (history.map requestKey)

namespace Tracks

variable {dialect : Dialect} {capacity : Option Nat} {history : List (String × Dialect)}

/-- A request is kept exactly if it is among the recent ones. -/
theorem kept_iff
    (tracks : Tracks dialect capacity history reader)
    (request : String × Dialect) :
    (∃ tree, reader.cache.get? (requestKey request) = some tree) ↔
      RecentCache.IsRecent capacity history request := by
  rw [tracks.follows.get?_eq_some_iff, tracks.capacity_eq,
    RecentCache.isRecent_map_iff requestKey_injective]

/-- A call for a text is a hit if it is recent and a miss if it is not. -/
theorem hit_or_miss
    (tracks : Tracks dialect capacity history reader)
    (grammars : Grammars)
    {call : Value × Value}
    {request : String × Dialect}
    (asks : request? dialect call = some request) :
    (RecentCache.IsRecent capacity history request ∧ IsHit grammars reader call) ∨
      (¬ RecentCache.IsRecent capacity history request ∧
        IsMiss grammars reader call request) := by
  rw [← tracks.dialect_eq] at asks
  rw [← tracks.kept_iff]
  cases kept : reader.cache.get? (requestKey request) with
  | some tree => exact .inl ⟨⟨tree, rfl⟩, isHit_of_kept asks kept⟩
  | none => exact .inr ⟨nofun, isMiss_of_not_kept asks kept⟩

theorem isHit_iff
    (tracks : Tracks dialect capacity history reader)
    (grammars : Grammars)
    {call : Value × Value}
    {request : String × Dialect}
    (asks : request? dialect call = some request) :
    IsHit grammars reader call ↔ RecentCache.IsRecent capacity history request := by
  obtain ⟨recent, hit⟩ | ⟨forgotten, miss⟩ := tracks.hit_or_miss grammars asks
  · exact iff_of_true hit recent
  · exact iff_of_false (fun hit => hit.not_isMiss miss) forgotten

theorem afterCall_eq_self
    (tracks : Tracks dialect capacity history reader)
    (grammars : Grammars)
    {call : Value × Value}
    (asksNothing : request? dialect call = none) :
    afterCall grammars reader call = reader := by
  rw [← tracks.dialect_eq] at asksNothing
  exact afterCall_of_none asksNothing

/-- The counts of a reader are those that its history calls for. -/
theorem accounts
    (tracks : Tracks dialect capacity history reader)
    (grammars : Grammars) :
    Accounts grammars dialect capacity history reader := by
  constructor
  case counted => rw [tracks.follows.counted, List.length_map]
  case size_eq =>
    rw [tracks.follows.size_eq, tracks.capacity_eq,
      RecentCache.card_toFinset_map requestKey_injective]
  case hit_iff => exact fun call request asks => tracks.isHit_iff grammars asks
  case miss_iff =>
    intro call request asks
    obtain ⟨recent, hit⟩ | ⟨forgotten, miss⟩ := tracks.hit_or_miss grammars asks
    · exact iff_of_false hit.not_isMiss (not_not_intro recent)
    · exact iff_of_true miss forgotten
  case hit_of_zero =>
    rintro rfl call hit
    cases asks : request? dialect call with
    | none =>
        have counted := hit.hits_eq
        rw [tracks.afterCall_eq_self grammars asks] at counted
        omega
    | some request =>
        have recent := (tracks.isHit_iff grammars asks).mp hit
        exact RecentCache.not_isRecent_zero history request recent
  case hit_of_none =>
    rintro rfl call request asks
    rw [tracks.isHit_iff grammars asks, RecentCache.isRecent_none_iff]
  case passed => exact fun call asksNothing => tracks.afterCall_eq_self grammars asksNothing

/-- One more call for a text is one more use. -/
theorem afterCall_of_request
    (tracks : Tracks dialect capacity history reader)
    (grammars : Grammars)
    {call : Value × Value}
    {request : String × Dialect}
    (asks : request? dialect call = some request) :
    Tracks dialect capacity (history ++ [request]) (afterCall grammars reader call) := by
  rw [← tracks.dialect_eq] at asks
  rw [Reading.afterCall_of_request asks]
  have follows := tracks.follows
  refine ⟨by rw [Reader.fetched_dialect, tracks.dialect_eq], ?_, ?_⟩
  · rw [← tracks.capacity_eq, Reader.fetched]
    split
    · rfl
    · rfl
  · rw [List.map_append, List.map_singleton, Reader.fetched]
    split
    · next tree kept => exact follows.touch kept tree
    · next notKept => exact follows.store notKept (grammars request.2 request.1)

/-- Whatever is called, the history explains the reader. -/
theorem afterCalls
    (tracks : Tracks dialect capacity history reader)
    (grammars : Grammars)
    (calls : List (Value × Value)) :
    Tracks dialect capacity (history ++ requests dialect calls)
      (afterCalls grammars reader calls) := by
  induction calls generalizing history reader with
  | nil =>
      rw [requests, List.filterMap_nil, List.append_nil]
      exact tracks
  | cons call rest inductionHypothesis =>
      rw [requests, List.filterMap_cons, Reading.afterCalls, List.foldl_cons]
      cases asks : request? dialect call with
      | none =>
          rw [← tracks.dialect_eq] at asks
          rw [afterCall_of_none asks]
          exact inductionHypothesis tracks
      | some request =>
          have more := inductionHypothesis (tracks.afterCall_of_request grammars asks)
          rwa [List.append_assoc] at more

end Tracks

/-- A new reader has no history. -/
theorem tracks_of_create
    {dialect strict : Value}
    {settings : Settings}
    (created : Reader.create dialect strict settings = .ok reader) :
    Tracks reader.dialect reader.cache.capacity [] reader := by
  unfold Reader.create at created
  obtain ⟨chosen, -, created⟩ := Effect.ok_of_except_bind created
  obtain ⟨capacity, -, created⟩ := Effect.ok_of_except_bind created
  cases created
  exact ⟨rfl, rfl, RecentCache.follows_empty capacity⟩

/-- After any calls of a new reader its cache accounts for the texts and grammars that they
asked for, and it is settled which calls will be hits and which will be misses. -/
theorem afterCalls_accounts
    {dialect strict : Value}
    {settings : Settings}
    (created : Reader.create dialect strict settings = .ok reader)
    (grammars : Grammars)
    (calls : List (Value × Value)) :
    Accounts grammars reader.dialect reader.cache.capacity (requests reader.dialect calls)
      (afterCalls grammars reader calls) :=
  ((tracks_of_create created).afterCalls grammars calls).accounts grammars

/-- Two sources, the first of them also without markup, and what is no source. -/
def alternatingCalls : List (Value × Value) :=
  [(.string "a;", .null), (.int 1, .null), (.string "b;", .null), (.string "a;", .bool false)]

/-- Grammars for which a program has no parts. -/
def bareGrammars : Grammars :=
  fun _ text => .ofText "program" none text []

/-- With room for two trees, the third one takes the place of the first; the second one is
still there. -/
theorem afterCalls_accounts_alternatingCalls :
    ∃ reader,
      Reader.create .null .null (Settings.default.assign "parsing" "cache_size" (.int 2)) =
          .ok reader ∧
        (afterCalls bareGrammars reader alternatingCalls).cache.size = 2 ∧
        IsHit bareGrammars (afterCalls bareGrammars reader alternatingCalls)
          (.string "b;", .null) ∧
        IsMiss bareGrammars (afterCalls bareGrammars reader alternatingCalls)
          (.string "a;", .null) ("a;", .tsx) := by
  have created :
      Reader.create .null .null (Settings.default.assign "parsing" "cache_size" (.int 2)) =
        .ok ⟨.tsx, .bool true, [], .empty (some 2)⟩ := by
    rfl
  have accounts := afterCalls_accounts created bareGrammars alternatingCalls
  have history : requests .tsx alternatingCalls =
      [("a;", .tsx), ("b;", .tsx), ("a;", .typescript)] := by
    rfl
  rw [history] at accounts
  refine ⟨_, created, ?_, ?_, ?_⟩
  · rw [accounts.size_eq]
    decide
  · rw [accounts.hit_iff _ ("b;", .tsx) rfl, ← RecentCache.mem_fitting_iff]
    decide
  · rw [accounts.miss_iff _ _ rfl, ← RecentCache.mem_fitting_iff]
    decide

end Reading
end ComponentOutline
