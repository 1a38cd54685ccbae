import Mathlib.Data.List.Induction
import Mathlib.Data.List.Perm.Basic
import Vigil.Proofs.Context.Transparency
import Vigil.Proofs.Newest
import Vigil.Proofs.Watch.Bindings

/-!
# What a parse cache keeps

A cache has its entries and a queue of their texts, and only reading a text that is an expression,
and that is not kept already, changes either of them.  These readings are the *misses*.  After any
number of readings the queue holds the newest misses, as many as there is room for, and there are
entries for just these texts.  The step of the argument is `ParseCache.Tidy.parse`: what one reading
does to a cache whose queue and entries belong together.

A context reads a text where it is asked to parse it, to compile it, or to evaluate it.  All of this
is a single operation of a world, so the texts that have been read stand in its history of
operations.
-/

namespace Vigil

namespace Table

variable {κ ν : Type} [DecidableEq κ] {table : Table κ ν} {key : κ}

theorem keys_put_of_absent (absent : table.get? key = none) (value : ν) :
    (table.put key value).keys = table.keys ++ [key] := by
  rw [keys, entries_put_of_absent absent, List.map_append]
  rfl

theorem keys_erase_of_oldest {rest : List κ} (oldest : table.keys = key :: rest) :
    (table.erase key).keys = rest := by
  have distinct : (key :: rest).Nodup := oldest ▸ table.distinct
  have others : ∀ other ∈ rest, other ≠ key := by
    rintro other member rfl
    exact (List.nodup_cons.mp distinct).1 member
  have kept : (table.erase key).keys = table.keys.filter (· ≠ key) := by
    rw [keys, keys, List.filter_map]
    rfl
  rw [kept, oldest, List.filter_cons_of_neg (by simp), List.filter_eq_self]
  simpa using others

end Table

namespace ParseCache

variable {cache : ParseCache}

/-! ## Readings that change a cache -/

/-- Whether reading a text builds a tree: it is an expression for which none is kept. -/
def builds (cache : ParseCache) (source : String) : Bool :=
  (cache.get? source).isNone && (Expression.parse source).toOption.isSome

/-- A text that is found changes nothing, and neither does one that is no expression. -/
theorem parse_cases (cache : ParseCache) (source : String) :
    (cache.builds source = false ∧ (cache.parse source).2 = cache) ∨
      (cache.builds source = true ∧ cache.get? source = none ∧
        ∃ parsed : Parsed, parsed.expression.source = source ∧
          (cache.parse source).2 = { cache.insert parsed with built := cache.built + 1 }) := by
  rw [builds, parse]
  cases found : cache.get? source with
  | some parsed => exact .inl ⟨rfl, rfl⟩
  | none =>
      cases read : Expression.parse source with
      | error error => exact .inl ⟨rfl, rfl⟩
      | ok expression =>
          exact .inr ⟨rfl, rfl, ⟨expression, cache.built⟩, Expression.source_of_parse read, rfl⟩

/-! ## One reading -/

/-- The queue and the entries of a cache belong together, and they have room. -/
structure Tidy (cache : ParseCache) : Prop where
  keys : cache.entries.keys = cache.queue
  own : ∀ source parsed, cache.get? source = some parsed → parsed.expression.source = source
  room : cache.queue.length ≤ cache.capacity

theorem new_tidy (capacity : Nat) : (new capacity).Tidy where
  keys := rfl
  own := by
    intro source parsed found
    cases found
  room := Nat.zero_le capacity

/-- The entries that stay are those of the newest texts, one fewer than there may be. -/
theorem keys_makeRoom (room : Nat) {entries : Table String Parsed} {queue : List String}
    (same : entries.keys = queue) :
    (makeRoom (room + 1) entries queue).2 = queue.rtake room ∧
      (makeRoom (room + 1) entries queue).1.keys = queue.rtake room := by
  induction queue generalizing entries with
  | nil =>
      rw [List.rtake_nil]
      exact ⟨rfl, same⟩
  | cons oldest rest induction =>
      have size : entries.size = rest.length + 1 := by
        rw [Table.size, ← List.length_map Prod.fst, ← Table.keys, same, List.length_cons]
      rw [makeRoom, size]
      split
      · next fits =>
        have small : (oldest :: rest).length ≤ room := Nat.le_of_lt_succ fits
        rw [rtake_of_length_le small]
        exact ⟨rfl, same⟩
      · next full =>
        -- The oldest text goes from the queue and from the entries, which still belong together.
        rw [rtake_cons_of_le oldest (by omega)]
        exact induction (Table.keys_erase_of_oldest same)

namespace Tidy

variable (tidy : cache.Tidy)
include tidy

theorem distinct : cache.queue.Nodup :=
  tidy.keys ▸ cache.entries.distinct

theorem size_le : cache.entries.size ≤ cache.capacity := by
  rw [Table.size, ← List.length_map Prod.fst, ← Table.keys, tidy.keys]
  exact tidy.room

/-- A new expression comes last, and the oldest ones make room for it. -/
theorem insert {parsed : Parsed} (new : cache.get? parsed.expression.source = none) :
    (cache.insert parsed).Tidy ∧ (cache.insert parsed).capacity = cache.capacity ∧
      (cache.insert parsed).queue =
        (cache.queue ++ [parsed.expression.source]).rtake cache.capacity := by
  cases capacity : cache.capacity with
  | zero =>
      have unchanged : cache.insert parsed = cache := by
        rw [ParseCache.insert, capacity]
        rfl
      have nothing : cache.queue = [] :=
        List.eq_nil_of_length_eq_zero (Nat.eq_zero_of_le_zero (capacity ▸ tidy.room))
      rw [unchanged, List.rtake_zero]
      exact ⟨tidy, capacity, nothing⟩
  | succ room =>
      have older : ∀ source other,
          (makeRoom (room + 1) cache.entries cache.queue).1.get? source = some other →
            cache.get? source = some other := fun _ _ => get?_of_makeRoom
      have newest := keys_makeRoom room tidy.keys
      rw [ParseCache.insert, new, capacity, if_neg (by simp), List.rtake_concat_succ]
      generalize makeRoom (room + 1) cache.entries cache.queue = made at older newest ⊢
      rcases made with ⟨entries, queue⟩
      rcases newest with ⟨rfl, keys⟩
      have absent : entries.get? parsed.expression.source = none := by
        cases found : entries.get? parsed.expression.source with
        | none => rfl
        | some earlier => exact (older _ _ found).symm.trans new
      refine ⟨⟨?keys, ?own, ?room⟩, rfl, rfl⟩
      case keys =>
        show (entries.put _ parsed).keys = _
        rw [Table.keys_put_of_absent absent, keys]
      case own =>
        intro source other found
        by_cases same : source = parsed.expression.source
        · rw [same, get?, Table.get?_put_self] at found
          cases found
          exact same.symm
        · rw [get?, Table.get?_put_ne _ _ same] at found
          exact tidy.own source other (older source other found)
      case room =>
        rw [List.length_append, length_rtake]
        exact Nat.succ_le_succ (Nat.min_le_left room _)

/-- What one reading does. -/
theorem parse (source : String) :
    (cache.parse source).2.Tidy ∧ (cache.parse source).2.capacity = cache.capacity ∧
      (cache.parse source).2.queue =
        if cache.builds source then (cache.queue ++ [source]).rtake cache.capacity
        else cache.queue := by
  rcases cache.parse_cases source with ⟨idle, same⟩ | ⟨builds, new, parsed, rfl, read⟩
  · rw [idle, same]
    exact ⟨tidy, rfl, rfl⟩
  · rcases tidy.insert new with ⟨kept, capacity, queue⟩
    rw [builds, read]
    exact ⟨⟨kept.keys, kept.own, kept.room⟩, capacity, queue⟩

end Tidy

/-! ## Any number of readings -/

/-- The cache after some texts have been read, one after the other. -/
def readAll (cache : ParseCache) (texts : List String) : ParseCache :=
  texts.foldl (fun cache source => (cache.parse source).2) cache

/-- The texts among some for which a tree was built as they were read, in the order of reading. -/
def misses (cache : ParseCache) : List String → List String
  | [] => []
  | source :: rest =>
    if cache.builds source then source :: (cache.parse source).2.misses rest
    else (cache.parse source).2.misses rest

theorem readAll_append (cache : ParseCache) (texts more : List String) :
    cache.readAll (texts ++ more) = (cache.readAll texts).readAll more :=
  List.foldl_append

theorem misses_concat (cache : ParseCache) (texts : List String) (source : String) :
    cache.misses (texts ++ [source]) =
      cache.misses texts ++ if (cache.readAll texts).builds source then [source] else [] := by
  induction texts generalizing cache with
  | nil => rfl
  | cons first rest induction =>
      rw [List.cons_append, misses, misses, induction]
      split
      · rfl
      · rfl

/-- The newest misses are in the queue. -/
theorem readAll_tidy (capacity : Nat) (texts : List String) :
    ((new capacity).readAll texts).Tidy ∧ ((new capacity).readAll texts).capacity = capacity ∧
      ((new capacity).readAll texts).queue = ((new capacity).misses texts).rtake capacity := by
  induction texts using List.reverseRecOn with
  | nil =>
      rw [misses, List.rtake_nil]
      exact ⟨new_tidy capacity, rfl, rfl⟩
  | append_singleton earlier source induction =>
      rcases induction with ⟨tidy, room, queue⟩
      rcases tidy.parse source with ⟨kept, same, newer⟩
      rw [readAll_append, misses_concat]
      refine ⟨kept, same.trans room, newer.trans ?_⟩
      rw [queue, room]
      split
      · rw [rtake_newest_append]
      · rw [List.append_nil]

end ParseCache

namespace Hosting

variable {host : Host}

/-! ## Worlds -/

theorem World.cache_carryOut (world : World host) (operation : Operation host) :
    (world.carryOut operation).context.cache =
      world.context.cache.readAll operation.text?.toList := by
  cases operation with
  | parse source => rfl
  | _ => exact (world.spares_carryOut _).cache rfl

theorem World.cache_afterAll (world : World host) (operations : List (Operation host)) :
    (world.afterAll operations).context.cache =
      world.context.cache.readAll (operations.filterMap Operation.text?) := by
  induction operations using List.reverseRecOn with
  | nil => rfl
  | append_singleton earlier last induction =>
      rw [afterAll_concat, cache_carryOut, induction, ← ParseCache.readAll_append,
        List.filterMap_append]
      cases text : last.text? <;> simp [text]

/--
After any operations, the queue and the entries of a cache hold the same texts, each once and over
its own expression, and no more of them than there is room for.  They are the newest misses: a hit
changes nothing, and a text that was let go and is read again is the newest.  Compiling and
evaluating read a text in the same way before they do anything else, and whatever code of a host
does is a history of such operations.
-/
theorem newest_misses_are_kept (capacity : Nat) (events : EventBindings)
    (strategies : StrategyTable) (data : host.Data) (operations : List (Operation host)) :
    let world := (World.opened capacity events strategies data).afterAll operations
    let cache := world.context.cache
    let missed := (ParseCache.new capacity).misses (operations.filterMap Operation.text?)
    (cache.entries.keys.Perm cache.queue ∧
      cache.queue.Nodup ∧
      (∀ source parsed, cache.get? source = some parsed → parsed.expression.source = source) ∧
      cache.entries.size ≤ capacity) ∧
    (cache.queue = missed.rtake capacity ∧ cache.queue.length = min capacity missed.length) ∧
    (∀ source parsed, cache.get? source = some parsed →
      cache.parse source = (.ok parsed, cache)) ∧
    (∀ source expression, cache.get? source = none → Expression.parse source = .ok expression →
      (cache.parse source).2.queue = (cache.queue ++ [source]).rtake capacity ∧
        (0 < capacity → (cache.parse source).2.queue.getLast? = some source)) ∧
    (∀ (program : Program host) (depth : Nat) (source : String),
      let handlers := program.handlers depth
      let parsed := world.carryOut (.parse source)
      (perform handlers (.parse source)).after world = parsed ∧
        (perform handlers (.compile source)).after world = parsed ∧
        parsed.Evolves ((perform handlers (.evaluateText source)).after world) ∧
        parsed.Evolves ((Context.isTrue handlers.sensor source : Action host _).after world)) ∧
    ∀ (program : Program host) (depth : Nat) {α : Type} (procedure : Procedure host α),
      ∃ later, (procedure.run (program.handlers depth)).after world = world.afterAll later := by
  intro world cache missed
  have history : cache = (ParseCache.new capacity).readAll (operations.filterMap Operation.text?) :=
    World.cache_afterAll _ operations
  rcases ParseCache.readAll_tidy capacity (operations.filterMap Operation.text?) with
    ⟨tidy, room, queue⟩
  rw [← history] at tidy room queue
  refine ⟨⟨?same, tidy.distinct, tidy.own, room ▸ tidy.size_le⟩, ⟨queue, ?count⟩, ?hit, ?miss,
    ?asked, ?runs⟩
  case same =>
    rw [tidy.keys]
  case count => rw [queue, length_rtake]
  case hit =>
    intro source parsed found
    rw [ParseCache.parse, found]
  case miss =>
    intro source expression new read
    have builds : cache.builds source = true := by
      rw [ParseCache.builds, new, read]
      rfl
    have newer := (tidy.parse source).2.2
    rw [builds, if_pos rfl, room] at newer
    refine ⟨newer, fun positive => ?_⟩
    rcases Nat.exists_eq_succ_of_ne_zero positive.ne' with ⟨others, rfl⟩
    rw [newer, List.rtake_concat_succ, List.getLast?_concat]
  case asked =>
    intro program depth source handlers parsed
    have evaluated : parsed.Evolves ((Context.evaluateText handlers.sensor source).after world) :=
      evaluateText_after_parse World.linking_evolves (program.handlers_evolving depth).linked
        source world
    refine ⟨rfl, ?_, evaluated, ?_⟩
    · show world.withContext (world.context.compile source).2 = _
      rw [Context.compile_context]
      rfl
    · rw [Context.isTrue, Action.after_bind_pure]
      exact evaluated
  case runs =>
    intro program depth α procedure
    exact World.evolves_iff.mp (procedure.run_evolving (program.handlers_evolving depth) world)

end Hosting

end Vigil
