import Vigil.Proofs.Context.Parsing
import Vigil.Proofs.Context.Relation
import Vigil.Proofs.Hosting.Program

/-!
# The parse cache is transparent

A context with a cache answers what a context that keeps nothing answers, however large the cache
is and whatever has been kept and let go.  Only the numbers of trees tell the two apart, and the
cache itself; a host that is not shown them ends alike in both, whatever it asks for and in whatever
order, also from inside its sensors, callbacks and probes.

The invariant is that two worlds differ in nothing but their caches, one of which is sound while the
other keeps nothing.
-/

namespace Vigil

/-! ## Caches that keep nothing -/

/-- A cache without room. -/
structure ParseCache.Disabled (cache : ParseCache) : Prop where
  capacity : cache.capacity = 0
  empty : ∀ source, cache.get? source = none

namespace ParseCache.Disabled

theorem new : (ParseCache.new 0).Disabled :=
  ⟨rfl, fun _ => rfl⟩

variable {cache : ParseCache} (disabled : cache.Disabled)
include disabled

theorem sound : cache.Sound := by
  intro source parsed found
  rw [disabled.empty] at found
  cases found

theorem parse (source : String) : (cache.parse source).2.Disabled := by
  rw [ParseCache.parse, disabled.empty]
  cases Expression.parse source with
  | error error => exact disabled
  | ok expression =>
      have inserted : cache.insert ⟨expression, cache.built⟩ = cache := by
        rw [insert, disabled.capacity]
        rfl
      dsimp only
      rw [inserted]
      exact ⟨disabled.capacity, disabled.empty⟩

end ParseCache.Disabled

namespace Context

variable {host : Host}

/-- Put another cache in place. -/
def withCache (context : Context host) (cache : ParseCache) : Context host :=
  { context with cache }

@[simp]
theorem withCache_registry (context : Context host) (cache : ParseCache) :
    (context.withCache cache).registry = context.registry :=
  rfl

@[simp]
theorem withCache_watcher (context : Context host) (cache : ParseCache) :
    (context.withCache cache).watcher = context.watcher :=
  rfl

@[simp]
theorem withCache_poller (context : Context host) (cache : ParseCache) :
    (context.withCache cache).poller = context.poller :=
  rfl

/-- The second context is the first one without its cache, which is sound. -/
structure AlikeUpToCache (context context' : Context host) : Prop where
  same : context' = context.withCache context'.cache
  sound : context.cache.Sound
  disabled : context'.cache.Disabled

/-! ## Operations that do not look at the cache -/

/-- A change of the context comes to the same with every cache, and it keeps the cache. -/
def Heedless {α : Type} (change : Context host → α × Context host) : Prop :=
  ∀ (context : Context host) (cache : ParseCache),
    change (context.withCache cache) = ((change context).1, (change context).2.withCache cache)

namespace Heedless

theorem register (name : String) (arity : Nat) (code : host.Sensor) :
    Heedless fun context : Context host => context.register name arity code := by
  intro context cache
  simp only [Context.register, withCache_registry]
  split <;> rfl

theorem registerBuiltins : Heedless fun context : Context host => context.registerBuiltins :=
  fun _ _ => rfl

theorem subscribe (source : String) (callback : host.Callback) :
    Heedless fun context : Context host => context.subscribe source callback := by
  intro context cache
  simp only [Context.subscribe, withCache_watcher]
  cases Token.namesIn source with
  | error error => rfl
  | ok names =>
      by_cases unloaded : context.watcher.unloaded = true <;>
        simp [unloaded, withCache, Context.log]

theorem unsubscribe (id : SubscriptionId) :
    Heedless fun context : Context host => context.unsubscribe id := by
  intro context cache
  simp only [Context.unsubscribe, withCache_watcher]
  by_cases removed : (context.watcher.unsubscribe id).1 = true <;>
    simp [removed, withCache, Context.log]

theorem bindEvent (event : String) (names : List String) :
    Heedless fun context : Context host => ((), context.bindEvent event names) := by
  intro context cache
  simp only [Context.bindEvent, withCache_watcher]
  by_cases unloaded : context.watcher.unloaded = true <;> simp [unloaded, withCache]

theorem addProbe (sensor : String) (code : host.Probe) :
    Heedless fun context : Context host => context.addProbe sensor code := by
  intro context cache
  simp only [Context.addProbe, withCache_watcher, withCache_poller]
  by_cases unloaded : context.watcher.unloaded = true
  · simp [unloaded, withCache]
  · cases context.poller.add sensor code <;> simp [unloaded, withCache, Context.log]

theorem log (level : Log.Level) (message : String) (fields : List (String × String)) :
    Heedless fun context : Context host => ((), context.log level message fields) :=
  fun _ _ => rfl

theorem observeAll (samples : List (String × Value)) :
    Heedless fun context : Context host => context.observeAll samples := by
  intro context cache
  refine Prod.ext rfl ?_
  show List.foldl _ _ _ = withCache (List.foldl _ _ _) cache
  rw [← List.foldl_hom (withCache · cache)]
  · rfl
  · exact fun _ _ => rfl

theorem unload : Heedless fun context : Context host => ((), context.unload) :=
  fun _ _ => rfl

theorem store (data : host.Data) :
    Heedless fun context : Context host => ((), { context with data }) :=
  fun _ _ => rfl

end Heedless

/-! ## Contexts that are alike -/

/-- The same expression was read, or there is the same error. -/
def ReadAlike {ε : Type} (outcome outcome' : Except ε Parsed) : Prop :=
  outcome.map Parsed.expression = outcome'.map Parsed.expression

namespace AlikeUpToCache

variable {context context' : Context host} (alike : AlikeUpToCache context context')
include alike

theorem registry : context'.registry = context.registry := by
  rw [alike.same, withCache_registry]

theorem watcher : context'.watcher = context.watcher := by
  rw [alike.same, withCache_watcher]

theorem poller : context'.poller = context.poller := by
  rw [alike.same, withCache_poller]

theorem events : context'.events = context.events := by
  rw [alike.same, withCache]

theorem heedless {α : Type} {change : Context host → α × Context host}
    (heedless : Heedless change) :
    (change context).1 = (change context').1 ∧
      AlikeUpToCache (change context).2 (change context').2 := by
  have kept : (change context).2.cache = context.cache :=
    congrArg (fun ended => ended.2.cache) (heedless context context.cache)
  have changed := heedless context context'.cache
  rw [← alike.same] at changed
  rw [changed]
  exact ⟨rfl, rfl, kept ▸ alike.sound, alike.disabled⟩

/-- Both contexts read what the text parses to. -/
theorem parse (source : String) :
    ReadAlike (context.parse source).1 (context'.parse source).1 ∧
      AlikeUpToCache (context.parse source).2 (context'.parse source).2 := by
  have outcome := alike.sound.parse_outcome source
  have outcome' := alike.disabled.sound.parse_outcome source
  refine ⟨outcome.trans outcome'.symm, ?_, alike.sound.parse source, alike.disabled.parse source⟩
  have same := congrArg (Context.withCache · (context'.cache.parse source).2) alike.same
  exact same

theorem compile (source : String) :
    ReadAlike (context.compile source).1 (context'.compile source).1 ∧
      AlikeUpToCache (context.compile source).2 (context'.compile source).2 := by
  have later := (alike.parse source).2
  cases read : Expression.parse source with
  | error error =>
      rw [compile_of_unread alike.sound read, compile_of_unread alike.disabled.sound read]
      exact ⟨rfl, later⟩
  | ok expression =>
      rcases compile_of_read alike.sound read with ⟨number, compiled⟩
      rcases compile_of_read alike.disabled.sound read with ⟨number', compiled'⟩
      rw [compiled, compiled', alike.registry]
      cases expression.tree.check context.registry with
      | error error => exact ⟨rfl, later⟩
      | ok => exact ⟨rfl, later⟩

end AlikeUpToCache

end Context

namespace Hosting

variable {host : Host}

/-! ## Actions that end alike -/

/-- Worlds with the same events, whose contexts differ in nothing but the cache. -/
structure World.Alike (world world' : World host) : Prop where
  events : world'.events = world.events
  context : world.context.AlikeUpToCache world'.context

namespace World.Alike

variable {world world' : World host} (alike : world.Alike world')
include alike

theorem withContext {context context' : Context host}
    (later : Context.AlikeUpToCache context context') :
    (world.withContext context).Alike (world'.withContext context') :=
  ⟨alike.events, later⟩

theorem record (event : Event host) : (world.record event).Alike (world'.record event) :=
  ⟨congrArg (· ++ [event]) alike.events, alike.context⟩

theorem subscribe (source : String) (callback : host.Callback) :
    (world.subscribe source callback).1 = (world'.subscribe source callback).1 ∧
      (world.subscribe source callback).2.Alike (world'.subscribe source callback).2 := by
  have subscribed := alike.context.heedless (.subscribe source callback)
  simp only [World.subscribe]
  generalize world.context.subscribe source callback = ended at subscribed ⊢
  generalize world'.context.subscribe source callback = ended' at subscribed ⊢
  rcases ended with ⟨error | id, context⟩ <;> rcases ended' with ⟨error' | id', context'⟩ <;>
    rcases subscribed with ⟨⟨⟩, later⟩
  · exact ⟨rfl, alike.withContext later⟩
  · exact ⟨rfl, (alike.withContext later).record _⟩

theorem unsubscribe (id : SubscriptionId) :
    (world.unsubscribe id).1 = (world'.unsubscribe id).1 ∧
      (world.unsubscribe id).2.Alike (world'.unsubscribe id).2 := by
  have unsubscribed := alike.context.heedless (.unsubscribe id)
  simp only [World.unsubscribe]
  generalize world.context.unsubscribe id = ended at unsubscribed ⊢
  generalize world'.context.unsubscribe id = ended' at unsubscribed ⊢
  rcases ended with ⟨removed, context⟩
  rcases ended' with ⟨removed', context'⟩
  rcases unsubscribed with ⟨same, later⟩
  cases same
  cases removed with
  | false => exact ⟨rfl, alike.withContext later⟩
  | true => exact ⟨rfl, (alike.withContext later).record _⟩

theorem unload : world.unload.Alike world'.unload :=
  (alike.withContext (alike.context.heedless .unload).2).record .unloaded

end World.Alike

/-- Two runs end in worlds that are alike, with related results or for the same reason. -/
inductive EndsAlike {α β : Type} (related : α → β → Prop) :
    EStateM.Result Stop (World host) α → EStateM.Result Stop (World host) β → Prop
  | ok {result : α} {result' : β} {world world' : World host}
      (same : related result result') (alike : world.Alike world') :
      EndsAlike related (.ok result world) (.ok result' world')
  | error (stop : Stop) {world world' : World host} (alike : world.Alike world') :
      EndsAlike related (.error stop world) (.error stop world')

/-- From worlds that are alike two actions end alike. -/
def Action.Transparent {α β : Type} (related : α → β → Prop)
    (action : Action host α) (action' : Action host β) : Prop :=
  ∀ world world', world.Alike world' → EndsAlike related (action world) (action' world')

namespace Action.Transparent

variable {α β α' β' : Type} {related : α → β → Prop} {related' : α' → β' → Prop}

theorem pure {result : α} {result' : β} (same : related result result') :
    Transparent related (Pure.pure result : Action host α) (Pure.pure result') :=
  fun _ _ alike => .ok same alike

theorem throw (stop : Stop) :
    Transparent related (throwThe Stop stop : Action host α) (throwThe Stop stop) :=
  fun _ _ alike => .error stop alike

theorem bind {action : Action host α} {action' : Action host β}
    {next : α → Action host α'} {next' : β → Action host β'}
    (first : Transparent related action action')
    (second : ∀ result result', related result result' →
      Transparent related' (next result) (next' result')) :
    Transparent related' (action >>= next) (action' >>= next') := by
  intro world world' alike
  have begun := first world world' alike
  generalize ran : action world = ended at begun
  generalize ran' : action' world' = ended' at begun
  cases begun with
  | ok same later =>
      rw [bind_of_ok ran, bind_of_ok ran']
      exact second _ _ same _ _ later
  | error stop later =>
      rw [bind_of_error ran, bind_of_error ran']
      exact .error stop later

theorem weaken {related' : α → β → Prop} {action : Action host α} {action' : Action host β}
    (ends : Transparent related action action')
    (weaker : ∀ result result', related result result' → related' result result') :
    Transparent related' action action' := by
  intro world world' alike
  have ended := ends world world' alike
  generalize action world = result at ended ⊢
  generalize action' world' = result' at ended ⊢
  cases ended with
  | ok same later => exact .ok (weaker _ _ same) later
  | error stop later => exact .error stop later

theorem look {next : Context host → Action host α} {next' : Context host → Action host β}
    (further : ∀ context context', Context.AlikeUpToCache context context' →
      Transparent related (next context) (next' context')) :
    Transparent related (getThe (Context host) >>= next) (getThe (Context host) >>= next') :=
  fun world world' alike => further _ _ alike.context world world' alike

theorem modifyGet {change : Context host → α × Context host}
    {change' : Context host → β × Context host}
    (changed : ∀ context context', Context.AlikeUpToCache context context' →
      related (change context).1 (change' context').1 ∧
        Context.AlikeUpToCache (change context).2 (change' context').2) :
    Transparent related (modifyGetThe (Context host) change : Action host α)
      (modifyGetThe (Context host) change') := by
  intro world world' alike
  rcases changed _ _ alike.context with ⟨same, later⟩
  exact .ok same ⟨alike.events, later⟩

theorem heedless {change : Context host → α × Context host} (heedless : Context.Heedless change) :
    Transparent Eq (modifyGetThe (Context host) change : Action host α)
      (modifyGetThe (Context host) change) :=
  modifyGet fun _ _ alike => alike.heedless heedless

theorem update {change : World host → α × World host}
    (changed : ∀ {world world' : World host}, world.Alike world' →
      (change world).1 = (change world').1 ∧ (change world).2.Alike (change world').2) :
    Transparent Eq (Action.update change) (Action.update change) := by
  intro world world' alike
  rcases changed alike with ⟨same, later⟩
  exact .ok same later

theorem record (event : Event host) :
    Transparent Eq (Action.record event) (Action.record event) :=
  update fun alike => ⟨rfl, alike.record event⟩

theorem settle {action action' : Action host (Except String Unit)}
    (ends : Transparent Eq action action') :
    Transparent Eq (Action.settle action) (Action.settle action') := by
  intro world world' alike
  have ended := ends world world' alike
  rw [Action.settle, Action.settle]
  generalize action world = result at ended ⊢
  generalize action' world' = result' at ended ⊢
  cases ended with
  | @ok outcome _ _ _ same later =>
      subst same
      cases outcome with
      | ok => exact .ok rfl later
      | error message => exact .ok rfl later
  | error stop later =>
      cases stop with
      | panic message? => exact .ok rfl later
      | halt => exact .error .halt later

end Action.Transparent

/-- Delivery does not look at the cache. -/
def transparency : ContextRelation host (Action host) (Action host) where
  Holds := Action.Transparent Eq
  holds_pure := fun _ => .pure rfl
  holds_bind := fun first second => first.bind fun _ _ same => same ▸ second _
  Alike := Context.AlikeUpToCache
  registry_eq := Context.AlikeUpToCache.registry
  watcher_eq := Context.AlikeUpToCache.watcher
  events_eq := Context.AlikeUpToCache.events
  holds_look := .look
  Told := fun _ => True
  told_of_delivery := fun _ _ => trivial
  holds_report := fun _ level fields => .heedless (.log level _ fields)

theorem Action.Transparent.map {α β : Type} (change : α → β) {action action' : Action host α}
    (ends : Transparent Eq action action') :
    Transparent Eq (change <$> action) (change <$> action') :=
  ends.bind fun _ _ same => .pure (congrArg change same)

/-! ## Requests -/

/-- What a host is shown of an answer: neither the numbers of trees nor the cache. -/
def Request.shown : (request : Request host) → request.Answer → request.Answer
  | .parse _, answer => answer.map fun parsed => { parsed with number := 0 }
  | .compile _, answer => answer.map fun parsed => { parsed with number := 0 }
  | .look, context => context.withCache (.new 0)
  | _, answer => answer

/-- Code that sees of each answer what is shown. -/
def Procedure.veiled {α : Type} : Procedure host α → Procedure host α
  | .done result => .done result
  | .panic message? => .panic message?
  | .ask request next => .ask request fun answer => (next (request.shown answer)).veiled

/-- A program all of whose code sees what is shown. -/
def Program.veiled (program : Program host) : Program host where
  sensor := fun code arguments => (program.sensor code arguments).veiled
  callback := fun code => (program.callback code).veiled
  probe := fun code => (program.probe code).veiled

/-- Handlers that end alike. -/
structure Handlers.Transparent (handlers : Handlers host) : Prop where
  sensor : ∀ code arguments,
    Action.Transparent Eq (handlers.sensor code arguments) (handlers.sensor code arguments)
  callback : ∀ code, Action.Transparent Eq (handlers.callback code) (handlers.callback code)
  probe : ∀ code, Action.Transparent Eq (handlers.probe code) (handlers.probe code)

section Requests

variable {handlers : Handlers host} (transparent : handlers.Transparent)
include transparent

theorem Handlers.Transparent.serves :
    transparency.Serves handlers.callback handlers.callback :=
  fun _ _ _ _ subscription _ => transparent.callback subscription.callback

theorem evaluate_transparent (expression : Expression) :
    Action.Transparent Eq (Context.evaluate handlers.sensor expression)
      (Context.evaluate handlers.sensor expression) :=
  transparency.evaluate .map transparent.sensor expression

theorem evaluateText_transparent (source : String) :
    Action.Transparent Eq (Context.evaluateText handlers.sensor source)
      (Context.evaluateText handlers.sensor source) := by
  have parsing : Action.Transparent Context.ReadAlike
      (modifyGetThe (Context host) (·.parse source))
      (modifyGetThe (Context host) (·.parse source)) :=
    .modifyGet fun _ _ alike => alike.parse source
  refine parsing.bind ?_
  rintro (error | parsed) (error' | parsed') same
  · cases same
    exact .pure rfl
  · cases same
  · cases same
  · have expression : parsed.expression = parsed'.expression := Except.ok.inj same
    dsimp only
    rw [expression]
    refine (evaluate_transparent transparent parsed'.expression).bind ?_
    rintro outcome _ rfl
    cases outcome <;> exact .pure rfl

theorem isTrue_transparent (source : String) :
    Action.Transparent Eq (Context.isTrue handlers.sensor source)
      (Context.isTrue handlers.sensor source) :=
  (evaluateText_transparent transparent source).bind fun _ _ same => .pure (same ▸ rfl)

theorem tick_transparent :
    Action.Transparent Eq (Context.tick handlers.probe handlers.callback)
      (Context.tick handlers.probe handlers.callback) :=
  transparency.tick transparent.probe (fun alike => congrArg Poller.probes alike.poller)
    (fun samples => .heedless (.observeAll samples)) transparent.serves

omit transparent in
theorem shown_eq_of_readAlike {ε : Type} {outcome outcome' : Except ε Parsed}
    (same : Context.ReadAlike outcome outcome') :
    outcome.map (fun parsed => { parsed with number := 0 }) =
      outcome'.map fun parsed => { parsed with number := 0 } := by
  have shown := congrArg (Except.map fun expression => Parsed.mk expression 0) same
  rcases outcome with error | parsed <;> rcases outcome' with error' | parsed' <;> exact shown

/-- A request is answered alike, as far as the answer is shown. -/
theorem perform_transparent (request : Request host) :
    Action.Transparent (fun answer answer' => request.shown answer = request.shown answer')
      (perform handlers request) (perform handlers request) := by
  have equal {action action' : Action host request.Answer}
      (ends : Action.Transparent Eq action action') :
      Action.Transparent (fun answer answer' => request.shown answer = request.shown answer')
        action action' :=
    ends.weaken fun _ _ => congrArg request.shown
  cases request with
  | register name arity code => exact equal (.heedless (.register name arity code))
  | registerBuiltins => exact equal (.heedless .registerBuiltins)
  | parse source =>
      refine .modifyGet fun _ _ alike => ?_
      exact ⟨shown_eq_of_readAlike (alike.parse source).1, (alike.parse source).2⟩
  | compile source =>
      refine .modifyGet fun _ _ alike => ?_
      exact ⟨shown_eq_of_readAlike (alike.compile source).1, (alike.compile source).2⟩
  | evaluate expression => exact equal (evaluate_transparent transparent expression)
  | evaluateText source => exact equal (evaluateText_transparent transparent source)
  | subscribe source callback => exact equal (.update fun alike => alike.subscribe source callback)
  | unsubscribe id => exact equal (.update fun alike => alike.unsubscribe id)
  | touch name => exact equal (transparency.touch transparent.serves name)
  | fireEvent event => exact equal (transparency.fireEvent transparent.serves event)
  | bindEvent event names => exact equal (.heedless (.bindEvent event names))
  | addProbe sensor code => exact equal (.heedless (.addProbe sensor code))
  | tick => exact equal (tick_transparent transparent)
  | unload => exact equal (.update fun alike => ⟨rfl, alike.unload⟩)
  | look =>
      intro world world' alike
      refine .ok ?_ alike
      exact (congrArg (Context.withCache · (.new 0)) alike.context.same).symm
  | store data => exact equal (.heedless (.store data))

/-- Code that does not see the difference ends alike. -/
theorem Procedure.run_transparent {α : Type} (procedure : Procedure host α) :
    Action.Transparent Eq (procedure.veiled.run handlers) (procedure.veiled.run handlers) := by
  induction procedure with
  | done result => exact .pure rfl
  | panic message? => exact .throw (.panic message?)
  | ask request next induction =>
      refine (perform_transparent transparent request).bind fun answer answer' same => ?_
      dsimp only
      rw [same]
      exact induction _

end Requests

/-! ## Programs -/

theorem Program.handlersBy_transparent (program : Program host)
    {run : {α : Type} → Procedure host α → Action host α}
    (ends : ∀ {α : Type} (procedure : Procedure host α),
      Action.Transparent Eq (run procedure.veiled) (run procedure.veiled)) :
    (program.veiled.handlersBy run).Transparent where
  sensor := fun code arguments => ends (program.sensor code arguments)
  callback := by
    intro code
    refine (Action.Transparent.record (.started code)).bind fun _ _ _ => ?_
    refine (Action.Transparent.settle (ends (program.callback code))).bind fun outcome _ same => ?_
    subst same
    exact (Action.Transparent.record (.ended code outcome)).bind fun _ _ _ => .pure rfl
  probe := fun code => ends (program.probe code)

theorem Program.handlers_transparent (program : Program host) (depth : Nat) :
    (program.veiled.handlers depth).Transparent := by
  induction depth with
  | zero => exact program.handlersBy_transparent fun _ => .throw .halt
  | succ depth induction =>
      exact program.handlersBy_transparent fun procedure => procedure.run_transparent induction

/-- A world whose context was just opened, with room for some expressions in its cache. -/
def World.opened (capacity : Nat) (events : EventBindings) (strategies : StrategyTable)
    (data : host.Data) : World host where
  context := .new capacity events strategies data
  events := []

theorem World.alike_opened (capacity : Nat) (events : EventBindings) (strategies : StrategyTable)
    (data : host.Data) :
    (opened capacity events strategies data).Alike (opened 0 events strategies data) where
  events := rfl
  context := ⟨rfl, ParseCache.new_sound capacity, .new⟩

theorem Action.Transparent.after {α β : Type} {related : α → β → Prop}
    {action : Action host α} {action' : Action host β} (ends : Transparent related action action')
    {world world' : World host} (alike : world.Alike world') :
    (action.after world).Alike (action'.after world') := by
  have ended := ends world world' alike
  rw [Action.after, Action.after]
  generalize action world = result at ended ⊢
  generalize action' world' = result' at ended ⊢
  cases ended with
  | ok same later => exact later
  | error stop later => exact later

/--
Whatever a host asks for, a context with a cache of any capacity and one whose cache is disabled end
alike: with the same result, the same events, and the same of everything but the cache.  Each
further request is answered alike as well.  What is read is what a fresh reading of the text gives;
where it fails, it fails with the same error each time, and nothing of it is kept.
-/
theorem parse_cache_is_transparent (program : Program host) (depth : Nat) {α : Type}
    (history : Procedure host α) (capacity : Nat) (events : EventBindings)
    (strategies : StrategyTable) (data : host.Data) :
    let handlers := program.veiled.handlers depth
    let caching := World.opened capacity events strategies data
    let disabled := World.opened 0 events strategies data
    let reached := (history.veiled.run handlers).after caching
    let reached' := (history.veiled.run handlers).after disabled
    EndsAlike Eq (history.veiled.run handlers caching) (history.veiled.run handlers disabled) ∧
    (∀ request, EndsAlike (fun answer answer' => request.shown answer = request.shown answer')
      (perform handlers request reached) (perform handlers request reached')) ∧
    (∀ source, EndsAlike Eq (Context.isTrue handlers.sensor source reached)
      (Context.isTrue handlers.sensor source reached')) ∧
    ∀ source,
      (reached.context.parse source).1.map Parsed.expression = Expression.parse source ∧
      ∀ error, Expression.parse source = .error error →
        reached.context.cache.get? source = none ∧
        reached.context.parse source = (.error error, reached.context) := by
  intro handlers caching disabled reached reached'
  have transparent : handlers.Transparent := program.handlers_transparent depth
  have opened : caching.Alike disabled := World.alike_opened capacity events strategies data
  have ends := history.run_transparent transparent
  have alike : reached.Alike reached' := ends.after opened
  have sound : reached.context.cache.Sound := alike.context.sound
  refine ⟨ends caching disabled opened, fun request => ?_, fun source => ?_, fun source => ?_⟩
  · exact perform_transparent transparent request reached reached' alike
  · exact isTrue_transparent transparent source reached reached' alike
  · exact ⟨sound.parse_outcome source, fun error => Context.parse_of_unread sound⟩

end Hosting

end Vigil
