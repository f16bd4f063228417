import PathTemplates.Proofs.Table
import PathTemplates.Proofs.View

set_option autoImplicit false

/-!
What a router remembers never shows in its answers: a remembered answer is the one that the routes give when they are asked
in turn, whatever parameters of that key it was found for.
-/

namespace PathTemplates

-- The path of the first route that accepts the parameters, each route asked by itself.
def firstPath (options : PathOptions) (given : Params) (routes : List Route) : Option String :=
  routes.findSome? fun route => (route.path given options).toOption

theorem scan_answer (options : PathOptions) (given : Params) (routes : List Route) :
    (Router.scan options given routes).2 = firstPath options given routes := by
  induction routes with
  | nil => rfl
  | cons route rest ih =>
      rw [firstPath, List.findSome?_cons, ← Router.ask_answer, Router.scan]
      rcases asked : Router.ask options given route with ⟨event, answer⟩
      cases answer with
      | none => exact ih
      | some path => rfl

theorem first_path_same_key (options : PathOptions) (p q : Params) (routes : List Route) (same : p.key = q.key) :
    firstPath options p routes = firstPath options q routes := by
  have paths : (fun route : Route => (route.path p options).toOption) = fun route => (route.path q options).toOption := by
    funext route
    rw [path_same_view route options p q (same_view_of_forms route p q (Params.forms_of_key p q same))]
  rw [firstPath, paths]
  rfl

-- Every entry is the answer to all parameters that have its key.
def Remembers (options : PathOptions) (routes : List Route) (cache : Cache) : Prop :=
  ∀ entry ∈ cache.entries, ∀ given : Params, given.key = entry.1 → entry.2 = firstPath options given routes

theorem lookup_member (entries : List (CacheKey × Option String)) (key : CacheKey) (answer : Option String)
    (found : entries.lookup key = some answer) : (key, answer) ∈ entries := by
  obtain ⟨before, after, split, _⟩ := List.lookup_eq_some_iff.mp found
  simp [split]

theorem without_member (key : CacheKey) (entries : List (CacheKey × Option String)) (entry : CacheKey × Option String)
    (member : entry ∈ Cache.without key entries) : entry ∈ entries :=
  (List.mem_filter.mp member).1

theorem fetch_remembers (options : PathOptions) (routes : List Route) (cache : Cache) (key : CacheKey)
    (remembers : Remembers options routes cache) : Remembers options routes (cache.fetch key).1 := by
  unfold Cache.fetch
  cases found : cache.entries.lookup key with
  | none => exact remembers
  | some answer =>
      intro entry member
      rcases List.mem_cons.mp member with same | kept
      · rw [same]
        exact remembers (key, answer) (lookup_member cache.entries key answer found)
      · exact remembers entry (without_member key cache.entries entry kept)

theorem store_remembers (options : PathOptions) (routes : List Route) (cache : Cache) (given : Params)
    (remembers : Remembers options routes cache) :
    Remembers options routes (cache.store given.key (firstPath options given routes)) := by
  intro entry member other sameKey
  rcases List.mem_cons.mp (List.mem_of_mem_take member) with same | kept
  · rw [same] at sameKey ⊢
    exact first_path_same_key options given other routes sameKey.symm
  · exact remembers entry (without_member given.key cache.entries entry kept) other sameKey

-- Replies that tell of the cache: its size is part of the configuration, and its hits are counted.
def Call.tellsOfCache : Call → Bool
  | .config | .hitRate => true
  | _ => false

namespace Router

def Sound (router : Router) : Prop :=
  ∀ cache, router.cache = some cache → Remembers router.config.pathOptions router.routes cache

theorem fresh_remembers (options : PathOptions) (routes : List Route) (size : Nat) (cache : Cache)
    (fresh : Cache.ofSize? size = some cache) : Remembers options routes cache := by
  unfold Cache.ofSize? at fresh
  by_cases zero : size = 0
  · rw [if_pos zero] at fresh
    cases fresh
  · rw [if_neg zero] at fresh
    cases fresh
    intro entry member
    cases member

theorem sound_of_config (config : Config) : (ofConfig config).Sound := fresh_remembers _ _ config.cacheSize

theorem sound_append (router : Router) (route : Route) : (router.append route).Sound :=
  fresh_remembers _ _ router.config.cacheSize

theorem sound_register (router : Router) (name : Option String) (declaration : Declaration) (sound : router.Sound) :
    (router.register name declaration).1.Sound := by
  rcases router.register_cases name declaration with ⟨_, _, _, outcome⟩ | ⟨_, _, _, outcome⟩ | ⟨route, _, _, outcome⟩
  · rw [outcome]
    exact sound
  · rw [outcome]
    exact sound
  · rw [outcome]
    exact sound_append router route

theorem sound_path (router : Router) (given : Params) (sound : router.Sound) : (router.path given).1.Sound := by
  rcases router.path_cases given with ⟨cache, _, stored, _, outcome⟩ | ⟨cache, stored, _, outcome⟩ | ⟨_, outcome⟩
  · rw [outcome]
    intro next same
    cases same
    exact fetch_remembers _ _ cache given.key (sound cache stored)
  · rw [outcome, scan_answer]
    intro next same
    cases same
    exact store_remembers _ _ _ given (fetch_remembers _ _ cache given.key (sound cache stored))
  · rw [outcome]
    exact sound

theorem sound_step (router : Router) (call : Call) (sound : router.Sound) : (router.answer call).1.Sound := by
  rcases call.kinds with ⟨name, declaration, same⟩ | ⟨given, same⟩ | reads
  · subst same
    exact sound_register router name declaration sound
  · subst same
    exact sound_path router given sound
  · rw [router.answer_reads call reads]
    exact sound

theorem sound_run (router : Router) (calls : List Call) (sound : router.Sound) : (router.after calls).Sound := by
  induction calls generalizing router with
  | nil => exact sound
  | cons call rest ih => exact ih (router.answer call).1 (sound_step router call sound)

theorem path_answer (router : Router) (given : Params) (sound : router.Sound) :
    (router.path given).2.2 = firstPath router.config.pathOptions given router.routes := by
  rcases router.path_cases given with ⟨cache, answer, stored, found, outcome⟩ | ⟨_, _, _, outcome⟩ | ⟨_, outcome⟩
  · rw [outcome]
    exact sound cache stored (given.key, answer) (lookup_member cache.entries given.key answer found) given rfl
  · rw [outcome]
    exact scan_answer _ given router.routes
  · rw [outcome]
    exact scan_answer _ given router.routes

-- The router that has no room to remember answers, with the same routes and names.
def uncached (router : Router) : Router :=
  { router with config := { router.config with cacheSize := 0 }, cache := none }

theorem sound_uncached (router : Router) : router.uncached.Sound := by
  intro cache stored
  cases stored

theorem register_uncached (router : Router) (name : Option String) (declaration : Declaration) :
    (router.register name declaration).1.uncached = (router.uncached.register name declaration).1 ∧
      (router.register name declaration).2.2 = (router.uncached.register name declaration).2.2 := by
  unfold register uncached
  dsimp only
  cases name.filter router.names.contains with
  | some taken => exact ⟨rfl, rfl⟩
  | none =>
      cases Route.ofDeclaration declaration router.config.explicit router.routes.length name with
      | error error => exact ⟨rfl, rfl⟩
      | ok route => exact ⟨rfl, rfl⟩

theorem path_uncached (router : Router) (given : Params) (sound : router.Sound) :
    (router.path given).1.uncached = (router.uncached.path given).1 ∧
      (router.path given).2.2 = (router.uncached.path given).2.2 := by
  obtain ⟨cache, same⟩ := router.path_frame given
  rw [same, path_answer router given sound, path_answer router.uncached given router.sound_uncached]
  exact ⟨rfl, rfl⟩

theorem answer_uncached (router : Router) (call : Call) (sound : router.Sound) :
    (router.answer call).1.uncached = (router.uncached.answer call).1 ∧
      (call.tellsOfCache = false → (router.answer call).2.2 = (router.uncached.answer call).2.2) := by
  cases call with
  | register name declaration =>
      obtain ⟨state, outcome⟩ := register_uncached router name declaration
      exact ⟨state, fun _ => congrArg Reply.registered outcome⟩
  | path given =>
      obtain ⟨state, answer⟩ := path_uncached router given sound
      exact ⟨state, fun _ => congrArg Reply.path answer⟩
  | config => exact ⟨rfl, fun silent => nomatch silent⟩
  | hitRate => exact ⟨rfl, fun silent => nomatch silent⟩
  | _ => exact ⟨rfl, fun _ => rfl⟩

theorem after_uncached (router : Router) (calls : List Call) (sound : router.Sound) :
    (router.after calls).uncached = router.uncached.after calls := by
  induction calls generalizing router with
  | nil => rfl
  | cons call rest ih =>
      rw [after_cons, after_cons, ih _ (sound_step router call sound), (answer_uncached router call sound).1]

theorem reply_uncached (router : Router) (calls : List Call) (sound : router.Sound) (i : Nat) (call : Call)
    (made : calls[i]? = some call) (silent : call.tellsOfCache = false) :
    (router.replies calls)[i]? = (router.uncached.replies calls)[i]? := by
  rw [reply_at router calls i call made, reply_at router.uncached calls i call made,
    ← after_uncached router (calls.take i) sound,
    (answer_uncached _ call (sound_run router (calls.take i) sound)).2 silent]

end Router

theorem cache_never_shows (config : Config) (calls : List Call) :
    (∀ (i : Nat) given, calls[i]? = some (.path given) →
      ((Router.ofConfig config).replies calls)[i]? =
        some (.path (firstPath config.pathOptions given ((registered config (calls.take i)).map (·.route))))) ∧
    (∀ size (i : Nat) call, calls[i]? = some call → call.tellsOfCache = false →
      ((Router.ofConfig { config with cacheSize := size }).replies calls)[i]? =
        ((Router.ofConfig config).replies calls)[i]?) := by
  constructor
  · intro i given made
    have records := records_of_config config (calls.take i)
    have sound := (Router.ofConfig config).sound_run (calls.take i) (Router.sound_of_config config)
    have answer := Router.path_answer _ given sound
    rw [records.settings, records.routes] at answer
    rw [Router.reply_at _ calls i _ made, ← answer]
    rfl
  · intro size i call made silent
    rw [Router.reply_uncached _ calls (Router.sound_of_config config) i call made silent,
      Router.reply_uncached _ calls (Router.sound_of_config _) i call made silent]
    rfl

-- The second request has the key of the first and is answered from the cache.
def requestsOfOneKey : List Call :=
  [.register none { template := "a/:id" }, .path (.ofList [("id", some (.int 7))]), .path (.ofList [("id", some (.text "7"))])]

theorem cache_never_shows_for_one_key :
    requestsOfOneKey[2]? = some (.path (.ofList [("id", some (.text "7"))])) ∧
      Call.tellsOfCache (.path (.ofList [("id", some (.text "7"))])) = false ∧
      ((Router.ofConfig {}).replies requestsOfOneKey)[2]? =
        some (.path (firstPath ({} : Config).pathOptions (.ofList [("id", some (.text "7"))])
          ((registered {} (requestsOfOneKey.take 2)).map (·.route)))) ∧
      ((Router.ofConfig { ({} : Config) with cacheSize := 0 }).replies requestsOfOneKey)[2]? =
        ((Router.ofConfig {}).replies requestsOfOneKey)[2]? ∧
      firstPath ({} : Config).pathOptions (.ofList [("id", some (.text "7"))])
        ((registered {} (requestsOfOneKey.take 2)).map (·.route)) = some "/a/7" :=
  ⟨rfl, rfl, (cache_never_shows {} requestsOfOneKey).1 2 (.ofList [("id", some (.text "7"))]) rfl,
    (cache_never_shows {} requestsOfOneKey).2 0 2 (.path (.ofList [("id", some (.text "7"))])) rfl rfl, rfl⟩

end PathTemplates
