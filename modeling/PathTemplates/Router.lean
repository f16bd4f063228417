import PathTemplates.Cache
import PathTemplates.Event
import PathTemplates.Path

set_option autoImplicit false

/-!
A router holds routes in the order of their registration and answers parameters with the path of the first route that
accepts them. Each step gives the router after it, the events on the way, and the answer.
-/

namespace PathTemplates

/-- The routes in order, the place of each named route, and the answers to remember since the last registration. -/
structure Router where
  config : Config
  routes : List Route
  names : NameMap Nat
  cache : Option Cache
  deriving DecidableEq, Repr

namespace Router

def ofConfig (config : Config) : Router := ⟨config, [], .empty, Cache.ofSize? config.cacheSize⟩

def route? (router : Router) (name : String) : Option Route :=
  (router.names.get? name).bind fun order => router.routes[order]?

def size (router : Router) : Nat := router.routes.length

def stats (router : Router) : Option CacheStats := router.cache.map (·.stats)

-- Adds a compiled route behind the others. The answers remembered so far may no longer hold, so none is kept.
def append (router : Router) (route : Route) : Router where
  config := router.config
  routes := router.routes ++ [route]
  names :=
    match route.name with
    | some name => router.names.insert name router.routes.length
    | none => router.names
  cache := Cache.ofSize? router.config.cacheSize

def register (router : Router) (name : Option String) (declaration : Declaration) :
    Router × List Event × Except RegistrationError Route :=
  match name.filter router.names.contains with
  | some name => (router, [], .error (.duplicateRouteName name))
  | none =>
      match Route.ofDeclaration declaration router.config.explicit router.routes.length name with
      | .error error => (router, [.refused declaration.template error], .error error)
      | .ok route =>
          let router := router.append route
          let compiled := Event.compiled route.template route.order route.segments.length route.filters
          let registered := Event.registered route.order route.name route.template router.routes.length
          (router, [compiled, registered], .ok route)

def ask (options : PathOptions) (given : Params) (route : Route) : Event × Option String :=
  match route.path given options with
  | .ok path => (.accepted route.order route.template path, some path)
  | .error reason => (.rejected route.order route.template reason, none)

def scan (options : PathOptions) (given : Params) : List Route → List Event × Option String
  | [] => ([], none)
  | route :: rest =>
      match ask options given route with
      | (event, some path) => ([event], some path)
      | (event, none) =>
          let (events, path) := scan options given rest
          (event :: events, path)

def path (router : Router) (given : Params) : Router × List Event × Option String :=
  let asked := Event.asked router.routes.length given.size
  match router.cache.map (·.fetch given.key) with
  | some (cache, some answer) => ({ router with cache := some cache }, [asked, .recalled answer], answer)
  | some (cache, none) =>
      let (events, answer) := scan router.config.pathOptions given router.routes
      ({ router with cache := some (cache.store given.key answer) }, asked :: events, answer)
  | none =>
      let (events, answer) := scan router.config.pathOptions given router.routes
      (router, asked :: events, answer)

-- The path of the route of a name, if there is one and it accepts the parameters. Nothing is remembered.
def pathNamed (router : Router) (name : String) (given : Params) : List Event × Option String :=
  match router.route? name with
  | none => ([.unknownName name], none)
  | some route =>
      let (event, path) := ask router.config.pathOptions given route
      ([event], path)

def verdicts (router : Router) (given : Params) : List (Except Rejection String) :=
  router.routes.map fun route => route.path given router.config.pathOptions

private def routeLine (route : Route) : String :=
  "[route] #" ++ route.order.repr ++ " " ++ route.template ++ " name=" ++ route.name.getD "-" ++
    " defaults=" ++ route.declaration.defaults.size.repr ++
    " requirements=" ++ route.declaration.requirements.size.repr ++ "\n"

-- Of what a route declares, its line shows the template and how many defaults and requirements there are.
theorem route_line_congr (a b : Route) (order : a.order = b.order) (name : a.name = b.name) (template : a.template = b.template)
    (defaults : a.declaration.defaults.size = b.declaration.defaults.size)
    (requirements : a.declaration.requirements.size = b.declaration.requirements.size) : routeLine a = routeLine b := by
  unfold routeLine
  rw [order, name, template, defaults, requirements]

def listing (router : Router) : String :=
  "[routes] count=" ++ router.routes.length.repr ++ "\n" ++ String.join (router.routes.map routeLine)

end Router

end PathTemplates
