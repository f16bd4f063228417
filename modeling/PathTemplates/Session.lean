import PathTemplates.Router

set_option autoImplicit false

/-! What can be asked of a router, one call after another. -/

namespace PathTemplates

inductive Call where
  | register (name : Option String) (declaration : Declaration)
  | path (given : Params)
  | pathNamed (name : String) (given : Params)
  | verdicts (given : Params)
  | route (name : String)
  | routes
  | listing
  | config
  | isEmpty
  | hitRate
  deriving DecidableEq, Repr

inductive Reply where
  | registered (outcome : Except RegistrationError Route)
  | path (path : Option String)
  | verdicts (verdicts : List (Except Rejection String))
  | route (route : Option Route)
  | routes (routes : List Route)
  | listing (text : String)
  | config (config : Config)
  | isEmpty (isEmpty : Bool)
  | hitRate (share : Option String)

namespace Router

def answer (router : Router) : Call → Router × List Event × Reply
  | .register name declaration =>
      let (router, events, outcome) := router.register name declaration
      (router, events, .registered outcome)
  | .path given =>
      let (router, events, path) := router.path given
      (router, events, .path path)
  | .pathNamed name given =>
      let (events, path) := router.pathNamed name given
      (router, events, .path path)
  | .verdicts given => (router, [], .verdicts (router.verdicts given))
  | .route name => (router, [], .route (router.route? name))
  | .routes => (router, [], .routes router.routes)
  | .listing => (router, [], .listing router.listing)
  | .config => (router, [], .config router.config)
  | .isEmpty => (router, [], .isEmpty router.routes.isEmpty)
  | .hitRate => (router, [], .hitRate (router.cache.map (·.hitRate)))

def run (router : Router) : List Call → Router × List Reply
  | [] => (router, [])
  | call :: rest =>
      let (router, _, reply) := router.answer call
      let (router, replies) := router.run rest
      (router, reply :: replies)

end Router

-- What a call lets see: the events on the way, the reply, and the count of the routes and of the answers remembered after it.
structure Sight where
  events : List Event
  reply : Reply
  size : Nat
  stats : Option CacheStats

namespace Router

def sights (router : Router) : List Call → List Sight
  | [] => []
  | call :: rest =>
      let (router, events, reply) := router.answer call
      ⟨events, reply, router.size, router.stats⟩ :: router.sights rest

end Router

end PathTemplates
