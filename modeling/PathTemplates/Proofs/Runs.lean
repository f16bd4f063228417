import PathTemplates.Session
import PathTemplates.Proofs.Compile

set_option autoImplicit false

/-! What a call does to a router, and how the replies to a sequence of calls come about. -/

namespace PathTemplates

-- A call that is answered from the router as it stands. Registrations and requests for a path are no such calls.
def Call.reads : Call → Bool
  | .register .. | .path .. => false
  | _ => true

theorem Call.kinds (call : Call) :
    (∃ name declaration, call = .register name declaration) ∨ (∃ given, call = .path given) ∨ call.reads = true := by
  cases call with
  | register name declaration => exact .inl ⟨name, declaration, rfl⟩
  | path given => exact .inr (.inl ⟨given, rfl⟩)
  | _ => exact .inr (.inr rfl)

namespace Router

def after (router : Router) (calls : List Call) : Router := (router.run calls).1

def replies (router : Router) (calls : List Call) : List Reply := (router.run calls).2

theorem after_cons (router : Router) (call : Call) (rest : List Call) :
    router.after (call :: rest) = (router.answer call).1.after rest := rfl

theorem replies_cons (router : Router) (call : Call) (rest : List Call) :
    router.replies (call :: rest) = (router.answer call).2.2 :: (router.answer call).1.replies rest := rfl

-- A reply is the answer of the router that the earlier calls have left.
theorem reply_at (router : Router) (calls : List Call) (i : Nat) (call : Call) (made : calls[i]? = some call) :
    (router.replies calls)[i]? = some ((router.after (calls.take i)).answer call).2.2 := by
  induction calls generalizing router i with
  | nil => cases made
  | cons first rest ih =>
      cases i with
      | zero =>
          cases made
          rfl
      | succ i => exact ih (router.answer first).1 i made

theorem answer_reads (router : Router) (call : Call) (reads : call.reads = true) : (router.answer call).1 = router := by
  cases call with
  | register name declaration => cases reads
  | path given => cases reads
  | _ => rfl

def Free (router : Router) (name : Option String) : Prop := ∀ taken, name = some taken → router.names.contains taken = false

-- A registration finds its name taken, or is refused by the compiler, or adds a route.
theorem register_cases (router : Router) (name : Option String) (declaration : Declaration) :
    (∃ taken, name = some taken ∧ router.names.contains taken = true ∧
      router.register name declaration = (router, [], .error (.duplicateRouteName taken))) ∨
    (∃ error, router.Free name ∧
      Route.ofDeclaration declaration router.config.explicit router.routes.length name = .error error ∧
      router.register name declaration = (router, [.refused declaration.template error], .error error)) ∨
    (∃ route, router.Free name ∧
      Route.ofDeclaration declaration router.config.explicit router.routes.length name = .ok route ∧
      router.register name declaration = (router.append route,
        [.compiled route.template route.order route.segments.length route.filters,
          .registered route.order route.name route.template (router.append route).routes.length], .ok route)) := by
  unfold register
  cases taken : name.filter router.names.contains with
  | some first =>
      obtain ⟨same, contained⟩ := Option.filter_eq_some_iff.mp taken
      exact .inl ⟨first, same, contained, rfl⟩
  | none =>
      have free : router.Free name := by
        intro first same
        simpa using Option.filter_eq_none_iff.mp taken first same
      cases outcome : Route.ofDeclaration declaration router.config.explicit router.routes.length name with
      | error error => exact .inr (.inl ⟨error, free, rfl, rfl⟩)
      | ok route => exact .inr (.inr ⟨route, free, rfl, rfl⟩)

-- A request recalls an answer, or scans the routes and remembers what they say, or scans them without a cache.
theorem path_cases (router : Router) (given : Params) :
    (∃ cache answer, router.cache = some cache ∧ cache.entries.lookup given.key = some answer ∧
      router.path given = ({ router with cache := some (cache.fetch given.key).1 },
        [.asked router.routes.length given.size, .recalled answer], answer)) ∨
    (∃ cache, router.cache = some cache ∧ cache.entries.lookup given.key = none ∧
      router.path given =
        ({ router with
            cache := some ((cache.fetch given.key).1.store given.key (scan router.config.pathOptions given router.routes).2) },
          .asked router.routes.length given.size :: (scan router.config.pathOptions given router.routes).1,
          (scan router.config.pathOptions given router.routes).2)) ∨
    (router.cache = none ∧
      router.path given =
        (router, .asked router.routes.length given.size :: (scan router.config.pathOptions given router.routes).1,
          (scan router.config.pathOptions given router.routes).2)) := by
  cases stored : router.cache with
  | none => exact .inr (.inr ⟨rfl, by simp only [path, stored, Option.map_none]⟩)
  | some cache =>
      cases found : cache.entries.lookup given.key with
      | some answer => exact .inl ⟨cache, answer, rfl, found, by simp only [path, stored, Option.map_some, Cache.fetch, found]⟩
      | none => exact .inr (.inl ⟨cache, rfl, found, by simp only [path, stored, Option.map_some, Cache.fetch, found]⟩)

-- A request may change what is remembered and nothing else.
theorem path_frame (router : Router) (given : Params) :
    ∃ cache, (router.path given).1 = { router with cache := cache } := by
  rcases path_cases router given with ⟨cache, answer, _, _, outcome⟩ | ⟨cache, _, _, outcome⟩ | ⟨_, outcome⟩
  · exact ⟨_, congrArg Prod.fst outcome⟩
  · exact ⟨_, congrArg Prod.fst outcome⟩
  · exact ⟨router.cache, congrArg Prod.fst outcome⟩

theorem ask_answer (options : PathOptions) (given : Params) (route : Route) :
    (ask options given route).2 = (route.path given options).toOption := by
  unfold ask
  cases route.path given options <;> rfl

theorem ask_knows (options : PathOptions) (given : Params) (route : Route) (name : String) :
    (ask options given route).1 ≠ .unknownName name := by
  unfold ask
  cases route.path given options <;> simp

theorem path_named_found (router : Router) (name : String) (given : Params) (route : Route)
    (found : router.route? name = some route) :
    router.pathNamed name given =
      ([(ask router.config.pathOptions given route).1], (ask router.config.pathOptions given route).2) := by
  simp only [pathNamed, found]

theorem path_named_missing (router : Router) (name : String) (given : Params) (missing : router.route? name = none) :
    router.pathNamed name given = ([.unknownName name], none) := by
  simp only [pathNamed, missing]

end Router

end PathTemplates
