import PathTemplates.Proofs.Answers
import PathTemplates.Proofs.Redeclaring

set_option autoImplicit false

/-!
An integer and the text of its decimal form do the same wherever they are given, and a name without a value does the same as
no name where a path is asked for. So all that is asked of a router can be spelled out: every value as a text, and the names
that have one. What a router does with calls that are spelled out is what it does with the calls, spelled out.
-/

namespace PathTemplates

namespace NameMap

variable {α β : Type}

def map (f : α → β) (entries : NameMap α) : NameMap β where
  toList := entries.toList.map fun entry => (entry.1, f entry.2)
  ascending := List.pairwise_map.mpr entries.ascending

def filter (keep : α → Bool) (entries : NameMap α) : NameMap α where
  toList := entries.toList.filter fun entry => keep entry.2
  ascending := entries.ascending.filter _

theorem lookup_map (f : α → β) (entries : List (String × α)) (name : String) :
    (entries.map fun entry => (entry.1, f entry.2)).lookup name = (entries.lookup name).map f := by
  induction entries with
  | nil => rfl
  | cons head rest ih =>
      obtain ⟨first, value⟩ := head
      rw [List.map_cons]
      by_cases same : name = first
      · subst same
        rw [List.lookup_cons_self, List.lookup_cons_self, Option.map_some]
      · rw [lookup_cons_other _ _ _ _ same, lookup_cons_other _ _ _ _ same, ih]

@[simp] theorem get_map (f : α → β) (entries : NameMap α) (name : String) :
    (entries.map f).get? name = (entries.get? name).map f :=
  lookup_map f entries.toList name

end NameMap

def Value.spelled (value : Value) : Value := .text value.form

namespace Params

def spelled (params : Params) : Params := ⟨params.slots.map (Option.map Value.spelled)⟩

def present (params : Params) : Params := ⟨params.slots.filter Option.isSome⟩

end Params

def Declaration.spelled (declaration : Declaration) : Declaration :=
  { declaration with defaults := declaration.defaults.spelled }

def Presence.spelled : Presence → Presence
  | .required => .required
  | .optional default => .optional (default.map Value.spelled)

def Placeholder.spelled (placeholder : Placeholder) : Placeholder :=
  { placeholder with presence := placeholder.presence.spelled }

def Segment.spelled : Segment → Segment
  | .literal text => .literal text
  | .slot placeholder => .slot placeholder.spelled

def Route.spelled (route : Route) : Route :=
  { route with
    declaration := route.declaration.spelled
    segments := route.segments.map Segment.spelled
    filters := route.filters.map fun filter => (filter.1, filter.2.map Value.spelled) }

def Resolution.spelled (resolution : Resolution) : Resolution :=
  ⟨resolution.kept.map fun (segment, value) => (segment.spelled, value)⟩

def Router.spelled (router : Router) : Router := { router with routes := router.routes.map Route.spelled }

-- A call with every value as a text and, where a path is asked for, without the names that have none.
def Call.spelled : Call → Call
  | .register name declaration => .register name declaration.spelled
  | .path given => .path given.present.spelled
  | .pathNamed name given => .pathNamed name given.present.spelled
  | .verdicts given => .verdicts given.present.spelled
  | call => call

def Reply.spelled : Reply → Reply
  | .registered outcome => .registered (outcome.map Route.spelled)
  | .route found => .route (found.map Route.spelled)
  | .routes all => .routes (all.map Route.spelled)
  | reply => reply

namespace Params

theorem key_spelled (params : Params) : params.spelled.key = params.key := by
  change (params.toList.map _).filterMap _ = params.toList.filterMap _
  rw [List.filterMap_map]
  congr 1
  funext ⟨name, value⟩
  cases value <;> rfl

theorem key_present (params : Params) : params.present.key = params.key := by
  change (params.toList.filter _).filterMap _ = params.toList.filterMap _
  rw [List.filterMap_filter]
  congr 1
  funext ⟨name, value⟩
  cases value <;> rfl

theorem size_spelled (params : Params) : params.spelled.size = params.size := List.length_map _

theorem declares_spelled (params : Params) (name : String) : params.spelled.declares name = params.declares name := by
  simp [declares, spelled, NameMap.contains]

theorem value_spelled (params : Params) (name : String) :
    params.spelled.value? name = (params.value? name).map Value.spelled := by
  unfold value? spelled
  rw [NameMap.get_map]
  cases params.slots.get? name with
  | none => rfl
  | some slot => cases slot <;> rfl

end Params

section Compiling

variable (declaration : Declaration) (explicit : Bool)

theorem implied_spelled (kind : PlaceholderKind) (name : String) :
    (Template.impliedPresence explicit kind name).spelled = Template.impliedPresence explicit kind name := by
  unfold Template.impliedPresence
  cases kind with
  | glob => rfl
  | dynamic => split_ifs <;> rfl

theorem presence_spelled (kind : PlaceholderKind) (name : String) :
    declaration.spelled.presence explicit kind name = (declaration.presence explicit kind name).spelled := by
  rw [Declaration.presence, Declaration.presence, Declaration.spelled, Params.declares_spelled, Params.value_spelled]
  split_ifs
  · rfl
  · exact (implied_spelled explicit kind name).symm

theorem segments_spelled :
    Template.segments declaration.spelled explicit =
      (Template.segments declaration explicit).map (List.map Segment.spelled) := by
  rw [segments_redeclared declaration declaration.spelled explicit explicit rfl rfl]
  cases outcome : Template.segments declaration explicit with
  | error error => rfl
  | ok segments =>
      apply congrArg Except.ok
      apply List.map_congr_left
      intro segment member
      have own := segments_under declaration explicit segments outcome segment member
      cases segment with
      | literal text => rfl
      | slot placeholder =>
          have presence := congrArg Placeholder.presence (Segment.slot.inj own)
          have spelled := presence_spelled declaration explicit placeholder.kind placeholder.name
          exact congrArg (fun presence => Segment.slot { placeholder with presence := presence })
            (spelled.trans (congrArg Presence.spelled presence))

end Compiling

-- To spell a segment out is to spell out what stands in for it.
theorem segment_spelled : Segment.spelled = Segment.withPresence fun placeholder => placeholder.presence.spelled := by
  funext segment
  cases segment <;> rfl

theorem filters_spelled (defaults : Params) (segments : List Segment) :
    Route.filtersOf defaults.spelled (segments.map Segment.spelled) =
      (Route.filtersOf defaults segments).map fun filter => (filter.1, filter.2.map Value.spelled) := by
  rw [Route.filtersOf, Route.filtersOf, segment_spelled, names_with_presence]
  exact List.filter_map

theorem of_declaration_spelled (declaration : Declaration) (explicit : Bool) (order : Nat) (name : Option String) :
    Route.ofDeclaration declaration.spelled explicit order name =
      (Route.ofDeclaration declaration explicit order name).map Route.spelled := by
  unfold Route.ofDeclaration
  rw [segments_spelled]
  cases Template.segments declaration explicit with
  | error error => rfl
  | ok segments =>
      have filters := filters_spelled declaration.defaults segments
      exact congrArg (fun filters => Except.ok (Route.mk declaration.spelled name order _ filters)) filters

section Asking

variable (given : Params)

theorem slot_form_spelled (slot : Option Value) : (slot.map Value.spelled).map Value.form = slot.map Value.form := by
  cases slot <;> rfl

theorem default_spelled (placeholder : Placeholder) :
    placeholder.spelled.default = placeholder.default.map Value.spelled := by
  obtain ⟨kind, name, requirement, presence⟩ := placeholder
  cases presence <;> rfl

theorem optional_spelled (placeholder : Placeholder) : placeholder.spelled.optional = placeholder.optional := by
  obtain ⟨kind, name, requirement, presence⟩ := placeholder
  cases presence <;> rfl

theorem effective_spelled (placeholder : Placeholder) :
    (placeholder.spelled.effective given).map Value.form = (placeholder.effective given).map Value.form := by
  rw [effective_form, effective_form, default_spelled, slot_form_spelled]
  rfl

theorem form_spelled (segment : Segment) : segment.spelled.form? given = segment.form? given := by
  cases segment with
  | literal text => rfl
  | slot placeholder => exact effective_spelled given placeholder

theorem mismatch_spelled (filters : List (String × Option Value)) :
    Resolution.mismatch? (filters.map fun filter => (filter.1, filter.2.map Value.spelled)) given =
      Resolution.mismatch? filters given := by
  induction filters with
  | nil => rfl
  | cons filter rest ih =>
      obtain ⟨name, default⟩ := filter
      have same : given.differs name (default.map Value.spelled) = given.differs name default := by
        rw [Params.differs, Params.differs, slot_form_spelled]
      rw [List.map_cons, mismatch_cons, mismatch_cons, ih, same]

theorem failure_spelled (segments : List Segment) :
    Resolution.failure? (segments.map Segment.spelled) given = Resolution.failure? segments given := by
  have forms := fun segment (_ : segment ∈ segments) => form_spelled given segment
  rw [segment_spelled] at forms ⊢
  exact failure_with_presence _ given segments forms

theorem droppable_spelled (segment : Segment) (minimize : Bool) :
    segment.spelled.droppable minimize given = segment.droppable minimize given := by
  cases segment with
  | literal text => rfl
  | slot placeholder =>
      change placeholder.spelled.droppable minimize _ = placeholder.droppable minimize _
      rw [droppable_form, droppable_form, effective_spelled, optional_spelled, default_spelled, slot_form_spelled]

theorem keep_spelled (minimize : Bool) (segments : List Segment) :
    Resolution.keep minimize given (segments.map Segment.spelled) =
      (Resolution.keep minimize given segments).map Segment.spelled := by
  have droppable := fun segment => droppable_spelled given segment minimize
  rw [segment_spelled] at droppable ⊢
  rw [keep_with_presence, keepWithPresence, funext droppable]
  rfl

theorem flaws_spelled (segments : List Segment) :
    (segments.map Segment.spelled).findSome? (Resolution.flaw? given) = segments.findSome? (Resolution.flaw? given) := by
  have flaw : Resolution.flaw? given ∘ Segment.spelled = Resolution.flaw? given := by
    funext segment
    have form := form_spelled given segment
    rw [segment_spelled] at form ⊢
    exact flaw_with_presence _ given segment form
  rw [List.findSome?_map, flaw]

theorem resolve_spelled (route : Route) (minimize : Bool) :
    route.spelled.resolve given minimize = (route.resolve given minimize).map Resolution.spelled := by
  have kept : Resolution.keep minimize given route.spelled.segments =
      (Resolution.keep minimize given route.segments).map Segment.spelled := keep_spelled given minimize route.segments
  have filters : Resolution.mismatch? route.spelled.filters given = Resolution.mismatch? route.filters given :=
    mismatch_spelled given route.filters
  have values : Resolution.failure? route.spelled.segments given = Resolution.failure? route.segments given :=
    failure_spelled given route.segments
  simp only [Route.resolve, kept, filters, values, flaws_spelled]
  cases Resolution.mismatch? route.filters given <|> Resolution.failure? route.segments given <|>
      (Resolution.keep minimize given route.segments).findSome? (Resolution.flaw? given) with
  | some rejection => rfl
  | none =>
      refine congrArg (fun kept => Except.ok (Resolution.mk kept)) ?_
      rw [List.map_map, List.map_map]
      refine List.map_congr_left fun segment _ => ?_
      exact congrArg (Prod.mk segment.spelled) (form_spelled given segment)

theorem path_spelled (route : Route) (options : PathOptions) : route.spelled.path given options = route.path given options := by
  unfold Route.path
  rw [resolve_spelled]
  cases route.resolve given options.minimize with
  | error rejection => rfl
  | ok resolution =>
      have parts : (resolution.spelled.kept.flatMap fun (segment, value) => Resolution.parts segment value) =
          resolution.kept.flatMap fun (segment, value) => Resolution.parts segment value := by
        rw [Resolution.spelled, List.flatMap_map]
        congr 1
        funext ⟨segment, value⟩
        cases segment <;> rfl
      change Except.ok (resolution.spelled.path options.appendSlash) = Except.ok (resolution.path options.appendSlash)
      rw [Resolution.path, parts]
      rfl

end Asking

theorem key_spelled_out (given : Params) : given.present.spelled.key = given.key := by
  rw [Params.key_spelled, Params.key_present]

theorem path_spelled_out (route : Route) (options : PathOptions) (given : Params) :
    route.spelled.path given.present.spelled options = route.path given options := by
  have forms := Params.forms_of_key given.present.spelled given (key_spelled_out given)
  rw [path_spelled, path_same_view route options _ given (same_view_of_forms route _ given forms)]

theorem first_path_spelled (options : PathOptions) (given : Params) (routes : List Route) :
    firstPath options given.present.spelled (routes.map Route.spelled) = firstPath options given routes := by
  rw [firstPath, List.findSome?_map]
  congr 1
  funext route
  exact congrArg Except.toOption (path_spelled_out route options given)

namespace Router

theorem append_spelled (router : Router) (route : Route) :
    (router.append route).spelled = router.spelled.append route.spelled := by
  have count : router.spelled.routes.length = router.routes.length := List.length_map _
  unfold append
  rw [count]
  simp only [spelled, List.map_append]
  rfl

theorem register_spelled (router : Router) (name : Option String) (declaration : Declaration) :
    (router.register name declaration).1.spelled = (router.spelled.register name declaration.spelled).1 ∧
      (router.register name declaration).2.2.map Route.spelled = (router.spelled.register name declaration.spelled).2.2 := by
  have count : router.spelled.routes.length = router.routes.length := List.length_map _
  have names : router.spelled.names = router.names := rfl
  have config : router.spelled.config = router.config := rfl
  unfold register
  rw [of_declaration_spelled, count, names, config]
  cases name.filter router.names.contains with
  | some taken => exact ⟨rfl, rfl⟩
  | none =>
      dsimp only
      cases Route.ofDeclaration declaration router.config.explicit router.routes.length name with
      | error error => exact ⟨rfl, rfl⟩
      | ok route => exact ⟨append_spelled router route, rfl⟩

theorem path_spelled (router : Router) (given : Params) :
    (router.path given).1.spelled = (router.spelled.path given.present.spelled).1 ∧
      (router.path given).2.2 = (router.spelled.path given.present.spelled).2.2 := by
  have scanned : (scan router.spelled.config.pathOptions given.present.spelled router.spelled.routes).2 =
      (scan router.config.pathOptions given router.routes).2 := by
    rw [scan_answer, scan_answer]
    exact first_path_spelled router.config.pathOptions given router.routes
  rw [path, path, key_spelled_out]
  have cache : router.spelled.cache = router.cache := rfl
  rw [cache]
  cases router.cache.map (·.fetch given.key) with
  | none => exact ⟨rfl, scanned.symm⟩
  | some lookup =>
      obtain ⟨next, found⟩ := lookup
      cases found with
      | some answer => exact ⟨rfl, rfl⟩
      | none =>
          refine ⟨?_, scanned.symm⟩
          dsimp only
          rw [scanned]
          rfl

theorem verdicts_spelled (router : Router) (given : Params) :
    router.spelled.verdicts given.present.spelled = router.verdicts given := by
  rw [verdicts, verdicts, spelled, List.map_map]
  refine List.map_congr_left fun route _ => ?_
  exact path_spelled_out route router.config.pathOptions given

theorem route_spelled (router : Router) (name : String) :
    router.spelled.route? name = (router.route? name).map Route.spelled := by
  rw [route?, route?, Option.map_bind]
  change (router.names.get? name).bind _ = _
  congr 1
  funext order
  exact List.getElem?_map

theorem path_named_spelled (router : Router) (name : String) (given : Params) :
    (router.spelled.pathNamed name given.present.spelled).2 = (router.pathNamed name given).2 := by
  rw [pathNamed, pathNamed, route_spelled]
  cases router.route? name with
  | none => rfl
  | some route =>
      change (ask router.config.pathOptions given.present.spelled route.spelled).2 =
        (ask router.config.pathOptions given route).2
      rw [ask_answer, ask_answer, path_spelled_out]

theorem listing_spelled (router : Router) : router.spelled.listing = router.listing := by
  have count : router.spelled.routes.length = router.routes.length := List.length_map _
  unfold listing
  rw [count]
  congr 2
  rw [spelled, List.map_map]
  refine List.map_congr_left fun route _ => ?_
  exact route_line_congr route.spelled route rfl rfl rfl route.declaration.defaults.size_spelled rfl

-- Each call by itself; a run follows by induction.
theorem answer_spelled (router : Router) (call : Call) :
    (router.answer call).1.spelled = (router.spelled.answer call.spelled).1 ∧
      (router.answer call).2.2.spelled = (router.spelled.answer call.spelled).2.2 := by
  cases call with
  | register name declaration =>
      obtain ⟨state, outcome⟩ := register_spelled router name declaration
      exact ⟨state, congrArg Reply.registered outcome⟩
  | path given =>
      obtain ⟨state, answer⟩ := path_spelled router given
      exact ⟨state, congrArg Reply.path answer⟩
  | pathNamed name given => exact ⟨rfl, congrArg Reply.path (path_named_spelled router name given).symm⟩
  | verdicts given => exact ⟨rfl, congrArg Reply.verdicts (verdicts_spelled router given).symm⟩
  | route name => exact ⟨rfl, congrArg Reply.route (route_spelled router name).symm⟩
  | listing => exact ⟨rfl, congrArg Reply.listing (listing_spelled router).symm⟩
  | isEmpty => exact ⟨rfl, congrArg Reply.isEmpty List.isEmpty_map.symm⟩
  | _ => exact ⟨rfl, rfl⟩

theorem run_spelled (router : Router) (calls : List Call) :
    (router.after calls).spelled = router.spelled.after (calls.map Call.spelled) ∧
      (router.replies calls).map Reply.spelled = router.spelled.replies (calls.map Call.spelled) := by
  induction calls generalizing router with
  | nil => exact ⟨rfl, rfl⟩
  | cons call rest ih =>
      obtain ⟨state, reply⟩ := answer_spelled router call
      obtain ⟨later, replies⟩ := ih (router.answer call).1
      rw [state] at later replies
      rw [after_cons, replies_cons, List.map_cons, List.map_cons, after_cons, replies_cons, reply]
      exact ⟨later, congrArg (List.cons _) replies⟩

end Router

-- The order of a route and its segments as they are displayed.
def Route.shown (route : Route) : Nat × List String := (route.order, route.segments.map (·.display))

theorem shown_spelled (route : Route) : route.spelled.shown = route.shown := by
  have displays : (fun segment : Segment => segment.display) ∘ Segment.spelled = fun segment => segment.display := by
    funext segment
    cases segment <;> rfl
  rw [Route.shown, Route.shown, Route.spelled, List.map_map, displays]

-- Routers that show the same routes, say the same of parameters and have counted the same.
structure SameAnswers (a b : Router) : Prop where
  stats : a.stats = b.stats
  shown : a.routes.map (·.shown) = b.routes.map (·.shown)
  verdicts : ∀ p q : Params, p.present.spelled = q.present.spelled → a.verdicts p = b.verdicts q

theorem same_answers (a b : Router) (same : a.spelled = b.spelled) : SameAnswers a b where
  stats := by
    have stats : a.spelled.stats = b.spelled.stats := by rw [same]
    exact stats
  shown := by
    have routes : a.routes.map Route.spelled = b.routes.map Route.spelled := congrArg Router.routes same
    have shown (routes : List Route) : (routes.map Route.spelled).map (·.shown) = routes.map (·.shown) := by
      rw [List.map_map]
      exact List.map_congr_left fun route _ => shown_spelled route
    rw [← shown a.routes, ← shown b.routes, routes]
  verdicts := by
    intro p q alike
    rw [← Router.verdicts_spelled a p, ← Router.verdicts_spelled b q, same, alike]

-- The calls may differ in integers for their decimal forms, and in names without a value where a path is asked for.
theorem spelling_never_shows (config : Config) (calls others : List Call)
    (alike : calls.map Call.spelled = others.map Call.spelled) :
    ((Router.ofConfig config).replies calls).map Reply.spelled =
      ((Router.ofConfig config).replies others).map Reply.spelled ∧
    ∀ n, SameAnswers ((Router.ofConfig config).after (calls.take n)) ((Router.ofConfig config).after (others.take n)) := by
  constructor
  · rw [(Router.run_spelled _ calls).2, (Router.run_spelled _ others).2, alike]
  · intro n
    apply same_answers
    rw [(Router.run_spelled _ (calls.take n)).1, (Router.run_spelled _ (others.take n)).1, List.map_take, List.map_take, alike]

-- The second list of calls has the numbers of the first as texts and one name more, without a value.
def numberedCalls : List Call :=
  [.register none { template := "a/:id", defaults := .ofList [("id", some (.int 1)), ("page", some (.int 5))] },
    .path (.ofList [("id", some (.int 7)), ("page", some (.int 5))]), .path (.ofList [("id", some (.int (-7)))])]

def writtenCalls : List Call :=
  [.register none { template := "a/:id", defaults := .ofList [("id", some (.text "1")), ("page", some (.text "5"))] },
    .path (.ofList [("id", some (.text "7")), ("lang", none), ("page", some (.int 5))]),
    .path (.ofList [("id", some (.text "-7"))])]

theorem spelling_never_shows_of_numbers :
    numberedCalls.map Call.spelled = writtenCalls.map Call.spelled ∧
    ((Router.ofConfig {}).replies numberedCalls).map Reply.spelled =
      ((Router.ofConfig {}).replies writtenCalls).map Reply.spelled ∧
    ((Router.ofConfig {}).replies writtenCalls).tail = [.path (some "/a/7"), .path (some "/a/-7")] :=
  ⟨rfl, (spelling_never_shows {} numberedCalls writtenCalls rfl).1, rfl⟩

end PathTemplates
