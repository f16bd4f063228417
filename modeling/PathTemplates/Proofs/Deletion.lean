import PathTemplates.Proofs.Table

set_option autoImplicit false

/-!
A registration that is refused, a request for the path of a named route and a question about the router leave the router as it
is. Calls around them let the same be seen whether they are made or not.
-/

namespace PathTemplates

-- What is left of a list when some places are taken out.
def remaining {α : Type} (deleted : Nat → Bool) : List α → List α
  | [] => []
  | first :: rest =>
      let later := remaining (fun i => deleted (i + 1)) rest
      if deleted 0 then later else first :: later

-- Calls without effect. Of a registration only the reply tells.
def Call.traceless (call : Call) (reply : Reply) : Bool :=
  match call with
  | .register .. =>
      match reply with
      | .registered (.ok _) => false
      | _ => true
  | .path _ => false
  | _ => true

namespace Router

theorem sights_cons (router : Router) (call : Call) (rest : List Call) :
    router.sights (call :: rest) =
      ⟨(router.answer call).2.1, (router.answer call).2.2, (router.answer call).1.size, (router.answer call).1.stats⟩ ::
        (router.answer call).1.sights rest := rfl

theorem traceless_step (router : Router) (call : Call) (traceless : call.traceless (router.answer call).2.2 = true) :
    (router.answer call).1 = router := by
  rcases call.kinds with ⟨name, declaration, same⟩ | ⟨given, same⟩ | reads
  · subst same
    cases outcome : (router.register name declaration).2.2 with
    | error error => exact register_refused_unchanged router name declaration error outcome
    | ok route =>
        have accepted : (router.answer (.register name declaration)).2.2 = .registered (.ok route) :=
          congrArg Reply.registered outcome
        rw [accepted] at traceless
        cases traceless
  · subst same
    cases traceless
  · exact router.answer_reads call reads

theorem deletion_run (router : Router) (calls : List Call) (deleted : Nat → Bool)
    (traceless : ∀ (i : Nat) call sight, deleted i = true → calls[i]? = some call →
      (router.sights calls)[i]? = some sight → call.traceless sight.reply = true) :
    router.sights (remaining deleted calls) = remaining deleted (router.sights calls) ∧
      router.after (remaining deleted calls) = router.after calls := by
  induction calls generalizing router deleted with
  | nil => exact ⟨rfl, rfl⟩
  | cons call rest ih =>
      obtain ⟨sights, state⟩ := ih (router.answer call).1 (fun i => deleted (i + 1))
        fun i later sight taken made seen => traceless (i + 1) later sight taken made seen
      rw [sights_cons, after_cons, remaining, remaining]
      cases first : deleted 0 with
      | true =>
          have same := router.traceless_step call (traceless 0 call _ first rfl rfl)
          rw [same] at sights state ⊢
          exact ⟨sights, state⟩
      | false => exact ⟨congrArg (List.cons _) sights, state⟩

theorem sights_take (router : Router) (calls : List Call) (n : Nat) :
    router.sights (calls.take n) = (router.sights calls).take n := by
  induction calls generalizing router n with
  | nil => simp [sights]
  | cons call rest ih =>
      cases n with
      | zero => rfl
      | succ n => rw [List.take_succ_cons, sights_cons, sights_cons, List.take_succ_cons, ih]

end Router

-- The router is the same one at every point, so whatever is read off it there is the same, its size and statistics included.
theorem deletion_leaves_sights (config : Config) (calls : List Call) (deleted : Nat → Bool)
    (traceless : ∀ (i : Nat) call sight, deleted i = true → calls[i]? = some call →
      ((Router.ofConfig config).sights calls)[i]? = some sight → call.traceless sight.reply = true) :
    (Router.ofConfig config).sights (remaining deleted calls) = remaining deleted ((Router.ofConfig config).sights calls) ∧
      ∀ n, (Router.ofConfig config).after (remaining deleted (calls.take n)) =
        (Router.ofConfig config).after (calls.take n) := by
  refine ⟨(Router.deletion_run (Router.ofConfig config) calls deleted traceless).1, fun n => ?_⟩
  have earlier : ∀ (i : Nat) call sight, deleted i = true → (calls.take n)[i]? = some call →
      ((Router.ofConfig config).sights (calls.take n))[i]? = some sight → call.traceless sight.reply = true := by
    intro i call sight taken made seen
    rw [Router.sights_take] at seen
    rw [List.getElem?_take] at made seen
    by_cases inside : i < n
    · rw [if_pos inside] at made seen
      exact traceless i call sight taken made seen
    · rw [if_neg inside] at made
      cases made
  exact (Router.deletion_run (Router.ofConfig config) (calls.take n) deleted earlier).2

-- Between two requests of one key: a name that is taken, a template that does not compile, a named route, and a question.
def interruptedRequests : List Call :=
  [.register (some "a") { template := "a/:id" }, .path (.ofList [("id", some (.int 7))]),
    .register (some "a") { template := "b" }, .register none { template := ":" },
    .pathNamed "a" (.ofList [("id", some (.int 8))]), .hitRate, .path (.ofList [("id", some (.text "7"))])]

def interruption (i : Nat) : Bool := decide (2 ≤ i ∧ i ≤ 5)

theorem deletion_leaves_sights_of_requests :
    (∀ (i : Nat) call sight, interruption i = true → interruptedRequests[i]? = some call →
      ((Router.ofConfig {}).sights interruptedRequests)[i]? = some sight → call.traceless sight.reply = true) ∧
    (Router.ofConfig {}).sights (remaining interruption interruptedRequests) =
      remaining interruption ((Router.ofConfig {}).sights interruptedRequests) ∧
    ((Router.ofConfig {}).sights (remaining interruption interruptedRequests)).map (·.stats) =
      [some ⟨0, 0, 0, 1000⟩, some ⟨0, 1, 1, 1000⟩, some ⟨1, 1, 1, 1000⟩] := by
  have traceless : ∀ (i : Nat) call sight, interruption i = true → interruptedRequests[i]? = some call →
      ((Router.ofConfig {}).sights interruptedRequests)[i]? = some sight → call.traceless sight.reply = true := by
    intro i call sight taken made seen
    obtain ⟨lower, upper⟩ : 2 ≤ i ∧ i ≤ 5 := of_decide_eq_true taken
    interval_cases i
    all_goals
      cases made
      cases seen
      rfl
  exact ⟨traceless, (deletion_leaves_sights {} interruptedRequests interruption traceless).1, rfl⟩

end PathTemplates
