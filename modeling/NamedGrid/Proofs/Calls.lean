import NamedGrid.Operation.Outcome
import NamedGrid.Proofs.Builds

/-!
# Calls of a session

The three operations are seen here as calls of one kind, each of which ends in an outcome and
leaves a session for the next. All of them start with the same pass, so a malformed layout
fails all of them in the same way, and a call that fails so leaves nothing behind but plugins
that are discovered.
-/

namespace NamedGrid

/-- Turn the result of an operation into another form. -/
def Done.map {α β : Type} (f : α → β) (done : Done α) : Done β :=
  { result := done.result.map f
    session := done.session
    receipts := done.receipts
    events := done.events }

/-- An operation with what it is asked. -/
inductive Call
  | build (output : Option Path) (content : Option (List Text))
  | listAreas
  | resolve (classes : List Text)

/-- The name of the operation of a call. -/
def Call.operation : Call → Text
  | build _ _ => buildOperation
  | listAreas => areasOperation
  | resolve _ => resolveOperation

namespace Session

/-- Make a call. -/
def perform (session : Session) : Call → Done Outcome
  | .build output content => (session.build output content).map .ofBuild
  | .listAreas => session.listAreas.map .ofAreas
  | .resolve classes => (session.resolve classes).map .ofResolve

/-- The session after calls in order. -/
def after (session : Session) (calls : List Call) : Session :=
  calls.foldl (fun session call => (session.perform call).session) session

/-! ## Discovery comes first -/

/-- The session once its plugins are discovered. -/
def settled (session : Session) : Session :=
  { session with registry := session.discovered.registry }

/-- What discovery reports. -/
def discoveryEvents (session : Session) : List Event :=
  session.discovered.notices.map .notice

/-- A pass of a session is discovery and then a pass of the settled session. -/
theorem generate_settled {session : Session} (h : session.discovered.error = none) :
    session.generate =
      { session.settled.generate with
        events := session.discoveryEvents ++ session.settled.generate.events } := by
  have hsettled : session.settled.discovered = ⟨session.discovered.registry, [], none⟩ :=
    discovered_of_isLoaded (isLoaded_discovered h)
  unfold generate discoveryEvents
  rw [hsettled]
  dsimp only [settled]
  rw [h]
  dsimp only
  cases session.discovered.registry.collect with
  | error error => simp
  | ok collected =>
    dsimp only
    cases UtilitySet.generate (collected.sources.update session.settings.sources) <;> simp

/-- A build of a session is discovery and then a build of the settled session. -/
theorem build_settled {session : Session} (h : session.discovered.error = none)
    (output : Option Path) (content : Option (List Text)) :
    session.build output content =
      { session.settled.build output content with
        events := session.discoveryEvents ++ (session.settled.build output content).events } := by
  unfold build
  rw [generate_settled h]
  generalize session.settled.generate = pass
  dsimp only
  cases pass.result with
  | error error => rfl
  | ok outcome =>
    cases outcome with
    | error fault => rfl
    | ok generation =>
      dsimp only
      cases (pass.session.registry.dispatch generation.set.deliveries).sheet with
      | error error => simp
      | ok sheet =>
        dsimp only
        split
        · simp
        · dsimp only
          split <;> simp

/-- A call of a session is discovery and then the call of the settled session. -/
theorem perform_settled {session : Session} (h : session.discovered.error = none)
    (call : Call) :
    session.perform call =
      { session.settled.perform call with
        events := session.discoveryEvents ++ (session.settled.perform call).events } := by
  cases call with
  | build output content =>
    rw [perform, build_settled h]
    rfl
  | listAreas =>
    rw [perform, listAreas, reporting, generate_settled h]
    rfl
  | resolve classes =>
    rw [perform, resolve, reporting, generate_settled h]
    rfl

end Session

end NamedGrid
