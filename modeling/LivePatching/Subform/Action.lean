import LivePatching.Subform.Render

/-!
# Runs of a session

Everything that happens to a session is an action: what the owner of the form or of the sub-form
does, and the steps that loads, waiting calls and loops take in any order. A load step carries the
answer of its provider.

* `Session.step`: one action.
* `Session.run`: a list of actions, one after another.
-/

namespace LivePatching

open Json

/-- Everything that happens to a session. -/
inductive Action where
  -- What the owner of the form does.
  | write (model : Nat) (key : String) (value : Value)
  | publish (e : FormEvent)
  /-- Somebody else listens on the bus. -/
  | subscribe (filter : Filter)
  /-- A holder of the bus lets go of it. -/
  | closeBus
  -- What a holder of the sub-form does.
  | activate
  | observe (t : Template) (c : Context)
  | suspend
  | tearDown
  | render (p : Props)
  | drive (p : Props) (filter : Filter)
  | settle
  | release
  -- Steps of loads.
  | start (load : Nat)
  | answerClients (load : Nat) (answer : Except ProviderError (List Client))
  | answerProducts (load : Nat) (answer : Except ProviderError (List Product))
  | answerKernels (load : Nat) (answer : Except ProviderError (List Kernel))
  | drop (load : Nat)
  -- Steps of waiting calls and of loops.
  | continueSettling (call : Nat)
  | abandonSettling (call : Nat)
  | continueDrive (loop : Nat) (eventFirst : Bool)

namespace Session

/-- The session after one action. -/
def step (s : Session) : Action → Session
  | .write model key value => { s with form := s.form.write model key value }
  | .publish e => { s with form := s.form.publish e }
  | .subscribe filter => { s with form := { s.form with bus := (s.form.bus.subscribe filter).1 } }
  | .closeBus => { s with form := { s.form with bus := s.form.bus.release } }
  | .activate => s.activate
  | .observe t c => s.observe (.read s.form t c)
  | .suspend => s.suspend
  | .tearDown => s.tearDown
  | .render p => (s.render p).1
  | .drive p filter => s.drive p filter
  | .settle => s.settle
  | .release => s.release
  | .start load => s.start load
  | .answerClients load answer => s.answerCatalog .clients load answer
  | .answerProducts load answer => s.answerCatalog .products load answer
  | .answerKernels load answer => s.answerKernels load answer
  | .drop load => s.drop load
  | .continueSettling call => s.continueSettling call
  | .abandonSettling call => s.abandonSettling call
  | .continueDrive loop eventFirst => s.continueDrive loop eventFirst

/-- The session after actions, from the first to the last. -/
def run (s : Session) (actions : List Action) : Session := actions.foldl step s

@[simp] theorem run_nil (s : Session) : s.run [] = s := rfl

@[simp] theorem run_cons (s : Session) (a : Action) (as : List Action) :
    s.run (a :: as) = (s.step a).run as := rfl

theorem run_append (s : Session) (as bs : List Action) :
    s.run (as ++ bs) = (s.run as).run bs := List.foldl_append

end Session

end LivePatching
