import CaseForm.Form.Dispatch

/-!
Opening an assignment: its first action, and the view of that action.
-/

namespace CaseForm

/-- What a form is made with. -/
structure Setup where
  renderer : Renderer
  scripts : Scripts
  session : Session

namespace Setup

/-- A form on a source. -/
def build (setup : Setup) (source : FormSource) : Form :=
  Form.build setup.renderer setup.scripts setup.session source

/-- The form on a view of an assignment's action. -/
def buildOn (setup : Setup) (assignment : Assignment) (action : AssignmentAction) (view : View) :
    Form :=
  setup.build
    (.assignment ⟨assignment.caseId, assignment.id, action.id, assignment.etag⟩ view)

/-- Opens an assignment on its first action. The user is told where there is none, or where its
view does not come. -/
def openAssignment (setup : Setup) (assignment : Assignment) (surroundings : Surroundings) :
    Except FormError Form × Surroundings :=
  let fail (error : FormError) (message : String) (s : Surroundings) :
      Except FormError Form × Surroundings :=
    (.error error, s.record (.notify ⟨.error, message⟩))
  match assignment.actions with
  | [] =>
    fail (.noActions assignment.id) "Assignment does not have any actions configured." surroundings
  | action :: _ =>
    if setup.session.isActive then
      let asked := surroundings.record
        (.server setup.session (.view assignment.id action.id))
      match asked.takeView with
      | (.ok view, s) => (.ok (setup.buildOn assignment action view), s)
      | (.error error, s) => fail (.transport error) error.message s
    else fail (.transport .unauthenticated) TransportError.unauthenticated.message surroundings

end Setup

end CaseForm
