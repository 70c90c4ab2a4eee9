import Mathlib.Data.Option.Basic
import Mathlib.Logic.Function.Basic

/-!
Objects with names, which are created, copied, assigned, called and destroyed, and the answers of
their calls. Where a map between two kinds of objects goes along with each call, no run can tell
the kinds apart.
-/

namespace Objects

structure Kind (Init Method Answer Object : Type) where
  create : Init → Object
  call : Object → Method → Answer × Object

inductive Event (Name Init Method : Type)
  | create (name : Name) (init : Init)
  | copy (name source : Name)
  | assign (name source : Name)
  | call (name : Name) (method : Method)
  | destroy (name : Name)

variable {Name Init Method Answer Object Image : Type} [DecidableEq Name]

def step (kind : Kind Init Method Answer Object) (objects : Name → Option Object) :
    Event Name Init Method → Option (Option Answer × (Name → Option Object))
  | .create name init =>
      match objects name with
      | none => some (none, Function.update objects name (some (kind.create init)))
      | some _ => none
  | .copy name source =>
      match objects name, objects source with
      | none, some object => some (none, Function.update objects name (some object))
      | _, _ => none
  | .assign name source =>
      match objects name, objects source with
      | some _, some object => some (none, Function.update objects name (some object))
      | _, _ => none
  | .call name method =>
      (objects name).map fun object =>
        (some (kind.call object method).1,
          Function.update objects name (some (kind.call object method).2))
  | .destroy name => (objects name).map fun _ => (none, Function.update objects name none)

def answers (kind : Kind Init Method Answer Object) :
    (Name → Option Object) → List (Event Name Init Method) → List Answer
  | _, [] => []
  | objects, event :: events =>
      match step kind objects event with
      | none => []
      | some (answer, next) => answer.toList ++ answers kind next events

/-- The image of an object answers as the object does, and stays its image. -/
structure Mirrors (kind : Kind Init Method Answer Object) (mirror : Kind Init Method Answer Image)
    (image : Object → Image) : Prop where
  create : ∀ init, image (kind.create init) = mirror.create init
  call : ∀ object method, mirror.call (image object) method =
    ((kind.call object method).1, image (kind.call object method).2)

variable {kind : Kind Init Method Answer Object} {mirror : Kind Init Method Answer Image}
  {image : Object → Image}

def imageOf (image : Object → Image) (objects : Name → Option Object) (name : Name) :
    Option Image :=
  (objects name).map image

theorem imageOf_update (objects : Name → Option Object) (name : Name) (object : Option Object) :
    imageOf image (Function.update objects name object) =
      Function.update (imageOf image objects) name (object.map image) := by
  funext other
  by_cases same : other = name
  · rw [imageOf, same, Function.update_self, Function.update_self]
  · rw [imageOf, Function.update_of_ne same, Function.update_of_ne same, imageOf]

theorem Mirrors.step (mirrors : Mirrors kind mirror image) (objects : Name → Option Object)
    (event : Event Name Init Method) :
    step mirror (imageOf image objects) event =
      (step kind objects event).map fun next => (next.1, imageOf image next.2) := by
  cases event with
  | create name init =>
      cases here : objects name with
      | none => simp [Objects.step, imageOf, here, imageOf_update, ← mirrors.create]
      | some object => simp [Objects.step, imageOf, here]
  | copy name source =>
      cases here : objects name with
      | none =>
          cases there : objects source with
          | none => simp [Objects.step, imageOf, here, there]
          | some object => simp [Objects.step, imageOf, here, there, imageOf_update]
      | some object => simp [Objects.step, imageOf, here]
  | assign name source =>
      cases here : objects name with
      | none => simp [Objects.step, imageOf, here]
      | some object =>
          cases there : objects source with
          | none => simp [Objects.step, imageOf, here, there]
          | some object => simp [Objects.step, imageOf, here, there, imageOf_update]
  | call name method =>
      cases here : objects name with
      | none => simp [Objects.step, imageOf, here]
      | some object => simp [Objects.step, imageOf, here, imageOf_update, mirrors.call]
  | destroy name =>
      cases here : objects name with
      | none => simp [Objects.step, imageOf, here]
      | some object => simp [Objects.step, imageOf, here, imageOf_update]

theorem Mirrors.answers (mirrors : Mirrors kind mirror image) (objects : Name → Option Object)
    (events : List (Event Name Init Method)) :
    answers mirror (imageOf image objects) events = answers kind objects events := by
  induction events generalizing objects with
  | nil => rfl
  | cons event events ih =>
      rw [Objects.answers, Objects.answers, mirrors.step]
      cases taken : Objects.step kind objects event with
      | none => rfl
      | some next =>
          obtain ⟨answer, next⟩ := next
          exact congrArg (answer.toList ++ ·) (ih next)

end Objects
