import VariantIter.Command
import VariantIter.Settings.Save

/-!
Sessions: many actions in the same surroundings, with settings that outlive them.

There are shared settings, loaded when they are first asked for, and the settings at hand. The settings
at hand may be the shared ones; a change to the one is then a change to the other.
-/

namespace VariantIter

/-- The settings at hand. -/
inductive Current where
  | none
  | shared
  | own (settings : Settings)

structure Session where
  world : World
  shared : Option Settings := none
  current : Current := .none

namespace Session

variable {α : Type}

/-- Runs an action in the surroundings of the session. -/
def act (session : Session) (action : Action α) : Except Fault α × Session :=
  let (outcome, world) := action session.world
  (outcome, { session with world := world })

/-- The settings at hand. -/
def current? (session : Session) : Option Settings :=
  match session.current with
  | .none => Option.none
  | .shared => session.shared
  | .own settings => some settings

/-- Whether the settings at hand are the shared ones. -/
def isShared (session : Session) : Bool :=
  match session.current with
  | .shared => session.shared.isSome
  | _ => false

/-- Loads settings, which are then at hand. -/
def load (session : Session) (path : Option Text) : Except Fault Settings × Session :=
  match session.act (Settings.load path) with
  | (.ok settings, session) => (.ok settings, { session with current := .own settings })
  | (.error fault, session) => (.error fault, session)

/-- Changes the settings at hand. -/
def change (session : Session) (f : Settings → Settings) : Except Fault Settings × Session :=
  match session.current, session.current? with
  | .shared, some settings => (.ok (f settings), { session with shared := some (f settings) })
  | _, some settings => (.ok (f settings), { session with current := .own (f settings) })
  | _, none => (.error .noCurrentSettings, session)

/-- Writes the settings at hand to their file. -/
def save (session : Session) : Except Fault Unit × Session :=
  match session.current? with
  | some settings => session.act settings.save
  | none => (.error .noCurrentSettings, session)

/-- The shared settings; they are loaded if there are none. -/
def getShared (session : Session) : Except Fault Settings × Session :=
  match session.shared with
  | some settings => (.ok settings, session)
  | none => match session.act (Settings.load none) with
    | (.ok settings, session) => (.ok settings, { session with shared := some settings })
    | (.error fault, session) => (.error fault, session)

/-- Shares the settings at hand. -/
def share (session : Session) : Session :=
  match session.current? with
  | some settings => { session with shared := some settings, current := .shared }
  | none => { session with shared := none }

/-- Forgets the shared settings. If they are at hand, they stay there. -/
def unshare (session : Session) : Session :=
  { session with
    shared := none
    current := match session.current? with
      | some settings => .own settings
      | none => .none }

end Session

end VariantIter
