import TtyFrame.Engine
import TtyFrame.Screen.Output
import TtyFrame.Screen.View

/-!
# The screen as an engine
-/

set_option autoImplicit false

namespace TtyFrame.Screen

instance : Engine State where
  Stream := Stream
  fresh := {}
  blank columns lines limit := .blank columns lines limit {}
  resize := State.resize
  takeBytes := takeBytes
  view := State.view
  applicationCursor state := state.modes.applicationCursor

end TtyFrame.Screen
