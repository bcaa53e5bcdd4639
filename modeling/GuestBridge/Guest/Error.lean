import GuestBridge.Guest.Linker
import GuestBridge.Guest.Trap
import GuestBridge.Settings
/-!
# Errors of running a guest

What can go wrong when a guest is loaded, linked, booted or called.
-/

namespace GuestBridge

inductive RuntimeError
  /-- The module is none, or cannot be linked. -/
  | module (reason : String)
  | missingExport (role name reason : String)
  | functionNotFound (name : String)
  | trap (reason : String)
  | bridge (e : BridgeError)
  | link (e : LinkerError)
  | settings (e : SettingsError)
  deriving DecidableEq, Repr

namespace RuntimeError

def message : RuntimeError → String
  | module reason => "WASM error: " ++ reason
  | missingExport role name reason =>
    "Guest export '" ++ name ++ "' (" ++ role ++ ") unusable: " ++ reason
  | functionNotFound name => "Function not found: " ++ name
  | trap reason => "Guest trapped: " ++ reason
  | bridge e => e.message
  | link e => e.message
  | settings e => e.message

/-- What was to be loaded is no well-formed module. -/
def notAModule : RuntimeError := module "not a well-formed module"

/-- An error of the host that passed through guest code is that error; anything else is a trap of
the guest. -/
def ofTrap : Trap → RuntimeError
  | .guest reason => trap reason
  | .host e => bridge e

end RuntimeError

end GuestBridge
