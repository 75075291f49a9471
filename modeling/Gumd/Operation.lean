import Gumd.Config
import Gumd.File

/-!
# Operations of objects

An operation of a daemon object runs on its own object and the world, with the surroundings of the
call at hand.
-/

namespace Gumd

/-- What login1 answers during one `_terminate_user`. -/
structure Logind where
  reachable : Bool
  isUserLoggedIn : Bool
  terminateUser : Bool
  isStillLoggedIn : Bool
  deriving DecidableEq, Repr

/-- What a call reads and does not write: the configuration, the library functions and the
outcomes of what happens outside the database files. -/
structure Env where
  config : GumConfig
  crypt : Str → Str → Option Str
  md5 : Str → Str
  urandom : List UInt8
  time : Int
  egid : UInt32
  logind : Logind
  createHomeDir : Option Str → UInt32 → UInt32 → UInt32 → Option GError
  deleteHomeDir : Option Str → Option GError

/-- An operation's state: its own object and the world. -/
structure St (O : Type) where
  self : O
  world : World

abbrev GumM (O : Type) := StateM (St O)

instance {O : Type} : MonadLift (StateM World) (GumM O) where
  monadLift m := fun s => ((m.run s.world).1, { s with world := (m.run s.world).2 })

/-- Run an operation of an object, and return the object with the result. -/
def runOn {O α : Type} (object : O) (m : GumM O α) : StateM World (α × O) :=
  fun w => (((m.run ⟨object, w⟩).1, (m.run ⟨object, w⟩).2.self), (m.run ⟨object, w⟩).2.world)

/-- Write properties of the operation's own object. -/
def modifySelf {O : Type} (f : O → O) : GumM O Unit :=
  modify fun s => { s with self := f s.self }

def getSelf {O : Type} : GumM O O := return (← get).self

/-- Release the lock and return. -/
def unlockReturn {O α : Type} (retval : α) : GumM O α := do
  let _ ← gumLockPwdfUnlock
  return retval

/-- Release the lock, then return with an error. -/
def unlockReturnWithError {O α : Type} (error : GError) (retval : α) : GumM O α := do
  let _ ← gumLockPwdfUnlock
  gumReturnWithError error retval

end Gumd
