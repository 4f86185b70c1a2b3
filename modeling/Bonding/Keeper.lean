import Bonding.Session.Basic
import Bonding.Schedule

/-!
The keeper: a sender that closes epochs. It holds the schedules of its rebase task. A run asks
whether the running epoch is over and, only then, executes a rebase as its sender, which is
recorded and counted like any other call.
-/

namespace Bonding

def Session.epochDue (s : Session) : Result Bool :=
  if !s.chain.instantiated then .error Chain.notInstantiated
  else .ok !(s.now.before s.chain.world.staking.epoch.stop)

/-- A keeper: its sender and the schedules of its rebase task. -/
structure Keeper where
  sender : String
  schedules : List Schedule
  deriving Repr, Inhabited

namespace Keeper

def ofSender (sender : String) : Keeper := ⟨sender, []⟩

def register (k : Keeper) (spec : String) : Result Keeper := do
  let schedule ← Result.context "register rebase task" (Schedule.parse spec)
  pure { k with schedules := k.schedules ++ [schedule] }

def run (k : Keeper) (s : Session) : Session × Result Bool :=
  match s.epochDue with
  | .error f => (s, .error f)
  | .ok false => (s, .ok false)
  | .ok true =>
    let (s, r) := s.execute k.sender [] .rebase
    (s, r.map fun _ => true)

end Keeper

end Bonding
