import TicketSync.Config.Load
import TicketSync.Engine.World
import TicketSync.Plugin.Launch
import TicketSync.Plugin.Redial

/-!
What the program finds on the machine that it runs on: files, the store on disk, plugins that can
be started, the network, and the trackers once they are connected.
-/
namespace TicketSync.CommandLine

open Engine

/-- A machine on which trackers with a state run. -/
structure Host (τ : Type) where
  file : String → FileContent
  disk : String → Outcome DiskStore
  launch : Plugin.Launch → Outcome Unit
  dial : String → Outcome Unit
  bind : SocketAddress → Outcome Unit
  surroundings : Surroundings τ
  trackers : τ

/-- A network that reaches nobody. -/
def unreachable : String := "Network is unreachable (os error 101)"

/-- Whether a text is the number of a port. -/
def isPort (digits : List Char) : Bool :=
  let digits := if digits.head? = some '+' then digits.drop 1 else digits
  !digits.isEmpty && digits.all Char.isDigit && digits.foldl (fun n c => n * 10 + (c.toNat - 48)) 0 < 65536

/-- Why an address cannot be connected to when no network is there. -/
def unreachableReason (address : String) : String :=
  let back := address.toList.reverse
  if (SocketAddress.parse? address).isSome then unreachable
  else if !back.contains ':' then "invalid socket address"
  else if !isPort (back.takeWhile (· ≠ ':')).reverse then "invalid port value"
  else "failed to lookup address information: Temporary failure in name resolution"

/-- The failure to connect to an address. -/
def connectFailure (address reason : String) : Failure :=
  .transport ("connect " ++ address ++ ": " ++ reason)

/-- Dialling where no network is there. -/
def dialOffline (address : String) : Outcome Unit :=
  .error (connectFailure address (unreachableReason address))

/-- The store that is found in a file. Where no file is, a new one is begun. -/
def storeIn : FileContent → Outcome DiskStore
  | .missing => .ok {}
  | .unreadable => .error (.persistence "the file cannot be read")
  | .text s => DiskStore.load s

/-- No trackers. -/
def noTrackers : Trackers Unit where
  names := []
  call _ _ s := ({ settle := fun s => (.error .cancelled, s) }, s)
  subscribe _ _ s := ({ settle := fun s => (.error .cancelled, s) }, s)
  unsubscribe _ _ s := ({ settle := fun s => (.error .cancelled, s) }, s)
  handleWebhook _ _ _ s := ({ settle := fun s => (.ok none, s) }, s)

end TicketSync.CommandLine
