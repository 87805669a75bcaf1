import Std.Async.DNS
import Std.Async.TCP
import PubSubProvisioning.Http.Wire
import PubSubProvisioning.Invocation

/-!
# The program

The outer layer: it reads the arguments and the environment, lets the requests of the invocation go
out over TCP, and prints.  What an invocation does is a function of the returns of its requests, so
it is run again after each return, until it asks for no further one.

There is no way to a server for requests in secret, so those fail.  The texts that other libraries
would make are left out.
-/

namespace PubSubProvisioning

open Std.Async
open PubSubProvisioning.Http (Network Request Return)

/-- The build that this is. -/
def build : Build :=
  { platform := "linux/x86_64" }

/-- Reads from a connection until it is closed. -/
partial def readAll (client : TCP.Socket.Client) (octets : List UInt8) : Async (List UInt8) := do
  match ← client.recv? 65536 with
  | some received => readAll client (octets ++ received.toList)
  | none => pure octets

/-- Sends a request to an address, and waits for what comes back. -/
def exchangeWith (address : Std.Net.SocketAddress) (request : Request) : Async Return := do
  let client ← TCP.Socket.Client.mk
  client.connect address
  client.sendAll #[⟨request.octets.toArray⟩]
  pure (Return.ofOctets (← readAll client []))

/-- The address of a host with a name. -/
def addressOf? (host : String) (port : UInt16) : Async (Option Std.Net.SocketAddress) := do
  let addresses ← DNS.getAddrInfo host (toString port.toNat)
  match addresses[0]? with
  | some (Std.Net.IPAddr.v4 addr) => pure (some (.v4 { addr, port }))
  | some (Std.Net.IPAddr.v6 addr) => pure (some (.v6 { addr, port }))
  | none => pure none

/-- Sends a request to its host, and waits for what comes back. -/
def exchange (request : Request) : Async Return := do
  match request.method, request.url.authority with
  | .put, some authority | .get, some authority =>
      let port := request.url.effectivePort?.getD 80
      let host :=
        match authority.host with
        | .ipv6 pieces => Url.ipv6Text pieces
        | other => other.text
      match ← addressOf? host (UInt16.ofNat port) with
      | some address => exchangeWith address request
      | none => pure .dropped
  | _, _ => pure .dropped

/-- What comes back for a request; nothing does where the connection fails. -/
def returnOf (request : Request) : IO Return := do
  try (exchange request).block
  catch _ => pure .dropped

/-- Runs an invocation with the returns of its first requests known, and fetches the others. -/
partial def settle (invocation : Invocation) (returns : List Return) : IO Effect := do
  let effect := invocation.run build { secure := false, returns }
  match effect.network.sent[returns.length]? with
  | some request => settle invocation (returns ++ [← returnOf request])
  | none => pure effect

/-- The project variables of the process, from number `index` on. -/
partial def projectEntries (index : Nat) : IO (List (String × String)) := do
  let name := Environment.projectVariable index
  match ← IO.getEnv name with
  | none => pure []
  | some value =>
      if value.isEmpty then pure [] else pure ((name, value) :: (← projectEntries (index + 1)))

/-- The variables of the process that the program looks at. -/
def processEnvironment : IO Environment := do
  let named ← ["PUBSUB_EMULATOR_HOST", "PUBSUB_ACCESS_TOKEN", "RUST_LOG"].filterMapM fun name => do
    pure ((← IO.getEnv name).map (name, ·))
  pure ⟨(← projectEntries 1) ++ named⟩

/-- The name by which the program was called: the first word of the command line of the process. -/
def calledName : IO String := do
  match (← IO.FS.readBinFile "/proc/self/cmdline").toList with
  | [] => pure ownName
  | octets => pure (String.ofList (Unicode.Utf8.decodeLenient (octets.takeWhile (· ≠ 0))))

/-- Runs the program with its arguments, and prints what it has to say. -/
def runProcess (arguments : List String) : IO UInt32 := do
  let effect ← settle ⟨← calledName, arguments, ← processEnvironment⟩ []
  IO.print (effect.stdout build)
  IO.eprint effect.stderr
  pure (UInt32.ofNat effect.exitCode)

end PubSubProvisioning

/-- The entry point. -/
def main (arguments : List String) : IO UInt32 :=
  PubSubProvisioning.runProcess arguments
