import Mqtt.Broker.Server
import Mqtt.Config

/-!
# Command line

The program serves one client over its standard streams, the way a super-server starts one process
for each connection. Arguments and environment are checked first; where to listen is the matter of
whoever starts the process, and is only reported.
-/

namespace Mqtt.Main

/-- The most bytes read at a time. -/
def chunkSize : USize := 4096

/-- Read the variables that the settings depend on. -/
def readEnvironment : IO (String → Option String) := do
  let names := [Config.maxQoSVariable, Config.userNameVariable, Config.passwordVariable]
  let values ← names.mapM fun name => do
    let value ← IO.getEnv name
    pure (name, value)
  pure fun name => (values.lookup name).join

/-- Write what the client has not seen yet; the answer is whether its session goes on. -/
def deliver (output : IO.FS.Stream) (server : Server) : IO (Server × Bool) := do
  let (server, news) := server.report
  for n in news do
    output.write ⟨n.bytes.toArray⟩
  output.flush
  pure (server, !(news.any fun n => n.endedNow))

/-- Serve the only client until its session ends. -/
partial def serve (input output : IO.FS.Stream) (server : Server) : IO Unit := do
  let chunk ← input.read chunkSize
  let server := if chunk.isEmpty then server.endStream 0 else server.send 0 chunk.data.toList
  let (server, goesOn) ← deliver output server
  if goesOn then serve input output server

end Mqtt.Main

/-- Check the settings, then serve the client on the standard streams. -/
def main (arguments : List String) : IO UInt32 := do
  let environment ← Mqtt.Main.readEnvironment
  match Mqtt.Config.read arguments environment with
  | .error e   =>
    IO.eprintln ("Error: " ++ e.message)
    pure 1
  | .ok config =>
    IO.eprintln ("Serving one client of " ++ config.bind.name)
    let server := Mqtt.Server.new config.credentialCheck config.maxQoS
    Mqtt.Main.serve (← IO.getStdin) (← IO.getStdout) server.connect
    pure 0
