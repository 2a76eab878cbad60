import UnitCheck.Service.Server

/-!
# The command line

The program reads requests from standard input, one a line, and writes each reply as a line to
standard output. The environment variable `DIMCHECK_PRESETS_PATH` names the file of the site's
presets.
-/

namespace UnitCheck.CommandLine

/-- The content of the site's presets file, if it is named and can be read. -/
def readPresets : IO (Option ByteArray) := do
  match ← IO.getEnv "DIMCHECK_PRESETS_PATH" with
  | none => return none
  | some path =>
      try
        return some (← IO.FS.readBinFile path)
      catch _ =>
        return none

/-- Writes the reply to a line, if there is one. -/
def writeReply (output : IO.FS.Stream) (reply : Option Reply) : IO Unit := do
  if let some reply := reply then
    output.putStrLn reply.toJson.render
    output.flush

/-- Answers the complete lines among the bytes at hand. The result holds the bytes of the unfinished
line, and is empty-handed once a line is not UTF-8. -/
def answerReady (output : IO.FS.Stream) (server : Server) (bytes : ByteArray) :
    IO (Option (Server × ByteArray)) := do
  let mut server := server
  let mut line : Array UInt8 := #[]
  for byte in bytes do
    if byte = '\n'.toUInt8 then
      match Server.decodeLine? line.toList with
      | none => return none
      | some text =>
          let (after, reply) := server.handleLine text
          writeReply output reply
          server := after
          line := #[]
    else
      line := line.push byte
  return some (server, ⟨line⟩)

/-- Answers requests until the input ends. -/
partial def serve (input output : IO.FS.Stream) (server : Server) (pending : ByteArray) :
    IO Unit := do
  let chunk ← input.read 65536
  if chunk.isEmpty then
    for reply in server.answers pending.data.toList do
      writeReply output (some reply)
  else
    if let some (server, pending) ← answerReady output server (pending ++ chunk) then
      serve input output server pending

end UnitCheck.CommandLine

open UnitCheck UnitCheck.CommandLine in
/-- Runs the server. -/
def main : IO Unit := do
  let registry := Registry.atStart (← readPresets)
  serve (← IO.getStdin) (← IO.getStdout) (.start registry) .empty
