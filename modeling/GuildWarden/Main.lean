import GuildWarden.Payload.Printer
import GuildWarden.Rehearsal.Ensemble
import GuildWarden.Rehearsal.Record

/-
  This file defines the command line, which rehearses a run of
  the bot. The settings are read from the configuration file
  of the base directory, the token from the environment, and
  the script from the file that is named as an argument. The
  record is printed, one entry on a line, and the exit code is
  that of the run.
-/

open GuildWarden GuildWarden.Rehearsal

/- The octets of a file, if it can be read. -/
def readOctets?
    (place : String) : IO (Option (List Nat)) := do
  try
    let octets ← IO.FS.readBinFile place
    return some (octets.toList.map UInt8.toNat)
  catch _ => return none

/- The directory in which the bot lives. -/
def homeDirectory : IO String := do
  let home ← IO.getEnv "MODSBOT_HOME"
  return (Path.baseDirectory? home false "." "").getD "."

/- The script in a file; without one nothing is scripted. -/
def readScript
    (args : List String) : IO Script := do
  let octets ←
    match args with
    | place :: _ => readOctets? place
    | [] => return Script.ofPayload .null
  let text := Utf8.decodeLossy (octets.getD [])
  return Script.ofPayload ((Payload.read? text).getD .null)

/- The number with which a process ends. -/
def processCode : Payload → UInt32
  | .int n => (n % 256).toNat.toUInt32
  | .bool true => 1
  | _ => 0

def main
    (args : List String) : IO UInt32 := do
  let here ← homeDirectory
  let settings :=
    Settings.ofFile (← readOctets? (here ++ "/config/app_config.yml"))
  let token := (← IO.getEnv "DISCORD_BOT_TOKEN").getD ""
  let script ← readScript args
  let (ending, w) := Production.run ⟨script, settings, token⟩
  for e in w.takeEntries.1 do
    IO.println (Entry.payload e).print
  return processCode ending.exitCode
