import Colloquy.CommandLine.Report

/-! # The command

Gathers what a run needs, runs it, and shows its report. The service's replies are read from
standard input, one object a line; the requests they answer, and the log, go to standard error.
-/
set_option autoImplicit false

namespace Colloquy.CommandLine

/-- What a path leads to. What is there and cannot be read counts as a directory. -/
def diskEntry (path : String) : IO (Option DiskEntry) := do
  try
    return some (.file (← IO.FS.readBinFile path).toList)
  catch
    | .noFileOrDirectory .. => return none
    | _ => return some .directory

def entriesAt (directory : String) (place : List String) : IO Directory := do
  let path := Path.text { parts := place }
  return (← diskEntry (directory ++ "/" ++ path)).toList.map fun e => (place, e)

def readDisk (config : Option String) : IO Disk := do
  let named ← match config with
    | none => pure []
    | some path => do
      let asked := Path.ofText path
      pure ((← diskEntry asked.text).toList.map fun e => (asked, e))
  return {
    here := ← entriesAt "." Config.localFile
    home := ← entriesAt ((← IO.getEnv "HOME").getD ".") Config.homeFile
    named }

partial def readReplies (input : IO.FS.Stream) (replies : List Reply) : IO (List Reply) := do
  let line ← input.getLine
  if line.isEmpty then return replies.reverse
  else readReplies input ((replyOfText? line).toList ++ replies)

def showPrint : Print → IO Unit
  | .line markup => IO.println markup
  | .fragment content => IO.print content.text
  | .panel title markdown => do
    IO.println title
    IO.println markdown
  | .lineEnd => IO.println ""

def showReport (r : Report) : IO Unit := do
  for e in r.journal.log do
    if r.verbose == some true || e.severity != .info then
      IO.eprintln (e.severity.name ++ ":" ++ e.text)
  for body in r.sent do
    IO.eprintln body
  r.prints.forM showPrint
  match r.fault with
  | some f => IO.eprintln f.message
  | none => pure ()

def usage : String :=
  "Usage: minimax-chat [OPTIONS] TEXT\n\n  Send TEXT to the MiniMax chat API.\n\nOptions:\n" ++
  "  -s, --system TEXT        System message\n" ++
  "  -m, --model TEXT         Model name (overrides config)\n" ++
  "  -T, --temperature FLOAT  Sampling temperature\n" ++
  "  -f, --function TEXT      Enable a discovered function by name (repeatable)\n" ++
  "  --stream                 Stream the answer as it is generated\n" ++
  "  -c, --config TEXT        Path to minimax_chat.yaml\n" ++
  "  -v, --verbose            Verbose logging\n" ++
  "  --help                   Show this message and exit."

def runInvocation (i : Invocation) : IO Report := do
  return i.run {
    key := ← IO.getEnv Config.keyVariable
    disk := ← readDisk i.config
    replies := ← readReplies (← IO.getStdin) [] }

end Colloquy.CommandLine

open Colloquy.CommandLine in
def main (args : List String) : IO UInt32 := do
  match Intent.ofArguments args with
  | .help =>
    IO.println usage
    return 0
  | .misuse =>
    IO.eprintln usage
    return 2
  | .run i =>
    let report ← runInvocation i
    showReport report
    return report.exitCode.toUInt32
