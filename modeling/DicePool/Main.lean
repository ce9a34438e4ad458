import DicePool.Command.Program

/-!
# The command line

Reads the arguments and the input, and prints what the program answers.
-/

namespace DicePool.Main

/-- The next line of a stream without its newline, or nothing at the end. -/
partial def readLine (stream : IO.FS.Stream) (line : List UInt8) : IO (Option (List UInt8)) := do
  match (← stream.read 1).toList with
  | [] => return if line.isEmpty then none else some line.reverse
  | byte :: _ => if byte = 10 then return some line.reverse else readLine stream (byte :: line)

/-- Prints both texts of an answer. -/
def say (out err : String) : IO Unit := do
  (← IO.getStdout).putStr out
  (← IO.getStdout).flush
  (← IO.getStderr).putStr err

/-- Takes turns until the input ends or a line ends it. -/
partial def converse (options : Options) (context : Context Generator) : IO UInt32 := do
  match ← readLine (← IO.getStdin) [] with
  | none => return 0
  | some line =>
    match Prompt.turn options line context with
    | none => return 1
    | some turn =>
      say turn.out turn.err
      match turn.next with
      | .error code => return code.toUInt32
      | .ok context => converse options context

/-- A seed that differs from run to run. -/
def freshSeed : IO UInt64 := do
  return (← IO.getRandomBytes 8).toList.foldl (fun seed byte => seed * 256 + byte.toUInt64) 0

end DicePool.Main

open DicePool DicePool.Main in
/-- Runs the program on the given arguments. -/
def main (arguments : List String) : IO UInt32 := do
  match Options.ofArguments arguments with
  | none =>
    say "" "usage: [-p | --pool] [--ast] [--seed N] [--max-rolls N | --unbounded] [EXPRESSION]\n"
    return 2
  | some options =>
    let roller := options.roller (← freshSeed)
    if options.expression.isNone then
      say Prompt.banner ""
      converse options (options.context roller)
    else
      match options.run [] roller with
      | none => return 1
      | some report =>
        say report.out report.err
        return report.code.toUInt32
