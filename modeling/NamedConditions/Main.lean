import NamedConditions.Command.Run
/-!
The program. It runs the command line on its arguments and writes what the run leaves to the two
streams. The modules that targets name are built into a program; here there are none, and
`runProgram` takes any other catalogue.
-/
namespace NamedConditions.Command

/-- How deep passes may nest in the program. -/
def programDepth : Nat := 60

/-- The line for an end that no exit code tells. -/
def Ending.line? : Ending → Option String
  | .exit _ => none
  | .escaped f => some (f.typeName ++ ": " ++ f.text.toOption.getD "")
  | .exhausted => some "Predicates nest too deep."

/-- Writes the two streams of a transcript and gives its exit code, modulo 256. -/
def Transcript.perform (t : Transcript) : IO UInt32 := do
  IO.print t.out
  IO.eprint t.err
  match t.ending.line? with
  | some line => IO.eprintln line
  | none => pure ()
  return UInt32.ofNat (t.ending.code % 256).toNat

/-- Runs the program on a catalogue and variables of the process. -/
def runProgram (catalogue : Catalogue) (process : Variables) (arguments : List String) :
    IO UInt32 :=
  (run ⟨catalogue, process, programDepth⟩ arguments).perform

end NamedConditions.Command

/-- Runs the program without modules. -/
def main (arguments : List String) : IO UInt32 :=
  NamedConditions.Command.runProgram [] [] arguments
