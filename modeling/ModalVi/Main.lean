import ModalVi.CommandLine
import ModalVi.Regex.Engine

/-! The program: the command line with the files and streams of the system. -/

namespace ModalVi.CommandLine

def faultOf (error : IO.Error) : FileFault :=
  match error with
  | .noFileOrDirectory .. => .notFound
  | .inappropriateType _ 20 _ => .notDirectory
  | .inappropriateType .. => .isDirectory
  | .permissionDenied .. => .permissionDenied
  | other => .other (toString other)

def attempted {α : Type} (action : IO α) : IO (Except FileFault α) := do
  try
    pure (.ok (← action))
  catch error =>
    pure (.error (faultOf error))

/-- Reads a stream to its end. -/
partial def readAll (stream : IO.FS.Stream) (read : ByteArray) : IO ByteArray := do
  let more ← stream.read 65536
  if more.isEmpty then pure read else readAll stream (read ++ more)

/-- The system the program runs on. -/
def system : Host IO where
  load path := attempted (IO.FS.readBinFile path)
  input := do
    let stream ← IO.getStdin
    attempted (readAll stream ByteArray.empty)
  save path text := attempted (IO.FS.writeFile path text)
  print text := do
    let stream ← IO.getStdout
    stream.putStr text
    stream.flush
  report line := IO.eprintln line

end ModalVi.CommandLine

/-- Runs the command line. -/
def main (arguments : List String) : IO UInt32 :=
  ModalVi.CommandLine.run .standard ModalVi.CommandLine.system arguments
