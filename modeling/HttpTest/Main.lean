import HttpTest.CommandLine.Program

/-!
# The executable

Reads the files that the arguments name, and prints what the program makes of them.
-/

namespace HttpTest.CommandLine

/-- The operating system's code for a directory that is read as a file. -/
def directoryCode : UInt32 := 21

/-- The files at a path: one, or none if it cannot be read. A directory is known by a file below it.
-/
def readPath (path : String) : IO (List (String × ByteArray)) := do
  try
    let bytes ← IO.FS.readBinFile path
    pure [(path, bytes)]
  catch
    | .inappropriateType _ code _ =>
      pure (if code = directoryCode then [(path ++ "/entry", .empty)] else [])
    | _ => pure []

end HttpTest.CommandLine

open HttpTest HttpTest.CommandLine in
def main (arguments : List String) : IO UInt32 := do
  let files ← (paths arguments).mapM readPath
  let output := program (.ofFiles files.flatten) arguments
  IO.print output.stdout
  IO.eprint output.stderr
  pure output.code.toUInt32
