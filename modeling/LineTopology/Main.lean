import LineTopology.CommandLine.Answer

namespace LineTopology.CommandLine

/-- The system's number of an error, which some operations give with its sign turned. -/
def systemNumber (code : UInt32) : UInt32 := min code (0 - code)

def fileFault : IO.Error → FileFault
  | .noFileOrDirectory .. => .notFound
  | .inappropriateType _ code _ =>
      if systemNumber code = 20 then .notDirectory else .isDirectory
  | .invalidArgument file code details =>
      if systemNumber code = 36 then .nameTooLong
      else .other (toString (IO.Error.invalidArgument file code details))
  | fault => .other (toString fault)

def readText (path : String) : IO (Except FileFault String) := do
  try
    let bytes ← IO.FS.readBinFile path
    return textOf bytes
  catch fault => return .error (fileFault fault)

end LineTopology.CommandLine

open LineTopology.CommandLine

def main (arguments : List String) : IO UInt32 := do
  let paths :=
    match request arguments with
    | .ok request => request.paths
    | .error _ => []
  let texts ← paths.mapM fun path => do
    let text ← readText path
    return (path, text)
  let files : Files := fun path => (texts.lookup path).getD (.error .notFound)
  let answer := answer files arguments
  for line in answer.out do IO.println line
  for line in answer.err do IO.eprintln line
  return answer.code.toUInt32
