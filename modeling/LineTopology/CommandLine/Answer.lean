import LineTopology.CommandLine.Arguments
import LineTopology.Topology.Reading
import LineTopology.Report

namespace LineTopology.CommandLine

inductive FileFault
  | notFound
  | isDirectory
  | notDirectory
  | nameTooLong
  | notText
  | other (description : String)

def FileFault.text : FileFault → String
  | .notFound => "No such file or directory (os error 2)"
  | .isDirectory => "Is a directory (os error 21)"
  | .notDirectory => "Not a directory (os error 20)"
  | .nameTooLong => "File name too long (os error 36)"
  | .notText => "stream did not contain valid UTF-8"
  | .other description => description

def textOf (bytes : ByteArray) : Except FileFault String :=
  match String.fromUTF8? bytes with
  | some text => .ok text
  | none => .error .notText

abbrev Files := String → Except FileFault String

inductive Failure
  | unreadableFile (path : String) (fault : FileFault)
  | badTopology (misreading : Json.Misreading)
  | badPolicy (path : String) (misreading : Json.Misreading)
  | unknownNode (id : String)
  | malformedNode (id : String) (fault : NodeFault)

def Failure.text : Failure → String
  | .unreadableFile path fault => "cannot read " ++ path ++ ": " ++ fault.text
  | .badTopology m => (Finding.unreadable .topology m).display
  | .badPolicy path m => "Failed to parse validation options " ++ path ++ ": " ++ m.text
  | .unknownNode id => "node '" ++ id ++ "' is not part of the process definition"
  | .malformedNode id fault => "node '" ++ id ++ "' is malformed: " ++ fault.text

structure Answer where
  code : Nat
  out : List String
  err : List String

def readFile (files : Files) (path : String) : Except Failure String :=
  (files path).mapError (.unreadableFile path)

def readTopology (files : Files) (path : String) : Except Failure Topology := do
  (Topology.reader.run (← readFile files path)).mapError .badTopology

def readPolicy (files : Files) : Option String → Except Failure Policy
  | none => .ok .standard
  | some path => do (Policy.reader.run (← readFile files path)).mapError (.badPolicy path)

/-- The component that the first record with an id describes. -/
def findNode (topology : Topology) (id : String) : Except Failure Node :=
  match topology.record? id with
  | none => .error (.unknownNode id)
  | some record => record.lower.mapError (.malformedNode id)

def CheckRequest.policy (request : CheckRequest) (policy : Policy) : Policy :=
  { exemptKinds := Policy.ordered (policy.exemptKinds ++ request.exempt)
    checkPorts := policy.checkPorts || request.checkPorts
    recheckConnections := policy.recheckConnections || request.recheckConnections }

def count (n : Nat) : String := String.ofList (Text.decimal n)

def CheckRequest.lines (request : CheckRequest) (topology : Topology) (report : Report) :
    List String :=
  if request.json then [report.toJson.indented]
  else if report.isValid then
    [request.path ++ ": valid (" ++ count topology.nodes.length ++ " nodes, " ++
      count topology.edges.length ++ " edges)"]
  else
    report.findings.map Finding.display ++
      [request.path ++ ": " ++ count report.findings.length ++ " error(s)"]

def CheckRequest.answer (request : CheckRequest) (files : Files) : Except Failure Answer := do
  let topology ← readTopology files request.path
  let policy ← readPolicy files request.options
  let report := topology.report (request.policy policy)
  return ⟨if report.isValid then 0 else 1, request.lines topology report, []⟩

def ConnectRequest.answer (request : ConnectRequest) (files : Files) : Except Failure Answer := do
  let topology ← readTopology files request.path
  let source ← findNode topology request.source
  let target ← findNode topology request.target
  match Link.check ⟨source.station, target.station, request.sourceHandle, request.targetHandle⟩ with
  | .ok () => return ⟨0, [request.source ++ " -> " ++ request.target ++ ": accepted"], []⟩
  | .error refusal => return ⟨1, [refusal.display], []⟩

def usage : List String :=
  [about, "",
    "  check <PATH> [--options <OPTIONS>] [--exempt <EXEMPT>]... [--check-ports]",
    "        [--recheck-connections] [--json]",
    "  connect <PATH> <FROM> <TO> [--source-handle <SOURCE_HANDLE>]",
    "        [--target-handle <TARGET_HANDLE>]"]

def release : String := "line-topology 0.1.0"

def Request.answer (files : Files) : Request → Except Failure Answer
  | .check request => request.answer files
  | .connect request => request.answer files
  | .help => .ok ⟨0, usage, []⟩
  | .version => .ok ⟨0, [release], []⟩

def Request.paths : Request → List String
  | .check request => request.path :: request.options.toList
  | .connect request => [request.path]
  | .help | .version => []

def ArgumentFault.answer : ArgumentFault → Answer
  | .noArguments => ⟨2, [], usage⟩
  | fault => ⟨2, [], [fault.text]⟩

def answer (files : Files) (arguments : List String) : Answer :=
  match request arguments with
  | .error fault => fault.answer
  | .ok request =>
      match request.answer files with
      | .ok answer => answer
      | .error failure => ⟨2, [], ["error: " ++ failure.text]⟩

end LineTopology.CommandLine
