import LogRouting.Program

namespace LogRouting.Program

def fileContent (path : String) : IO (Option String) := do
  try return some (← IO.FS.readFile path) catch _ => return none

def printRecords (json : Bool) (records : List Record) : IO Unit := do
  for r in records do
    if json then IO.println (Json.compact r.toValue) else IO.println r.text
  (← IO.getStdout).flush

def showRelay (json : Bool) (filter : Filter) (s : Relay.State) : IO Relay.State := do
  printRecords json (records filter s.router.journal)
  return { s with router := { s.router with journal := [] } }

partial def relayInput (json : Bool) (filter : Filter) (s : Relay.State) : IO Relay.State := do
  let chunk ← (← IO.getStdin).read 4096
  let arrival := if chunk.isEmpty then Relay.Arrival.ended else .bytes chunk.toList
  let s ← showRelay json filter (s.receive [arrival])
  if s.status = .running then relayInput json filter s else return s

def finish : Ending → IO UInt32
  | .usage e => do
    IO.eprintln e.kind
    return UInt32.ofNat e.exitCode
  | .failed kind => do
    IO.eprintln kind
    return 1
  | .crashed => return 101
  | .printed text => do
    IO.print text
    return 0
  | .logged json records => do
    printRecords json records
    return 0

def execute (args : List String) : IO UInt32 := do
  let named := match CommandLine.parse args with
    | .ok (.emit (some path) ..) | .ok (.relay (some path) ..) | .ok (.check (some path)) => some path
    | _ => none
  let content ← match named with
    | some path => fileContent path
    | none => pure none
  match CommandLine.parse args, prepare (fun _ => content) named with
  | .ok (.relay path level category), .ok (settings, filter) =>
    let json := settings.observability.json
    let s ← showRelay json filter (beginRelay path category level (begin settings))
    let s ← relayInput json filter s
    if s.status = .broken then finish (.failed "Io")
    else finish (.logged json (records filter (endRelay s).journal))
  | _, _ => finish (run args (fun _ => content) [])

end LogRouting.Program

def main (args : List String) : IO UInt32 := LogRouting.Program.execute args
