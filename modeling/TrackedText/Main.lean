import TrackedText.Program

namespace TrackedText

def Environment.ofBlock (bytes : List UInt8) : Environment :=
  let step (entry : List UInt8 × List (List UInt8)) (b : UInt8) :=
    if b = 0 then ([], entry.1.reverse :: entry.2) else (b :: entry.1, entry.2)
  let entries := (bytes.foldl step ([], [])).2.reverse
  ⟨entries.filterMap fun e => (Utf8.decode e).toOption >>= Text.splitOnce (· == '=')⟩

def faultOf (reached : Bool) : IO.Error → ReadFault
  | .noFileOrDirectory _ _ _ => .missing
  | .inappropriateType _ 20 _ => .notDirectory
  | .inappropriateType _ 21 _ => .isDirectory
  | e => if reached then .other (toString e) else .unreachable (toString e)

def findFile (path : Text) : IO Found := do
  try return .ok (← IO.FS.readBinFile (String.ofList path)).toList
  catch e => return .error (faultOf (← ((← IO.currentDir) / String.ofList path).pathExists) e)

partial def readAll (input : IO.FS.Stream) (seen : ByteArray) : IO ByteArray := do
  let more ← input.read 4096
  if more.isEmpty then return seen else readAll input (seen ++ more)

def fetch (arguments : List Text) : IO Host := do
  let block ← findFile "/proc/self/environ".toList
  let environment := Environment.ofBlock (block.toOption.getD [])
  let configPath := Config.defaultPath environment
  let config ← findFile configPath
  let host : Host := ⟨environment, fun _ => config, []⟩
  let script? := (Program.loadConfig host).toOption >>= fun c => Program.scriptPath? host c arguments
  match script? with
  | some path =>
    let script ← findFile path
    return { host with find := fun p => if p = path then script else config }
  | none =>
    if arguments.tail = [['-']] then
      return { host with input := (← readAll (← IO.getStdin) .empty).toList }
    else return host

def report (arguments : List Text) : IO UInt32 := do
  let outcome := Program.run (← fetch arguments) arguments
  IO.print (String.ofList outcome.output)
  IO.eprint outcome.errors
  return outcome.code.toUInt32

end TrackedText

def main (arguments : List String) : IO UInt32 :=
  TrackedText.report (TrackedText.Program.defaultName :: arguments.map String.toList)
