import TrackedText.Config
import TrackedText.Script.Parser
import TrackedText.Script.Runner

namespace TrackedText

structure Host where
  environment : Environment
  find : Text → Found
  input : List UInt8

structure Outcome where
  code : Nat
  output : Text
  errors : String

namespace Program

def defaultName : Text := "storyrange-cli".toList

def fail (errors : String) : Outcome := ⟨1, [], errors⟩

variable (h : Host)

def configPath : Text := Config.defaultPath h.environment

def loadConfig : Except Config.LoadError Config :=
  (Config.load h.environment (configPath h) (h.find (configPath h))).map fun c? => c?.getD default

structure Failure where
  doing : String
  cause : String

def Failure.message (f : Failure) : String := "Error: " ++ f.doing ++ "\n\nCaused by:\n    " ++ f.cause ++ "\n"

def readScript (c : Config) (path : Text) : Except Failure Text :=
  if path = ['-'] then
    (readText h.input).mapError fun f => ⟨"Failed to read script from stdin", f.message⟩
  else
    let resolved := c.resolveScript h.environment path
    (h.find resolved).text.mapError fun f =>
      ⟨"Failed to read script '" ++ String.ofList resolved ++ "'", f.message⟩

def scriptPath? (c : Config) : List Text → Option Text
  | [_, path] => if path = ['-'] then none else some (c.resolveScript h.environment path)
  | _ => none

/-- All of a script's output, and none of it when any step fails. -/
def runScript (c : Config) (path : Text) : Except Failure Text := do
  let source ← readScript h c path
  let steps ← (Script.parse source).mapError fun e =>
    ⟨"Invalid script '" ++ String.ofList path ++ "'", e.message⟩
  (Script.Runner.run (.start c.terminator c.showText) steps).result.mapError fun e =>
    ⟨"Script '" ++ String.ofList path ++ "' failed", e.message⟩

def usage (arguments : List Text) : String :=
  "Usage: " ++ String.ofList (arguments.head?.getD defaultName) ++ " <script-file | ->\n"
    ++ "Relative script paths are resolved against scripts_path in " ++ String.ofList (configPath h) ++ "\n"

def run (arguments : List Text) : Outcome :=
  match loadConfig h with
  | .error e =>
    fail ("Error: Failed to load config file: " ++ e.message ++ "\nConfig file location: "
      ++ String.ofList (configPath h) ++ "\n")
  | .ok c =>
    match arguments with
    | [_, path] =>
      match runScript h c path with
      | .ok output => ⟨0, output, ""⟩
      | .error f => fail f.message
    | _ => fail (usage h arguments)

end Program

end TrackedText
