import TrackedText.Environment.Expansion
import TrackedText.Files
import TrackedText.Files.Path
import TrackedText.Story
import TrackedText.Toml.Reader
import TrackedText.Toml.Writer

namespace TrackedText

structure Config where
  scriptsPath : Option Text
  terminator : Char
  logLevel : Text
  showText : Bool
  deriving DecidableEq, Repr

namespace Config

instance : Inhabited Config := ⟨none, Story.defaultTerminator, "warn".toList, true⟩

open Toml

/-! Reading -/

def wrongKind {α : Type} (what : String) : Except Fault α := .error (.expected what)

def text : Value → Except Fault Text
  | .text t => .ok t
  | _ => wrongKind "a string"

def character : Value → Except Fault Char
  | .text [c] => .ok c
  | _ => wrongKind "a character"

def boolean : Value → Except Fault Bool
  | .boolean b => .ok b
  | _ => wrongKind "a boolean"

def field {α : Type} (es : Entries) (key : String) (read : Value → Except Fault α) (missing : α) :
    Except Fault α :=
  match es.lookup key.toList with
  | some v => read v
  | none => .ok missing

/-- Keys that mean nothing here are passed over. -/
def ofEntries (es : Entries) : Except Fault Config := do
  let scriptsPath ← field es "scripts_path" (fun v => (text v).map some) (default : Config).scriptsPath
  let terminator ← field es "terminator" character (default : Config).terminator
  let logLevel ← field es "log_level" text (default : Config).logLevel
  let showText ← field es "show_text" boolean (default : Config).showText
  return ⟨scriptsPath, terminator, logLevel, showText⟩

def parse (t : Text) : Except Fault Config := Toml.read t >>= ofEntries

/-! Writing -/

def line (key : String) (value : Text) : Text := key.toList ++ " = ".toList ++ value ++ ['\n']

def render (c : Config) : Text :=
  (match c.scriptsPath with
    | some p => line "scripts_path" (writeString p)
    | none => [])
    ++ line "terminator" (writeString [c.terminator])
    ++ line "log_level" (writeString c.logLevel)
    ++ line "show_text" (if c.showText then "true" else "false").toList

/-! Files -/

def save (c : Config) : List UInt8 := Utf8.encode c.render

inductive LoadError
  | unreadable (path : Text) (f : ReadFault)
  | malformed (path : Text) (f : Fault)
  deriving DecidableEq, Repr

def LoadError.message : LoadError → String
  | unreadable path f => "Failed to read config file at " ++ String.ofList path ++ ": " ++ f.message
  | malformed path f => "Failed to parse config file at " ++ String.ofList path ++ ": " ++ f.message

variable (env : Environment)

def expandPaths (c : Config) : Config := { c with scriptsPath := c.scriptsPath.map env.expand }

def load (path : Text) (found : Found) : Except LoadError (Option Config) :=
  if !found.isThere then .ok none
  else match found.text with
    | .error f => .error (.unreadable path f)
    | .ok t =>
      match parse t with
      | .error f => .error (.malformed path f)
      | .ok c => .ok (some (c.expandPaths env))

def defaultPath : Text := Path.join (env.expandTilde "~/.config/storyrange".toList) "config.toml".toList

def resolveScript (c : Config) (script : Text) : Text :=
  match c.scriptsPath with
  | some base => Path.join base (env.expand script)
  | none => env.expand script

end Config

end TrackedText
