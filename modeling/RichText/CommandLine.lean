import RichText.Document.Tree.Text
import RichText.Html.Render
import RichText.Markdown.Import
import RichText.Markdown.Parser
import RichText.Mobiledoc.Reader
import RichText.Mobiledoc.Render
import RichText.Opcode.Wire

/-!
# The command line

Three commands read a document from a file or from standard input: `html` and `mobiledoc` write it
in that format, and `opcodes` writes the opcodes that a backend would run.

**Formats.** Unless the format of the input is given, a Markdown extension makes it Markdown. Any
other input is read as JSON if it is JSON, as a Mobiledoc if it has a version and as a tree if not,
and as Markdown if it is no JSON.

All of this is a function from arguments and input to an outcome; reading files and printing is left
to the caller. The reader of Markdown is a parameter where nothing depends on it.
-/

namespace RichText.CommandLine

/-- The format of an input. -/
inductive Format where
  | auto
  | tree
  | mobiledoc
  | markdown
deriving DecidableEq

/-- A set of opcodes. -/
inductive Backend where
  | mobiledoc
  | html
deriving DecidableEq

/-- What to do with the document. -/
inductive Command where
  | opcodes (backend : Backend) (pretty : Bool)
  | html
  | mobiledoc (pretty : Bool)
deriving DecidableEq

/-- A command with its input. The file `-` is standard input. -/
structure Invocation where
  command : Command
  file : String
  format : Format
deriving DecidableEq

/-! ## Arguments -/

/-- The format of the given name. -/
def Format.ofName? : String → Option Format
  | "auto" => some auto
  | "tree" => some tree
  | "mobiledoc" => some mobiledoc
  | "markdown" => some markdown
  | _ => none

/-- The backend of the given name. -/
def Backend.ofName? : String → Option Backend
  | "mobiledoc" => some mobiledoc
  | "html" => some html
  | _ => none

/-- The arguments read so far, each given at most once. -/
structure Draft where
  command : Option String := none
  file : Option String := none
  format : Option Format := none
  backend : Option Backend := none
  pretty : Bool := false

namespace Draft

/-- Takes an argument that is no option: the command, and then the file, which has a name. -/
def addPlain (d : Draft) (arg : String) : Option Draft :=
  match d.command, d.file with
  | none, _ => some { d with command := some arg }
  | some _, none => if arg.isEmpty then none else some { d with file := some arg }
  | some _, some _ => none

/-- Takes an option with its value. Options stand after the command. -/
def addOption (d : Draft) (name value : String) : Option Draft :=
  match d.command, name with
  | none, _ => none
  | _, "--from" =>
    if d.format.isSome then none
    else (Format.ofName? value).map fun f => { d with format := some f }
  | _, "--backend" =>
    if d.backend.isSome then none
    else (Backend.ofName? value).map fun b => { d with backend := some b }
  | _, _ => none

/-- Takes an option without a value. How much is logged has no effect on the outcome. -/
def addFlag (d : Draft) (name : String) : Option Draft :=
  if name = "--pretty" then
    if d.command.isNone || d.pretty then none else some { d with pretty := true }
  else if name = "--verbose" then some d
  else
    match name.toList with
    | '-' :: 'v' :: rest => if rest.all (· == 'v') then some d else none
    | _ => none

/-- The name and the value of an option that are written as one argument. -/
def splitOption (arg : String) : String × Option String :=
  let cs := arg.toList
  match cs.dropWhile (· != '=') with
  | _ :: value => (String.ofList (cs.takeWhile (· != '=')), some (String.ofList value))
  | [] => (arg, none)

/-- Takes arguments from left to right. After `--` no argument is an option. -/
def addAll (d : Draft) : List String → Option Draft
  | [] => some d
  | "--" :: rest => rest.foldlM addPlain d
  | arg :: rest =>
    match arg.toList with
    | '-' :: _ :: _ =>
      match splitOption arg with
      | (name, some value) => (d.addOption name value).bind (·.addAll rest)
      | (name, none) =>
        if name = "--from" ∨ name = "--backend" then
          match rest with
          | value :: rest => (d.addOption name value).bind (·.addAll rest)
          | [] => none
        else (d.addFlag name).bind (·.addAll rest)
    | _ => (d.addPlain arg).bind (·.addAll rest)

/-- The command that the arguments ask for; each takes its own options only. -/
def command? (d : Draft) : Option Command :=
  match d.command with
  | some "opcodes" => some (.opcodes (d.backend.getD .mobiledoc) d.pretty)
  | some "html" => if d.backend.isSome || d.pretty then none else some .html
  | some "mobiledoc" => if d.backend.isSome then none else some (.mobiledoc d.pretty)
  | _ => none

end Draft

/-- The invocation that the arguments write, if they are as the program expects. -/
def parseArguments (args : List String) : Option Invocation := do
  let d ← Draft.addAll {} args
  return ⟨← d.command?, ← d.file, d.format.getD .auto⟩

/-! ## Input -/

/-- What stands between the slashes of a path. -/
def pathParts (path : String) : List String := (path.toList.splitOn '/').map String.ofList

/-- The last name of a path, if there is one. -/
def fileName? (path : String) : Option String :=
  match ((pathParts path).filter fun part => part != "" && part != ".").getLast? with
  | some ".." => none
  | name => name

/-- What follows the last point of a name, if anything stands before that point. -/
def extension? (name : String) : Option String :=
  match name.toList.reverse.dropWhile (· != '.') with
  | _ :: _ :: _ => some (String.ofList (name.toList.reverse.takeWhile (· != '.')).reverse)
  | _ => none

/-- Whether a path has an extension of Markdown. -/
def isMarkdownPath (path : String) : Bool :=
  match (fileName? path).bind extension? with
  | some ext => ext == "md" || ext == "markdown"
  | none => false

/-- The document that a value holds: a Mobiledoc, or a tree. -/
def nodeOfJson (v : Json) (mobiledoc : Bool) : Except Error Node :=
  if mobiledoc then Node.post <$> Post.ofMobiledoc v
  else (Node.ofJson v).mapError .json

/-- The document that a Markdown text holds, where `parse` reads Markdown. -/
def nodeOfMarkdown (text : String) (parse : String → List Markdown.Event := Markdown.parse) :
    Node :=
  .post (Markdown.postOfEvents (parse text))

/-- The document that an input holds, where `parse` reads Markdown. -/
def load (text path : String) (format : Format)
    (parse : String → List Markdown.Event := Markdown.parse) : Except Error Node :=
  let json := Json.parseSorted? text
  match format with
  | .markdown => .ok (nodeOfMarkdown text parse)
  | .tree | .mobiledoc =>
    match json with
    | some v => nodeOfJson v (format = .mobiledoc)
    | none => .error (.json .malformed)
  | .auto =>
    if isMarkdownPath path then .ok (nodeOfMarkdown text parse)
    else
      match json with
      | some v => nodeOfJson v (v.get? "version").isSome
      | none => .ok (nodeOfMarkdown text parse)

/-! ## Output -/

/-- A value in the layout asked for. -/
def jsonText (v : Json) (pretty : Bool) : String := if pretty then v.pretty else v.compact

/-- The visitor of a backend. -/
def Backend.visitor : Backend → Visitor
  | mobiledoc => Mobiledoc.visitor
  | html => Html.visitor

/-- What a command writes for a document. -/
def Command.output (c : Command) (n : Node) : Except Error String :=
  match c with
  | opcodes backend pretty => do
    return jsonText (Opcodes.toJson (← backend.visitor.opcodes n)) pretty
  | html => Html.render n
  | mobiledoc pretty => do return jsonText (← Mobiledoc.ofNode n).toJson pretty

/-- What an invocation writes for an input, where `parse` reads Markdown. -/
def Invocation.output (i : Invocation) (input : Except InputFault String)
    (parse : String → List Markdown.Event := Markdown.parse) : Except Error String := do
  let text ← input.mapError .input
  let node ← load text i.file i.format parse
  i.command.output node

/-- How a program ends. -/
inductive Exit where
  /-- With output. -/
  | done (stdout : String)
  /-- With an error message. -/
  | failed (stderr : String)
  /-- Because the arguments are not as expected. -/
  | usage
deriving DecidableEq

/-- The status that the caller of the program sees. -/
def Exit.status : Exit → Nat
  | done _ => 0
  | failed _ => 1
  | usage => 2

/-- How the program ends on its arguments, where `read` reads the input of a file name. -/
def run (args : List String) (read : String → Except InputFault String) : Exit :=
  match parseArguments args with
  | none => .usage
  | some i =>
    match i.output (read i.file) with
    | .ok s => .done (s ++ "\n")
    | .error e => .failed ("Error: " ++ e.message ++ "\n")

end RichText.CommandLine
