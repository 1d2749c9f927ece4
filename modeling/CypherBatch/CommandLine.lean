import CypherBatch.Loader

/-!
# The command line

The loader is called with the path of a document and two options: `--hash-by`
with the field that identifies an entity, and `--dry-run`.  An option may be
shortened as long as it is not ambiguous, and its value may follow behind an
equals sign.  Behind two dashes everything is an argument; they have their place
next to the path.

The arguments are first sorted into tokens, then read from left to right.
-/

namespace CypherBatch
namespace CommandLine

/-- The options of the loader. -/
inductive Flag where
  | help
  | hashBy
  | dryRun
deriving DecidableEq, Repr

namespace Flag

def longNames : List (String × Flag) :=
  [("--help", .help), ("--hash-by", .hashBy), ("--dry-run", .dryRun)]

/-- The options that a name, which may be shortened, can mean. -/
def candidates (name : String) : List Flag :=
  match longNames.find? fun entry => entry.1 = name with
  | some entry => [entry.2]
  | none => (longNames.filter fun entry => name.isPrefixOf entry.1).map (·.2)

end Flag

/-- One argument of the command line, sorted. -/
inductive Token where
  | argument (text : String)
  | option (flag : Flag) (value : Option String)
  | unknown
  | separator
deriving DecidableEq

/-- The command line cannot be read. -/
inductive UsageError where
  | ambiguous
  | missingValue
  | needlessValue
  | missingPath
  | unrecognized
deriving DecidableEq, Repr

namespace UsageError

def message : UsageError → String
  | ambiguous => "ambiguous option"
  | missingValue => "--hash-by expects one value"
  | needlessValue => "the option takes no value"
  | missingPath => "the path of a document is required"
  | unrecognized => "unrecognized arguments"

end UsageError

/-- The name and the value of an argument of the form `name=value`. -/
def splitValue (arg : String) : String × Option String :=
  let cs := arg.toList
  let name := cs.takeWhile (· ≠ '=')
  if name.length = cs.length then (arg, none)
  else (String.ofList name, some (String.ofList (cs.drop (name.length + 1))))

/-- The text without one line feed at its end. -/
def dropLineEnd (cs : List Char) : List Char :=
  if cs.getLast? = some '\n' then cs.dropLast else cs

/--
Does an argument that begins with a dash look like a negative number?  The
digits may be of any script, and one line feed may follow them.
-/
def isNegativeNumber (arg : List Char) : Bool :=
  match dropLineEnd arg with
  | '-' :: rest =>
      let whole := rest.takeWhile Text.isDecimal
      match rest.dropWhile Text.isDecimal with
      | [] => !whole.isEmpty
      | '.' :: fraction => !fraction.isEmpty && fraction.all Text.isDecimal
      | _ => false
  | _ => false

/-- An argument that begins with a dash and is no known option. -/
def dashed (arg : String) : Token :=
  if isNegativeNumber arg.toList || arg.toList.contains ' ' then .argument arg else .unknown

/-- Sort an argument that stands before any separator. -/
def tokenOf (arg : String) : Except UsageError Token :=
  match arg.toList with
  | '-' :: '-' :: _ :: _ =>
      let (name, value) := splitValue arg
      match Flag.candidates name with
      | [flag] => .ok (.option flag value)
      | [] => .ok (dashed arg)
      | _ => .error .ambiguous
  | ['-', '-'] => .ok .separator
  | '-' :: 'h' :: _ => .ok (.option .help none)
  | '-' :: _ :: _ => .ok (dashed arg)
  | _ => .ok (.argument arg)

/-- Sort the arguments; behind the first separator everything is an argument. -/
def tokensOf : List String → Except UsageError (List Token)
  | [] => .ok []
  | arg :: rest =>
      match tokenOf arg with
      | .error e => .error e
      | .ok .separator => .ok (.separator :: rest.map .argument)
      | .ok token => (tokensOf rest).map fun tokens => token :: tokens

/-- What has been read so far. -/
structure Draft where
  path : Option String
  hashBy : Option String
  dryRun : Bool
  /-- Something was given that has no place. -/
  excess : Bool
deriving DecidableEq

/-- What a command line asks for. -/
inductive Command where
  | help
  | load (path : String) (options : Loader.Options)
deriving DecidableEq

def Draft.command (draft : Draft) : Except UsageError Command :=
  match draft.path with
  | none => .error .missingPath
  | some path =>
      if draft.excess then .error .unrecognized
      else
        let hashBy :=
          match draft.hashBy with
          | some name => .str name
          | none => .null
        .ok (.load path ⟨hashBy, draft.dryRun⟩)

/-- Take an argument: the first one is the path, and no other has a place. -/
def Draft.take (draft : Draft) (text : String) : Draft :=
  match draft.path with
  | none => { draft with path := some text }
  | some _ => { draft with excess := true }

def readTokens (draft : Draft) : List Token → Except UsageError Command
  | [] => draft.command
  | .argument text :: .separator :: rest => readTokens (draft.take text) rest
  | .separator :: .argument text :: rest => readTokens (draft.take text) rest
  | .argument text :: rest => readTokens (draft.take text) rest
  | .separator :: rest => readTokens { draft with excess := true } rest
  | .unknown :: rest => readTokens { draft with excess := true } rest
  | .option .help none :: _ => .ok .help
  | .option .help (some _) :: _ => .error .needlessValue
  | .option .dryRun none :: rest => readTokens { draft with dryRun := true } rest
  | .option .dryRun (some _) :: _ => .error .needlessValue
  | .option .hashBy (some value) :: rest => readTokens { draft with hashBy := some value } rest
  | .option .hashBy none :: .argument value :: rest =>
      readTokens { draft with hashBy := some value } rest
  | .option .hashBy none :: _ => .error .missingValue

def parse (args : List String) : Except UsageError Command :=
  (tokensOf args).bind (readTokens ⟨none, none, false, false⟩)

def usage : String :=
  "usage: cypher-batch [-h] [--hash-by HASH_BY] [--dry-run] path"

/-- A shortened option, a value behind an equals sign and a path behind a separator. -/
example :
    (parse ["--dry", "--hash-by=name", "--", "--x"]).toOption =
      some (.load "--x" ⟨.str "name", true⟩) ∧
    (parse ["--h", "x"]).toOption = none := by
  decide +kernel

end CommandLine
end CypherBatch
