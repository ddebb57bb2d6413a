/-!
# Command-line arguments

The options are `--filepath` (`-f`) with a path, `--show-points`, `--analysis`, and `--verbose`
(`-v`), which may be repeated. Arguments are read in order, and the first one that asks for help or
for the version, or that is wrong, decides.
-/

namespace Drafting.CommandLine

structure Options where
  /-- The problem file; `-` is standard input. -/
  path : String
  showPoints : Bool
  analysis : Bool
  verbosity : Nat
  deriving DecidableEq, Repr

structure Gathered where
  path : Option String
  showPoints : Bool
  analysis : Bool
  verbosity : Nat
  deriving DecidableEq, Repr

inductive Request where
  | run (options : Options)
  | showHelp
  | showVersion
  | usageError
  deriving DecidableEq, Repr

/-- Where reading an argument leads to: to the next one, with the path still to come or not, or to an
end. -/
inductive Progress where
  | more (options : Gathered)
  | pathNext (options : Gathered)
  | finished (request : Request)
  deriving DecidableEq, Repr

namespace Gathered

def none : Gathered := ⟨.none, false, false, 0⟩

def withPath (options : Gathered) (path : String) : Progress :=
  if options.path.isSome ∨ path.isEmpty then .finished .usageError
  else .more { options with path := some path }

def request (options : Gathered) : Request :=
  match options.path with
  | .none => .usageError
  | some path => .run ⟨path, options.showPoints, options.analysis, options.verbosity⟩

end Gathered

/-- Read the letters after a single dash. The rest of the letters after `f` is the path, after an
equals sign if there is one. -/
def readLetters (options : Gathered) : List Char → Progress
  | [] => .more options
  | 'v' :: rest => readLetters { options with verbosity := options.verbosity + 1 } rest
  | 'h' :: _ => .finished .showHelp
  | 'V' :: _ => .finished .showVersion
  | ['f'] => .pathNext options
  | 'f' :: '=' :: path => options.withPath (String.ofList path)
  | 'f' :: path => options.withPath (String.ofList path)
  | _ => .finished .usageError

def readWord (options : Gathered) (name : List Char) : Progress :=
  if name = "filepath".toList then .pathNext options
  else if name = "show-points".toList then
    if options.showPoints then .finished .usageError
    else .more { options with showPoints := true }
  else if name = "analysis".toList then
    if options.analysis then .finished .usageError
    else .more { options with analysis := true }
  else if name = "verbose".toList then .more { options with verbosity := options.verbosity + 1 }
  else if name = "help".toList then .finished .showHelp
  else if name = "version".toList then .finished .showVersion
  else
    match name.dropWhile (· ≠ '=') with
    | '=' :: path =>
        if name.takeWhile (· ≠ '=') = "filepath".toList then options.withPath (String.ofList path)
        else .finished .usageError
    | _ => .finished .usageError

/-- Read the arguments from here on. Two dashes alone end the options, and nothing may follow. -/
def readFrom (options : Gathered) : List String → Request
  | [] => options.request
  | argument :: rest =>
      let progress : Progress :=
        match argument.toList with
        | ['-', '-'] => .finished (if rest.isEmpty then options.request else .usageError)
        | '-' :: '-' :: name => readWord options name
        | '-' :: c :: letters => readLetters options (c :: letters)
        | _ => .finished .usageError
      match progress with
      | .finished request => request
      | .more options => readFrom options rest
      | .pathNext options =>
          match rest with
          | [] => .usageError
          | path :: rest =>
              if path.startsWith "-" ∧ path ≠ "-" then .usageError
              else
                match options.withPath path with
                | .more options => readFrom options rest
                | _ => .usageError

def read (arguments : List String) : Request := readFrom .none arguments

end Drafting.CommandLine
