import ByteScan.Text.Integer

/-!
# Arguments of the command line

The words of a command line are options, values of options, and operands. An option has a long name
after two dashes, and maybe a letter after one dash; letters may be written together. The value of
an option is the next word, or follows in the same word, after an equals sign where the name is
long. Two dashes alone make operands of all words after them.
-/

namespace ByteScan.CommandLine

inductive Halt where
  | misuse
  | help
  | version
  deriving DecidableEq, Repr

inductive OptionName where
  | help
  | version
  | verbose
  | noColor
  | config
  | output
  | pid
  | timeout
  | define
  | fast
  | printStrings
  | printTags
  | negate
  | threads
  | noProgress
  | profile
  deriving DecidableEq, Repr

inductive ValueKind where
  | text
  | path
  | number
  deriving DecidableEq, Repr

def number? (text : String) : Option Nat := (Text.readUnsigned 10 (UInt64.size - 1) text).toOption

def ValueKind.admits (kind : ValueKind) (text : String) : Bool :=
  match kind with
  | .text => true
  | .path => !text.isEmpty
  | .number => (number? text).isSome

namespace OptionName

def long : OptionName → String
  | .help => "help"
  | .version => "version"
  | .verbose => "verbose"
  | .noColor => "no-color"
  | .config => "config"
  | .output => "output"
  | .pid => "pid"
  | .timeout => "timeout"
  | .define => "define"
  | .fast => "fast"
  | .printStrings => "print-strings"
  | .printTags => "print-tags"
  | .negate => "negate"
  | .threads => "threads"
  | .noProgress => "no-progress"
  | .profile => "profile"

def letter? : OptionName → Option Char
  | .help => some 'h'
  | .version => some 'V'
  | .verbose => some 'v'
  | .config => some 'c'
  | .output => some 'o'
  | .timeout => some 't'
  | .define => some 'd'
  | .fast => some 'f'
  | .printStrings => some 's'
  | .printTags => some 'g'
  | .negate => some 'n'
  | .threads => some 'p'
  | .noColor | .pid | .noProgress | .profile => none

def valueKind? : OptionName → Option ValueKind
  | .config | .output => some .path
  | .timeout | .threads => some .number
  | .define => some .text
  | _ => none

def isRepeatable : OptionName → Bool
  | .verbose | .define => true
  | _ => false

end OptionName

structure CommandForm where
  options : List OptionName
  operands : List ValueKind
  /-- The kind of any further operands, if there may be some. -/
  furtherOperands : Option ValueKind

structure Arguments where
  options : List (OptionName × String) := []
  operands : List String := []
  pending : Option (OptionName × ValueKind) := none
  onlyOperands : Bool := false
  deriving DecidableEq, Repr

namespace Arguments

def value? (arguments : Arguments) (name : OptionName) : Option String :=
  arguments.options.lookup name

def has (arguments : Arguments) (name : OptionName) : Bool := (arguments.value? name).isSome

def values (arguments : Arguments) (name : OptionName) : List String :=
  (arguments.options.filter fun (other, _) => other = name).reverse.map Prod.snd

def addOption (arguments : Arguments) (name : OptionName) (value : String) :
    Except Halt Arguments :=
  if name = .help then .error .help
  else if name = .version then .error .version
  else if arguments.has name && !name.isRepeatable then .error .misuse
  else .ok { arguments with options := (name, value) :: arguments.options, pending := none }

def addValue (arguments : Arguments) (name : OptionName) (kind : ValueKind) (value : String) :
    Except Halt Arguments :=
  if kind.admits value then arguments.addOption name value else .error .misuse

def addOperand (form : CommandForm) (arguments : Arguments) (value : String) :
    Except Halt Arguments :=
  let kind? := form.operands[arguments.operands.length]?.or form.furtherOperands
  if kind?.any fun kind => kind.admits value then
    .ok { arguments with operands := value :: arguments.operands }
  else .error .misuse

def addLong (form : CommandForm) (arguments : Arguments) (word : List Char) :
    Except Halt Arguments :=
  let name := String.ofList (word.takeWhile (· != '='))
  match form.options.find? fun option => option.long = name with
  | none => .error .misuse
  | some option =>
    match option.valueKind?, word.dropWhile (· != '=') with
    | none, [] => arguments.addOption option ""
    | none, _ :: _ => .error .misuse
    | some kind, [] => .ok { arguments with pending := some (option, kind) }
    | some kind, _ :: value => arguments.addValue option kind (String.ofList value)

/-- Adds options given by letters. The letters after one that takes a value are the value. -/
def addLetters (form : CommandForm) : Arguments → List Char → Except Halt Arguments
  | arguments, [] => .ok arguments
  | arguments, letter :: rest =>
    match form.options.find? fun option => option.letter? = some letter with
    | none => .error .misuse
    | some option =>
      match option.valueKind?, rest with
      | none, _ =>
        match arguments.addOption option "" with
        | .ok arguments => addLetters form arguments rest
        | .error halt => .error halt
      | some kind, [] => .ok { arguments with pending := some (option, kind) }
      | some kind, '=' :: value => arguments.addValue option kind (String.ofList value)
      | some kind, value => arguments.addValue option kind (String.ofList value)

/-- A word is written as an option, or it is the two dashes. -/
def isOption (word : String) : Bool :=
  match word.toList with
  | '-' :: _ :: _ => true
  | _ => false

def addWord (form : CommandForm) (arguments : Arguments) (word : String) :
    Except Halt Arguments :=
  if arguments.onlyOperands then addOperand form arguments word
  else if isOption word then
    if arguments.pending.isSome then .error .misuse
    else
      match word.toList with
      | ['-', '-'] => .ok { arguments with onlyOperands := true }
      | '-' :: '-' :: name => addLong form arguments name
      | _ :: letters => addLetters form arguments letters
      | [] => .error .misuse
  else
    match arguments.pending with
    | some (option, kind) => arguments.addValue option kind word
    | none => addOperand form arguments word

def readAll (form : CommandForm) : Arguments → List String → Except Halt Arguments
  | arguments, [] => if arguments.pending.isSome then .error .misuse else .ok arguments
  | arguments, word :: words =>
    match addWord form arguments word with
    | .ok arguments => readAll form arguments words
    | .error halt => .error halt

/-- Reads the options before the first operand, and gives the words from there on. -/
def readOptions (form : CommandForm) : Arguments → List String →
    Except Halt (Arguments × List String)
  | arguments, [] => if arguments.pending.isSome then .error .misuse else .ok (arguments, [])
  | arguments, word :: words =>
    if arguments.onlyOperands then .error .misuse
    else if arguments.pending.isNone && !isOption word then .ok (arguments, word :: words)
    else
      match addWord form arguments word with
      | .ok arguments => readOptions form arguments words
      | .error halt => .error halt

end Arguments

end ByteScan.CommandLine
