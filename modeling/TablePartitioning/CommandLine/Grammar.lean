import TablePartitioning.Text.Basic

/-!
# Reading command lines

A grammar says which options a command line may have, whether it takes plain words, and which
words name a command that the rest belongs to.  A value stands in the word of its option or in the
next one.  A value in a word of its own is looked at only when the next option or plain word comes
or the line is over, so that a later fault may be found first.
-/

namespace TablePartitioning.CommandLine

/-- Why a command line is not carried out. -/
inductive UsageError where
  | helpRequested
  | versionRequested
  /-- There is nothing on the command line at all. -/
  | nothingGiven
  | missingCommand
  | unknownCommand (word : String)
  | unknownArgument (word : String)
  | missingValue (option : String)
  | invalidValue (option value : String)
  /-- An option that may be given once is given twice. -/
  | repeated (option : String)
  /-- An option that takes no value has one. -/
  | unexpectedValue (option : String)
  | missingArgument
deriving DecidableEq

/-- What an option does to the arguments that have been read. -/
inductive Effect (Arguments : Type) where
  | help
  | version
  | flag (isSet : Arguments → Bool) (set : Arguments → Arguments)
  | value (isSet : Arguments → Bool) (store : String → Arguments → Except UsageError Arguments)

/-- An option: its name after two dashes, and its letter after a single one. -/
structure CommandOption (Arguments : Type) where
  long : String
  short : Option Char
  effect : Effect Arguments

/-- What a command line is made of. -/
structure Grammar (Arguments : Type) where
  options : List (CommandOption Arguments)
  /-- What is done with plain words, where there may be any. -/
  store? : Option (String → Arguments → Arguments)
  commands : List String

/-- A word of a command line by its form. -/
inductive Word where
  /-- Two dashes alone, after which there are plain words only. -/
  | dashes
  | long (name : String) (value : Option String)
  | short (letters : List Char)
  | plain

/-- The form of a word. -/
def Word.ofText (text : String) : Word :=
  match text.toList with
  | ['-', '-'] => .dashes
  | '-' :: '-' :: name =>
      match Text.splitCharsOnce? '=' name with
      | some (name, value) => .long (String.ofList name) (some (String.ofList value))
      | none => .long (String.ofList name) none
  | '-' :: letter :: letters => .short (letter :: letters)
  | _ => .plain

/-- A command line that has been read in part. -/
structure Reader (Arguments : Type) where
  arguments : Arguments
  /-- Whether there has been an option. -/
  given : Bool
  /-- The option whose value has not been looked at, with the value if it has been read. -/
  pending : Option (CommandOption Arguments × Option String)
  /-- Two dashes have been read. -/
  trailing : Bool

namespace Reader

/-- Nothing has been read. -/
def initial (arguments : Arguments) : Reader Arguments := ⟨arguments, false, none, false⟩

/-- Whether the next plain word is the value of an option. -/
def awaitsValue (reader : Reader Arguments) : Bool :=
  !reader.trailing &&
    match reader.pending with
    | some (_, none) => true
    | _ => false

/-- Let an option take effect: whether it has its value, then whether it is the first. -/
def take (reader : Reader Arguments) (option : CommandOption Arguments)
    (value : Option String) : Except UsageError (Reader Arguments) :=
  let done (arguments : Arguments) : Reader Arguments :=
    { reader with arguments := arguments, given := true }
  match option.effect, value with
  | .help, _ => .error .helpRequested
  | .version, _ => .error .versionRequested
  | .flag isSet set, _ =>
      if isSet reader.arguments then .error (.repeated option.long)
      else .ok (done (set reader.arguments))
  | .value _ _, none => .error (.missingValue option.long)
  | .value isSet store, some value =>
      if isSet reader.arguments then .error (.repeated option.long)
      else (store value reader.arguments).map done

/-- Let the option take effect whose value has not been looked at. -/
def settle (reader : Reader Arguments) : Except UsageError (Reader Arguments) :=
  match reader.pending with
  | none => .ok reader
  | some (option, value) => { reader with pending := none }.take option value

/-- Whether an option takes a value. -/
def takesValue (option : CommandOption Arguments) : Bool :=
  match option.effect with
  | .value _ _ => true
  | _ => false

/-- An option, with the value that stands in its word. -/
def enter (reader : Reader Arguments) (option : CommandOption Arguments)
    (value : Option String) : Except UsageError (Reader Arguments) :=
  match reader.settle with
  | .error error => .error error
  | .ok reader =>
      if takesValue option && value.isNone then
        .ok { reader with pending := some (option, none), given := true }
      else reader.take option value

end Reader

namespace Grammar

/-- An option by its name. -/
def readLong (grammar : Grammar Arguments) (reader : Reader Arguments) (name : String)
    (value : Option String) : Except UsageError (Reader Arguments) :=
  match grammar.options.find? (·.long = name) with
  | none => .error (.unknownArgument ("--" ++ name))
  | some option =>
      if value.isSome && !Reader.takesValue option then .error (.unexpectedValue name)
      else reader.enter option value

/-- Options by their letters; what follows the first that takes a value is its value. -/
def readShort (grammar : Grammar Arguments) (reader : Reader Arguments) :
    List Char → Except UsageError (Reader Arguments)
  | [] => .ok reader
  | letter :: letters =>
      match grammar.options.find? (·.short = some letter) with
      | none => .error (.unknownArgument (String.ofList ['-', letter]))
      | some option =>
          if Reader.takesValue option then
            match letters with
            | [] => reader.enter option none
            | '=' :: value => reader.enter option (some (String.ofList value))
            | value => reader.enter option (some (String.ofList value))
          else
            match reader.enter option none with
            | .error error => .error error
            | .ok reader => grammar.readShort reader letters

/-- A plain word: the value of an option, or else an argument. -/
def readPlain (grammar : Grammar Arguments) (reader : Reader Arguments) (word : String) :
    Except UsageError (Reader Arguments) :=
  match reader.awaitsValue, reader.pending, grammar.store? with
  | true, some (option, _), _ => .ok { reader with pending := some (option, some word) }
  | _, _, some store =>
      reader.settle.map fun reader =>
        { reader with arguments := store word reader.arguments, given := true }
  | _, _, none =>
      if grammar.commands.isEmpty || (reader.trailing && grammar.commands.contains word) then
        .error (.unknownArgument word)
      else .error (.unknownCommand word)

/-- Read one word. -/
def readWord (grammar : Grammar Arguments) (reader : Reader Arguments) (word : String) :
    Except UsageError (Reader Arguments) :=
  if reader.trailing then grammar.readPlain reader word
  else
    match Word.ofText word with
    | .dashes => .ok { reader with trailing := true }
    | .long name value => grammar.readLong reader name value
    | .short letters => grammar.readShort reader letters
    | .plain => grammar.readPlain reader word

/-- Whether a word names the command that the rest of the line belongs to. -/
def isCommand (grammar : Grammar Arguments) (reader : Reader Arguments) (word : String) : Bool :=
  !reader.trailing && !reader.awaitsValue && grammar.commands.contains word

/-- Read words up to a command, if there is one; it is given with the words after it. -/
def read (grammar : Grammar Arguments) :
    List String → Reader Arguments →
      Except UsageError (Reader Arguments × Option (String × List String))
  | [], reader => .ok (reader, none)
  | word :: rest, reader =>
      if grammar.isCommand reader word then .ok (reader, some (word, rest))
      else
        match grammar.readWord reader word with
        | .error error => .error error
        | .ok reader => grammar.read rest reader

end Grammar

end TablePartitioning.CommandLine
