import Rollout.Number.Numeral
import Rollout.Path

/-!
# Command line arguments

Options before the command belong to the program, those behind it to the command. A long option
may be shortened as long as it is unambiguous, and may carry its value behind an equals sign;
short options may be joined. What is not understood is bad usage, unless help is asked for first.
-/

set_option autoImplicit false

namespace Rollout.CommandLine

/-- The commands. -/
inductive Command where
  | deploy
  | configure
  | display
deriving DecidableEq, Repr

def Command.name : Command → String
  | deploy => "deploy"
  | configure => "configure"
  | display => "show"

def Command.ofName? (name : String) : Option Command :=
  [deploy, configure, display].find? fun command => command.name = name

/-- The options of the program and of its commands. -/
inductive Key where
  | help
  | chainId
  | lcdUrl
  | registry
  | fetchGasPrices
  | verbose
  | artifacts
  | plan
deriving DecidableEq, Repr

/-- Whether an option takes a value. -/
def Key.takesValue : Key → Bool
  | chainId | lcdUrl | registry | artifacts | plan => true
  | help | fetchGasPrices | verbose => false

abbrev Spellings := List (String × Key)

def programOptions : Spellings :=
  [("-h", .help), ("--help", .help), ("--chain-id", .chainId), ("--lcd-url", .lcdUrl),
    ("--registry", .registry), ("--fetch-gas-prices", .fetchGasPrices), ("-v", .verbose),
    ("--verbose", .verbose)]

def Command.options : Command → Spellings
  | deploy | configure =>
      [("-h", .help), ("--help", .help), ("--artifacts", .artifacts), ("--plan", .plan)]
  | display => [("-h", .help), ("--help", .help)]

/-- What the arguments ask for. -/
structure Options where
  chainId : Option String
  lcdUrl : Option String
  registry : Option Path
  fetchGasPrices : Bool
  verbose : Bool
  command : Command
  artifacts : Option Path
  plan : Option Path
deriving DecidableEq, Repr

/-- What the arguments ask for instead of a command. -/
inductive Refusal where
  | help
  | usage
deriving DecidableEq, Repr

/-- The exit code of a refusal. -/
def Refusal.exitCode : Refusal → Nat
  | help => 0
  | usage => 2

def beginsWith (text start : String) : Bool :=
  start.toList.isPrefixOf text.toList

/-- What is joined to an option: the value of a long one, or the letters of further short
options. An equals sign may stand before either. -/
inductive Joined where
  | value (text : String)
  | letters (text : List Char)
deriving DecidableEq, Repr

/-- What a text behind an option is to it, which was spelled in some way. -/
def Joined.behind (spelling text : String) : Joined :=
  if beginsWith spelling "--" then value text else letters text.toList

/-- What an argument looks like: an option, known or not, with what is joined to it; the mark
behind which there are no options; or a word. -/
inductive Token where
  | option (key : Option Key) (joined : Option Joined)
  | mark
  | word (text : String)
deriving DecidableEq, Repr

/-- Whether an argument looks like a negative number, before at most one line feed. -/
def looksNegative (argument : List Char) : Bool :=
  match argument with
  | '-' :: rest =>
      let body := if rest.getLast? = some '\n' then rest.dropLast else rest
      match Number.spanDigits body with
      | (_ :: _, []) => true
      | (_, '.' :: fraction) =>
          match Number.spanDigits fraction with
          | (_ :: _, []) => true
          | _ => false
      | _ => false
  | _ => false

/-- Splits an argument at its first equals sign. -/
def splitEquals (argument : String) : String × Option String :=
  match argument.toList.span (· != '=') with
  | (_, []) => (argument, none)
  | (before, _ :: after) => (String.ofList before, some (String.ofList after))

/-- The options that a shortened or joined argument may mean. -/
def candidates (spellings : Spellings) (argument : String) : List Token :=
  if beginsWith argument "--" then
    let (start, joined) := splitEquals argument
    (spellings.filter fun entry => beginsWith entry.1 start).map fun entry =>
      .option entry.2 (joined.map .value)
  else
    let short := String.ofList (argument.toList.take 2)
    spellings.filterMap fun entry =>
      if entry.1 = short then some (.option entry.2 (some (.letters (argument.toList.drop 2))))
      else if beginsWith entry.1 argument then some (.option entry.2 none)
      else none

/-- Recognises one argument. One that could mean several options is bad usage. -/
def recognise (spellings : Spellings) (argument : String) : Except Refusal Token :=
  match argument.toList with
  | [] | ['-'] => .ok (.word argument)
  | '-' :: _ =>
      match spellings.lookup argument, splitEquals argument with
      | some key, _ => .ok (.option key none)
      | none, (start, joined) =>
          match (joined.bind fun _ => spellings.lookup start), candidates spellings argument with
          | some key, _ => .ok (.option key (joined.map (.behind start)))
          | none, _ :: _ :: _ => .error .usage
          | none, [found] => .ok found
          | none, [] =>
              if looksNegative argument.toList || argument.toList.contains ' ' then
                .ok (.word argument)
              else .ok (.option none none)
  | _ => .ok (.word argument)

/-- Recognises arguments up to the mark; behind it all are words. -/
def recogniseAll (spellings : Spellings) : List String → Except Refusal (List Token)
  | [] => .ok []
  | "--" :: rest => .ok (.mark :: rest.map .word)
  | argument :: rest => do
      let first ← recognise spellings argument
      let others ← recogniseAll spellings rest
      return first :: others

/-- Options that were read, the last first, each with its value if it takes one. -/
abbrev Settled := List (Key × String)

/-- Settles an option without a value, unless it asks for help. -/
def settleFlag (settled : Settled) (key : Key) : Except Refusal Settled :=
  if key = .help then .error .help else .ok ((key, "") :: settled)

/-- The flags that letters joined to a short option mean. -/
def joinedFlags (spellings : Spellings) (letters : List Char) : Except Refusal (List Key) :=
  letters.mapM fun letter =>
    match spellings.lookup (String.ofList ['-', letter]) with
    | some key => .ok key
    | none => .error .usage

/-- Settles an option with what is joined to it: its value, or further flags, which are all
understood before the first is settled. -/
def settleJoined (spellings : Spellings) (settled : Settled) (key : Key) (joined : Joined) :
    Except Refusal Settled :=
  match joined with
  | .value text => if key.takesValue then .ok ((key, text) :: settled) else .error .usage
  | .letters [] => .error .usage
  | .letters letters => do
      let flags ← joinedFlags spellings letters
      (key :: flags).foldlM settleFlag settled

/-- What scanning ends with: the options, whether an argument was not understood, and the first
word where a command is looked for, with how many arguments are behind it. -/
structure Scanned where
  settled : Settled
  foreign : Bool
  word : Option (String × Nat)

/-- Scans arguments. The program stops at the first word, which names the command; a command
takes no words. -/
def scan (spellings : Spellings) (seeksCommand : Bool) (settled : Settled) (foreign : Bool) :
    List Token → Except Refusal Scanned
  | [] => .ok ⟨settled, foreign, none⟩
  | .option none _ :: rest => scan spellings seeksCommand settled true rest
  | .option (some key) (some joined) :: rest => do
      let settled ← settleJoined spellings settled key joined
      scan spellings seeksCommand settled foreign rest
  | .option (some key) none :: rest =>
      if key.takesValue then
        match rest with
        | .word value :: others =>
            scan spellings seeksCommand ((key, value) :: settled) foreign others
        | _ => .error .usage
      else do
        let settled ← settleFlag settled key
        scan spellings seeksCommand settled foreign rest
  | .mark :: rest =>
      if seeksCommand then .error .usage
      else scan spellings seeksCommand settled true rest
  | .word text :: rest =>
      if seeksCommand then .ok ⟨settled, foreign, some (text, rest.length)⟩
      else scan spellings seeksCommand settled true rest

/-- The value of an option as a path. -/
def pathOf (settled : Settled) (key : Key) : Option Path :=
  (settled.lookup key).map Path.ofString

/-- Reads arguments. What was not understood is refused only after all arguments are read. -/
def parse (arguments : List String) : Except Refusal Options := do
  let tokens ← recogniseAll programOptions arguments
  let program ← scan programOptions true [] false tokens
  match program.word with
  | none => .error .usage
  | some (name, behind) =>
      match Command.ofName? name with
      | none => .error .usage
      | some command =>
          let rest := arguments.drop (arguments.length - behind)
          let tokens ← recogniseAll command.options rest
          let own ← scan command.options false [] false tokens
          if program.foreign || own.foreign then .error .usage
          else
            return {
              chainId := program.settled.lookup .chainId
              lcdUrl := program.settled.lookup .lcdUrl
              registry := pathOf program.settled .registry
              fetchGasPrices := (program.settled.lookup .fetchGasPrices).isSome
              verbose := (program.settled.lookup .verbose).isSome
              command
              artifacts := pathOf own.settled .artifacts
              plan := pathOf own.settled .plan }

end Rollout.CommandLine
