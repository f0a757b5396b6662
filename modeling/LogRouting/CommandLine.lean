import LogRouting.Level
import LogRouting.Text.Search

/-!
The command line: one of three commands with its options. The arguments are read one by one; the value of an
option is checked when the next option or the end comes, so of several faults the first one met is told.
-/

namespace LogRouting

inductive Command
  | emit (config : Option String) (level : Level) (category message : String) (params : List String)
      (force : Bool)
  | relay (config : Option String) (level : Level) (category : String)
  | check (config : Option String)
deriving DecidableEq

namespace CommandLine

inductive UsageError
  | displayHelp
  | displayHelpOnMissing
  | missingSubcommand
  | invalidSubcommand
  | unknownArgument
  | missingRequiredArgument
  | invalidValue
  | valueValidation
  | argumentConflict
  | tooManyValues
deriving DecidableEq

namespace UsageError

def kind : UsageError → String
  | .displayHelp => "DisplayHelp"
  | .displayHelpOnMissing => "DisplayHelpOnMissingArgumentOrSubcommand"
  | .missingSubcommand => "MissingSubcommand"
  | .invalidSubcommand => "InvalidSubcommand"
  | .unknownArgument => "UnknownArgument"
  | .missingRequiredArgument => "MissingRequiredArgument"
  | .invalidValue => "InvalidValue"
  | .valueValidation => "ValueValidation"
  | .argumentConflict => "ArgumentConflict"
  | .tooManyValues => "TooManyValues"

def exitCode (e : UsageError) : Nat := if e = .displayHelp then 0 else 2

end UsageError

inductive Opt
  | config
  | level
  | category
  | param
  | force
  | help
deriving DecidableEq

namespace Opt

def long : Opt → String
  | .config => "config"
  | .level => "level"
  | .category => "category"
  | .param => "param"
  | .force => "force"
  | .help => "help"

def short? : Opt → Option Char
  | .level => some 'l'
  | .category => some 'c'
  | .param => some 'p'
  | .help => some 'h'
  | .config | .force => none

def takesValue : Opt → Bool
  | .force | .help => false
  | _ => true

end Opt

structure Grammar where
  options : List Opt
  message : Bool
  commands : Bool

inductive Verb
  | emit
  | relay
  | check
deriving DecidableEq

def Verb.ofName? : String → Option Verb
  | "emit" => some .emit
  | "relay" => some .relay
  | "check" => some .check
  | _ => none

def top : Grammar := ⟨[.config, .help], false, true⟩

def Verb.grammar : Verb → Grammar
  | .emit => ⟨[.config, .level, .category, .param, .force, .help], true, false⟩
  | .relay => ⟨[.config, .level, .category, .help], false, false⟩
  | .check => ⟨[.config, .help], false, false⟩

structure Given where
  config : Option String := none
  level : Option Level := none
  category : Option String := none
  params : List String := []
  force : Bool := false
  message : Option String := none

inductive Pending
  | nothing
  | option (o : Opt) (value : Option String)
  | message (s : String)

structure Progress where
  given : Given := {}
  pending : Pending := .nothing
  /-- Whether everything is taken for a message, after two dashes. -/
  literal : Bool := false

def Given.setOnce {α : Type} (old : Option α) (new : Given) : Except UsageError Given :=
  if old.isSome then .error .argumentConflict else .ok new

def Given.set (g : Given) (o : Opt) (value : Option String) : Except UsageError Given :=
  match o, value with
  | .help, _ => .error .displayHelp
  | .force, _ => if g.force then .error .argumentConflict else .ok { g with force := true }
  | _, none => .error .invalidValue
  | .param, some v => .ok { g with params := g.params ++ [v] }
  | .category, some v => Given.setOnce g.category { g with category := some v }
  | .config, some v =>
    if g.config.isSome then .error .argumentConflict
    else if v = "" then .error .invalidValue
    else .ok { g with config := some v }
  | .level, some v =>
    if g.level.isSome then .error .argumentConflict
    else
      match Level.parse? v with
      | some l => .ok { g with level := some l }
      | none => .error .valueValidation

namespace Progress

def settle (p : Progress) : Except UsageError Progress :=
  match p.pending with
  | .nothing => .ok p
  | .message s => .ok { p with given := { p.given with message := some s }, pending := .nothing }
  | .option o value => do return { p with given := ← p.given.set o value, pending := .nothing }

def take (p : Progress) (o : Opt) (value : Option String) : Except UsageError Progress := do
  let p ← p.settle
  if o.takesValue ∧ value = none then return { p with pending := .option o none }
  else return { p with given := ← p.given.set o value }

def waiting? (p : Progress) : Option Opt :=
  match p.pending with
  | .option o none => some o
  | _ => none

def long (g : Grammar) (p : Progress) (name : String) (value : Option String) : Except UsageError Progress :=
  match g.options.find? (·.long = name) with
  | none => .error .unknownArgument
  | some o => if !o.takesValue ∧ value.isSome then .error .tooManyValues else p.take o value

/-- Letters of options after one dash; the rest after an option with a value is that value. -/
def short (g : Grammar) (p : Progress) : List Char → Except UsageError Progress
  | [] => .ok p
  | c :: rest =>
    match g.options.find? (·.short? = some c) with
    | none => .error .unknownArgument
    | some o =>
      if o.takesValue then
        match rest with
        | [] => p.take o none
        | '=' :: value => p.take o (some (String.ofList value))
        | value => p.take o (some (String.ofList value))
      else do
        let p ← p.take o none
        short g p rest

def plain (g : Grammar) (p : Progress) (arg : String) : Except UsageError Progress :=
  match g.message, p.pending, p.given.message with
  | true, .message _, _ => .error .unknownArgument
  | true, _, some _ => .error .unknownArgument
  | true, _, none => do return { ← p.settle with pending := .message arg }
  | false, _, _ =>
    if g.commands ∧ ¬ (p.literal ∧ ((Verb.ofName? arg).isSome ∨ arg = "help")) then .error .invalidSubcommand
    else .error .unknownArgument

def step (g : Grammar) (p : Progress) (arg : String) : Except UsageError Progress :=
  if p.literal then p.plain g arg
  else
    match arg.toList with
    | ['-', '-'] => .ok { p with literal := true }
    | '-' :: '-' :: name =>
      match Text.splitAt? '=' name with
      | some (name, value) => p.long g (String.ofList name) (some (String.ofList value))
      | none => p.long g (String.ofList name) none
    | '-' :: c :: rest => p.short g (c :: rest)
    | _ =>
      match p.waiting? with
      | some o => .ok { p with pending := .option o (some arg) }
      | none => p.plain g arg

def readAll (g : Grammar) : Progress → List String → Except UsageError (Progress × Option (String × List String))
  | p, [] => .ok (p, none)
  | p, arg :: args =>
    if g.commands ∧ ¬ p.literal ∧ p.waiting? = none ∧ ((Verb.ofName? arg).isSome ∨ arg = "help") then
      .ok (p, some (arg, args))
    else
      match p.step g arg with
      | .ok p => readAll g p args
      | .error e => .error e

end Progress

def readOptions (v : Verb) (args : List String) : Except UsageError Given := do
  let (p, _) ← Progress.readAll v.grammar {} args
  let p ← p.settle
  if v = .emit ∧ p.given.message = none then .error .missingRequiredArgument else return p.given

def Verb.command (v : Verb) (outer inner : Given) : Command :=
  let config := inner.config.or outer.config
  match v with
  | .emit => .emit config (inner.level.getD .info) (inner.category.getD "app") (inner.message.getD "")
      inner.params inner.force
  | .relay => .relay config (inner.level.getD .info) (inner.category.getD "stdin")
  | .check => .check config

def parse (args : List String) : Except UsageError Command := do
  let (p, command) ← Progress.readAll top {} args
  match command with
  | none =>
    let p ← p.settle
    if p.given.config = none then .error .displayHelpOnMissing else .error .missingSubcommand
  | some (name, rest) =>
    match Verb.ofName? name with
    | some v =>
      let inner ← readOptions v rest
      let p ← p.settle
      return v.command p.given inner
    | none =>
      match rest with
      | [] => .error .displayHelp
      | [topic] =>
        if (Verb.ofName? topic).isSome ∨ topic = "help" then .error .displayHelp else .error .invalidSubcommand
      | _ => .error .invalidSubcommand

end CommandLine
end LogRouting
