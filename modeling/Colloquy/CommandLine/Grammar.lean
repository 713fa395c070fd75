/-! # Options among arguments

How a list of arguments is taken apart into uses of options and positional arguments. A long option
may carry its value behind an equals sign; short options may be written together, the last of them
with its value; a value that is not attached is the next argument, whatever that is. Two dashes
alone end the options.
-/
set_option autoImplicit false

namespace Colloquy.CommandLine

structure OptionForm (κ : Type) where
  key : κ
  long : String
  short : Option Char := none
  takesValue : Bool := false

inductive Item (κ : Type) where
  | flag (key : κ)
  | value (key : κ) (text : String)
  | positional (text : String)
deriving Repr

/-- What one argument says when it is read as options: flags, and possibly an option with a value,
which is the next argument unless it is attached. -/
structure OptionUse (κ : Type) where
  flags : List κ := []
  valued : Option (κ × Option String) := none

variable {κ : Type}

def splitAtEquals (cs : List Char) : List Char × Option (List Char) :=
  (cs.takeWhile (· ≠ '='), match cs.dropWhile (· ≠ '=') with
    | [] => none
    | _ :: rest => some rest)

def findLong? (forms : List (OptionForm κ)) (name : List Char) : Option (OptionForm κ) :=
  forms.find? fun f => "--".toList ++ f.long.toList = name

def cluster? (forms : List (OptionForm κ)) : List Char → Option (OptionUse κ)
  | [] => some {}
  | c :: rest =>
    match forms.find? fun f => f.short == some c with
    | none => none
    | some f =>
      if f.takesValue then
        let attached := if rest.isEmpty then none else some (String.ofList rest)
        some { valued := some (f.key, attached) }
      else (cluster? forms rest).map fun u => { u with flags := f.key :: u.flags }

/-- An argument that begins with a dash. It is a long option if there is one of its name; only with
a single dash can it be short options. -/
def optionUse? (forms : List (OptionForm κ)) (arg : List Char) : Option (OptionUse κ) :=
  let (name, attached) := splitAtEquals arg
  match findLong? forms name with
  | some f =>
    if f.takesValue then some { valued := some (f.key, attached.map String.ofList) }
    else if attached.isNone then some { flags := [f.key] }
    else none
  | none =>
    match arg with
    | '-' :: '-' :: _ => none
    | _ => cluster? forms arg.tail

def isOptional (arg : String) : Bool :=
  match arg.toList with
  | '-' :: _ :: _ => true
  | _ => false

def OptionUse.items (u : OptionUse κ) : List (Item κ) :=
  u.flags.map .flag ++ match u.valued with
    | some (key, some text) => [.value key text]
    | _ => []

def OptionUse.awaiting (u : OptionUse κ) : Option κ :=
  match u.valued with
  | some (key, none) => some key
  | _ => none

/-- The items of an argument list behind an option that awaits its value, or nothing where options
are not used as they have to be. -/
def itemsAfter? (forms : List (OptionForm κ)) : Option κ → List String → Option (List (Item κ))
  | none, [] => some []
  | some _, [] => none
  | some key, text :: rest => (itemsAfter? forms none rest).map (.value key text :: ·)
  | none, arg :: rest =>
    if arg = "--" then some (rest.map .positional)
    else if isOptional arg then
      match optionUse? forms arg.toList with
      | some use => (itemsAfter? forms use.awaiting rest).map (use.items ++ ·)
      | none => none
    else (itemsAfter? forms none rest).map (.positional arg :: ·)

def items? (forms : List (OptionForm κ)) (args : List String) : Option (List (Item κ)) :=
  itemsAfter? forms none args

end Colloquy.CommandLine
