import ProseCheck.Text.Point

/-!
# Options on a command line

The general form of options: long ones after two hyphens, with a value after an equals sign or as
the next argument; short ones after one hyphen, several in one argument, with a value in the rest of
the argument or as the next one. Two hyphens alone end the options.
-/

namespace ProseCheck.Command

/-- The options that a command knows. -/
structure OptionTable (α : Type) where
  /-- The option with the given letter. -/
  short? : Point → Option α
  /-- The option with the given name. -/
  long? : Str → Option α
  /-- Whether an option has a value. -/
  takesValue : α → Bool

/-- An option with its value, which is empty for an option that takes none. -/
abbrev Given (α : Type) := α × Str

/-- What stands in an argument: options, and perhaps one whose value is the next argument. -/
structure Reading (α : Type) where
  given : List (Given α)
  pending : Option α

/-- What a command line gives: options, and the other arguments. -/
structure Scan (α : Type) where
  given : List (Given α)
  operands : List Str

/-- Reads the letters of short options. -/
def readShort {α : Type} (table : OptionTable α) : Str → Option (Reading α)
  | [] => some ⟨[], none⟩
  | c :: s =>
    match table.short? c with
    | none => none
    | some option =>
      if table.takesValue option then
        some (if s.isEmpty then ⟨[], some option⟩ else ⟨[(option, s)], none⟩)
      else
        (readShort table s).map fun reading =>
          { reading with given := (option, []) :: reading.given }

/-- Reads a long option, after its hyphens. -/
def readLong {α : Type} (table : OptionTable α) (s : Str) : Option (Reading α) :=
  match table.long? (s.takeWhile (· != Point.scalar '=')) with
  | none => none
  | some option =>
    match s.dropWhile (· != Point.scalar '='), table.takesValue option with
    | [], true => some ⟨[], some option⟩
    | [], false => some ⟨[(option, [])], none⟩
    | _ :: value, true => some ⟨[(option, value)], none⟩
    | _ :: _, false => none

/-- Reads an argument that has options: it starts with a hyphen and is more than one. -/
def readOptions {α : Type} (table : OptionTable α) : Str → Option (Reading α)
  | .scalar '-' :: .scalar '-' :: s => readLong table s
  | .scalar '-' :: s => readShort table s
  | _ => none

/-- Whether an argument has options. -/
def hasOptions : Str → Bool
  | .scalar '-' :: _ :: _ => true
  | _ => false

/-- Reads a command line. An option in front of it may still wait for its value. If options are
`interspersed` they may stand between other arguments, else the first other argument ends them. -/
def scan {α : Type} (table : OptionTable α) (interspersed : Bool) :
    (pending : Option α) → List Str → Option (Scan α)
  | some _, [] => none
  | some option, value :: args =>
    (scan table interspersed none args).map fun scan =>
      { scan with given := (option, value) :: scan.given }
  | none, [] => some ⟨[], []⟩
  | none, arg :: args =>
    if arg = "--" then some ⟨[], args⟩
    else if hasOptions arg then
      match readOptions table arg with
      | none => none
      | some reading =>
        (scan table interspersed reading.pending args).map fun scan =>
          { scan with given := reading.given ++ scan.given }
    else if interspersed then
      (scan table interspersed none args).map fun scan =>
        { scan with operands := arg :: scan.operands }
    else some ⟨[], arg :: args⟩

/-- The value of an option: the last one given. -/
def lastValue? {α : Type} [DecidableEq α] (option : α) (given : List (Given α)) : Option Str :=
  (given.reverse.find? fun (other, _) => other = option).map Prod.snd

end ProseCheck.Command
