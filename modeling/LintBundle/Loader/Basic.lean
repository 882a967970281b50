import LintBundle.Naming
import LintBundle.Plugin.Builtin

/-!
# Loader/Basic — where modules come from

A loader answers a specifier with the value a module exports, or with a fault.  It may depend on a
world, and change it: a table of modules notes what it is asked for.  Loaders are put together: the
built-in manifest in front of another loader, a table whose failed look-ups count as missing
modules.

Each loader says how many named configs it can serve, which bounds how deep configs can extend one
another without a circle.
-/

namespace LintBundle

/-- A source of modules. -/
structure Loader (σ : Type) where
  /-- The export of a specifier, in a world. -/
  load : Text → σ → Except Fault Value × σ
  /-- A number no less than that of the named configs the world serves. -/
  bound : σ → Nat

namespace Loader

variable {σ : Type}

/-- The loader that answers by a function alone. -/
def ofFunction (f : Text → Except Fault Value) (bound : Nat) : Loader σ where
  load specifier world := (f specifier, world)
  bound _ := bound

/-- The built-in package in front of another loader; without one, nothing else is found. -/
def builtin (fallback : Option (Loader σ)) : Loader σ where
  load specifier world :=
    if specifier = builtinPackage then (.ok Builtin.manifest, world)
    else
      match fallback with
      | none => (.error (.notFound specifier none), world)
      | some loader => loader.load specifier world
  bound world := Builtin.configCount + fallback.elim 0 fun loader => loader.bound world

/-- A loader whose failed look-ups are reported as modules that are not found. -/
def reportMissing (loader : Loader σ) : Loader σ where
  load specifier world :=
    let (answer, world) := loader.load specifier world
    (answer.mapError fun fault => if fault.isLookup then .notFound specifier none else fault, world)
  bound := loader.bound

end Loader

/-! ## Tables of modules -/

mutual

/-- The number of nodes of a value, which no count of its entries exceeds. -/
def Value.size : Value → Nat
  | .list items | .tuple items | .set items => Value.sizeItems items + 1
  | .map entries => Value.sizeEntries entries + 1
  | .object attributes => Value.sizeAttributes attributes + 1
  | .document rules parents => Value.sizeEntries rules + Value.sizeItems parents + 1
  | .cyclic _ v => Value.size v
  | _ => 1

def Value.sizeItems : List Value → Nat
  | [] => 0
  | v :: rest => Value.size v + Value.sizeItems rest

def Value.sizeEntries : List (Value × Value) → Nat
  | [] => 0
  | (k, v) :: rest => Value.size k + Value.size v + Value.sizeEntries rest

def Value.sizeAttributes : List (String × Value) → Nat
  | [] => 0
  | (_, v) :: rest => Value.size v + Value.sizeAttributes rest

end

/-- Modules by specifier, and the specifiers asked for so far. -/
structure Modules where
  entries : List (Text × Except Fault Value)
  requested : List Text

namespace Modules

/-- The module of a specifier. -/
def find (modules : Modules) (specifier : Text) : Option (Except Fault Value) :=
  (modules.entries.find? fun (name, _) => name = specifier).map Prod.snd

/-- The number of nodes of all exports. -/
def size (modules : Modules) : Nat :=
  modules.entries.foldr (fun (_, entry) total => (entry.toOption.elim 0 Value.size) + total) 0

end Modules

/-- The loader of a table of modules, which notes every specifier it is asked for. -/
def Loader.modules : Loader Modules where
  load specifier modules :=
    let answer := (modules.find specifier).getD (.error (.noModule specifier))
    (answer, { modules with requested := modules.requested ++ [specifier] })
  bound := Modules.size

end LintBundle
