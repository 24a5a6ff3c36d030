import PipelineShell.Text.Bytes

/-!
# Environment variables

A variable has a name and a value of bytes, and is kept as one entry: the name,
an equals sign, and the value.  A name is found where an entry begins with it
and an equals sign follows.  A variable whose value is not UTF-8 has no text.
-/

namespace PipelineShell

structure Environment where
  bindings : List (Bytes × Bytes)
  deriving DecidableEq, Repr

namespace Environment

def empty : Environment := ⟨[]⟩

def equalsSign : UInt8 := 61

/-- The entry of a variable. -/
def entry (binding : Bytes × Bytes) : Bytes := binding.1 ++ equalsSign :: binding.2

/-- What follows a name and an equals sign in an entry. -/
def valueAfter? (name entry : Bytes) : Option Bytes :=
  if (name ++ [equalsSign]).isPrefixOf entry then some (entry.drop (name.length + 1)) else none

/-- The value of a name.  A name that holds an equals sign can reach into the
value of a variable. -/
def get? (env : Environment) (name : Bytes) : Option Bytes :=
  if name.isEmpty || name.contains 0 then none
  else env.bindings.findSome? fun binding => valueAfter? name (entry binding)

/-- The value of a variable as a text. -/
def text? (env : Environment) (name : String) : Option String :=
  (env.get? (utf8 name)).bind Bytes.text?

def set (env : Environment) (name value : Bytes) : Environment :=
  ⟨(name, value) :: env.bindings.filter (fun v => v.1 != name)⟩

end Environment

end PipelineShell
