import ModernCommon.Library.Multimap

/-!
# The registry of objects that can be dumped

`DiagnosticDumpRegistry` holds pairs of a name and an object in a multimap
ordered by name. Objects are deregistered without their name: the first entry of
the object in the order of the map is erased. A dump is what it writes and the
objects it calls, in order; it changes nothing.
-/

namespace ModernCommon
namespace Dump

open Library

/-- What a dump sends to `std::cout`, and the objects it calls on the way. -/
inductive Output (Name Object : Type*)
  | text (literal : String)
  | name (name : Name)
  /-- The address of an object, in the form the stream gives it. -/
  | address (object : Object)
  /-- `obj->dump()` -/
  | dump (object : Object)
deriving DecidableEq, Repr

/-- The map of a registry. Names are compared as `std::string`s are, objects by
their addresses. -/
structure DiagnosticDumpRegistry (Name Object : Type*) [LinearOrder Name] where
  map : Multimap Name Object

variable {Name Object : Type*} [LinearOrder Name] [DecidableEq Object]

namespace DiagnosticDumpRegistry

/-- The registry before any call. -/
def initial : DiagnosticDumpRegistry Name Object := ⟨Multimap.empty⟩

/-- One turn of the loops of both dumps. -/
def dumpEntry (entry : Name × Object) : List (Output Name Object) :=
  [.text "- - - - - - - - - - - - - - - -\n",
    .text "Name: \"", .name entry.1, .text "\", object: ", .address entry.2,
    .text "\n",
    .dump entry.2]

/-- The rules above and below the entries. -/
def framed (entries : List (Name × Object)) : List (Output Name Object) :=
  [.text "\n------------------------------------------------\n"] ++
    entries.flatMap dumpEntry ++
      [.text "------------------------------------------------\n"]

/-- `dump()` -/
def dump (registry : DiagnosticDumpRegistry Name Object) : List (Output Name Object) :=
  framed registry.map.entries

/-- `dump(name)` -/
def dumpNamed
    (registry : DiagnosticDumpRegistry Name Object)
    (name : Name) :
    List (Output Name Object) :=
  framed (registry.map.equalRange name)

/-- `registerObject` -/
def registerObject
    (registry : DiagnosticDumpRegistry Name Object)
    (name : Name)
    (obj : Object) :
    DiagnosticDumpRegistry Name Object :=
  ⟨registry.map.emplace name obj⟩

/-- `deregisterObject`: the loop ends at the first entry of the object. -/
def deregisterObject
    (registry : DiagnosticDumpRegistry Name Object)
    (obj : Object) :
    DiagnosticDumpRegistry Name Object :=
  ⟨registry.map.eraseFirst fun entry => entry.2 = obj⟩

/-- `getNumberOfRegisteredObjects` -/
def getNumberOfRegisteredObjects (registry : DiagnosticDumpRegistry Name Object) : Nat :=
  registry.map.entries.length

end DiagnosticDumpRegistry

/-- The calls that change a registry. -/
inductive Call (Name Object : Type*)
  | registerObject (name : Name) (obj : Object)
  | deregisterObject (obj : Object)
deriving DecidableEq, Repr

namespace DiagnosticDumpRegistry

/-- What a call does to the registry. -/
def step (registry : DiagnosticDumpRegistry Name Object) :
    Call Name Object → DiagnosticDumpRegistry Name Object
  | .registerObject name obj => registry.registerObject name obj
  | .deregisterObject obj => registry.deregisterObject obj

/-- The registry after a sequence of calls. -/
def run (calls : List (Call Name Object)) : DiagnosticDumpRegistry Name Object :=
  calls.foldl step initial

@[simp] theorem run_concat
    (calls : List (Call Name Object))
    (call : Call Name Object) :
    run (calls ++ [call]) = (run calls).step call := by
  rw [run, List.foldl_concat, ← run]

end DiagnosticDumpRegistry

/-! ## What a dump calls -/

/-- The objects a dump calls, in order. -/
def dumped (output : List (Output Name Object)) : List Object :=
  output.filterMap fun
    | .dump obj => some obj
    | _ => none

omit [LinearOrder Name] [DecidableEq Object] in
/-- The objects of the entries are called, each as often as it has entries. -/
theorem dumped_framed (entries : List (Name × Object)) :
    dumped (DiagnosticDumpRegistry.framed entries) = entries.map Prod.snd := by
  have ofEntries :
      dumped (entries.flatMap DiagnosticDumpRegistry.dumpEntry) =
        entries.map Prod.snd := by
    induction entries with
    | nil => rfl
    | cons entry entries ih =>
        rw [List.flatMap_cons, dumped, List.filterMap_append]
        exact congrArg (entry.2 :: ·) ih
  rw [dumped, DiagnosticDumpRegistry.framed, List.filterMap_append,
    List.filterMap_append]
  rw [dumped] at ofEntries
  rw [ofEntries]
  simp

end Dump
end ModernCommon
