import As2Exchange.Registry

/-!
# Shared partnerships

A registry gives out the partnerships that it stores. Callers go on to change these, and their own
as well, so it matters where the entries of a partnership lie and who else refers to them. Here
partnerships lie in a memory. `Registry` tells their values alone.

- `Memory` holds lists of entries, and partnerships that refer to them;
- `SharedRegistry` is a registry in memory, with the partnerships that its callers refer to;
- `SharedRegistry.perform` does what a caller asks for, `SharedRegistry.run` does it in a row.
-/

namespace As2Exchange

/-! ## Memory -/

/-- A partnership in memory: its name, and the places of its lists of entries. -/
structure Memory.Record where
  name : String
  senderIds : Nat
  receiverIds : Nat
  attributes : Nat
  deriving DecidableEq, Repr

/-- Lists of entries and partnerships, each at its place. -/
structure Memory where
  entries : List Entries := []
  records : List Memory.Record := []
  deriving DecidableEq, Repr

namespace Memory

/-- The place of one of the lists. -/
def Record.place (record : Record) : Partnership.Section → Nat
  | .senderIds => record.senderIds
  | .receiverIds => record.receiverIds
  | .attributes => record.attributes

/-- The entries at a place. -/
def read (memory : Memory) (place : Nat) : Entries := memory.entries.getD place []

def value (memory : Memory) (record : Record) : Partnership where
  name := record.name
  senderIds := memory.read record.senderIds
  receiverIds := memory.read record.receiverIds
  attributes := memory.read record.attributes

/-- The value that the partnership at a place has now. -/
def value? (memory : Memory) (place : Nat) : Option Partnership :=
  memory.records[place]?.map memory.value

/-- A record whose lists of entries are the next ones. -/
def fresh (memory : Memory) (name : String) : Record :=
  let next := memory.entries.length
  ⟨name, next, next + 1, next + 2⟩

/-- Puts a partnership into memory, with lists of entries of its own. -/
def add (memory : Memory) (p : Partnership) : Nat × Memory :=
  (memory.records.length,
    { entries := memory.entries ++ [p.senderIds, p.receiverIds, p.attributes]
      records := memory.records ++ [memory.fresh p.name] })

/-- Changes one of the lists of the partnership at a place. -/
def edit (memory : Memory) (place : Nat) (part : Partnership.Section) (f : Entries → Entries) :
    Memory :=
  match memory.records[place]? with
  | some record => { memory with entries := memory.entries.modify (record.place part) f }
  | none => memory

/-- Completes one of the lists of a partnership from the list of another one. -/
def fillPart (target source : Nat) (memory : Memory) (part : Partnership.Section) : Memory :=
  match memory.value? source with
  | some p => memory.edit target part (·.fillFrom (p.part part))
  | none => memory

/-- Completes the partnership at a place from the one at another place. -/
def fill (memory : Memory) (target source : Nat) : Memory :=
  Partnership.Section.all.foldl (fillPart target source) memory

end Memory

/-! ## Registries -/

/-- A registry in memory. -/
structure SharedRegistry where
  memory : Memory := {}
  /-- The stored partnerships by name, in the order in which they became known. -/
  known : List (String × Nat) := []
  /-- The partnerships that the callers have made. -/
  own : List Nat := []
  /-- What the lookups gave: the name that was asked for, and the partnership. -/
  given : List (String × Nat) := []
  deriving DecidableEq, Repr

namespace SharedRegistry

/-- How a caller refers to a partnership: to one of his own, or to what a lookup gave. -/
inductive Handle where
  | own (i : Nat)
  | given (i : Nat)
  deriving DecidableEq, Repr

/-- What a caller can ask for. -/
inductive Action where
  /-- Makes a partnership of one's own, with lists of entries that no other one refers to. -/
  | make (p : Partnership)
  | get (handle : Handle)
  | update (handle : Handle)
  | edit (handle : Handle) (part : Partnership.Section) (f : Entries → Entries)

/-- The place that a handle refers to. -/
def place? (shared : SharedRegistry) : Handle → Option Nat
  | .own i => shared.own[i]?
  | .given i => shared.given[i]?.map (·.2)

/-- The value of a partnership that a handle refers to. -/
def value? (shared : SharedRegistry) (handle : Handle) : Option Partnership :=
  (shared.place? handle).bind shared.memory.value?

/-- The stored partnership that goes with a partnership of this value. If its name is new a copy is
added that shares nothing with it. -/
def resolve (shared : SharedRegistry) (p : Partnership) : Nat × SharedRegistry :=
  match shared.known.lookup p.name with
  | some place => (place, shared)
  | none =>
    let (place, memory) := shared.memory.add p
    (place, { shared with memory, known := shared.known ++ [(p.name, place)] })

def perform (shared : SharedRegistry) : Action → SharedRegistry
  | .make p =>
    let (place, memory) := shared.memory.add p
    { shared with memory, own := shared.own ++ [place] }
  | .get handle =>
    match shared.value? handle with
    | some p =>
      let (stored, shared) := shared.resolve p
      { shared with given := shared.given ++ [(p.name, stored)] }
    | none => shared
  | .update handle =>
    match shared.place? handle, shared.value? handle with
    | some place, some p =>
      let (stored, shared) := shared.resolve p
      { shared with memory := shared.memory.fill place stored }
    | _, _ => shared
  | .edit handle part f =>
    match shared.place? handle with
    | some place => { shared with memory := shared.memory.edit place part f }
    | none => shared

def run (shared : SharedRegistry) (actions : List Action) : SharedRegistry :=
  actions.foldl perform shared

end SharedRegistry

end As2Exchange
