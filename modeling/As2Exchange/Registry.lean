import As2Exchange.Partnership

/-!
# Registries of partnerships

The partnerships that a session knows, each under its name. A partnership that is asked for and not
yet known is added as it is given; what is stored afterwards is a copy of its own.
-/

namespace As2Exchange

/-- The known partnerships by name, in the order in which they became known. -/
structure Registry where
  stored : List (String × Partnership) := []
  deriving DecidableEq, Repr

namespace Registry

def find? (registry : Registry) (name : String) : Option Partnership :=
  registry.stored.lookup name

/-- The stored partnership that goes with a partnership, which is added if its name is new. -/
def resolve (registry : Registry) (p : Partnership) : Partnership × Registry :=
  match registry.find? p.name with
  | some stored => (stored, registry)
  | none => (p, ⟨registry.stored ++ [(p.name, p)]⟩)

/-- Changes the stored partnership with a name. -/
def modify (registry : Registry) (name : String) (f : Partnership → Partnership) : Registry :=
  ⟨registry.stored.map fun entry => if entry.1 = name then (entry.1, f entry.2) else entry⟩

/-- Completes a partnership from the stored one of its name. -/
def complete (registry : Registry) (p : Partnership) : Partnership × Registry :=
  let (stored, registry) := registry.resolve p
  (p.fillFrom stored, registry)

/-- Makes several partnerships known. -/
def learn (registry : Registry) (known : List Partnership) : Registry :=
  known.foldl (fun registry p => (registry.resolve p).2) registry

end Registry

end As2Exchange
