/-! Traces: what happened, event by event, and the notes made for a reader on the way. -/
namespace RootFinder

structure Trace (ε : Type) where
  events : List ε
  notes : List String

namespace Trace

variable {ε : Type}

def empty : Trace ε := ⟨[], []⟩

/-- Adds an event, with or without a note; an empty note is none. -/
def add (t : Trace ε) (event : ε) (note : Option String) : Trace ε :=
  ⟨t.events ++ [event], t.notes ++ (note.filter (!·.isEmpty)).toList⟩

@[simp] theorem events_add (t : Trace ε) (event : ε) (note : Option String) :
    (t.add event note).events = t.events ++ [event] := rfl

end Trace

end RootFinder
